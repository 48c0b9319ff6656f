import FlashIdent.Text.Split

/-!
# Paths

A path is walked step by step, from the root or from the working directory.  Slashes that follow each other
count as one, and a slash at the end makes no step.
-/

namespace FlashIdent.Files

/-- One step of a path. -/
inductive Step where
  /-- Stays where it is. -/
  | here
  /-- Goes to the directory around. -/
  | up
  | name (name : String)
deriving DecidableEq

/-- The step that a piece between slashes stands for. -/
def Step.ofChars : List Char → Step
  | ['.'] => here
  | ['.', '.'] => up
  | piece => name (String.ofList piece)

/-- Where a path begins, and its steps. -/
structure Path where
  absolute : Bool
  steps : List Step
deriving DecidableEq

namespace Path

def ofString (s : String) : Path where
  absolute := s.toList.head? == some '/'
  steps := ((Text.splitAll '/' s.toList).filter fun piece => !piece.isEmpty).map Step.ofChars

/-- The beginnings of a list of steps, the shortest first, without the empty one. -/
def beginnings : List Step → List (List Step)
  | [] => []
  | step :: rest => [step] :: (beginnings rest).map fun steps => step :: steps

/-- A path and the paths around it, from the inside to the outside.  Steps that go nowhere are no directories
of their own, so a path that ends in one is followed by the path around the directory it means. -/
def chain (p : Path) : List Path :=
  p :: (beginnings (p.steps.filter fun step => step != .here)).dropLast.reverse.map fun steps =>
    { p with steps := steps }

end Path

end FlashIdent.Files
