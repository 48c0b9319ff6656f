import FlashIdent.Files.Tree

/-!
# The manual pages

Which pages there are, where they are written, and what is said once they are there.  The directory is made
first, with all that is missing around it; if it cannot be made or a page cannot be written, the cause is all
that is said.
-/

namespace FlashIdent.Manual

/-- The page of the program, then one for each command in the order in which commands are listed. -/
def pages : List String :=
  ["norprobe", "norprobe-probe", "norprobe-list-programmers", "norprobe-list-chips"]

def file (page : String) : String := page ++ ".1"

/-- The directory that is used when none is named. -/
def standardDirectory : String := "man"

/-- A file in a directory; no second slash is put after one that is there, and none after an empty name. -/
def inDirectory (directory name : String) : String :=
  match directory.toList.getLast? with
  | none => name
  | some '/' => directory ++ name
  | some _ => directory ++ "/" ++ name

/-- The lines that tell where the pages are and how to use them. -/
def announcement (directory : String) : List String :=
  ["Man pages generated in " ++ directory ++ ":"] ++
  pages.map (fun page => "  " ++ inDirectory directory (file page)) ++
  ["", "To view the man page:", "  man -l " ++ inDirectory directory (file "norprobe"),
    "", "To install system-wide (requires sudo):",
    "  sudo cp " ++ directory ++ "/*.1 /usr/local/share/man/man1/", "  sudo mandb"]

def output (directory : String) : String := Text.ofLines (announcement directory)

def generate (directory : String) : Action Files.Tree (Except Files.Error Unit) := do
  match ← Files.makeAll directory with
  | .error e => return .error e
  | .ok () => Files.writeAll (pages.map fun page => inDirectory directory (file page))

/-- What is left of a run: the texts on both outputs, and what the directory holds. -/
structure Completed where
  status : Nat
  output : String
  errors : String
  names : List String
deriving DecidableEq

def run (directory : Option String) (tree : Files.Tree) : Completed :=
  let directory := directory.getD standardDirectory
  let outcome := (generate directory).run tree
  let names := outcome.state.namesAt directory
  match outcome.value with
  | .ok () => ⟨0, output directory, "", names⟩
  | .error e => ⟨1, "", "Error: " ++ e.text ++ "\n", names⟩

end FlashIdent.Manual
