import FlashIdent.Text.CaseMap
import FlashIdent.Text.CharSet.Cased
import FlashIdent.Text.CharSet.CaseIgnorable

/-!
# Small letters and text found in text

`lowercase` writes a text in small letters.  Two characters need more than the map of single letters.  A
capital sigma becomes the final form at the end of a word, that is after a letter and not before one, where
marks and apostrophes are passed over on both sides.  The capital I with a dot becomes an i and the combining
dot.  Because of the first, the small form of a part need not be a part of the small form of the whole.

`occursIn` looks for one text as a contiguous part of another.
-/

namespace FlashIdent.Text

/-- The nearest character that is not passed over is a letter with a case. -/
def startsCased (cs : List Char) : Bool :=
  match cs.dropWhile CharSet.caseIgnorable.contains with
  | [] => false
  | c :: _ => CharSet.cased.contains c

/-- The small form of `c` between the text before it, nearest character first, and the text after it. -/
def lowerBetween (before : List Char) (c : Char) (after : List Char) : List Char :=
  if c = '\u03a3' then
    if startsCased before && !startsCased after then ['\u03c2'] else ['\u03c3']
  else if c = '\u0130' then ['i', '\u0307']
  else [simpleLower c]

/-- Writes the rest of a text in small letters; `before` is the text already passed, nearest character first. -/
def lowerAfter (before : List Char) : List Char → List Char
  | [] => []
  | c :: after => lowerBetween before c after ++ lowerAfter (c :: before) after

/-- A text in small letters. -/
def lowercase (cs : List Char) : List Char := lowerAfter [] cs

/-- `part` stands in `whole` without a gap. -/
def occursIn (part : List Char) : List Char → Bool
  | [] => part.isEmpty
  | c :: rest => part.isPrefixOf (c :: rest) || occursIn part rest

/-- Capitals and small letters are not told apart. -/
def occursInIgnoringCase (part whole : String) : Bool :=
  occursIn (lowercase part.toList) (lowercase whole.toList)

theorem occursIn_iff {part whole : List Char} : occursIn part whole = true ↔ part <:+: whole := by
  induction whole with
  | nil => simp [occursIn]
  | cons c rest ih =>
    rw [occursIn, Bool.or_eq_true, List.isPrefixOf_iff_prefix, ih, List.infix_cons_iff]

end FlashIdent.Text
