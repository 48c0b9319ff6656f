import FlashIdent.Text.CharSet

/-!
# Blanks

The characters with the Unicode property White_Space, and text without them at its ends.
-/

namespace FlashIdent.Text

/-- The white space: controls that lay out text, spaces of every width, and the separators of lines and
paragraphs. -/
def CharSet.blank : CharSet where
  boundaries := [
    0x9, 0xe, 0x20, 0x21, 0x85, 0x86, 0xa0, 0xa1, 0x1680, 0x1681, 0x2000, 0x200b, 0x2028, 0x202a,
    0x202f, 0x2030, 0x205f, 0x2060, 0x3000, 0x3001]

def isBlank (c : Char) : Bool := CharSet.blank.contains c

def trim (text : List Char) : List Char := ((text.dropWhile isBlank).reverse.dropWhile isBlank).reverse

end FlashIdent.Text
