/-!
# Columns

Text filled up with blanks to a column's width, counted in characters.  Text that is wider than its column is
kept whole.
-/

namespace FlashIdent.Text.Column

/-- The blanks that `s` lacks to `width` characters. -/
def blanks (width : Nat) (s : String) : String := String.ofList (List.replicate (width - s.length) ' ')

def left (width : Nat) (s : String) : String := s ++ blanks width s

def right (width : Nat) (s : String) : String := blanks width s ++ s

end FlashIdent.Text.Column
