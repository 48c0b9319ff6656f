/-!
# Sets of characters

A set is given by its boundaries in ascending order: the first boundary begins a range of members, the second
ends it, the third begins the next, and so on.  A character is a member exactly when an odd count of
boundaries lies at or below it.
-/

namespace FlashIdent.Text

/-- Each number is below the next. -/
def isAscending : List Nat → Bool
  | first :: second :: later => decide (first < second) && isAscending (second :: later)
  | _ => true

/-- A set of characters by its boundaries. -/
structure CharSet where
  boundaries : List Nat
  ascending : isAscending boundaries = true := by decide +kernel

namespace CharSet

/-- Membership. -/
def contains (set : CharSet) (c : Char) : Bool :=
  (set.boundaries.takeWhile fun boundary => decide (boundary ≤ c.toNat)).length % 2 == 1

end CharSet

end FlashIdent.Text
