/-!
# Bounded numerals

A numeral is an optional plus sign and one or more digits; its value must not pass a limit.  Digits are read
from the left with the value kept in range at every step, so a numeral of any length is read without ever
holding a number above the limit, and the first thing that goes wrong decides the answer.

`readDigits_eq_ok_iff` ties the loop to the value of the digits: it answers `n` exactly when all characters are
digits, `n` is their value and `n` is within the limit.
-/

namespace FlashIdent.Text.Numeral

/-- What is wrong with a numeral. -/
inductive Problem where
  /-- No character at all. -/
  | empty
  /-- A character that is no digit, or a sign alone. -/
  | invalidDigit
  /-- The value passes the limit. -/
  | tooLarge
deriving DecidableEq

def Problem.message : Problem → String
  | .empty => "cannot parse integer from empty string"
  | .invalidDigit => "invalid digit found in string"
  | .tooLarge => "number too large to fit in target type"

/-- The value of a digit of either case, if it is below the base. -/
def digitValue (base : Nat) (c : Char) : Option Nat :=
  let value :=
    if '0' ≤ c ∧ c ≤ '9' then some (c.toNat - 48)
    else if 'a' ≤ c ∧ c ≤ 'z' then some (c.toNat - 87)
    else if 'A' ≤ c ∧ c ≤ 'Z' then some (c.toNat - 55)
    else none
  value.filter fun d => decide (d < base)

/-- Reads digits after a value that is already known. -/
def readDigits (base limit : Nat) : Nat → List Char → Except Problem Nat
  | value, [] => .ok value
  | value, c :: rest =>
    match digitValue base c with
    | none => .error .invalidDigit
    | some d =>
      if value * base + d ≤ limit then readDigits base limit (value * base + d) rest else .error .tooLarge

/-- Reads a numeral.  A sign alone is a bad digit, not an empty text. -/
def read (base limit : Nat) : List Char → Except Problem Nat
  | [] => .error .empty
  | ['+'] => .error .invalidDigit
  | '+' :: digits => readDigits base limit 0 digits
  | digits => readDigits base limit 0 digits

/-- The text after a mark `0x` or `0X`, if it starts with one. -/
def afterHexMark? : List Char → Option (List Char)
  | '0' :: 'x' :: rest => some rest
  | '0' :: 'X' :: rest => some rest
  | _ => none

/-! ### The value of a list of digits -/

/-- The value of digits read after a value, without any limit; `none` if one is no digit. -/
def valueAfter? (base : Nat) : Nat → List Char → Option Nat
  | value, [] => some value
  | value, c :: rest =>
    match digitValue base c with
    | none => none
    | some d => valueAfter? base (value * base + d) rest

theorem le_of_valueAfter?_eq_some {base value n : Nat} (hb : 0 < base) {cs : List Char}
    (h : valueAfter? base value cs = some n) : value ≤ n := by
  induction cs generalizing value with
  | nil => simpa [valueAfter?] using Nat.le_of_eq (Option.some.inj h)
  | cons c rest ih =>
    rcases hd : digitValue base c with _ | d
    · simp [valueAfter?, hd] at h
    · simp only [valueAfter?, hd] at h
      have hstep : value ≤ value * base := Nat.le_mul_of_pos_right value hb
      have := ih h
      omega

theorem readDigits_eq_ok_iff {base limit value n : Nat} (hb : 0 < base) {cs : List Char}
    (hv : value ≤ limit) :
    readDigits base limit value cs = .ok n ↔ valueAfter? base value cs = some n ∧ n ≤ limit := by
  induction cs generalizing value with
  | nil =>
    simp only [readDigits, valueAfter?, Except.ok.injEq, Option.some.injEq]
    constructor
    · rintro rfl
      exact ⟨rfl, hv⟩
    · exact fun h => h.1
  | cons c rest ih =>
    rcases hd : digitValue base c with _ | d
    · simp [readDigits, valueAfter?, hd]
    · simp only [readDigits, valueAfter?, hd]
      by_cases hl : value * base + d ≤ limit
      · rw [if_pos hl, ih hl]
      · rw [if_neg hl]
        constructor
        · intro h
          cases h
        · rintro ⟨h, hn⟩
          exact absurd (Nat.le_trans (le_of_valueAfter?_eq_some hb h) hn) hl

end FlashIdent.Text.Numeral
