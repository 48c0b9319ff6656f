import FlashIdent.Text.Numeral

/-!
# What numerals denote

A numeral is an optional plus sign and one or more digits, and denotes the value of the digits.  Reading answers
the value exactly where the text is a numeral and the value is within the limit.

A byte in hexadecimal may have a mark in front, which no digit can be mistaken for.
-/

namespace FlashIdent.Text

namespace Numeral

/-- The text is an optional plus sign and one or more digits, whose value is `n`. -/
def Denotes (base : Nat) (text : List Char) (n : Nat) : Prop :=
  ∃ sign ∈ [[], ['+']], ∃ digits, digits ≠ [] ∧ text = sign ++ digits ∧ valueAfter? base 0 digits = some n

theorem valueAfter?_plus (base value : Nat) (rest : List Char) : valueAfter? base value ('+' :: rest) = none := rfl

theorem read_digits {base limit : Nat} {digits : List Char} (hne : digits ≠ [])
    (hplus : digits.head? ≠ some '+') : read base limit digits = readDigits base limit 0 digits := by
  unfold read
  split
  · exact absurd rfl hne
  · exact absurd rfl hplus
  · exact absurd rfl hplus
  · rfl

theorem read_signed {base limit : Nat} {digits : List Char} (hne : digits ≠ []) :
    read base limit ('+' :: digits) = readDigits base limit 0 digits := by
  cases digits with
  | nil => exact absurd rfl hne
  | cons c rest => rfl

theorem read_eq_ok_iff {base limit n : Nat} (hb : 0 < base) {text : List Char} :
    read base limit text = .ok n ↔ Denotes base text n ∧ n ≤ limit := by
  have hdigits : ∀ {digits}, readDigits base limit 0 digits = .ok n ↔
      valueAfter? base 0 digits = some n ∧ n ≤ limit :=
    readDigits_eq_ok_iff hb (Nat.zero_le limit)
  constructor
  · intro hread
    by_cases hplus : text.head? = some '+'
    · obtain ⟨digits, rfl⟩ : ∃ digits, text = '+' :: digits := List.head?_eq_some_iff.mp hplus
      have hne : digits ≠ [] := by
        rintro rfl
        cases hread
      rw [read_signed hne, hdigits] at hread
      exact ⟨⟨['+'], by simp, digits, hne, rfl, hread.1⟩, hread.2⟩
    · have hne : text ≠ [] := by
        rintro rfl
        cases hread
      rw [read_digits hne hplus, hdigits] at hread
      exact ⟨⟨[], by simp, text, hne, rfl, hread.1⟩, hread.2⟩
  · rintro ⟨⟨sign, hsign, digits, hne, rfl, hvalue⟩, hlimit⟩
    have hread : readDigits base limit 0 digits = .ok n := hdigits.mpr ⟨hvalue, hlimit⟩
    simp only [List.mem_cons, List.not_mem_nil, or_false] at hsign
    rcases hsign with rfl | rfl
    · have hplus : digits.head? ≠ some '+' := by
        intro hhead
        obtain ⟨rest, rfl⟩ := List.head?_eq_some_iff.mp hhead
        rw [valueAfter?_plus] at hvalue
        cases hvalue
      rw [List.nil_append, read_digits hne hplus, hread]
    · rw [List.singleton_append, read_signed hne, hread]

/-- A text denotes at most one number. -/
theorem Denotes.unique {base n m : Nat} (hb : 0 < base) {text : List Char} (hn : Denotes base text n)
    (hm : Denotes base text m) : n = m := by
  have hreadn : read base (max n m) text = .ok n := (read_eq_ok_iff hb).mpr ⟨hn, Nat.le_max_left n m⟩
  have hreadm : read base (max n m) text = .ok m := (read_eq_ok_iff hb).mpr ⟨hm, Nat.le_max_right n m⟩
  rw [hreadn] at hreadm
  exact Except.ok.inj hreadm

/-! ### The mark of hexadecimal numerals -/

def hexMarks : List (List Char) := [['0', 'x'], ['0', 'X']]

theorem afterHexMark?_eq_some_iff {text rest : List Char} :
    afterHexMark? text = some rest ↔ ∃ mark ∈ hexMarks, text = mark ++ rest := by
  unfold afterHexMark? hexMarks
  split
  · simp [eq_comm]
  · simp [eq_comm]
  · rename_i hsmall hcapital
    constructor
    · intro h
      cases h
    · rintro ⟨mark, hmark, rfl⟩
      simp only [List.mem_cons, List.not_mem_nil, or_false] at hmark
      rcases hmark with rfl | rfl
      · exact absurd rfl (hsmall rest)
      · exact absurd rfl (hcapital rest)

/-- The letter of a mark is no digit. -/
theorem not_denotes_marked {mark : List Char} (hmark : mark ∈ hexMarks) (rest : List Char) (n : Nat) :
    ¬ Denotes 16 (mark ++ rest) n := by
  intro hdenotes
  have hread : read 16 n (mark ++ rest) = .ok n :=
    (read_eq_ok_iff (by decide)).mpr ⟨hdenotes, Nat.le_refl n⟩
  simp only [hexMarks, List.mem_cons, List.not_mem_nil, or_false] at hmark
  rcases hmark with rfl | rfl
  · simp [read, readDigits, digitValue, Option.filter] at hread
  · simp [read, readDigits, digitValue, Option.filter] at hread

/-- With or without a mark: the numeral is what follows the mark if there is one. -/
theorem exists_mark_iff {text : List Char} {n : Nat} :
    (∃ mark ∈ [] :: hexMarks, ∃ rest, text = mark ++ rest ∧ Denotes 16 rest n) ↔
      Denotes 16 ((afterHexMark? text).getD text) n := by
  constructor
  · rintro ⟨mark, hmark, rest, rfl, hdenotes⟩
    rcases List.mem_cons.mp hmark with rfl | hmark
    · have hunmarked : afterHexMark? rest = none := by
        rw [Option.eq_none_iff_forall_ne_some]
        intro digits hdigits
        obtain ⟨mark, hmark, rfl⟩ := afterHexMark?_eq_some_iff.mp hdigits
        exact not_denotes_marked hmark digits n hdenotes
      rw [List.nil_append, hunmarked]
      exact hdenotes
    · rw [afterHexMark?_eq_some_iff.mpr ⟨mark, hmark, rfl⟩]
      exact hdenotes
  · intro hdenotes
    rcases hmark : afterHexMark? text with _ | rest
    · rw [hmark] at hdenotes
      exact ⟨[], List.mem_cons_self, text, rfl, hdenotes⟩
    · rw [hmark] at hdenotes
      obtain ⟨mark, hmem, rfl⟩ := afterHexMark?_eq_some_iff.mp hmark
      exact ⟨mark, List.mem_cons_of_mem _ hmem, rest, rfl, hdenotes⟩

end Numeral

/-- The text is a byte in hexadecimal, with or without a mark in front. -/
def HexByte (text : List Char) (b : UInt8) : Prop :=
  ∃ mark ∈ [] :: Numeral.hexMarks, ∃ rest, text = mark ++ rest ∧ Numeral.Denotes 16 rest b.toNat

theorem hexByte_iff {text : List Char} {b : UInt8} :
    HexByte text b ↔ Numeral.Denotes 16 ((Numeral.afterHexMark? text).getD text) b.toNat :=
  Numeral.exists_mark_iff

theorem HexByte.unique {text : List Char} {a b : UInt8} (ha : HexByte text a) (hb : HexByte text b) : a = b := by
  rw [hexByte_iff] at ha hb
  exact UInt8.toNat_inj.mp (ha.unique (by decide) hb)

end FlashIdent.Text
