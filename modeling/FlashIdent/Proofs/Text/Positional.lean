import Mathlib.Data.List.Forall2
import Mathlib.Data.Nat.Digits.Defs
import Mathlib.Tactic.Ring
import FlashIdent.Proofs.Text.Numeral
import FlashIdent.Text.Hex

/-!
# Numerals in positional notation

Which texts are numerals, and of which number, said without a reader: the characters are those that a digit is
written with, and the number is the sum of the digits times the powers of the base.  `denotes_iff` says that the
digit loop finds exactly this number, so what is read within a limit is a numeral whose number is within the limit,
and nothing else.

On top of this stand the two forms in which numbers are given: hexadecimal behind a mark or else decimal, and
hexadecimal with or without a mark.  `Malformed` lists the near misses, which have neither form.
-/

namespace FlashIdent.Text

namespace Numeral

/-- The character is a digit of the base, a small or a capital letter above nine, and stands for `d`. -/
def IsDigit (base : Nat) (c : Char) (d : Nat) : Prop := d < base ∧ ∃ letters, c = Hex.digit letters d

/-- The characters are digits of the base, the highest first, and `n` is their number. -/
def Writes (base : Nat) (digits : List Char) (n : Nat) : Prop :=
  ∃ ds, List.Forall₂ (IsDigit base) digits ds ∧ n = Nat.ofDigits base ds.reverse

/-- What may stand before the digits. -/
def signs : List (List Char) := [[], ['+']]

/-- The text is an optional plus sign and one or more digits, whose number is `n`. -/
def Positional (base : Nat) (text : List Char) (n : Nat) : Prop :=
  ∃ sign ∈ signs, ∃ digits, digits ≠ [] ∧ text = sign ++ digits ∧ Writes base digits n

/-! ### Digits -/

theorem digitValue_digit {base d : Nat} (hbase : base ≤ 16) (hd : d < base) (letters : Hex.Letters) :
    digitValue base (Hex.digit letters d) = some d := by
  have hall : ∀ d : Fin 16, digitValue 16 (Hex.digit letters d) = some d.val := by
    cases letters with
    | small => decide
    | capital => decide
  have hsixteen : digitValue 16 (Hex.digit letters d) = some d := hall ⟨d, Nat.lt_of_lt_of_le hd hbase⟩
  rw [digitValue, Option.filter_eq_some_iff] at hsixteen ⊢
  exact ⟨hsixteen.1, by simpa using hd⟩

theorem isDigit_of_digitValue {base d : Nat} {c : Char} (h : digitValue base c = some d) :
    IsDigit base c d := by
  rw [digitValue, Option.filter_eq_some_iff, decide_eq_true_eq] at h
  obtain ⟨hvalue, hd⟩ := h
  refine ⟨hd, ?_⟩
  have hback : ∀ n, n = c.toNat → Char.ofNat n = c := by
    rintro n rfl
    exact c.ofNat_toNat
  split at hvalue
  · rename_i hrange
    have hlow : 48 ≤ c.toNat := hrange.1
    have hhigh : c.toNat ≤ 57 := hrange.2
    have hsum : c.toNat - 48 = d := Option.some.inj hvalue
    refine ⟨.small, ?_⟩
    rw [Hex.digit, if_pos (by omega), hback _ (by omega)]
  · split at hvalue
    · rename_i hrange
      have hlow : 97 ≤ c.toNat := hrange.1
      have hsum : c.toNat - 87 = d := Option.some.inj hvalue
      refine ⟨.small, ?_⟩
      rw [Hex.digit, if_neg (by omega)]
      exact (hback _ (by omega)).symm
    · split at hvalue
      · rename_i hrange
        have hlow : 65 ≤ c.toNat := hrange.1
        have hsum : c.toNat - 55 = d := Option.some.inj hvalue
        refine ⟨.capital, ?_⟩
        rw [Hex.digit, if_neg (by omega)]
        exact (hback _ (by omega)).symm
      · cases hvalue

theorem digitValue_eq_some_iff {base d : Nat} (hbase : base ≤ 16) {c : Char} :
    digitValue base c = some d ↔ IsDigit base c d := by
  constructor
  · exact isDigit_of_digitValue
  · rintro ⟨hd, letters, rfl⟩
    exact digitValue_digit hbase hd letters

/-- A character is one digit at most. -/
theorem IsDigit.unique {base d d' : Nat} (hbase : base ≤ 16) {c : Char} (h : IsDigit base c d)
    (h' : IsDigit base c d') : d = d' := by
  rw [← digitValue_eq_some_iff hbase] at h h'
  exact Option.some.inj (h.symm.trans h')

/-! ### The number of the digits -/

/-- Digits read after a value shift it by as many places. -/
theorem valueAfter?_eq_some_iff {base n : Nat} (hbase : base ≤ 16) {digits : List Char} {value : Nat} :
    valueAfter? base value digits = some n ↔
      ∃ ds, List.Forall₂ (IsDigit base) digits ds ∧ n = value * base ^ ds.length + Nat.ofDigits base ds.reverse := by
  induction digits generalizing value with
  | nil => simp [valueAfter?, List.forall₂_nil_left_iff, eq_comm]
  | cons c rest ih =>
    rcases hd : digitValue base c with _ | d
    · simp only [valueAfter?, hd]
      constructor
      · intro h
        cases h
      · rintro ⟨_, hdigits, _⟩
        obtain ⟨d, _, hc, _, _⟩ := List.forall₂_cons_left_iff.mp hdigits
        rw [← digitValue_eq_some_iff hbase, hd] at hc
        cases hc
    · have hc : IsDigit base c d := (digitValue_eq_some_iff hbase).mp hd
      have hshift : ∀ ds : List Nat, (value * base + d) * base ^ ds.length + Nat.ofDigits base ds.reverse =
          value * base ^ (d :: ds).length + Nat.ofDigits base (d :: ds).reverse := by
        intro ds
        rw [List.reverse_cons, Nat.ofDigits_append, Nat.ofDigits_singleton, List.length_reverse,
          List.length_cons]
        ring
      simp only [valueAfter?, hd]
      rw [ih]
      constructor
      · rintro ⟨ds, hrest, rfl⟩
        exact ⟨d :: ds, .cons hc hrest, hshift ds⟩
      · rintro ⟨_, hdigits, rfl⟩
        obtain ⟨d', ds, hc', hrest, rfl⟩ := List.forall₂_cons_left_iff.mp hdigits
        obtain rfl := hc.unique hbase hc'
        exact ⟨ds, hrest, (hshift ds).symm⟩

theorem denotes_iff {base n : Nat} (hbase : base ≤ 16) {text : List Char} :
    Denotes base text n ↔ Positional base text n := by
  have hwrites : ∀ digits, valueAfter? base 0 digits = some n ↔ Writes base digits n := by
    intro digits
    rw [valueAfter?_eq_some_iff hbase, Writes]
    simp only [Nat.zero_mul, Nat.zero_add]
  simp only [Denotes, Positional, signs, hwrites]

theorem read_eq_ok_iff_positional {base limit n : Nat} (hpos : 0 < base) (hbase : base ≤ 16)
    {text : List Char} : read base limit text = .ok n ↔ Positional base text n ∧ n ≤ limit := by
  rw [read_eq_ok_iff hpos, denotes_iff hbase]

theorem Positional.unique {base n m : Nat} (hpos : 0 < base) (hbase : base ≤ 16) {text : List Char}
    (hn : Positional base text n) (hm : Positional base text m) : n = m :=
  ((denotes_iff hbase).mpr hn).unique hpos ((denotes_iff hbase).mpr hm)

/-! ### Which characters there are -/

/-- Every character that can stand in a numeral. -/
def characters : List Char := "+0123456789abcdefABCDEF".toList

theorem IsDigit.mem_characters {base d : Nat} (hbase : base ≤ 16) {c : Char} (h : IsDigit base c d) :
    c ∈ characters := by
  obtain ⟨hd, letters, rfl⟩ := h
  have hall : ∀ d : Fin 16, Hex.digit letters d ∈ characters := by
    cases letters with
    | small => decide
    | capital => decide
  exact hall ⟨d, Nat.lt_of_lt_of_le hd hbase⟩

theorem Writes.digits {base n : Nat} {digits : List Char} (h : Writes base digits n) :
    ∀ c ∈ digits, ∃ d, IsDigit base c d := by
  obtain ⟨ds, hdigits, -⟩ := h
  intro c hc
  induction hdigits with
  | nil => exact absurd hc List.not_mem_nil
  | @cons _ d _ _ hfirst _ ih =>
    rcases List.mem_cons.mp hc with rfl | hrest
    · exact ⟨d, hfirst⟩
    · exact ih hrest

theorem mem_characters_of_isDigit {sign digits : List Char} (hsign : sign ∈ signs)
    (hdigits : ∀ c ∈ digits, ∃ d, IsDigit 16 c d) : ∀ c ∈ sign ++ digits, c ∈ characters := by
  have hall : ∀ sign ∈ signs, sign ⊆ characters := by decide
  intro c hc
  rcases List.mem_append.mp hc with hc | hc
  · exact hall sign hsign hc
  · obtain ⟨d, hd⟩ := hdigits c hc
    exact hd.mem_characters (Nat.le_refl 16)

theorem Positional.mem_characters {base n : Nat} (hbase : base ≤ 16) {text : List Char}
    (h : Positional base text n) : ∀ c ∈ text, c ∈ characters := by
  obtain ⟨sign, hsign, digits, -, rfl, hwrites⟩ := h
  refine mem_characters_of_isDigit hsign ?_
  intro c hc
  obtain ⟨d, hd, hletters⟩ := hwrites.digits c hc
  exact ⟨d, Nat.lt_of_lt_of_le hd hbase, hletters⟩

/-- A decimal numeral is also written in the digits of hexadecimal ones, though it then has another number. -/
theorem Positional.hexadecimal {n : Nat} {text : List Char} (h : Positional 10 text n) :
    ∃ m, Positional 16 text m := by
  obtain ⟨sign, hsign, digits, hne, rfl, ds, hdigits, -⟩ := h
  have hwider : List.Forall₂ (IsDigit 16) digits ds := by
    refine hdigits.imp ?_
    rintro c d ⟨hd, hc⟩
    exact ⟨by omega, hc⟩
  exact ⟨_, sign, hsign, digits, hne, rfl, ds, hwider, rfl⟩

theorem not_isDigit_plus {base : Nat} (hbase : base ≤ 16) (d : Nat) : ¬ IsDigit base '+' d := by
  rw [← digitValue_eq_some_iff hbase]
  simp [digitValue]

/-- A sign, or nothing, is not yet a numeral. -/
theorem not_positional_sign {base n : Nat} (hbase : base ≤ 16) {sign : List Char} (hsign : sign ∈ signs) :
    ¬ Positional base sign n := by
  rintro ⟨first, -, digits, hne, hcut, hwrites⟩
  have hall : ∀ sign ∈ signs, sign ⊆ ['+'] := by decide
  obtain ⟨c, rest, rfl⟩ := List.exists_cons_of_ne_nil hne
  obtain ⟨d, hd⟩ := hwrites.digits c List.mem_cons_self
  have hmem : c ∈ sign := by simp [hcut]
  rw [List.mem_singleton.mp (hall sign hsign hmem)] at hd
  exact not_isDigit_plus hbase d hd

/-! ### Zeros in front -/

theorem read_sign {base limit : Nat} {sign digits : List Char} (hsign : sign ∈ signs) (hne : digits ≠ [])
    (hdigits : ∀ c ∈ digits, ∃ d, IsDigit 16 c d) :
    read base limit (sign ++ digits) = readDigits base limit 0 digits := by
  simp only [signs, List.mem_cons, List.not_mem_nil, or_false] at hsign
  rcases hsign with rfl | rfl
  · refine read_digits hne ?_
    intro hhead
    obtain ⟨d, hd⟩ := hdigits '+' (List.mem_of_head? hhead)
    exact not_isDigit_plus (Nat.le_refl 16) d hd
  · exact read_signed hne

theorem readDigits_zeros {base : Nat} (hpos : 0 < base) (limit k : Nat) (digits : List Char) :
    readDigits base limit 0 (List.replicate k '0' ++ digits) = readDigits base limit 0 digits := by
  have hzero : digitValue base '0' = some 0 := by simp [digitValue, Option.filter, hpos]
  induction k with
  | zero => rfl
  | succ k ih => simpa [List.replicate_succ, readDigits, hzero] using ih

theorem isDigit_of_mem_zeros {digits : List Char} (hdigits : ∀ c ∈ digits, ∃ d, IsDigit 16 c d) (k : Nat) :
    ∀ c ∈ List.replicate k '0' ++ digits, ∃ d, IsDigit 16 c d := by
  intro c hc
  rcases List.mem_append.mp hc with hc | hc
  · rw [List.eq_of_mem_replicate hc]
    exact ⟨0, by decide, .small, rfl⟩
  · exact hdigits c hc

theorem read_zeros {base : Nat} (hpos : 0 < base) (limit k : Nat) {sign digits : List Char} (hsign : sign ∈ signs)
    (hne : digits ≠ []) (hdigits : ∀ c ∈ digits, ∃ d, IsDigit 16 c d) :
    read base limit (sign ++ (List.replicate k '0' ++ digits)) = read base limit (sign ++ digits) := by
  rw [read_sign hsign (List.append_ne_nil_of_right_ne_nil _ hne) (isDigit_of_mem_zeros hdigits k),
    read_sign hsign hne hdigits, readDigits_zeros hpos]

/-! ### Marks -/

/-- A mark has a letter that no numeral has. -/
theorem exists_stray_of_mark {mark : List Char} (hmark : mark ∈ hexMarks) : ∃ c ∈ mark, c ∉ characters := by
  have hall : ∀ mark ∈ hexMarks, ¬ mark ⊆ characters := by decide
  simpa [List.subset_def] using hall mark hmark

theorem not_positional_of_mark {base n : Nat} (hbase : base ≤ 16) {mark : List Char} (hmark : mark ∈ hexMarks)
    (before after : List Char) : ¬ Positional base (before ++ (mark ++ after)) n := by
  intro h
  obtain ⟨c, hc, hstray⟩ := exists_stray_of_mark hmark
  exact hstray (h.mem_characters hbase c (by simp [hc]))

theorem afterHexMark?_eq_none {text : List Char} (h : ∀ c ∈ text, c ∈ characters) : afterHexMark? text = none := by
  rw [Option.eq_none_iff_forall_ne_some]
  intro rest hrest
  obtain ⟨mark, hmark, rfl⟩ := afterHexMark?_eq_some_iff.mp hrest
  obtain ⟨c, hc, hstray⟩ := exists_stray_of_mark hmark
  exact hstray (h c (List.mem_append_left rest hc))

theorem afterHexMark?_mark {mark : List Char} (hmark : mark ∈ hexMarks) (rest : List Char) :
    afterHexMark? (mark ++ rest) = some rest :=
  afterHexMark?_eq_some_iff.mpr ⟨mark, hmark, rfl⟩

end Numeral

/-! ### The two forms of numbers -/

open Numeral

/-- A hexadecimal numeral behind a mark, or else a decimal one. -/
def MarkedOrDecimal (text : List Char) (n : Nat) : Prop :=
  (∃ mark ∈ hexMarks, ∃ rest, text = mark ++ rest ∧ Positional 16 rest n) ∨
    (∀ mark ∈ hexMarks, ¬ mark <+: text) ∧ Positional 10 text n

/-- A hexadecimal numeral behind a mark or without one. -/
def Hexadecimal (text : List Char) (n : Nat) : Prop :=
  ∃ mark ∈ [] :: hexMarks, ∃ rest, text = mark ++ rest ∧ Positional 16 rest n

/-- Texts that come near to a number: nothing after the mark or the sign, a sign before the mark, a mark behind
the mark, and a character of no use, such as a blank, an underscore, a minus sign or a digit beyond ASCII. -/
inductive Malformed : List Char → Prop
  | bare {mark sign : List Char} (hmark : mark ∈ [] :: hexMarks) (hsign : sign ∈ signs) : Malformed (mark ++ sign)
  | signBeforeMark {mark : List Char} (hmark : mark ∈ hexMarks) (rest : List Char) : Malformed ('+' :: (mark ++ rest))
  | doubledMark {mark second : List Char} (hmark : mark ∈ hexMarks) (hsecond : second ∈ hexMarks)
    (rest : List Char) : Malformed (mark ++ (second ++ rest))
  | stray {text : List Char} {c : Char} (hmem : c ∈ text) (hstray : c ∉ 'x' :: 'X' :: characters) : Malformed text

theorem MarkedOrDecimal.unique {text : List Char} {n m : Nat} (hn : MarkedOrDecimal text n)
    (hm : MarkedOrDecimal text m) : n = m := by
  rcases hn with ⟨mark, hmark, rest, rfl, hrest⟩ | ⟨hunmarked, hdecimal⟩
  · rcases hm with ⟨mark', hmark', rest', hcut, hrest'⟩ | ⟨hunmarked, -⟩
    · have hafter := afterHexMark?_mark hmark rest
      rw [hcut, afterHexMark?_mark hmark'] at hafter
      rw [Option.some.inj hafter] at hrest'
      exact hrest.unique (by decide) (by decide) hrest'
    · exact absurd (List.prefix_append mark rest) (hunmarked mark hmark)
  · rcases hm with ⟨mark, hmark, rest, rfl, -⟩ | ⟨-, hdecimal'⟩
    · exact absurd (List.prefix_append mark rest) (hunmarked mark hmark)
    · exact hdecimal.unique (by decide) (by decide) hdecimal'

theorem hexadecimal_iff {text : List Char} {n : Nat} :
    Hexadecimal text n ↔ Positional 16 ((afterHexMark? text).getD text) n := by
  have hbase : 16 ≤ 16 := Nat.le_refl 16
  simp only [Hexadecimal, ← denotes_iff hbase]
  exact exists_mark_iff

theorem Hexadecimal.unique {text : List Char} {n m : Nat} (hn : Hexadecimal text n) (hm : Hexadecimal text m) :
    n = m := by
  rw [hexadecimal_iff] at hn hm
  exact hn.unique (by decide) (by decide) hm

theorem hexByte_iff_hexadecimal {text : List Char} {b : UInt8} : HexByte text b ↔ Hexadecimal text b.toNat := by
  rw [hexByte_iff, hexadecimal_iff, denotes_iff (Nat.le_refl 16)]

theorem MarkedOrDecimal.hexadecimal {text : List Char} {n : Nat} (h : MarkedOrDecimal text n) :
    ∃ m, Hexadecimal text m := by
  rcases h with ⟨mark, hmark, rest, rfl, hrest⟩ | ⟨-, hdecimal⟩
  · exact ⟨n, mark, List.mem_cons_of_mem _ hmark, rest, rfl, hrest⟩
  · obtain ⟨m, hm⟩ := hdecimal.hexadecimal
    exact ⟨m, [], List.mem_cons_self, text, rfl, hm⟩

theorem Malformed.not_hexadecimal {text : List Char} (h : Malformed text) (n : Nat) : ¬ Hexadecimal text n := by
  rintro ⟨mark, hmark, rest, hcut, hrest⟩
  -- all marks have two characters, so the cut is where the text has it
  have hlength : ∀ mark ∈ hexMarks, mark.length = 2 := by decide
  have hplus : ∀ mark ∈ hexMarks, ∀ rest, mark ++ rest ≠ '+' :: text.tail := by
    intro mark hmark rest hhead
    simp only [hexMarks, List.mem_cons, List.not_mem_nil, or_false] at hmark
    rcases hmark with rfl | rfl <;> simp at hhead
  cases h with
  | @bare first sign hfirst hsign =>
    rcases List.mem_cons.mp hfirst with rfl | hfirst <;> rcases List.mem_cons.mp hmark with rfl | hmark
    · obtain rfl : sign = rest := hcut
      exact not_positional_sign (by decide) hsign hrest
    · have hlong := congrArg List.length hcut
      have hshort : sign.length ≤ 1 := (by decide : ∀ sign ∈ signs, sign.length ≤ 1) sign hsign
      simp [hlength mark hmark] at hlong
      omega
    · obtain rfl : first ++ sign = rest := hcut
      exact not_positional_of_mark (by decide) hfirst [] sign hrest
    · obtain ⟨-, rfl⟩ := List.append_inj hcut ((hlength first hfirst).trans (hlength mark hmark).symm)
      exact not_positional_sign (by decide) hsign hrest
  | @signBeforeMark second hsecond later =>
    rcases List.mem_cons.mp hmark with rfl | hmark
    · obtain rfl : '+' :: (second ++ later) = rest := hcut
      exact not_positional_of_mark (by decide) hsecond ['+'] later hrest
    · exact hplus mark hmark rest hcut.symm
  | @doubledMark first second hfirst hsecond later =>
    rcases List.mem_cons.mp hmark with rfl | hmark
    · obtain rfl : first ++ (second ++ later) = rest := hcut
      exact not_positional_of_mark (by decide) hfirst [] _ hrest
    · obtain ⟨-, rfl⟩ := List.append_inj hcut ((hlength first hfirst).trans (hlength mark hmark).symm)
      exact not_positional_of_mark (by decide) hsecond [] later hrest
  | @stray _ c hmem hstray =>
    rw [hcut] at hmem
    rcases List.mem_append.mp hmem with hmem | hmem
    · have hall : ∀ mark ∈ [] :: hexMarks, mark ⊆ 'x' :: 'X' :: characters := by decide
      exact hstray (hall mark hmark hmem)
    · exact hstray (List.mem_cons_of_mem _ (List.mem_cons_of_mem _ (hrest.mem_characters (by decide) c hmem)))

end FlashIdent.Text
