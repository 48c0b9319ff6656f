import FlashIdent.CommandLine.Arguments
import FlashIdent.Proofs.Emulator.OptionMeaning
import FlashIdent.Proofs.Text.Positional

/-!
# Numbers that users write

Numbers come from users in two places: time bounds on the command line, and the bytes of an emulated chip.  A time
bound is a word, hexadecimal behind a mark and else decimal; a byte is hexadecimal with or without a mark.  Both
readers take exactly the numerals of their form whose number is in range, and answer that number.
-/

namespace FlashIdent

open CommandLine (NumberError readNumber)
open Emulator.Settings (readByte)
open Text (Hexadecimal Malformed MarkedOrDecimal)
open Text.Numeral

/-! ### Words -/

namespace CommandLine

/-- Reads a word in one base. -/
def readWord (base : Nat) (text : List Char) : Except Problem UInt32 :=
  (Text.Numeral.read base 4294967295 text).map UInt32.ofNat

theorem readWord_eq_ok_iff {base : Nat} (hpos : 0 < base) (hbase : base ≤ 16) {text : List Char} {n : UInt32} :
    readWord base text = .ok n ↔ Positional base text n.toNat := by
  have hlimit : n.toNat ≤ 4294967295 := Nat.le_of_lt_succ n.toNat_lt
  have hread : ∀ {m}, Text.Numeral.read base 4294967295 text = .ok m ↔ Positional base text m ∧ m ≤ 4294967295 :=
    read_eq_ok_iff_positional hpos hbase
  rw [readWord, ← and_iff_left (a := Positional base text n.toNat) hlimit, ← hread]
  rcases hdigits : Text.Numeral.read base 4294967295 text with problem | m
  · simp [Except.map]
  · have hvalue : (UInt32.ofNat m).toNat = m :=
      UInt32.toNat_ofNat_of_lt' (Nat.lt_succ_of_le (hread.mp hdigits).2)
    simp only [Except.map, Except.ok.injEq, ← UInt32.toNat_inj, hvalue]

/-- The base hangs on the mark, and so does the wording of an error. -/
theorem readNumber_eq (text : List Char) :
    readNumber text =
      match afterHexMark? text with
      | some digits => (readWord 16 digits).mapError (NumberError.mk true)
      | none => (readWord 10 text).mapError (NumberError.mk false) := by
  rw [readNumber]
  rcases afterHexMark? text with _ | digits
  · rcases hread : Text.Numeral.read 10 4294967295 text with problem | m <;>
      simp [readWord, hread, Except.map, Except.mapError]
  · rcases hread : Text.Numeral.read 16 4294967295 digits with problem | m <;>
      simp [readWord, hread, Except.map, Except.mapError]

theorem mapError_eq_ok_iff {ε ε' α : Type} {f : ε → ε'} {reading : Except ε α} {a : α} :
    reading.mapError f = .ok a ↔ reading = .ok a := by
  cases reading <;> simp [Except.mapError]

theorem readNumber_eq_ok_iff {text : List Char} {n : UInt32} :
    readNumber text = .ok n ↔ MarkedOrDecimal text n.toNat := by
  rw [readNumber_eq]
  rcases hmark : afterHexMark? text with _ | digits
  · have hunmarked : ∀ mark ∈ hexMarks, ¬ mark <+: text := by
      rintro mark hmem ⟨rest, rfl⟩
      rw [afterHexMark?_mark hmem] at hmark
      cases hmark
    rw [mapError_eq_ok_iff, readWord_eq_ok_iff (by decide) (by decide)]
    constructor
    · intro hdecimal
      exact Or.inr ⟨hunmarked, hdecimal⟩
    · rintro (⟨mark, hmem, rest, rfl, _⟩ | ⟨_, hdecimal⟩)
      · exact absurd (List.prefix_append mark rest) (hunmarked mark hmem)
      · exact hdecimal
  · obtain ⟨mark, hmem, rfl⟩ := afterHexMark?_eq_some_iff.mp hmark
    rw [mapError_eq_ok_iff, readWord_eq_ok_iff (by decide) (by decide)]
    constructor
    · intro hdigits
      exact Or.inl ⟨mark, hmem, digits, rfl, hdigits⟩
    · rintro (⟨mark', hmem', rest, hcut, hrest⟩ | ⟨hunmarked, _⟩)
      · rw [hcut, afterHexMark?_mark hmem'] at hmark
        rwa [← Option.some.inj hmark]
      · exact absurd (List.prefix_append mark digits) (hunmarked mark hmem)

theorem exists_readNumber_iff {text : List Char} {n : Nat} :
    (∃ w, readNumber text = .ok w ∧ w.toNat = n) ↔ MarkedOrDecimal text n ∧ n ≤ 4294967295 := by
  constructor
  · rintro ⟨w, hread, rfl⟩
    exact ⟨readNumber_eq_ok_iff.mp hread, Nat.le_of_lt_succ w.toNat_lt⟩
  · rintro ⟨hnumber, hlimit⟩
    have hvalue : (UInt32.ofNat n).toNat = n := UInt32.toNat_ofNat_of_lt' (Nat.lt_succ_of_le hlimit)
    exact ⟨.ofNat n, readNumber_eq_ok_iff.mpr (hvalue.symm ▸ hnumber), hvalue⟩

theorem readNumber_rejects {text : List Char} (h : ∀ n ≤ 4294967295, ¬ MarkedOrDecimal text n) :
    ∃ e, readNumber text = .error e := by
  rcases hread : readNumber text with e | w
  · exact ⟨e, rfl⟩
  · obtain ⟨hnumber, hlimit⟩ := exists_readNumber_iff.mp ⟨w, hread, rfl⟩
    exact absurd hnumber (h _ hlimit)

end CommandLine

/-! ### Bytes -/

namespace Emulator.Settings

theorem readByte_eq_ok_iff {key value : String} {b : UInt8} :
    readByte key value = .ok b ↔ Hexadecimal value.toList b.toNat := by
  rw [← Text.hexByte_iff_hexadecimal]
  constructor
  · exact hexByte_of_readByte
  · intro h
    exact readByte_of_hexByte h key

theorem exists_readByte_iff {key value : String} {n : Nat} :
    (∃ b, readByte key value = .ok b ∧ b.toNat = n) ↔ Hexadecimal value.toList n ∧ n ≤ 255 := by
  constructor
  · rintro ⟨b, hread, rfl⟩
    exact ⟨readByte_eq_ok_iff.mp hread, Nat.le_of_lt_succ b.toNat_lt⟩
  · rintro ⟨hnumber, hlimit⟩
    have hvalue : (UInt8.ofNat n).toNat = n := UInt8.toNat_ofNat_of_lt' (Nat.lt_succ_of_le hlimit)
    exact ⟨.ofNat n, readByte_eq_ok_iff.mpr (hvalue.symm ▸ hnumber), hvalue⟩

theorem readByte_rejects {value : String} (h : ∀ n ≤ 255, ¬ Hexadecimal value.toList n) (key : String) :
    readByte key value = .error (.invalidByte key value) := by
  rcases hread : readByte key value with e | b
  · rw [readByte_error hread]
  · obtain ⟨hnumber, hlimit⟩ := exists_readByte_iff.mp ⟨b, hread, rfl⟩
    exact absurd hnumber (h _ hlimit)

/-- The value shows in the error, so only what is read can be compared. -/
theorem toOption_readByte (key value : String) :
    (readByte key value).toOption =
      ((Text.Numeral.read 16 255 ((afterHexMark? value.toList).getD value.toList)).map UInt8.ofNat).toOption := by
  rw [readByte]
  rcases Text.Numeral.read 16 255 ((afterHexMark? value.toList).getD value.toList) with problem | n <;> rfl

end Emulator.Settings

/-! ### Zeros in front -/

section Zeros

variable {mark sign digits : List Char}

theorem readNumber_zeros (hmark : mark ∈ [] :: hexMarks) (hsign : sign ∈ signs) (hne : digits ≠ [])
    (hdigits : ∀ c ∈ digits, ∃ d, IsDigit 16 c d) (k : Nat) :
    readNumber (mark ++ (sign ++ (List.replicate k '0' ++ digits))) = readNumber (mark ++ (sign ++ digits)) := by
  have hword : ∀ base, 0 < base → CommandLine.readWord base (sign ++ (List.replicate k '0' ++ digits)) =
      CommandLine.readWord base (sign ++ digits) := by
    intro base hpos
    rw [CommandLine.readWord, read_zeros hpos _ k hsign hne hdigits, CommandLine.readWord]
  rw [CommandLine.readNumber_eq, CommandLine.readNumber_eq]
  rcases List.mem_cons.mp hmark with rfl | hmark
  · have hplain := afterHexMark?_eq_none (mem_characters_of_isDigit hsign hdigits)
    have hpadded := afterHexMark?_eq_none (mem_characters_of_isDigit hsign (isDigit_of_mem_zeros hdigits k))
    simp only [List.nil_append, hplain, hpadded, hword 10 (by decide)]
  · simp only [afterHexMark?_mark hmark, hword 16 (by decide)]

theorem readByte_zeros (hmark : mark ∈ [] :: hexMarks) (hsign : sign ∈ signs) (hne : digits ≠ [])
    (hdigits : ∀ c ∈ digits, ∃ d, IsDigit 16 c d) (k : Nat) (key : String) :
    (readByte key (.ofList (mark ++ (sign ++ (List.replicate k '0' ++ digits))))).toOption =
      (readByte key (.ofList (mark ++ (sign ++ digits)))).toOption := by
  have hread : Text.Numeral.read 16 255 (sign ++ (List.replicate k '0' ++ digits)) =
      Text.Numeral.read 16 255 (sign ++ digits) := read_zeros (by decide) 255 k hsign hne hdigits
  rw [Emulator.Settings.toOption_readByte, Emulator.Settings.toOption_readByte, String.toList_ofList,
    String.toList_ofList]
  rcases List.mem_cons.mp hmark with rfl | hmark
  · have hplain := afterHexMark?_eq_none (mem_characters_of_isDigit hsign hdigits)
    have hpadded := afterHexMark?_eq_none (mem_characters_of_isDigit hsign (isDigit_of_mem_zeros hdigits k))
    simp only [List.nil_append, hplain, hpadded, Option.getD_none, hread]
  · simp only [afterHexMark?_mark hmark, Option.getD_some, hread]

end Zeros

/-! ### Both readers -/

/-- Numbers are read exactly as they are written.  A word is read if the text is a hexadecimal numeral behind a mark
or else a decimal one, and a byte if it is a hexadecimal numeral with or without a mark; the number is that of the
digits, and one that is too large is refused.  Zeros before the digits change nothing.  A text that only comes near
to a number is refused. -/
theorem numbers_read_exactly :
    (∀ text n, (∃ w, readNumber text = .ok w ∧ w.toNat = n) ↔ MarkedOrDecimal text n ∧ n ≤ 4294967295) ∧
    (∀ key value n, (∃ b, readByte key value = .ok b ∧ b.toNat = n) ↔ Hexadecimal value.toList n ∧ n ≤ 255) ∧
    (∀ text n, MarkedOrDecimal text n → 4294967295 < n → ∃ e, readNumber text = .error e) ∧
    (∀ key value n, Hexadecimal value.toList n → 255 < n →
      readByte key value = .error (.invalidByte key value)) ∧
    (∀ mark ∈ [] :: hexMarks, ∀ sign ∈ signs, ∀ digits, digits ≠ [] → (∀ c ∈ digits, ∃ d, IsDigit 16 c d) → ∀ k,
      let padded := List.replicate k '0' ++ digits
      readNumber (mark ++ (sign ++ padded)) = readNumber (mark ++ (sign ++ digits)) ∧
      ∀ key, (readByte key (.ofList (mark ++ (sign ++ padded)))).toOption =
        (readByte key (.ofList (mark ++ (sign ++ digits)))).toOption) ∧
    ∀ text, Malformed text → (∃ e, readNumber text = .error e) ∧
      ∀ key, readByte key (.ofList text) = .error (.invalidByte key (.ofList text)) := by
  refine ⟨fun _ _ => CommandLine.exists_readNumber_iff, fun _ _ _ => Emulator.Settings.exists_readByte_iff,
    ?_, ?_, ?_, ?_⟩
  · intro text n hnumber hlarge
    apply CommandLine.readNumber_rejects
    intro m hm hother
    have hsame : n = m := hnumber.unique hother
    omega
  · intro key value n hnumber hlarge
    refine Emulator.Settings.readByte_rejects ?_ key
    intro m hm hother
    have hsame : n = m := hnumber.unique hother
    omega
  · intro mark hmark sign hsign digits hne hdigits k padded
    exact ⟨readNumber_zeros hmark hsign hne hdigits k, readByte_zeros hmark hsign hne hdigits k⟩
  · intro text hmalformed
    constructor
    · apply CommandLine.readNumber_rejects
      intro n _ hnumber
      obtain ⟨m, hm⟩ := hnumber.hexadecimal
      exact hmalformed.not_hexadecimal m hm
    · apply Emulator.Settings.readByte_rejects
      intro n _ hnumber
      rw [String.toList_ofList] at hnumber
      exact hmalformed.not_hexadecimal n hnumber

/-- The largest word and the number after it, a byte that is one too large, zeros behind a mark and a sign, and texts
with two marks and with an underscore. -/
theorem numbers_read_exactly_at_the_limits :
    (∃ w, readNumber "4294967295".toList = .ok w ∧ w.toNat = 4294967295) ∧
    (∃ e, readNumber "4294967296".toList = .error e) ∧
    readByte "mfr" "0X100" = .error (.invalidByte "mfr" "0X100") ∧
    readNumber "0x+0001F".toList = readNumber "0x+1F".toList ∧ readNumber "0x+1F".toList = .ok 31 ∧
    (∃ e, readNumber "0x0X1".toList = .error e) ∧
    readByte "type" "1_0" = .error (.invalidByte "type" "1_0") := by
  obtain ⟨hwords, -, hlargeWord, hlargeByte, hzeros, hmalformed⟩ := numbers_read_exactly
  have hdecimal : ∀ digits n, valueAfter? 10 0 digits = some n → digits ≠ [] →
      (∀ mark ∈ hexMarks, ¬ mark <+: digits) → MarkedOrDecimal digits n := fun digits n hvalue hne hunmarked =>
    Or.inr ⟨hunmarked, (denotes_iff (by decide)).mp ⟨[], by decide, digits, hne, rfl, hvalue⟩⟩
  have hlargest : MarkedOrDecimal "4294967295".toList 4294967295 :=
    hdecimal _ _ (by decide) (by decide) (by decide)
  have hbeyond : MarkedOrDecimal "4294967296".toList 4294967296 :=
    hdecimal _ _ (by decide) (by decide) (by decide)
  have hhundred : Hexadecimal "0X100".toList 256 :=
    ⟨['0', 'X'], by decide, ['1', '0', '0'], rfl,
      (denotes_iff (by decide)).mp ⟨[], by decide, _, by decide, rfl, by decide⟩⟩
  have hdigits : ∀ c ∈ ['1', 'F'], ∃ d, IsDigit 16 c d := by
    intro c hc
    obtain rfl | rfl : c = '1' ∨ c = 'F' := by simpa using hc
    · exact ⟨1, isDigit_of_digitValue (by decide)⟩
    · exact ⟨15, isDigit_of_digitValue (by decide)⟩
  have hpadded := (hzeros ['0', 'x'] (by decide) ['+'] (by decide) ['1', 'F'] (by decide) hdigits 3).1
  have hdoubled : Malformed "0x0X1".toList := .doubledMark (by decide : ['0', 'x'] ∈ hexMarks)
    (by decide : ['0', 'X'] ∈ hexMarks) ['1']
  have hunderscore : Malformed "1_0".toList := .stray (by decide : '_' ∈ "1_0".toList) (by decide)
  exact ⟨(hwords _ _).mpr ⟨hlargest, by decide⟩, hlargeWord _ _ hbeyond (by decide),
    hlargeByte "mfr" _ _ hhundred (by decide), hpadded, by decide, (hmalformed _ hdoubled).1,
    (hmalformed _ hunderscore).2 "type"⟩

end FlashIdent
