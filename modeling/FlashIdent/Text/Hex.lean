import FlashIdent.Bytes

/-!
# Hexadecimal text

Numbers written with a fixed count of hexadecimal digits, in small or capital letters, and the bracketed list
of bytes that log lines show.
-/

namespace FlashIdent.Text.Hex

/-- Which letters stand for the digits ten to fifteen. -/
inductive Letters where
  | small
  | capital
deriving DecidableEq

def digit (letters : Letters) (n : Nat) : Char :=
  if n < 10 then Char.ofNat (48 + n)
  else match letters with
    | .small => Char.ofNat (87 + n)
    | .capital => Char.ofNat (55 + n)

/-- The last `width` digits of `n`, the highest first. -/
def fixed (letters : Letters) : Nat → Nat → List Char
  | 0, _ => []
  | width + 1, n => fixed letters width (n / 16) ++ [digit letters (n % 16)]

def width (n : Nat) : Nat :=
  if n < 16 then 1 else width (n / 16) + 1

/-- At least `least` digits, and as many more as `n` needs. -/
def padded (letters : Letters) (least n : Nat) : List Char :=
  fixed letters (max least (width n)) n

def byte (b : UInt8) : String := String.ofList (fixed .small 2 b.toNat)

def word (w : UInt16) : String := String.ofList (fixed .small 4 w.toNat)

def capitalByte (b : UInt8) : String := String.ofList (fixed .capital 2 b.toNat)

def capitalWord (w : UInt16) : String := String.ofList (fixed .capital 4 w.toNat)

/-- Bytes one after the other, without anything between them. -/
def bytes (bs : Bytes) : String := String.join (bs.map byte)

/-- Bytes in brackets, a comma and a blank between two of them. -/
def list (bs : Bytes) : String := "[" ++ String.intercalate ", " (bs.map byte) ++ "]"

@[simp] theorem length_fixed (letters : Letters) (w n : Nat) : (fixed letters w n).length = w := by
  induction w generalizing n with
  | zero => rfl
  | succ w ih => simp [fixed, ih]

theorem digit_inj {letters : Letters} {m n : Nat} (hm : m < 16) (hn : n < 16) :
    digit letters m = digit letters n ↔ m = n := by
  have hall : ∀ m n : Fin 16, digit letters m = digit letters n → m = n := by
    cases letters <;> decide
  exact ⟨fun h => congrArg Fin.val (hall ⟨m, hm⟩ ⟨n, hn⟩ h), fun h => congrArg (digit letters) h⟩

theorem exists_digit_of_mem_fixed {letters : Letters} {w n : Nat} {c : Char} (h : c ∈ fixed letters w n) :
    ∃ d < 16, c = digit letters d := by
  induction w generalizing n with
  | zero => exact absurd h List.not_mem_nil
  | succ w ih =>
    rcases List.mem_append.mp h with hhigh | hlow
    · exact ih hhigh
    · exact ⟨n % 16, Nat.mod_lt n (by decide), List.mem_singleton.mp hlow⟩

theorem fixed_succ_inj {letters : Letters} {w m n : Nat} :
    fixed letters (w + 1) m = fixed letters (w + 1) n ↔
      fixed letters w (m / 16) = fixed letters w (n / 16) ∧ m % 16 = n % 16 := by
  rw [fixed, fixed, List.append_singleton_inj,
    digit_inj (Nat.mod_lt m (by decide)) (Nat.mod_lt n (by decide))]

theorem byte_inj {a b : UInt8} : byte a = byte b ↔ a = b := by
  have ha : a.toNat < 256 := a.toNat_lt
  have hb : b.toNat < 256 := b.toNat_lt
  rw [byte, byte, String.ofList_inj, fixed_succ_inj, fixed_succ_inj, ← UInt8.toNat_inj]
  simp only [fixed, true_and]
  omega

end FlashIdent.Text.Hex
