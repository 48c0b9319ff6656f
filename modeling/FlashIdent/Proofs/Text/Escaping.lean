import FlashIdent.Proofs.Text.Hex
import FlashIdent.Text.ControlSequence
import FlashIdent.Text.Quoted
import FlashIdent.Text.Split

/-!
# Escapes between quotes

Text between quotes is written character by character.  Some characters have a letter of their own behind a backslash,
others have their number there, and the rest stands as it is, neither a quote nor a backslash among it.  An `Escaping`
is such a rule: the letters are told apart and none of them opens a number, and a number tells its character and where
it ends.

So no character begins as the closing quote, and of two characters neither is written as the beginning of the other.
Up to the closing quote the text is told by what is written, whatever follows it (`flatMap_append_inj`).

The second part is quoted text.  Two texts that are quoted alike are one (`encode_inj`), and what is quoted stays on its
line and holds nothing that a terminal obeys (`plain_of_mem_encode`).
-/

namespace FlashIdent.Text

/-! ### Rules for escapes -/

/-- Which characters have letters, which have numbers and how these are written, and what may stand as it is. -/
structure Escaping where
  letters : List (Char × Char)
  numbered : Char → Prop
  number : Char → List Char
  shown : Char → Prop
  letters_inj : ∀ p ∈ letters, ∀ q ∈ letters, p.2 = q.2 → p.1 = q.1
  letters_ne : ∀ p ∈ letters, p.2 ≠ 'u'
  number_append_inj : ∀ {c d : Char} {r s : List Char}, numbered c → numbered d →
    number c ++ r = number d ++ s → c = d ∧ r = s
  shown_letters : ∀ p ∈ letters, shown p.2
  shown_backslash : shown '\\'
  shown_mark : shown 'u'
  shown_number : ∀ {c x : Char}, x ∈ number c → shown x

/-- How a character is written by a rule. -/
inductive Escaping.Writes (e : Escaping) (c : Char) : List Char → Prop where
  | letter {letter : Char} (hletter : (c, letter) ∈ e.letters) : Writes e c ['\\', letter]
  | number (hnumbered : e.numbered c) : Writes e c ('\\' :: 'u' :: e.number c)
  | raw (hquote : c ≠ '"') (hbackslash : c ≠ '\\') (hshown : e.shown c) : Writes e c [c]

namespace Escaping

variable {e : Escaping} {c d : Char} {u v r s : List Char}

theorem Writes.ne_quote (h : e.Writes c u) : u ++ r ≠ '"' :: s := by
  cases h with
  | letter => simp
  | number => simp
  | raw hquote => simp [hquote]

theorem Writes.append_inj (hc : e.Writes c u) (hd : e.Writes d v) (h : u ++ r = v ++ s) : c = d ∧ r = s := by
  -- the first character tells the raw ones apart, the second one the numbers
  cases hc with
  | letter hletter =>
    cases hd with
    | letter hletter' =>
      obtain ⟨hsame, hrest⟩ := List.cons.inj (List.cons.inj h).2
      exact ⟨e.letters_inj _ hletter _ hletter' hsame, hrest⟩
    | number =>
      have hsame := (List.cons.inj (List.cons.inj h).2).1
      exact absurd hsame (e.letters_ne _ hletter)
    | raw _ hbackslash => exact absurd (List.cons.inj h).1.symm hbackslash
  | number hnumbered =>
    cases hd with
    | letter hletter' =>
      have hsame := (List.cons.inj (List.cons.inj h).2).1
      exact absurd hsame.symm (e.letters_ne _ hletter')
    | number hnumbered' =>
      exact e.number_append_inj hnumbered hnumbered' (List.cons.inj (List.cons.inj h).2).2
    | raw _ hbackslash => exact absurd (List.cons.inj h).1.symm hbackslash
  | raw _ hbackslash =>
    cases hd with
    | letter => exact absurd (List.cons.inj h).1 hbackslash
    | number => exact absurd (List.cons.inj h).1 hbackslash
    | raw => exact List.cons.inj h

theorem Writes.shown (h : e.Writes c u) : ∀ x ∈ u, e.shown x := by
  cases h with
  | letter hletter => simpa using ⟨e.shown_backslash, e.shown_letters _ hletter⟩
  | number =>
    intro x hx
    rcases List.mem_cons.mp hx with rfl | hx
    · exact e.shown_backslash
    rcases List.mem_cons.mp hx with rfl | hx
    · exact e.shown_mark
    · exact e.shown_number hx
  | raw _ _ hshown => simpa using hshown

variable {escape : Char → List Char} (h : ∀ c, e.Writes c (escape c))

include h

/-- Up to its closing quote a text shows its characters. -/
theorem flatMap_append_inj {t r' : List Char}
    (heq : s.flatMap escape ++ '"' :: r = t.flatMap escape ++ '"' :: r') : s = t ∧ r = r' := by
  induction s generalizing t with
  | nil =>
    cases t with
    | nil => exact ⟨rfl, (List.cons.inj heq).2⟩
    | cons d t =>
      rw [List.flatMap_cons, List.append_assoc] at heq
      exact absurd heq.symm (h d).ne_quote
  | cons c s ih =>
    cases t with
    | nil =>
      rw [List.flatMap_cons, List.append_assoc] at heq
      exact absurd heq (h c).ne_quote
    | cons d t =>
      rw [List.flatMap_cons, List.flatMap_cons, List.append_assoc, List.append_assoc] at heq
      obtain ⟨rfl, hrest⟩ := (h c).append_inj (h d) heq
      obtain ⟨rfl, hbehind⟩ := ih hrest
      exact ⟨rfl, hbehind⟩

theorem shown_of_mem_flatMap (hmem : c ∈ s.flatMap escape) : e.shown c := by
  obtain ⟨a, -, hc⟩ := List.mem_flatMap.mp hmem
  exact (h a).shown c hc

end Escaping

/-! ### Quoted text -/

namespace Quoted

open ControlSequence (isPlain)

/-- A digit is no control character, and not the brace behind a number either. -/
theorem of_mem_padded {n : Nat} {c : Char} (h : c ∈ Hex.padded .small 1 n) :
    32 ≤ c.toNat ∧ c ≠ '\x7f' ∧ c ≠ '\x7d' := by
  have hdigits : ∀ d : Fin 16, 32 ≤ (Hex.digit .small d).toNat ∧ Hex.digit .small d ≠ '\x7f' ∧
      Hex.digit .small d ≠ '\x7d' := by decide
  obtain ⟨d, hd, rfl⟩ := Hex.exists_digit_of_mem_fixed h
  exact hdigits ⟨d, hd⟩

/-- Any character may have its number, which stands in braces; no control character stands as it is. -/
def escaping : Escaping where
  letters := [('"', '"'), ('\\', '\\'), ('\n', 'n'), ('\r', 'r'), ('\t', 't'), (Char.ofNat 0, '0')]
  numbered _ := True
  number c := '\x7b' :: (Hex.padded .small 1 c.toNat ++ ['\x7d'])
  shown c := 32 ≤ c.toNat ∧ c ≠ '\x7f'
  letters_inj := by decide
  letters_ne := by decide
  number_append_inj := by
    intro c d r s _ _ h
    have hbehind : Hex.padded .small 1 c.toNat ++ '\x7d' :: r = Hex.padded .small 1 d.toNat ++ '\x7d' :: s := by
      simpa using h
    have hbrace : ∀ n, '\x7d' ∉ Hex.padded .small 1 n := fun n hmem => (of_mem_padded hmem).2.2 rfl
    have hcut := congrArg (splitFirst '\x7d') hbehind
    rw [splitFirst_append (hbrace _), splitFirst_append (hbrace _), Option.some.injEq, Prod.mk.injEq] at hcut
    exact ⟨Char.toNat_inj.mp (Hex.padded_inj.mp hcut.1), hcut.2⟩
  shown_letters := by decide
  shown_backslash := by decide
  shown_mark := by decide
  shown_number := by
    intro c x hx
    obtain rfl | hx | rfl : x = '\x7b' ∨ x ∈ Hex.padded .small 1 c.toNat ∨ x = '\x7d' := by simpa using hx
    · decide
    · exact ⟨(of_mem_padded hx).1, (of_mem_padded hx).2.1⟩
    · decide

/-- The characters below the blank are the first range of the table. -/
theorem escaped_of_low {c : Char} (hlow : c.toNat < 32) : CharSet.escaped.contains c = true := by
  obtain ⟨later, hboundaries⟩ : ∃ later, CharSet.escaped.boundaries = 0 :: 32 :: later := ⟨_, rfl⟩
  have hcut : ¬ 32 ≤ c.toNat := by omega
  simp [CharSet.contains, hboundaries, hcut]

theorem writes_escape (c : Char) : escaping.Writes c (escape c) := by
  by_cases hletter : c ∈ escaping.letters.map Prod.fst
  · have hletters : ∀ pair ∈ escaping.letters, escape pair.1 = ['\\', pair.2] := by decide +kernel
    obtain ⟨pair, hpair, rfl⟩ := List.mem_map.mp hletter
    rw [hletters pair hpair]
    exact .letter hpair
  · simp only [escaping, List.map_cons, List.map_nil, List.mem_cons, List.not_mem_nil, or_false, not_or] at hletter
    by_cases hescaped : CharSet.escaped.contains c = true
    · have hnumber : escape c = '\\' :: 'u' :: escaping.number c := by simp [escape, escaping, hletter, hescaped]
      rw [hnumber]
      exact .number trivial
    · have hraw : escape c = [c] := by simp [escape, hletter, hescaped]
      have hshown : 32 ≤ c.toNat := Nat.le_of_not_lt fun hlow => hescaped (escaped_of_low hlow)
      have hdelete : c ≠ '\x7f' := by
        rintro rfl
        exact hescaped (by decide +kernel)
      rw [hraw]
      exact .raw hletter.1 hletter.2.1 ⟨hshown, hdelete⟩

/-- Nothing is lost between the quotes. -/
theorem encode_inj {s t : String} : encode s = encode t ↔ s = t := by
  constructor
  · intro h
    rw [encode, encode, String.ofList_inj] at h
    obtain ⟨hsame, -⟩ := Escaping.flatMap_append_inj writes_escape (List.cons.inj h).2
    exact String.toList_inj.mp hsame
  · rintro rfl
    rfl

/-- A quoted text is one line that a terminal only shows. -/
theorem plain_of_mem_encode {s : String} {c : Char} (h : c ∈ (encode s).toList) : isPlain c ∧ c ≠ '\n' := by
  obtain rfl | hc : c = '"' ∨ c ∈ s.toList.flatMap escape := by
    simpa [encode, or_comm, or_assoc] using h
  · decide
  · obtain ⟨hshown, hdelete⟩ := Escaping.shown_of_mem_flatMap writes_escape hc
    have hblank : ' ' ≤ c := hshown
    constructor
    · simp [isPlain, hblank, hdelete]
    · rintro rfl
      exact absurd hshown (by decide)

end Quoted

end FlashIdent.Text
