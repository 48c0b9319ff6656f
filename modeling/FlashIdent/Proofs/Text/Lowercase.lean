import Mathlib.Data.List.Infix
import Mathlib.Data.List.TakeWhile
import FlashIdent.Text.Lowercase

/-!
# Parts of a text in small letters

All characters but the capital sigma have a small form of their own, so a part of a text has the same small form alone
and in its place.  The form of a capital sigma hangs on its neighbours, and at an end of the part these may stand
outside of it.  `exposed` says when they do.  `Settled` parts have no exposed sigma.

A settled part is found in every text it is part of, after both were written in small letters.  No other part is: with
one more letter in front of it or behind it, an exposed sigma takes its other form.
-/

namespace FlashIdent.Text

/-- A capital sigma between these texts ends its word.  The text before it is given nearest character first. -/
def endsWord (before after : List Char) : Bool := startsCased before && !startsCased after

/-- Whether a capital sigma between these texts ends its word may hang on what stands beyond them: on the one side they
have only characters that are passed over, and the other side does not decide. -/
def exposed (before after : List Char) : Bool :=
  (startsCased before && after.all CharSet.caseIgnorable.contains) ||
    (before.all CharSet.caseIgnorable.contains && !startsCased after)

/-- No capital sigma of the part is exposed.  Before the part stands `passed`, nearest character first. -/
def SettledAfter (passed part : List Char) : Prop :=
  ∀ before after, part = before ++ '\u03a3' :: after → exposed (before.reverse ++ passed) after = false

/-- No capital sigma of the part, taken alone, is exposed. -/
def Settled (part : List Char) : Prop := SettledAfter [] part

/-! ### Neighbours -/

section

variable {near far : List Char}

theorem startsCased_append_of_all (h : near.all CharSet.caseIgnorable.contains = true) :
    startsCased (near ++ far) = startsCased far := by
  rw [startsCased, List.dropWhile_append_of_pos (List.all_eq_true.mp h), startsCased]

theorem startsCased_append_of_not_all (h : near.all CharSet.caseIgnorable.contains = false) :
    startsCased (near ++ far) = startsCased near := by
  have hrest : near.dropWhile CharSet.caseIgnorable.contains ≠ [] := by
    rw [Ne, List.dropWhile_eq_nil_iff, ← List.all_eq_true, h]
    decide
  obtain ⟨c, rest, hc⟩ := List.exists_cons_of_ne_nil hrest
  rw [startsCased, startsCased, List.dropWhile_append, hc]
  rfl

theorem startsCased_of_all (h : near.all CharSet.caseIgnorable.contains = true) : startsCased near = false := by
  have hnil : startsCased (near ++ []) = startsCased [] := startsCased_append_of_all h
  rwa [List.append_nil] at hnil

end

section

variable {before after : List Char}

/-- What stands beyond does not matter where nothing is exposed. -/
theorem endsWord_of_not_exposed (h : exposed before after = false) (earlier later : List Char) :
    endsWord (before ++ earlier) (after ++ later) = endsWord before after := by
  rw [exposed, Bool.or_eq_false_iff] at h
  rcases hbefore : before.all CharSet.caseIgnorable.contains with _ | _
  · rcases hafter : after.all CharSet.caseIgnorable.contains with _ | _
    · rw [endsWord, startsCased_append_of_not_all hbefore, startsCased_append_of_not_all hafter, endsWord]
    · have hcased : startsCased before = false := by simpa [hafter] using h.1
      rw [endsWord, startsCased_append_of_not_all hbefore, endsWord, hcased]
      rfl
  · have hcased : startsCased after = true := by simpa [hbefore] using h.2
    have hdecides : after.all CharSet.caseIgnorable.contains = false := by
      rw [← Bool.not_eq_true]
      intro hall
      rw [startsCased_of_all hall] at hcased
      cases hcased
    rw [endsWord, startsCased_append_of_not_all hdecides, endsWord, hcased, Bool.not_true, Bool.and_false,
      Bool.and_false]

/-- Where a sigma is exposed, any letter beyond one of the ends changes its form. -/
theorem endsWord_of_exposed (h : exposed before after = true) :
    (∀ letter, startsCased [letter] = true → endsWord before (after ++ [letter]) ≠ endsWord before after) ∨
      ∀ letter, startsCased [letter] = true → endsWord (before ++ [letter]) after ≠ endsWord before after := by
  rw [exposed, Bool.or_eq_true, Bool.and_eq_true, Bool.and_eq_true] at h
  rcases h with ⟨hcased, hall⟩ | ⟨hall, hcased⟩
  · left
    intro letter hletter
    rw [endsWord, startsCased_append_of_all hall, hletter, endsWord, hcased, startsCased_of_all hall]
    decide
  · right
    intro letter hletter
    rw [endsWord, startsCased_append_of_all hall, hletter, endsWord, hcased, startsCased_of_all hall]
    decide

end

/-! ### The small form of a part in its place -/

/-- The small sigma, in its final form or not. -/
def smallSigma (final : Bool) : Char := if final then '\u03c2' else '\u03c3'

theorem smallSigma_inj {a b : Bool} : smallSigma a = smallSigma b ↔ a = b := by
  cases a <;> cases b <;> decide

theorem lowerBetween_sigma (before after : List Char) :
    lowerBetween before '\u03a3' after = [smallSigma (endsWord before after)] := by
  rw [lowerBetween, if_pos rfl, endsWord, smallSigma]
  split
  · rfl
  · rfl

/-- Any other character has the same small form everywhere. -/
theorem lowerBetween_of_ne {c : Char} (hc : c ≠ '\u03a3') (before after : List Char) :
    lowerBetween before c after = lowerBetween [] c [] := by
  rw [lowerBetween, if_neg hc, lowerBetween, if_neg hc]

theorem length_lowerBetween (c : Char) (before after : List Char) :
    (lowerBetween before c after).length = (lowerBetween [] c []).length := by
  by_cases hc : c = '\u03a3'
  · rw [hc, lowerBetween_sigma, lowerBetween_sigma]
    rfl
  · rw [lowerBetween_of_ne hc]

/-- The small form of a part between two texts, of which the first is given nearest character first. -/
def lowerWithin (before : List Char) : List Char → List Char → List Char
  | [], _ => []
  | c :: rest, after => lowerBetween before c (rest ++ after) ++ lowerWithin (c :: before) rest after

theorem lowerAfter_append (before part after : List Char) :
    lowerAfter before (part ++ after) =
      lowerWithin before part after ++ lowerAfter (part.reverse ++ before) after := by
  induction part generalizing before with
  | nil => rfl
  | cons c rest ih =>
    rw [List.cons_append, lowerAfter, ih, lowerWithin, List.append_assoc, List.reverse_cons, List.append_assoc]
    rfl

theorem lowercase_eq_lowerWithin (part : List Char) : lowercase part = lowerWithin [] part [] := by
  have h := lowerAfter_append [] part []
  rwa [List.append_nil, lowerAfter, List.append_nil] at h

theorem lowerWithin_append (before first second after : List Char) :
    lowerWithin before (first ++ second) after =
      lowerWithin before first (second ++ after) ++ lowerWithin (first.reverse ++ before) second after := by
  induction first generalizing before with
  | nil => rfl
  | cons c rest ih =>
    rw [List.cons_append, lowerWithin, ih, lowerWithin, List.append_assoc, List.append_assoc, List.reverse_cons,
      List.append_assoc]
    rfl

theorem length_lowerWithin (before part after : List Char) :
    (lowerWithin before part after).length = (lowercase part).length := by
  have hsame : ∀ before before' after' : List Char,
      (lowerWithin before part after).length = (lowerWithin before' part after').length := by
    induction part with
    | nil => intros; rfl
    | cons c rest ih =>
      intro before before' after'
      rw [lowerWithin, lowerWithin, List.length_append, List.length_append, length_lowerBetween, ih _ (c :: before'),
        length_lowerBetween c before']
  rw [lowercase_eq_lowerWithin]
  exact hsame before [] []

/-! ### Settled parts -/

namespace SettledAfter

variable {c : Char} {passed rest : List Char}

theorem head (h : SettledAfter passed ('\u03a3' :: rest)) : exposed passed rest = false := h [] rest rfl

theorem tail (h : SettledAfter passed (c :: rest)) : SettledAfter (c :: passed) rest := by
  intro before after hrest
  have hwhole := h (c :: before) after (by rw [hrest, List.cons_append])
  rwa [List.reverse_cons, List.append_assoc] at hwhole

/-- Nothing beyond the texts on both sides changes the small form. -/
theorem lowerWithin_eq (h : SettledAfter passed rest) (earlier later : List Char) :
    lowerWithin (passed ++ earlier) rest later = lowerWithin passed rest [] := by
  induction rest generalizing passed with
  | nil => rfl
  | cons c rest ih =>
    have hfirst : lowerBetween (passed ++ earlier) c (rest ++ later) = lowerBetween passed c rest := by
      by_cases hc : c = '\u03a3'
      · subst hc
        rw [lowerBetween_sigma, lowerBetween_sigma, endsWord_of_not_exposed h.head]
      · rw [lowerBetween_of_ne hc, lowerBetween_of_ne hc passed]
    rw [lowerWithin, lowerWithin, List.append_nil, hfirst, ← List.cons_append, ih h.tail]

end SettledAfter

theorem Settled.infix {part : List Char} (h : Settled part) (before after : List Char) :
    lowercase part <:+: lowercase (before ++ part ++ after) := by
  have hpart : lowerWithin before.reverse part after = lowercase part := by
    rw [lowercase_eq_lowerWithin]
    exact h.lowerWithin_eq before.reverse after
  have hplace : lowercase (before ++ part ++ after) =
      lowerWithin [] before (part ++ after) ++ lowercase part ++
        lowerAfter (part.reverse ++ before.reverse) after := by
    rw [lowercase, List.append_assoc, lowerAfter_append, List.append_nil, lowerAfter_append, hpart,
      List.append_assoc]
  exact ⟨_, _, hplace.symm⟩

theorem settled_of_not_mem {part : List Char} (h : '\u03a3' ∉ part) : Settled part := by
  intro before after hpart
  refine absurd ?_ h
  rw [hpart]
  exact List.mem_append_right before List.mem_cons_self

/-! ### Parts that are lost -/

theorem lowerWithin_ne_of_endsWord_ne {before after earlier later : List Char}
    (h : endsWord (before.reverse ++ earlier) (after ++ later) ≠ endsWord before.reverse after) :
    lowerWithin earlier (before ++ '\u03a3' :: after) later ≠ lowercase (before ++ '\u03a3' :: after) := by
  intro heq
  rw [lowercase_eq_lowerWithin, lowerWithin_append, lowerWithin_append] at heq
  obtain ⟨-, hsigma⟩ := List.append_inj heq (by rw [length_lowerWithin, length_lowerWithin])
  rw [lowerWithin, lowerWithin, List.append_nil, List.append_nil, lowerBetween_sigma, lowerBetween_sigma] at hsigma
  exact h (smallSigma_inj.mp (List.head_eq_of_cons_eq hsigma))

section

variable {α : Type} {part whole : List α} {x : α}

theorem not_infix_concat (hlength : part.length = whole.length) (hne : part ≠ whole)
    (hlast : part.getLast? ≠ some x) : ¬ part <:+: whole ++ [x] := by
  rw [List.infix_concat_iff, List.suffix_concat_iff]
  rintro ((hnil | ⟨front, hfront, -⟩) | hinside)
  · rw [hnil] at hlength hne
    exact hne (List.length_eq_zero_iff.mp hlength.symm).symm
  · rw [hfront, List.getLast?_concat] at hlast
    exact hlast rfl
  · exact hne (hinside.eq_of_length hlength)

theorem not_infix_cons (hlength : part.length = whole.length) (hne : part ≠ whole)
    (hfirst : part.head? ≠ some x) : ¬ part <:+: x :: whole := by
  intro h
  have hreversed : part.reverse <:+: whole.reverse ++ [x] := by
    rw [← List.reverse_cons]
    exact List.reverse_infix.mpr h
  refine not_infix_concat ?_ (fun hsame => hne (List.reverse_inj.mp hsame)) ?_ hreversed
  · rw [List.length_reverse, List.length_reverse, hlength]
  · rwa [List.getLast?_reverse]

end

/-- The character is its own small form. -/
def IsSmall (c : Char) : Prop := ∀ before after, lowerBetween before c after = [c]

theorem lowercase_concat {letter : Char} (h : IsSmall letter) (part : List Char) :
    lowercase (part ++ [letter]) = lowerWithin [] part [letter] ++ [letter] := by
  rw [lowercase, lowerAfter_append, lowerAfter, h]
  rfl

theorem lowercase_cons {letter : Char} (h : IsSmall letter) (part : List Char) :
    lowercase (letter :: part) = letter :: lowerWithin [letter] part [] := by
  rw [lowercase_eq_lowerWithin, lowerWithin, h]
  rfl

/-- There is a small letter that differs from a given character. -/
theorem exists_letter_ne (c : Option Char) :
    ∃ letter, startsCased [letter] = true ∧ IsSmall letter ∧ c ≠ some letter := by
  by_cases hc : c = some 'a'
  · refine ⟨'b', by decide +kernel, fun before after => ?_, ?_⟩
    · rw [lowerBetween_of_ne (by decide)]
      decide +kernel
    · rw [hc]
      decide
  · refine ⟨'a', by decide +kernel, fun before after => ?_, hc⟩
    rw [lowerBetween_of_ne (by decide)]
    decide +kernel

/-- A part with an exposed sigma is not found again with a letter more on one of its sides. -/
theorem exists_not_infix {part : List Char} (h : ¬ Settled part) :
    ∃ before after, ¬ lowercase part <:+: lowercase (before ++ part ++ after) := by
  simp only [Settled, SettledAfter, List.append_nil, not_forall, Bool.not_eq_false] at h
  obtain ⟨before, after, rfl, hexposed⟩ := h
  -- the letter is chosen so that the part cannot be found one place further along
  rcases endsWord_of_exposed hexposed with hlater | hearlier
  · obtain ⟨letter, hcased, hsmall, hlast⟩ := exists_letter_ne (lowercase (before ++ '\u03a3' :: after)).getLast?
    refine ⟨[], [letter], ?_⟩
    rw [List.nil_append, lowercase_concat hsmall]
    refine not_infix_concat (length_lowerWithin _ _ _).symm (Ne.symm ?_) hlast
    exact lowerWithin_ne_of_endsWord_ne (by simpa using hlater letter hcased)
  · obtain ⟨letter, hcased, hsmall, hfirst⟩ := exists_letter_ne (lowercase (before ++ '\u03a3' :: after)).head?
    refine ⟨[letter], [], ?_⟩
    rw [List.append_nil, List.singleton_append, lowercase_cons hsmall]
    refine not_infix_cons (length_lowerWithin _ _ _).symm (Ne.symm ?_) hfirst
    exact lowerWithin_ne_of_endsWord_ne (by simpa using hearlier letter hcased)

/-! ### Looking for a part -/

/-- The small form of `part` stands in that of `whole` without a gap. -/
def StandsIn (part whole : String) : Prop := lowercase part.toList <:+: lowercase whole.toList

theorem occursInIgnoringCase_iff {part whole : String} : occursInIgnoringCase part whole = true ↔ StandsIn part whole :=
  occursIn_iff

instance (part whole : String) : Decidable (StandsIn part whole) := decidable_of_iff _ occursInIgnoringCase_iff

theorem StandsIn.trans {a b c : String} (h₁ : StandsIn a b) (h₂ : StandsIn b c) : StandsIn a c :=
  List.IsInfix.trans h₁ h₂

/-- Settled parts are found in every text they are part of, and no other parts are. -/
theorem settled_iff_standsIn {part : String} :
    Settled part.toList ↔ ∀ whole : String, part.toList <:+: whole.toList → StandsIn part whole := by
  constructor
  · rintro h whole ⟨before, after, hwhole⟩
    rw [StandsIn, ← hwhole]
    exact h.infix before after
  · intro hfound
    by_contra hexposed
    obtain ⟨before, after, hlost⟩ := exists_not_infix hexposed
    have hplaced := hfound (String.ofList (before ++ part.toList ++ after))
    rw [StandsIn, String.toList_ofList] at hplaced
    exact hlost (hplaced ⟨before, after, rfl⟩)

end FlashIdent.Text
