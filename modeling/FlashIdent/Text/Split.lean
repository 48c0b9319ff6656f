/-!
# Cutting text at a separator

`splitFirst` cuts once, at the first separator; `splitAll` cuts at every one.  The laws say that a cut loses
nothing, that the pieces hold no separator where none may be left, and that text put together with separators
is taken apart into the same pieces.  Printed lines are such text, so they can be told from it (`ofLines_inj`).
-/

namespace FlashIdent.Text

/-- The text before and after the first separator; `none` without one. -/
def splitFirst (sep : Char) : List Char → Option (List Char × List Char)
  | [] => none
  | c :: rest =>
    if c = sep then some ([], rest)
    else (splitFirst sep rest).map fun cut => (c :: cut.1, cut.2)

/-- The pieces between separators; there is always one more piece than there are separators. -/
def splitAll (sep : Char) : List Char → List (List Char)
  | [] => [[]]
  | c :: rest =>
    if c = sep then [] :: splitAll sep rest
    else match splitAll sep rest with
      | [] => [[c]]
      | piece :: pieces => (c :: piece) :: pieces

def joinWith (sep : Char) : List (List Char) → List Char
  | [] => []
  | [piece] => piece
  | piece :: pieces => piece ++ sep :: joinWith sep pieces

theorem splitFirst_eq_none_iff {sep : Char} {s : List Char} : splitFirst sep s = none ↔ sep ∉ s := by
  induction s with
  | nil => simp [splitFirst]
  | cons c rest ih =>
    by_cases hc : c = sep
    · simp [splitFirst, hc]
    · have hne : ¬ sep = c := fun h => hc h.symm
      simp [splitFirst, hc, hne, ih]

theorem splitFirst_append {sep : Char} {before after : List Char} (h : sep ∉ before) :
    splitFirst sep (before ++ sep :: after) = some (before, after) := by
  induction before with
  | nil => simp [splitFirst]
  | cons c rest ih =>
    have hc : ¬ c = sep := fun e => h (e ▸ List.mem_cons_self)
    simp [splitFirst, hc, ih fun hm => h (List.mem_cons_of_mem _ hm)]

theorem eq_of_splitFirst_eq_some {sep : Char} {s before after : List Char}
    (h : splitFirst sep s = some (before, after)) : s = before ++ sep :: after ∧ sep ∉ before := by
  induction s generalizing before with
  | nil => simp [splitFirst] at h
  | cons c rest ih =>
    by_cases hc : c = sep
    · simp only [splitFirst, hc, if_true, Option.some.injEq, Prod.mk.injEq] at h
      obtain ⟨rfl, rfl⟩ := h
      exact ⟨by rw [hc]; rfl, List.not_mem_nil⟩
    · simp only [splitFirst, hc, if_false, Option.map_eq_some_iff] at h
      obtain ⟨⟨first, later⟩, hcut, heq⟩ := h
      simp only [Prod.mk.injEq] at heq
      obtain ⟨rfl, rfl⟩ := heq
      obtain ⟨hs, hmem⟩ := ih hcut
      refine ⟨by rw [hs]; rfl, fun hm => ?_⟩
      rcases List.mem_cons.mp hm with hm | hm
      · exact hc hm.symm
      · exact hmem hm

theorem splitAll_ne_nil (sep : Char) (s : List Char) : splitAll sep s ≠ [] := by
  cases s with
  | nil => simp [splitAll]
  | cons c rest =>
    simp only [splitAll]
    split
    · simp
    · split <;> simp

theorem splitAll_of_not_mem {sep : Char} {s : List Char} (h : sep ∉ s) : splitAll sep s = [s] := by
  induction s with
  | nil => rfl
  | cons c rest ih =>
    have hc : ¬ c = sep := fun e => h (e ▸ List.mem_cons_self)
    simp [splitAll, hc, ih fun hm => h (List.mem_cons_of_mem _ hm)]

theorem splitAll_append_cons {sep : Char} {s t : List Char} :
    splitAll sep (s ++ sep :: t) = splitAll sep s ++ splitAll sep t := by
  induction s with
  | nil => simp [splitAll]
  | cons c s ih =>
    by_cases hc : c = sep
    · simp [splitAll, hc, ih]
    · obtain ⟨piece, pieces, hs⟩ := List.exists_cons_of_ne_nil (splitAll_ne_nil sep s)
      simp [splitAll, hc, ih, hs]

theorem splitAll_append {sep : Char} {piece rest : List Char} (h : sep ∉ piece) :
    splitAll sep (piece ++ sep :: rest) = piece :: splitAll sep rest := by
  rw [splitAll_append_cons, splitAll_of_not_mem h, List.singleton_append]

theorem splitAll_joinWith {sep : Char} {pieces : List (List Char)} (hne : pieces ≠ [])
    (h : ∀ piece ∈ pieces, sep ∉ piece) : splitAll sep (joinWith sep pieces) = pieces := by
  induction pieces with
  | nil => exact absurd rfl hne
  | cons piece pieces ih =>
    have hpiece : sep ∉ piece := h piece List.mem_cons_self
    cases pieces with
    | nil => exact splitAll_of_not_mem hpiece
    | cons second later =>
      rw [joinWith, splitAll_append hpiece, ih (by simp) fun p hp => h p (List.mem_cons_of_mem _ hp)]
      simp

/-- Text in which every piece has its separator behind it ends in an empty piece. -/
theorem splitAll_flatMap {sep : Char} {pieces : List (List Char)} (h : ∀ piece ∈ pieces, sep ∉ piece) :
    splitAll sep (pieces.flatMap fun piece => piece ++ [sep]) = pieces ++ [[]] := by
  induction pieces with
  | nil => rfl
  | cons piece pieces ih =>
    rw [List.flatMap_cons, List.append_assoc, List.singleton_append,
      splitAll_append (h piece List.mem_cons_self), ih fun p hp => h p (List.mem_cons_of_mem _ hp)]
    rfl

theorem not_mem_of_mem_splitAll {sep : Char} {s piece : List Char} (h : piece ∈ splitAll sep s) :
    sep ∉ piece := by
  induction s generalizing piece with
  | nil =>
    simp only [splitAll, List.mem_singleton] at h
    subst h
    exact List.not_mem_nil
  | cons c rest ih =>
    by_cases hc : c = sep
    · simp only [splitAll, hc, if_true] at h
      rcases List.mem_cons.mp h with rfl | h
      · exact List.not_mem_nil
      · exact ih h
    · simp only [splitAll, hc, if_false] at h
      rcases hsplit : splitAll sep rest with _ | ⟨first, later⟩
      · exact absurd hsplit (splitAll_ne_nil sep rest)
      · rw [hsplit] at h ih
        rcases List.mem_cons.mp h with rfl | h
        · intro hm
          rcases List.mem_cons.mp hm with hm | hm
          · exact hc hm.symm
          · exact ih List.mem_cons_self hm
        · exact ih (List.mem_cons_of_mem _ h)

/-! ### Lines -/

/-- The text of lines, each with a line end behind it. -/
def ofLines (lines : List String) : String := String.join (lines.map fun line => line ++ "\n")

theorem toList_ofLines (lines : List String) :
    (ofLines lines).toList = (lines.map String.toList).flatMap fun line => line ++ ['\n'] := by
  simp [ofLines, String.toList_join, List.flatMap_map]

theorem splitAll_ofLines {lines : List String} (h : ∀ line ∈ lines, '\n' ∉ line.toList) :
    splitAll '\n' (ofLines lines).toList = lines.map String.toList ++ [[]] := by
  rw [toList_ofLines]
  exact splitAll_flatMap (by simpa using h)

theorem ofLines_inj {lines lines' : List String} (h : ∀ line ∈ lines, '\n' ∉ line.toList)
    (h' : ∀ line ∈ lines', '\n' ∉ line.toList) : ofLines lines = ofLines lines' ↔ lines = lines' := by
  constructor
  · intro htext
    have hcut : lines.map String.toList ++ [[]] = lines'.map String.toList ++ [[]] := by
      rw [← splitAll_ofLines h, ← splitAll_ofLines h', htext]
    exact (List.map_inj_right fun _ _ => String.toList_inj.mp).mp (List.append_cancel_right hcut)
  · rintro rfl
    rfl

end FlashIdent.Text
