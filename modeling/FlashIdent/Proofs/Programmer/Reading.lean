import Mathlib.Data.List.Induction
import FlashIdent.Programmer.Options

/-!
# Reading options, one after the other

Reading is a fold with an early end.  `takeOption` is its step, and the log apart the reading is the fold of the
step in the monad of errors.  So an error is the error of the first option that is wrong.

Where options repeat each other, the last one that speaks of a thing is the one that counts: `LastTold`.
-/

namespace FlashIdent

/-! ### The last word -/

/-- The last element of the list that tells anything tells this; `none` if there is no such element. -/
def LastTold {α β : Type} (tells : α → β → Prop) (list : List α) : Option β → Prop
  | some b => ∃ before a later, list = before ++ a :: later ∧ tells a b ∧ ∀ a' ∈ later, ∀ b', ¬ tells a' b'
  | none => ∀ a ∈ list, ∀ b, ¬ tells a b

namespace LastTold

variable {α β : Type} {tells : α → β → Prop} {list : List α} {last : Option β} {a : α}

theorem said {b : β} (h : tells a b) : LastTold tells (list ++ [a]) (some b) :=
  ⟨list, a, [], rfl, h, fun _ hmem => absurd hmem List.not_mem_nil⟩

theorem unsaid (h : LastTold tells list last) (hsilent : ∀ b, ¬ tells a b) :
    LastTold tells (list ++ [a]) last := by
  cases last with
  | none =>
    intro a' hmem
    rcases List.mem_append.mp hmem with hmem | hmem
    · exact h a' hmem
    · rw [List.mem_singleton.mp hmem]
      exact hsilent
  | some b =>
    obtain ⟨before, a', later, rfl, htells, hlater⟩ := h
    refine ⟨before, a', later ++ [a], by simp, htells, ?_⟩
    intro a'' hmem
    rcases List.mem_append.mp hmem with hmem | hmem
    · exact hlater a'' hmem
    · rw [List.mem_singleton.mp hmem]
      exact hsilent

theorem of_concat (h : LastTold tells (list ++ [a]) last) :
    (∃ b, last = some b ∧ tells a b) ∨ ((∀ b, ¬ tells a b) ∧ LastTold tells list last) := by
  cases last with
  | none =>
    right
    exact ⟨h a (by simp), fun a' hmem => h a' (List.mem_append_left _ hmem)⟩
  | some b =>
    obtain ⟨before, a', later, hcut, htells, hlater⟩ := h
    rcases List.eq_nil_or_concat later with rfl | ⟨rest, x, rfl⟩
    · obtain ⟨_, hlast⟩ := List.append_inj' hcut rfl
      obtain rfl : a = a' := List.singleton_inj.mp hlast
      exact Or.inl ⟨b, rfl, htells⟩
    · have hregroup : list ++ [a] = (before ++ a' :: rest) ++ [x] := by simp [hcut]
      obtain ⟨rfl, hlast⟩ := List.append_inj' hregroup rfl
      obtain rfl : a = x := List.singleton_inj.mp hlast
      right
      refine ⟨hlater a (by simp), before, a', rest, rfl, htells, ?_⟩
      intro a'' hmem
      exact hlater a'' (by simp [hmem])

/-- If no element tells two things, one thing was told last. -/
theorem unique (htells : ∀ {a b c}, tells a b → tells a c → b = c) {other : Option β}
    (h : LastTold tells list last) (hother : LastTold tells list other) : last = other := by
  induction list using List.reverseRecOn with
  | nil =>
    have hnone : ∀ {last : Option β}, LastTold tells [] last → last = none := by
      intro last hlast
      cases last with
      | none => rfl
      | some b =>
        obtain ⟨before, a, later, hcut, _⟩ := hlast
        simp at hcut
    rw [hnone h, hnone hother]
  | append_singleton list a ih =>
    rcases h.of_concat with ⟨b, rfl, hb⟩ | ⟨hsilent, hlist⟩
    · rcases hother.of_concat with ⟨c, rfl, hc⟩ | ⟨hsilent, _⟩
      · rw [htells hb hc]
      · exact absurd hb (hsilent b)
    · rcases hother.of_concat with ⟨c, rfl, hc⟩ | ⟨_, hlist'⟩
      · exact absurd hc (hsilent c)
      · exact ih hlist hlist'

end LastTold

/-! ### The fold -/

namespace Programmer

open FlashIdent.Action (run)

variable {σ ε α : Type} (apply : α → String → String → Option (Except ε α))

/-- What one option makes of the settings; one without a meaning leaves them. -/
def takeOption (settings : α) (option : String × String) : Except ε α :=
  (apply settings option.1 option.2).getD (.ok settings)

theorem readOptions_value (warn : String → String → Action σ Unit) (options : Options) :
    ∀ (settings : α) (s : σ),
      (run (readOptions apply warn settings options) s).value = options.foldlM (takeOption apply) settings := by
  induction options with
  | nil =>
    intro settings s
    rfl
  | cons option later ih =>
    intro settings s
    obtain ⟨key, value⟩ := option
    rw [readOptions, List.foldlM_cons, takeOption]
    rcases apply settings key value with _ | e | next
    · exact ih settings _
    · rfl
    · exact ih next s

/-- What holds of the options read so far and the settings they made, and what each step keeps, holds of them all. -/
theorem foldlM_keeps {step : α → String × String → Except ε α} (holds : Options → α → Prop)
    (hstep : ∀ done s option next, holds done s → step s option = .ok next → holds (done ++ [option]) next)
    (later : Options) : ∀ {done : Options} {s next : α}, holds done s → later.foldlM step s = .ok next →
      holds (done ++ later) next := by
  induction later with
  | nil =>
    intro done s next h hread
    cases hread
    rw [List.append_nil]
    exact h
  | cons option later ih =>
    intro done s next h hread
    rw [List.foldlM_cons] at hread
    rcases hreached : step s option with e | reached
    · rw [hreached] at hread
      cases hread
    · rw [hreached] at hread
      have hlater := ih (hstep done s option reached h hreached) hread
      rw [List.append_assoc] at hlater
      exact hlater

/-- Where options with other keys leave all settings, they might as well not be there. -/
theorem foldlM_known {step : α → String × String → Except ε α} {keys : List String}
    (hleaves : ∀ s option, option.1 ∉ keys → step s option = .ok s) (options : Options) (settings : α) :
    (options.filter fun option => decide (option.1 ∈ keys)).foldlM step settings = options.foldlM step settings := by
  rw [List.foldlM_filter]
  congr 1
  funext s option
  split
  · rfl
  · rename_i hkey
    exact (hleaves s option (by simpa using hkey)).symm

/-! An option is often good or wrong whatever was read before it. -/

section

variable {step : α → String × String → Except ε α} {good : String × String → Prop}
variable {wrong : String × String → ε → Prop} {options : Options} {settings : α}

theorem exists_foldlM_iff (hgood : ∀ s option, (∃ next, step s option = .ok next) ↔ good option) :
    (∃ next, options.foldlM step settings = .ok next) ↔ ∀ option ∈ options, good option := by
  induction options generalizing settings with
  | nil => exact ⟨fun _ option hmem => absurd hmem List.not_mem_nil, fun _ => ⟨settings, rfl⟩⟩
  | cons option later ih =>
    rw [List.forall_mem_cons, List.foldlM_cons]
    rcases hstep : step settings option with e | reached
    · constructor
      · rintro ⟨next, hread⟩
        cases hread
      · rintro ⟨hoption, _⟩
        obtain ⟨next, hnext⟩ := (hgood settings option).mpr hoption
        rw [hstep] at hnext
        cases hnext
    · have hoption : good option := (hgood settings option).mp ⟨reached, hstep⟩
      constructor
      · intro hread
        exact ⟨hoption, ih.mp hread⟩
      · intro hall
        exact ih.mpr hall.2

/-- The error of a reading is the one of the first option that is wrong. -/
theorem foldlM_eq_error_iff (hgood : ∀ s option, (∃ next, step s option = .ok next) ↔ good option)
    (hwrong : ∀ s option e, step s option = .error e ↔ wrong option e) {e : ε} :
    options.foldlM step settings = .error e ↔
      ∃ before option later, options = before ++ option :: later ∧
        (∀ o ∈ before, good o) ∧ wrong option e := by
  constructor
  · induction options generalizing settings with
    | nil =>
      intro hread
      cases hread
    | cons first rest ih =>
      intro hread
      rw [List.foldlM_cons] at hread
      rcases hstep : step settings first with e' | next
      · rw [hstep] at hread
        cases hread
        exact ⟨[], first, rest, rfl, fun _ hmem => absurd hmem List.not_mem_nil, (hwrong settings first e).mp hstep⟩
      · rw [hstep] at hread
        obtain ⟨before, option, later, rfl, hbefore, herror⟩ := ih hread
        have hfirst : good first := (hgood settings first).mp ⟨next, hstep⟩
        exact ⟨first :: before, option, later, rfl, List.forall_mem_cons.mpr ⟨hfirst, hbefore⟩, herror⟩
  · rintro ⟨before, option, later, rfl, hbefore, herror⟩
    obtain ⟨reached, hread⟩ : ∃ reached, before.foldlM step settings = .ok reached :=
      (exists_foldlM_iff hgood).mpr hbefore
    rw [List.foldlM_append, hread]
    show (option :: later).foldlM step reached = .error e
    rw [List.foldlM_cons, (hwrong reached option e).mpr herror]
    rfl

end

end Programmer

end FlashIdent
