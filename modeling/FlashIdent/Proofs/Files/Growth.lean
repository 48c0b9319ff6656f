import Mathlib.Data.List.Basic
import FlashIdent.Files.Tree

/-!
# Growing file trees

A tree grows when names are put into it and none is taken out.  In a sound tree, one in which every number stands for
a directory that is there, the way to a place leads to the same place ever after (`Tree.find_of_growsInto`).  Both
ways of putting a name in, for a file and for a new directory, let a sound tree grow and keep it sound.

What is put in at the slot of a path is then found at the path, and what is found at a path is what stands in its
slot, unless the path ends in no name of its own.
-/

namespace FlashIdent.Files

namespace Tree

/-! ### Sound trees -/

/-- Every number stands for a directory that is there. -/
structure Sound (t : Tree) : Prop where
  working : t.working < t.directories.size
  around : ∀ directory, t.around directory < t.directories.size
  inside : ∀ {directory name number}, t.node? directory name = some (.directory number) →
    number < t.directories.size

theorem Sound.empty : ({} : Tree).Sound where
  working := Nat.zero_lt_one
  around directory := by
    cases directory <;> simp [Tree.around]
  inside {directory name number} h := by
    cases directory <;> simp [node?] at h

/-- The place is in the tree. -/
def Holds (t : Tree) : Node → Prop
  | .file => True
  | .directory number => number < t.directories.size

section Walking

variable {t : Tree} {place next : Node} {step : Step} {steps later : List Step}

theorem Sound.holds_origin (hsound : t.Sound) (p : Path) : t.Holds (t.origin p) := by
  cases habsolute : p.absolute with
  | true => simpa [origin, Holds, habsolute] using Nat.zero_lt_of_lt hsound.working
  | false => simpa [origin, Holds, habsolute] using hsound.working

theorem enter_name_eq_ok_iff {directory : Nat} {name : String} :
    t.enter (.directory directory) (.name name) = .ok next ↔
      name.utf8ByteSize ≤ nameMax ∧ t.node? directory name = some next := by
  rw [enter]
  by_cases hlength : nameMax < name.utf8ByteSize
  · simp [hlength, Nat.not_le.mpr hlength]
  · cases t.node? directory name <;> simp [hlength, Nat.le_of_not_lt hlength]

theorem Sound.holds_enter (hsound : t.Sound) (hplace : t.Holds place) (h : t.enter place step = .ok next) :
    t.Holds next := by
  cases place with
  | file => cases h
  | directory d =>
    cases step with
    | here =>
      cases h
      exact hplace
    | up =>
      cases h
      exact hsound.around d
    | name name =>
      obtain ⟨-, hnode⟩ := enter_name_eq_ok_iff.mp h
      cases next with
      | file => trivial
      | directory number => exact hsound.inside hnode

theorem walk_cons_eq_ok_iff : t.walk place (step :: steps) = .ok next ↔
    ∃ between, t.enter place step = .ok between ∧ t.walk between steps = .ok next := by
  rw [walk]
  cases t.enter place step with
  | error e => simp
  | ok between => simp

theorem walk_append_eq_ok_iff : t.walk place (steps ++ later) = .ok next ↔
    ∃ between, t.walk place steps = .ok between ∧ t.walk between later = .ok next := by
  induction steps generalizing place with
  | nil => simp [walk]
  | cons step steps ih =>
    simp only [List.cons_append, walk_cons_eq_ok_iff, ih]
    constructor
    · rintro ⟨first, henter, between, hwalk, hlater⟩
      exact ⟨between, ⟨first, henter, hwalk⟩, hlater⟩
    · rintro ⟨between, ⟨first, henter, hwalk⟩, hlater⟩
      exact ⟨first, henter, between, hwalk, hlater⟩

theorem Sound.holds_walk (hsound : t.Sound) (hplace : t.Holds place) (h : t.walk place steps = .ok next) :
    t.Holds next := by
  induction steps generalizing place with
  | nil =>
    cases h
    exact hplace
  | cons step steps ih =>
    obtain ⟨between, henter, hwalk⟩ := walk_cons_eq_ok_iff.mp h
    exact ih (hsound.holds_enter hplace henter) hwalk

end Walking

/-! ### Growth -/

/-- All directories and names of the first tree are in the second one, where they were. -/
structure GrowsInto (t t' : Tree) : Prop where
  size : t.directories.size ≤ t'.directories.size
  working : t'.working = t.working
  around : ∀ {directory}, directory < t.directories.size → t'.around directory = t.around directory
  inside : ∀ {directory name node}, t.node? directory name = some node → t'.node? directory name = some node

section Growth

variable {t t' t'' : Tree} {p : Path} {place next : Node} {steps : List Step}

theorem GrowsInto.refl (t : Tree) : t.GrowsInto t := ⟨Nat.le_refl _, rfl, fun _ => rfl, fun h => h⟩

theorem GrowsInto.trans (h : t.GrowsInto t') (h' : t'.GrowsInto t'') : t.GrowsInto t'' where
  size := Nat.le_trans h.size h'.size
  working := h'.working.trans h.working
  around hthere := (h'.around (Nat.lt_of_lt_of_le hthere h.size)).trans (h.around hthere)
  inside hnode := h'.inside (h.inside hnode)

theorem enter_of_growsInto (hgrows : t.GrowsInto t') (hplace : t.Holds place) {step : Step}
    (h : t.enter place step = .ok next) : t'.enter place step = .ok next := by
  cases place with
  | file => cases h
  | directory d =>
    cases step with
    | here => exact h
    | up => rwa [enter, hgrows.around hplace]
    | name name =>
      obtain ⟨hlength, hnode⟩ := enter_name_eq_ok_iff.mp h
      exact enter_name_eq_ok_iff.mpr ⟨hlength, hgrows.inside hnode⟩

theorem walk_of_growsInto (hsound : t.Sound) (hgrows : t.GrowsInto t') (hplace : t.Holds place)
    (h : t.walk place steps = .ok next) : t'.walk place steps = .ok next := by
  induction steps generalizing place with
  | nil => exact h
  | cons step steps ih =>
    obtain ⟨between, henter, hwalk⟩ := walk_cons_eq_ok_iff.mp h
    have hthere : t.Holds between := hsound.holds_enter hplace henter
    exact walk_cons_eq_ok_iff.mpr ⟨between, enter_of_growsInto hgrows hplace henter, ih hthere hwalk⟩

theorem origin_of_growsInto (hgrows : t.GrowsInto t') (p : Path) : t'.origin p = t.origin p := by
  rw [origin, origin, hgrows.working]

/-- What is found at a path stays there. -/
theorem find_of_growsInto (hsound : t.Sound) (hgrows : t.GrowsInto t') (h : t.find p = .ok next) :
    t'.find p = .ok next := by
  rw [find, origin_of_growsInto hgrows]
  exact walk_of_growsInto hsound hgrows (hsound.holds_origin p) h

theorem hasDirectory_iff : t.hasDirectory p = true ↔ ∃ number, t.find p = .ok (.directory number) := by
  unfold hasDirectory
  split
  · simp_all
  · simp_all

end Growth

/-! ### Names put in -/

section Putting

variable {t : Tree} {directory d number : Nat} {name other : String} {node found : Node}

@[simp] theorem size_put : (t.put directory name node).directories.size = t.directories.size := by
  simp [put]

@[simp] theorem size_putDirectory : (t.putDirectory directory name).directories.size = t.directories.size + 1 := by
  simp [putDirectory]

theorem getElem?_put : (t.put directory name node).directories[d]? =
    if directory = d then t.directories[d]?.map fun known => { known with entries := (name, node) :: known.entries }
    else t.directories[d]? := by
  rw [put, Array.getElem?_modify]

theorem getElem?_putDirectory : (t.putDirectory directory name).directories[d]? =
    if d = t.directories.size then some { around := directory }
    else (t.put directory name (.directory t.directories.size)).directories[d]? := by
  rw [putDirectory, Array.getElem?_push, size_put]

theorem node?_put (hdirectory : directory < t.directories.size) : (t.put directory name node).node? d other =
    if d = directory ∧ other = name then some node else t.node? d other := by
  rw [node?, getElem?_put, node?]
  by_cases hd : d = directory
  · subst hd
    rw [if_pos rfl, Array.getElem?_eq_getElem hdirectory]
    by_cases hother : other = name
    · simp [hother]
    · have hdifferent : (other == name) = false := by simpa using hother
      simp [hother, List.lookup_cons, hdifferent]
  · rw [if_neg fun h => hd h.symm, if_neg fun h => hd h.1]

/-- Nothing is in the new directory yet. -/
theorem node?_putDirectory (hdirectory : directory < t.directories.size) :
    (t.putDirectory directory name).node? d other =
      if d = directory ∧ other = name then some (.directory t.directories.size) else t.node? d other := by
  rw [← node?_put hdirectory, node?, getElem?_putDirectory, node?]
  by_cases hd : d = t.directories.size
  · rw [if_pos hd, Array.getElem?_eq_none (by simp [hd])]
    rfl
  · rw [if_neg hd]

theorem around_put : (t.put directory name node).around d = t.around d := by
  rw [around, getElem?_put, around]
  split
  · rw [Option.map_map]
    rfl
  · rfl

theorem around_putDirectory :
    (t.putDirectory directory name).around d = if d = t.directories.size then directory else t.around d := by
  rw [around, getElem?_putDirectory]
  split
  · rfl
  · exact around_put

theorem growsInto_put (hdirectory : directory < t.directories.size) (hfree : t.node? directory name = none) :
    t.GrowsInto (t.put directory name node) where
  size := Nat.le_of_eq size_put.symm
  working := rfl
  around _ := around_put
  inside hfound := by
    rw [node?_put hdirectory, if_neg]
    · exact hfound
    · rintro ⟨rfl, rfl⟩
      rw [hfree] at hfound
      cases hfound

theorem growsInto_putDirectory (hdirectory : directory < t.directories.size)
    (hfree : t.node? directory name = none) : t.GrowsInto (t.putDirectory directory name) where
  size := by
    rw [size_putDirectory]
    exact Nat.le_succ _
  working := rfl
  around hthere := by rw [around_putDirectory, if_neg (Nat.ne_of_lt hthere)]
  inside hfound := by
    rw [node?_putDirectory hdirectory, ← node?_put hdirectory]
    exact (growsInto_put hdirectory hfree).inside hfound

theorem Sound.put_file (hsound : t.Sound) (hdirectory : directory < t.directories.size) :
    (t.put directory name .file).Sound where
  working := by
    rw [size_put]
    exact hsound.working
  around _ := by
    rw [size_put, around_put]
    exact hsound.around _
  inside hnode := by
    rw [node?_put hdirectory] at hnode
    rw [size_put]
    split at hnode
    · cases hnode
    · exact hsound.inside hnode

theorem Sound.putDirectory (hsound : t.Sound) (hdirectory : directory < t.directories.size) :
    (t.putDirectory directory name).Sound where
  working := by
    rw [size_putDirectory]
    exact Nat.lt_succ_of_lt hsound.working
  around d := by
    rw [size_putDirectory, around_putDirectory]
    split
    · exact Nat.lt_succ_of_lt hdirectory
    · exact Nat.lt_succ_of_lt (hsound.around d)
  inside hnode := by
    rw [node?_putDirectory hdirectory] at hnode
    rw [size_putDirectory]
    split at hnode
    · cases hnode
      exact Nat.lt_succ_self _
    · exact Nat.lt_succ_of_lt (hsound.inside hnode)

end Putting

/-! ### The place of a new name -/

section Slot

variable {t t' : Tree} {p : Path} {directory : Nat} {name : String} {node : Node}

theorem slot_eq_some_iff : t.slot p = .ok (some (directory, name)) ↔
    t.walk (t.origin p) p.steps.dropLast = .ok (.directory directory) ∧ p.steps.getLast? = some (.name name) ∧
      name.utf8ByteSize ≤ nameMax := by
  rw [slot]
  rcases t.walk (t.origin p) p.steps.dropLast with e | (_ | d)
  · simp
  · simp
  · rcases p.steps.getLast? with _ | (_ | _ | last)
    · simp
    · simp
    · simp
    · by_cases hlength : nameMax < last.utf8ByteSize <;> grind

theorem Sound.slot_lt (hsound : t.Sound) (h : t.slot p = .ok (some (directory, name))) :
    directory < t.directories.size :=
  hsound.holds_walk (hsound.holds_origin p) (slot_eq_some_iff.mp h).1

/-- What later stands at the place of a new name is found at its path. -/
theorem find_of_slot (hsound : t.Sound) (hgrows : t.GrowsInto t') (hslot : t.slot p = .ok (some (directory, name)))
    (hnode : t'.node? directory name = some node) : t'.find p = .ok node := by
  obtain ⟨hwalk, hlast, hlength⟩ := slot_eq_some_iff.mp hslot
  have hsteps : p.steps = p.steps.dropLast ++ [.name name] := (List.dropLast_append_getLast? _ hlast).symm
  have henter := enter_name_eq_ok_iff.mpr ⟨hlength, hnode⟩
  rw [find, hsteps, origin_of_growsInto hgrows]
  refine walk_append_eq_ok_iff.mpr ⟨.directory directory, ?_, walk_cons_eq_ok_iff.mpr ⟨node, henter, rfl⟩⟩
  exact walk_of_growsInto hsound hgrows (hsound.holds_origin p) hwalk

/-- The path to what is found ends in its name, or in a step that no file can be behind. -/
theorem slot_of_find (h : t.find p = .ok node) :
    (t.slot p = .ok none ∧ node ≠ .file) ∨
      ∃ directory name, t.slot p = .ok (some (directory, name)) ∧ t.node? directory name = some node := by
  rcases List.eq_nil_or_concat p.steps with hnil | ⟨before, last, hsteps⟩
  · rw [find, hnil] at h
    cases h
    exact .inl ⟨by simp [slot, hnil, walk, origin], by simp [origin]⟩
  rw [List.concat_eq_append] at hsteps
  rw [find, hsteps] at h
  obtain ⟨place, hbefore, hlast⟩ := walk_append_eq_ok_iff.mp h
  obtain ⟨found, henter, hfound⟩ := walk_cons_eq_ok_iff.mp hlast
  cases hfound
  cases place with
  | file => cases henter
  | directory d =>
    cases last with
    | here =>
      cases henter
      exact .inl ⟨by simp [slot, hsteps, hbefore], by simp⟩
    | up =>
      cases henter
      exact .inl ⟨by simp [slot, hsteps, hbefore], by simp⟩
    | name name =>
      obtain ⟨hlength, hnode⟩ := enter_name_eq_ok_iff.mp henter
      have hslot : t.slot p = .ok (some (d, name)) :=
        slot_eq_some_iff.mpr ⟨by simpa [hsteps] using hbefore, by simp [hsteps], hlength⟩
      exact .inr ⟨d, name, hslot, hnode⟩

end Slot

/-! ### Files and directories at paths -/

/-- A file is found at the path. -/
def FileAt (t : Tree) (path : String) : Prop :=
  path.utf8ByteSize ≤ pathMax ∧ t.find (Path.ofString path) = .ok .file

/-- A directory is found at the path. -/
def DirectoryAt (t : Tree) (path : String) : Prop :=
  path.utf8ByteSize ≤ pathMax ∧ t.hasDirectory (Path.ofString path)

/-- A file can be opened unless a slash at the end of the path asks for a directory. -/
theorem openError?_eq_none_iff {t : Tree} {path : String} :
    t.openError? path = none ↔ t.FileAt path ∧ path.toList.getLast? ≠ some '/' := by
  unfold openError? FileAt
  split
  · rename_i hempty
    obtain rfl : path = "" := by simpa using hempty
    simp [find, walk, Path.ofString, Text.splitAll, origin]
  split
  · rename_i hlength
    simp [Nat.not_le.mpr hlength]
  · rename_i hlength
    rcases t.find (Path.ofString path) with e | (_ | number)
    · simp
    · simp [Nat.le_of_not_lt hlength]
    · simp

/-- What the growth of a sound tree leaves true. -/
def Lasting (fact : Tree → Prop) : Prop :=
  ∀ {t t' : Tree}, t.Sound → t.GrowsInto t' → fact t → fact t'

theorem lasting_hasDirectory (p : Path) : Lasting fun t => t.hasDirectory p := by
  intro t t' hsound hgrows h
  obtain ⟨number, hfind⟩ := hasDirectory_iff.mp h
  exact hasDirectory_iff.mpr ⟨number, find_of_growsInto hsound hgrows hfind⟩

theorem lasting_directoryAt (path : String) : Lasting fun t => t.DirectoryAt path :=
  fun hsound hgrows h => ⟨h.1, lasting_hasDirectory _ hsound hgrows h.2⟩

theorem lasting_fileAt (path : String) : Lasting fun t => t.FileAt path :=
  fun hsound hgrows h => ⟨h.1, find_of_growsInto hsound hgrows h.2⟩

end Tree

end FlashIdent.Files
