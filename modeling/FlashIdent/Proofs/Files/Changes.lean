import FlashIdent.Proofs.Files.Growth

/-!
# Making directories and writing files

Whether they succeed or fail, the actions on a sound tree leave a sound tree which the first one has grown into.  So
what one of them has made stays while others follow.  `Grows` states this together with what an answer promises: a
directory that was made with all that is around it is a directory at its path, and files that were written are
found at theirs.

What is there already is made once more without any change.
-/

namespace FlashIdent.Files

open FlashIdent.Action (run)

/-! ### Actions under which the tree grows -/

/-- From a sound tree of which the first fact is true, the action leaves a sound tree, which the first one has grown
into, and the second fact. -/
def Grows {α : Type} (pre : Tree → Prop) (m : Action Tree α) (post : α → Tree → Prop) : Prop :=
  ∀ t : Tree, t.Sound → pre t →
    (run m t).state.Sound ∧ t.GrowsInto (run m t).state ∧ post (run m t).value (run m t).state

namespace Grows

variable {α β : Type} {pre : Tree → Prop} {m : Action Tree α} {post : α → Tree → Prop}

theorem pure {a : α} (h : ∀ t, pre t → post a t) : Grows pre (Pure.pure a) post :=
  fun t hsound hpre => ⟨hsound, .refl t, h t hpre⟩

theorem bind {f : α → Action Tree β} {middle : α → Tree → Prop} {post : β → Tree → Prop}
    (hm : Grows pre m middle) (hf : ∀ a, Grows (middle a) (f a) post) : Grows pre (m >>= f) post := by
  intro t hsound hpre
  obtain ⟨hsound', hgrows, hmiddle⟩ := hm t hsound hpre
  obtain ⟨hsound'', hgrows', hpost⟩ := hf _ _ hsound' hmiddle
  exact ⟨hsound'', hgrows.trans hgrows', hpost⟩

theorem of_true {pre : Tree → Prop} (h : Grows (fun _ => True) m post) : Grows pre m post :=
  fun t hsound _ => h t hsound trivial

/-- A lasting fact stays true beside what the action does. -/
theorem keeping {fact : Tree → Prop} (hfact : Tree.Lasting fact) (h : Grows pre m post) :
    Grows (fun t => pre t ∧ fact t) m fun a t => post a t ∧ fact t := by
  intro t hsound hpre
  obtain ⟨hsound', hgrows, hpost⟩ := h t hsound hpre.1
  exact ⟨hsound', hgrows, hpost, hfact hsound hgrows hpre.2⟩

end Grows

/-! ### Making directories -/

theorem make_cases (p : Path) (t : Tree) :
    (∃ e, run (make p) t = ⟨.error e, t, []⟩) ∨
    ∃ directory name, t.slot p = .ok (some (directory, name)) ∧ t.node? directory name = none ∧
      run (make p) t = ⟨.ok (), t.putDirectory directory name, []⟩ := by
  rcases hslot : t.slot p with e | (_ | ⟨directory, name⟩)
  · exact .inl ⟨e, by simp [make, hslot]⟩
  · exact .inl ⟨.taken, by simp [make, hslot]⟩
  · rcases hnode : t.node? directory name with _ | node
    · exact .inr ⟨directory, name, rfl, hnode, by simp [make, hslot, hnode]⟩
    · exact .inl ⟨.taken, by simp [make, hslot, hnode]⟩

/-- An action that makes a directory. -/
abbrev Makes (p : Path) (m : Action Tree (Except Error Unit)) (pre : Tree → Prop) : Prop :=
  Grows pre m fun answer t => answer = .ok () → t.hasDirectory p

theorem make_makes (p : Path) : Makes p (make p) fun _ => True := by
  intro t hsound _
  rcases make_cases p t with ⟨e, hrun⟩ | ⟨directory, name, hslot, hfree, hrun⟩
  · rw [hrun]
    exact ⟨hsound, .refl t, by simp⟩
  · rw [hrun]
    have hdirectory := hsound.slot_lt hslot
    have hgrows := Tree.growsInto_putDirectory hdirectory hfree
    have hnode : (t.putDirectory directory name).node? directory name = some (.directory t.directories.size) := by
      rw [Tree.node?_putDirectory hdirectory, if_pos ⟨rfl, rfl⟩]
    refine ⟨hsound.putDirectory hdirectory, hgrows, fun _ => ?_⟩
    exact Tree.hasDirectory_iff.mpr ⟨_, Tree.find_of_slot hsound hgrows hslot hnode⟩

theorem settle_makes (p : Path) (result : Except Error Unit) :
    Makes p (settle p result) fun t => result = .ok () → t.hasDirectory p := by
  intro t hsound hresult
  unfold settle
  split
  · rw [Action.run_bind, Action.run_get]
    split
    · rename_i hthere
      exact ⟨hsound, .refl t, fun _ => hthere⟩
    · exact ⟨hsound, .refl t, by simp⟩
  · exact ⟨hsound, .refl t, hresult⟩

theorem makeChain_grows (chain : List Path) : Grows (fun _ => True) (makeChain chain) fun answer t =>
    answer = .ok () → ∀ p ∈ chain.head?, t.hasDirectory p := by
  induction chain with
  | nil => exact .pure fun t _ _ p hp => by cases hp
  | cons p around ih =>
    have hhead : ∀ m pre, Makes p m pre → Grows pre m fun answer t =>
        answer = .ok () → ∀ q ∈ (p :: around).head?, t.hasDirectory q := by
      intro m pre hmakes t hsound hpre
      obtain ⟨hsound', hgrows, hmade⟩ := hmakes t hsound hpre
      refine ⟨hsound', hgrows, fun hok q hq => ?_⟩
      cases hq
      exact hmade hok
    refine hhead _ _ ((make_makes p).bind fun result => ?_)
    split
    · refine ih.of_true.bind fun answer => ?_
      split
      · exact .pure (by simp)
      · exact (make_makes p).of_true.bind (settle_makes p)
    · exact settle_makes p _

theorem makeAll_grows (path : String) :
    Grows (fun _ => True) (makeAll path) fun answer t => answer = .ok () → t.DirectoryAt path := by
  unfold makeAll
  split
  · rename_i hempty
    obtain rfl : path = "" := by simpa using hempty
    exact .pure fun t _ _ => ⟨by decide, Tree.hasDirectory_iff.mpr ⟨t.working, rfl⟩⟩
  split
  · exact .pure (by simp)
  · rename_i hlength
    intro t hsound _
    obtain ⟨hsound', hgrows, hmade⟩ := makeChain_grows (Path.ofString path).chain t hsound trivial
    exact ⟨hsound', hgrows, fun hok => ⟨Nat.le_of_not_lt hlength, hmade hok _ rfl⟩⟩

/-! ### Writing files -/

theorem write_cases (path : String) (t : Tree) :
    (∃ e, run (write path) t = ⟨.error e, t, []⟩) ∨
    path.utf8ByteSize ≤ pathMax ∧ ∃ directory name, t.slot (Path.ofString path) = .ok (some (directory, name)) ∧
      (t.node? directory name = some .file ∧ run (write path) t = ⟨.ok (), t, []⟩ ∨
        t.node? directory name = none ∧ run (write path) t = ⟨.ok (), t.put directory name .file, []⟩) := by
  by_cases hlength : pathMax < path.utf8ByteSize
  · exact .inl ⟨.nameTooLong, by simp [write, hlength]⟩
  have hfits : path.utf8ByteSize ≤ pathMax := Nat.le_of_not_lt hlength
  rcases hslot : t.slot (Path.ofString path) with e | (_ | ⟨directory, name⟩)
  · exact .inl ⟨e, by simp [write, hlength, hslot]⟩
  · exact .inl ⟨.isDirectory, by simp [write, hlength, hslot]⟩
  · rcases hnode : t.node? directory name with _ | (_ | number)
    · exact .inr ⟨hfits, directory, name, rfl, .inr ⟨hnode, by simp [write, hlength, hslot, hnode]⟩⟩
    · exact .inr ⟨hfits, directory, name, rfl, .inl ⟨hnode, by simp [write, hlength, hslot, hnode]⟩⟩
    · exact .inl ⟨.isDirectory, by simp [write, hlength, hslot, hnode]⟩

theorem write_grows (path : String) :
    Grows (fun _ => True) (write path) fun answer t => answer = .ok () → t.FileAt path := by
  intro t hsound _
  rcases write_cases path t with ⟨e, hrun⟩ | ⟨hfits, directory, name, hslot, hwritten⟩
  · rw [hrun]
    exact ⟨hsound, .refl t, by simp⟩
  rcases hwritten with ⟨hnode, hrun⟩ | ⟨hfree, hrun⟩
  · rw [hrun]
    exact ⟨hsound, .refl t, fun _ => ⟨hfits, Tree.find_of_slot hsound (.refl t) hslot hnode⟩⟩
  · rw [hrun]
    have hdirectory := hsound.slot_lt hslot
    have hgrows : t.GrowsInto (t.put directory name .file) := Tree.growsInto_put hdirectory hfree
    have hnode : (t.put directory name .file).node? directory name = some .file := by
      rw [Tree.node?_put hdirectory, if_pos ⟨rfl, rfl⟩]
    exact ⟨hsound.put_file hdirectory, hgrows, fun _ => ⟨hfits, Tree.find_of_slot hsound hgrows hslot hnode⟩⟩

theorem writeAll_grows (paths : List String) :
    Grows (fun _ => True) (writeAll paths) fun answer t => answer = .ok () → ∀ path ∈ paths, t.FileAt path := by
  induction paths with
  | nil => exact .pure (by simp)
  | cons path rest ih =>
    refine (write_grows path).bind fun answer => ?_
    cases answer with
    | error e => exact .pure (by simp)
    | ok _ =>
      intro t hsound hwritten
      obtain ⟨hsound', hgrows, hrest, hkept⟩ :=
        ih.keeping (Tree.lasting_fileAt path) t hsound ⟨trivial, hwritten rfl⟩
      refine ⟨hsound', hgrows, fun hok => List.forall_mem_cons.mpr ⟨hkept, hrest hok⟩⟩

/-! ### What is there already -/

section Again

variable {t : Tree} {p : Path} {path : String}

theorem make_again (h : t.hasDirectory p) : run (make p) t = ⟨.error .taken, t, []⟩ := by
  obtain ⟨number, hfind⟩ := Tree.hasDirectory_iff.mp h
  rcases Tree.slot_of_find hfind with ⟨hslot, -⟩ | ⟨directory, name, hslot, hnode⟩
  · simp [make, hslot]
  · simp [make, hslot, hnode]

theorem makeChain_again (h : t.hasDirectory p) (around : List Path) :
    run (makeChain (p :: around)) t = ⟨.ok (), t, []⟩ := by
  rw [makeChain, Action.run_bind, make_again h]
  simp [settle, h]

theorem makeAll_again (h : t.DirectoryAt path) : run (makeAll path) t = ⟨.ok (), t, []⟩ := by
  rw [makeAll]
  split
  · rfl
  · rw [if_neg (Nat.not_lt.mpr h.1)]
    exact makeChain_again h.2 _

theorem write_again (h : t.FileAt path) : run (write path) t = ⟨.ok (), t, []⟩ := by
  have hlength : ¬ pathMax < path.utf8ByteSize := Nat.not_lt.mpr h.1
  rcases Tree.slot_of_find h.2 with ⟨-, hfile⟩ | ⟨directory, name, hslot, hnode⟩
  · exact absurd rfl hfile
  · simp [write, hlength, hslot, hnode]

theorem writeAll_again {paths : List String} (h : ∀ path ∈ paths, t.FileAt path) :
    run (writeAll paths) t = ⟨.ok (), t, []⟩ := by
  induction paths with
  | nil => rfl
  | cons path rest ih =>
    obtain ⟨hpath, hrest⟩ := List.forall_mem_cons.mp h
    simp [writeAll, write_again hpath, ih hrest]

end Again

end FlashIdent.Files
