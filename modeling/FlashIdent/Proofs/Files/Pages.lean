import FlashIdent.Manual
import FlashIdent.Proofs.Files.Changes

/-!
# Where the manual pages are

A run that writes the manual pages leaves everything in the tree where it was, also when it fails halfway.  If it
succeeds the pages are among the names in the directory (`pages_written`), and a run after it ends the same way and
leaves the tree as it is (`pages_written_again`).

The path of a page is the path of the directory and one more step, whether the directory is written with a slash at
its end, without one, or not at all.
-/

namespace FlashIdent

namespace Files

/-! ### Names in directories -/

namespace Tree

variable {t t' : Tree} {directory : Nat} {name path : String}

theorem mem_names_iff : name ∈ t.names directory ↔ ∃ node, t.node? directory name = some node := by
  unfold names node?
  cases t.directories[directory]? with
  | none => simp
  | some d => simp [← Option.isSome_iff_exists, List.lookup_isSome_iff]

theorem mem_namesAt_iff : name ∈ t.namesAt path ↔ path.utf8ByteSize ≤ pathMax ∧
    ∃ number node, t.find (Path.ofString path) = .ok (.directory number) ∧ t.node? number name = some node := by
  by_cases hlength : pathMax < path.utf8ByteSize
  · simp [namesAt, hlength, Nat.not_le.mpr hlength]
  · rcases hfind : t.find (Path.ofString path) with e | (_ | number)
    · simp [namesAt, hlength, hfind]
    · simp [namesAt, hlength, hfind]
    · simp [namesAt, hlength, hfind, mem_names_iff, Nat.le_of_not_lt hlength]

theorem lasting_mem_namesAt (path name : String) : Lasting fun t => name ∈ t.namesAt path := by
  intro t t' hsound hgrows h
  obtain ⟨hlength, number, node, hfind, hnode⟩ := mem_namesAt_iff.mp h
  exact mem_namesAt_iff.mpr ⟨hlength, number, node, find_of_growsInto hsound hgrows hfind, hgrows.inside hnode⟩

end Tree

/-! ### Pages in directories -/

open Manual (inDirectory pages file)

theorem steps_append_slash (directory name : String) :
    (Path.ofString (directory ++ "/" ++ name)).steps =
      (Path.ofString directory).steps ++ (Path.ofString name).steps := by
  simp [Path.ofString, Text.splitAll_append_cons]

theorem absolute_append {directory : String} (h : directory.toList ≠ []) (name : String) :
    (Path.ofString (directory ++ name)).absolute = (Path.ofString directory).absolute := by
  obtain ⟨first, later, hchars⟩ := List.exists_cons_of_ne_nil h
  simp [Path.ofString, hchars]

/-- A path from the working directory goes on from any other directory. -/
theorem ofString_inDirectory (directory : String) {name : String}
    (hrelative : (Path.ofString name).absolute = false) :
    Path.ofString (inDirectory directory name) =
      ⟨(Path.ofString directory).absolute, (Path.ofString directory).steps ++ (Path.ofString name).steps⟩ := by
  rcases List.eq_nil_or_concat directory.toList with hnil | ⟨before, last, hchars⟩
  · obtain rfl : directory = "" := String.toList_inj.mp hnil
    rw [Path.mk.injEq]
    exact ⟨hrelative, rfl⟩
  rw [List.concat_eq_append] at hchars
  have hne : directory.toList ≠ [] := by simp [hchars]
  by_cases hslash : last = '/'
  · have hdirectory : directory = String.ofList before ++ "/" := by
      rw [← String.toList_inj, hchars, hslash]
      simp
    have hsteps : (Path.ofString directory).steps = (Path.ofString (String.ofList before)).steps := by
      rw [hdirectory, ← String.append_empty (s := String.ofList before ++ "/"), steps_append_slash]
      exact List.append_nil _
    have hin : inDirectory directory name = directory ++ name := by simp [inDirectory, hchars, hslash]
    rw [hin, Path.mk.injEq, hsteps, ← steps_append_slash, ← hdirectory]
    exact ⟨absolute_append hne name, rfl⟩
  · have hin : inDirectory directory name = directory ++ "/" ++ name := by simp [inDirectory, hchars]
    rw [hin, Path.mk.injEq, ← steps_append_slash]
    refine ⟨?_, rfl⟩
    rw [String.append_assoc]
    exact absolute_append hne _

theorem ofString_file {page : String} (hpage : page ∈ pages) :
    Path.ofString (file page) = ⟨false, [.name (file page)]⟩ := by
  revert page
  decide +kernel

/-- What is found at the path of a page is in the directory. -/
theorem file_mem_namesAt {t : Tree} {directory page : String} (hpage : page ∈ pages)
    (hdirectory : t.DirectoryAt directory) (hfile : t.FileAt (inDirectory directory (file page))) :
    file page ∈ t.namesAt directory := by
  obtain ⟨number, hfind⟩ := Tree.hasDirectory_iff.mp hdirectory.2
  have hbare := ofString_file hpage
  have hwalk := hfile.2
  rw [ofString_inDirectory directory (by rw [hbare]), hbare] at hwalk
  obtain ⟨place, hplace, hlast⟩ := Tree.walk_append_eq_ok_iff.mp hwalk
  obtain rfl : .directory number = place := Except.ok.inj (hfind.symm.trans hplace)
  obtain ⟨found, henter, hfound⟩ := Tree.walk_cons_eq_ok_iff.mp hlast
  have hnode := (Tree.enter_name_eq_ok_iff.mp henter).2
  exact Tree.mem_namesAt_iff.mpr ⟨hdirectory.1, number, found, hfind, hnode⟩

theorem openError?_of_fileAt {t : Tree} {directory page : String}
    (hfile : t.FileAt (inDirectory directory (file page))) :
    t.openError? (inDirectory directory (file page)) = none := by
  refine Tree.openError?_eq_none_iff.mpr ⟨hfile, ?_⟩
  have hlast : (inDirectory directory (file page)).toList.getLast? = some '1' := by
    unfold inDirectory
    split <;> simp [file, List.getLast?_cons]
  rw [hlast]
  decide

end Files

namespace Manual

open Files

/-! ### Runs -/

theorem generate_grows (directory : String) : Grows (fun _ => True) (generate directory) fun answer t =>
    answer = .ok () →
      t.DirectoryAt directory ∧ ∀ page ∈ pages, t.FileAt (inDirectory directory (file page)) := by
  refine (makeAll_grows directory).bind fun answer => ?_
  cases answer with
  | error e => exact .pure (by simp)
  | ok _ =>
    intro t hsound hmade
    let paths := pages.map fun page => inDirectory directory (file page)
    obtain ⟨hsound', hgrows, hwritten, hkept⟩ :=
      (writeAll_grows paths).keeping (Files.Tree.lasting_directoryAt directory) t hsound ⟨trivial, hmade rfl⟩
    refine ⟨hsound', hgrows, fun hok => ⟨hkept, ?_⟩⟩
    simpa [paths] using hwritten hok

theorem generate_again {t : Files.Tree} {directory : String} (hdirectory : t.DirectoryAt directory)
    (hpages : ∀ page ∈ pages, t.FileAt (inDirectory directory (file page))) :
    Action.run (generate directory) t = ⟨.ok (), t, []⟩ := by
  have hpaths : ∀ path ∈ pages.map fun page => inDirectory directory (file page), t.FileAt path := by
    simpa using hpages
  simp [generate, makeAll_again hdirectory, writeAll_again hpaths]

theorem status_eq_zero_iff {directory : Option String} {t : Files.Tree} : (run directory t).status = 0 ↔
    (Action.run (generate (directory.getD standardDirectory)) t).value = .ok () := by
  cases hvalue : (Action.run (generate (directory.getD standardDirectory)) t).value with
  | error e => simp [run, hvalue]
  | ok _ => simp [run, hvalue]

theorem run_of_ok {directory : Option String} {t : Files.Tree}
    (hok : (Action.run (generate (directory.getD standardDirectory)) t).value = .ok ()) :
    run directory t = ⟨0, output (directory.getD standardDirectory), "",
      (Action.run (generate (directory.getD standardDirectory)) t).state.namesAt
        (directory.getD standardDirectory)⟩ := by
  simp [run, hok]

theorem names_run (directory : Option String) (t : Files.Tree) : (run directory t).names =
    (Action.run (generate (directory.getD standardDirectory)) t).state.namesAt
      (directory.getD standardDirectory) := by
  cases hvalue : (Action.run (generate (directory.getD standardDirectory)) t).value with
  | error e => simp [run, hvalue]
  | ok _ => simp [run, hvalue]

/-- The names that were in the directory are still there.  After a run that succeeds the pages are among them, and
each one opens at its path. -/
theorem pages_written {t : Files.Tree} (hsound : t.Sound) (directory : Option String) :
    let place := directory.getD standardDirectory
    let later := (Action.run (generate place) t).state
    (∀ name ∈ t.namesAt place, name ∈ (run directory t).names) ∧
    ((run directory t).status = 0 → ∀ page ∈ pages, file page ∈ (run directory t).names ∧
      later.openError? (inDirectory place (file page)) = none) := by
  intro place later
  obtain ⟨-, hgrows, hmade⟩ := generate_grows place t hsound trivial
  rw [names_run, status_eq_zero_iff]
  constructor
  · intro name hname
    exact Files.Tree.lasting_mem_namesAt _ name hsound hgrows hname
  · intro hok page hpage
    obtain ⟨hdirectory, hfiles⟩ := hmade hok
    exact ⟨file_mem_namesAt hpage hdirectory (hfiles page hpage), openError?_of_fileAt (hfiles page hpage)⟩

-- neither the directory nor the one around it is there before
example : (run (some "doc/man/") {}).status = 0 := by decide +kernel

/-- After a run that succeeds another one finds everything there, changes nothing and says the same. -/
theorem pages_written_again {t : Files.Tree} (hsound : t.Sound) {directory : Option String}
    (hstatus : (run directory t).status = 0) :
    let place := directory.getD standardDirectory
    let later := (Action.run (generate place) t).state
    (Action.run (generate place) later).state = later ∧ run directory later = run directory t := by
  intro place later
  obtain ⟨-, -, hmade⟩ := generate_grows place t hsound trivial
  have hok := status_eq_zero_iff.mp hstatus
  obtain ⟨hdirectory, hfiles⟩ := hmade hok
  have hagain : Action.run (generate place) later = ⟨.ok (), later, []⟩ := generate_again hdirectory hfiles
  have hstate : (Action.run (generate place) later).state = later := by rw [hagain]
  have hvalue : (Action.run (generate place) later).value = .ok () := by rw [hagain]
  refine ⟨hstate, ?_⟩
  calc
    run directory later = ⟨0, output place, "", (Action.run (generate place) later).state.namesAt place⟩ :=
      run_of_ok hvalue
    _ = ⟨0, output place, "", later.namesAt place⟩ := by rw [hstate]
    _ = run directory t := (run_of_ok hok).symm

end Manual

end FlashIdent
