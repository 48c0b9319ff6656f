import FlashIdent.Programmer
import FlashIdent.Proofs.Emulator.Histories
import FlashIdent.Proofs.Emulator.OptionMeaning
import FlashIdent.Proofs.Programmer.Spelling
import FlashIdent.Spidev.Rehearsed

/-!
# Emulated buses from programmer strings

A programmer string opens the emulated bus that its options describe, and raw calls are answered as on a bus that
was set up by hand with this chip and these faults.

Two fault plans may hold the same faults in another order.  No call tells them apart: `Emulator.Alike`.
-/

namespace FlashIdent

open FlashIdent.Action (run)

/-! ### Emulators that no call tells apart -/

namespace Emulator

/-- The emulators have the same chip in the same frame, and the same fault for each operation. -/
structure Alike (e other : Emulator) : Prop where
  flash : e.flash = other.flash
  held : e.held = other.held
  frame : e.frame = other.frame
  fault : ∀ operation, e.faults.fault? operation = other.faults.fault? operation

namespace Alike

variable {e other : Emulator}

theorem current (h : Alike e other) : e.current = other.current := by
  rw [Emulator.current, Emulator.current, h.held, h.frame]

theorem answer (h : Alike e other) (sent : Bytes) : e.answer sent = other.answer sent := by
  rw [Emulator.answer, Emulator.answer, h.flash, h.current]

theorem reply (h : Alike e other) (call : Call) : bus.reply call e = bus.reply call other := by
  rw [reply_eq, reply_eq, h.answer, FaultPlan.reply, FaultPlan.reply, h.fault]

theorem moved (h : Alike e other) (sent : Bytes) : Alike (e.moved sent) (other.moved sent) := by
  refine ⟨h.flash, h.held, ?_, h.fault⟩
  rw [Emulator.moved, Emulator.moved, h.held, h.flash, h.current]

theorem served (h : Alike e other) (call : Call) : Alike (e.served call) (other.served call) := by
  cases call with
  | acquire => exact ⟨h.flash, rfl, rfl, h.fault⟩
  | release => exact ⟨h.flash, rfl, rfl, h.fault⟩
  | write data timeout => exact h.moved data
  | read length timeout => exact h.moved _
  | writeRead data timeout => exact h.moved data

theorem after (h : Alike e other) (call : Call) : Alike (bus.after call e) (bus.after call other) := by
  have hnoted : Alike { e with tally := e.tally.noted call } { other with tally := other.tally.noted call } :=
    ⟨h.flash, h.held, h.frame, h.fault⟩
  rw [after_eq, after_eq, h.fault]
  split
  · exact hnoted
  · exact hnoted.served call

end Alike

end Emulator

/-! ### Opening -/

namespace Programmer

open Emulator (Alike Acceptable Describes FaultPlan Flash Offence OptionError Settings knownKeys)

variable {κ : Type}

theorem openString_emulator (k : Spidev.Kernel κ) (kernel : κ) {s : String} {options : Options}
    (hparse : parse s = ("dummy", options)) :
    (run (openString k s) kernel).value =
      ((options.foldlM (takeOption Settings.apply) {}).mapError OpenError.emulator).map
        (fun settings => .emulator (.ofSettings settings)) := by
  have hread : (run (Settings.read options) kernel).value = options.foldlM (takeOption Settings.apply) {} :=
    readOptions_value Settings.apply _ options {} kernel
  have hkind : Kind.find? "dummy" = some .emulator := by decide
  simp only [openString, hparse, hkind, openKind, Emulator.openFrom, Action.run_bind, Action.run_pure, hread]
  rcases options.foldlM (takeOption Settings.apply) {} with e | settings
  · rfl
  · rfl

theorem openString_eq_ok_iff (k : Spidev.Kernel κ) (kernel : κ) {s : String} {options : Options}
    (hparse : parse s = ("dummy", options)) {backend : Backend} :
    (run (openString k s) kernel).value = .ok backend ↔
      ∃ settings, options.foldlM (takeOption Settings.apply) {} = .ok settings ∧
        backend = .emulator (.ofSettings settings) := by
  rw [openString_emulator k kernel hparse]
  rcases options.foldlM (takeOption Settings.apply) {} with e | settings
  · simp [Except.mapError, Except.map]
  · simp [Except.mapError, Except.map, eq_comm]

theorem openString_eq_error_iff (k : Spidev.Kernel κ) (kernel : κ) {s : String} {options : Options}
    (hparse : parse s = ("dummy", options)) {e : OpenError} :
    (run (openString k s) kernel).value = .error e ↔
      ∃ offence, options.foldlM (takeOption Settings.apply) {} = .error offence ∧ e = .emulator offence := by
  rw [openString_emulator k kernel hparse]
  rcases options.foldlM (takeOption Settings.apply) {} with offence | settings
  · simp [Except.mapError, Except.map, eq_comm]
  · simp [Except.mapError, Except.map]

/-! ### Using what was opened -/

/-- The backend is an emulator that no call tells from the other one. -/
def Attached.AlikeTo (a : Attached κ) (other : Emulator) : Prop :=
  ∃ own, a.backend = .emulator own ∧ Alike own other

theorem Attached.AlikeTo.call (k : Spidev.Kernel κ) (call : Call) {a : Attached κ} {other : Emulator}
    (h : a.AlikeTo other) :
    (Attached.bus k).reply call a = Emulator.bus.reply call other ∧
    ((Attached.bus k).after call a).AlikeTo (Emulator.bus.after call other) := by
  obtain ⟨backend, kernel⟩ := a
  obtain ⟨own, rfl, halike⟩ := h
  exact ⟨halike.reply call, _, rfl, halike.after call⟩

/-- A programmer string opens the emulated bus that its options describe.  Take any options without separators
in them, in any spelling.  The bus opens if each option is acceptable, and otherwise fails by the offence of the
first one that is not.  Opened, it answers any raw calls as an emulator with the described chip, under any plan
with the described faults.  Without the options whose keys mean nothing, opening ends the same. -/
theorem emulator_string_faithful (k : Spidev.Kernel κ) (kernel : κ) {options : Options}
    {texts : List (List Char)} (hspells : List.Forall₂ Spells options texts)
    (hoptions : ∀ option ∈ options, Separable option) :
    let opening := run (openString k (spelled "dummy" texts)) kernel
    ((∃ backend, opening.value = .ok backend) ↔ ∀ option ∈ options, Acceptable option) ∧
    (∀ e, opening.value = .error e ↔ ∃ before option later offence, options = before ++ option :: later ∧
      (∀ o ∈ before, Acceptable o) ∧ Offence option offence ∧ e = .emulator offence) ∧
    (∀ backend, opening.value = .ok backend →
      (∃ flash plan, Describes options flash plan) ∧
      ∀ flash plan, Describes options flash plan → ∀ calls,
        (Attached.bus k).answers calls ⟨backend, opening.state⟩ =
          Emulator.bus.answers calls (.start flash plan)) ∧
    let known := options.filter fun option => decide (option.1 ∈ knownKeys)
    (run (openString k (write "dummy" known)) kernel).value = opening.value := by
  intro opening
  have hname : ':' ∉ "dummy".toList := by decide
  have hparse : parse (spelled "dummy" texts) = ("dummy", options) := parse_spelled hname hspells hoptions
  refine ⟨?_, ?_, ?_, ?_⟩
  · constructor
    · rintro ⟨backend, hopen⟩
      obtain ⟨settings, hread, _⟩ := (openString_eq_ok_iff k kernel hparse).mp hopen
      exact (Settings.exists_foldlM_iff options).mp ⟨settings, hread⟩
    · intro hacceptable
      obtain ⟨settings, hread⟩ := (Settings.exists_foldlM_iff options).mpr hacceptable
      exact ⟨_, (openString_eq_ok_iff k kernel hparse).mpr ⟨settings, hread, rfl⟩⟩
  · intro e
    rw [openString_eq_error_iff k kernel hparse]
    constructor
    · rintro ⟨offence, hread, rfl⟩
      obtain ⟨before, option, later, hcut, hbefore, hoffence⟩ := Settings.foldlM_eq_error_iff.mp hread
      exact ⟨before, option, later, offence, hcut, hbefore, hoffence, rfl⟩
    · rintro ⟨before, option, later, offence, hcut, hbefore, hoffence, rfl⟩
      exact ⟨offence, Settings.foldlM_eq_error_iff.mpr ⟨before, option, later, hcut, hbefore, hoffence⟩, rfl⟩
  · intro backend hopen
    obtain ⟨settings, hread, rfl⟩ := (openString_eq_ok_iff k kernel hparse).mp hopen
    have hdescribes : Describes options settings.flash (FaultPlan.ofList settings.faults) :=
      Describes.of_foldlM hread
    refine ⟨⟨_, _, hdescribes⟩, ?_⟩
    intro flash plan hother calls
    obtain ⟨hflash, hfault⟩ := hdescribes.unique hother
    have halike : Alike (.ofSettings settings) (.start flash plan) := ⟨hflash, rfl, rfl, hfault⟩
    exact answers_eq_of_related (fun call => Attached.AlikeTo.call k call) calls ⟨_, rfl, halike⟩
  · intro known
    have hknown : ∀ option ∈ known, Separable option :=
      fun option hmem => hoptions option (List.mem_filter.mp hmem).1
    rw [openString_emulator k kernel (parse_write hname hknown), Settings.foldlM_known]
    exact (openString_emulator k kernel hparse).symm

/-- A string with a byte given twice, an option that means nothing, a key without a value and three faults, one of
which takes the place of another. -/
theorem emulator_string_faithful_with_repetitions :
    let options : Options :=
      [("mfr", "c2"), ("fail", "read:timeout"), ("speed", "a:b=c"), ("mfr", "0x+1F"), ("absent", ""),
        ("fail", "write_read:transport"), ("fail", "read:transport")]
    let texts := ["mfr=c2", "fail=read:timeout", "speed=a:b=c", "mfr=0x+1F", "absent",
      "fail=write_read:transport", "fail=read:transport"].map String.toList
    let kernel := Spidev.KernelScript.withoutDevices fun _ => none
    let opening := run (openString Spidev.KernelScript.kernel (spelled "dummy" texts)) kernel
    List.Forall₂ Spells options texts ∧ (∀ option ∈ options, Separable option) ∧
    (∀ option ∈ options, Acceptable option) ∧
    ∃ backend flash plan, opening.value = .ok backend ∧ Describes options flash plan ∧
      Emulator.bus.answers [.read 2 none, .writeRead [0x90] none, .acquire] (.start flash plan) =
        [⟨.read 2 none, .error .transport⟩, ⟨.writeRead [0x90] none, .error .transport⟩,
          ⟨.acquire, .ok ()⟩] := by
  intro options texts kernel opening
  have hspells : List.Forall₂ Spells options texts := by
    refine .cons (.inl ?_) (.cons (.inl ?_) (.cons (.inl ?_) (.cons (.inl ?_) (.cons (.inr ?_)
      (.cons (.inl ?_) (.cons (.inl ?_) .nil))))))
    all_goals decide
  have hoptions : ∀ option ∈ options, Separable option := by
    have hall : ∀ option ∈ options,
        (',' ∉ option.1.toList ∧ '=' ∉ option.1.toList) ∧ ',' ∉ option.2.toList := by decide
    exact fun option hmem => ⟨(hall option hmem).1, (hall option hmem).2⟩
  obtain ⟨hopens, _, hanswers, _⟩ :=
    emulator_string_faithful Spidev.KernelScript.kernel kernel hspells hoptions
  let settings : Settings :=
    { flash := { manufacturer := 0x1f, present := false },
      faults := [(.read, .timeout), (.writeRead, .transport), (.read, .transport)] }
  have hread : options.foldlM (takeOption Settings.apply) ({} : Settings) = .ok settings := by decide +kernel
  have hopen : opening.value = .ok (.emulator (.ofSettings settings)) :=
    (openString_eq_ok_iff _ kernel (parse_spelled (by decide) hspells hoptions)).mpr ⟨settings, hread, rfl⟩
  obtain ⟨⟨flash, plan, hdescribes⟩, halike⟩ := hanswers _ hopen
  refine ⟨hspells, hoptions, hopens.mp ⟨_, hopen⟩, _, flash, plan, hopen, hdescribes, ?_⟩
  rw [← halike flash plan hdescribes]
  rfl

end Programmer

end FlashIdent
