import FlashIdent.Proofs.Emulator.Stream
import FlashIdent.Proofs.Probe.Handshakes

/-!
# A probe forgets what happened before

What a probe of an emulated chip reports is a function of the chip, of the fault plan in force and of the
identity table: `foreseen`.  Nothing that happened to the session and the emulator before can be seen in it,
as long as the bus is not held when the probe begins.  The probe leaves the bus as it found it, not held and
without an open frame, so the next probe finds the same.

`Ready` is the state from which this holds, and which it leads back to.
-/

namespace FlashIdent.Emulator

open FlashIdent.Action (run)
open Probe (Prober Report)
open Identification

/-! ### What a chip answers to the handshakes -/

namespace Flash

/-- The answer frame of the manufacturer and device command. -/
def remsAnswer (f : Flash) : Bytes :=
  if f.present then [0xff, 0xff, 0xff, 0xff, f.manufacturer, f.device] else [0, 0, 0, 0, 0, 0]

def jedecAnswer (f : Flash) : JedecId :=
  if f.present then ⟨f.manufacturer, f.memoryType, f.capacity⟩ else ⟨0, 0, 0⟩

theorem stream_remsFrame (f : Flash) : f.stream remsFrame = f.remsAnswer := by
  rcases hpresent : f.present with _ | _
  · simp [stream, sends, remsAnswer, remsFrame, hpresent, List.range_succ]
  · simp [stream, sends, remsAnswer, remsFrame, remsOpcode, hpresent, List.range_succ]

theorem stream_rdid (f : Flash) :
    (f.stream (rdidOpcode :: List.replicate jedecIdLength idle)).drop 1 = f.jedecAnswer.toBytes := by
  rcases hpresent : f.present with _ | _
  · simp [stream, sends, jedecAnswer, JedecId.toBytes, jedecIdLength, hpresent, List.range_succ]
  · simp [stream, sends, jedecAnswer, JedecId.toBytes, rdidOpcode, jedecIdLength, hpresent, List.range_succ]

end Flash

/-- The report of a probe, told without a bus. -/
def foreseen (f : Flash) (plan : FaultPlan) (table : Chip.Table) : Report :=
  .ofDecodings
    (if plan.fault? .writeRead = none then Decoding.ofFrame? table f.remsAnswer else none)
    (if plan.fault? .acquire = none ∧ plan.fault? .write = none ∧ plan.fault? .read = none then
      some (Decoding.ofJedecId table f.jedecAnswer)
    else none)

/-- A fault of the release shows in no report. -/
theorem foreseen_inject_release (f : Flash) (plan : FaultPlan) (fault : Fault) (table : Chip.Table) :
    foreseen f (plan.inject .release fault) table = foreseen f plan table := by
  have hother : ∀ operation, operation ≠ .release →
      (plan.inject .release fault).fault? operation = plan.fault? operation :=
    fun operation hne => plan.fault?_inject_of_ne fault hne
  simp only [foreseen, hother .writeRead (by decide), hother .acquire (by decide), hother .write (by decide),
    hother .read (by decide)]

/-! ### The handshakes on an emulator -/

theorem toOption_reply (call : Call) (e : Emulator) :
    (bus.reply call e).toOption =
      if e.faults.fault? call.operation = none then some (call.answerOf (e.answer call.mosi)) else none := by
  rw [reply_eq]
  rcases hfault : e.faults.fault? call.operation with _ | fault
  · simp [FaultPlan.reply, hfault, Except.toOption]
  · simp [FaultPlan.reply, hfault, Except.toOption]

theorem readJedecId_value (timeout : Timeout) (e : Emulator) :
    (run (Session.readJedecId bus timeout) ⟨.released, e⟩).value.toOption =
      if e.faults.fault? .acquire = none ∧ e.faults.fault? .write = none ∧ e.faults.fault? .read = none then
        some e.flash.jedecAnswer
      else none := by
  have hplan : (Session.acquired bus e).faults = e.faults := (effect_after .acquire e).constant.2
  have hplan' : (Session.asked bus timeout e).faults = e.faults :=
    (effect_after (.write [rdidOpcode] timeout) (Session.acquired bus e)).constant.2.trans hplan
  have hacquired := toOption_reply .acquire e
  have hasked := toOption_reply (.write [rdidOpcode] timeout) (Session.acquired bus e)
  have hanswered := toOption_reply (.read jedecIdLength timeout) (Session.asked bus timeout e)
  rw [hplan] at hasked
  rw [hplan'] at hanswered
  rw [(Session.readJedecId_released bus timeout e).1, Session.received?, hacquired, hasked, hanswered]
  by_cases hfaults : e.faults.fault? .acquire = none ∧ e.faults.fault? .write = none ∧
    e.faults.fault? .read = none
  · rw [if_pos hfaults]
    obtain ⟨hacquire, hwrite, hread⟩ := hfaults
    have hopened : InFrame e.flash [] (Session.acquired bus e) := inFrame_acquire (acquire_done hacquire).1
    have hframe : InFrame e.flash [rdidOpcode] (Session.asked bus timeout e) :=
      hopened.after_done (.write [rdidOpcode] timeout) rfl (hplan.symm ▸ hwrite)
    have hid : (Session.asked bus timeout e).answer (List.replicate jedecIdLength idle) =
        e.flash.jedecAnswer.toBytes :=
      (hframe.answer _).trans e.flash.stream_rdid
    simp [Call.operation, Call.mosi, Call.answerOf, hacquire, hwrite, hread, hid, JedecId.ofBytes?_toBytes]
  · rw [if_neg hfaults]
    -- any one of the three faults ends the handshake
    by_cases hacquire : e.faults.fault? .acquire = none
    · by_cases hwrite : e.faults.fault? .write = none
      · have hread : e.faults.fault? .read ≠ none := fun hread => hfaults ⟨hacquire, hwrite, hread⟩
        simp [Call.operation, hread]
      · simp [Call.operation, hwrite]
    · simp [Call.operation, hacquire]

/-! ### Probes -/

/-- The bus is not held and no frame is open. -/
structure Ready (f : Flash) (plan : FaultPlan) (s : Session Emulator) : Prop where
  released : s.hold = .released
  unheld : s.transport.held = false
  frame : s.transport.frame = {}
  flash : s.transport.flash = f
  plan : s.transport.faults = plan

variable {f : Flash} {plan : FaultPlan} {s : Session Emulator}

namespace Ready

/-- A probe leaves everything ready for the next one. -/
theorem probe_state (h : Ready f plan s) (p : Prober) : Ready f plan (run (p.probe bus) s).state := by
  have hreleased : (run (p.probe bus) s).state.hold = .released := (p.probe_hold bus s).trans h.released
  have hheld : (run (p.probe bus) s).state.transport.held =
      decide ((run (p.probe bus) s).state.hold = .held) := by
    refine holdFlag.invariant.steps [.probe p] s ?_
    rw [h.unheld, h.released]
    rfl
  have hunheld : (run (p.probe bus) s).state.transport.held = false := by
    rw [hheld, hreleased]
    rfl
  have hfresh : Fresh (run (p.probe bus) s).state.transport :=
    preserves_fresh.move (.step (.probe p)) fun _ => h.frame
  obtain ⟨hflash, hplan⟩ := (preserves_constant f plan).move (.step (.probe p)) ⟨h.flash, h.plan⟩
  exact ⟨hreleased, hunheld, hfresh hunheld, hflash, hplan⟩

theorem probe_value (h : Ready f plan s) (p : Prober) :
    (run (p.probe bus) s).value = foreseen f plan p.table := by
  obtain ⟨hold, e⟩ := s
  obtain rfl : hold = .released := h.released
  obtain rfl : e.flash = f := h.flash
  obtain rfl : e.faults = plan := h.plan
  obtain ⟨hflash, hplan⟩ := (effect_after (.writeRead remsFrame p.timeouts.rems) e).constant
  rw [(p.probe_run bus ⟨.released, e⟩).1, readJedecId_value, hflash, hplan, toOption_reply,
    answer_unheld h.unheld]
  simp only [Call.mosi, Call.operation, Call.answerOf, Flash.stream_remsFrame, foreseen]
  congr 1
  · split
    · rfl
    · rfl
  · split
    · rfl
    · rfl

/-- So further probes report the same. -/
theorem probes (ps : List Prober) :
    ∀ {s : Session Emulator}, Ready f plan s →
      (run (Probe.probes bus ps) s).value = ps.map (fun p => foreseen f plan p.table) ∧
      Ready f plan (run (Probe.probes bus ps) s).state := by
  induction ps with
  | nil =>
    intro s h
    exact ⟨rfl, h⟩
  | cons p later ih =>
    intro s h
    obtain ⟨hvalues, hlast⟩ := ih (h.probe_state p)
    refine ⟨?_, hlast⟩
    rw [List.map_cons, ← hvalues, ← h.probe_value p]
    rfl

end Ready

/-- A probe forgets what happened before.  Take any chip and any history of session steps, raw calls and faults
that are injected and cleared, at whose end the bus is not held.  Then any number of probes, with any tables and
time bounds, each report what is foreseen for the chip, the faults in force and the table, which no fault of the
release changes, and they leave the emulator without chip select and with a fresh frame. -/
theorem probe_forgets_history (f : Flash) (history : List Event)
    (hreleased : (happenAll (.start (.start f {})) history).hold = .released)
    (hunheld : (happenAll (.start (.start f {})) history).transport.held = false) (ps : List Prober) :
    let plan := ({} : FaultPlan).happenAll history
    let outcome := run (Probe.probes bus ps) (happenAll (.start (.start f {})) history)
    outcome.value = ps.map (fun p => foreseen f plan p.table) ∧
    outcome.state.hold = .released ∧
    outcome.state.transport.held = false ∧ outcome.state.transport.frame = {} ∧
    ∀ fault table, foreseen f (plan.inject .release fault) table = foreseen f plan table := by
  intro plan outcome
  have hstart : Fresh (Session.start (Emulator.start f {})).transport := fun _ => rfl
  obtain ⟨hflash, hplan, hfresh⟩ := happenAll_transport history hstart
  have hready : Ready f plan (happenAll (.start (.start f {})) history) :=
    ⟨hreleased, hunheld, hfresh hunheld, hflash, hplan⟩
  obtain ⟨hvalues, hlast⟩ := hready.probes ps
  exact ⟨hvalues, hlast.released, hlast.unheld, hlast.frame, foreseen_inject_release f plan⟩

/-- A scoped hold that fails, a probe while the bus is held past the session, and a session that is given up with
the bus.  In the end a write and a release fail, so only the first handshake is completed. -/
theorem probe_forgets_interrupted_commands :
    let f : Flash := { capacity := 0x15 }
    let history : List Event :=
      [.input (.fail .read .timeout), .step (.hold [.write [0x90, 0] none, .read 2 none] true),
        .input (.call .acquire), .input (.call (.write [0x9f] none)), .step (.probe {}),
        .input (.call .release), .input .clearFaults, .input (.fail .write .transport),
        .input (.fail .release .timeout), .step .acquire, .step .renew]
    let report : Report :=
      .ofDecodings (some ⟨.known "Winbond" "W25Q32", ["Found Winbond device", "Device ID: W25Q32"]⟩) none
    (happenAll (.start (.start f {})) history).hold = .released ∧
    (happenAll (.start (.start f {})) history).transport.held = false ∧
    let outcome := run (Probe.probes bus [{}, {}]) (happenAll (.start (.start f {})) history)
    outcome.value = [report, report] ∧ outcome.state.transport.held = false := by
  intro f history report
  have hreleased : (happenAll (.start (.start f {})) history).hold = .released := by decide +kernel
  have hunheld : (happenAll (.start (.start f {})) history).transport.held = false := by decide +kernel
  have hforeseen : foreseen f (({} : FaultPlan).happenAll history) Chip.Table.builtin = report := rfl
  obtain ⟨hvalue, _, hlast, _⟩ := probe_forgets_history f history hreleased hunheld [{}, {}]
  simp only [List.map_cons, List.map_nil, hforeseen] at hvalue
  exact ⟨hreleased, hunheld, hvalue, hlast⟩

end FlashIdent.Emulator
