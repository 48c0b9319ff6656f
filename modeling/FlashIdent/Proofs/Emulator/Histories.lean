import FlashIdent.Proofs.Emulator.Calls
import FlashIdent.Proofs.Session.HoldFlag

/-!
# What can happen to an emulator

Besides the session that uses it, an emulator can be used directly, by raw calls, and its fault plan can be
changed at any time.  An `Input` is one of these; an `Event` is an input or a step of the session.

What any call answers is `reply_eq`: the fault that the plan has for it, and otherwise what the chip sends.  Where
it leads is `after_eq`: it is noted in the tally, and then it does its work unless a fault is in the way; a release
does its work in any case.  No call changes the chip or the plan, so the plan in force is told by the faults that
were injected and cleared alone; and outside of a hold the frame is always a fresh one.
-/

namespace FlashIdent

open FlashIdent.Action (run)

/-! ### Any call -/

namespace Call

/-- The bytes that a call clocks out on an emulated bus. -/
def mosi : Call → Bytes
  | acquire => []
  | release => []
  | write data _ => data
  | read length _ => List.replicate length Emulator.idle
  | writeRead data _ => data

theorem length_mosi (call : Call) : call.mosi.length = call.size := by
  cases call with
  | acquire => rfl
  | release => rfl
  | write data timeout => rfl
  | read length timeout => exact List.length_replicate
  | writeRead data timeout => rfl

/-- The time bound of a transfer. -/
def timeout : Call → Timeout
  | acquire => none
  | release => none
  | write _ timeout => timeout
  | read _ timeout => timeout
  | writeRead _ timeout => timeout

end Call

namespace Emulator

/-- The reply to a call for which these bytes came back, unless the plan has a fault for it. -/
def FaultPlan.reply (plan : FaultPlan) (call : Call) (received : Bytes) : Reply call :=
  match plan.fault? call.operation with
  | none => .ok (call.answerOf received)
  | some fault => .error fault.error

theorem acquire_faulted {e : Emulator} {fault : Fault}
    (hfault : e.faults.fault? .acquire = some fault) :
    bus.reply .acquire e = .error fault.error ∧
    bus.after .acquire e = { e with tally := e.tally.count .acquire } := by
  obtain ⟨hvalue, hstate⟩ := checkFault_run .acquire { e with tally := e.tally.count .acquire }
  rw [show ({ e with tally := e.tally.count .acquire } : Emulator).faults = e.faults from rfl, hfault]
    at hvalue
  simp [Bus.reply, Bus.after, bus, acquire, hvalue, hstate]

theorem write_faulted {e : Emulator} {fault : Fault} (hfault : e.faults.fault? .write = some fault)
    (data : Bytes) (timeout : Timeout) :
    bus.reply (.write data timeout) e = .error fault.error ∧
    bus.after (.write data timeout) e = e.counted .write timeout := by
  obtain ⟨hvalue, hstate⟩ := transfer_faulted hfault data timeout
  simp [Bus.reply, Bus.after, bus, hvalue, hstate]

/-- A transfer that fails is counted and does nothing else. -/
theorem faulted_transfer {call : Call} (htransfer : call.isTransfer) {e : Emulator} {fault : Fault}
    (hfault : e.faults.fault? call.operation = some fault) :
    bus.reply call e = .error fault.error ∧ bus.after call e = e.counted call.operation call.timeout := by
  cases call with
  | acquire => cases htransfer
  | release => cases htransfer
  | write data timeout => exact write_faulted hfault data timeout
  | read length timeout => exact transfer_faulted hfault _ timeout
  | writeRead data timeout => exact transfer_faulted hfault data timeout

theorem done_transfer {call : Call} (htransfer : call.isTransfer) {e : Emulator}
    (hfault : e.faults.fault? call.operation = none) :
    bus.reply call e = .ok (call.answerOf (e.answer call.mosi)) ∧
    bus.after call e = (e.counted call.operation call.timeout).moved call.mosi := by
  cases call with
  | acquire => cases htransfer
  | release => cases htransfer
  | write data timeout => exact write_done hfault data timeout
  | read length timeout => exact read_done hfault length timeout
  | writeRead data timeout => exact writeRead_done hfault data timeout

/-- Every call fails by the fault that the plan has for it, and otherwise hands out what the chip sends. -/
theorem reply_eq (call : Call) (e : Emulator) :
    bus.reply call e = e.faults.reply call (e.answer call.mosi) := by
  rcases hfault : e.faults.fault? call.operation with _ | fault
  · rw [FaultPlan.reply, hfault]
    cases call with
    | acquire => exact (acquire_done hfault).1
    | release => rw [(release_run e).1, show e.faults.fault? .release = none from hfault]
    | write data timeout => exact (done_transfer rfl hfault).1
    | read length timeout => exact (done_transfer rfl hfault).1
    | writeRead data timeout => exact (done_transfer rfl hfault).1
  · rw [FaultPlan.reply, hfault]
    cases call with
    | acquire => exact (acquire_faulted hfault).1
    | release => rw [(release_run e).1, show e.faults.fault? .release = some fault from hfault]
    | write data timeout => exact (faulted_transfer rfl hfault).1
    | read length timeout => exact (faulted_transfer rfl hfault).1
    | writeRead data timeout => exact (faulted_transfer rfl hfault).1

/-- The tally when a call has been counted and the time bound of a transfer has been noted. -/
def Tally.noted (t : Tally) (call : Call) : Tally :=
  if call.isTransfer then (t.count call.operation).bound call.timeout else t.count call.operation

/-- What the work of a call makes of the emulator; noting the call is no part of it. -/
def served (e : Emulator) : Call → Emulator
  | .acquire => { e with held := true, frame := {} }
  | .release => { e with held := false, frame := {} }
  | call => e.moved call.mosi

/-- Every call is noted.  A fault keeps any call but a release from doing its work. -/
theorem after_eq (call : Call) (e : Emulator) :
    bus.after call e =
      if (e.faults.fault? call.operation).isSome ∧ call ≠ .release then { e with tally := e.tally.noted call }
      else served { e with tally := e.tally.noted call } call := by
  rcases hfault : e.faults.fault? call.operation with _ | fault
  · rw [if_neg (fun h => nomatch h.1)]
    cases call with
    | acquire => exact (acquire_done hfault).2
    | release => exact (release_run e).2
    | write data timeout => exact (done_transfer rfl hfault).2
    | read length timeout => exact (done_transfer rfl hfault).2
    | writeRead data timeout => exact (done_transfer rfl hfault).2
  · by_cases hrelease : call = .release
    · rw [if_neg (fun h => h.2 hrelease), hrelease]
      exact (release_run e).2
    · rw [if_pos ⟨rfl, hrelease⟩]
      cases call with
      | acquire => exact (acquire_faulted hfault).2
      | release => exact absurd rfl hrelease
      | write data timeout => exact (faulted_transfer rfl hfault).2
      | read length timeout => exact (faulted_transfer rfl hfault).2
      | writeRead data timeout => exact (faulted_transfer rfl hfault).2

theorem tally_after (call : Call) (e : Emulator) : (bus.after call e).tally = e.tally.noted call := by
  rw [after_eq]
  split
  · rfl
  · cases call <;> rfl

/-- A call that fails, if it is no release, is noted and does nothing else. -/
theorem after_faulted {call : Call} {e : Emulator} {fault : Fault}
    (hfault : e.faults.fault? call.operation = some fault) (hrelease : call ≠ .release) :
    bus.after call e = { e with tally := e.tally.noted call } := by
  rw [after_eq, hfault, if_pos ⟨rfl, hrelease⟩]

/-- While chip select is not asserted, no frame is open. -/
def Fresh (e : Emulator) : Prop := e.held = false → e.frame = {}

/-- What a call can do to an emulator.  Only its count is not told. -/
inductive Effect (e : Emulator) (call : Call) : Emulator → Prop
  | failed (tally : Tally) {fault : Fault} (hfault : e.faults.fault? call.operation = some fault)
    (hrelease : call ≠ .release) : Effect e call { e with tally := tally }
  | acquired (tally : Tally) (hcall : call = .acquire) (hfault : e.faults.fault? .acquire = none) :
    Effect e call { e with tally := tally, held := true, frame := {} }
  | released (tally : Tally) (hcall : call = .release) :
    Effect e call { e with tally := tally, held := false, frame := {} }
  | moved (tally : Tally) (htransfer : call.isTransfer)
    (hfault : e.faults.fault? call.operation = none) :
    Effect e call (moved { e with tally := tally } call.mosi)

theorem effect_after (call : Call) (e : Emulator) : Effect e call (bus.after call e) := by
  by_cases hrelease : call = .release
  · subst hrelease
    rw [after_eq, if_neg (fun h => h.2 rfl)]
    exact Effect.released _ rfl
  · rcases hfault : e.faults.fault? call.operation with _ | fault
    · rw [after_eq, hfault, if_neg (fun h => nomatch h.1)]
      cases call with
      | acquire => exact Effect.acquired _ rfl hfault
      | release => exact absurd rfl hrelease
      | write data timeout => exact Effect.moved _ rfl hfault
      | read length timeout => exact Effect.moved _ rfl hfault
      | writeRead data timeout => exact Effect.moved _ rfl hfault
    · rw [after_faulted hfault hrelease]
      exact Effect.failed _ hfault hrelease

namespace Effect

variable {e later : Emulator} {call : Call}

/-- Calls change neither the chip nor the fault plan. -/
theorem constant (h : Effect e call later) : later.flash = e.flash ∧ later.faults = e.faults := by
  cases h with
  | failed tally hfault hrelease => exact ⟨rfl, rfl⟩
  | acquired tally hcall hfault => exact ⟨rfl, rfl⟩
  | released tally hcall => exact ⟨rfl, rfl⟩
  | moved tally htransfer hfault => exact ⟨rfl, rfl⟩

theorem fresh (h : Effect e call later) (hfresh : Fresh e) : Fresh later := by
  intro hheld
  cases h with
  | failed tally hfault hrelease => exact hfresh hheld
  | acquired tally hcall hfault => cases hheld
  | released tally hcall => rfl
  | moved tally htransfer hfault => exact if_neg (Bool.eq_false_iff.mp hheld)

theorem held_of_transfer (h : Effect e call later) (htransfer : call.isTransfer) : later.held = e.held := by
  cases h with
  | failed tally hfault hrelease => rfl
  | acquired tally hcall hfault => rw [hcall] at htransfer; cases htransfer
  | released tally hcall => rw [hcall] at htransfer; cases htransfer
  | moved tally htransfer hfault => rfl

end Effect

theorem preserves_constant (flash : Flash) (plan : FaultPlan) :
    Preserves bus fun e => e.flash = flash ∧ e.faults = plan := by
  rintro call e ⟨rfl, rfl⟩
  exact (effect_after call e).constant

theorem preserves_fresh : Preserves bus Fresh := by
  intro call e hfresh
  exact (effect_after call e).fresh hfresh

/-- What the emulator notes of chip select follows the calls. -/
theorem holdFlag : HoldFlag bus Emulator.held where
  acquire := by
    intro e
    rcases hfault : e.faults.fault? .acquire with _ | fault
    · obtain ⟨hreply, hafter⟩ := acquire_done hfault
      rw [hreply, hafter]
    · obtain ⟨hreply, hafter⟩ := acquire_faulted hfault
      rw [hreply, hafter]
  release := by
    intro e
    rw [(release_run e).2]
  transfer := by
    intro call e hacquire hrelease
    exact (effect_after call e).held_of_transfer (Call.isTransfer_of_ne hacquire hrelease)

/-! ### Inputs -/

/-- What can be done to an emulator past its session. -/
inductive Input where
  | call (c : Call)
  | fail (operation : Operation) (fault : Fault)
  | clearFaults

/-- An input that neither acquires nor releases the bus. -/
def Input.keepsHold : Input → Bool
  | .call c => c.isTransfer
  | .fail _ _ => true
  | .clearFaults => true

def feed (e : Emulator) : Input → Emulator
  | .call c => bus.after c e
  | .fail operation fault => e.fail operation fault
  | .clearFaults => e.clearFaults

def feedAll (e : Emulator) (inputs : List Input) : Emulator := inputs.foldl feed e

namespace FaultPlan

def feed (plan : FaultPlan) : Input → FaultPlan
  | .call _ => plan
  | .fail operation fault => plan.inject operation fault
  | .clearFaults => {}

/-- The plan that is in force when these inputs have come. -/
def feedAll (plan : FaultPlan) (inputs : List Input) : FaultPlan := inputs.foldl feed plan

end FaultPlan

theorem feed_flash (e : Emulator) (i : Input) : (e.feed i).flash = e.flash := by
  cases i with
  | call c => exact (effect_after c e).constant.1
  | fail operation fault => rfl
  | clearFaults => rfl

theorem feed_faults (e : Emulator) (i : Input) : (e.feed i).faults = e.faults.feed i := by
  cases i with
  | call c => exact (effect_after c e).constant.2
  | fail operation fault => rfl
  | clearFaults => rfl

theorem feed_held (e : Emulator) {i : Input} (hkeeps : i.keepsHold) : (e.feed i).held = e.held := by
  cases i with
  | call c => exact (effect_after c e).held_of_transfer hkeeps
  | fail operation fault => rfl
  | clearFaults => rfl

theorem feed_fresh {e : Emulator} (hfresh : Fresh e) (i : Input) : Fresh (e.feed i) := by
  cases i with
  | call c => exact preserves_fresh c e hfresh
  | fail operation fault => exact hfresh
  | clearFaults => exact hfresh

theorem feedAll_constant (inputs : List Input) :
    ∀ e : Emulator,
      (e.feedAll inputs).flash = e.flash ∧ (e.feedAll inputs).faults = e.faults.feedAll inputs := by
  induction inputs with
  | nil =>
    intro e
    exact ⟨rfl, rfl⟩
  | cons i later ih =>
    intro e
    obtain ⟨hflash, hfaults⟩ := ih (e.feed i)
    rw [feed_flash] at hflash
    rw [feed_faults] at hfaults
    exact ⟨hflash, hfaults⟩

theorem feedAll_held {inputs : List Input} (hkeeps : ∀ i ∈ inputs, i.keepsHold) :
    ∀ e : Emulator, (e.feedAll inputs).held = e.held := by
  induction inputs with
  | nil =>
    intro e
    rfl
  | cons i later ih =>
    intro e
    have hlater := ih (fun j hj => hkeeps j (List.mem_cons_of_mem i hj)) (e.feed i)
    rw [feed_held e (hkeeps i List.mem_cons_self)] at hlater
    exact hlater

/-! ### Events -/

/-- What can happen to a session on an emulated bus. -/
inductive Event where
  | step (s : Session.Step)
  | input (i : Input)

def happen (s : Session Emulator) : Event → Session Emulator
  | .step step => (run (Session.step bus step) s).state
  | .input i => { s with transport := s.transport.feed i }

/-- A session and its emulator after all that happened to them. -/
def happenAll (s : Session Emulator) (history : List Event) : Session Emulator :=
  history.foldl happen s

namespace FaultPlan

def happen (plan : FaultPlan) : Event → FaultPlan
  | .step _ => plan
  | .input i => plan.feed i

/-- The plan that is in force after a history: only the faults injected and cleared in it count. -/
def happenAll (plan : FaultPlan) (history : List Event) : FaultPlan := history.foldl happen plan

end FaultPlan

theorem happen_fresh {s : Session Emulator} (hfresh : Fresh s.transport) (event : Event) :
    Fresh (happen s event).transport := by
  cases event with
  | step step => exact preserves_fresh.move (.step step) hfresh
  | input i => exact feed_fresh hfresh i

theorem happen_constant (s : Session Emulator) (event : Event) :
    (happen s event).transport.flash = s.transport.flash ∧
    (happen s event).transport.faults = s.transport.faults.happen event := by
  cases event with
  | step step => exact (preserves_constant _ _).move (.step step) ⟨rfl, rfl⟩
  | input i => exact ⟨feed_flash s.transport i, feed_faults s.transport i⟩

/-- Whatever happened, the chip is the same, the plan is the one that was made of it in between, and no frame is
open without chip select. -/
theorem happenAll_transport (history : List Event) :
    ∀ {s : Session Emulator}, Fresh s.transport →
      (happenAll s history).transport.flash = s.transport.flash ∧
      (happenAll s history).transport.faults = s.transport.faults.happenAll history ∧
      Fresh (happenAll s history).transport := by
  induction history with
  | nil =>
    intro s hfresh
    exact ⟨rfl, rfl, hfresh⟩
  | cons event later ih =>
    intro s hfresh
    obtain ⟨hflash, hfaults⟩ := happen_constant s event
    obtain ⟨hflashes, hplan, hlast⟩ := ih (happen_fresh hfresh event)
    rw [hflash] at hflashes
    rw [hfaults] at hplan
    exact ⟨hflashes, hplan, hlast⟩

end Emulator

end FlashIdent
