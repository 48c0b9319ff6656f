import FlashIdent.Emulator
import FlashIdent.Proofs.Session.Calls

/-!
# What bus calls do to the emulator

Each call on the emulated bus either fails by a fault of the plan or does its work, and it is counted in both
cases.  Outside of a hold the frame of a transfer is a fresh one, before the transfer and after it.
-/

namespace FlashIdent.Emulator

open FlashIdent.Action (run)

def current (e : Emulator) : Frame := if e.held then e.frame else {}

def answer (e : Emulator) (sent : Bytes) : Bytes := (e.flash.clock e.current sent).1

/-- The emulator when the bytes have been sent and the chip has answered. -/
def moved (e : Emulator) (sent : Bytes) : Emulator :=
  { e with frame := if e.held then (e.flash.clock e.current sent).2 else {} }

/-- The emulator when a transfer has been counted. -/
def counted (e : Emulator) (operation : Operation) (timeout : Timeout) : Emulator :=
  { e with tally := (e.tally.count operation).bound timeout }

theorem checkFault_run (operation : Operation) (e : Emulator) :
    (run (checkFault operation) e).value =
      (match e.faults.fault? operation with
        | none => .ok ()
        | some fault => .error fault.error) ∧
    (run (checkFault operation) e).state = e := by
  rcases hfault : e.faults.fault? operation with _ | fault
  · simp [checkFault, hfault]
  · simp [checkFault, hfault]

theorem exchange_run (sent : Bytes) (e : Emulator) :
    (run (exchange sent) e).value = e.answer sent ∧ (run (exchange sent) e).state = e.moved sent := by
  rcases hheld : e.held with _ | _
  · simp [run, exchange, answer, moved, current, hheld]
  · simp [run, exchange, answer, moved, current, hheld]

theorem transfer_faulted {operation : Operation} {fault : Fault} {e : Emulator}
    (hfault : e.faults.fault? operation = some fault) (sent : Bytes) (timeout : Timeout) :
    (run (transfer operation sent timeout) e).value = .error fault.error ∧
    (run (transfer operation sent timeout) e).state = e.counted operation timeout := by
  obtain ⟨hvalue, hstate⟩ := checkFault_run operation (e.counted operation timeout)
  have hplan : (e.counted operation timeout).faults.fault? operation = some fault := hfault
  rw [hplan] at hvalue
  simp only [counted] at hvalue hstate
  simp [transfer, hvalue, hstate, counted]

theorem transfer_done {operation : Operation} {e : Emulator}
    (hfault : e.faults.fault? operation = none) (sent : Bytes) (timeout : Timeout) :
    (run (transfer operation sent timeout) e).value = .ok (e.answer sent) ∧
    (run (transfer operation sent timeout) e).state = (e.counted operation timeout).moved sent := by
  obtain ⟨hvalue, hstate⟩ := checkFault_run operation (e.counted operation timeout)
  have hplan : (e.counted operation timeout).faults.fault? operation = none := hfault
  obtain ⟨hanswer, hmoved⟩ := exchange_run sent (e.counted operation timeout)
  rw [hplan] at hvalue
  simp only [counted] at hvalue hstate hanswer hmoved
  simp [transfer, hvalue, hstate, hanswer, hmoved, counted]
  rfl

/-! ### Calls on the bus -/

theorem acquire_done {e : Emulator} (hfault : e.faults.fault? .acquire = none) :
    bus.reply .acquire e = .ok () ∧
    bus.after .acquire e = { e with tally := e.tally.count .acquire, held := true, frame := {} } := by
  obtain ⟨hvalue, hstate⟩ := checkFault_run .acquire { e with tally := e.tally.count .acquire }
  rw [show ({ e with tally := e.tally.count .acquire } : Emulator).faults = e.faults from rfl, hfault]
    at hvalue
  simp [Bus.reply, Bus.after, bus, acquire, hvalue, hstate]

/-- A release gives chip select back also when it fails. -/
theorem release_run (e : Emulator) :
    bus.reply .release e =
      (match e.faults.fault? .release with
        | none => .ok ()
        | some fault => .error fault.error) ∧
    bus.after .release e = { e with tally := e.tally.count .release, held := false, frame := {} } :=
  checkFault_run .release { e with tally := e.tally.count .release, held := false, frame := {} }

theorem write_done {e : Emulator} (hfault : e.faults.fault? .write = none) (data : Bytes)
    (timeout : Timeout) :
    bus.reply (.write data timeout) e = .ok () ∧
    bus.after (.write data timeout) e = (e.counted .write timeout).moved data := by
  obtain ⟨hvalue, hstate⟩ := transfer_done hfault data timeout
  simp [Bus.reply, Bus.after, bus, hvalue, hstate]

theorem read_done {e : Emulator} (hfault : e.faults.fault? .read = none) (length : Nat)
    (timeout : Timeout) :
    bus.reply (.read length timeout) e = .ok (e.answer (List.replicate length idle)) ∧
    bus.after (.read length timeout) e = (e.counted .read timeout).moved (List.replicate length idle) :=
  transfer_done hfault (List.replicate length idle) timeout

theorem writeRead_done {e : Emulator} (hfault : e.faults.fault? .writeRead = none) (data : Bytes)
    (timeout : Timeout) :
    bus.reply (.writeRead data timeout) e = .ok (e.answer data) ∧
    bus.after (.writeRead data timeout) e = (e.counted .writeRead timeout).moved data :=
  transfer_done hfault data timeout

end FlashIdent.Emulator
