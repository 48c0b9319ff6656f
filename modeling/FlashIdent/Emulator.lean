import FlashIdent.Emulator.Fault
import FlashIdent.Emulator.Flash

/-!
# The emulated bus

A bus with one flash chip on it.  It counts every call, makes the calls fail that the fault plan names, and
otherwise moves bytes through the chip.  A hold is one frame from acquire to release; outside of a hold every
transfer is a frame of its own.  A call that fails by a fault is counted but moves no byte; only a release
gives chip select back even when it fails.
-/

namespace FlashIdent

namespace Emulator

/-- How often each kind of call was made, and the time bound of the last transfer. -/
structure Tally where
  acquires : Nat := 0
  releases : Nat := 0
  writes : Nat := 0
  reads : Nat := 0
  writeReads : Nat := 0
  lastTimeout : Option UInt32 := none
deriving DecidableEq

namespace Tally

def count (t : Tally) : Operation → Tally
  | .acquire => { t with acquires := t.acquires + 1 }
  | .release => { t with releases := t.releases + 1 }
  | .write => { t with writes := t.writes + 1 }
  | .read => { t with reads := t.reads + 1 }
  | .writeRead => { t with writeReads := t.writeReads + 1 }

def bound (t : Tally) (timeout : Timeout) : Tally := { t with lastTimeout := some timeout.effective }

end Tally

end Emulator

/-- The state of an emulated bus. -/
structure Emulator where
  flash : Emulator.Flash := {}
  faults : Emulator.FaultPlan := {}
  tally : Emulator.Tally := {}
  held : Bool := false
  frame : Emulator.Frame := {}
deriving DecidableEq

namespace Emulator

/-- A bus with a chip and a fault plan that has not been used yet. -/
def start (flash : Flash) (faults : FaultPlan) : Emulator := { flash := flash, faults := faults }

def fail (e : Emulator) (operation : Operation) (fault : Fault) : Emulator :=
  { e with faults := e.faults.inject operation fault }

def clearFaults (e : Emulator) : Emulator := { e with faults := {} }

/-- Fails if the plan has a fault for this kind of call. -/
def checkFault (operation : Operation) : Action Emulator (Except BusError Unit) := do
  match (← Action.get).faults.fault? operation with
  | none => return .ok ()
  | some fault =>
    Action.say .debug .emulator ("dummy: injecting " ++ fault.label ++ " on " ++ operation.label)
    return .error fault.error

/-- Moves bytes through the chip, in the frame of the hold or in one of their own. -/
def exchange (sent : Bytes) : Action Emulator Bytes := fun e =>
  if e.held then
    ⟨(e.flash.clock e.frame sent).1, { e with frame := (e.flash.clock e.frame sent).2 }, []⟩
  else ⟨(e.flash.clock {} sent).1, { e with frame := {} }, []⟩

/-- A transfer of the given kind; the bytes are made only if it does not fail. -/
@[macro_inline] def transfer (operation : Operation) (sent : Bytes) (timeout : Timeout) :
    Action Emulator (Except BusError Bytes) := do
  Action.modify fun e => { e with tally := (e.tally.count operation).bound timeout }
  match ← checkFault operation with
  | .error e => return .error e
  | .ok () => return .ok (← exchange sent)

/-- Chip select is asserted and a frame begins. -/
def acquire : Action Emulator (Except BusError Unit) := do
  Action.modify fun e => { e with tally := e.tally.count .acquire }
  match ← checkFault .acquire with
  | .error e => return .error e
  | .ok () =>
    Action.modify fun e => { e with held := true, frame := {} }
    return .ok ()

/-- Chip select is given back and the frame ends, whether the call fails or not. -/
def release : Action Emulator (Except BusError Unit) := do
  Action.modify fun e => { e with tally := e.tally.count .release, held := false, frame := {} }
  checkFault .release

/-- The emulated bus; a read sends idle bytes. -/
def bus : Bus Emulator where
  perform
    | .acquire => acquire
    | .release => release
    | .write data timeout => do
      match ← transfer .write data timeout with
      | .error e => return .error e
      | .ok _ => return .ok ()
    | .read length timeout => transfer .read (List.replicate length idle) timeout
    | .writeRead data timeout => transfer .writeRead data timeout

end Emulator

end FlashIdent
