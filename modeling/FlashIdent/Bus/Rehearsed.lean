import FlashIdent.Bus

/-!
# Rehearsed buses

A bus whose replies are written down beforehand, one list for each kind of call.  A call takes the next cue of
its own list; the last cue of a list is repeated for ever, and without any cue every call succeeds.
-/

namespace FlashIdent

/-- A reply that was written down. -/
inductive Cue where
  /-- Success, with bytes of the length that was asked for. -/
  | plain
  /-- Success, with exactly these bytes where bytes are answered. -/
  | bytes (data : Bytes)
  /-- Failure. -/
  | failure (e : BusError)

namespace Cue

/-- The next cue of a list, and what is left of the list. -/
def next : List Cue → Cue × List Cue
  | [] => (.plain, [])
  | [cue] => (cue, [cue])
  | cue :: cues => (cue, cues)

def done : Cue → Except BusError Unit
  | plain => .ok ()
  | bytes _ => .ok ()
  | failure e => .error e

/-- The reply of a call that answers bytes, with `usual` for a plain success; it is made only then. -/
@[macro_inline] def received (usual : Bytes) : Cue → Except BusError Bytes
  | plain => .ok usual
  | bytes data => .ok data
  | failure e => .error e

end Cue

/-- The cues of all five calls. -/
structure Rehearsal where
  acquire : List Cue := []
  release : List Cue := []
  write : List Cue := []
  read : List Cue := []
  writeRead : List Cue := []

namespace Rehearsal

def answer : (call : Call) → Rehearsal → Reply call × Rehearsal
  | .acquire, r => ((Cue.next r.acquire).1.done, { r with acquire := (Cue.next r.acquire).2 })
  | .release, r => ((Cue.next r.release).1.done, { r with release := (Cue.next r.release).2 })
  | .write _ _, r => ((Cue.next r.write).1.done, { r with write := (Cue.next r.write).2 })
  | .read length _, r =>
    ((Cue.next r.read).1.received (List.replicate length 0xa5), { r with read := (Cue.next r.read).2 })
  | .writeRead data _, r =>
    ((Cue.next r.writeRead).1.received (data.map fun b => ~~~ b),
      { r with writeRead := (Cue.next r.writeRead).2 })

def bus : Bus Rehearsal where
  perform call := fun r => ⟨(answer call r).1, (answer call r).2, []⟩

end Rehearsal

end FlashIdent
