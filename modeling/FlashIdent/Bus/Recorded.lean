import FlashIdent.Bus

/-!
# Recorded buses

`Bus.recorded` is the same bus with a memory of every call it was asked and how it answered.  Recording changes
nothing else: `recorded_value` and `recorded_bus` say that the answers and the transport's own state are those
of the bus without a record, whatever was recorded before.
-/

namespace FlashIdent

/-- One call and its reply. -/
structure Exchange where
  call : Call
  reply : Reply call

def Exchange.succeeded (e : Exchange) : Bool :=
  match e.reply with
  | .ok _ => true
  | .error _ => false

/-- A transport's state and the exchanges so far, oldest first. -/
structure Recorded (σ : Type) where
  bus : σ
  exchanges : List Exchange

namespace Recorded

variable {σ : Type}

def start (s : σ) : Recorded σ := ⟨s, []⟩

/-- The calls in the order in which they were made. -/
def calls (r : Recorded σ) : List Call := r.exchanges.map Exchange.call

end Recorded

namespace Bus

variable {σ : Type}

def recorded (bus : Bus σ) : Bus (Recorded σ) where
  perform call := fun r =>
    let outcome := (bus.perform call).run r.bus
    ⟨outcome.value, ⟨outcome.state, r.exchanges ++ [⟨call, outcome.value⟩]⟩, outcome.log⟩

theorem recorded_value (bus : Bus σ) (call : Call) (r : Recorded σ) :
    ((bus.recorded.perform call).run r).value = ((bus.perform call).run r.bus).value := rfl

theorem recorded_bus (bus : Bus σ) (call : Call) (r : Recorded σ) :
    ((bus.recorded.perform call).run r).state.bus = ((bus.perform call).run r.bus).state := rfl

theorem recorded_exchanges (bus : Bus σ) (call : Call) (r : Recorded σ) :
    ((bus.recorded.perform call).run r).state.exchanges =
      r.exchanges ++ [⟨call, ((bus.perform call).run r.bus).value⟩] := rfl

theorem recorded_log (bus : Bus σ) (call : Call) (r : Recorded σ) :
    ((bus.recorded.perform call).run r).log = ((bus.perform call).run r.bus).log := rfl

end Bus

end FlashIdent
