import FlashIdent.Bus.Recorded
import FlashIdent.Proofs.Session.Run

/-!
# Sessions whose transport is also used directly

The user of a session can reach its transport and make raw calls past the session, which then no longer knows
whether the bus is held.  A move is a session step or such a raw call.

Nothing that hangs on the session's own state survives raw calls.  What does is a property of the transport
that every call preserves, in whatever order the calls come: see `Preserves`.  The main case is the history
itself.  A transport is where its calls lead, one after the other, so `replay` gives the state before and after
each call of a recorded run.
-/

namespace FlashIdent

open FlashIdent.Action (run)

variable {σ : Type}

namespace Session

inductive Move where
  | step (s : Step)
  | raw (call : Call)

/-- Makes a move; what it answers is dropped. -/
def move (bus : Bus σ) : Move → Action (Session σ) Unit
  | .step s => do
    let _ ← step bus s
    return ()
  | .raw call => do
    let _ ← onTransport (bus.perform call)
    return ()

def moves (bus : Bus σ) : List Move → Action (Session σ) Unit
  | [] => return ()
  | first :: rest => do
    move bus first
    moves bus rest

/-- Moves that are all steps are a run of steps. -/
theorem moves_map_step (bus : Bus σ) :
    ∀ (ss : List Step) (s : Session σ),
      (run (moves bus (ss.map Move.step)) s).state = (run (steps bus ss) s).state := by
  intro ss
  induction ss with
  | nil =>
    intro s
    rfl
  | cons first rest ih =>
    intro s
    have hfirst : (run (move bus (.step first)) s).state = (run (step bus first) s).state := rfl
    have hrest := ih (run (step bus first) s).state
    simp only [List.map_cons, moves, steps, Action.run_bind, Action.run_pure, hfirst]
    exact hrest

end Session

/-! ### What every call preserves -/

/-- Every call keeps the property of the transport. -/
def Preserves (bus : Bus σ) (holds : σ → Prop) : Prop :=
  ∀ call t, holds t → holds (bus.after call t)

namespace Preserves

variable {bus : Bus σ} {holds : σ → Prop}

theorem invariant (h : Preserves bus holds) : Invariant bus fun _ => holds where
  acquire := by
    intro t ht
    exact h .acquire t ht
  release := by
    intro t ht
    exact h .release t ht
  transfer := by
    intro hold t call ht _
    exact h call t ht

theorem move (h : Preserves bus holds) (m : Session.Move) {s : Session σ} (hs : holds s.transport) :
    holds (run (Session.move bus m) s).state.transport := by
  cases m with
  | step first =>
    have hstep := h.invariant.steps [first] s hs
    exact hstep
  | raw call => exact h call s.transport hs

theorem moves (h : Preserves bus holds) :
    ∀ (ms : List Session.Move) {s : Session σ}, holds s.transport →
      holds (run (Session.moves bus ms) s).state.transport := by
  intro ms
  induction ms with
  | nil =>
    intro s hs
    exact hs
  | cons first rest ih =>
    intro s hs
    exact ih (h.move first hs)

end Preserves

/-! ### Histories -/

/-- Where calls lead, one after the other. -/
def Bus.replay (bus : Bus σ) (calls : List Call) (t : σ) : σ :=
  calls.foldl (fun s call => bus.after call s) t

theorem replay_concat (bus : Bus σ) (calls : List Call) (call : Call) (t : σ) :
    bus.replay (calls ++ [call]) t = bus.after call (bus.replay calls t) := by
  rw [Bus.replay, List.foldl_append]
  rfl

/-- The record of a transport tells where it is. -/
theorem preserves_replay (bus : Bus σ) (t : σ) :
    Preserves bus.recorded fun r => r.bus = bus.replay r.calls t := by
  intro call r hreplay
  have hcalls : (bus.recorded.after call r).calls = r.calls ++ [call] :=
    List.map_append
  have hbus : (bus.recorded.after call r).bus = bus.after call r.bus := rfl
  rw [hcalls, hbus, replay_concat, hreplay]

/-- What calls answer, one after the other. -/
def Bus.answers (bus : Bus σ) : List Call → σ → List Exchange
  | [], _ => []
  | call :: later, t => ⟨call, bus.reply call t⟩ :: bus.answers later (bus.after call t)

/-- Transports that answer every call alike, and stay alike, answer all calls alike. -/
theorem answers_eq_of_related {τ : Type} {left : Bus σ} {right : Bus τ} {related : σ → τ → Prop}
    (hcall : ∀ call {s t}, related s t →
      left.reply call s = right.reply call t ∧ related (left.after call s) (right.after call t)) :
    ∀ (calls : List Call) {s t}, related s t → left.answers calls s = right.answers calls t := by
  intro calls
  induction calls with
  | nil =>
    intro s t _
    rfl
  | cons call later ih =>
    intro s t h
    obtain ⟨hreply, hafter⟩ := hcall call h
    rw [Bus.answers, Bus.answers, hreply, ih hafter]

theorem Preserves.recorded {bus : Bus σ} {holds : σ → Prop} (h : Preserves bus holds) :
    Preserves bus.recorded fun r => holds r.bus := by
  intro call r hr
  exact h call r.bus hr

end FlashIdent
