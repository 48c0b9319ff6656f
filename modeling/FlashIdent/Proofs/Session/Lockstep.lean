import FlashIdent.Proofs.Session.Calls

/-!
# Two sessions in lockstep

A session sees of its transport only the replies.  So two transports that answer alike, call by call, are
alike for every run of session steps: the steps answer the same, and the bus is held at the same moments.

`Coupling` says what "alike, call by call" means.  A relation between the two states, which may depend on
whether the bus is held, has to survive the calls that a session can make: an acquire while the bus is
released, a release while it is held, and a transfer of at least one byte at any time.  `Lockstep` says that
two session actions keep such a relation and answer the same.  It is closed under sequencing, so each action
of a session is in lockstep with itself, and `Coupling.steps` follows by induction on the run.

A property of one transport is the special case of a transport that is coupled with itself: see `Invariant`.
-/

namespace FlashIdent

open FlashIdent.Action (run)

/-- The transports answer every admitted call of a session alike, as long as their states are related, and
stay related.  The first argument of the relation says whether the session holds the bus. -/
structure Coupling {σ τ : Type} (left : Bus σ) (right : Bus τ) (admits : Call → Prop)
    (related : Hold → σ → τ → Prop) : Prop where
  acquire : ∀ {s t}, related .released s t →
    left.reply .acquire s = right.reply .acquire t ∧
    related (.afterAcquire (left.reply .acquire s)) (left.after .acquire s) (right.after .acquire t)
  release : ∀ {s t}, related .held s t →
    left.reply .release s = right.reply .release t ∧
    related .released (left.after .release s) (right.after .release t)
  transfer : ∀ {hold s t} (call : Call), related hold s t → call.size ≠ 0 → admits call →
    left.reply call s = right.reply call t ∧ related hold (left.after call s) (right.after call t)

namespace Session

variable {σ τ α β : Type}

/-! ### Actions in lockstep -/

/-- Run from related states, both actions answer the same and leave related states. -/
def Lockstep (related : Hold → σ → τ → Prop) (m : Action (Session σ) α) (n : Action (Session τ) α) :
    Prop :=
  ∀ ⦃hold s t⦄, related hold s t →
    (run m ⟨hold, s⟩).value = (run n ⟨hold, t⟩).value ∧
    (run m ⟨hold, s⟩).state.hold = (run n ⟨hold, t⟩).state.hold ∧
    related (run m ⟨hold, s⟩).state.hold (run m ⟨hold, s⟩).state.transport
      (run n ⟨hold, t⟩).state.transport

namespace Lockstep

variable {related : Hold → σ → τ → Prop}

theorem pure (a : α) :
    Lockstep related (Pure.pure a : Action (Session σ) α) (Pure.pure a : Action (Session τ) α) :=
  fun _ _ _ h => ⟨rfl, rfl, h⟩

theorem say (level : Log.Level) (source : Log.Source) (text : String) :
    Lockstep related (Action.say level source text : Action (Session σ) Unit)
      (Action.say level source text : Action (Session τ) Unit) :=
  fun _ _ _ h => ⟨rfl, rfl, h⟩

theorem bind {m : Action (Session σ) α} {n : Action (Session τ) α} {f : α → Action (Session σ) β}
    {g : α → Action (Session τ) β} (hm : Lockstep related m n)
    (hf : ∀ a, Lockstep related (f a) (g a)) : Lockstep related (m >>= f) (n >>= g) := by
  intro hold s t h
  obtain ⟨hvalue, hhold, hrelated⟩ := hm h
  -- both continuations run from the same answer and the same hold
  have hright : run n ⟨hold, t⟩ =
      ⟨(run m ⟨hold, s⟩).value, ⟨(run m ⟨hold, s⟩).state.hold, (run n ⟨hold, t⟩).state.transport⟩,
        (run n ⟨hold, t⟩).log⟩ := by
    rw [hvalue, hhold]
  rw [Action.run_bind, Action.run_bind, hright]
  exact hf _ hrelated

/-- A line that is logged before the end changes nothing. -/
theorem say_pure (level : Log.Level) (source : Log.Source) (text : String) (a : α) :
    Lockstep related (do Action.say level source text; return a : Action (Session σ) α)
      (do Action.say level source text; return a : Action (Session τ) α) :=
  bind (say level source text) fun _ => pure a

end Lockstep

/-! ### The calls of a session

Every call below is compared with itself on the other transport. -/

section Calls

variable {left : Bus σ} {right : Bus τ} {admits : Call → Prop} {related : Hold → σ → τ → Prop}
variable (c : Coupling left right admits related)

include c

theorem lockstep_acquire : Lockstep related (acquire left) (acquire right) := by
  intro hold s t h
  cases hold with
  | held => exact ⟨rfl, rfl, h⟩
  | released =>
    obtain ⟨hreply, hafter⟩ := c.acquire h
    obtain ⟨hvalue, hstate⟩ := acquire_released left s
    obtain ⟨hvalue', hstate'⟩ := acquire_released right t
    rw [hvalue, hstate, hvalue', hstate', ← hreply]
    exact ⟨rfl, rfl, hafter⟩

theorem lockstep_release : Lockstep related (release left) (release right) := by
  intro hold s t h
  cases hold with
  | released => exact ⟨rfl, rfl, h⟩
  | held =>
    obtain ⟨hreply, hafter⟩ := c.release h
    exact ⟨hreply, rfl, hafter⟩

theorem lockstep_letGo : Lockstep related (letGo left) (letGo right) := by
  refine Lockstep.bind (lockstep_release c) ?_
  rintro (e | ⟨⟩)
  · exact Lockstep.say _ _ _
  · exact Lockstep.pure ()

theorem lockstep_close : Lockstep related (close left) (close right) := by
  intro hold s t h
  cases hold with
  | released => exact ⟨rfl, rfl, h⟩
  | held =>
    obtain ⟨_, hafter⟩ := c.release h
    rw [close_held left s, close_held right t]
    exact ⟨rfl, rfl, hafter⟩

theorem lockstep_write {data : Bytes} {timeout : Timeout} (hadmits : admits (.write data timeout)) :
    Lockstep related (write left data timeout) (write right data timeout) := by
  intro hold s t h
  by_cases hdata : data = []
  · subst hdata
    exact ⟨rfl, rfl, h⟩
  · have hsize : Call.size (.write data timeout) ≠ 0 := fun hzero =>
      hdata (List.length_eq_zero_iff.mp hzero)
    obtain ⟨hreply, hafter⟩ := c.transfer _ h hsize hadmits
    obtain ⟨hvalue, hstate⟩ := write_of_ne_nil left hdata timeout ⟨hold, s⟩
    obtain ⟨hvalue', hstate'⟩ := write_of_ne_nil right hdata timeout ⟨hold, t⟩
    rw [hvalue, hstate, hvalue', hstate']
    exact ⟨hreply, rfl, hafter⟩

theorem lockstep_read {length : Nat} {timeout : Timeout} (hadmits : admits (.read length timeout)) :
    Lockstep related (read left length timeout) (read right length timeout) := by
  intro hold s t h
  by_cases hlength : length = 0
  · subst hlength
    exact ⟨rfl, rfl, h⟩
  · obtain ⟨hreply, hafter⟩ := c.transfer (.read length timeout) h hlength hadmits
    obtain ⟨hvalue, hstate⟩ := read_of_ne_zero left hlength timeout ⟨hold, s⟩
    obtain ⟨hvalue', hstate'⟩ := read_of_ne_zero right hlength timeout ⟨hold, t⟩
    rw [hvalue, hstate, hvalue', hstate', hreply]
    exact ⟨rfl, rfl, hafter⟩

theorem lockstep_writeRead {data : Bytes} {timeout : Timeout}
    (hadmits : admits (.writeRead data timeout)) :
    Lockstep related (writeRead left data timeout) (writeRead right data timeout) := by
  intro hold s t h
  by_cases hdata : data = []
  · subst hdata
    exact ⟨rfl, rfl, h⟩
  · have hsize : Call.size (.writeRead data timeout) ≠ 0 := fun hzero =>
      hdata (List.length_eq_zero_iff.mp hzero)
    obtain ⟨hreply, hafter⟩ := c.transfer _ h hsize hadmits
    obtain ⟨hvalue, hstate⟩ := writeRead_of_ne_nil left hdata timeout ⟨hold, s⟩
    obtain ⟨hvalue', hstate'⟩ := writeRead_of_ne_nil right hdata timeout ⟨hold, t⟩
    rw [hvalue, hstate, hvalue', hstate', hreply]
    exact ⟨rfl, rfl, hafter⟩

end Calls

end Session

end FlashIdent
