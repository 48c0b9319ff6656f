import FlashIdent.Log

/-!
# Actions

An action runs from a state, answers a value, leaves a state and says things to the log.  It is a plain
function, so that a run of any length can be taken apart: `bind_value`, `bind_state` and `bind_log` say what
sequencing does to the three parts of an outcome, and `Action` is a lawful monad.

`Action.within` runs an action on a part of a larger state; the rest of the state is out of its reach.
-/

namespace FlashIdent

/-- What is left when an action has run. -/
@[ext] structure Outcome (σ α : Type) where
  value : α
  state : σ
  log : List Log.Record

/-- A computation that may change a state of type `σ` and write to the log. -/
def Action (σ α : Type) : Type := σ → Outcome σ α

namespace Action

variable {σ τ α β : Type}

instance : Monad (Action σ) where
  pure a := fun s => ⟨a, s, []⟩
  bind m f := fun s => ⟨(f (m s).value (m s).state).value, (f (m s).value (m s).state).state,
    (m s).log ++ (f (m s).value (m s).state).log⟩

def run (m : Action σ α) (s : σ) : Outcome σ α := m s

@[simp] theorem run_pure (a : α) (s : σ) : run (pure a : Action σ α) s = ⟨a, s, []⟩ := rfl

@[simp] theorem run_bind (m : Action σ α) (f : α → Action σ β) (s : σ) :
    run (m >>= f) s = ⟨(run (f (run m s).value) (run m s).state).value,
      (run (f (run m s).value) (run m s).state).state,
      (run m s).log ++ (run (f (run m s).value) (run m s).state).log⟩ := rfl

theorem bind_value (m : Action σ α) (f : α → Action σ β) (s : σ) :
    (run (m >>= f) s).value = (run (f (run m s).value) (run m s).state).value := rfl

theorem bind_state (m : Action σ α) (f : α → Action σ β) (s : σ) :
    (run (m >>= f) s).state = (run (f (run m s).value) (run m s).state).state := rfl

theorem bind_log (m : Action σ α) (f : α → Action σ β) (s : σ) :
    (run (m >>= f) s).log = (run m s).log ++ (run (f (run m s).value) (run m s).state).log := rfl

theorem ext {m n : Action σ α} (h : ∀ s, run m s = run n s) : m = n := funext h

instance : LawfulMonad (Action σ) := LawfulMonad.mk' (Action σ)
  (fun m => ext fun s => by
    show (⟨(m s).value, (m s).state, (m s).log ++ []⟩ : Outcome σ _) = m s
    rw [List.append_nil])
  (fun _ _ => rfl)
  (fun m f g => ext fun s => by simp only [run_bind, List.append_assoc])

@[simp] theorem run_map (f : α → β) (m : Action σ α) (s : σ) :
    run (f <$> m) s = ⟨f (run m s).value, (run m s).state, (run m s).log⟩ := by
  rw [← bind_pure_comp, run_bind]
  simp

/-! ### The elementary actions -/

def get : Action σ σ := fun s => ⟨s, s, []⟩

def modify (f : σ → σ) : Action σ Unit := fun s => ⟨(), f s, []⟩

def say (level : Log.Level) (source : Log.Source) (text : String) : Action σ Unit :=
  fun s => ⟨(), s, [⟨level, source, text⟩]⟩

/-- Runs an action on the part of the state that `part` reads and `put` writes back. -/
def within (part : σ → τ) (put : τ → σ → σ) (m : Action τ α) : Action σ α :=
  fun s => ⟨(run m (part s)).value, put (run m (part s)).state s, (run m (part s)).log⟩

@[simp] theorem run_get (s : σ) : run get s = ⟨s, s, []⟩ := rfl

@[simp] theorem run_modify (f : σ → σ) (s : σ) : run (modify f) s = ⟨(), f s, []⟩ := rfl

@[simp] theorem run_say (level : Log.Level) (source : Log.Source) (text : String) (s : σ) :
    run (say level source text) s = ⟨(), s, [⟨level, source, text⟩]⟩ := rfl

@[simp] theorem run_within (part : σ → τ) (put : τ → σ → σ) (m : Action τ α) (s : σ) :
    run (within part put m) s =
      ⟨(run m (part s)).value, put (run m (part s)).state s, (run m (part s)).log⟩ := rfl

end Action

end FlashIdent
