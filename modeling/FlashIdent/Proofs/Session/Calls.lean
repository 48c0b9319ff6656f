import FlashIdent.Session.Step

/-!
# What the calls of a session do to its transport

A session call either refuses, and then nothing at all happens, or it makes exactly one call on the
transport.  The lemmas here say so for each of them: what it answers, where it leaves the transport, and
whether the bus is held afterwards.  Everything that is proved about longer runs goes through these lemmas.
-/

namespace FlashIdent

open FlashIdent.Action (run)

variable {σ α : Type}

/-! ### Raw calls -/

namespace Call

def size : Call → Nat
  | acquire => 0
  | release => 0
  | write data _ => data.length
  | read length _ => length
  | writeRead data _ => data.length

def isTransfer : Call → Bool
  | acquire => false
  | release => false
  | write _ _ => true
  | read _ _ => true
  | writeRead _ _ => true

/-- What a call hands out of the bytes that came back. -/
def answerOf : (call : Call) → Bytes → call.Answer
  | acquire, _ => ()
  | release, _ => ()
  | write _ _, _ => ()
  | read _ _, received => received
  | writeRead _ _, received => received

theorem isTransfer_of_ne {call : Call} (hacquire : call ≠ .acquire) (hrelease : call ≠ .release) :
    call.isTransfer := by
  cases call with
  | acquire => exact absurd rfl hacquire
  | release => exact absurd rfl hrelease
  | write data timeout => rfl
  | read length timeout => rfl
  | writeRead data timeout => rfl

end Call

def Bus.reply (bus : Bus σ) (call : Call) (t : σ) : Reply call := (run (bus.perform call) t).value

def Bus.after (bus : Bus σ) (call : Call) (t : σ) : σ := (run (bus.perform call) t).state

/-- The hold of a released session once the transport has answered its acquire. -/
def Hold.afterAcquire : Except BusError Unit → Hold
  | .ok _ => .held
  | .error _ => .released

namespace Session

@[simp] theorem run_onTransport (m : Action σ α) (s : Session σ) :
    run (onTransport m) s =
      ⟨(run m s.transport).value, ⟨s.hold, (run m s.transport).state⟩, (run m s.transport).log⟩ := rfl

@[simp] theorem run_mark (hold : Hold) (s : Session σ) :
    run (mark hold) s = ⟨(), ⟨hold, s.transport⟩, []⟩ := rfl

@[simp] theorem run_say (level : Log.Level) (text : String) (s : Session σ) :
    run (say level text) s = ⟨(), s, [⟨level, .session, text⟩]⟩ := rfl

/-! ### Acquire and release -/

theorem acquire_held (bus : Bus σ) (t : σ) :
    run (acquire bus) ⟨.held, t⟩ = ⟨.error .alreadyHeld, ⟨.held, t⟩, []⟩ := rfl

theorem acquire_released (bus : Bus σ) (t : σ) :
    (run (acquire bus) ⟨.released, t⟩).value = bus.reply .acquire t ∧
    (run (acquire bus) ⟨.released, t⟩).state =
      ⟨.afterAcquire (bus.reply .acquire t), bus.after .acquire t⟩ := by
  rcases hreply : (run (bus.perform .acquire) t).value with e | ⟨⟩
  · simp [acquire, Bus.reply, Bus.after, hreply, Hold.afterAcquire]
  · simp [acquire, Bus.reply, Bus.after, hreply, Hold.afterAcquire]

theorem release_released (bus : Bus σ) (t : σ) :
    run (release bus) ⟨.released, t⟩ = ⟨.error .notHeld, ⟨.released, t⟩, []⟩ := rfl

theorem release_held (bus : Bus σ) (t : σ) :
    (run (release bus) ⟨.held, t⟩).value = bus.reply .release t ∧
    (run (release bus) ⟨.held, t⟩).state = ⟨.released, bus.after .release t⟩ :=
  ⟨rfl, rfl⟩

/-- The end of a scoped hold is a release; only its answer is lost. -/
theorem letGo_state (bus : Bus σ) (s : Session σ) :
    (run (letGo bus) s).state = (run (release bus) s).state := by
  rcases hreply : (run (release bus) s).value with e | ⟨⟩
  · simp [letGo, hreply]
  · simp [letGo, hreply]

theorem close_released (bus : Bus σ) (t : σ) :
    run (close bus) ⟨.released, t⟩ = ⟨(), ⟨.released, t⟩, []⟩ := rfl

/-- Giving a session up while it holds the bus is a release too. -/
theorem close_held (bus : Bus σ) (t : σ) :
    (run (close bus) ⟨.held, t⟩).state = ⟨.released, bus.after .release t⟩ := by
  rw [← (release_held bus t).2]
  rcases hreply : (run (release bus) ⟨.held, t⟩).value with e | ⟨⟩
  · simp [close, hreply]
  · simp [close, hreply]

theorem close_hold (bus : Bus σ) (s : Session σ) : (run (close bus) s).state.hold = .released := by
  obtain ⟨hold, t⟩ := s
  cases hold with
  | released => rw [close_released]
  | held => rw [close_held]

/-! ### Transfers -/

theorem write_nil (bus : Bus σ) (timeout : Timeout) (s : Session σ) :
    run (write bus [] timeout) s = ⟨.error .invalidArgument, s, []⟩ := rfl

theorem write_of_ne_nil (bus : Bus σ) {data : Bytes} (hdata : data ≠ []) (timeout : Timeout)
    (s : Session σ) :
    (run (write bus data timeout) s).value = bus.reply (.write data timeout) s.transport ∧
    (run (write bus data timeout) s).state =
      ⟨s.hold, bus.after (.write data timeout) s.transport⟩ := by
  cases data with
  | nil => exact absurd rfl hdata
  | cons first rest => exact ⟨rfl, rfl⟩

theorem read_zero (bus : Bus σ) (timeout : Timeout) (s : Session σ) :
    run (read bus 0 timeout) s = ⟨.error .invalidArgument, s, []⟩ := rfl

theorem read_of_ne_zero (bus : Bus σ) {length : Nat} (hlength : length ≠ 0) (timeout : Timeout)
    (s : Session σ) :
    (run (read bus length timeout) s).value =
      (bus.reply (.read length timeout) s.transport).bind (checkLength length) ∧
    (run (read bus length timeout) s).state =
      ⟨s.hold, bus.after (.read length timeout) s.transport⟩ := by
  cases length with
  | zero => exact absurd rfl hlength
  | succ n =>
    rcases hreply : (run (bus.perform (.read (n + 1) timeout)) s.transport).value with e | received
    · simp [read, Bus.reply, Bus.after, hreply, Except.bind]
    · simp [read, Bus.reply, Bus.after, hreply, Except.bind]

theorem writeRead_nil (bus : Bus σ) (timeout : Timeout) (s : Session σ) :
    run (writeRead bus [] timeout) s = ⟨.error .invalidArgument, s, []⟩ := rfl

theorem writeRead_of_ne_nil (bus : Bus σ) {data : Bytes} (hdata : data ≠ []) (timeout : Timeout)
    (s : Session σ) :
    (run (writeRead bus data timeout) s).value =
      (bus.reply (.writeRead data timeout) s.transport).bind (checkLength data.length) ∧
    (run (writeRead bus data timeout) s).state =
      ⟨s.hold, bus.after (.writeRead data timeout) s.transport⟩ := by
  cases data with
  | nil => exact absurd rfl hdata
  | cons first rest =>
    rcases hreply : (run (bus.perform (.writeRead (first :: rest) timeout)) s.transport).value
      with e | received
    · simp [writeRead, Bus.reply, Bus.after, hreply, Except.bind]
    · simp [writeRead, Bus.reply, Bus.after, hreply, Except.bind]

end Session

end FlashIdent
