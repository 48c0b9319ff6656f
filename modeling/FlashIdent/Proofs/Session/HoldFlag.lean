import FlashIdent.Proofs.Session.Moves

/-!
# Hold flags

A transport may note for itself whether it is held, in a flag of its own.  The session and the transport change
their notes at different moments.  The session is marked held after the acquire was answered, and released before
the release is made; a transport may clear its flag before its release fails.

None of this shows between the calls, as long as the flag follows them: an acquire that succeeds sets it, a release
clears it however it ends, and no other call changes it.  `HoldFlag` says this of a transport.  Then session and
transport agree after every move of a session, as long as raw calls past the session do not acquire or release.
-/

namespace FlashIdent

open FlashIdent.Action (run)

variable {σ : Type}

/-- The flag follows the calls on the transport. -/
structure HoldFlag (bus : Bus σ) (flag : σ → Bool) : Prop where
  acquire : ∀ t, flag (bus.after .acquire t) =
    match bus.reply .acquire t with
    | .ok _ => true
    | .error _ => flag t
  release : ∀ t, flag (bus.after .release t) = false
  transfer : ∀ {call : Call} t, call ≠ .acquire → call ≠ .release → flag (bus.after call t) = flag t

/-- The session is held exactly while the transport's flag is set. -/
def Session.Agrees (flag : σ → Bool) (s : Session σ) : Prop := s.isHeld = flag s.transport

/-- The move is no raw acquire and no raw release. -/
def Session.Move.keepsHold : Session.Move → Prop
  | .step _ => True
  | .raw call => call ≠ .acquire ∧ call ≠ .release

namespace HoldFlag

variable {bus : Bus σ} {flag : σ → Bool}

theorem recorded (h : HoldFlag bus flag) : HoldFlag bus.recorded fun r => flag r.bus where
  acquire r := h.acquire r.bus
  release r := h.release r.bus
  transfer r := h.transfer r.bus

theorem invariant (h : HoldFlag bus flag) :
    Invariant bus fun hold t => flag t = decide (hold = .held) where
  acquire := by
    intro t hclear
    have hacquire := h.acquire t
    rcases hreply : bus.reply .acquire t with e | ⟨⟩
    · rw [hreply] at hacquire
      exact hacquire.trans hclear
    · rw [hreply] at hacquire
      exact hacquire
  release := by
    intro t _
    exact h.release t
  transfer := by
    intro hold t call hflag hsize
    have hacquire : call ≠ .acquire := by
      rintro rfl
      exact hsize rfl
    have hrelease : call ≠ .release := by
      rintro rfl
      exact hsize rfl
    exact (h.transfer t hacquire hrelease).trans hflag

theorem agrees_step (h : HoldFlag bus flag) (step : Session.Step) {s : Session σ} (hs : s.Agrees flag) :
    (run (Session.step bus step) s).state.Agrees flag := by
  have hnext := h.invariant.steps [step] s hs.symm
  exact hnext.symm

theorem agrees_move (h : HoldFlag bus flag) {m : Session.Move} (hkeeps : m.keepsHold) {s : Session σ}
    (hs : s.Agrees flag) : (run (Session.move bus m) s).state.Agrees flag := by
  cases m with
  | step first => exact h.agrees_step first hs
  | raw call =>
    obtain ⟨hacquire, hrelease⟩ := hkeeps
    exact hs.trans (h.transfer s.transport hacquire hrelease).symm

theorem agrees_moves (h : HoldFlag bus flag) {ms : List Session.Move} (hkeeps : ∀ m ∈ ms, m.keepsHold) :
    ∀ {s : Session σ}, s.Agrees flag → (run (Session.moves bus ms) s).state.Agrees flag := by
  induction ms with
  | nil =>
    intro s hs
    exact hs
  | cons first rest ih =>
    intro s hs
    have hfirst := h.agrees_move (hkeeps first List.mem_cons_self) hs
    exact ih (fun m hm => hkeeps m (List.mem_cons_of_mem first hm)) hfirst

/-- Whatever the session was, giving it up clears the flag if they agreed. -/
theorem close_clears (h : HoldFlag bus flag) {s : Session σ} (hs : s.Agrees flag) :
    flag (run (Session.close bus) s).state.transport = false :=
  h.invariant.close hs.symm

end HoldFlag

end FlashIdent
