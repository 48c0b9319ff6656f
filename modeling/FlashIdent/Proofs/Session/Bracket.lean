import FlashIdent.Bus.Recorded
import FlashIdent.Proofs.Session.Run

/-!
# Acquire and release form a bracket

Whatever a session is asked to do and however its transport answers, the raw calls open and close one hold at
a time.  `openHolds` counts the acquires that succeeded and takes off the releases, failed ones included.  A
trace is `Bracketed` when this number never leaves 0 and 1, an acquire is only made at 0 and a release only
at 1.

The invariant that carries a run is that the trace so far is bracketed and has as many open holds as the
session says.  An explicit release, the release of a scoped hold, the end of a scoped hold and the end of the
session all come down to one call, `Session.release`, which marks the session released before it asks the
transport; so none of them can repeat another's release.
-/

namespace FlashIdent

open FlashIdent.Action (run)

/-! ### Traces of raw calls -/

/-- An acquire that succeeds opens a hold. -/
def Exchange.opens (e : Exchange) : Bool := decide (e.call = .acquire) && e.succeeded

/-- A release closes a hold, however it ends. -/
def Exchange.closes (e : Exchange) : Bool := decide (e.call = .release)

/-- The acquires that succeeded, less the releases. -/
def openHolds (trace : List Exchange) : Int :=
  (trace.countP Exchange.opens : Int) - (trace.countP Exchange.closes : Int)

def Hold.count : Hold → Int
  | .released => 0
  | .held => 1

/-- Holds are opened and closed one at a time. -/
structure Bracketed (trace : List Exchange) : Prop where
  /-- At every moment no hold is open, or one. -/
  between : ∀ before, before <+: trace → openHolds before = 0 ∨ openHolds before = 1
  /-- An acquire is only made while no hold is open. -/
  acquire : ∀ before e, before ++ [e] <+: trace → e.call = .acquire → openHolds before = 0
  /-- A release is only made while a hold is open. -/
  release : ∀ before e, before ++ [e] <+: trace → e.call = .release → openHolds before = 1

theorem openHolds_concat (trace : List Exchange) (e : Exchange) :
    openHolds (trace ++ [e]) =
      openHolds trace + (if e.opens then 1 else 0) - (if e.closes then 1 else 0) := by
  simp only [openHolds, List.countP_append, List.countP_singleton]
  split <;> split <;> push_cast <;> omega

theorem openHolds_concat_transfer (trace : List Exchange) {e : Exchange} (hsize : e.call.size ≠ 0) :
    openHolds (trace ++ [e]) = openHolds trace := by
  have hacquire : e.call ≠ .acquire := fun hcall => hsize (by rw [hcall]; rfl)
  have hrelease : e.call ≠ .release := fun hcall => hsize (by rw [hcall]; rfl)
  simp [openHolds_concat, Exchange.opens, Exchange.closes, hacquire, hrelease]

/-- A call within a longer trace is the last one or an earlier one. -/
theorem last_or_earlier {before trace : List Exchange} {e e' : Exchange}
    (h : before ++ [e'] <+: trace ++ [e]) : (before = trace ∧ e' = e) ∨ before ++ [e'] <+: trace := by
  rcases List.prefix_concat_iff.mp h with hlast | hearlier
  · obtain ⟨hbefore, hlast⟩ := List.append_inj' hlast rfl
    exact Or.inl ⟨hbefore, List.singleton_inj.mp hlast⟩
  · exact Or.inr hearlier

namespace Bracketed

theorem nil : Bracketed [] where
  between before hbefore := by
    rw [List.prefix_nil.mp hbefore]
    exact Or.inl rfl
  acquire before e hbefore := by
    have hnil := List.prefix_nil.mp hbefore
    simp at hnil
  release before e hbefore := by
    have hnil := List.prefix_nil.mp hbefore
    simp at hnil

/-- A bracketed trace may go on with any call that its open holds permit. -/
theorem concat {trace : List Exchange} {e : Exchange} (h : Bracketed trace)
    (hacquire : e.call = .acquire → openHolds trace = 0)
    (hrelease : e.call = .release → openHolds trace = 1)
    (hafter : openHolds (trace ++ [e]) = 0 ∨ openHolds (trace ++ [e]) = 1) :
    Bracketed (trace ++ [e]) where
  between before hbefore := by
    rcases List.prefix_concat_iff.mp hbefore with rfl | hearlier
    · exact hafter
    · exact h.between before hearlier
  acquire before e' hbefore hcall := by
    rcases last_or_earlier hbefore with ⟨rfl, rfl⟩ | hearlier
    · exact hacquire hcall
    · exact h.acquire before e' hearlier hcall
  release before e' hbefore hcall := by
    rcases last_or_earlier hbefore with ⟨rfl, rfl⟩ | hearlier
    · exact hrelease hcall
    · exact h.release before e' hearlier hcall

end Bracketed

/-! ### What a session refuses -/

/-- Misuse is answered by an error; the session, its transport and the log stay as they were. -/
structure RefusesMisuse {σ : Type} (bus : Bus σ) : Prop where
  acquire : ∀ t, run (Session.acquire bus) ⟨.held, t⟩ = ⟨.error .alreadyHeld, ⟨.held, t⟩, []⟩
  holding : ∀ calls stopOnError t, run (Session.holding bus calls stopOnError) ⟨.held, t⟩ =
    ⟨.error .alreadyHeld, ⟨.held, t⟩, []⟩
  release : ∀ t, run (Session.release bus) ⟨.released, t⟩ = ⟨.error .notHeld, ⟨.released, t⟩, []⟩
  write : ∀ timeout s, run (Session.write bus [] timeout) s = ⟨.error .invalidArgument, s, []⟩
  read : ∀ timeout s, run (Session.read bus 0 timeout) s = ⟨.error .invalidArgument, s, []⟩
  writeRead : ∀ timeout s, run (Session.writeRead bus [] timeout) s = ⟨.error .invalidArgument, s, []⟩

theorem refusesMisuse {σ : Type} (bus : Bus σ) : RefusesMisuse bus where
  acquire := Session.acquire_held bus
  holding _ _ _ := rfl
  release := Session.release_released bus
  write := Session.write_nil bus
  read := Session.read_zero bus
  writeRead := Session.writeRead_nil bus

/-! ### Runs -/

/-- The trace is bracketed, and its open holds are those of the session. -/
def Tracked {σ : Type} (hold : Hold) (r : Recorded σ) : Prop :=
  Bracketed r.exchanges ∧ openHolds r.exchanges = hold.count

theorem tracked_invariant {σ : Type} (bus : Bus σ) : Invariant bus.recorded Tracked where
  acquire := by
    rintro r ⟨hbracketed, hcount⟩
    have hopen : openHolds (bus.recorded.after .acquire r).exchanges =
        (Hold.afterAcquire (bus.reply .acquire r.bus)).count := by
      have hconcat := openHolds_concat r.exchanges ⟨.acquire, bus.reply .acquire r.bus⟩
      rw [hcount] at hconcat
      refine hconcat.trans ?_
      rcases bus.reply .acquire r.bus with e | ⟨⟩ <;> rfl
    refine ⟨hbracketed.concat (fun _ => hcount) (fun hcall => nomatch hcall) ?_, hopen⟩
    rw [show r.exchanges ++ _ = (bus.recorded.after .acquire r).exchanges from rfl, hopen]
    rcases bus.reply .acquire r.bus with e | ⟨⟩
    · exact Or.inl rfl
    · exact Or.inr rfl
  release := by
    rintro r ⟨hbracketed, hcount⟩
    have hopen : openHolds (bus.recorded.after .release r).exchanges = 0 := by
      have hconcat := openHolds_concat r.exchanges ⟨.release, bus.reply .release r.bus⟩
      rw [hcount] at hconcat
      exact hconcat
    exact ⟨hbracketed.concat (fun hcall => nomatch hcall) (fun _ => hcount) (Or.inl hopen), hopen⟩
  transfer := by
    rintro hold r call ⟨hbracketed, hcount⟩ hsize
    have hopen : openHolds (bus.recorded.after call r).exchanges = openHolds r.exchanges :=
      openHolds_concat_transfer r.exchanges hsize
    refine ⟨hbracketed.concat ?_ ?_ ?_, hopen.trans hcount⟩
    · rintro rfl
      exact absurd rfl hsize
    · rintro rfl
      exact absurd rfl hsize
    · rw [show r.exchanges ++ _ = (bus.recorded.after call r).exchanges from rfl, hopen]
      exact hbracketed.between _ List.prefix_rfl

/-- The law of the bracket.  For every transport and every run of session steps the raw calls are bracketed,
and a hold is open exactly when the session is held; a run that is cut short is a run, so this holds after
every step.  Once the session is given up the calls are still bracketed and no hold is open.  Misuse reaches
the transport in no state of the session. -/
theorem acquire_release_bracketed {σ : Type} (bus : Bus σ) (t : σ) (ss : List Session.Step) :
    let s := (run (Session.steps bus.recorded ss) (.start (.start t))).state
    let closed := (run (Session.close bus.recorded) s).state
    (Bracketed s.transport.exchanges ∧ openHolds s.transport.exchanges = s.hold.count) ∧
    (Bracketed closed.transport.exchanges ∧ openHolds closed.transport.exchanges = 0) ∧
    RefusesMisuse bus.recorded := by
  intro s closed
  have hstart : Tracked .released (.start t : Recorded σ) := ⟨Bracketed.nil, rfl⟩
  have hrun : Tracked s.hold s.transport := (tracked_invariant bus).steps ss (.start (.start t)) hstart
  exact ⟨hrun, (tracked_invariant bus).close hrun, refusesMisuse bus.recorded⟩

end FlashIdent
