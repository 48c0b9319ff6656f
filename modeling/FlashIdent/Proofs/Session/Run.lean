import FlashIdent.Proofs.Session.Lockstep

/-!
# Runs of a session in lockstep

The longer actions of a session are made of its calls, so coupled transports keep them in lockstep as well:
the two identification reads, a scoped hold with any calls under it, a probe, a step and a whole run.

`Invariant` is the same thing for one transport.  What the calls of a session preserve holds after every run,
and also after the session was given up.
-/

namespace FlashIdent

open FlashIdent.Action (run)

namespace Session

/-! ### The transfers of a step -/

def GuardCall.transfers : GuardCall → List Call
  | .write data timeout => [.write data timeout]
  | .read length timeout => [.read length timeout]
  | .release => []

def jedecTransfers (timeout : Timeout) : List Call :=
  [.write [Identification.rdidOpcode] timeout, .read Identification.jedecIdLength timeout]

/-- The transfers that a step asks for if none of them fails. -/
def Step.transfers : Step → List Call
  | .acquire => []
  | .release => []
  | .write data timeout => [.write data timeout]
  | .read length timeout => [.read length timeout]
  | .writeRead data timeout => [.writeRead data timeout]
  | .hold calls _ => calls.flatMap GuardCall.transfers
  | .readManufacturerId timeout => [.writeRead Identification.remsFrame timeout]
  | .readJedecId timeout => jedecTransfers timeout
  | .probe prober =>
    .writeRead Identification.remsFrame prober.timeouts.rems :: jedecTransfers prober.timeouts.jedec
  | .renew => []

variable {σ τ : Type} {left : Bus σ} {right : Bus τ} {admits : Call → Prop}
  {related : Hold → σ → τ → Prop}

/-! ### What is made of an answer -/

theorem lockstep_decodeFrame (p : Probe.Prober) (answer : Except BusError Bytes) :
    Lockstep related (p.decodeFrame answer) (p.decodeFrame answer) := by
  rcases answer with e | frame
  · cases e with
    | malformedResponse expected actual => exact Lockstep.say_pure _ _ _ _
    | timeout => exact Lockstep.say_pure _ _ _ _
    | transport => exact Lockstep.say_pure _ _ _ _
    | alreadyHeld => exact Lockstep.say_pure _ _ _ _
    | notHeld => exact Lockstep.say_pure _ _ _ _
    | invalidArgument => exact Lockstep.say_pure _ _ _ _
  · unfold Probe.Prober.decodeFrame
    dsimp only
    cases Decoding.ofFrame? p.table frame with
    | none => exact Lockstep.say_pure _ _ _ _
    | some decoding => exact Lockstep.say_pure _ _ _ _

theorem lockstep_decodeId (p : Probe.Prober) (answer : Except BusError JedecId) :
    Lockstep related (p.decodeId answer) (p.decodeId answer) := by
  rcases answer with e | id
  · unfold Probe.Prober.decodeId
    dsimp only
    split
    · exact Lockstep.say_pure _ _ _ _
    · exact Lockstep.say_pure _ _ _ _
  · exact Lockstep.say_pure _ _ _ _

section Actions

variable (c : Coupling left right admits related)

include c

/-! ### Identification -/

theorem lockstep_readJedecId {timeout : Timeout} (hadmits : ∀ call ∈ jedecTransfers timeout, admits call) :
    Lockstep related (readJedecId left timeout) (readJedecId right timeout) := by
  have hwrite := hadmits (.write [Identification.rdidOpcode] timeout) (by simp [jedecTransfers])
  have hread := hadmits (.read Identification.jedecIdLength timeout) (by simp [jedecTransfers])
  refine Lockstep.bind (lockstep_acquire c) ?_
  rintro (e | ⟨⟩)
  · exact Lockstep.pure _
  refine Lockstep.bind (lockstep_write c hwrite) ?_
  rintro (e | ⟨⟩)
  · exact Lockstep.bind (lockstep_letGo c) fun _ => Lockstep.pure _
  refine Lockstep.bind (lockstep_read c hread) ?_
  rintro (e | received)
  · exact Lockstep.bind (lockstep_letGo c) fun _ => Lockstep.pure _
  have hanswer : ∀ answer : Except BusError JedecId,
      Lockstep related (Pure.pure answer : Action (Session σ) _)
        (Pure.pure answer : Action (Session τ) _) := fun answer => Lockstep.pure answer
  refine Lockstep.bind (lockstep_release c) ?_
  rintro (e | ⟨⟩)
  · refine Lockstep.bind (Lockstep.say _ _ _) fun _ => ?_
    cases JedecId.ofBytes? received with
    | none => exact hanswer _
    | some id => exact hanswer _
  · cases JedecId.ofBytes? received with
    | none => exact hanswer _
    | some id => exact hanswer _

theorem lockstep_manufacturerId (p : Probe.Prober)
    (hadmits : admits (.writeRead Identification.remsFrame p.timeouts.rems)) :
    Lockstep related (p.manufacturerId left) (p.manufacturerId right) :=
  Lockstep.bind (Lockstep.bind (Lockstep.say _ _ _) fun _ => lockstep_writeRead c hadmits)
    (lockstep_decodeFrame p)

theorem lockstep_jedecId (p : Probe.Prober)
    (hadmits : ∀ call ∈ jedecTransfers p.timeouts.jedec, admits call) :
    Lockstep related (p.jedecId left) (p.jedecId right) :=
  Lockstep.bind (Lockstep.bind (Lockstep.say _ _ _) fun _ => lockstep_readJedecId c hadmits)
    (lockstep_decodeId p)

theorem lockstep_probe (p : Probe.Prober)
    (hadmits : ∀ call ∈ (Step.probe p).transfers, admits call) :
    Lockstep related (p.probe left) (p.probe right) := by
  have hrems := hadmits _ List.mem_cons_self
  have hjedec := fun call hcall => hadmits call (List.mem_cons_of_mem _ hcall)
  refine Lockstep.bind (lockstep_manufacturerId c p hrems) fun rems => ?_
  exact Lockstep.bind (lockstep_jedecId c p hjedec) fun jedec => Lockstep.pure _

/-! ### Scoped holds -/

theorem lockstep_underHold (stopOnError : Bool) (calls : List GuardCall)
    (hadmits : ∀ call ∈ calls.flatMap GuardCall.transfers, admits call) :
    Lockstep related (underHold left stopOnError calls) (underHold right stopOnError calls) := by
  -- each call under the hold either ends it or leaves the rest of the calls
  induction calls with
  | nil => exact Lockstep.bind (lockstep_letGo c) fun _ => Lockstep.pure _
  | cons first rest ih =>
    simp only [List.flatMap_cons, List.mem_append] at hadmits
    have hrest := ih fun call hcall => hadmits call (Or.inr hcall)
    -- what follows a transfer that has been answered
    have hnext : ∀ answer : CallAnswer,
        Lockstep related
          (if stopOnError && answer.failed then do letGo left; return [answer]
            else return answer :: (← underHold left stopOnError rest) : Action (Session σ) _)
          (if stopOnError && answer.failed then do letGo right; return [answer]
            else return answer :: (← underHold right stopOnError rest) : Action (Session τ) _) := by
      intro answer
      split
      · exact Lockstep.bind (lockstep_letGo c) fun _ => Lockstep.pure _
      · exact Lockstep.bind hrest fun _ => Lockstep.pure _
    cases first with
    | write data timeout =>
      have hwrite := hadmits (.write data timeout) (Or.inl (by simp [GuardCall.transfers]))
      exact Lockstep.bind (lockstep_write c hwrite) fun result => hnext (.done result)
    | read length timeout =>
      have hread := hadmits (.read length timeout) (Or.inl (by simp [GuardCall.transfers]))
      exact Lockstep.bind (lockstep_read c hread) fun result => hnext (.bytes result)
    | release => exact Lockstep.bind (lockstep_release c) fun _ => Lockstep.pure _

theorem lockstep_holding (calls : List GuardCall) (stopOnError : Bool)
    (hadmits : ∀ call ∈ calls.flatMap GuardCall.transfers, admits call) :
    Lockstep related (holding left calls stopOnError) (holding right calls stopOnError) := by
  refine Lockstep.bind (lockstep_acquire c) ?_
  rintro (e | ⟨⟩)
  · exact Lockstep.pure _
  · exact Lockstep.bind (lockstep_underHold c stopOnError calls hadmits) fun _ => Lockstep.pure _

/-! ### Runs -/

theorem lockstep_step (step : Step) (hadmits : ∀ call ∈ step.transfers, admits call) :
    Lockstep related (Session.step left step) (Session.step right step) := by
  cases step with
  | acquire => exact Lockstep.bind (lockstep_acquire c) fun _ => Lockstep.pure _
  | release => exact Lockstep.bind (lockstep_release c) fun _ => Lockstep.pure _
  | write data timeout =>
    exact Lockstep.bind (lockstep_write c (hadmits _ List.mem_cons_self)) fun _ => Lockstep.pure _
  | read length timeout =>
    exact Lockstep.bind (lockstep_read c (hadmits _ List.mem_cons_self)) fun _ => Lockstep.pure _
  | writeRead data timeout =>
    exact Lockstep.bind (lockstep_writeRead c (hadmits _ List.mem_cons_self)) fun _ => Lockstep.pure _
  | hold calls stopOnError =>
    exact Lockstep.bind (lockstep_holding c calls stopOnError hadmits) fun _ => Lockstep.pure _
  | readManufacturerId timeout =>
    exact Lockstep.bind (lockstep_writeRead c (hadmits _ List.mem_cons_self)) fun _ => Lockstep.pure _
  | readJedecId timeout =>
    exact Lockstep.bind (lockstep_readJedecId c hadmits) fun _ => Lockstep.pure _
  | probe prober => exact Lockstep.bind (lockstep_probe c prober hadmits) fun _ => Lockstep.pure _
  | renew =>
    intro hold s t h
    obtain ⟨_, _, hrelated⟩ := lockstep_close c h
    rw [close_hold] at hrelated
    exact ⟨rfl, rfl, hrelated⟩

/-- Coupled transports answer every run of admitted steps alike. -/
theorem lockstep_steps (run : List Step)
    (hadmits : ∀ step ∈ run, ∀ call ∈ step.transfers, admits call) :
    Lockstep related (steps left run) (steps right run) := by
  induction run with
  | nil => exact Lockstep.pure _
  | cons first rest ih =>
    have hfirst := hadmits first List.mem_cons_self
    have hrest := ih fun step hstep => hadmits step (List.mem_cons_of_mem _ hstep)
    exact Lockstep.bind (lockstep_step c first hfirst) fun _ =>
      Lockstep.bind hrest fun _ => Lockstep.pure _

end Actions

end Session

/-! ### Invariants of one transport -/

/-- A property of what the session knows and of the transport's state that the calls of a session keep. -/
structure Invariant {σ : Type} (bus : Bus σ) (holds : Hold → σ → Prop) : Prop where
  acquire : ∀ {t}, holds .released t →
    holds (.afterAcquire (bus.reply .acquire t)) (bus.after .acquire t)
  release : ∀ {t}, holds .held t → holds .released (bus.after .release t)
  transfer : ∀ {hold t} (call : Call), holds hold t → call.size ≠ 0 → holds hold (bus.after call t)

namespace Invariant

variable {σ : Type} {bus : Bus σ} {holds : Hold → σ → Prop}

/-- A transport is coupled with itself by any invariant. -/
theorem coupling (inv : Invariant bus holds) :
    Coupling bus bus (fun _ => True) fun hold s t => s = t ∧ holds hold t where
  acquire := by
    rintro s t ⟨rfl, h⟩
    exact ⟨rfl, rfl, inv.acquire h⟩
  release := by
    rintro s t ⟨rfl, h⟩
    exact ⟨rfl, rfl, inv.release h⟩
  transfer := by
    rintro hold s t call ⟨rfl, h⟩ hsize _
    exact ⟨rfl, rfl, inv.transfer call h hsize⟩

theorem steps (inv : Invariant bus holds) (ss : List Session.Step) (s : Session σ)
    (h : holds s.hold s.transport) :
    holds (run (Session.steps bus ss) s).state.hold (run (Session.steps bus ss) s).state.transport :=
  (Session.lockstep_steps inv.coupling ss (fun _ _ _ _ => trivial) ⟨rfl, h⟩).2.2.2

theorem close (inv : Invariant bus holds) {s : Session σ} (h : holds s.hold s.transport) :
    holds .released (run (Session.close bus) s).state.transport := by
  have hclosed := (Session.lockstep_close inv.coupling ⟨rfl, h⟩).2.2.2
  rwa [Session.close_hold] at hclosed

end Invariant

end FlashIdent
