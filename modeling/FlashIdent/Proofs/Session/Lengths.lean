import FlashIdent.Bus.Rehearsed
import FlashIdent.Proofs.Emulator.Histories
import FlashIdent.Proofs.Session.Transfers
import FlashIdent.Proofs.Spidev.Calls
import FlashIdent.Session.Step

/-!
# Lengths are enforced

A session fails with a malformed response when its transport answers with another number of bytes than the call
implies.  A transport is `Exact` if it never does that, and never fails so by itself.  On such a transport no call
of a session ends that way, and none in a whole run: not a call of a step, not one under a scoped hold, and neither
of the two reads of a probe, whose failures the report keeps to itself.  A probe that gives them away as well is
otherwise the same probe (`probe_eq`).

The emulator is exact, since the chip sends a byte for each byte it is sent, and a fault is a time-out or a fault of
the link.  A kernel device is exact as well, however much it may move at once: its receive buffer has the length
that was asked for, however many bytes the kernel stores, and no error of the kernel stands for a malformed response.
-/

namespace FlashIdent

open FlashIdent.Action (run)

variable {σ α β : Type}

/-! ### Exact transports -/

def BusError.isMalformed : BusError → Bool
  | malformedResponse _ _ => true
  | _ => false

/-- The reply is an answer with as many bytes as the call implies, or a failure that does not complain of them. -/
def Call.Exact (call : Call) : Reply call → Prop
  | .ok answer => call.Fits answer
  | .error e => e.isMalformed = false

def Bus.Exact (bus : Bus σ) : Prop := ∀ (call : Call) (t : σ), call.Exact (bus.reply call t)

/-- If this is a failure, then not because of a wrong length. -/
def Sound (result : Except BusError α) : Prop := ∀ e, result = .error e → e.isMalformed = false

theorem sound_ok (a : α) : Sound (.ok a : Except BusError α) := by
  intro e he
  cases he

theorem sound_error {e : BusError} (he : e.isMalformed = false) : Sound (.error e : Except BusError α) := by
  rintro e' ⟨⟩
  exact he

theorem Sound.error {e : BusError} (h : Sound (.error e : Except BusError α)) :
    Sound (.error e : Except BusError β) :=
  sound_error (h e rfl)

theorem Sound.map {result : Except BusError α} (h : Sound result) (f : α → β) : Sound (result.map f) := by
  rcases result with e | a
  · exact h.error
  · exact sound_ok (f a)

theorem Call.Exact.sound {call : Call} {reply : Reply call} (h : call.Exact reply) : Sound reply := by
  rcases reply with e | answer
  · exact sound_error h
  · exact sound_ok answer

theorem Call.Exact.check {call : Call} {reply : Reply call} (h : call.Exact reply) :
    Sound (reply.bind call.check) := by
  rcases reply with e | answer
  · exact sound_error h
  · have hpasses : call.check answer = .ok answer := call.check_eq_ok_iff.mpr ⟨rfl, h⟩
    show Sound (call.check answer)
    rw [hpasses]
    exact sound_ok answer

/-! ### What actions answer -/

namespace Action

/-- Whatever state it is run from, the action answers a value with this property. -/
def Answers (good : α → Prop) (m : Action σ α) : Prop := ∀ s, good (run m s).value

namespace Answers

variable {good : α → Prop}

theorem pure {a : α} (h : good a) : Answers good (Pure.pure a : Action σ α) := fun _ => h

theorem bind {m : Action σ α} {f : α → Action σ β} {goal : β → Prop} (hm : Answers good m)
    (hf : ∀ a, good a → Answers goal (f a)) : Answers goal (m >>= f) :=
  fun s => hf _ (hm s) _

/-- What is answered before the end may be anything. -/
theorem after (m : Action σ β) {f : β → Action σ α} (hf : ∀ b, Answers good (f b)) : Answers good (m >>= f) :=
  fun _ => hf _ _

end Answers

end Action

open FlashIdent.Action (Answers)

/-! ### Calls of a session -/

namespace Bus.Exact

open Session

variable {bus : Bus σ} (h : bus.Exact)

include h

theorem acquire : Answers Sound (Session.acquire bus) := by
  rintro ⟨hold, t⟩
  cases hold with
  | held => exact sound_error rfl
  | released =>
    rw [(acquire_released bus t).1]
    exact (h .acquire t).sound

theorem release : Answers Sound (Session.release bus) := by
  rintro ⟨hold, t⟩
  cases hold with
  | released => exact sound_error rfl
  | held => exact (h .release t).sound

theorem transfer {call : Call} (htransfer : call.isTransfer) : Answers Sound (Session.perform bus call) := by
  intro s
  by_cases hsize : call.size = 0
  · rw [perform_empty bus htransfer hsize]
    exact sound_error rfl
  · rw [(perform_transfer bus htransfer hsize s).1]
    exact (h call s.transport).check

theorem perform (call : Call) : Answers Sound (Session.perform bus call) := by
  cases call with
  | acquire => exact h.acquire
  | release => exact h.release
  | write data timeout => exact h.transfer rfl
  | read length timeout => exact h.transfer rfl
  | writeRead data timeout => exact h.transfer rfl

theorem readManufacturerId (timeout : Timeout) : Answers Sound (Session.readManufacturerId bus timeout) :=
  h.perform (.writeRead Identification.remsFrame timeout)

theorem readJedecId (timeout : Timeout) : Answers Sound (Session.readJedecId bus timeout) := by
  intro s
  -- the failure to make an id of the bytes is never reached, so any other may stand for it
  rw [← run_readJedecIdOr bus timeout fun _ => return .error .invalidArgument]
  refine Answers.bind h.acquire ?_ s
  rintro (e | ⟨⟩) hacquire
  · exact Answers.pure hacquire.error
  refine Answers.bind (h.perform (.write [Identification.rdidOpcode] timeout)) ?_
  rintro (e | ⟨⟩) hwrite
  · exact Answers.after _ fun _ => Answers.pure hwrite.error
  refine Answers.bind (h.perform (.read Identification.jedecIdLength timeout)) ?_
  rintro (e | received) hread
  · exact Answers.after _ fun _ => Answers.pure hread.error
  dsimp only
  rcases JedecId.ofBytes? received with _ | id
  · refine Answers.after _ ?_
    rintro (e | ⟨⟩)
    · exact Answers.after _ fun _ => Answers.pure (sound_error rfl)
    · exact Answers.pure (sound_error rfl)
  · refine Answers.after _ ?_
    rintro (e | ⟨⟩)
    · exact Answers.after _ fun _ => Answers.pure (sound_ok id)
    · exact Answers.pure (sound_ok id)

end Bus.Exact

/-! ### The reads of a probe -/

namespace Probe.Prober

/-- A probe that keeps what its two reads have answered, beside the report. -/
def probeKeeping (p : Prober) (bus : Bus σ) :
    Action (Session σ) (Report × Except BusError Bytes × Except BusError JedecId) := do
  let frame ← p.askFrame bus
  let rems ← p.decodeFrame frame
  let id ← p.askId bus
  let jedec ← p.decodeId id
  return (Report.ofDecodings rems jedec, frame, id)

/-- Without what it has kept it is the probe: the same report, the same session afterwards, the same log. -/
theorem probe_eq (p : Prober) (bus : Bus σ) : p.probe bus = Prod.fst <$> p.probeKeeping bus := by
  simp [probe, manufacturerId, jedecId, probeKeeping]

end Probe.Prober

/-! ### Runs -/

namespace Session

def failureOf : Except BusError α → List BusError
  | .ok _ => []
  | .error e => [e]

def CallAnswer.failures : CallAnswer → List BusError
  | done result => failureOf result
  | bytes result => failureOf result

def Answer.failures : Answer → List BusError
  | call answer => answer.failures
  | hold (.error e) => [e]
  | hold (.ok answers) => answers.flatMap CallAnswer.failures
  | report _ => []
  | renewed => []

/-- The failures of the two reads of a probe, which its report keeps to itself. -/
def handshakeFailures (bus : Bus σ) (p : Probe.Prober) (s : Session σ) : List BusError :=
  failureOf (run (p.probeKeeping bus) s).value.2.1 ++ failureOf (run (p.probeKeeping bus) s).value.2.2

/-- The failures that a step meets with, whether it answers them or not. -/
def Step.failures (bus : Bus σ) (step : Step) (s : Session σ) : List BusError :=
  match step with
  | .probe p => handshakeFailures bus p s
  | _ => (run (Session.step bus step) s).value.failures

def failures (bus : Bus σ) : List Step → Session σ → List BusError
  | [], _ => []
  | step :: later, s => step.failures bus s ++ failures bus later (run (Session.step bus step) s).state

end Session

def NoneMalformed (failures : List BusError) : Prop := ∀ e ∈ failures, e.isMalformed = false

theorem NoneMalformed.nil : NoneMalformed [] := by
  intro e he
  cases he

theorem NoneMalformed.append {first later : List BusError} (hfirst : NoneMalformed first)
    (hlater : NoneMalformed later) : NoneMalformed (first ++ later) := by
  intro e he
  rcases List.mem_append.mp he with he | he
  · exact hfirst e he
  · exact hlater e he

theorem Sound.failureOf {result : Except BusError α} (h : Sound result) : NoneMalformed (Session.failureOf result) := by
  rcases result with e | a
  · intro e' he'
    rw [List.mem_singleton.mp he']
    exact h e rfl
  · exact NoneMalformed.nil

namespace Bus.Exact

open Session

variable {bus : Bus σ} (h : bus.Exact)

include h

theorem probeKeeping (p : Probe.Prober) :
    Answers (fun kept => Sound kept.2.1 ∧ Sound kept.2.2) (p.probeKeeping bus) := by
  refine Answers.bind (Answers.after _ fun _ => h.readManufacturerId p.timeouts.rems) fun frame hframe => ?_
  refine Answers.after _ fun rems => ?_
  refine Answers.bind (Answers.after _ fun _ => h.readJedecId p.timeouts.jedec) fun id hid => ?_
  exact Answers.after _ fun jedec => Answers.pure ⟨hframe, hid⟩

theorem underHold (stopOnError : Bool) (calls : List GuardCall) :
    Answers (fun answers => NoneMalformed (answers.flatMap CallAnswer.failures))
      (Session.underHold bus stopOnError calls) := by
  -- each call under the hold either ends it or leaves the rest of the calls
  induction calls with
  | nil => exact Answers.after _ fun _ => Answers.pure NoneMalformed.nil
  | cons first rest ih =>
    -- what follows a call that has been answered
    have hnext : ∀ answer : CallAnswer, NoneMalformed answer.failures →
        Answers (fun answers => NoneMalformed (answers.flatMap CallAnswer.failures))
          (if stopOnError && answer.failed then do letGo bus; return [answer]
            else return answer :: (← Session.underHold bus stopOnError rest) : Action (Session σ) _) := by
      intro answer hanswer
      split
      · exact Answers.after _ fun _ => Answers.pure (hanswer.append NoneMalformed.nil)
      · exact Answers.bind ih fun _ hlater => Answers.pure (hanswer.append hlater)
    cases first with
    | write data timeout =>
      exact Answers.bind (h.perform (.write data timeout)) fun result hresult =>
        hnext (.done result) hresult.failureOf
    | read length timeout =>
      exact Answers.bind (h.perform (.read length timeout)) fun result hresult =>
        hnext (.bytes result) hresult.failureOf
    | release =>
      exact Answers.bind h.release fun _ hresult => Answers.pure (hresult.failureOf.append NoneMalformed.nil)

theorem holding (calls : List GuardCall) (stopOnError : Bool) :
    Answers (fun result => NoneMalformed (Answer.failures (.hold result)))
      (Session.holding bus calls stopOnError) := by
  refine Answers.bind h.acquire ?_
  rintro (e | ⟨⟩) hacquire
  · exact Answers.pure hacquire.failureOf
  · exact Answers.bind (h.underHold stopOnError calls) fun _ hanswers => Answers.pure hanswers

theorem step (step : Step) (s : Session σ) : NoneMalformed (step.failures bus s) := by
  cases step with
  | acquire => exact (h.acquire s).failureOf
  | release => exact (h.release s).failureOf
  | write data timeout => exact (h.perform (.write data timeout) s).failureOf
  | read length timeout => exact (h.perform (.read length timeout) s).failureOf
  | writeRead data timeout => exact (h.perform (.writeRead data timeout) s).failureOf
  | hold calls stopOnError => exact h.holding calls stopOnError s
  | readManufacturerId timeout => exact (h.readManufacturerId timeout s).failureOf
  | readJedecId timeout => exact ((h.readJedecId timeout s).map JedecId.toBytes).failureOf
  | probe p => exact ((h.probeKeeping p s).1.failureOf).append (h.probeKeeping p s).2.failureOf
  | renew => exact NoneMalformed.nil

theorem run (ss : List Step) : ∀ s : Session σ, NoneMalformed (failures bus ss s) := by
  induction ss with
  | nil =>
    intro s
    exact NoneMalformed.nil
  | cons first later ih =>
    intro s
    exact (h.step first s).append (ih _)

end Bus.Exact

/-! ### The two transports -/

theorem Emulator.exact : Emulator.bus.Exact := by
  intro call e
  rw [Emulator.reply_eq, Emulator.FaultPlan.reply]
  rcases e.faults.fault? call.operation with _ | fault
  · refine call.fits_answerOf ?_
    rw [Emulator.answer, Emulator.Flash.length_clock, Call.length_mosi]
  · cases fault with
    | timeout => rfl
    | transport => rfl

theorem Spidev.exact {κ : Type} (k : Spidev.Kernel κ) : (Spidev.bus k).Exact := by
  intro call p
  rcases hrequest : call.request? with _ | r
  · cases call with
    | acquire => trivial
    | _ => cases hrequest
  by_cases hlarge : p.device.bufferSize < call.size
  · rw [Spidev.reply_of_too_large k p hrequest hlarge]
    rfl
  · rw [Spidev.reply_of_fitting k p hrequest hlarge]
    rcases (k.transfer (r.transfer (p.flagged call).device) p.kernel).1 with cause | stored
    · by_cases htimeout : cause = Errno.timedOut
      · simp [Spidev.concluded, Call.Exact, htimeout, BusError.isMalformed]
      · simp [Spidev.concluded, Call.Exact, htimeout, BusError.isMalformed]
    · exact call.fits_answerOf (Spidev.length_receiveBuffer call.size stored)

/-! ### What is enforced -/

/-- No session on this transport ever meets with a malformed response. -/
structure NeverMalformed (bus : Bus σ) : Prop where
  /-- No call of a session fails with one, in whatever state it is made. -/
  call : ∀ (call : Call) (s : Session σ), Sound (run (Session.perform bus call) s).value
  /-- No run meets with one, the failures behind the reports of its probes included. -/
  run : ∀ (ss : List Session.Step) (s : Session σ), NoneMalformed (Session.failures bus ss s)

theorem Bus.Exact.neverMalformed {bus : Bus σ} (h : bus.Exact) : NeverMalformed bus := ⟨h.perform, h.run⟩

/-- Whatever the transport does, a session enforces the lengths, and what is written for bytes that got past the
check with a wrong length is never reached.  On the emulator and on a kernel device nothing ever fails the check. -/
theorem lengths_enforced :
    (∀ {σ : Type} (bus : Bus σ) (s : Session σ), Session.EnforcesLengths bus s) ∧
    NeverMalformed Emulator.bus ∧
    ∀ {κ : Type} (k : Spidev.Kernel κ), NeverMalformed (Spidev.bus k) :=
  ⟨Session.enforcesLengths, Emulator.exact.neverMalformed, fun k => (Spidev.exact k).neverMalformed⟩

/-- Two bytes instead of three are refused, while an emulator whose reads are made to fail gives another reason. -/
theorem lengths_enforced_on_short_answer :
    let short : Session Rehearsal := .start { read := [.bytes [1, 2]] }
    let faulty : Session Emulator := .start (.start {} (.ofList [(.read, .timeout)]))
    let ss : List Session.Step := [.read 3 none, .hold [.read 2 none] true, .probe {}]
    (run (Session.read Rehearsal.bus 3 none) short).value = .error (.malformedResponse 3 2) ∧
    Session.failures Emulator.bus ss faulty = [.timeout, .timeout, .timeout] ∧
    NoneMalformed (Session.failures Emulator.bus ss faulty) := by
  intro short faulty ss
  obtain ⟨henforced, hemulator, -⟩ := lengths_enforced
  have hshort : (run (Session.read Rehearsal.bus 3 none) short).value = .error (.malformedResponse 3 2) :=
    (henforced Rehearsal.bus short).malformedRead (by decide) rfl (by decide)
  exact ⟨hshort, by decide, hemulator.run ss faulty⟩

end FlashIdent
