import FlashIdent.Proofs.Probe.Handshakes

/-!
# Transfers through a session

Each raw call has its counterpart on a session.  For a transfer the session does two things to it: an empty one is
refused before the transport sees it, and what comes back of any other is checked for its length.

So a session hands out an answer only if it has as many bytes as the call implies, whatever the transport does.
Two pieces of code further up are therefore never reached: bytes that were read as a JEDEC ID always make one, and
a frame that was received can always be decoded.
-/

namespace FlashIdent

open FlashIdent.Action (run)

variable {σ : Type}

theorem Action.run_bind_congr {α β : Type} {m : Action σ α} {f g : α → Action σ β} {s : σ}
    (h : run (f (run m s).value) (run m s).state = run (g (run m s).value) (run m s).state) :
    run (m >>= f) s = run (m >>= g) s := by
  rw [run_bind, run_bind, h]

/-! ### Answers of the right length -/

namespace Call

/-- The answer has as many bytes as the call implies. -/
def Fits : (call : Call) → call.Answer → Prop
  | acquire, _ => True
  | release, _ => True
  | write _ _, _ => True
  | read length _, received => received.length = length
  | writeRead data _, received => received.length = data.length

def check : (call : Call) → call.Answer → Reply call
  | acquire, answer => .ok answer
  | release, answer => .ok answer
  | write _ _, answer => .ok answer
  | read length _, received => Session.checkLength length received
  | writeRead data _, received => Session.checkLength data.length received

theorem fits_answerOf (call : Call) {received : Bytes} (hlength : received.length = call.size) :
    call.Fits (call.answerOf received) := by
  cases call with
  | acquire => trivial
  | release => trivial
  | write data timeout => trivial
  | read length timeout => exact hlength
  | writeRead data timeout => exact hlength

end Call

namespace Session

theorem checkLength_eq_ok_iff {expected : Nat} {received bytes : Bytes} :
    checkLength expected received = .ok bytes ↔ received = bytes ∧ bytes.length = expected := by
  unfold checkLength
  split
  · rename_i hlength
    rw [Except.ok.injEq]
    exact ⟨fun h => ⟨h, h ▸ hlength⟩, And.left⟩
  · rename_i hlength
    constructor
    · intro h
      cases h
    · rintro ⟨rfl, h⟩
      exact absurd h hlength

theorem checkLength_of_ne {expected : Nat} {received : Bytes} (hlength : received.length ≠ expected) :
    checkLength expected received = .error (.malformedResponse expected received.length) :=
  if_neg hlength

end Session

theorem Call.check_eq_ok_iff (call : Call) {answer checked : call.Answer} :
    call.check answer = .ok checked ↔ answer = checked ∧ call.Fits checked := by
  cases call with
  | acquire => simp [Call.check, Call.Fits]
  | release => simp [Call.check, Call.Fits]
  | write data timeout => simp [Call.check, Call.Fits]
  | read length timeout => exact Session.checkLength_eq_ok_iff
  | writeRead data timeout => exact Session.checkLength_eq_ok_iff

/-! ### The counterpart of a raw call -/

namespace Session

def perform (bus : Bus σ) : (call : Call) → Action (Session σ) (Reply call)
  | .acquire => acquire bus
  | .release => release bus
  | .write data timeout => write bus data timeout
  | .read length timeout => read bus length timeout
  | .writeRead data timeout => writeRead bus data timeout

theorem perform_empty (bus : Bus σ) {call : Call} (htransfer : call.isTransfer) (hsize : call.size = 0)
    (s : Session σ) : run (perform bus call) s = ⟨.error .invalidArgument, s, []⟩ := by
  cases call with
  | acquire => cases htransfer
  | release => cases htransfer
  | write data timeout =>
    obtain rfl : data = [] := List.length_eq_zero_iff.mp hsize
    exact write_nil bus timeout s
  | read length timeout =>
    obtain rfl : length = 0 := hsize
    exact read_zero bus timeout s
  | writeRead data timeout =>
    obtain rfl : data = [] := List.length_eq_zero_iff.mp hsize
    exact writeRead_nil bus timeout s

theorem perform_transfer (bus : Bus σ) {call : Call} (htransfer : call.isTransfer) (hsize : call.size ≠ 0)
    (s : Session σ) :
    (run (perform bus call) s).value = (bus.reply call s.transport).bind call.check ∧
    (run (perform bus call) s).state = ⟨s.hold, bus.after call s.transport⟩ := by
  cases call with
  | acquire => cases htransfer
  | release => cases htransfer
  | write data timeout =>
    have hdata : data ≠ [] := fun hnil => hsize (congrArg List.length hnil)
    obtain ⟨hvalue, hstate⟩ := write_of_ne_nil bus hdata timeout s
    refine ⟨hvalue.trans ?_, hstate⟩
    rcases bus.reply (.write data timeout) s.transport with e | ⟨⟩
    · rfl
    · rfl
  | read length timeout => exact read_of_ne_zero bus hsize timeout s
  | writeRead data timeout =>
    have hdata : data ≠ [] := fun hnil => hsize (congrArg List.length hnil)
    exact writeRead_of_ne_nil bus hdata timeout s

/-- Whatever the transport answers, only bytes of the right length are handed out. -/
theorem fits_of_perform (call : Call) {bus : Bus σ} {s : Session σ} {answer : call.Answer}
    (hanswer : (run (perform bus call) s).value = .ok answer) : call.Fits answer := by
  by_cases htransfer : call.isTransfer
  · by_cases hsize : call.size = 0
    · rw [perform_empty bus htransfer hsize] at hanswer
      cases hanswer
    · rw [(perform_transfer bus htransfer hsize s).1] at hanswer
      rcases hreply : bus.reply call s.transport with e | received
      · rw [hreply] at hanswer
        cases hanswer
      · rw [hreply] at hanswer
        exact (call.check_eq_ok_iff.mp hanswer).2
  · cases call with
    | acquire => trivial
    | release => trivial
    | write data timeout => exact absurd rfl htransfer
    | read length timeout => exact absurd rfl htransfer
    | writeRead data timeout => exact absurd rfl htransfer

/-! ### Code that is never reached -/

/-- The read of a JEDEC ID, with `otherwise` for bytes that are none. -/
def readJedecIdOr (bus : Bus σ) (timeout : Timeout)
    (otherwise : Bytes → Action (Session σ) (Except BusError JedecId)) :
    Action (Session σ) (Except BusError JedecId) := do
  match ← acquire bus with
  | .error e => return .error e
  | .ok () =>
    match ← write bus [Identification.rdidOpcode] timeout with
    | .error e =>
      letGo bus
      return .error e
    | .ok () =>
      match ← read bus Identification.jedecIdLength timeout with
      | .error e =>
        letGo bus
        return .error e
      | .ok received =>
        match ← release bus with
        | .ok () => pure ()
        | .error e =>
          Action.say .warn .identification ("spi25: release after RDID failed: " ++ e.message)
        match JedecId.ofBytes? received with
        | some id => return .ok id
        | none => otherwise received

theorem readJedecIdOr_malformed (bus : Bus σ) (timeout : Timeout) :
    (readJedecIdOr bus timeout fun received =>
      return .error (.malformedResponse Identification.jedecIdLength received.length)) =
      readJedecId bus timeout := rfl

theorem ofBytes?_of_read {bus : Bus σ} {timeout : Timeout} {s : Session σ} {received : Bytes}
    (hread : (run (read bus Identification.jedecIdLength timeout) s).value = .ok received) :
    ∃ id, JedecId.ofBytes? received = some id := by
  have hlength : received.length = Identification.jedecIdLength :=
    fits_of_perform (.read Identification.jedecIdLength timeout) hread
  exact Option.isSome_iff_exists.mp (JedecId.ofBytes?_isSome_iff.mpr hlength)

/-- What would be done with bytes that are no JEDEC ID makes no difference. -/
theorem run_readJedecIdOr (bus : Bus σ) (timeout : Timeout)
    (otherwise : Bytes → Action (Session σ) (Except BusError JedecId)) (s : Session σ) :
    run (readJedecIdOr bus timeout otherwise) s = run (readJedecId bus timeout) s := by
  unfold readJedecIdOr readJedecId
  -- both go the same way as far as the bytes have been read
  refine Action.run_bind_congr ?_
  rcases (run (acquire bus) s).value with e | ⟨⟩
  · rfl
  refine Action.run_bind_congr ?_
  rcases (run (write bus [Identification.rdidOpcode] timeout) _).value with e | ⟨⟩
  · rfl
  refine Action.run_bind_congr ?_
  rcases hread : (run (read bus Identification.jedecIdLength timeout) _).value with e | received
  · rfl
  obtain ⟨id, hid⟩ := ofBytes?_of_read hread
  dsimp only
  rewrite [hid]
  rfl

/-! ### What a session enforces -/

/-- Whatever its transport does, the session in this state lets no answer of a wrong length pass. -/
structure EnforcesLengths (bus : Bus σ) (s : Session σ) : Prop where
  read : ∀ {length timeout received}, (run (read bus length timeout) s).value = .ok received →
    received.length = length
  writeRead : ∀ {data timeout received}, (run (writeRead bus data timeout) s).value = .ok received →
    received.length = data.length
  /-- A read that reaches the transport and brings another number of bytes fails and names both numbers. -/
  malformedRead : ∀ {length timeout received}, length ≠ 0 →
    bus.reply (.read length timeout) s.transport = .ok received → received.length ≠ length →
    (run (Session.read bus length timeout) s).value = .error (.malformedResponse length received.length)
  malformedWriteRead : ∀ {data timeout received}, data ≠ [] →
    bus.reply (.writeRead data timeout) s.transport = .ok received → received.length ≠ data.length →
    (run (Session.writeRead bus data timeout) s).value = .error (.malformedResponse data.length received.length)
  /-- Every frame that is handed out can be decoded, with any table. -/
  frame : ∀ {timeout frame}, (run (readManufacturerId bus timeout) s).value = .ok frame →
    ∀ table, (Decoding.ofFrame? table frame).isSome
  /-- Nothing that could be put in the place of the failure to make a JEDEC ID is ever run. -/
  jedecId : ∀ timeout otherwise, run (readJedecIdOr bus timeout otherwise) s = run (readJedecId bus timeout) s

theorem enforcesLengths (bus : Bus σ) (s : Session σ) : EnforcesLengths bus s where
  read {length timeout received} hread := fits_of_perform (.read length timeout) hread
  writeRead {data timeout received} hread := fits_of_perform (.writeRead data timeout) hread
  malformedRead {length timeout received} hsize hreply hlength := by
    rw [(read_of_ne_zero bus hsize timeout s).1, hreply]
    exact checkLength_of_ne hlength
  malformedWriteRead {data timeout received} hdata hreply hlength := by
    rw [(writeRead_of_ne_nil bus hdata timeout s).1, hreply]
    exact checkLength_of_ne hlength
  frame {timeout frame} hframe table := by
    have hlength : frame.length = Identification.remsFrameLength :=
      fits_of_perform (.writeRead Identification.remsFrame timeout) hframe
    exact Decoding.ofFrame?_isSome_iff.mpr hlength
  jedecId timeout otherwise := run_readJedecIdOr bus timeout otherwise s

end Session

end FlashIdent
