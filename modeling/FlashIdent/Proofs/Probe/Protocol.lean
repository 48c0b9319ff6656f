import FlashIdent.Bus.Recorded
import FlashIdent.Proofs.Probe.Handshakes

/-!
# The bus protocol of a probe

Which raw calls a probe makes, in which order, and what it makes of the replies.  The first call is always
the manufacturer and device frame.  What follows is the JEDEC handshake, unless the caller holds the bus: then
it is left out and the hold is left alone.

`JedecHandshake` lists the four courses of that handshake as traces of calls and replies.  The release is the
last call of each course that began with a successful acquire, and no course looks at the release's reply.
-/

namespace FlashIdent

open FlashIdent.Action (run)

variable {σ : Type}

/-! ### Traces of the JEDEC handshake -/

/-- The calls of a JEDEC handshake with their replies, and the bytes that were read if it came to that. -/
inductive JedecHandshake (timeout : Timeout) : List Exchange → Option Bytes → Prop
  | refused (e : BusError) : JedecHandshake timeout [⟨.acquire, .error e⟩] none
  | unsent (e : BusError) (release : Reply .release) :
    JedecHandshake timeout
      [⟨.acquire, .ok ()⟩, ⟨.write [0x9f] timeout, .error e⟩, ⟨.release, release⟩] none
  | unanswered (e : BusError) (release : Reply .release) :
    JedecHandshake timeout
      [⟨.acquire, .ok ()⟩, ⟨.write [0x9f] timeout, .ok ()⟩, ⟨.read 3 timeout, .error e⟩,
        ⟨.release, release⟩] none
  | answered (received : Bytes) (release : Reply .release) :
    JedecHandshake timeout
      [⟨.acquire, .ok ()⟩, ⟨.write [0x9f] timeout, .ok ()⟩, ⟨.read 3 timeout, .ok received⟩,
        ⟨.release, release⟩] (some received)

namespace JedecHandshake

variable {timeout : Timeout} {trace : List Exchange}

theorem ne_nil {received : Option Bytes} (h : JedecHandshake timeout trace received) : trace ≠ [] := by
  rintro rfl
  cases h

/-- The trace tells which bytes were read. -/
theorem unique {received received' : Option Bytes} (h : JedecHandshake timeout trace received)
    (h' : JedecHandshake timeout trace received') : received = received' := by
  cases h with
  | refused e => cases h'; rfl
  | unsent e release => cases h'; rfl
  | unanswered e release => cases h'; rfl
  | answered received release => cases h'; rfl

end JedecHandshake

/-! ### The handshake on a recorded transport -/

namespace Session

open Identification

theorem after_exchanges (bus : Bus σ) (call : Call) (r : Recorded σ) :
    (bus.recorded.after call r).exchanges = r.exchanges ++ [⟨call, bus.recorded.reply call r⟩] := rfl

/-- Every course of the handshake is recorded as a trace of its kind, ends released, and answers the id that
the bytes of the trace make. -/
theorem readJedecId_exchanges (bus : Bus σ) (timeout : Timeout) (r : Recorded σ) :
    let outcome := run (readJedecId bus.recorded timeout) ⟨.released, r⟩
    ∃ trace received, JedecHandshake timeout trace received ∧
      outcome.state.hold = .released ∧
      outcome.state.transport.exchanges = r.exchanges ++ trace ∧
      outcome.value.toOption = received.bind JedecId.ofBytes? := by
  intro outcome
  -- the four ways of the handshake, told apart by the replies along the way
  rcases hacquire : bus.recorded.reply .acquire r with e | ⟨⟩
  · obtain ⟨hvalue, hstate⟩ := readJedecId_refused timeout hacquire
    refine ⟨_, _, .refused e, ?_, ?_, ?_⟩
    · rw [hstate]
    · rw [hstate, acquired, after_exchanges, hacquire]
    · rw [hvalue]
      rfl
  have hacquired : (acquired bus.recorded r).exchanges = r.exchanges ++ [⟨.acquire, .ok ()⟩] := by
    rw [acquired, after_exchanges, hacquire]
  rcases hwrite : bus.recorded.reply (.write [rdidOpcode] timeout) (acquired bus.recorded r) with e | ⟨⟩
  · obtain ⟨hvalue, hstate⟩ := readJedecId_unsent hacquire hwrite
    refine ⟨_, _, .unsent e (bus.recorded.reply .release (asked bus.recorded timeout r)), ?_, ?_, ?_⟩
    · rw [hstate]
    · rw [hstate, after_exchanges, asked, after_exchanges, hwrite, hacquired]
      simp [rdidOpcode]
    · rw [hvalue]
      rfl
  have hasked : (asked bus.recorded timeout r).exchanges =
      r.exchanges ++ [⟨.acquire, .ok ()⟩, ⟨.write [0x9f] timeout, .ok ()⟩] := by
    rw [asked, after_exchanges, hwrite, hacquired]
    simp [rdidOpcode]
  rcases hread : bus.recorded.reply (.read jedecIdLength timeout) (asked bus.recorded timeout r)
    with e | received
  · obtain ⟨hvalue, hstate⟩ := readJedecId_unanswered hacquire hwrite hread
    refine ⟨_, _, .unanswered e (bus.recorded.reply .release (answered bus.recorded timeout r)),
      ?_, ?_, ?_⟩
    · rw [hstate]
    · rw [hstate, after_exchanges, answered, after_exchanges, hread, hasked]
      simp [jedecIdLength]
    · rw [hvalue]
      rfl
  · obtain ⟨hvalue, hstate⟩ := readJedecId_answered hacquire hwrite hread
    refine ⟨_, _, .answered received (bus.recorded.reply .release (answered bus.recorded timeout r)),
      ?_, ?_, ?_⟩
    · rw [hstate]
    · rw [hstate, after_exchanges, answered, after_exchanges, hread, hasked]
      simp [jedecIdLength]
    · exact hvalue

end Session

/-! ### The protocol of a probe -/

namespace Probe.Prober

open Session

/-- What a report says of a frame: it is decoded exactly if it came back whole. -/
theorem frame_reported (table : Chip.Table) (frame : Except BusError Bytes) :
    let identity? := (frame.toOption.bind (Decoding.ofFrame? table)).map Decoding.identity
    (identity?.isSome ↔ ∃ bytes, frame = .ok bytes ∧ bytes.length = 6) ∧
    ∀ bytes, frame = .ok bytes → identity? = (Decoding.ofFrame? table bytes).map Decoding.identity := by
  intro identity?
  constructor
  · rcases frame with e | bytes
    · simp [identity?, Except.toOption]
    · simp only [identity?, Except.toOption, Option.bind_some, Option.isSome_map,
        Decoding.ofFrame?_isSome_iff, Except.ok.injEq, exists_eq_left']
      rfl
  · rintro bytes rfl
    rfl

/-- What a report says of a JEDEC handshake: it is decoded exactly if three bytes were read. -/
theorem handshake_reported (table : Chip.Table) {timeout : Timeout} {trace : List Exchange}
    {received : Option Bytes} (h : JedecHandshake timeout trace received) :
    let identity? := ((received.bind JedecId.ofBytes?).map (Decoding.ofJedecId table)).map Decoding.identity
    (identity?.isSome ↔ ∃ bytes, JedecHandshake timeout trace (some bytes) ∧ bytes.length = 3) ∧
    ∀ id : JedecId, JedecHandshake timeout trace (some id.toBytes) →
      identity? = some (Decoding.ofJedecId table id).identity := by
  intro identity?
  have hsome : identity?.isSome ↔ ∃ bytes, received = some bytes ∧ bytes.length = 3 := by
    rcases received with _ | bytes
    · simp [identity?]
    · simp only [identity?, Option.bind_some, Option.isSome_map, JedecId.ofBytes?_isSome_iff,
        Option.some.injEq, exists_eq_left']
      rfl
  constructor
  · rw [hsome]
    constructor
    · rintro ⟨bytes, rfl, hlength⟩
      exact ⟨bytes, h, hlength⟩
    · rintro ⟨bytes, hbytes, hlength⟩
      exact ⟨bytes, h.unique hbytes, hlength⟩
  · intro id hread
    obtain rfl : received = some id.toBytes := h.unique hread
    rfl

/-- Everything that a probe does on the bus and finds out there.  The frame is sent first.  If the caller holds
the bus, nothing follows and the bus stays held.  Otherwise a JEDEC handshake follows and the bus is released.
The report names a manufacturer and device identity if the frame came back whole, and a JEDEC identity if the
handshake read three bytes; these bytes decide what the identities are. -/
theorem probe_protocol (bus : Bus σ) (p : Prober) (s : Session (Recorded σ)) :
    let outcome := run (p.probe bus.recorded) s
    ∃ (frame : Except BusError Bytes) (later : List Exchange),
      outcome.state.transport.exchanges = s.transport.exchanges ++
        ⟨.writeRead [0x90, 0, 0, 0, 0, 0] p.timeouts.rems, frame⟩ :: later ∧
      (s.hold = .held → later = [] ∧ outcome.state.hold = .held) ∧
      (s.hold = .released →
        (∃ received, JedecHandshake p.timeouts.jedec later received) ∧ outcome.state.hold = .released) ∧
      (outcome.value.manufacturerId.isSome ↔ ∃ bytes, frame = .ok bytes ∧ bytes.length = 6) ∧
      (∀ bytes, frame = .ok bytes →
        outcome.value.manufacturerId = (Decoding.ofFrame? p.table bytes).map Decoding.identity) ∧
      (outcome.value.jedec.isSome ↔ s.hold = .released ∧
        ∃ bytes, JedecHandshake p.timeouts.jedec later (some bytes) ∧ bytes.length = 3) ∧
      (∀ id : JedecId, JedecHandshake p.timeouts.jedec later (some id.toBytes) →
        outcome.value.jedec = some (Decoding.ofJedecId p.table id).identity) := by
  intro outcome
  obtain ⟨hvalue, hstate⟩ := probe_run p bus.recorded s
  obtain ⟨hold, r⟩ := s
  let call : Call := .writeRead Identification.remsFrame p.timeouts.rems
  let frame : Except BusError Bytes := bus.recorded.reply call r
  have hframe : outcome.value.manufacturerId =
      (frame.toOption.bind (Decoding.ofFrame? p.table)).map Decoding.identity :=
    congrArg Report.manufacturerId hvalue
  have hjedec : outcome.value.jedec =
      ((run (readJedecId bus.recorded p.timeouts.jedec) ⟨hold, bus.recorded.after call r⟩).value.toOption.map
        (Decoding.ofJedecId p.table)).map Decoding.identity :=
    congrArg Report.jedec hvalue
  obtain ⟨hwhole, hdecoded⟩ := frame_reported p.table frame
  rw [← hframe] at hwhole hdecoded
  cases hold with
  | held =>
    rw [readJedecId_held] at hjedec hstate
    have hnone : outcome.value.jedec = none := hjedec
    refine ⟨frame, [], ?_, fun _ => ⟨rfl, ?_⟩, (fun h => nomatch h), hwhole, hdecoded, ?_, ?_⟩
    · rw [hstate]
      rfl
    · rw [hstate]
    · rw [hnone]
      simp
    · intro id hid
      exact absurd rfl hid.ne_nil
  | released =>
    obtain ⟨later, received, hlater, hreleased, hexchanges, hid⟩ :=
      readJedecId_exchanges bus p.timeouts.jedec (bus.recorded.after call r)
    obtain ⟨hread, hidentity⟩ := handshake_reported p.table hlater
    rw [hid] at hjedec
    rw [← hjedec] at hread hidentity
    refine ⟨frame, later, ?_, (fun h => nomatch h), fun _ => ⟨⟨received, hlater⟩, ?_⟩, hwhole, hdecoded,
      ?_, hidentity⟩
    · rw [hstate, hexchanges, after_exchanges, List.append_assoc]
      rfl
    · rw [hstate, hreleased]
    · rw [hread]
      exact ⟨fun h => ⟨rfl, h⟩, And.right⟩

end Probe.Prober

end FlashIdent
