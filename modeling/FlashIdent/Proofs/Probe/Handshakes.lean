import FlashIdent.Proofs.Session.Calls

/-!
# What the two handshakes do

The manufacturer and device bytes are read by one transfer.  The JEDEC ID takes up to four calls, and there
are four ways through them: the acquire is refused, the opcode is not sent, no answer is received, or an
answer is received.  On each way that gets past the acquire the bus is given back once, at the end.

The lemmas name the replies that lead along each way.  They hold for every transport.
-/

namespace FlashIdent

open FlashIdent.Action (run)

variable {σ : Type}

/-! ### The handshakes on a session -/

namespace Session

open Identification

theorem readManufacturerId_run (bus : Bus σ) (timeout : Timeout) (s : Session σ) :
    (run (readManufacturerId bus timeout) s).value =
      (bus.reply (.writeRead remsFrame timeout) s.transport).bind (checkLength remsFrameLength) ∧
    (run (readManufacturerId bus timeout) s).state =
      ⟨s.hold, bus.after (.writeRead remsFrame timeout) s.transport⟩ :=
  writeRead_of_ne_nil bus (List.cons_ne_nil remsOpcode [0, 0, 0, 0, 0]) timeout s

theorem readJedecId_held (bus : Bus σ) (timeout : Timeout) (t : σ) :
    run (readJedecId bus timeout) ⟨.held, t⟩ = ⟨.error .alreadyHeld, ⟨.held, t⟩, []⟩ := rfl

variable {bus : Bus σ} {timeout : Timeout} {t : σ} {e : BusError}

/-- The transport while the hold of the handshake is open and nothing has been sent. -/
def acquired (bus : Bus σ) (t : σ) : σ := bus.after .acquire t

/-- The transport when the opcode of the handshake has been sent. -/
def asked (bus : Bus σ) (timeout : Timeout) (t : σ) : σ :=
  bus.after (.write [rdidOpcode] timeout) (acquired bus t)

/-- The transport when the answer of the handshake has been read. -/
def answered (bus : Bus σ) (timeout : Timeout) (t : σ) : σ :=
  bus.after (.read jedecIdLength timeout) (asked bus timeout t)

theorem readJedecId_refused (timeout : Timeout) (hacquire : bus.reply .acquire t = .error e) :
    (run (readJedecId bus timeout) ⟨.released, t⟩).value = .error e ∧
    (run (readJedecId bus timeout) ⟨.released, t⟩).state = ⟨.released, acquired bus t⟩ := by
  obtain ⟨hvalue, hstate⟩ := acquire_released bus t
  rw [hacquire] at hvalue hstate
  simp [readJedecId, hvalue, hstate, Hold.afterAcquire, acquired]

/-! Each of the three calls before the release, as the handshake makes it. -/

theorem acquire_granted (hacquire : bus.reply .acquire t = .ok ()) :
    (run (acquire bus) ⟨.released, t⟩).value = .ok () ∧
    (run (acquire bus) ⟨.released, t⟩).state = ⟨.held, acquired bus t⟩ := by
  obtain ⟨hvalue, hstate⟩ := acquire_released bus t
  rw [hacquire] at hvalue hstate
  exact ⟨hvalue, hstate⟩

theorem sendOpcode (bus : Bus σ) (timeout : Timeout) (t : σ) :
    (run (write bus [rdidOpcode] timeout) ⟨.held, acquired bus t⟩).value =
      bus.reply (.write [rdidOpcode] timeout) (acquired bus t) ∧
    (run (write bus [rdidOpcode] timeout) ⟨.held, acquired bus t⟩).state = ⟨.held, asked bus timeout t⟩ :=
  write_of_ne_nil bus (List.cons_ne_nil rdidOpcode []) timeout ⟨.held, acquired bus t⟩

theorem receiveId (bus : Bus σ) (timeout : Timeout) (t : σ) :
    (run (read bus jedecIdLength timeout) ⟨.held, asked bus timeout t⟩).value =
      (bus.reply (.read jedecIdLength timeout) (asked bus timeout t)).bind (checkLength jedecIdLength) ∧
    (run (read bus jedecIdLength timeout) ⟨.held, asked bus timeout t⟩).state =
      ⟨.held, answered bus timeout t⟩ :=
  read_of_ne_zero bus (by decide) timeout ⟨.held, asked bus timeout t⟩

theorem readJedecId_unsent (hacquire : bus.reply .acquire t = .ok ())
    (hwrite : bus.reply (.write [rdidOpcode] timeout) (acquired bus t) = .error e) :
    (run (readJedecId bus timeout) ⟨.released, t⟩).value = .error e ∧
    (run (readJedecId bus timeout) ⟨.released, t⟩).state =
      ⟨.released, bus.after .release (asked bus timeout t)⟩ := by
  obtain ⟨hgranted, hheld⟩ := acquire_granted hacquire
  obtain ⟨hsent, hasked⟩ := sendOpcode bus timeout t
  rw [hwrite] at hsent
  simp [readJedecId, hgranted, hheld, hsent, hasked, letGo_state, release_held]

theorem readJedecId_unanswered (hacquire : bus.reply .acquire t = .ok ())
    (hwrite : bus.reply (.write [rdidOpcode] timeout) (acquired bus t) = .ok ())
    (hread : bus.reply (.read jedecIdLength timeout) (asked bus timeout t) = .error e) :
    (run (readJedecId bus timeout) ⟨.released, t⟩).value = .error e ∧
    (run (readJedecId bus timeout) ⟨.released, t⟩).state =
      ⟨.released, bus.after .release (answered bus timeout t)⟩ := by
  obtain ⟨hgranted, hheld⟩ := acquire_granted hacquire
  obtain ⟨hsent, hasked⟩ := sendOpcode bus timeout t
  obtain ⟨hreceived, hanswered⟩ := receiveId bus timeout t
  rw [hwrite] at hsent
  rw [hread] at hreceived
  simp [readJedecId, hgranted, hheld, hsent, hasked, hreceived, hanswered, Except.bind, letGo_state,
    release_held]

/-- An answer of the right length is the id; any other answer fails.  Either way the release is made, and
what the transport says to it is not looked at. -/
theorem readJedecId_answered {received : Bytes} (hacquire : bus.reply .acquire t = .ok ())
    (hwrite : bus.reply (.write [rdidOpcode] timeout) (acquired bus t) = .ok ())
    (hread : bus.reply (.read jedecIdLength timeout) (asked bus timeout t) = .ok received) :
    (run (readJedecId bus timeout) ⟨.released, t⟩).value.toOption = JedecId.ofBytes? received ∧
    (run (readJedecId bus timeout) ⟨.released, t⟩).state =
      ⟨.released, bus.after .release (answered bus timeout t)⟩ := by
  obtain ⟨hgranted, hheld⟩ := acquire_granted hacquire
  obtain ⟨hsent, hasked⟩ := sendOpcode bus timeout t
  obtain ⟨hreceived, hanswered⟩ := receiveId bus timeout t
  rw [hwrite] at hsent
  rw [hread] at hreceived
  by_cases hlength : received.length = jedecIdLength
  · obtain ⟨id, hid⟩ := Option.isSome_iff_exists.mp (JedecId.ofBytes?_isSome_iff.mpr hlength)
    rcases hrelease : bus.reply .release (answered bus timeout t) with e | ⟨⟩
    · simp [readJedecId, hgranted, hheld, hsent, hasked, hreceived, hanswered, Except.bind, checkLength,
        hlength, release_held, hrelease, hid, Except.toOption]
    · simp [readJedecId, hgranted, hheld, hsent, hasked, hreceived, hanswered, Except.bind, checkLength,
        hlength, release_held, hrelease, hid, Except.toOption]
  · have hid : JedecId.ofBytes? received = none := by
      rw [← Option.not_isSome_iff_eq_none, JedecId.ofBytes?_isSome_iff]
      exact hlength
    simp [readJedecId, hgranted, hheld, hsent, hasked, hreceived, hanswered, Except.bind, checkLength,
      hlength, letGo_state, release_held, hid, Except.toOption]

/-! The four ways as one: what the handshake brings, and where it leaves the transport. -/

/-- The bytes that are received if the three calls before the release succeed. -/
def received? (bus : Bus σ) (timeout : Timeout) (t : σ) : Option Bytes :=
  (bus.reply .acquire t).toOption.bind fun _ =>
    (bus.reply (.write [rdidOpcode] timeout) (acquired bus t)).toOption.bind fun _ =>
      (bus.reply (.read jedecIdLength timeout) (asked bus timeout t)).toOption

/-- The transport at the end of the handshake.  Whatever succeeded after the acquire, the release comes last. -/
def concluded (bus : Bus σ) (timeout : Timeout) (t : σ) : σ :=
  match bus.reply .acquire t with
  | .error _ => acquired bus t
  | .ok _ =>
    match bus.reply (.write [rdidOpcode] timeout) (acquired bus t) with
    | .error _ => bus.after .release (asked bus timeout t)
    | .ok _ => bus.after .release (answered bus timeout t)

theorem readJedecId_released (bus : Bus σ) (timeout : Timeout) (t : σ) :
    (run (readJedecId bus timeout) ⟨.released, t⟩).value.toOption =
      (received? bus timeout t).bind JedecId.ofBytes? ∧
    (run (readJedecId bus timeout) ⟨.released, t⟩).state = ⟨.released, concluded bus timeout t⟩ := by
  rcases hacquire : bus.reply .acquire t with e | ⟨⟩
  · obtain ⟨hvalue, hstate⟩ := readJedecId_refused timeout hacquire
    simp [hvalue, hstate, received?, concluded, hacquire, Except.toOption]
  rcases hwrite : bus.reply (.write [rdidOpcode] timeout) (acquired bus t) with e | ⟨⟩
  · obtain ⟨hvalue, hstate⟩ := readJedecId_unsent hacquire hwrite
    simp [hvalue, hstate, received?, concluded, hacquire, hwrite, Except.toOption]
  rcases hread : bus.reply (.read jedecIdLength timeout) (asked bus timeout t) with e | bytes
  · obtain ⟨hvalue, hstate⟩ := readJedecId_unanswered hacquire hwrite hread
    simp [hvalue, hstate, received?, concluded, hacquire, hwrite, hread, Except.toOption]
  · obtain ⟨hvalue, hstate⟩ := readJedecId_answered hacquire hwrite hread
    rw [hvalue, hstate]
    simp [received?, concluded, hacquire, hwrite, hread, Except.toOption]

end Session

/-! ### The handshakes of a prober -/

namespace Probe.Prober

open Session Identification

/-- A frame of another length than the session lets through would not have been decoded either. -/
theorem ofFrame?_checkLength (table : Chip.Table) (reply : Except BusError Bytes) :
    (reply.bind (checkLength remsFrameLength)).toOption.bind (Decoding.ofFrame? table) =
      reply.toOption.bind (Decoding.ofFrame? table) := by
  rcases reply with e | frame
  · rfl
  · by_cases hlength : frame.length = remsFrameLength
    · simp [Except.bind, checkLength, hlength, Except.toOption]
    · have hnone : Decoding.ofFrame? table frame = none := by
        rw [← Option.not_isSome_iff_eq_none, Decoding.ofFrame?_isSome_iff]
        exact hlength
      simp [Except.bind, checkLength, hlength, Except.toOption, hnone]

theorem manufacturerId_run (p : Prober) (bus : Bus σ) (s : Session σ) :
    (run (p.manufacturerId bus) s).value =
      (bus.reply (.writeRead remsFrame p.timeouts.rems) s.transport).toOption.bind
        (Decoding.ofFrame? p.table) ∧
    (run (p.manufacturerId bus) s).state =
      ⟨s.hold, bus.after (.writeRead remsFrame p.timeouts.rems) s.transport⟩ := by
  obtain ⟨hvalue, hstate⟩ := readManufacturerId_run bus p.timeouts.rems s
  rw [← ofFrame?_checkLength, ← hvalue, ← hstate]
  rcases hreply : (run (readManufacturerId bus p.timeouts.rems) s).value with e | frame
  · cases e <;> simp [manufacturerId, askFrame, decodeFrame, say, hreply, Except.toOption, BusError.isTransport]
  · rcases hframe : Decoding.ofFrame? p.table frame with _ | decoding
    · simp [manufacturerId, askFrame, decodeFrame, say, hreply, Except.toOption, hframe]
    · simp [manufacturerId, askFrame, decodeFrame, say, hreply, Except.toOption, hframe]

theorem jedecId_run (p : Prober) (bus : Bus σ) (s : Session σ) :
    (run (p.jedecId bus) s).value =
      (run (readJedecId bus p.timeouts.jedec) s).value.toOption.map (Decoding.ofJedecId p.table) ∧
    (run (p.jedecId bus) s).state = (run (readJedecId bus p.timeouts.jedec) s).state := by
  rcases hid : (run (readJedecId bus p.timeouts.jedec) s).value with e | id
  · by_cases hmisuse : e.isMisuse = true
    · simp [jedecId, askId, decodeId, say, hid, hmisuse, Except.toOption]
    · simp [jedecId, askId, decodeId, say, hid, hmisuse, Except.toOption]
  · simp [jedecId, askId, decodeId, say, hid, Except.toOption]

theorem probe_run (p : Prober) (bus : Bus σ) (s : Session σ) :
    let asked : Session σ := ⟨s.hold, bus.after (.writeRead remsFrame p.timeouts.rems) s.transport⟩
    (run (p.probe bus) s).value =
      .ofDecodings
        ((bus.reply (.writeRead remsFrame p.timeouts.rems) s.transport).toOption.bind
          (Decoding.ofFrame? p.table))
        ((run (readJedecId bus p.timeouts.jedec) asked).value.toOption.map (Decoding.ofJedecId p.table)) ∧
    (run (p.probe bus) s).state = (run (readJedecId bus p.timeouts.jedec) asked).state := by
  intro asked
  obtain ⟨hrems, hasked⟩ := manufacturerId_run p bus s
  obtain ⟨hjedec, hstate⟩ := jedecId_run p bus asked
  rw [← hrems, ← hjedec, ← hstate]
  simp [probe, hasked, asked]

theorem probe_hold (p : Prober) (bus : Bus σ) (s : Session σ) :
    (run (p.probe bus) s).state.hold = s.hold := by
  rw [(p.probe_run bus s).2]
  obtain ⟨hold, t⟩ := s
  cases hold with
  | held => rw [readJedecId_held]
  | released => rw [(readJedecId_released bus p.timeouts.jedec _).2]

end Probe.Prober

namespace Probe

/-- Probes one after the other. -/
def probes (bus : Bus σ) : List Prober → Action (Session σ) (List Report)
  | [] => return []
  | p :: later => return (← p.probe bus) :: (← probes bus later)

end Probe

end FlashIdent
