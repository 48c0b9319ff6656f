import FlashIdent.Proofs.Emulator.Calls
import FlashIdent.Proofs.Emulator.Commands
import FlashIdent.Proofs.Session.Run
import FlashIdent.Proofs.Spidev.Calls
import FlashIdent.Proofs.Spidev.Opening

/-!
# A kernel SPI device and the emulator on the same chip

The two transports encode a hold differently.  The emulator begins a frame at every acquire and ends it at
every release, and clocks out idle bytes to read.  A kernel SPI device only says with each message whether
chip select is to stay asserted, ends a hold by an empty message, and clocks out zeros to read.

`Wired` is a kernel whose messages all succeed and reach the emulated chip.  `SameChip` relates its port to an
emulator: both are held or not as the session is, chip select is asserted at most while the session holds the
bus, and the next byte finds frames on both sides that the chip cannot tell apart.  The calls of a session
keep this, so the sessions run in lockstep, as long as the transfers fit into the kernel's buffer.
-/

namespace FlashIdent.Spidev

open FlashIdent.Action (run)
open Emulator (Flash Frame SameCommand idle)

/-! ### A kernel with a chip on its line -/

/-- A chip, whether chip select is still asserted after the last message, and the frame of that message. -/
structure Wired where
  flash : Flash
  asserted : Bool := false
  frame : Frame := {}
  bufferParameter : Option String := none
  pageSize : Nat := 4096

/-- What a transfer clocks out. -/
def Transfer.sent (t : Transfer) : Bytes := t.tx.getD (List.replicate t.length.toNat 0)

namespace Wired

def current (w : Wired) : Frame := if w.asserted then w.frame else {}

def answer (w : Wired) (sent : Bytes) : Bytes := (w.flash.clock w.current sent).1

/-- The line after a message that asks for chip select to stay asserted, or not. -/
def moved (w : Wired) (sent : Bytes) (keep : Bool) : Wired :=
  { w with asserted := keep, frame := (w.flash.clock w.current sent).2 }

/-- Every request succeeds; a message moves its bytes through the chip. -/
def kernel : Kernel Wired where
  bufferParameter w := w.bufferParameter
  pageSize w := w.pageSize
  openFile _ w := (.ok (), w)
  set _ w := (.ok (), w)
  transfer t w :=
    (.ok (if t.rx then w.answer t.sent else []), w.moved t.sent (decide (t.csChange = 1)))

end Wired

/-! ### Messages on a wired kernel -/

def Request.sent (r : Request) : Bytes := r.tx.getD (List.replicate r.length 0)

theorem sent_transfer {r : Request} (hlength : r.length < 4294967296) (d : Device) :
    (r.transfer d).sent = r.sent := by
  have hword := toNat_length_transfer hlength d
  simp only [Transfer.sent, Request.sent, hword]
  rfl

theorem wired_send (r : Request) {p : Port Wired} (hlength : r.length < 4294967296)
    (hfits : r.length ≤ p.device.bufferSize) :
    (run (r.send Wired.kernel) p).value =
      .ok (receiveBuffer r.length (if r.rx then p.kernel.answer r.sent else [])) ∧
    (run (r.send Wired.kernel) p).state = ⟨p.device, p.kernel.moved r.sent p.device.held⟩ := by
  have hkeep : decide ((r.transfer p.device).csChange = 1) = p.device.held := by
    rw [Bool.eq_iff_iff, decide_eq_true_iff, csChange_eq_one_iff]
  rw [send_value, send_state, if_neg (Nat.not_lt.mpr hfits), if_neg (Nat.not_lt.mpr hfits)]
  constructor
  · simp only [Wired.kernel, sent_transfer hlength, Except.mapError, Except.map]
    rfl
  · simp only [Wired.kernel, sent_transfer hlength, hkeep]

theorem receiveBuffer_of_length {length : Nat} {stored : Bytes} (hlength : stored.length = length) :
    receiveBuffer length stored = stored := by
  subst hlength
  simp [receiveBuffer]

/-! ### The same chip on both sides -/

/-- The bytes clocked out by the one side and by the other begin the same commands. -/
theorem sameCommand_self (sent : Bytes) : List.Forall₂ SameCommand sent sent :=
  List.forall₂_same.mpr fun _ _ => Or.inl rfl

/-- Zeros and idle bytes are no commands, so a read may clock out either. -/
theorem sameCommand_filler (length : Nat) :
    List.Forall₂ SameCommand (List.replicate length 0) (List.replicate length idle) := by
  induction length with
  | zero => exact List.Forall₂.nil
  | succ n ih => exact List.Forall₂.cons (Or.inr ⟨by decide, by decide⟩) ih

/-- A port on a wired kernel and an emulator that a session cannot tell apart by transfers up to a limit. -/
structure SameChip (limit : Nat) (hold : Hold) (p : Port Wired) (e : Emulator) : Prop where
  room : limit ≤ p.device.bufferSize
  flash : p.kernel.flash = e.flash
  faultless : e.faults = {}
  portHeld : p.device.held = decide (hold = .held)
  emulatorHeld : e.held = decide (hold = .held)
  released : hold = .released → p.kernel.asserted = false
  frame : p.kernel.current.Alike e.current

namespace SameChip

variable {limit : Nat} {hold : Hold} {p : Port Wired} {e : Emulator}

theorem fault_eq_none (h : SameChip limit hold p e) (operation : Operation) :
    e.faults.fault? operation = none := by
  rw [h.faultless]
  rfl

/-- Bytes that begin the same commands are answered the same on both sides, and the sides stay the same. -/
theorem move (h : SameChip limit hold p e) {sent sent' : Bytes} (hsent : List.Forall₂ SameCommand sent sent')
    (operation : Operation) (timeout : Timeout) :
    p.kernel.answer sent = e.answer sent' ∧
    SameChip limit hold ⟨p.device, p.kernel.moved sent p.device.held⟩
      ((e.counted operation timeout).moved sent') := by
  obtain ⟨hanswer, hframe⟩ := e.flash.clock_alike h.frame hsent
  refine ⟨?_, h.room, h.flash, h.faultless, h.portHeld, h.emulatorHeld, ?_, ?_⟩
  · rw [Wired.answer, Emulator.answer, h.flash, hanswer]
  · rintro rfl
    exact h.portHeld
  · cases hold with
    | held =>
      have hport : p.device.held = true := h.portHeld
      have hemulator : e.held = true := h.emulatorHeld
      rw [← h.flash] at hframe
      simpa [Wired.moved, Wired.current, Emulator.moved, Emulator.counted, Emulator.current, hport,
        hemulator, h.flash] using hframe
    | released =>
      have hport : p.device.held = false := h.portHeld
      have hemulator : e.held = false := h.emulatorHeld
      simpa [Wired.moved, Wired.current, Emulator.moved, Emulator.counted, Emulator.current, hport,
        hemulator] using Frame.Alike.refl {}

theorem send (h : SameChip limit hold p e) (hlimit : limit < 4294967296) (r : Request)
    (hlength : r.length ≤ limit) (hfull : r.sent.length = r.length) {sent' : Bytes}
    (hsent : List.Forall₂ SameCommand r.sent sent') (operation : Operation) (timeout : Timeout) :
    (run (r.send Wired.kernel) p).value =
      .ok (if r.rx then e.answer sent' else List.replicate r.length 0) ∧
    SameChip limit hold (run (r.send Wired.kernel) p).state
      ((e.counted operation timeout).moved sent') := by
  obtain ⟨hvalue, hstate⟩ := wired_send r (Nat.lt_of_le_of_lt hlength hlimit) (Nat.le_trans hlength h.room)
  obtain ⟨hanswer, hsame⟩ := h.move hsent operation timeout
  have hfilled : receiveBuffer r.length (p.kernel.answer r.sent) = p.kernel.answer r.sent := by
    apply receiveBuffer_of_length
    rw [Wired.answer, Flash.length_clock, hfull]
  rw [hvalue, hstate, ← hanswer]
  refine ⟨?_, hsame⟩
  cases r.rx with
  | true => exact congrArg Except.ok hfilled
  | false => simp [receiveBuffer]

end SameChip

/-! ### Sessions on both sides -/

/-- As long as transfers fit into the kernel's buffer and their lengths into the field for them, the two transports
answer the calls of a session alike. -/
theorem wired_coupling {limit : Nat} (hlimit : limit < 4294967296) :
    Coupling (bus Wired.kernel) Emulator.bus (fun call => call.size ≤ limit) (SameChip limit) where
  acquire := by
    intro p e h
    obtain ⟨hreply, hafter⟩ := Emulator.acquire_done (h.fault_eq_none .acquire)
    rw [hreply, hafter, reply_acquire, after_of_request_eq_none _ _ rfl]
    have hcurrent : p.kernel.current = {} := by
      rw [Wired.current, h.released rfl]
      rfl
    refine ⟨rfl, h.room, h.flash, h.faultless, rfl, rfl, (fun hhold => nomatch hhold), ?_⟩
    rw [show (p.flagged .acquire).kernel.current = {} from hcurrent]
    exact Frame.Alike.refl {}
  release := by
    intro p e h
    obtain ⟨hreply, hafter⟩ := Emulator.release_run e
    obtain ⟨hvalue, hstate⟩ := wired_send (p := p.flagged .release) ⟨none, false, 0⟩ (by decide) (Nat.zero_le _)
    rw [hreply, hafter, h.fault_eq_none .release, reply_release, after_of_request_eq_some _ _ rfl, hvalue,
      hstate]
    exact ⟨rfl, h.room, h.flash, h.faultless, rfl, rfl, fun _ => rfl, Frame.Alike.refl {}⟩
  transfer := by
    intro hold p e call h hsize hfits
    cases call with
    | acquire => exact absurd rfl hsize
    | release => exact absurd rfl hsize
    | write data timeout =>
      obtain ⟨hreply, hafter⟩ := Emulator.write_done (h.fault_eq_none .write) data timeout
      obtain ⟨hvalue, hsame⟩ := h.send hlimit ⟨some data, false, data.length⟩ hfits rfl (sameCommand_self data)
        .write timeout
      rw [hreply, hafter, reply_write, after_of_request_eq_some _ _ rfl, hvalue]
      exact ⟨rfl, hsame⟩
    | read length timeout =>
      obtain ⟨hreply, hafter⟩ := Emulator.read_done (h.fault_eq_none .read) length timeout
      obtain ⟨hvalue, hsame⟩ := h.send hlimit ⟨none, true, length⟩ hfits List.length_replicate
        (sameCommand_filler length) .read timeout
      rw [hreply, hafter, reply_read, after_of_request_eq_some _ _ rfl, hvalue]
      exact ⟨rfl, hsame⟩
    | writeRead data timeout =>
      obtain ⟨hreply, hafter⟩ := Emulator.writeRead_done (h.fault_eq_none .writeRead) data timeout
      obtain ⟨hvalue, hsame⟩ := h.send hlimit ⟨some data, true, data.length⟩ hfits rfl (sameCommand_self data)
        .writeRead timeout
      rw [hreply, hafter, reply_writeRead, after_of_request_eq_some _ _ rfl, hvalue]
      exact ⟨rfl, hsame⟩

/-- The transports have the same contract.  A device that was opened on a wired kernel with room for 4096 bytes and
an emulator without faults, on the same chip, answer every run of session steps alike whose transfers are no larger,
and the session holds the bus at the same moments. -/
theorem wired_device_answers_like_emulator {w : Wired} (hreleased : w.asserted = false) {config : Config}
    {device : Device} (hopen : (run (openDevice Wired.kernel config) w).value = .ok device)
    (hroom : 4096 ≤ device.bufferSize) (ss : List Session.Step)
    (hfits : ∀ step ∈ ss, ∀ call ∈ step.transfers, call.size ≤ 4096) :
    let opened := (run (openDevice Wired.kernel config) w).state
    let wired := run (Session.steps (bus Wired.kernel) ss) (.start ⟨device, opened⟩)
    let emulated := run (Session.steps Emulator.bus ss) (.start (.start w.flash {}))
    wired.value = emulated.value ∧ wired.state.hold = emulated.state.hold := by
  intro opened wired emulated
  have hopening : Action.Triple (fun w' => w' = w) (openDevice Wired.kernel config) _ :=
    openDevice_keeps (fun _ _ h => h) (fun _ _ h => h) config
  obtain ⟨hopened, hdevice⟩ := hopening w rfl
  have hsame : SameChip 4096 .released ⟨device, opened⟩ (.start w.flash {}) := by
    have hunheld : device.held = false := openDevice_unheld Wired.kernel w hopen
    have hcurrent : w.current = {} := by
      rw [Wired.current, hreleased]
      rfl
    rw [show opened = w from hopened]
    refine ⟨hroom, rfl, rfl, hunheld, rfl, fun _ => hreleased, ?_⟩
    rw [hcurrent]
    exact Frame.Alike.refl {}
  obtain ⟨hvalue, hhold, _⟩ := Session.lockstep_steps (wired_coupling (by decide)) ss hfits hsame
  exact ⟨hvalue, hhold⟩

/-- A scoped hold, a probe under a hold that the session still has, a session given up with it, and another probe,
on a device whose kernel states the size of its buffer. -/
theorem wired_device_answers_like_emulator_across_sessions :
    let w : Wired := { flash := {}, bufferParameter := some "4096\n" }
    let ss : List Session.Step :=
      [.hold [.write [Identification.rdidOpcode] none, .read 3 none, .release] true, .acquire, .probe {},
        .renew, .writeRead Identification.remsFrame (some 10), .probe {}]
    let config : Config := { device := "/dev/spidev0.0" }
    let device : Device := { speedHz := 2000000, bufferSize := 4096 }
    let opened := (run (openDevice Wired.kernel config) w).state
    let wired := run (Session.steps (bus Wired.kernel) ss) (.start ⟨device, opened⟩)
    let emulated := run (Session.steps Emulator.bus ss) (.start (.start w.flash {}))
    w.asserted = false ∧ (run (openDevice Wired.kernel config) w).value = .ok device ∧
    4096 ≤ device.bufferSize ∧ (∀ step ∈ ss, ∀ call ∈ step.transfers, call.size ≤ 4096) ∧
    wired.value = emulated.value ∧ wired.state.hold = emulated.state.hold := by
  intro w ss config device
  have hreleased : w.asserted = false := rfl
  have hopen : (run (openDevice Wired.kernel config) w).value = .ok device := by decide +kernel
  have hroom : 4096 ≤ device.bufferSize := Nat.le_refl 4096
  have hfits : ∀ step ∈ ss, ∀ call ∈ step.transfers, call.size ≤ 4096 := by decide
  exact ⟨hreleased, hopen, hroom, hfits, wired_device_answers_like_emulator hreleased hopen hroom ss hfits⟩

end FlashIdent.Spidev
