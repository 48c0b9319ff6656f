import FlashIdent.Bus.Recorded
import FlashIdent.Proofs.Emulator.Stream
import FlashIdent.Proofs.Probe.Handshakes

/-!
# Full-duplex transfers and the open frame

A full-duplex transfer needs no hold: outside of one it is a frame of its own.  Under a hold it goes on with the
frame that is open, as every transfer does, so what it brings back hangs on what was sent in the frame before.

The record of the calls tells which bytes these are: `openFrame`.  With it the answer to a full-duplex transfer has
a closed form in every state that session steps lead to, and `Flash.deviceBytes` says what becomes of the
manufacturer and device bytes that a probe reads.
-/

namespace FlashIdent.Emulator

open FlashIdent.Action (run)
open Identification

/-! ### The open frame of a record -/

/-- The bytes of the open frame after one more exchange, if a frame is open. -/
def frameAfter (frame : Option Bytes) (e : Exchange) : Option Bytes :=
  match e.call with
  | .acquire => if e.succeeded then some [] else frame
  | .release => none
  | call => if e.succeeded then frame.map (fun sent => sent ++ call.mosi) else frame

/-- The bytes that were sent since chip select was asserted; `none` while it is not. -/
def openFrame (trace : List Exchange) : Option Bytes := trace.foldl frameAfter none

theorem openFrame_concat (trace : List Exchange) (e : Exchange) :
    openFrame (trace ++ [e]) = frameAfter (openFrame trace) e := by
  rw [openFrame, List.foldl_append]
  rfl

theorem frameAfter_transfer {call : Call} (htransfer : call.isTransfer) (frame : Option Bytes)
    (reply : Reply call) :
    frameAfter frame ⟨call, reply⟩ =
      if Exchange.succeeded ⟨call, reply⟩ then frame.map (fun sent => sent ++ call.mosi) else frame := by
  cases call with
  | acquire => cases htransfer
  | release => cases htransfer
  | write data timeout => rfl
  | read length timeout => rfl
  | writeRead data timeout => rfl

theorem succeeded_reply (call : Call) (e : Emulator) :
    Exchange.succeeded ⟨call, bus.reply call e⟩ = (e.faults.fault? call.operation).isNone := by
  rw [reply_eq]
  rcases hfault : e.faults.fault? call.operation with _ | fault
  · simp [Exchange.succeeded, FaultPlan.reply, hfault]
  · simp [Exchange.succeeded, FaultPlan.reply, hfault]

/-- The session is held while the record has an open frame, and the emulator is within that frame. -/
def WithinFrame (f : Flash) : Hold → Recorded Emulator → Prop
  | .released, r => openFrame r.exchanges = none ∧ r.bus.flash = f ∧ r.bus.held = false
  | .held, r => ∃ sent, openFrame r.exchanges = some sent ∧ InFrame f sent r.bus

theorem openFrame_after (call : Call) (r : Recorded Emulator) :
    openFrame (bus.recorded.after call r).exchanges =
      frameAfter (openFrame r.exchanges) ⟨call, bus.reply call r.bus⟩ :=
  openFrame_concat r.exchanges _

theorem withinFrame_invariant (f : Flash) : Invariant bus.recorded (WithinFrame f) where
  acquire := by
    rintro r ⟨hnone, rfl, hunheld⟩
    have hframe := openFrame_after .acquire r
    rcases hfault : r.bus.faults.fault? .acquire with _ | fault
    · obtain ⟨hreply, _⟩ := acquire_done hfault
      have hheld : WithinFrame r.bus.flash .held (bus.recorded.after .acquire r) := by
        rw [hreply] at hframe
        exact ⟨[], hframe, inFrame_acquire hreply⟩
      rwa [show bus.recorded.reply .acquire r = .ok () from hreply]
    · obtain ⟨hreply, hafter⟩ := acquire_faulted hfault
      have hreleased : WithinFrame r.bus.flash .released (bus.recorded.after .acquire r) := by
        rw [hreply, hnone] at hframe
        refine ⟨hframe, ?_⟩
        rw [show (bus.recorded.after .acquire r).bus = bus.after .acquire r.bus from rfl, hafter]
        exact ⟨rfl, hunheld⟩
      rwa [show bus.recorded.reply .acquire r = .error fault.error from hreply]
  release := by
    rintro r ⟨sent, _, hin⟩
    refine ⟨openFrame_after .release r, ?_⟩
    rw [show (bus.recorded.after .release r).bus = bus.after .release r.bus from rfl, (release_run r.bus).2]
    exact ⟨hin.flash, rfl⟩
  transfer := by
    intro hold r call hwithin hsize
    have htransfer : call.isTransfer := by
      apply Call.isTransfer_of_ne
      · rintro rfl
        exact hsize rfl
      · rintro rfl
        exact hsize rfl
    have hframe := openFrame_after call r
    rw [frameAfter_transfer htransfer, succeeded_reply] at hframe
    cases hold with
    | released =>
      obtain ⟨hnone, hflash, hunheld⟩ := hwithin
      have heffect := effect_after call r.bus
      refine ⟨?_, heffect.constant.1.trans hflash, (heffect.held_of_transfer htransfer).trans hunheld⟩
      rw [hframe, hnone]
      simp
    | held =>
      obtain ⟨sent, hopen, hin⟩ := hwithin
      rcases hfault : r.bus.faults.fault? call.operation with _ | fault
      · rw [hfault, hopen] at hframe
        exact ⟨sent ++ call.mosi, hframe, hin.after_done call htransfer hfault⟩
      · rw [hfault, hopen] at hframe
        exact ⟨sent, hframe, hin.after_faulted htransfer hfault⟩

theorem isSome_openFrame {f : Flash} {s : Session (Recorded Emulator)}
    (h : WithinFrame f s.hold s.transport) : (openFrame s.transport.exchanges).isSome = s.isHeld := by
  obtain ⟨hold, r⟩ := s
  cases hold with
  | released =>
    obtain ⟨hnone, _⟩ := h
    rw [hnone]
    rfl
  | held =>
    obtain ⟨sent, hopen, _⟩ := h
    rw [hopen]
    rfl

/-- The chip answers with the piece of the open frame's stream that comes next. -/
theorem answer_openFrame {f : Flash} {hold : Hold} {r : Recorded Emulator} (h : WithinFrame f hold r)
    (data : Bytes) :
    let sent := (openFrame r.exchanges).getD []
    r.bus.answer data = (f.stream (sent ++ data)).drop sent.length := by
  cases hold with
  | released =>
    obtain ⟨hnone, rfl, hunheld⟩ := h
    rw [hnone]
    exact answer_unheld hunheld data
  | held =>
    obtain ⟨sent, hopen, hin⟩ := h
    rw [hopen]
    exact hin.answer data

/-! ### The bytes that a probe reads -/

namespace Flash

/-- What comes back in the places of the manufacturer and device bytes when the bytes were sent before in the same
frame.  A frame that began with the same command counts on, so an even number of bytes is not noticed and an odd
number exchanges the two. -/
def deviceBytes (f : Flash) (sent : Bytes) : UInt8 × UInt8 :=
  if f.present = false then (0x00, 0x00)
  else if sent = [] then (f.manufacturer, f.device)
  else if sent.head? = some 0x90 then
    if sent.length % 2 = 0 then (f.manufacturer, f.device) else (f.device, f.manufacturer)
  else (0xff, 0xff)

theorem drop_stream (f : Flash) (sent data : Bytes) :
    (f.stream (sent ++ data)).drop sent.length =
      (List.range data.length).map fun i => f.sends (sent ++ data).head? (sent.length + i) := by
  simp [stream, List.range_add]

theorem sends_deviceBytes (f : Flash) (sent : Bytes) :
    f.sends (sent ++ remsFrame).head? (sent.length + 4) = (f.deviceBytes sent).1 ∧
    f.sends (sent ++ remsFrame).head? (sent.length + 5) = (f.deviceBytes sent).2 := by
  rcases hpresent : f.present with _ | _
  · simp [sends, deviceBytes, hpresent]
  cases sent with
  | nil => simp [sends, deviceBytes, remsFrame, remsOpcode, hpresent]
  | cons opcode rest =>
    have hlate : ¬ rest.length + 1 + 4 < 4 ∧ ¬ rest.length + 1 + 5 < 4 := by omega
    by_cases hrems : opcode = 0x90
    · by_cases heven : (rest.length + 1) % 2 = 0
      · have hplaces : (rest.length + 1 + 4) % 2 = 0 ∧ (rest.length + 1 + 5) % 2 = 1 := by omega
        simp [sends, deviceBytes, hpresent, hrems, hlate, heven, hplaces]
      · have hplaces : (rest.length + 1 + 4) % 2 = 1 ∧ (rest.length + 1 + 5) % 2 = 0 := by omega
        simp [sends, deviceBytes, hpresent, hrems, hlate, heven, hplaces]
    · simp [sends, deviceBytes, hpresent, hrems]

/-- The frame of the manufacturer and device command, sent in an open frame, brings these bytes at its end. -/
theorem ofFrame?_drop_stream (f : Flash) (sent : Bytes) (table : Chip.Table) :
    Decoding.ofFrame? table ((f.stream (sent ++ remsFrame)).drop sent.length) =
      some (Decoding.ofDevice table (f.deviceBytes sent).1 (f.deviceBytes sent).2) := by
  obtain ⟨hmanufacturer, hdevice⟩ := f.sends_deviceBytes sent
  rw [drop_stream, ← hmanufacturer, ← hdevice]
  rfl

/-- An empty socket answers the same wherever a frame stands. -/
theorem drop_stream_absent {f : Flash} (habsent : f.present = false) (sent data : Bytes) :
    (f.stream (sent ++ data)).drop sent.length = f.stream data := by
  rw [drop_stream, stream]
  apply List.map_congr_left
  intro i _
  simp [sends, habsent]

end Flash

/-! ### Full-duplex transfers in every state -/

theorem writeRead_value {f : Flash} {s : Session (Recorded Emulator)} (h : WithinFrame f s.hold s.transport)
    (hfaultless : s.transport.bus.faults = {}) {data : Bytes} (hdata : data ≠ []) (timeout : Timeout) :
    let sent := (openFrame s.transport.exchanges).getD []
    (run (Session.writeRead bus.recorded data timeout) s).value =
      .ok ((f.stream (sent ++ data)).drop sent.length) := by
  intro sent
  have hanswer : s.transport.bus.answer data = (f.stream (sent ++ data)).drop sent.length :=
    answer_openFrame h data
  have hreply : bus.recorded.reply (.writeRead data timeout) s.transport =
      .ok ((f.stream (sent ++ data)).drop sent.length) := by
    rw [← hanswer]
    exact (writeRead_done (by rw [hfaultless]; rfl) data timeout).1
  have hlength : ((f.stream (sent ++ data)).drop sent.length).length = data.length := by simp
  rw [(Session.writeRead_of_ne_nil bus.recorded hdata timeout s).1, hreply]
  simp [Except.bind, Session.checkLength, hlength]

theorem probe_manufacturerId {f : Flash} {s : Session (Recorded Emulator)}
    (h : WithinFrame f s.hold s.transport) (hfaultless : s.transport.bus.faults = {}) (p : Probe.Prober) :
    let sent := (openFrame s.transport.exchanges).getD []
    (run (p.probe bus.recorded) s).value.manufacturerId =
      some (Decoding.ofDevice p.table (f.deviceBytes sent).1 (f.deviceBytes sent).2).identity := by
  intro sent
  have hanswer : s.transport.bus.answer remsFrame = (f.stream (sent ++ remsFrame)).drop sent.length :=
    answer_openFrame h remsFrame
  have hreply : bus.recorded.reply (.writeRead remsFrame p.timeouts.rems) s.transport =
      .ok ((f.stream (sent ++ remsFrame)).drop sent.length) := by
    rw [← hanswer]
    exact (writeRead_done (by rw [hfaultless]; rfl) remsFrame p.timeouts.rems).1
  have hreport := congrArg Probe.Report.manufacturerId (p.probe_run bus.recorded s).1
  rw [hreply] at hreport
  refine hreport.trans ?_
  rw [Except.toOption, Option.bind_some, f.ofFrame?_drop_stream sent p.table]
  rfl

theorem faults_of_steps (f : Flash) (ss : List Session.Step) :
    let opened : Session (Recorded Emulator) := .start (.start (.start f {}))
    (run (Session.steps bus.recorded ss) opened).state.transport.bus.faults = {} := by
  intro opened
  have hinvariant : Invariant bus.recorded
      (fun _ r => r.bus.flash = f ∧ r.bus.faults = {}) := (preserves_constant f {}).recorded.invariant
  have hopened : opened.transport.bus.flash = f ∧ opened.transport.bus.faults = {} := ⟨rfl, rfl⟩
  exact (hinvariant.steps ss opened hopened).2

/-- A full-duplex transfer goes on with the open frame.  Take any chip without faults and any run of session steps.
A frame is open exactly while the session is held.  A full-duplex transfer brings back the piece of the frame's
stream that comes after the bytes sent in it so far; if there are none, or no chip is there, this is the answer on
a bus that was just opened.  A probe reports the manufacturer and device bytes as they come back in the open
frame. -/
theorem writeRead_continues_open_frame (f : Flash) (ss : List Session.Step) :
    let opened : Session (Recorded Emulator) := .start (.start (.start f {}))
    let s := (run (Session.steps bus.recorded ss) opened).state
    let sent := (openFrame s.transport.exchanges).getD []
    (openFrame s.transport.exchanges).isSome = s.isHeld ∧
    (∀ data timeout, data ≠ [] →
      let answer := (run (Session.writeRead bus.recorded data timeout) s).value
      answer = .ok ((f.stream (sent ++ data)).drop sent.length) ∧
      (sent = [] ∨ f.present = false →
        answer = (run (Session.writeRead bus.recorded data timeout) opened).value)) ∧
    ∀ p : Probe.Prober, (run (p.probe bus.recorded) s).value.manufacturerId =
      some (Decoding.ofDevice p.table (f.deviceBytes sent).1 (f.deviceBytes sent).2).identity := by
  intro opened s sent
  have hopened : WithinFrame f opened.hold opened.transport := ⟨rfl, rfl, rfl⟩
  have hwithin : WithinFrame f s.hold s.transport := (withinFrame_invariant f).steps ss opened hopened
  have hfaultless : s.transport.bus.faults = {} := faults_of_steps f ss
  refine ⟨isSome_openFrame hwithin, ?_, probe_manufacturerId hwithin hfaultless⟩
  intro data timeout hdata answer
  have hanswer : answer = .ok ((f.stream (sent ++ data)).drop sent.length) :=
    writeRead_value hwithin hfaultless hdata timeout
  refine ⟨hanswer, ?_⟩
  intro hcase
  have hfresh : (run (Session.writeRead bus.recorded data timeout) opened).value = .ok (f.stream data) :=
    writeRead_value hopened rfl hdata timeout
  rw [hanswer, hfresh]
  rcases hcase with hnothing | habsent
  · rw [hnothing]
    rfl
  · rw [Flash.drop_stream_absent habsent]

/-- Under a hold in which one byte was sent, a full-duplex transfer does not bring what it brings on a bus that was
just opened, and a probe does not find the chip's own bytes. -/
theorem hold_disturbs_writeRead :
    let f : Flash := {}
    let opened : Session (Recorded Emulator) := .start (.start (.start f {}))
    let s := (run (Session.steps bus.recorded [.acquire, .write [0x9f] none]) opened).state
    (run (Session.writeRead bus.recorded remsFrame (some 100)) s).value ≠
      (run (Session.writeRead bus.recorded remsFrame (some 100)) opened).value ∧
    (run (Probe.Prober.probe {} bus.recorded) s).value.manufacturerId ≠
      some (Decoding.ofDevice Chip.Table.builtin f.manufacturer f.device).identity := by
  intro f opened s
  have hheld : (run (Session.writeRead bus.recorded remsFrame (some 100)) s).value =
      .ok [0xef, 0x40, 0x16, 0xff, 0xff, 0xff] := by decide +kernel
  have hopened : (run (Session.writeRead bus.recorded remsFrame (some 100)) opened).value =
      .ok [0xff, 0xff, 0xff, 0xff, 0xef, 0x15] := by decide +kernel
  have hreport : (run (Probe.Prober.probe {} bus.recorded) s).value.manufacturerId =
      some (.unrecognized 0xff) := by decide +kernel
  have hown : (Decoding.ofDevice Chip.Table.builtin f.manufacturer f.device).identity =
      .known "Winbond" "W25Q32" := rfl
  rw [hheld, hopened, hreport, hown]
  constructor
  · decide
  · decide

end FlashIdent.Emulator
