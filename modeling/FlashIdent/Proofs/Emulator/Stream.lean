import FlashIdent.Proofs.Emulator.Commands
import FlashIdent.Proofs.Emulator.Histories

/-!
# One frame, however it is cut

What a chip answers to a frame can be read off without following the chip: the byte at a place depends on the
place and on the first byte that was sent.  `Flash.stream` is this closed form.

A hold is one such frame.  The calls under it cut the frame into pieces, at any place, and a call that fails
contributes nothing to it.  So each call answers the piece of the stream that it has clocked.  The invariant
that carries this is `Flash.reached`: the frame so far is the one that all bytes sent since the acquire have
opened.  Outside of a hold every transfer is a frame of its own.
-/

namespace FlashIdent.Emulator

/-! ### The closed form -/

namespace Flash

/-- The byte that a chip sends at a place of a frame, by the first byte that was sent in the frame. -/
def sends (f : Flash) (opcode : Option UInt8) (place : Nat) : UInt8 :=
  if f.present = false then 0x00
  else if place = 0 then 0xff
  else if opcode = some 0x90 then
    if place < 4 then 0xff else if place % 2 = 0 then f.manufacturer else f.device
  else if opcode = some 0x9f then
    if place = 1 then f.manufacturer
    else if place = 2 then f.memoryType
    else if place = 3 then f.capacity
    else 0xff
  else 0xff

/-- The answer to a frame, byte by byte. -/
def stream (f : Flash) (sent : Bytes) : Bytes := (List.range sent.length).map (f.sends sent.head?)

/-- Where a frame stands when these bytes have been sent. -/
def reached (f : Flash) (sent : Bytes) : Frame where
  opcode := if f.present then sent.head? else none
  position := sent.length

@[simp] theorem length_stream (f : Flash) (sent : Bytes) : (f.stream sent).length = sent.length := by
  simp [stream]

/-- What was answered does not hang on what is sent later. -/
theorem take_stream (f : Flash) (sent later : Bytes) :
    (f.stream (sent ++ later)).take sent.length = f.stream sent := by
  cases sent with
  | nil => rfl
  | cons opcode rest => simp [stream, ← List.map_take, List.take_range]

/-- A piece of the stream does not hang on what is sent after it. -/
theorem piece_stream (f : Flash) (before sent later : Bytes) :
    ((f.stream (before ++ sent ++ later)).drop before.length).take sent.length =
      (f.stream (before ++ sent)).drop before.length := by
  rw [List.take_drop, ← List.length_append, take_stream]

/-- After the first byte of a frame the chip sends what the closed form says. -/
theorem response_eq_sends (f : Flash) (hpresent : f.present = true) (opcode : Option UInt8) {place : Nat}
    (hplace : place ≠ 0) : f.response opcode place = f.sends opcode place := by
  by_cases hrems : opcode = some 0x90
  · by_cases haddress : place < 4
    · simp [response, sends, hpresent, hplace, hrems, haddress, Nat.not_le.mpr haddress, idle,
        Identification.remsOpcode, Identification.rdidOpcode]
    · have heven : (place - 4) % 2 = place % 2 := by omega
      simp [response, sends, hpresent, hplace, hrems, haddress, Nat.not_lt.mp haddress, heven,
        Identification.remsOpcode]
  · by_cases hrdid : opcode = some 0x9f
    · simp only [response, sends, hpresent, hplace, hrdid, Identification.remsOpcode,
        Identification.rdidOpcode]
      rcases place with _ | _ | _ | _ | later
      · exact absurd rfl hplace
      · rfl
      · rfl
      · rfl
      · simp [idle]
    · simp [response, sends, hpresent, hplace, hrems, hrdid, idle, Identification.remsOpcode,
        Identification.rdidOpcode]

theorem shift_reached (f : Flash) (before : Bytes) (b : UInt8) :
    f.shift (f.reached before) b = (f.sends (before ++ [b]).head? before.length, f.reached (before ++ [b])) := by
  rcases hpresent : f.present with _ | _
  · simp [shift_absent f hpresent, sends, reached, hpresent]
  · cases before with
    | nil => simp [shift_first f hpresent, sends, reached, hpresent, idle]
    | cons opcode rest =>
      have hlater : (f.reached (opcode :: rest)).position ≠ 0 := Nat.succ_ne_zero rest.length
      rw [shift_later f hpresent hlater, f.response_eq_sends hpresent _ hlater]
      simp [reached, hpresent]

/-- A transfer that goes on with a frame is answered by the next piece of the stream. -/
theorem clock_reached (f : Flash) (before sent : Bytes) :
    f.clock (f.reached before) sent =
      ((f.stream (before ++ sent)).drop before.length, f.reached (before ++ sent)) := by
  induction sent generalizing before with
  | nil => simp
  | cons b rest ih =>
    have hcut : before ++ b :: rest = before ++ [b] ++ rest := by simp
    have hplace : before.length < (f.stream (before ++ [b] ++ rest)).length := by simp
    have hbyte : (f.stream (before ++ [b] ++ rest))[before.length] =
        f.sends (before ++ [b]).head? before.length := by
      simp [stream]
    rw [clock_cons, shift_reached, ih, hcut, List.drop_eq_getElem_cons hplace, hbyte]
    simp

end Flash

/-! ### Calls in a frame -/

/-- The bytes that an input sends; a call that fails sends none. -/
def Input.mosi (plan : FaultPlan) : Input → Bytes
  | .call c => if (plan.fault? c.operation).isSome then [] else c.mosi
  | .fail _ _ => []
  | .clearFaults => []

/-- The bytes that inputs send one after the other, each under the plan of its moment. -/
def mosi (plan : FaultPlan) : List Input → Bytes
  | [] => []
  | i :: later => i.mosi plan ++ mosi (plan.feed i) later

theorem mosi_append (plan : FaultPlan) (before later : List Input) :
    mosi plan (before ++ later) = mosi plan before ++ mosi (plan.feedAll before) later := by
  induction before generalizing plan with
  | nil => rfl
  | cons i rest ih => simp [mosi, ih, FaultPlan.feedAll]

/-- Chip select is asserted and these bytes have been sent since. -/
structure InFrame (f : Flash) (sent : Bytes) (e : Emulator) : Prop where
  flash : e.flash = f
  held : e.held = true
  frame : e.frame = f.reached sent

namespace InFrame

variable {f : Flash} {sent : Bytes} {e : Emulator}

theorem answer (h : InFrame f sent e) (bytes : Bytes) :
    e.answer bytes = (f.stream (sent ++ bytes)).drop sent.length := by
  rw [Emulator.answer, current, h.held, if_pos rfl, h.flash, h.frame, Flash.clock_reached]

theorem after_done (h : InFrame f sent e) (call : Call) (htransfer : call.isTransfer)
    (hfault : e.faults.fault? call.operation = none) : InFrame f (sent ++ call.mosi) (bus.after call e) := by
  have hframe : (e.flash.clock e.current call.mosi).2 = f.reached (sent ++ call.mosi) := by
    rw [current, h.held, if_pos rfl, h.flash, h.frame, Flash.clock_reached]
  rw [(done_transfer htransfer hfault).2]
  exact ⟨h.flash, h.held, (if_pos h.held).trans hframe⟩

theorem after_faulted (h : InFrame f sent e) {call : Call} (htransfer : call.isTransfer) {fault : Fault}
    (hfault : e.faults.fault? call.operation = some fault) : InFrame f sent (bus.after call e) := by
  rw [(faulted_transfer htransfer hfault).2]
  exact ⟨h.flash, h.held, h.frame⟩

theorem feed_call (h : InFrame f sent e) {call : Call} (htransfer : call.isTransfer) :
    InFrame f (sent ++ Input.mosi e.faults (.call call)) (bus.after call e) := by
  rcases hfault : e.faults.fault? call.operation with _ | fault
  · simp only [Input.mosi, hfault, Option.isSome_none, Bool.false_eq_true, if_false]
    exact h.after_done call htransfer hfault
  · simp only [Input.mosi, hfault, Option.isSome_some, if_true, List.append_nil]
    exact h.after_faulted htransfer hfault

theorem feed (h : InFrame f sent e) {i : Input} (hkeeps : i.keepsHold) :
    InFrame f (sent ++ i.mosi e.faults) (e.feed i) := by
  cases i with
  | call c => exact h.feed_call hkeeps
  | fail operation fault =>
    rw [Input.mosi, List.append_nil]
    exact ⟨h.flash, h.held, h.frame⟩
  | clearFaults =>
    rw [Input.mosi, List.append_nil]
    exact ⟨h.flash, h.held, h.frame⟩

theorem feedAll {inputs : List Input} (hkeeps : ∀ i ∈ inputs, i.keepsHold) :
    ∀ {sent : Bytes} {e : Emulator}, InFrame f sent e →
      InFrame f (sent ++ mosi e.faults inputs) (e.feedAll inputs) := by
  induction inputs with
  | nil =>
    intro sent e h
    rw [mosi, List.append_nil]
    exact h
  | cons i later ih =>
    intro sent e h
    have hfirst := h.feed (hkeeps i List.mem_cons_self)
    have hlater := ih (fun j hj => hkeeps j (List.mem_cons_of_mem i hj)) hfirst
    rw [feed_faults, List.append_assoc] at hlater
    exact hlater

end InFrame

theorem inFrame_acquire {e : Emulator} (hacquire : bus.reply .acquire e = .ok ()) :
    InFrame e.flash [] (bus.after .acquire e) := by
  rcases hfault : e.faults.fault? .acquire with _ | fault
  · have hreached : ({} : Frame) = e.flash.reached [] := by simp [Flash.reached]
    rw [(acquire_done hfault).2]
    exact ⟨rfl, rfl, hreached⟩
  · rw [(acquire_faulted hfault).1] at hacquire
    cases hacquire

theorem answer_unheld {e : Emulator} (hheld : e.held = false) (bytes : Bytes) :
    e.answer bytes = e.flash.stream bytes := by
  have hreached : ({} : Frame) = e.flash.reached [] := by simp [Flash.reached]
  rw [Emulator.answer, current, hheld, if_neg Bool.false_ne_true, hreached, Flash.clock_reached]
  rfl

/-- A hold is one frame, however it is cut into calls.  Take any calls that transfer bytes, faults being injected
and cleared in between.  If an acquire succeeded before them, each call fails by the fault in force or answers
its piece of the stream to all the bytes that the calls have sent.  Outside of a hold each call fails by the
fault in force or answers the stream to its own bytes. -/
theorem hold_is_one_frame (e : Emulator) (before later : List Input) (call : Call)
    (hkeeps : ∀ i ∈ before ++ .call call :: later, i.keepsHold) :
    let plan := e.faults.feedAll before
    let sent := mosi e.faults (before ++ .call call :: later)
    (bus.reply .acquire e = .ok () →
      bus.reply call ((bus.after .acquire e).feedAll before) =
        plan.reply call
          (((e.flash.stream sent).drop (mosi e.faults before).length).take call.mosi.length)) ∧
    (e.held = false → bus.reply call (e.feedAll before) = plan.reply call (e.flash.stream call.mosi)) := by
  intro plan sent
  have hbefore : ∀ i ∈ before, i.keepsHold := fun i hi => hkeeps i (List.mem_append_left _ hi)
  constructor
  · intro hacquire
    obtain ⟨_, hfaults⟩ := (effect_after .acquire e).constant
    obtain ⟨_, hplan⟩ := feedAll_constant before (bus.after .acquire e)
    have hframe := (inFrame_acquire hacquire).feedAll hbefore
    rw [hfaults] at hplan hframe
    rw [reply_eq, hplan, hframe.answer, List.nil_append]
    -- a fault answers in place of the chip, so only a call that is in the stream counts
    rcases hfault : plan.fault? call.operation with _ | fault
    · have hsent : sent = mosi e.faults before ++ call.mosi ++ mosi plan later := by
        simp [sent, plan, mosi_append, mosi, Input.mosi, FaultPlan.feed, hfault]
      rw [hsent, Flash.piece_stream]
    · simp only [FaultPlan.reply, plan, hfault]
  · intro hheld
    obtain ⟨hflash, hplan⟩ := feedAll_constant before e
    have hunheld : (e.feedAll before).held = false := (feedAll_held hbefore e).trans hheld
    rw [reply_eq, hplan, answer_unheld hunheld, hflash]

/-- A manufacturer and device frame in four pieces, one of which fails at first.  Without the hold its last piece
is a frame that begins with no command. -/
theorem hold_is_one_frame_of_pieces :
    let e : Emulator := .start {} {}
    let before : List Input :=
      [.call (.write [0x90, 0] none), .fail .read .timeout, .call (.read 2 none), .clearFaults,
        .call (.writeRead [0] none)]
    let call : Call := .read 4 none
    let later : List Input := [.call (.write [0x9f] none)]
    (∀ i ∈ before ++ .call call :: later, i.keepsHold) ∧
    bus.reply .acquire e = .ok () ∧
    bus.reply call ((bus.after .acquire e).feedAll before) = .ok [0xff, 0xef, 0x15, 0xef] ∧
    e.held = false ∧ bus.reply call (e.feedAll before) = .ok [0xff, 0xff, 0xff, 0xff] := by
  intro e before call later
  have hkeeps : ∀ i ∈ before ++ .call call :: later, i.keepsHold := by
    simp [before, call, later, Input.keepsHold, Call.isTransfer]
  have hacquire : bus.reply .acquire e = .ok () := rfl
  obtain ⟨hheld, hunheld⟩ := hold_is_one_frame e before later call hkeeps
  have hpiece : bus.reply call ((bus.after .acquire e).feedAll before) = .ok [0xff, 0xef, 0x15, 0xef] := by
    rw [hheld hacquire]
    decide
  exact ⟨hkeeps, hacquire, hpiece, rfl, (hunheld rfl).trans rfl⟩

end FlashIdent.Emulator
