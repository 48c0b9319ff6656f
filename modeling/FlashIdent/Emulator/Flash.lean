import FlashIdent.Identification

/-!
# An emulated flash chip

A chip sees one byte per eight clocks and sends one back.  What it sends depends on the place of the byte in
the current frame and on the first byte of the frame, the opcode.  A frame is what happens while chip select is
asserted without a break; where it begins and ends is not the chip's business.
-/

namespace FlashIdent.Emulator

/-- The chip that is emulated. -/
structure Flash where
  manufacturer : UInt8 := 0xef
  memoryType : UInt8 := 0x40
  capacity : UInt8 := 0x16
  /-- The device byte of the manufacturer and device command. -/
  device : UInt8 := 0x15
  /-- Without a chip every byte reads back as zero. -/
  present : Bool := true
deriving DecidableEq

/-- How far a frame has come. -/
structure Frame where
  opcode : Option UInt8 := none
  position : Nat := 0
deriving DecidableEq

/-- What the line carries while the chip does not drive it. -/
def idle : UInt8 := 0xff

namespace Flash

/-- The byte that a chip sends at a later position of a frame with this opcode. -/
def response (f : Flash) (opcode : Option UInt8) (position : Nat) : UInt8 :=
  if opcode = some Identification.remsOpcode ∧ 4 ≤ position then
    if (position - 4) % 2 = 0 then f.manufacturer else f.device
  else if opcode = some Identification.rdidOpcode then
    match position with
    | 1 => f.manufacturer
    | 2 => f.memoryType
    | 3 => f.capacity
    | _ => idle
  else idle

def shift (f : Flash) (frame : Frame) (sent : UInt8) : UInt8 × Frame :=
  if f.present = false then (0x00, { frame with position := frame.position + 1 })
  else if frame.position = 0 then (idle, ⟨some sent, 1⟩)
  else (f.response frame.opcode frame.position, { frame with position := frame.position + 1 })

def clock (f : Flash) : Frame → Bytes → Bytes × Frame
  | frame, [] => ([], frame)
  | frame, sent :: rest =>
    let shifted := f.shift frame sent
    let later := f.clock shifted.2 rest
    (shifted.1 :: later.1, later.2)

@[simp] theorem clock_nil (f : Flash) (frame : Frame) : f.clock frame [] = ([], frame) := rfl

theorem clock_cons (f : Flash) (frame : Frame) (sent : UInt8) (rest : Bytes) :
    f.clock frame (sent :: rest) =
      ((f.shift frame sent).1 :: (f.clock (f.shift frame sent).2 rest).1,
        (f.clock (f.shift frame sent).2 rest).2) := rfl

@[simp] theorem length_clock (f : Flash) (frame : Frame) (sent : Bytes) :
    (f.clock frame sent).1.length = sent.length := by
  induction sent generalizing frame with
  | nil => rfl
  | cons b rest ih => simp [clock_cons, ih]

end Flash

end FlashIdent.Emulator
