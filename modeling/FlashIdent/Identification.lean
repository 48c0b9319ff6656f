import FlashIdent.Bytes

/-!
# The identification commands of serial flash chips

Two commands tell what a chip is.  REMS sends its opcode and a 24-bit address of zero and receives a
manufacturer and a device byte in the same full-duplex frame.  RDID sends its opcode alone and is followed by
three bytes: manufacturer, memory type and capacity.
-/

namespace FlashIdent

namespace Identification

/-- Opcode of the manufacturer and device command. -/
def remsOpcode : UInt8 := 0x90

def rdidOpcode : UInt8 := 0x9f

/-- Bytes in a manufacturer and device frame: the opcode, three of address, two of answer. -/
def remsFrameLength : Nat := 6

/-- Bytes that follow the JEDEC ID opcode. -/
def jedecIdLength : Nat := 3

/-- What is sent to read the manufacturer and device bytes. -/
def remsFrame : Bytes := [remsOpcode, 0, 0, 0, 0, 0]

@[simp] theorem length_remsFrame : remsFrame.length = remsFrameLength := rfl

end Identification

/-- The answer to the JEDEC ID command. -/
structure JedecId where
  manufacturer : UInt8
  memoryType : UInt8
  capacity : UInt8
deriving DecidableEq

namespace JedecId

/-- The memory type and the capacity as one word. -/
def capacityCode (memoryType capacity : UInt8) : UInt16 :=
  memoryType.toUInt16 <<< 8 ||| capacity.toUInt16

/-- The word by which a model is looked up. -/
def code (id : JedecId) : UInt16 := capacityCode id.memoryType id.capacity

def toBytes (id : JedecId) : Bytes := [id.manufacturer, id.memoryType, id.capacity]

/-- Three bytes are an id. -/
def ofBytes? : Bytes → Option JedecId
  | [manufacturer, memoryType, capacity] => some ⟨manufacturer, memoryType, capacity⟩
  | _ => none

theorem ofBytes?_toBytes (id : JedecId) : ofBytes? id.toBytes = some id := rfl

theorem ofBytes?_isSome_iff {bytes : Bytes} :
    (ofBytes? bytes).isSome ↔ bytes.length = Identification.jedecIdLength := by
  match bytes with
  | [] => simp [ofBytes?, Identification.jedecIdLength]
  | [_] => simp [ofBytes?, Identification.jedecIdLength]
  | [_, _] => simp [ofBytes?, Identification.jedecIdLength]
  | [_, _, _] => simp [ofBytes?, Identification.jedecIdLength]
  | _ :: _ :: _ :: _ :: _ => simp [ofBytes?, Identification.jedecIdLength]

end JedecId

end FlashIdent
