import FlashIdent.Chip.Table
import FlashIdent.Identification
import FlashIdent.Identity

/-!
# From answer bytes to identities

Both decoders are functions of the table and of the bytes alone.  They answer an identity and the lines to show
for it.  A manufacturer byte that the table lists decides for its vendor, even where the byte is also what an
empty socket sends.
-/

namespace FlashIdent

open Chip

/-- An identity and the lines that go with it. -/
structure Decoding where
  identity : Identity
  lines : List String
deriving DecidableEq

namespace Decoding

/-- The manufacturer byte of a line that nothing drives. -/
def silentLow : UInt8 := 0x00

/-- The manufacturer byte of a line that floats. -/
def silentHigh : UInt8 := 0xff

/-- Decodes a manufacturer and a device byte. -/
def ofDevice (table : Table) (manufacturer device : UInt8) : Decoding :=
  match table.vendor? manufacturer with
  | some vendor =>
    match table.rems? manufacturer device with
    | some model =>
      ⟨.known vendor model.name, ["Found " ++ vendor ++ " device", "Device ID: " ++ model.name]⟩
    | none =>
      ⟨.modelUnknown vendor device.toUInt16,
        ["Found " ++ vendor ++ " device", "unknown device ID: " ++ Text.Hex.byte device]⟩
  | none =>
    if manufacturer = silentLow then ⟨.absent, ["chip not connected"]⟩
    else ⟨.unrecognized manufacturer, ["unknown manufacturer ID: " ++ Text.Hex.byte manufacturer]⟩

/-- Decodes an answer frame of the manufacturer and device command; the two bytes follow the opcode and the
address.  A frame of another length says nothing. -/
def ofFrame? (table : Table) : Bytes → Option Decoding
  | [_, _, _, _, manufacturer, device] => some (ofDevice table manufacturer device)
  | _ => none

/-- The lines about the bytes of a JEDEC ID, which are shown whatever they are. -/
def rawLines (id : JedecId) : List String :=
  ["JEDEC MF ID: " ++ Text.Hex.byte id.manufacturer,
    "JEDEC Memory Type: " ++ Text.Hex.byte id.memoryType,
    "JEDEC Capacity ID: " ++ Text.Hex.byte id.capacity]

/-- The identity behind a JEDEC ID: the vendor hangs on the manufacturer byte, the model on the code. -/
def jedecIdentity (table : Table) (id : JedecId) : Identity :=
  match table.vendor? id.manufacturer, table.jedec? id.code with
  | some vendor, some model => .known vendor model.name
  | some vendor, none => .modelUnknown vendor id.code
  | none, _ =>
    if id.manufacturer = silentLow ∨ id.manufacturer = silentHigh then .absent
    else .unrecognized id.manufacturer

/-- Decodes a JEDEC ID.  The line about the vendor is left out where the table names none; the line about the
model is always there. -/
def ofJedecId (table : Table) (id : JedecId) : Decoding where
  identity := jedecIdentity table id
  lines :=
    rawLines id ++
    (match table.vendor? id.manufacturer with
      | some vendor => [vendor ++ " device found"]
      | none => []) ++
    (match table.jedec? id.code with
      | some model => ["Device: " ++ model.name]
      | none => ["unknown device"])

theorem ofFrame?_isSome_iff {table : Table} {frame : Bytes} :
    (ofFrame? table frame).isSome ↔ frame.length = Identification.remsFrameLength := by
  match frame with
  | [] => simp [ofFrame?, Identification.remsFrameLength]
  | [_] => simp [ofFrame?, Identification.remsFrameLength]
  | [_, _] => simp [ofFrame?, Identification.remsFrameLength]
  | [_, _, _] => simp [ofFrame?, Identification.remsFrameLength]
  | [_, _, _, _] => simp [ofFrame?, Identification.remsFrameLength]
  | [_, _, _, _, _] => simp [ofFrame?, Identification.remsFrameLength]
  | [_, _, _, _, _, _] => simp [ofFrame?, Identification.remsFrameLength]
  | _ :: _ :: _ :: _ :: _ :: _ :: _ :: _ => simp [ofFrame?, Identification.remsFrameLength]

end Decoding

end FlashIdent
