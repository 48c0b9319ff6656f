import FlashIdent.Document.Json
import FlashIdent.Text.Hex

/-!
# Identities

What one handshake found out about the chip on the bus.
-/

namespace FlashIdent

/-- The outcome of one identification handshake. -/
inductive Identity where
  /-- Vendor and model are both in the table. -/
  | known (vendor model : String)
  /-- The vendor is in the table, the model code is not. -/
  | modelUnknown (vendor : String) (code : UInt16)
  /-- Nothing answered: the line stayed low, or it floated. -/
  | absent
  /-- The manufacturer byte is not in the table. -/
  | unrecognized (manufacturer : UInt8)
deriving DecidableEq

namespace Identity

def isPresent : Identity → Bool
  | absent => false
  | _ => true

/-- The model, when the chip was identified in full. -/
def model? : Identity → Option String
  | known _ model => some model
  | _ => none

def vendor? : Identity → Option String
  | known vendor _ => some vendor
  | modelUnknown vendor _ => some vendor
  | absent => none
  | unrecognized _ => none

def text : Identity → String
  | known vendor model => vendor ++ " " ++ model
  | modelUnknown vendor code => vendor ++ " (unknown model 0x" ++ Text.Hex.word code ++ ")"
  | absent => "no chip detected"
  | unrecognized manufacturer => "unrecognized manufacturer 0x" ++ Text.Hex.byte manufacturer

/-- An identity as a JSON object: its kind first, then what is known. -/
def toJson : Identity → Document.Json
  | known vendor model =>
    .object [("kind", .string "known"), ("vendor", .string vendor), ("model", .string model)]
  | modelUnknown vendor code =>
    .object [("kind", .string "vendor_known_model_unknown"), ("vendor", .string vendor),
      ("model_code", .number code.toNat)]
  | absent => .object [("kind", .string "absent_or_unpowered")]
  | unrecognized manufacturer =>
    .object [("kind", .string "unrecognized"), ("vendor_code", .number manufacturer.toNat)]

end Identity

end FlashIdent
