import FlashIdent.Identity.Decoding
import FlashIdent.Text.Split

/-!
# Probe reports

A report holds what each of the two handshakes found, if it was completed, and the lines to show, each with
the handshake it comes from.  A report is written as plain lines or as one JSON document.
-/

namespace FlashIdent.Probe

/-- The two ways to ask a chip what it is, in the order in which they are tried. -/
inductive Handshake where
  | manufacturerId
  | jedecId
deriving DecidableEq

def Handshake.name : Handshake → String
  | .manufacturerId => "manufacturer_id"
  | .jedecId => "jedec_id"

/-- One line to show. -/
structure Message where
  handshake : Handshake
  text : String
deriving DecidableEq

/-- Everything a probe found out. -/
structure Report where
  manufacturerId : Option Identity
  jedec : Option Identity
  messages : List Message
deriving DecidableEq

namespace Report

def tagged (handshake : Handshake) : Option Decoding → List Message
  | none => []
  | some decoding => decoding.lines.map fun line => ⟨handshake, line⟩

/-- The report about what the two handshakes brought. -/
def ofDecodings (rems jedec : Option Decoding) : Report where
  manufacturerId := rems.map Decoding.identity
  jedec := jedec.map Decoding.identity
  messages := tagged .manufacturerId rems ++ tagged .jedecId jedec

def lines (r : Report) : List String := r.messages.map Message.text

def linesOf (r : Report) (handshake : Handshake) : List String :=
  (r.messages.filter fun m => m.handshake == handshake).map Message.text

/-- The identity that counts: the JEDEC ID where it was read, else the manufacturer and device bytes. -/
def identity? (r : Report) : Option Identity := r.jedec.or r.manufacturerId

/-! ### Written forms -/

def plain (r : Report) : String := Text.ofLines r.lines

/-- The document of an identity that may be missing. -/
def identityJson : Option Identity → Document.Json
  | none => .null
  | some identity => identity.toJson

def messageJson (m : Message) : Document.Json :=
  .object [("step", .string m.handshake.name), ("text", .string m.text)]

def toJson (r : Report) : Document.Json :=
  .object [("manufacturer_id", identityJson r.manufacturerId), ("jedec", identityJson r.jedec),
    ("messages", .array (r.messages.map messageJson))]

def write (r : Report) (asJson : Bool) : String := if asJson then r.toJson.render else r.plain

theorem messages_ofDecodings (rems jedec : Option Decoding) :
    (ofDecodings rems jedec).messages = tagged .manufacturerId rems ++ tagged .jedecId jedec := rfl

end Report

end FlashIdent.Probe
