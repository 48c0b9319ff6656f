import FlashIdent.Probe.Report
import FlashIdent.Session

/-!
# Probing

A probe runs the two identification handshakes one after the other and never fails.  A handshake that cannot be
completed is logged and is missing from the report; what it does to the bus is undone before the probe ends.
-/

namespace FlashIdent.Probe

/-- The time bounds of the two handshakes. -/
structure Timeouts where
  rems : Timeout := some 100
  jedec : Timeout := none
deriving DecidableEq

namespace Timeouts

/-- The usual bounds, replaced where others are given. -/
def withOverrides (rems jedec : Option UInt32) : Timeouts where
  rems := rems.or ({} : Timeouts).rems
  jedec := jedec.or ({} : Timeouts).jedec

def text (t : Timeouts) : String :=
  "ProbeConfig \x7b rems_timeout_ms: " ++ t.rems.text ++ ", jedec_timeout_ms: " ++ t.jedec.text ++ " \x7d"

end Timeouts

/-- What a probe depends on besides the bus. -/
structure Prober where
  table : Chip.Table := Chip.Table.builtin
  timeouts : Timeouts := {}

namespace Prober

variable {σ : Type}

def say (level : Log.Level) (text : String) : Action (Session σ) Unit := Action.say level .probe text

/-! ### The manufacturer and device bytes -/

def askFrame (p : Prober) (bus : Bus σ) : Action (Session σ) (Except BusError Bytes) := do
  say .debug "probe: reading manufacturer/device ID (REMS)"
  Session.readManufacturerId bus p.timeouts.rems

/-- What is made of the answer. -/
def decodeFrame (p : Prober) : Except BusError Bytes → Action (Session σ) (Option Decoding)
  | .error (.malformedResponse expected actual) => do
    say .debug ("probe: REMS answer has " ++ toString actual ++ " bytes instead of " ++
      toString expected ++ ", skipping")
    return none
  | .error e => do
    if e.isTransport then say .warn ("probe: REMS transaction failed: " ++ e.message)
    else say .error ("probe: REMS transaction rejected: " ++ e.message)
    return none
  | .ok frame =>
    match Decoding.ofFrame? p.table frame with
    | some decoding => do
      say .debug ("probe: REMS identity: " ++ decoding.identity.text)
      return some decoding
    | none => do
      say .debug ("probe: REMS answer has " ++ toString frame.length ++ " bytes, skipping")
      return none

/-- The handshake that reads the manufacturer and device bytes. -/
def manufacturerId (p : Prober) (bus : Bus σ) : Action (Session σ) (Option Decoding) := do
  p.decodeFrame (← p.askFrame bus)

/-! ### The JEDEC ID -/

def askId (p : Prober) (bus : Bus σ) : Action (Session σ) (Except BusError JedecId) := do
  say .debug "probe: reading JEDEC ID (RDID)"
  Session.readJedecId bus p.timeouts.jedec

/-- What is made of the answer. -/
def decodeId (p : Prober) : Except BusError JedecId → Action (Session σ) (Option Decoding)
  | .error e => do
    if e.isMisuse then say .error ("probe: bus busy, JEDEC ID not read: " ++ e.message)
    else say .warn ("probe: JEDEC ID read failed: " ++ e.message)
    return none
  | .ok id => do
    let decoding := Decoding.ofJedecId p.table id
    say .debug ("probe: JEDEC identity: " ++ decoding.identity.text)
    return some decoding

/-- The handshake that reads the JEDEC ID. -/
def jedecId (p : Prober) (bus : Bus σ) : Action (Session σ) (Option Decoding) := do
  p.decodeId (← p.askId bus)

/-! ### Both -/

/-- Identifies the chip behind a session. -/
def probe (p : Prober) (bus : Bus σ) : Action (Session σ) Report := do
  let rems ← p.manufacturerId bus
  let jedec ← p.jedecId bus
  return Report.ofDecodings rems jedec

end Prober

end FlashIdent.Probe
