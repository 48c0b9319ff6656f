import FlashIdent.Bus
import FlashIdent.Identification
import FlashIdent.Text.Hex

/-!
# Sessions

A session is the only user of a transport.  It knows whether chip select is held, refuses what makes no sense
without touching the transport (a second acquire, a release without an acquire, a transfer of nothing), and
checks that as many bytes come back as the transfer implies.

Whoever acquires the bus gives it back.  `release` marks the session released before it asks the transport, so
a release that fails is never tried again; `letGo` is the release of a scoped hold that ends without one, and
`close` is the release of a session that is given up while it holds the bus.
-/

namespace FlashIdent

/-- Whether chip select stays asserted between transfers. -/
inductive Hold where
  | released
  | held
deriving DecidableEq

/-- A transport in use. -/
structure Session (σ : Type) where
  hold : Hold
  transport : σ

namespace Session

variable {σ α : Type}

def start (transport : σ) : Session σ := ⟨.released, transport⟩

def isHeld (s : Session σ) : Bool := decide (s.hold = .held)

/-- An action on the transport alone, past the bookkeeping of the session. -/
def onTransport (m : Action σ α) : Action (Session σ) α :=
  m.within transport fun t s => { s with transport := t }

def mark (hold : Hold) : Action (Session σ) Unit := Action.modify fun s => { s with hold := hold }

def say (level : Log.Level) (text : String) : Action (Session σ) Unit := Action.say level .session text

/-! ### Acquire and release -/

def acquire (bus : Bus σ) : Action (Session σ) (Except BusError Unit) := do
  match (← Action.get).hold with
  | .held => return .error .alreadyHeld
  | .released =>
    match ← onTransport (bus.perform .acquire) with
    | .error e => return .error e
    | .ok () =>
      mark .held
      say .trace "spi: bus acquired"
      return .ok ()

def release (bus : Bus σ) : Action (Session σ) (Except BusError Unit) := do
  match (← Action.get).hold with
  | .released => return .error .notHeld
  | .held =>
    mark .released
    say .trace "spi: bus released"
    onTransport (bus.perform .release)

/-- Ends a scoped hold that was not released by its user. -/
def letGo (bus : Bus σ) : Action (Session σ) Unit := do
  match ← release bus with
  | .ok () => return ()
  | .error e => say .warn ("spi: release failed: " ++ e.message)

def close (bus : Bus σ) : Action (Session σ) Unit := do
  match (← Action.get).hold with
  | .released => return ()
  | .held =>
    say .warn "spi: session dropped while holding the bus, releasing"
    match ← release bus with
    | .ok () => return ()
    | .error e => say .warn ("spi: release on drop failed: " ++ e.message)

/-! ### Transfers -/

def checkLength (expected : Nat) (received : Bytes) : Except BusError Bytes :=
  if received.length = expected then .ok received
  else .error (.malformedResponse expected received.length)

def boundText (timeout : Timeout) : String := " (timeout " ++ timeout.text ++ " ms)"

def write (bus : Bus σ) (data : Bytes) (timeout : Timeout) :
    Action (Session σ) (Except BusError Unit) :=
  match data with
  | [] => return .error .invalidArgument
  | _ :: _ => do
    say .trace ("spi: write " ++ Text.Hex.list data ++ boundText timeout)
    onTransport (bus.perform (.write data timeout))

def read (bus : Bus σ) (length : Nat) (timeout : Timeout) :
    Action (Session σ) (Except BusError Bytes) :=
  match length with
  | 0 => return .error .invalidArgument
  | _ + 1 => do
    match ← onTransport (bus.perform (.read length timeout)) with
    | .error e => return .error e
    | .ok received =>
      say .trace ("spi: read " ++ Text.Hex.list received ++ boundText timeout)
      return checkLength length received

def writeRead (bus : Bus σ) (data : Bytes) (timeout : Timeout) :
    Action (Session σ) (Except BusError Bytes) :=
  match data with
  | [] => return .error .invalidArgument
  | _ :: _ => do
    match ← onTransport (bus.perform (.writeRead data timeout)) with
    | .error e => return .error e
    | .ok received =>
      say .trace ("spi: write_read " ++ Text.Hex.list data ++ " -> " ++ Text.Hex.list received ++
        boundText timeout)
      return checkLength data.length received

/-! ### Reading the identification bytes -/

/-- The answer frame of the manufacturer and device command: one transfer, no hold. -/
def readManufacturerId (bus : Bus σ) (timeout : Timeout) :
    Action (Session σ) (Except BusError Bytes) :=
  writeRead bus Identification.remsFrame timeout

/-- The JEDEC ID: the opcode and the answer travel in two transfers under one hold.  The bus is given back on
every way out; a release that fails after the bytes arrived is only logged. -/
def readJedecId (bus : Bus σ) (timeout : Timeout) :
    Action (Session σ) (Except BusError JedecId) := do
  match ← acquire bus with
  | .error e => return .error e
  | .ok () =>
    match ← write bus [Identification.rdidOpcode] timeout with
    | .error e =>
      letGo bus
      return .error e
    | .ok () =>
      match ← read bus Identification.jedecIdLength timeout with
      | .error e =>
        letGo bus
        return .error e
      | .ok received =>
        match ← release bus with
        | .ok () => pure ()
        | .error e =>
          Action.say .warn .identification ("spi25: release after RDID failed: " ++ e.message)
        match JedecId.ofBytes? received with
        | some id => return .ok id
        | none => return .error (.malformedResponse Identification.jedecIdLength received.length)

end Session

end FlashIdent
