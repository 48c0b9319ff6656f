import FlashIdent.Bus
import FlashIdent.Spidev.Kernel
import FlashIdent.Text.Blank
import FlashIdent.Text.Numeral

/-!
# Kernel SPI devices as buses

Every call is one message.  While the bus is held, messages ask for chip select to stay asserted; the release
is an empty message that does not ask for it.  A transfer cannot be interrupted, so time bounds are named in the
log and otherwise have no effect.

The kernel moves the bytes of a message through a buffer.  How large it is, is found out when the device is
opened, and a transfer that is larger is refused before any message is made.
-/

namespace FlashIdent.Spidev

/-- How a device is to be opened. -/
structure Config where
  device : String := ""
  speedHz : UInt32 := 2000000
  mode : UInt8 := 0
deriving DecidableEq

/-- An opened device. -/
structure Device where
  speedHz : UInt32
  /-- The largest transfer that the kernel's buffer takes. -/
  bufferSize : Nat
  held : Bool := false
deriving DecidableEq

/-- An opened device on a kernel with state `κ`. -/
structure Port (κ : Type) where
  device : Device
  kernel : κ

variable {κ : Type}

def say {σ : Type} (level : Log.Level) (text : String) : Action σ Unit := Action.say level .spidev text

/-! ### The kernel's buffer -/

/-- Where the parameter is found. -/
def bufferParameterPath : String := "/sys/module/spidev/parameters/bufsiz"

/-- The largest size that a machine word can name. -/
def sizeMax : Nat := 18446744073709551615

/-- Reads a size that is not zero; blanks around it do not count. -/
def readBufferSize? (text : String) : Option Nat :=
  match Text.Numeral.read 10 sizeMax (Text.trim text.toList) with
  | .ok size => if 0 < size then some size else none
  | .error _ => none

/-- Takes the size of a page for the size of the buffer. -/
def findPageSize (k : Kernel κ) : Action κ Nat := do
  let size := k.pageSize (← Action.get)
  say .debug ("linux_spi: Using page size " ++ toString size ++ " as buffer size")
  return size

/-- Finds out how large the buffer is.  A parameter that cannot be read is no reason to warn, one that makes no
sense is. -/
def findBufferSize (k : Kernel κ) : Action κ Nat := do
  match k.bufferParameter (← Action.get) with
  | none =>
    say .debug ("linux_spi: Cannot read " ++ bufferParameterPath ++ ", using page size")
    findPageSize k
  | some text =>
    match readBufferSize? text with
    | none =>
      say .warn ("linux_spi: Invalid buffer size in " ++ bufferParameterPath)
      findPageSize k
    | some size =>
      say .debug ("linux_spi: Using buffer size " ++ toString size ++ " from sysfs")
      return size

/-! ### Opening -/

/-- Asks the kernel and gives a failure its meaning. -/
def ask {α : Type} (request : κ → Except Errno α × κ) (failure : Errno → Error) :
    Action κ (Except Error α) :=
  fun k => ⟨(request k).1.mapError failure, (request k).2, []⟩

/-- Asks for a setting.  A failure is told by a known cause, or by zero. -/
def configure (k : Kernel κ) (setting : Setting) (failure : Errno → Error) : Action κ (Except Error Unit) :=
  ask (k.set setting) fun cause => failure cause.recognised

def openFile (k : Kernel κ) (path : String) : Action κ (Except Error Unit) :=
  if path.toList.contains (Char.ofNat 0) then return .error (.unusablePath path)
  else ask (k.openFile path) (.openFailed path)

/-- Opens and sets up a device: mode, eight bits per word, speed.  Then its largest transfer is found out. -/
def openDevice (k : Kernel κ) (config : Config) : Action κ (Except Error Device) := do
  if config.device = "" then return .error .noDevice
  else
    say .debug ("linux_spi: Opening device " ++ config.device)
    match ← openFile k config.device with
    | .error e => return .error e
    | .ok () =>
      match ← configure k (.mode config.mode) (.setModeFailed config.mode) with
      | .error e => return .error e
      | .ok () =>
        match ← configure k (.bitsPerWord 8) (.setBitsPerWordFailed 8) with
        | .error e => return .error e
        | .ok () =>
          match ← configure k (.speed config.speedHz) (.setSpeedFailed config.speedHz) with
          | .error e => return .error e
          | .ok () =>
            say .info ("linux_spi: Opened " ++ config.device ++ " (mode=" ++ toString config.mode.toNat ++
              ", speed=" ++ toString (config.speedHz.toNat / 1000) ++ " kHz)")
            let size ← findBufferSize k
            say .debug ("linux_spi: Max kernel buffer size: " ++ toString size ++ " bytes")
            return .ok { speedHz := config.speedHz, bufferSize := size }

/-! ### Transfers -/

/-- The receive buffer: zeros, with the stored bytes at its start as far as they fit. -/
def receiveBuffer (length : Nat) (stored : Bytes) : Bytes :=
  stored.take length ++ List.replicate (length - stored.length) 0

@[simp] theorem length_receiveBuffer (length : Nat) (stored : Bytes) :
    (receiveBuffer length stored).length = length := by
  simp only [receiveBuffer, List.length_append, List.length_take, List.length_replicate]
  omega

def Device.transfer (d : Device) (tx : Option Bytes) (rx : Bool) (length : Nat) : Transfer where
  tx := tx
  rx := rx
  length := UInt32.ofNat length
  speedHz := d.speedHz
  csChange := if d.held then 1 else 0

/-- Sends one message; what comes back is the receive buffer. -/
def message (k : Kernel κ) (tx : Option Bytes) (rx : Bool) (length : Nat) :
    Action (Port κ) (Except Error Bytes) := do
  let device := (← Action.get).device
  if device.bufferSize < length then return .error (.transferTooLarge length device.bufferSize)
  else
    let answer ← Action.within Port.kernel (fun s port => { port with kernel := s })
      (ask (k.transfer (device.transfer tx rx length)) .transferFailed)
    return answer.map (receiveBuffer length)

/-- Notes whether chip select is to stay asserted. -/
def setHeld (held : Bool) : Action (Port κ) Unit :=
  Action.modify fun port => { port with device := { port.device with held := held } }

def announce (name : String) (length : Nat) (timeout : Timeout) : Action (Port κ) Unit :=
  say .trace ("linux_spi: " ++ name ++ " " ++ toString length ++ " bytes (timeout " ++
    toString timeout.effective.toNat ++ " ms)")

def release (k : Kernel κ) : Action (Port κ) (Except BusError Unit) := do
  setHeld false
  say .trace "linux_spi: releasing chip select"
  let answer ← message k none false 0
  return (answer.mapError Error.toBusError).map fun _ => ()

def bus (k : Kernel κ) : Bus (Port κ) where
  perform
    | .acquire => do
      setHeld true
      say .trace "linux_spi: holding chip select"
      return .ok ()
    | .release => release k
    | .write data timeout => do
      announce "write" data.length timeout
      let answer ← message k (some data) false data.length
      return (answer.mapError Error.toBusError).map fun _ => ()
    | .read length timeout => do
      announce "read" length timeout
      let answer ← message k none true length
      return answer.mapError Error.toBusError
    | .writeRead data timeout => do
      announce "write_read" data.length timeout
      let answer ← message k (some data) true data.length
      return answer.mapError Error.toBusError

/-- Gives the device up; a hold is ended first. -/
def close (k : Kernel κ) : Action (Port κ) Unit := do
  if (← Action.get).device.held then
    match ← release k with
    | .ok () => return ()
    | .error e => say .warn ("linux_spi: Failed to release chip select: " ++ e.message)
  else return ()

end FlashIdent.Spidev
