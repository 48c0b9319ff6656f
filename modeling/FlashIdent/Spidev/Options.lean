import FlashIdent.Programmer.Options
import FlashIdent.Spidev.Device
import FlashIdent.Text.Numeral

/-!
# Options of a kernel SPI device

The device file, which must be given, the clock speed in kilohertz and the mode.
-/

namespace FlashIdent.Spidev

/-- What is wrong with the options. -/
inductive OptionError where
  | invalidSpeed (value : String)
  | speedOutOfRange (kilohertz : Nat)
  | invalidMode (value : String)
  | modeOutOfRange (mode : Nat)
  | missingDevice
deriving DecidableEq

def OptionError.message : OptionError → String
  | .invalidSpeed value => "Invalid spispeed value: " ++ value
  | .speedOutOfRange kilohertz => "spispeed out of range: " ++ toString kilohertz ++ " kHz"
  | .invalidMode value => "Invalid mode value: " ++ value
  | .modeOutOfRange mode => "Invalid SPI mode: " ++ toString mode ++ " (must be 0-3)"
  | .missingDevice => "No device specified. Use dev=/dev/spidevX.Y"

namespace Config

def wordMax : Nat := 4294967295

/-- Reads a speed in kilohertz; the speed in hertz must fit a word too. -/
def readSpeed (value : String) : Except OptionError UInt32 :=
  match Text.Numeral.read 10 wordMax value.toList with
  | .error _ => .error (.invalidSpeed value)
  | .ok kilohertz =>
    if kilohertz * 1000 ≤ wordMax then .ok (UInt32.ofNat (kilohertz * 1000))
    else .error (.speedOutOfRange kilohertz)

def readMode (value : String) : Except OptionError UInt8 :=
  match Text.Numeral.read 10 255 value.toList with
  | .error _ => .error (.invalidMode value)
  | .ok mode => if mode ≤ 3 then .ok (UInt8.ofNat mode) else .error (.modeOutOfRange mode)

def apply (c : Config) (key value : String) : Option (Except OptionError Config) :=
  match key with
  | "dev" => some (.ok { c with device := value })
  | "spispeed" => some ((readSpeed value).map fun speed => { c with speedHz := speed })
  | "mode" => some ((readMode value).map fun mode => { c with mode := mode })
  | _ => none

/-- Reads options; whether a device was named is looked at last. -/
def read {σ : Type} (options : Programmer.Options) : Action σ (Except OptionError Config) := do
  let warn := fun key value => say .warn ("linux_spi: Unknown option: " ++ key ++ "=" ++ value)
  match ← Programmer.readOptions apply warn {} options with
  | .error e => return .error e
  | .ok config => if config.device = "" then return .error .missingDevice else return .ok config

end Config

/-- Why a device could not be opened from options. -/
inductive OpenError where
  | options (e : OptionError)
  | device (e : Error)
deriving DecidableEq

def OpenError.message : OpenError → String
  | .options e => e.message
  | .device e => e.message

def openFrom {κ : Type} (k : Kernel κ) (options : Programmer.Options) :
    Action κ (Except OpenError Device) := do
  match ← Config.read options with
  | .error e => return .error (.options e)
  | .ok config => return (← openDevice k config).mapError .device

end FlashIdent.Spidev
