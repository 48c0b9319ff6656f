import FlashIdent.Bus.Error
import FlashIdent.Errno

/-!
# Errors of a kernel SPI device

What can go wrong with a device file: opening it, setting it up, and each transfer.  The caller of the bus sees
only a `BusError`; the kernel's own time-out keeps its meaning, and a transfer that does not fit is the
caller's mistake.
-/

namespace FlashIdent.Spidev

/-- The cause of a failure. -/
inductive Error where
  | openFailed (path : String) (cause : Errno)
  /-- The path has a zero character in it, so the kernel cannot be asked. -/
  | unusablePath (path : String)
  | setModeFailed (mode : UInt8) (cause : Errno)
  | setBitsPerWordFailed (bits : UInt8) (cause : Errno)
  | setSpeedFailed (speed : UInt32) (cause : Errno)
  | transferFailed (cause : Errno)
  | transferTooLarge (length max : Nat)
  | invalidParameter (text : String)
  | noDevice
deriving DecidableEq

namespace Error

def message : Error → String
  | openFailed path cause => "Failed to open " ++ path ++ ": " ++ cause.text
  | unusablePath path => "Failed to open " ++ path ++ ": file name contained an unexpected NUL byte"
  | setModeFailed mode cause => "Failed to set SPI mode to " ++ toString mode.toNat ++ ": " ++ cause.text
  | setBitsPerWordFailed bits cause =>
    "Failed to set bits per word to " ++ toString bits.toNat ++ ": " ++ cause.text
  | setSpeedFailed speed cause =>
    "Failed to set clock speed to " ++ toString speed.toNat ++ " Hz: " ++ cause.text
  | transferFailed cause => "SPI transfer failed: " ++ cause.text
  | transferTooLarge length max =>
    "Transfer of " ++ toString length ++ " bytes exceeds kernel buffer of " ++ toString max ++ " bytes"
  | invalidParameter text => "Invalid parameter: " ++ text
  | noDevice => "No device specified. Use dev=/dev/spidevX.Y"

def toBusError : Error → BusError
  | transferFailed cause => if cause = Errno.timedOut then .timeout else .transport
  | transferTooLarge _ _ => .invalidArgument
  | invalidParameter _ => .invalidArgument
  | openFailed _ _ => .transport
  | unusablePath _ => .transport
  | setModeFailed _ _ => .transport
  | setBitsPerWordFailed _ _ => .transport
  | setSpeedFailed _ _ => .transport
  | noDevice => .transport

end Error

end FlashIdent.Spidev
