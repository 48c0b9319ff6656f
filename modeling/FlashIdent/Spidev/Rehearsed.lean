import FlashIdent.Spidev.Kernel

/-!
# Rehearsed kernels

A kernel whose answers are written down beforehand: which files can be opened, which settings fail, how much a
message may move, and how the messages end one after the other.  When the list of messages is used up, messages
succeed and store nothing.
-/

namespace FlashIdent.Spidev

/-- The answers of a kernel. -/
structure KernelScript where
  /-- The error with which a file opens, if it does not open. -/
  openError : String → Option Errno
  modeError : Option Errno := none
  bitsError : Option Errno := none
  speedError : Option Errno := none
  transfers : List (Except Errno Bytes) := []
  bufferParameter : Option String := none
  pageSize : Nat := 4096

namespace KernelScript

/-- Fails where an error is given. -/
def outcome : Option Errno → Except Errno Unit
  | none => .ok ()
  | some e => .error e

def kernel : Kernel KernelScript where
  bufferParameter script := script.bufferParameter
  pageSize script := script.pageSize
  openFile path script := (outcome (script.openError path), script)
  set setting script :=
    match setting with
    | .mode _ => (outcome script.modeError, script)
    | .bitsPerWord _ => (outcome script.bitsError, script)
    | .speed _ => (outcome script.speedError, script)
  transfer _ script :=
    match script.transfers with
    | [] => (.ok [], script)
    | answer :: rest => (answer, { script with transfers := rest })

/-- A machine without any SPI device: a file that opens is no device. -/
def withoutDevices (openError : String → Option Errno) : KernelScript where
  openError := openError
  modeError := some Errno.notThisDevice
  bitsError := some Errno.notThisDevice
  speedError := some Errno.notThisDevice

end KernelScript

end FlashIdent.Spidev
