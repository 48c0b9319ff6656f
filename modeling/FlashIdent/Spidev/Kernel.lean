import FlashIdent.Action
import FlashIdent.Bytes
import FlashIdent.Spidev.Error

/-!
# The kernel's side of an SPI device

A device file takes three settings, one ioctl each, and messages.  A message here is one transfer: what to
send, whether to receive, how many bytes, and whether chip select is to stay asserted afterwards.  A
`Kernel κ` answers them by functions on a state `κ` of its own; `Kernel.recorded` is the same kernel with a
memory of every ioctl, failed ones included.

How much one message may move is not asked of the device: it is a parameter of a module of the kernel, and where
that cannot be read, the size of a page.
-/

namespace FlashIdent.Spidev

/-! ### Ioctls -/

/-- A setting of the device. -/
inductive Setting where
  | mode (value : UInt8)
  | bitsPerWord (value : UInt8)
  | speed (hertz : UInt32)
deriving DecidableEq

/-- One transfer as it is handed to the kernel. -/
structure Transfer where
  /-- The bytes to send; without them zeros are sent. -/
  tx : Option Bytes
  /-- A receive buffer is there. -/
  rx : Bool
  length : UInt32
  speedHz : UInt32
  delayUsecs : UInt16 := 0
  bitsPerWord : UInt8 := 8
  /-- One asks for chip select to stay asserted after the message. -/
  csChange : UInt8
  txNbits : UInt8 := 0
  rxNbits : UInt8 := 0
  wordDelayUsecs : UInt8 := 0
deriving DecidableEq

/-- A request to the device. -/
inductive Ioctl where
  | set (setting : Setting)
  | message (transfer : Transfer)
deriving DecidableEq

/-- The number of a request that writes `size` bytes to a device of the family of SPI devices. -/
def writeRequest (size number : Nat) : Nat := 0x40000000 + size * 0x10000 + 0x6b00 + number

namespace Setting

def request : Setting → Nat
  | mode _ => writeRequest 1 1
  | bitsPerWord _ => writeRequest 1 3
  | speed _ => writeRequest 4 4

def value : Setting → Nat
  | mode v => v.toNat
  | bitsPerWord v => v.toNat
  | speed v => v.toNat

end Setting

def transferSize : Nat := 32

/-- The request number of a message of one transfer. -/
def messageRequest : Nat := writeRequest transferSize 0

/-! ### Kernels -/

/-- How a kernel with state `κ` answers. -/
structure Kernel (κ : Type) where
  /-- The text of the parameter `bufsiz` of the module for SPI devices, if it can be read. -/
  bufferParameter : κ → Option String
  pageSize : κ → Nat
  openFile : String → κ → Except Errno Unit × κ
  set : Setting → κ → Except Errno Unit × κ
  /-- A transfer that succeeds brings the bytes to store at the start of the receive buffer. -/
  transfer : Transfer → κ → Except Errno Bytes × κ

/-- A kernel's state and the ioctls so far, oldest first. -/
structure RecordedKernel (κ : Type) where
  kernel : κ
  ioctls : List Ioctl

namespace RecordedKernel

def start {κ : Type} (k : κ) : RecordedKernel κ := ⟨k, []⟩

def transfers {κ : Type} (r : RecordedKernel κ) : List Transfer :=
  r.ioctls.filterMap fun
    | .set _ => none
    | .message transfer => some transfer

end RecordedKernel

def Kernel.recorded {κ : Type} (k : Kernel κ) : Kernel (RecordedKernel κ) where
  bufferParameter r := k.bufferParameter r.kernel
  pageSize r := k.pageSize r.kernel
  openFile path r := ((k.openFile path r.kernel).1, { r with kernel := (k.openFile path r.kernel).2 })
  set setting r :=
    ((k.set setting r.kernel).1, ⟨(k.set setting r.kernel).2, r.ioctls ++ [.set setting]⟩)
  transfer t r := ((k.transfer t r.kernel).1, ⟨(k.transfer t r.kernel).2, r.ioctls ++ [.message t]⟩)

end FlashIdent.Spidev
