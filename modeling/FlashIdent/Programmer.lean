import FlashIdent.Emulator.Options
import FlashIdent.Programmer.Kind
import FlashIdent.Programmer.Text
import FlashIdent.Spidev.Options

/-!
# Opening a programmer

A programmer string names a kind of programmer and its options; opening it leaves either an emulated bus or a
kernel device.  Both are used as one bus, on a state that keeps the kernel beside the backend.
-/

namespace FlashIdent.Programmer

/-- What was opened. -/
inductive Backend where
  | emulator (e : Emulator)
  | spidev (d : Spidev.Device)

/-- Why nothing was opened. -/
inductive OpenError where
  | unknownName (name : String)
  | emulator (e : Emulator.OptionError)
  | spidev (e : Spidev.OpenError)

def OpenError.message : OpenError → String
  | .unknownName name =>
    "Unknown programmer: " ++ name ++ "\n\n" ++ help ++
      "\nUse 'norprobe list-programmers' for more details"
  | .emulator e => "Invalid dummy parameters: " ++ e.message
  | .spidev e =>
    "Failed to open Linux SPI device: " ++ e.message ++
      "\nMake sure the device exists and you have read/write permissions.\n" ++
      "You may need to: sudo usermod -aG spi $USER"

variable {κ : Type}

def openKind (k : Spidev.Kernel κ) (options : Options) : Kind → Action κ (Except OpenError Backend)
  | .emulator => do
    let opened ← Emulator.openFrom options
    return (opened.mapError OpenError.emulator).map Backend.emulator
  | .spidev => do
    Action.say .info .programmers "Opening Linux SPI programmer..."
    let opened ← Spidev.openFrom k options
    return (opened.mapError OpenError.spidev).map Backend.spidev

def openString (k : Spidev.Kernel κ) (s : String) : Action κ (Except OpenError Backend) :=
  let (name, options) := parse s
  match Kind.find? name with
  | none => return .error (.unknownName name)
  | some kind => openKind k options kind

/-! ### Use -/

/-- What was opened, and the kernel. -/
structure Attached (κ : Type) where
  backend : Backend
  kernel : κ

namespace Attached

def onEmulator {α : Type} (e : Emulator) (m : Action Emulator α) : Action (Attached κ) α :=
  m.within (fun _ => e) fun e' a => { a with backend := .emulator e' }

def onPort {α : Type} (d : Spidev.Device) (m : Action (Spidev.Port κ) α) : Action (Attached κ) α :=
  m.within (fun a => ⟨d, a.kernel⟩) fun port _ => ⟨.spidev port.device, port.kernel⟩

def bus (k : Spidev.Kernel κ) : Bus (Attached κ) where
  perform call := do
    match (← Action.get).backend with
    | .emulator e => onEmulator e (Emulator.bus.perform call)
    | .spidev d => onPort d ((Spidev.bus k).perform call)

def close (k : Spidev.Kernel κ) : Action (Attached κ) Unit := do
  match (← Action.get).backend with
  | .emulator _ => return ()
  | .spidev d => onPort d (Spidev.close k)

end Attached

end FlashIdent.Programmer
