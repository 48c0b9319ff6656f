import FlashIdent.Emulator
import FlashIdent.Programmer.Options
import FlashIdent.Text.Hex
import FlashIdent.Text.Numeral
import FlashIdent.Text.Split

/-!
# Options of the emulated bus

The four bytes of the chip, `absent` for an empty socket, and `fail` with an operation and a fault, which may be
given again and again.
-/

namespace FlashIdent.Emulator

/-- What is wrong with an option. -/
inductive OptionError where
  | invalidByte (key value : String)
  | faultWithoutColon
  | unknownOperation (name : String)
  | unknownFault (name : String)
deriving DecidableEq

def OptionError.message : OptionError → String
  | .invalidByte key value => "Invalid " ++ key ++ " value: " ++ value
  | .faultWithoutColon => "Invalid fail value, use fail=<op>:<fault>"
  | .unknownOperation name => "Invalid operation: " ++ name
  | .unknownFault name => "Invalid fault: " ++ name

/-- What the options say: the chip, and the faults in the order of their options. -/
structure Settings where
  flash : Flash := {}
  faults : List (Operation × Fault) := []
deriving DecidableEq

namespace Settings

/-- Reads a byte in hexadecimal, with or without a mark in front. -/
def readByte (key value : String) : Except OptionError UInt8 :=
  match Text.Numeral.read 16 255 ((Text.Numeral.afterHexMark? value.toList).getD value.toList) with
  | .ok n => .ok (UInt8.ofNat n)
  | .error _ => .error (.invalidByte key value)

def readOperation (name : String) : Except OptionError Operation :=
  match Operation.ofName? name with
  | some operation => .ok operation
  | none => .error (.unknownOperation name)

def readFault (name : String) : Except OptionError Fault :=
  match Fault.ofName? name with
  | some fault => .ok fault
  | none => .error (.unknownFault name)

/-- Reads an operation and a fault with a colon between them; the operation is looked at first. -/
def readInjection (value : String) : Except OptionError (Operation × Fault) :=
  match Text.splitFirst ':' value.toList with
  | none => .error .faultWithoutColon
  | some (operation, fault) => do
    let operation ← readOperation (String.ofList operation)
    let fault ← readFault (String.ofList fault)
    return (operation, fault)

def apply (s : Settings) (key value : String) : Option (Except OptionError Settings) :=
  match key with
  | "mfr" => some ((readByte key value).map fun b => { s with flash.manufacturer := b })
  | "type" => some ((readByte key value).map fun b => { s with flash.memoryType := b })
  | "capacity" => some ((readByte key value).map fun b => { s with flash.capacity := b })
  | "rems" => some ((readByte key value).map fun b => { s with flash.device := b })
  | "absent" => some (.ok { s with flash.present := false })
  | "fail" => some ((readInjection value).map fun entry => { s with faults := s.faults ++ [entry] })
  | _ => none

/-- Reads options, beginning with the usual chip and no fault. -/
def read {σ : Type} (options : Programmer.Options) : Action σ (Except OptionError Settings) :=
  Programmer.readOptions apply
    (fun key value => Action.say .warn .emulator ("dummy: Unknown option: " ++ key ++ "=" ++ value))
    {} options

end Settings

def ofSettings (s : Settings) : Emulator := start s.flash (FaultPlan.ofList s.faults)

def announcement (f : Flash) : String :=
  "dummy: Emulating chip " ++ Text.Hex.capitalByte f.manufacturer ++ " " ++
    Text.Hex.capitalByte f.memoryType ++ Text.Hex.capitalByte f.capacity ++
    (if f.present then "" else " (absent)")

/-- Opens an emulated bus as options describe it. -/
def openFrom {σ : Type} (options : Programmer.Options) : Action σ (Except OptionError Emulator) := do
  match ← Settings.read options with
  | .error e => return .error e
  | .ok settings =>
    Action.say .info .emulator (announcement settings.flash)
    return .ok (ofSettings settings)

end FlashIdent.Emulator
