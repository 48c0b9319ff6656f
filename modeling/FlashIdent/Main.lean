import FlashIdent.CommandLine.Program
import FlashIdent.Spidev.Rehearsed

/-!
# The executable

Reads the arguments and the environment, carries the command out and prints what is left.  Of what the environment
may say about the log, the name of a level is understood.  A device file is opened to learn whether it can be;
messages to it are beyond this program, so it is set up like a file on a machine without SPI devices.
-/

namespace FlashIdent.CommandLine

/-- What is shown instead of running a command. -/
def usage : String :=
  "SPI NOR flash identification\n\n" ++
  "Usage: norprobe [-v] <probe|list-programmers|list-chips|help> [options]\n\n" ++
  "  probe -p <programmer> [--rems-timeout-ms <n>] [--jedec-timeout-ms <n>] [--json]\n" ++
  "  list-programmers\n" ++
  "  list-chips [--vendor <text>]\n"

/-- The level of a name, in capitals or not; any other name lets nothing through. -/
def filterNamed (name : String) : Log.Filter :=
  match name.map Char.toUpper with
  | "ERROR" => some .error
  | "WARN" => some .warn
  | "INFO" => some .info
  | "DEBUG" => some .debug
  | "TRACE" => some .trace
  | _ => none

/-- The device file that a command is about to open. -/
def Command.deviceFile? : Command → Option String
  | .probe programmer _ _ _ =>
    let (name, options) := Programmer.parse programmer
    match Programmer.Kind.find? name with
    | some .spidev => (options.reverse.find? fun option => option.1 == "dev").map Prod.snd
    | _ => none
  | _ => none

/-- The number behind a failure to open a file. -/
def errnoOf : IO.Error → Errno
  | .noFileOrDirectory _ code _ => ⟨code.toNat⟩
  | .permissionDenied _ code _ => ⟨code.toNat⟩
  | .inappropriateType _ code _ => ⟨code.toNat⟩
  | .noSuchThing _ code _ => ⟨code.toNat⟩
  | .resourceBusy code _ => ⟨code.toNat⟩
  | .otherError code _ => ⟨code.toNat⟩
  | _ => ⟨5⟩

/-- Whether a device file opens. -/
def tryOpen (path : Option String) : IO (Option Errno) := do
  match path with
  | none => return none
  | some path =>
    try
      let _ ← IO.FS.Handle.mk path .readWrite
      return none
    catch e => return some (errnoOf e)

end FlashIdent.CommandLine

open FlashIdent FlashIdent.CommandLine in
def main (arguments : List String) : IO UInt32 := do
  match CommandLine.read arguments with
  | .error .help =>
    IO.print usage
    return 0
  | .error .version =>
    IO.println "norprobe 0.1.0"
    return 0
  | .error rejection =>
    IO.eprintln ("error: " ++ (rejection.detail?.getD "invalid arguments") ++ "\n\n" ++ usage)
    return UInt32.ofNat rejection.status
  | .ok invocation =>
    let opened ← tryOpen invocation.command.deviceFile?
    let script := Spidev.KernelScript.withoutDevices fun _ => opened
    let reader := fun name => Log.Selection.upTo (filterNamed name)
    let completed := invocation.execute Spidev.KernelScript.kernel reader (← IO.getEnv "RUST_LOG") script
    IO.eprint completed.errors
    IO.print completed.output
    return UInt32.ofNat completed.status
