import FlashIdent.CommandLine.Arguments
import FlashIdent.Text.Quoted

/-!
# The program as a whole

A run of the program reads its arguments, carries out the command and ends with a status, the text for the
standard output and the text for the standard error: the shown records, then the reason of a failure.

Two filters stand between the log and the standard error.  The logger's own is set from the environment before
the arguments are read, errors to information if nothing is said; how it reads what is said is its own business.
`-v` afterwards changes only the second, the bound on what reaches the logger.  A record is shown when it passes
both.
-/

namespace FlashIdent.CommandLine

/-- The two filters. -/
structure Logging where
  own : Log.Selection
  bound : Log.Filter

namespace Logging

/-- The filters after the start of a program, with what the environment says and how the logger reads it. -/
def start (reader : String → Log.Selection) (setting : Option String) : Logging :=
  let own := match setting with
    | none => .upTo (some .info)
    | some text => reader text
  ⟨own, own.bound⟩

def raise (l : Logging) : Nat → Logging
  | 0 => l
  | 1 => { l with bound := some .debug }
  | _ + 2 => { l with bound := some .trace }

def shows (l : Logging) (r : Log.Record) : Bool := l.own.admits r && l.bound.admits r.level

end Logging

/-- What is left of a run of the program. -/
structure Completed where
  status : Nat
  output : String
  errors : String
deriving DecidableEq

namespace Invocation

variable {κ : Type}

def shown (reader : String → Log.Selection) (setting : Option String) (i : Invocation) (log : List Log.Record) :
    List Log.Record :=
  log.filter ((Logging.start reader setting).raise i.verbosity).shows

def execute (k : Spidev.Kernel κ) (reader : String → Log.Selection) (setting : Option String) (i : Invocation)
    (kernel : κ) : Completed :=
  let outcome := (i.command.run k).run kernel
  let records := String.join ((i.shown reader setting outcome.log).map Log.Record.written)
  match outcome.value with
  | .ok output => ⟨0, output, records⟩
  | .error message => ⟨1, "", records ++ "Error: " ++ Text.Quoted.encode message ++ "\n"⟩

end Invocation

end FlashIdent.CommandLine
