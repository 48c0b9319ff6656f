import FlashIdent.CommandLine.Command
import FlashIdent.Text.Numeral

/-!
# Reading the command line

Arguments are read from left to right.  A word that begins with two dashes is a long option, one with a single
dash a cluster of short ones, and two dashes alone end the options.  Options of the program stand before the
name of the command, options of the command after it; `-v` may stand on both sides, and then the count after
the name holds.

An option that takes a value has it after an equals sign, behind its letter, or in the next word.  A value from
the next word is looked at only when the next option is recognised or the words end, so an unknown word after
it is reported first.
-/

namespace FlashIdent.CommandLine

/-! ### Why nothing is run -/

/-- What is wrong with a number of milliseconds. -/
structure NumberError where
  hex : Bool
  problem : Text.Numeral.Problem
deriving DecidableEq

def NumberError.message (e : NumberError) : String :=
  (if e.hex then "Invalid hex value: " else "Invalid number: ") ++ e.problem.message

/-- Why the arguments do not lead to a command. -/
inductive Rejection where
  | invalidNumber (e : NumberError)
  | missingProgrammer
  | unknownCommand
  | missingCommand
  | missingValue
  | repeatedOption
  | unknownArgument
  | unwantedValue
  | helpForLackOfArguments
  | help
  | version
deriving DecidableEq

namespace Rejection

/-- The user asked for it: no mistake was made. -/
def isAnswer : Rejection → Bool
  | help | version => true
  | _ => false

def status (r : Rejection) : Nat := if r.isAnswer then 0 else 2

def detail? : Rejection → Option String
  | invalidNumber e => some e.message
  | _ => none

end Rejection

/-! ### Numbers -/

/-- A number of 32 bits, decimal or hexadecimal after a mark. -/
def readNumber (s : List Char) : Except NumberError UInt32 :=
  match Text.Numeral.afterHexMark? s with
  | some digits =>
    match Text.Numeral.read 16 4294967295 digits with
    | .ok n => .ok (UInt32.ofNat n)
    | .error problem => .error ⟨true, problem⟩
  | none =>
    match Text.Numeral.read 10 4294967295 s with
    | .ok n => .ok (UInt32.ofNat n)
    | .error problem => .error ⟨false, problem⟩

/-! ### Options -/

/-- An option that takes a value. -/
inductive Field where
  | programmer
  | remsTimeout
  | jedecTimeout
  | vendor
deriving DecidableEq

/-- An option. -/
inductive Switch where
  | verbose
  | json
  | help
  | version
  | field (f : Field)
deriving DecidableEq

/-- Where an option can stand. -/
inductive Scope where
  | program
  | probe
  | listProgrammers
  | listChips
deriving DecidableEq

namespace Scope

def ofName? (name : String) : Option Scope :=
  match name with
  | "probe" => some probe
  | "list-programmers" => some listProgrammers
  | "list-chips" => some listChips
  | _ => none

def long? (scope : Scope) (name : String) : Option Switch :=
  match name, scope with
  | "verbose", _ => some .verbose
  | "help", _ => some .help
  | "version", program => some .version
  | "json", probe => some .json
  | "programmer", probe => some (.field .programmer)
  | "rems-timeout-ms", probe => some (.field .remsTimeout)
  | "jedec-timeout-ms", probe => some (.field .jedecTimeout)
  | "vendor", listChips => some (.field .vendor)
  | _, _ => none

def short? (scope : Scope) (letter : Char) : Option Switch :=
  match letter, scope with
  | 'v', _ => some .verbose
  | 'h', _ => some .help
  | 'V', program => some .version
  | 'p', probe => some (.field .programmer)
  | _, _ => none

end Scope

/-! ### Progress of the reading -/

/-- What the options said so far. -/
structure Given where
  verbosity : Nat := 0
  json : Bool := false
  programmer : Option String := none
  remsTimeout : Option UInt32 := none
  jedecTimeout : Option UInt32 := none
  vendor : Option String := none

/-- An option that was named but not stored yet. -/
inductive Pending where
  | nothing
  | awaiting (f : Field)
  | filled (f : Field) (value : String)

structure Progress where
  given : Given := {}
  pending : Pending := .nothing

namespace Given

/-- Stores a text for an option that may be given once. -/
def once {α : Type} (old : Option α) (new : Except Rejection α) : Except Rejection α :=
  match old with
  | some _ => .error .repeatedOption
  | none => new

def number (value : String) : Except Rejection UInt32 :=
  (readNumber value.toList).mapError Rejection.invalidNumber

def store (g : Given) (f : Field) (value : String) : Except Rejection Given :=
  match f with
  | .programmer => (once g.programmer (.ok value)).map fun v => { g with programmer := some v }
  | .remsTimeout => (once g.remsTimeout (number value)).map fun v => { g with remsTimeout := some v }
  | .jedecTimeout => (once g.jedecTimeout (number value)).map fun v => { g with jedecTimeout := some v }
  | .vendor => (once g.vendor (.ok value)).map fun v => { g with vendor := some v }

end Given

namespace Progress

def settle (p : Progress) : Except Rejection Given :=
  match p.pending with
  | .nothing => .ok p.given
  | .awaiting _ => .error .missingValue
  | .filled f value => p.given.store f value

def act (g : Given) : Switch → Except Rejection Progress
  | .verbose => .ok { given := { g with verbosity := min 255 (g.verbosity + 1) } }
  | .json => if g.json then .error .repeatedOption else .ok { given := { g with json := true } }
  | .help => .error .help
  | .version => .error .version
  | .field f => .ok { given := g, pending := .awaiting f }

def attach (g : Given) (f : Field) (value : String) : Except Rejection Progress :=
  (g.store f value).map fun g => { given := g }

def long (scope : Scope) (p : Progress) (name : String) (value : Option String) :
    Except Rejection Progress :=
  match scope.long? name, value with
  | none, _ => .error .unknownArgument
  | some (.field f), some value => do attach (← p.settle) f value
  | some _, some _ => .error .unwantedValue
  | some switch, none => do act (← p.settle) switch

def behindLetter : List Char → String
  | '=' :: value => String.ofList value
  | value => String.ofList value

def cluster (scope : Scope) : Progress → List Char → Except Rejection Progress
  | p, [] => .ok p
  | p, letter :: letters =>
    match scope.short? letter with
    | none => .error .unknownArgument
    | some (.field f) => do
      let given ← p.settle
      if letters.isEmpty then act given (.field f) else attach given f (behindLetter letters)
    | some switch => do cluster scope (← act (← p.settle) switch) letters

end Progress

/-! ### Words -/

/-- What a word is by its first characters. -/
inductive Word where
  | terminator
  | long (name : String) (value : Option String)
  | cluster (letters : List Char)
  | plain

namespace Word

def ofChars : List Char → Word
  | ['-', '-'] => terminator
  | '-' :: '-' :: rest =>
    match Text.splitFirst '=' rest with
    | none => long (String.ofList rest) none
    | some (name, value) => long (String.ofList name) (some (String.ofList value))
  | '-' :: letter :: letters => cluster (letter :: letters)
  | _ => plain

end Word

def readOptions (scope : Scope) : Progress → List String → Except Rejection Given
  | p, [] => p.settle
  | p, word :: rest =>
    match Word.ofChars word.toList with
    | .terminator => if rest.isEmpty then p.settle else .error .unknownArgument
    | .long name value => do readOptions scope (← p.long scope name value) rest
    | .cluster letters => do readOptions scope (← p.cluster scope letters) rest
    | .plain =>
      match p.pending with
      | .awaiting f => readOptions scope { p with pending := .filled f word } rest
      | _ => .error .unknownArgument

/-! ### The whole line -/

/-- A command and how much the log is to show. -/
structure Invocation where
  verbosity : Nat
  command : Command
deriving DecidableEq

/-- The command that the options of a scope make up. -/
def commandOf (scope : Scope) (g : Given) : Except Rejection Command :=
  match scope with
  | .program => .error .missingCommand
  | .listProgrammers => .ok .listProgrammers
  | .listChips => .ok (.listChips g.vendor)
  | .probe =>
    match g.programmer with
    | none => .error .missingProgrammer
    | some programmer => .ok (.probe programmer g.remsTimeout g.jedecTimeout g.json)

/-- A word names a command, the one that shows help included. -/
def namesCommand (word : String) : Bool := word == "help" || (Scope.ofName? word).isSome

/-- The answer to a request for help about the commands that are named. -/
def helpAbout : List String → Rejection
  | [] => .help
  | [word] => if namesCommand word then .help else .unknownCommand
  | _ => .unknownCommand

/-- The answer when the words end before a command was named. -/
def withoutCommand (verbosity : Nat) : Rejection :=
  if verbosity = 0 then .helpForLackOfArguments else .missingCommand

/-- Reads the words up to the name of the command, and hands the rest on. -/
def readProgram : Given → List String → Except Rejection Invocation
  | g, [] => .error (withoutCommand g.verbosity)
  | g, word :: rest =>
    match Word.ofChars word.toList with
    | .terminator =>
      match rest with
      | [] => .error (withoutCommand g.verbosity)
      | next :: _ => .error (if namesCommand next then .unknownArgument else .unknownCommand)
    | .long name value => do readProgram (← Progress.long .program { given := g } name value).given rest
    | .cluster letters => do readProgram (← Progress.cluster .program { given := g } letters).given rest
    | .plain =>
      match Scope.ofName? word with
      | none => .error (if word = "help" then helpAbout rest else .unknownCommand)
      | some scope => do
        let inner ← readOptions scope {} rest
        let command ← commandOf scope inner
        return ⟨if inner.verbosity = 0 then g.verbosity else inner.verbosity, command⟩

/-- Reads the arguments, without the name of the program. -/
def read (arguments : List String) : Except Rejection Invocation := readProgram {} arguments

end FlashIdent.CommandLine
