import FlashIdent.Text.ControlSequence

/-!
# Log records

Everything the library wants to tell an operator leaves it as a `Log.Record`: how urgent it is, which part
speaks, and one text.  Nothing is printed here.  A `Log.Filter` lets records through by their level, and a
`Log.Selection` by whatever it likes.  `Log.Record.written` says how a shown record looks on an output that is no
terminal.
-/

namespace FlashIdent.Log

/-! ### Levels and filters -/

/-- How urgent a record is, the most urgent first. -/
inductive Level where
  | error
  | warn
  | info
  | debug
  | trace
deriving DecidableEq

namespace Level

/-- The place of a level in the order of growing detail. -/
def detail : Level → Nat
  | error => 1
  | warn => 2
  | info => 3
  | debug => 4
  | trace => 5

instance : LE Level := ⟨fun a b => a.detail ≤ b.detail⟩

instance (a b : Level) : Decidable (a ≤ b) := inferInstanceAs (Decidable (a.detail ≤ b.detail))

def name : Level → String
  | error => "ERROR"
  | warn => "WARN"
  | info => "INFO"
  | debug => "DEBUG"
  | trace => "TRACE"

theorem le_trans {a b c : Level} (h₁ : a ≤ b) (h₂ : b ≤ c) : a ≤ c := Nat.le_trans h₁ h₂

end Level

/-- The most detailed level that is let through; `none` lets nothing through. -/
abbrev Filter : Type := Option Level

namespace Filter

def admits : Filter → Level → Bool
  | none, _ => false
  | some most, l => decide (l ≤ most)

@[simp] theorem admits_none (l : Level) : admits none l = false := rfl

@[simp] theorem admits_some (most l : Level) : admits (some most) l = decide (l ≤ most) := rfl

end Filter

/-! ### Records -/

/-- The part of the program that speaks. -/
inductive Source where
  | session
  | identification
  | probe
  | emulator
  | spidev
  | programmers
  | command
deriving DecidableEq

/-- The name under which a part appears in a log line. -/
def Source.path : Source → String
  | .session => "norprobe_core::bus::session"
  | .identification => "norprobe_core::protocol::spi25"
  | .probe => "norprobe_core::probe"
  | .emulator => "norprobe_dummy"
  | .spidev => "norprobe_linux_spi::device"
  | .programmers => "norprobe::programmers"
  | .command => "norprobe::commands::probe"

/-- One thing said to the operator. -/
structure Record where
  level : Level
  source : Source
  text : String
deriving DecidableEq

/-- What a logger lets through by itself: some records, and none that is more detailed than its bound. -/
structure Selection where
  admits : Record → Bool
  bound : Filter
  within : ∀ r : Record, admits r = true → bound.admits r.level = true

/-- The records down to a level, whoever speaks. -/
def Selection.upTo (bound : Filter) : Selection := ⟨fun r => bound.admits r.level, bound, fun _ h => h⟩

/-- The level is padded to five columns. -/
def Record.heading (r : Record) : String :=
  let blanks := String.ofList (List.replicate (5 - r.level.name.length) ' ')
  "[" ++ r.level.name ++ blanks ++ " " ++ r.source.path ++ "] "

/-- Later lines are set in by four columns. -/
def indent (text : List Char) : List Char :=
  text.flatMap fun c => if c = '\n' then ['\n', ' ', ' ', ' ', ' '] else [c]

/-- A record before anything is left out: the heading, the text and a line end. -/
def Record.laidOut (r : Record) : List Char := r.heading.toList ++ indent r.text.toList ++ ['\n']

/-- A shown record.  What a terminal would obey is left out of it; a string to the terminal that the text leaves
open takes the line end with it. -/
def Record.written (r : Record) : String := String.ofList (Text.ControlSequence.strip r.laidOut)

/-- A text of plain characters is written as it is. -/
theorem Record.written_eq_laidOut {r : Record}
    (plain : ∀ c ∈ r.laidOut, Text.ControlSequence.isPlain c) : r.written = String.ofList r.laidOut := by
  rw [written, Text.ControlSequence.strip_eq_self plain]

end FlashIdent.Log
