import FlashIdent.Text.Column

/-!
# The known programmers

Which programmers there are, under which names they are found, and the list of them that help texts show.
-/

namespace FlashIdent.Programmer

/-- A way to reach a bus. -/
inductive Kind where
  | emulator
  | spidev
deriving DecidableEq

namespace Kind

/-- All programmers in the order in which they are listed. -/
def all : List Kind := [emulator, spidev]

def name : Kind → String
  | emulator => "dummy"
  | spidev => "linux_spi"

def aliases : Kind → List String
  | emulator => []
  | spidev => ["linux-spi", "spidev"]

def description : Kind → String
  | emulator =>
    "Emulated flash chip for testing " ++
      "(mfr=,type=,capacity=,rems=<hex>, absent, fail=<op>:<timeout|transport>)"
  | spidev => "Linux spidev interface (dev=/dev/spidevX.Y,spispeed=<kHz>,mode=<0-3>)"

def find? (name : String) : Option Kind :=
  all.find? fun kind => kind.name == name || kind.aliases.contains name

/-- The entry of a programmer in the list: a line, and a line for other names if there are any. -/
def entry (kind : Kind) : String :=
  "  " ++ Text.Column.left 12 kind.name ++ " - " ++ kind.description ++ "\n" ++
    (if kind.aliases.isEmpty then ""
      else "  " ++ Text.Column.left 12 "" ++ "   aliases: " ++ String.intercalate ", " kind.aliases ++ "\n")

end Kind

def help : String := "Available programmers:\n" ++ String.join (Kind.all.map Kind.entry)

end FlashIdent.Programmer
