import FlashIdent.Action

/-!
# Reading options

Options are pairs of a key and a value and are read in order into settings.  An option whose key means nothing
is passed over with a warning; the first option that is wrong ends the reading.
-/

namespace FlashIdent.Programmer

/-- A key and its value; a key without a value has an empty one. -/
abbrev Options : Type := List (String × String)

variable {σ ε α : Type}

/-- Reads options into settings.  `apply` answers nothing for a key that it does not know; `warn` tells of
such a key. -/
def readOptions (apply : α → String → String → Option (Except ε α))
    (warn : String → String → Action σ Unit) : α → Options → Action σ (Except ε α)
  | settings, [] => return .ok settings
  | settings, (key, value) :: rest => do
    match apply settings key value with
    | none =>
      warn key value
      readOptions apply warn settings rest
    | some (.error e) => return .error e
    | some (.ok next) => readOptions apply warn next rest

end FlashIdent.Programmer
