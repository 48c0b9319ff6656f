import FlashIdent.Chip.Listing
import FlashIdent.Programmer
import FlashIdent.Probe

/-!
# Commands

What a user can ask for, and how it is done on a kernel.  A command answers the text for the standard output, or
a message when it fails; everything else it has to say goes to the log.
-/

namespace FlashIdent.CommandLine

/-- A command with its options. -/
inductive Command where
  | probe (programmer : String) (remsTimeout jedecTimeout : Option UInt32) (json : Bool)
  | listProgrammers
  | listChips (vendor : Option String)
deriving DecidableEq

variable {σ κ : Type}

def say (level : Log.Level) (text : String) : Action σ Unit := Action.say level .command text

def comment (report : Probe.Report) : Action σ Unit :=
  match report.identity? with
  | none => say .warn "No handshake completed, check wiring and programmer"
  | some identity =>
    if identity.isPresent then say .debug ("Probe result: " ++ identity.text)
    else say .warn "No flash chip answered, check wiring and power"

/-- Probes the chip on a bus, in a session of its own, and answers the written report. -/
def probeBus (bus : Bus σ) (timeouts : Probe.Timeouts) (json : Bool) : Action σ String := fun t =>
  let session : Action (Session σ) String := do
    say .debug ("Probe timeouts: " ++ timeouts.text)
    let report ← Probe.Prober.probe { timeouts := timeouts } bus
    comment report
    Session.close bus
    return report.write json
  let outcome := session.run (Session.start t)
  ⟨outcome.value, outcome.state.transport, outcome.log⟩

/-- Runs an action on an opened backend, with the kernel as the state outside. -/
def attached {α : Type} (backend : Programmer.Backend) (m : Action (Programmer.Attached κ) α) :
    Action κ α :=
  m.within (fun kernel => ⟨backend, kernel⟩) fun a _ => a.kernel

/-- Opens a programmer, probes and gives the programmer up. -/
def probeString (k : Spidev.Kernel κ) (programmer : String) (timeouts : Probe.Timeouts) (json : Bool) :
    Action κ (Except String String) := do
  match ← Programmer.openString k programmer with
  | .error e => return .error e.message
  | .ok backend =>
    attached backend do
      let written ← probeBus (Programmer.Attached.bus k) timeouts json
      Programmer.Attached.close k
      return .ok written

def Command.run (k : Spidev.Kernel κ) : Command → Action κ (Except String String)
  | .probe programmer rems jedec json =>
    probeString k programmer (Probe.Timeouts.withOverrides rems jedec) json
  | .listProgrammers => return .ok Programmer.help
  | .listChips vendor => return .ok (Chip.Table.builtin.listing vendor)

end FlashIdent.CommandLine
