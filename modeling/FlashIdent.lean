import FlashIdent.Bus.Recorded
import FlashIdent.Bus.Rehearsed
import FlashIdent.CommandLine.Program
import FlashIdent.Main
import FlashIdent.Manual
import FlashIdent.Session.Step
import FlashIdent.Spidev.Rehearsed
import FlashIdent.Proofs.Session.Calls
import FlashIdent.Proofs.Session.Lockstep
import FlashIdent.Proofs.Session.Run
import FlashIdent.Proofs.Session.Bracket
import FlashIdent.Proofs.Probe.Handshakes
import FlashIdent.Proofs.Probe.Protocol
import FlashIdent.Proofs.Emulator.Calls
import FlashIdent.Proofs.Emulator.Commands
import FlashIdent.Proofs.Spidev.Calls
import FlashIdent.Proofs.Spidev.Opening
import FlashIdent.Proofs.Spidev.Wired
import FlashIdent.Proofs.Session.Moves
import FlashIdent.Proofs.Spidev.ChipSelect
import FlashIdent.Proofs.Emulator.Histories
import FlashIdent.Proofs.Emulator.Stream
import FlashIdent.Proofs.Emulator.Probing
import FlashIdent.Proofs.Probe.Interference
import FlashIdent.Proofs.Identity.Lines
import FlashIdent.Proofs.Probe.PlainText
import FlashIdent.Proofs.Session.HoldAgreement
import FlashIdent.Proofs.CommandLine.Verbosity
import FlashIdent.Proofs.CommandLine.StandardError
import FlashIdent.Proofs.Emulator.OpenFrame
import FlashIdent.Proofs.Programmer.Spelling
import FlashIdent.Proofs.Text.Numeral
import FlashIdent.Proofs.Emulator.OptionMeaning
import FlashIdent.Proofs.Programmer.EmulatorString
import FlashIdent.Proofs.Programmer.RoundTrip
import FlashIdent.Proofs.Session.Transfers
import FlashIdent.Proofs.Session.Lengths
import FlashIdent.Proofs.Spidev.Transactions
import FlashIdent.Proofs.Text.Positional
import FlashIdent.Proofs.CommandLine.Numbers
import FlashIdent.Proofs.Spidev.OptionMeaning
import FlashIdent.Proofs.Chip.Advertised
import FlashIdent.Proofs.Probe.GrownTable
import FlashIdent.Proofs.Probe.VendorAgreement
import FlashIdent.Proofs.Probe.JsonReport
import FlashIdent.Proofs.Chip.Filter
import FlashIdent.Proofs.Emulator.LastFault
import FlashIdent.Proofs.Chip.Printed
import FlashIdent.Proofs.Files.Pages
