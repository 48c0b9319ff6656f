import FlashIdent.Proofs.Emulator.Histories
import FlashIdent.Proofs.Spidev.Calls
import FlashIdent.Proofs.Spidev.Opening
import FlashIdent.Spidev.Rehearsed

/-!
# Session and transport agree about the hold

Both transports note for themselves whether they are held, and both notes follow the calls.  The emulator lets go
of chip select before it reports the fault of a release, the kernel device clears its flag before it sends the
message that may fail; an acquire that fails by a fault leaves the emulator as it was.  So whatever fails, the
session and its transport never disagree, and giving the session up clears the flag.
-/

namespace FlashIdent

open FlashIdent.Action (run)

namespace Emulator

/-- The event does not acquire or release the bus past the session. -/
def Event.keepsHold : Event → Bool
  | .step _ => true
  | .input i => i.keepsHold

theorem agrees_happen {event : Event} (hkeeps : event.keepsHold) {s : Session Emulator}
    (hs : s.Agrees Emulator.held) : (happen s event).Agrees Emulator.held := by
  cases event with
  | step step => exact holdFlag.agrees_step step hs
  | input i =>
    have hheld : (s.transport.feed i).held = s.transport.held := feed_held s.transport hkeeps
    exact hs.trans hheld.symm

theorem agrees_happenAll {history : List Event} (hkeeps : ∀ event ∈ history, event.keepsHold) :
    ∀ {s : Session Emulator}, s.Agrees Emulator.held → (happenAll s history).Agrees Emulator.held := by
  induction history with
  | nil =>
    intro s hs
    exact hs
  | cons event later ih =>
    intro s hs
    have hfirst := agrees_happen (hkeeps event List.mem_cons_self) hs
    exact ih (fun e he => hkeeps e (List.mem_cons_of_mem event he)) hfirst

end Emulator

/-- Session and transport agree.  Take an emulated bus, on which faults are injected and cleared at any time, or a
device that opened on any kernel, and any session moves that do not acquire or release past the session.  The
session is held exactly while the transport's flag is set; a run that is cut short is a run, so this holds after
every move, whether it succeeded or failed.  Once the session is given up the flag is clear. -/
theorem session_and_transport_agree :
    (∀ (f : Emulator.Flash) (plan : Emulator.FaultPlan) (history : List Emulator.Event),
      (∀ event ∈ history, event.keepsHold) →
      let s := Emulator.happenAll (.start (.start f plan)) history
      s.isHeld = s.transport.held ∧ (run (Session.close Emulator.bus) s).state.transport.held = false) ∧
    (∀ {κ : Type} (k : Spidev.Kernel κ) (kernel : κ) (config : Spidev.Config) (device : Spidev.Device),
      (run (Spidev.openDevice k config) kernel).value = .ok device →
      ∀ ms : List Session.Move, (∀ m ∈ ms, m.keepsHold) →
      let opened : Spidev.Port κ := ⟨device, (run (Spidev.openDevice k config) kernel).state⟩
      let s := (run (Session.moves (Spidev.bus k) ms) (.start opened)).state
      s.isHeld = s.transport.device.held ∧
        (run (Session.close (Spidev.bus k)) s).state.transport.device.held = false) := by
  constructor
  · intro f plan history hkeeps s
    have hagrees : s.Agrees Emulator.held := Emulator.agrees_happenAll hkeeps rfl
    exact ⟨hagrees, Emulator.holdFlag.close_clears hagrees⟩
  · intro κ k kernel config device hopen ms hkeeps opened s
    have hstart : (Session.start opened).Agrees fun p => p.device.held :=
      (Spidev.openDevice_unheld k kernel hopen).symm
    have hagrees := (Spidev.holdFlag k).agrees_moves hkeeps hstart
    exact ⟨hagrees, (Spidev.holdFlag k).close_clears hagrees⟩

/-- An acquire that fails, then one that succeeds, a raw write past the session and a release that fails; and on a
kernel that fails every message a hold that is still open at the end. -/
theorem session_and_transport_agree_when_releases_fail :
    let history : List Emulator.Event :=
      [.input (.fail .acquire .timeout), .step .acquire, .input .clearFaults, .step .acquire,
        .input (.call (.write [0x9f] none)), .input (.fail .release .transport), .step .release]
    let script : Spidev.KernelScript :=
      { openError := fun _ => none, transfers := [.error ⟨5⟩, .error ⟨110⟩, .error ⟨5⟩] }
    let k := Spidev.KernelScript.kernel
    let opening := run (Spidev.openDevice k { device := "/dev/spidev0.0" }) script
    let device : Spidev.Device := { speedHz := 2000000, bufferSize := 4096 }
    let ms : List Session.Move :=
      [.step (.hold [.write [0x9f] none] true), .raw (.read 3 none), .step .acquire]
    let emulated := Emulator.happenAll (.start (.start {} {})) history
    let driven := (run (Session.moves (Spidev.bus k) ms) (.start ⟨device, opening.state⟩)).state
    (∀ event ∈ history, event.keepsHold) ∧ opening.value = .ok device ∧
    (∀ m ∈ ms, m.keepsHold) ∧
    emulated.transport.held = false ∧ driven.isHeld = true ∧ driven.transport.device.held = true ∧
    (run (Session.close (Spidev.bus k)) driven).state.transport.device.held = false := by
  intro history script k opening device ms emulated driven
  have hhistory : ∀ event ∈ history, event.keepsHold := by decide
  have hopen : opening.value = .ok device := rfl
  have hmoves : ∀ m ∈ ms, m.keepsHold := by
    simp [ms, Session.Move.keepsHold]
  obtain ⟨hemulator, hdevice⟩ := session_and_transport_agree
  obtain ⟨hemulated, _⟩ := hemulator {} {} history hhistory
  obtain ⟨hdriven, hclosed⟩ := hdevice k script _ _ hopen ms hmoves
  have hreleased : emulated.isHeld = false := rfl
  have hheld : driven.isHeld = true := rfl
  exact ⟨hhistory, hopen, hmoves, hemulated.symm.trans hreleased, hheld, hdriven.symm.trans hheld, hclosed⟩

end FlashIdent
