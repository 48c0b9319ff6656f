import FlashIdent.Proofs.Session.Bracket
import FlashIdent.Proofs.Session.Moves
import FlashIdent.Proofs.Spidev.Calls
import FlashIdent.Proofs.Spidev.Opening
import FlashIdent.Spidev.Rehearsed

/-!
# A kernel SPI device does not leave chip select asserted

The kernel keeps chip select asserted after a message that asks for it, so what counts is the last message.
The device has one flag for it.  A call sets the flag first and sends its message then, if it sends one, and
no call clears the flag without a message: `Signals` says this of a call, and of giving the device up.

From this alone the last message asks for nothing whenever the flag is clear, in every order of calls, raw ones
included and whether messages fail or are too large to be sent.  Without raw calls the flag also agrees with
the session, so each empty message is the release of one hold, and there is nothing left to do for the device.
-/

namespace FlashIdent.Spidev

open FlashIdent.Action (run)

variable {κ : Type}

/-! ### Messages that are recorded -/

theorem ioctls_send (k : Kernel κ) (r : Request) (p : Port (RecordedKernel κ)) :
    (run (r.send k.recorded) p).state.kernel.ioctls =
      if p.device.bufferSize < r.length then p.kernel.ioctls
      else p.kernel.ioctls ++ [.message (r.transfer p.device)] := by
  rw [send_state]
  split
  · rfl
  · rfl

theorem transfers_of_ioctls {r s : RecordedKernel κ} {t : Transfer}
    (h : s.ioctls = r.ioctls ++ [.message t]) : s.transfers = r.transfers ++ [t] := by
  rw [RecordedKernel.transfers, h, List.filterMap_append]
  rfl

/-! ### What calls signal -/

/-- How a port gets from one state to another: without a message, and then the flag is not cleared, or by one
message, which asks for chip select to stay asserted exactly if the flag is set at that moment. -/
inductive Signals (k : Kernel κ) (p q : Port (RecordedKernel κ)) : Prop
  | silent (hkernel : q.kernel = p.kernel) (hflag : q.device.held = false → p.device.held = false)
  | message (moment : Port (RecordedKernel κ)) (r : Request) (hbefore : moment.kernel = p.kernel)
      (hafter : q = (run (r.send k.recorded) moment).state)
      (hsent : q.kernel.ioctls = p.kernel.ioctls ++ [.message (r.transfer moment.device)])
      (hkeep : (r.transfer moment.device).csChange = 1 ↔ moment.device.held = true)

/-- The call has no message, or one that is too large to be sent. -/
def Mute (limit : Nat) (call : Call) : Prop := ∀ r, call.request? = some r → limit < r.length

/-- The message of a release fits into any buffer. -/
theorem not_mute_release (limit : Nat) : ¬ Mute limit .release :=
  fun hmute => Nat.not_lt_zero limit (hmute _ rfl)

theorem after_of_mute (k : Kernel κ) {call : Call} {p : Port κ} (hmute : Mute p.device.bufferSize call) :
    (bus k).after call p = p.flagged call := by
  rcases hrequest : call.request? with _ | r
  · exact after_of_request_eq_none k p hrequest
  · exact after_of_too_large k p hrequest (length_of_request_eq_some hrequest ▸ hmute r hrequest)

/-- Only a release clears the flag, and its message is never too large. -/
theorem flag_of_mute {limit : Nat} {call : Call} (hmute : Mute limit call) {held : Bool}
    (hclear : call.flag held = false) : held = false := by
  cases call with
  | acquire => cases hclear
  | release => exact absurd hmute (not_mute_release limit)
  | write data timeout => exact hclear
  | read length timeout => exact hclear
  | writeRead data timeout => exact hclear

theorem sends_of_not_mute (k : Kernel κ) {call : Call} {p : Port (RecordedKernel κ)}
    (hloud : ¬ Mute p.device.bufferSize call) :
    ∃ r, call.request? = some r ∧
      (bus k.recorded).after call p = (run (r.send k.recorded) (p.flagged call)).state ∧
      ((bus k.recorded).after call p).kernel.ioctls =
        p.kernel.ioctls ++ [.message (r.transfer (p.flagged call).device)] := by
  obtain ⟨r, hsized⟩ := Classical.not_forall.mp hloud
  obtain ⟨hrequest, hfits⟩ := Classical.not_imp.mp hsized
  have hafter := after_of_request_eq_some k.recorded p hrequest
  have hfits' : ¬ (p.flagged call).device.bufferSize < r.length := hfits
  refine ⟨r, hrequest, hafter, ?_⟩
  rw [hafter, ioctls_send, if_neg hfits']
  rfl

theorem signals_after (k : Kernel κ) (call : Call) (p : Port (RecordedKernel κ)) :
    Signals k p ((bus k.recorded).after call p) := by
  by_cases hmute : Mute p.device.bufferSize call
  · rw [after_of_mute k.recorded hmute]
    exact Signals.silent rfl (flag_of_mute hmute)
  · obtain ⟨r, _, hafter, hsent⟩ := sends_of_not_mute k hmute
    exact Signals.message (p.flagged call) r rfl hafter hsent (csChange_eq_one_iff _ r)

theorem close_held (k : Kernel κ) {p : Port κ} (hheld : p.device.held = true) :
    (run (close k) p).state = (bus k).after .release p := by
  rcases hreply : (run (release k) p).value with e | ⟨⟩
  · simp [close, hheld, hreply, Bus.after, bus, say]
  · simp [close, hheld, hreply, Bus.after, bus]

theorem close_released (k : Kernel κ) {p : Port κ} (hheld : p.device.held = false) :
    (run (close k) p).state = p := by
  simp [close, hheld]

theorem signals_close (k : Kernel κ) (p : Port (RecordedKernel κ)) :
    Signals k p (run (close k.recorded) p).state := by
  rcases hheld : p.device.held with _ | _
  · rw [close_released k.recorded hheld]
    exact Signals.silent rfl (fun hclear => hclear)
  · rw [close_held k.recorded hheld]
    exact signals_after k .release p

theorem close_clears (k : Kernel κ) (p : Port κ) : (run (close k) p).state.device.held = false := by
  rcases hheld : p.device.held with _ | _
  · rw [close_released k hheld]
    exact hheld
  · rw [close_held k hheld, after_device]
    rfl

/-! ### The last message -/

/-- While the flag is clear, the last message does not ask for chip select to stay asserted. -/
def LastLetsGo (p : Port (RecordedKernel κ)) : Prop :=
  p.device.held = false → ∀ t ∈ p.kernel.transfers.getLast?, t.csChange = 0

theorem Signals.lastLetsGo {k : Kernel κ} {p q : Port (RecordedKernel κ)} (h : Signals k p q)
    (hlast : LastLetsGo p) : LastLetsGo q := by
  intro hclear t ht
  cases h with
  | silent hkernel hflag =>
    rw [hkernel] at ht
    exact hlast (hflag hclear) t ht
  | message moment r hbefore hafter hsent hkeep =>
    have hmoment : moment.device.held = false := by
      rw [← send_device k.recorded r moment, ← hafter]
      exact hclear
    rw [transfers_of_ioctls hsent, List.getLast?_concat] at ht
    obtain rfl : r.transfer moment.device = t := Option.some.inj ht
    simp [Request.transfer, Device.transfer, hmoment]

theorem preserves_lastLetsGo (k : Kernel κ) : Preserves (bus k.recorded) LastLetsGo := by
  intro call p hlast
  exact (signals_after k call p).lastLetsGo hlast

/-! ### Empty messages -/

/-- A message that moves nothing, as a release sends it. -/
def Transfer.isEmpty (t : Transfer) : Bool := decide (t.tx = none ∧ t.rx = false ∧ t.length = 0)

theorem isEmpty_transfer {call : Call} {r : Request} (hrequest : call.request? = some r) (d : Device) :
    (r.transfer d).isEmpty = decide (call = .release) := by
  cases call with
  | acquire => cases hrequest
  | release =>
    cases hrequest
    rfl
  | write data timeout =>
    cases hrequest
    rfl
  | read length timeout =>
    cases hrequest
    rfl
  | writeRead data timeout =>
    cases hrequest
    rfl

theorem countP_isEmpty_after (k : Kernel κ) (call : Call) (p : Port (RecordedKernel κ)) :
    ((bus k.recorded).after call p).kernel.transfers.countP Transfer.isEmpty =
      p.kernel.transfers.countP Transfer.isEmpty + if call = .release then 1 else 0 := by
  by_cases hmute : Mute p.device.bufferSize call
  · have hrelease : call ≠ .release := by
      rintro rfl
      exact absurd hmute (not_mute_release _)
    rw [after_of_mute k.recorded hmute, if_neg hrelease]
    rfl
  · obtain ⟨r, hrequest, _, hsent⟩ := sends_of_not_mute k hmute
    rw [transfers_of_ioctls hsent, List.countP_append, List.countP_singleton, isEmpty_transfer hrequest]
    simp

/-- Whoever makes the calls, every release is one empty message and nothing else is. -/
theorem preserves_isEmpty (k : Kernel κ) :
    Preserves (bus k.recorded).recorded fun r =>
      r.bus.kernel.transfers.countP Transfer.isEmpty = r.exchanges.countP Exchange.closes := by
  intro call r h
  have hexchanges : ((bus k.recorded).recorded.after call r).exchanges.countP Exchange.closes =
      r.exchanges.countP Exchange.closes + if call = .release then 1 else 0 := by
    refine List.countP_append.trans ?_
    simp [Exchange.closes]
  have hsent := countP_isEmpty_after k call r.bus
  rw [hexchanges, ← h]
  exact hsent

/-! ### Without raw calls -/

/-- A session that was given up has as many releases behind it as acquires that succeeded, and leaves the flag
clear. -/
theorem settled_without_raw (k : Kernel κ) (opened : Port (RecordedKernel κ))
    (hopened : opened.device.held = false) (ss : List Session.Step) :
    let used := (run (Session.steps (bus k.recorded).recorded ss) (.start (.start opened))).state
    let dropped := (run (Session.close (bus k.recorded).recorded) used).state.transport
    dropped.exchanges.countP Exchange.opens = dropped.exchanges.countP Exchange.closes ∧
    dropped.bus.device.held = false := by
  intro used dropped
  constructor
  · have hstart : Tracked .released (.start opened : Recorded (Port (RecordedKernel κ))) :=
      ⟨Bracketed.nil, rfl⟩
    have hrun := (tracked_invariant (bus k.recorded)).steps ss (.start (.start opened)) hstart
    obtain ⟨_, hcount⟩ := (tracked_invariant (bus k.recorded)).close hrun
    have hnone : openHolds dropped.exchanges = 0 := hcount
    unfold openHolds at hnone
    omega
  · have hflag := (holdFlag k.recorded).recorded.invariant
    exact hflag.close (hflag.steps ss (.start (.start opened)) hopened)

/-! ### From the opening to the end -/

theorem openDevice_quiet (k : Kernel κ) (s : κ) {config : Config} {device : Device}
    (hopen : (run (openDevice k.recorded config) (.start s)).value = .ok device) :
    (run (openDevice k.recorded config) (.start s)).state.transfers = [] ∧ device.held = false := by
  have hfile : ∀ path (r : RecordedKernel κ), r.transfers = [] →
      (k.recorded.openFile path r).2.transfers = [] := by
    intro path r hquiet
    exact hquiet
  have hset : ∀ setting (r : RecordedKernel κ), r.transfers = [] →
      (k.recorded.set setting r).2.transfers = [] := by
    intro setting r hquiet
    have happend : (k.recorded.set setting r).2.transfers = r.transfers ++ [] := List.filterMap_append
    rw [happend, hquiet]
    rfl
  obtain ⟨hquiet, hdevice⟩ := openDevice_keeps hfile hset config (.start s) rfl
  refine ⟨hquiet, ?_⟩
  rw [hdevice device hopen]

/-- All the messages that a transport has sent since it was opened.  None was sent before, and each call that is
on record signals, from where the calls before it had led. -/
structure SignalsThroughout (k : Kernel κ) (opened : Port (RecordedKernel κ))
    (r : Recorded (Port (RecordedKernel κ))) : Prop where
  quiet : opened.kernel.transfers = []
  replayed : r.bus = (bus k.recorded).replay r.calls opened
  signals : ∀ before call, before ++ [call] <+: r.calls →
    Signals k ((bus k.recorded).replay before opened) ((bus k.recorded).replay (before ++ [call]) opened)

/-- Chip select is never left asserted.  Take any kernel, any device that opens on it and any moves, raw calls
included, and then give up the session and the device.  Every message asks for chip select to stay asserted
exactly if the flag is set when it is sent, and the last message does not ask for it.  If there were no raw
calls, the empty messages are as many as the acquires that succeeded, and giving up the device does nothing. -/
theorem chip_select_let_go (k : Kernel κ) (s : κ) {config : Config} {device : Device}
    (hopen : (run (openDevice k.recorded config) (.start s)).value = .ok device)
    (ms : List Session.Move) :
    let opened : Port (RecordedKernel κ) :=
      ⟨device, (run (openDevice k.recorded config) (.start s)).state⟩
    let used := (run (Session.moves (bus k.recorded).recorded ms) (.start (.start opened))).state
    let dropped := (run (Session.close (bus k.recorded).recorded) used).state.transport
    let gone := (run (close k.recorded) dropped.bus).state
    SignalsThroughout k opened dropped ∧ Signals k dropped.bus gone ∧
    (∀ t ∈ gone.kernel.transfers.getLast?, t.csChange = 0) ∧
    ∀ ss : List Session.Step, ms = ss.map .step →
      dropped.bus.kernel.transfers.countP Transfer.isEmpty = dropped.exchanges.countP Exchange.opens ∧
      gone = dropped.bus := by
  intro opened used dropped gone
  obtain ⟨hquiet, hflag⟩ := openDevice_quiet k s hopen
  -- what every call preserves reaches the end of the session
  have hdropped : ∀ {holds : Recorded (Port (RecordedKernel κ)) → Prop},
      Preserves (bus k.recorded).recorded holds → holds (.start opened) → holds dropped := by
    intro holds hpreserves hstart
    have hused : holds used.transport := hpreserves.moves ms hstart
    exact hpreserves.invariant.close hused
  have hempty := hdropped (preserves_isEmpty k) (congrArg (List.countP Transfer.isEmpty) hquiet)
  refine ⟨⟨hquiet, ?_, ?_⟩, signals_close k dropped.bus, ?_, ?_⟩
  · exact hdropped (preserves_replay (bus k.recorded) opened) rfl
  · intro before call _
    rw [replay_concat]
    exact signals_after k call _
  · have hstart : LastLetsGo opened := by
      intro _ t ht
      rw [show opened.kernel.transfers = [] from hquiet] at ht
      cases ht
    have hlast : LastLetsGo dropped.bus := hdropped (preserves_lastLetsGo k).recorded hstart
    exact (signals_close k dropped.bus).lastLetsGo hlast (close_clears k.recorded dropped.bus)
  · rintro ss rfl
    have hsteps : used = (run (Session.steps (bus k.recorded).recorded ss) (.start (.start opened))).state :=
      Session.moves_map_step _ ss _
    obtain ⟨hopens, hclear⟩ := settled_without_raw k opened hflag ss
    rw [← hsteps] at hopens hclear
    constructor
    · exact hempty.trans hopens.symm
    · exact close_released k.recorded hclear

/-- With a buffer of one large page: a session is given up with the bus, a scoped hold stops at a read that is too
large, and both releases fail. -/
theorem chip_select_let_go_of_failing_messages :
    let k : Kernel KernelScript := KernelScript.kernel
    let script : KernelScript :=
      { openError := fun _ => none, transfers := [.ok [], .error ⟨5⟩, .error ⟨110⟩], pageSize := 65536 }
    let device : Device := { speedHz := 2000000, bufferSize := 65536 }
    let opening := run (openDevice k.recorded { device := "/dev/spidev0.0" }) (.start script)
    let opened : Port (RecordedKernel KernelScript) := ⟨device, opening.state⟩
    let ss : List Session.Step :=
      [.acquire, .write [0x9f] none, .renew, .hold [.read 65537 none, .read 3 none] true, .read 3 none]
    let used := (run (Session.moves (bus k.recorded).recorded (ss.map .step)) (.start (.start opened))).state
    let dropped := (run (Session.close (bus k.recorded).recorded) used).state.transport
    let gone := (run (close k.recorded) dropped.bus).state
    opening.value = .ok device ∧
    gone.kernel.transfers.map Transfer.csChange = [1, 0, 0, 0] ∧
    (∀ t ∈ gone.kernel.transfers.getLast?, t.csChange = 0) ∧
    dropped.exchanges.countP Exchange.opens = 2 ∧
    dropped.bus.kernel.transfers.countP Transfer.isEmpty = 2 ∧ gone = dropped.bus := by
  intro k script device
  have hopen : (run (openDevice k.recorded { device := "/dev/spidev0.0" }) (.start script)).value = .ok device :=
    rfl
  obtain ⟨_, _, hlast, hsteps⟩ := chip_select_let_go k script hopen _
  obtain ⟨hempty, hgone⟩ := hsteps _ rfl
  refine ⟨hopen, ?flags, hlast, ?opens, hempty.trans ?opens, hgone⟩
  case flags => decide +kernel
  case opens => decide +kernel

end FlashIdent.Spidev
