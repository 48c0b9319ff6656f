import FlashIdent.Proofs.Session.Transfers
import FlashIdent.Proofs.Spidev.Calls
import FlashIdent.Spidev.Rehearsed

/-!
# Transactions on a kernel SPI device

A transfer through a session is refused in two places.  The session refuses to transfer nothing, and the device
refuses what is larger than the kernel's buffer; both say that the argument is invalid.  A refused transfer leaves
no trace at the kernel and none in the session.

Every other transfer is one ioctl, whether it succeeds or not.  The kernel's failures are never mistaken for a
refusal, and its success brings as many bytes as were asked for: the ones it stored, then zeros.  The release of
a held bus is one ioctl as well, and it has no bytes.
-/

namespace FlashIdent.Spidev

open FlashIdent.Action (run)

variable {κ : Type}

/-! ### Accepted messages -/

/-- The port once the kernel has been asked for a transfer. -/
def Port.messaged (k : Kernel κ) (p : Port (RecordedKernel κ)) (t : Transfer) : Port (RecordedKernel κ) :=
  { p with kernel := ⟨(k.transfer t p.kernel.kernel).2, p.kernel.ioctls ++ [.message t]⟩ }

theorem after_of_fitting (k : Kernel κ) {call : Call} (p : Port (RecordedKernel κ)) {r : Request}
    (hrequest : call.request? = some r) (hfits : ¬ p.device.bufferSize < call.size) :
    (bus k.recorded).after call p = (p.flagged call).messaged k (r.transfer (p.flagged call).device) := by
  have hfits' : ¬ (p.flagged call).device.bufferSize < r.length := length_of_request_eq_some hrequest ▸ hfits
  rw [after_of_request_eq_some k.recorded p hrequest, send_state, if_neg hfits']
  rfl

theorem concluded_ne_invalidArgument (call : Call) (told : Except Errno Bytes) :
    concluded call told ≠ .error .invalidArgument := by
  rcases told with cause | stored
  · by_cases htimeout : cause = Errno.timedOut
    · simp [concluded, htimeout]
    · simp [concluded, htimeout]
  · simp [concluded]

/-! ### Transfers -/

theorem flagged_transfer {call : Call} (htransfer : call.isTransfer) (p : Port κ) : p.flagged call = p := by
  cases call with
  | acquire => cases htransfer
  | release => cases htransfer
  | write data timeout => rfl
  | read length timeout => rfl
  | writeRead data timeout => rfl

theorem exists_request {call : Call} (htransfer : call.isTransfer) : ∃ r, call.request? = some r := by
  cases call with
  | acquire => cases htransfer
  | release => cases htransfer
  | write data timeout => exact ⟨_, rfl⟩
  | read length timeout => exact ⟨_, rfl⟩
  | writeRead data timeout => exact ⟨_, rfl⟩

theorem bind_check_concluded (call : Call) (told : Except Errno Bytes) :
    (concluded call told).bind call.check = concluded call told := by
  rcases told with cause | stored
  · rfl
  · exact call.check_eq_ok_iff.mpr ⟨rfl, call.fits_answerOf (length_receiveBuffer call.size stored)⟩

/-- Transfers of nothing, and those that are larger than what may be moved at once. -/
def Refused (limit : Nat) (call : Call) : Prop := call.size = 0 ∨ limit < call.size

instance (limit : Nat) (call : Call) : Decidable (Refused limit call) := inferInstanceAs (Decidable (_ ∨ _))

theorem perform_refused (k : Kernel κ) {call : Call} (htransfer : call.isTransfer) {s : Session (Port κ)}
    (hrefused : Refused s.transport.device.bufferSize call) :
    (run (Session.perform (bus k) call) s).value = .error .invalidArgument ∧
    (run (Session.perform (bus k) call) s).state = s := by
  rcases hrefused with hempty | hlarge
  · rw [Session.perform_empty (bus k) htransfer hempty]
    exact ⟨rfl, rfl⟩
  · have hsize : call.size ≠ 0 := by omega
    obtain ⟨r, hrequest⟩ := exists_request htransfer
    obtain ⟨hvalue, hstate⟩ := Session.perform_transfer (bus k) htransfer hsize s
    constructor
    · rw [hvalue, reply_of_too_large k s.transport hrequest hlarge]
      rfl
    · rw [hstate, after_of_too_large k s.transport hrequest hlarge, flagged_transfer htransfer]

theorem perform_accepted (k : Kernel κ) {call : Call} (htransfer : call.isTransfer)
    {s : Session (Port (RecordedKernel κ))} (hword : s.transport.device.bufferSize < 4294967296)
    (haccepted : ¬ Refused s.transport.device.bufferSize call) :
    ∃ r, call.request? = some r ∧ r.length = call.size ∧
      (r.transfer s.transport.device).length.toNat = r.length ∧
      (run (Session.perform (bus k.recorded) call) s).value =
        concluded call (k.transfer (r.transfer s.transport.device) s.transport.kernel.kernel).1 ∧
      (run (Session.perform (bus k.recorded) call) s).state =
        ⟨s.hold, s.transport.messaged k (r.transfer s.transport.device)⟩ := by
  obtain ⟨hsize, hfits⟩ := not_or.mp haccepted
  obtain ⟨r, hrequest⟩ := exists_request htransfer
  have hlength : r.length = call.size := length_of_request_eq_some hrequest
  obtain ⟨hvalue, hstate⟩ := Session.perform_transfer (bus k.recorded) htransfer hsize s
  refine ⟨r, hrequest, hlength, toNat_length_transfer (by omega) _, ?_, ?_⟩
  · rw [hvalue, reply_of_fitting k.recorded s.transport hrequest hfits, flagged_transfer htransfer,
      bind_check_concluded]
    rfl
  · rw [hstate, after_of_fitting k s.transport hrequest hfits, flagged_transfer htransfer]

/-! ### One ioctl or none -/

/-- What is left when a transfer has been made through a session on a kernel that records its ioctls, with a device
that moves up to a limit of bytes at once. -/
structure Transacted (k : Kernel κ) (limit : Nat) (call : Call) (s : Session (Port (RecordedKernel κ)))
    (outcome : Outcome (Session (Port (RecordedKernel κ))) (Reply call)) : Prop where
  /-- The argument is invalid exactly if the transfer is refused for its size, -/
  invalid : outcome.value = .error .invalidArgument ↔ Refused limit call
  /-- and exactly then there is no ioctl. -/
  silent : outcome.state.transport.kernel.ioctls = s.transport.kernel.ioctls ↔ Refused limit call
  unchanged : Refused limit call → outcome.state = s
  /-- Otherwise there is one message.  It has the bytes of the call, a receive buffer if the call is to bring
  something back, and the whole length, and what the kernel makes of it is what is answered. -/
  message : ¬ Refused limit call → ∃ t : Transfer,
    call.request? = some ⟨t.tx, t.rx, call.size⟩ ∧ t.length.toNat = call.size ∧
    outcome.value = concluded call (k.transfer t s.transport.kernel.kernel).1 ∧
    outcome.state = ⟨s.hold, s.transport.messaged k t⟩

/-- What is left when a held bus has been released: there is one message with no bytes, which does not ask for chip
select, and the bus is not held any more, whatever the kernel makes of the message. -/
def LetGo (k : Kernel κ) (s : Session (Port (RecordedKernel κ)))
    (outcome : Outcome (Session (Port (RecordedKernel κ))) (Reply .release)) : Prop :=
  ∃ t : Transfer,
    t.tx = none ∧ t.rx = false ∧ t.length = 0 ∧ t.csChange = 0 ∧
    outcome.value = concluded .release (k.transfer t s.transport.kernel.kernel).1 ∧
    outcome.state = ⟨.released, (s.transport.flagged .release).messaged k t⟩

/-- Every length that the device moves at once has to fit into the length field. -/
theorem transacted (k : Kernel κ) {call : Call} (htransfer : call.isTransfer)
    {s : Session (Port (RecordedKernel κ))} (hword : s.transport.device.bufferSize < 4294967296) :
    Transacted k s.transport.device.bufferSize call s (run (Session.perform (bus k.recorded) call) s) := by
  by_cases hrefused : Refused s.transport.device.bufferSize call
  · obtain ⟨hvalue, hstate⟩ := perform_refused k.recorded htransfer hrefused
    exact {
      invalid := ⟨fun _ => hrefused, fun _ => hvalue⟩
      silent := ⟨fun _ => hrefused, fun _ => by rw [hstate]⟩
      unchanged := fun _ => hstate
      message := fun haccepted => absurd hrefused haccepted }
  · obtain ⟨r, hrequest, hlength, hfield, hvalue, hstate⟩ := perform_accepted k htransfer hword hrefused
    have hvalid : (run (Session.perform (bus k.recorded) call) s).value ≠ .error .invalidArgument := by
      rw [hvalue]
      exact concluded_ne_invalidArgument call _
    have hioctl : (run (Session.perform (bus k.recorded) call) s).state.transport.kernel.ioctls ≠
        s.transport.kernel.ioctls := by
      rw [hstate]
      simp [Port.messaged]
    exact {
      invalid := ⟨fun h => absurd h hvalid, fun h => absurd h hrefused⟩
      silent := ⟨fun h => absurd h hioctl, fun h => absurd h hrefused⟩
      unchanged := fun h => absurd h hrefused
      message := fun _ =>
        ⟨r.transfer s.transport.device, by rw [hrequest, ← hlength]; rfl, hfield.trans hlength, hvalue, hstate⟩ }

theorem letGo_of_held (k : Kernel κ) {s : Session (Port (RecordedKernel κ))} (hheld : s.hold = .held) :
    LetGo k s (run (Session.release (bus k.recorded)) s) := by
  obtain ⟨hold, p⟩ := s
  obtain rfl : hold = .held := hheld
  obtain ⟨hvalue, hstate⟩ := Session.release_held (bus k.recorded) p
  have hfits : ¬ p.device.bufferSize < Call.release.size := Nat.not_lt_zero _
  refine ⟨Request.transfer ⟨none, false, 0⟩ (p.flagged .release).device, rfl, rfl, rfl, rfl, ?_, ?_⟩
  · rw [hvalue, reply_of_fitting k.recorded p rfl hfits]
    rfl
  · rw [hstate, after_of_fitting k p rfl hfits]

/-- On any kernel and in any state, held or not, a transfer on a device that moves up to 4096 bytes at once is one
ioctl or refused, and a release is one ioctl on any device. -/
theorem one_ioctl_or_none (k : Kernel κ) (s : Session (Port (RecordedKernel κ))) :
    (s.transport.device.bufferSize = 4096 →
      ∀ call : Call, call.isTransfer →
        Transacted k 4096 call s (run (Session.perform (bus k.recorded) call) s)) ∧
    (s.hold = .held → LetGo k s (run (Session.release (bus k.recorded)) s)) := by
  constructor
  · intro hlimit call htransfer
    have hword : s.transport.device.bufferSize < 4294967296 := by omega
    exact hlimit ▸ transacted k htransfer hword
  · exact letGo_of_held k

/-- Under a hold: a time-out of the kernel, an answer that it cuts short, a transfer that is too large, and a release
that the kernel refuses. -/
theorem one_ioctl_or_none_of_script :
    let device : Device := { speedHz := 2000000, bufferSize := 4096, held := true }
    let s (told : Except Errno Bytes) : Session (Port (RecordedKernel KernelScript)) :=
      ⟨.held, ⟨device, .start { openError := fun _ => none, transfers := [told] }⟩⟩
    let k := KernelScript.kernel
    let read (told : Except Errno Bytes) (length : Nat) :=
      run (Session.perform (bus k.recorded) (.read length none)) (s told)
    (read (.error ⟨110⟩) 3).value = .error .timeout ∧
    (read (.ok [1, 2]) 3).value = .ok [1, 2, 0] ∧
    (read (.ok [1, 2]) 3).state.transport.kernel.ioctls ≠ [] ∧
    (read (.ok []) 4097).value = .error .invalidArgument ∧
    (read (.ok []) 4097).state.transport.kernel.ioctls = [] ∧
    LetGo k (s (.error ⟨5⟩)) (run (Session.release (bus k.recorded)) (s (.error ⟨5⟩))) := by
  intro device s k read
  have htransacted : ∀ told length, Transacted k 4096 (.read length none) (s told) (read told length) :=
    fun told length => (one_ioctl_or_none k (s told)).1 rfl (.read length none) rfl
  have haccepted : ¬ Refused 4096 (.read 3 none) := by decide
  have hrefused : Refused 4096 (.read 4097 none) := Or.inr (by decide)
  obtain ⟨_, -, -, htimeout, -⟩ := (htransacted (.error ⟨110⟩) 3).message haccepted
  obtain ⟨_, -, -, hshort, -⟩ := (htransacted (.ok [1, 2]) 3).message haccepted
  exact ⟨htimeout, hshort, fun h => haccepted ((htransacted (.ok [1, 2]) 3).silent.mp h),
    (htransacted (.ok []) 4097).invalid.mpr hrefused, (htransacted (.ok []) 4097).silent.mpr hrefused,
    (one_ioctl_or_none k (s (.error ⟨5⟩))).2 rfl⟩

end FlashIdent.Spidev
