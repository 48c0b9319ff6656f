import FlashIdent.Proofs.Session.HoldFlag
import FlashIdent.Spidev.Device

/-!
# What bus calls do to a kernel SPI device

An acquire only sets the device's hold flag.  Every other call is one message: a release clears the flag and
sends an empty one, a transfer leaves the flag alone.  So a call is told by two things, the flag that it sets
and the message that it asks for, and what it does follows from what `message` does.

A message reaches the kernel unless it is larger than what was found out about the kernel's buffer when the device
was opened.  It carries the flag as it is then.
-/

namespace FlashIdent

open FlashIdent.Action (run)

/-! ### The message of a call -/

/-- What a message is to move: the bytes to send, if any, whether bytes are received, and how many. -/
structure Spidev.Request where
  tx : Option Bytes
  rx : Bool
  length : Nat

def Call.request? : Call → Option Spidev.Request
  | .acquire => none
  | .release => some ⟨none, false, 0⟩
  | .write data _ => some ⟨some data, false, data.length⟩
  | .read length _ => some ⟨none, true, length⟩
  | .writeRead data _ => some ⟨some data, true, data.length⟩

/-- The hold flag as a call sets it, before any message. -/
def Call.flag (held : Bool) : Call → Bool
  | .acquire => true
  | .release => false
  | .write _ _ => held
  | .read _ _ => held
  | .writeRead _ _ => held

namespace Spidev

variable {κ : Type}

@[simp] theorem run_ask {α : Type} (request : κ → Except Errno α × κ) (failure : Errno → Error) (s : κ) :
    run (ask request failure) s = ⟨(request s).1.mapError failure, (request s).2, []⟩ := rfl

/-- The port at the moment of a call's message. -/
def Port.flagged (p : Port κ) (call : Call) : Port κ :=
  { p with device := { p.device with held := call.flag p.device.held } }

def Request.send (r : Request) (k : Kernel κ) : Action (Port κ) (Except Error Bytes) :=
  message k r.tx r.rx r.length

def Request.transfer (r : Request) (d : Device) : Transfer := d.transfer r.tx r.rx r.length

/-- The kernel is asked to keep chip select asserted exactly while the device is held. -/
theorem csChange_eq_one_iff (d : Device) (r : Request) :
    (r.transfer d).csChange = 1 ↔ d.held = true := by
  rcases hheld : d.held with _ | _
  · simp [Request.transfer, Device.transfer, hheld]
  · simp [Request.transfer, Device.transfer, hheld]

/-- The length field has 32 bits; a length within them is not cut down. -/
theorem toNat_length_transfer {r : Request} (hlength : r.length < 4294967296) (d : Device) :
    (r.transfer d).length.toNat = r.length := by
  show (UInt32.ofNat r.length).toNat = r.length
  rw [UInt32.toNat_ofNat']
  exact Nat.mod_eq_of_lt hlength

theorem send_state (k : Kernel κ) (r : Request) (p : Port κ) :
    (run (r.send k) p).state =
      if p.device.bufferSize < r.length then p
      else { p with kernel := (k.transfer (r.transfer p.device) p.kernel).2 } := by
  by_cases hlarge : p.device.bufferSize < r.length
  · simp [Request.send, message, hlarge]
  · simp [Request.send, message, hlarge, Request.transfer]

theorem send_value (k : Kernel κ) (r : Request) (p : Port κ) :
    (run (r.send k) p).value =
      if p.device.bufferSize < r.length then .error (.transferTooLarge r.length p.device.bufferSize)
      else ((k.transfer (r.transfer p.device) p.kernel).1.mapError .transferFailed).map
        (receiveBuffer r.length) := by
  by_cases hlarge : p.device.bufferSize < r.length
  · simp [Request.send, message, hlarge]
  · simp [Request.send, message, hlarge, Request.transfer]

theorem send_device (k : Kernel κ) (r : Request) (p : Port κ) :
    (run (r.send k) p).state.device = p.device := by
  rw [send_state]
  split <;> rfl

/-! ### Calls -/

theorem after_of_request_eq_none (k : Kernel κ) {call : Call} (p : Port κ)
    (hrequest : call.request? = none) : (bus k).after call p = p.flagged call := by
  cases call with
  | acquire => rfl
  | release => cases hrequest
  | write data timeout => cases hrequest
  | read length timeout => cases hrequest
  | writeRead data timeout => cases hrequest

theorem after_of_request_eq_some (k : Kernel κ) {call : Call} (p : Port κ) {r : Request}
    (hrequest : call.request? = some r) :
    (bus k).after call p = (run (r.send k) (p.flagged call)).state := by
  cases call with
  | acquire => cases hrequest
  | release => cases hrequest; rfl
  | write data timeout => cases hrequest; rfl
  | read length timeout => cases hrequest; rfl
  | writeRead data timeout => cases hrequest; rfl

/-- Whatever a call does, it leaves the flag as it set it. -/
theorem after_device (k : Kernel κ) (call : Call) (p : Port κ) :
    ((bus k).after call p).device = (p.flagged call).device := by
  rcases hrequest : call.request? with _ | r
  · rw [after_of_request_eq_none k p hrequest]
  · rw [after_of_request_eq_some k p hrequest, send_device]

/-- An acquire sets the flag and does not fail, a release clears it before its message, and transfers leave it. -/
theorem holdFlag (k : Kernel κ) : HoldFlag (bus k) fun p => p.device.held where
  acquire _ := rfl
  release p := congrArg Device.held (after_device k .release p)
  transfer := by
    intro call p hacquire hrelease
    rw [after_device]
    cases call with
    | acquire => exact absurd rfl hacquire
    | release => exact absurd rfl hrelease
    | write data timeout => rfl
    | read length timeout => rfl
    | writeRead data timeout => rfl

/-! What the bus answers is what came of the message. -/

theorem reply_acquire (k : Kernel κ) (p : Port κ) : (bus k).reply .acquire p = .ok () := rfl

theorem reply_release (k : Kernel κ) (p : Port κ) :
    (bus k).reply .release p =
      ((run (Request.send ⟨none, false, 0⟩ k) (p.flagged .release)).value.mapError Error.toBusError).map
        fun _ => () := rfl

theorem reply_write (k : Kernel κ) (data : Bytes) (timeout : Timeout) (p : Port κ) :
    (bus k).reply (.write data timeout) p =
      ((run (Request.send ⟨some data, false, data.length⟩ k) p).value.mapError Error.toBusError).map
        fun _ => () := rfl

theorem reply_read (k : Kernel κ) (length : Nat) (timeout : Timeout) (p : Port κ) :
    (bus k).reply (.read length timeout) p =
      (run (Request.send ⟨none, true, length⟩ k) p).value.mapError Error.toBusError := rfl

theorem reply_writeRead (k : Kernel κ) (data : Bytes) (timeout : Timeout) (p : Port κ) :
    (bus k).reply (.writeRead data timeout) p =
      (run (Request.send ⟨some data, true, data.length⟩ k) p).value.mapError Error.toBusError := rfl

/-! And what came of the message is what the kernel made of it. -/

theorem reply_of_request_eq_some (k : Kernel κ) {call : Call} (p : Port κ) {r : Request}
    (hrequest : call.request? = some r) :
    (bus k).reply call p =
      ((run (r.send k) (p.flagged call)).value.mapError Error.toBusError).map call.answerOf := by
  cases call with
  | acquire => cases hrequest
  | release => cases hrequest; rfl
  | write data timeout => cases hrequest; rfl
  | read length timeout =>
    cases hrequest
    exact (congrFun Except.map_id _).symm
  | writeRead data timeout =>
    cases hrequest
    exact (congrFun Except.map_id _).symm

/-- What the caller of the bus gets to know of the kernel's answer to the message of a call. -/
def concluded (call : Call) : Except Errno Bytes → Reply call
  | .error cause => .error (if cause = Errno.timedOut then .timeout else .transport)
  | .ok stored => .ok (call.answerOf (receiveBuffer call.size stored))

/-- The same, by way of the error of the device. -/
theorem map_answerOf_eq_concluded (call : Call) (told : Except Errno Bytes) :
    (((told.mapError Error.transferFailed).map (receiveBuffer call.size)).mapError Error.toBusError).map
      call.answerOf = concluded call told := by
  rcases told with cause | stored
  · rfl
  · rfl

theorem length_of_request_eq_some {call : Call} {r : Request} (hrequest : call.request? = some r) :
    r.length = call.size := by
  cases call with
  | acquire => cases hrequest
  | release => cases hrequest; rfl
  | write data timeout => cases hrequest; rfl
  | read length timeout => cases hrequest; rfl
  | writeRead data timeout => cases hrequest; rfl

theorem after_of_too_large (k : Kernel κ) {call : Call} (p : Port κ) {r : Request}
    (hrequest : call.request? = some r) (hlarge : p.device.bufferSize < call.size) :
    (bus k).after call p = p.flagged call := by
  have hlarge' : (p.flagged call).device.bufferSize < r.length := length_of_request_eq_some hrequest ▸ hlarge
  rw [after_of_request_eq_some k p hrequest, send_state, if_pos hlarge']

theorem reply_of_too_large (k : Kernel κ) {call : Call} (p : Port κ) {r : Request}
    (hrequest : call.request? = some r) (hlarge : p.device.bufferSize < call.size) :
    (bus k).reply call p = .error .invalidArgument := by
  have hlarge' : (p.flagged call).device.bufferSize < r.length := length_of_request_eq_some hrequest ▸ hlarge
  rw [reply_of_request_eq_some k p hrequest, send_value, if_pos hlarge']
  rfl

theorem reply_of_fitting (k : Kernel κ) {call : Call} (p : Port κ) {r : Request}
    (hrequest : call.request? = some r) (hfits : ¬ p.device.bufferSize < call.size) :
    (bus k).reply call p =
      concluded call (k.transfer (r.transfer (p.flagged call).device) p.kernel).1 := by
  have hlength := length_of_request_eq_some hrequest
  have hfits' : ¬ (p.flagged call).device.bufferSize < r.length := hlength ▸ hfits
  rw [reply_of_request_eq_some k p hrequest, send_value, if_neg hfits', hlength]
  exact map_answerOf_eq_concluded call _

end Spidev

end FlashIdent
