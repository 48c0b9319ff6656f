import FlashIdent.Action
import FlashIdent.Bus.Error
import FlashIdent.Bytes

/-!
# The bus contract

A bus offers five calls.  `acquire` asks for chip select to stay asserted until `release`; in between, the
transfers `write`, `read` and `writeRead` reach the chip as one command.  Outside of such a hold every transfer
asserts and deasserts chip select on its own.  A `Bus σ` answers each call by an action on the transport's own
state `σ`; it does not track whether it is held, that is the task of a `Session`.

The type of an answer depends on the call, so that a statement about every call is one statement.
-/

namespace FlashIdent

/-! ### Time bounds -/

/-- A time bound in milliseconds; `none` leaves the choice to the transport. -/
abbrev Timeout : Type := Option UInt32

namespace Timeout

/-- The bound that a transport applies when the caller gives none. -/
def standard : UInt32 := 1

def effective (t : Timeout) : UInt32 := t.getD standard

def text : Timeout → String
  | none => "None"
  | some ms => "Some(" ++ toString ms.toNat ++ ")"

end Timeout

/-! ### Calls and answers -/

/-- The kinds of calls. -/
inductive Operation where
  | acquire
  | release
  | write
  | read
  | writeRead
deriving DecidableEq

/-- One call on a bus. -/
inductive Call where
  | acquire
  | release
  /-- Sends bytes and drops what comes back. -/
  | write (data : Bytes) (timeout : Timeout)
  /-- Receives a count of bytes. -/
  | read (length : Nat) (timeout : Timeout)
  /-- Sends bytes and receives as many. -/
  | writeRead (data : Bytes) (timeout : Timeout)
deriving DecidableEq

namespace Call

/-- What a call that succeeds brings back. -/
@[reducible] def Answer : Call → Type
  | acquire => Unit
  | release => Unit
  | write _ _ => Unit
  | read _ _ => Bytes
  | writeRead _ _ => Bytes

def operation : Call → Operation
  | acquire => .acquire
  | release => .release
  | write _ _ => .write
  | read _ _ => .read
  | writeRead _ _ => .writeRead

end Call

abbrev Reply (call : Call) : Type := Except BusError call.Answer

/-- A transport with state `σ`. -/
structure Bus (σ : Type) where
  perform : (call : Call) → Action σ (Reply call)

end FlashIdent
