/-!
# Bus errors

Why a call on a bus or a session did not succeed.  Two kinds are told apart later: misuse of acquire and
release, and failures that the transport itself reports.
-/

namespace FlashIdent

/-- The cause of a failed bus call. -/
inductive BusError where
  /-- No answer within the time bound. -/
  | timeout
  /-- The link or the hardware reports a fault. -/
  | transport
  /-- The transport answered with another count of bytes than the call implies. -/
  | malformedResponse (expected actual : Nat)
  /-- The bus is to be acquired while it is held. -/
  | alreadyHeld
  /-- The bus is to be released while it is not held. -/
  | notHeld
  /-- Nothing to send, or nothing to receive. -/
  | invalidArgument
deriving DecidableEq

namespace BusError

def message : BusError → String
  | timeout => "SPI transaction timed out"
  | transport => "SPI transport error"
  | malformedResponse expected actual =>
    "malformed response: expected " ++ toString expected ++ " bytes, got " ++ toString actual
  | alreadyHeld => "SPI bus is already held"
  | notHeld => "SPI bus is not held"
  | invalidArgument => "invalid transaction argument"

def isMisuse : BusError → Bool
  | alreadyHeld | notHeld => true
  | _ => false

def isTransport : BusError → Bool
  | timeout | transport => true
  | _ => false

end BusError

end FlashIdent
