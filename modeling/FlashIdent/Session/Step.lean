import FlashIdent.Probe

/-!
# Runs of session steps

Everything a user can do with a session, as data, so that a whole run is a list.  A scoped hold is one step: it
acquires the bus, makes the calls it was given, and gives the bus back by an explicit release, after the first
failing call if it is to stop there, or at its end.
-/

namespace FlashIdent.Session

/-- A call made under a scoped hold. -/
inductive GuardCall where
  | write (data : Bytes) (timeout : Timeout)
  | read (length : Nat) (timeout : Timeout)
  /-- Gives the bus back and ends the hold. -/
  | release

/-- How a call ended, with what it brought back. -/
inductive CallAnswer where
  | done (result : Except BusError Unit)
  | bytes (result : Except BusError Bytes)

namespace CallAnswer

def failed : CallAnswer → Bool
  | done (.ok _) => false
  | bytes (.ok _) => false
  | done (.error _) => true
  | bytes (.error _) => true

end CallAnswer

variable {σ : Type}

/-- The calls of a scoped hold, on a bus that is held already. -/
def underHold (bus : Bus σ) (stopOnError : Bool) :
    List GuardCall → Action (Session σ) (List CallAnswer)
  | [] => do
    letGo bus
    return []
  | .release :: _ => do
    let result ← release bus
    return [.done result]
  | .write data timeout :: calls => do
    let answer := CallAnswer.done (← write bus data timeout)
    if stopOnError && answer.failed then
      letGo bus
      return [answer]
    else return answer :: (← underHold bus stopOnError calls)
  | .read length timeout :: calls => do
    let answer := CallAnswer.bytes (← read bus length timeout)
    if stopOnError && answer.failed then
      letGo bus
      return [answer]
    else return answer :: (← underHold bus stopOnError calls)

def holding (bus : Bus σ) (calls : List GuardCall) (stopOnError : Bool) :
    Action (Session σ) (Except BusError (List CallAnswer)) := do
  match ← acquire bus with
  | .error e => return .error e
  | .ok () => return .ok (← underHold bus stopOnError calls)

/-- One step of a run. -/
inductive Step where
  | acquire
  | release
  | write (data : Bytes) (timeout : Timeout)
  | read (length : Nat) (timeout : Timeout)
  | writeRead (data : Bytes) (timeout : Timeout)
  | hold (calls : List GuardCall) (stopOnError : Bool)
  | readManufacturerId (timeout : Timeout)
  | readJedecId (timeout : Timeout)
  | probe (prober : Probe.Prober)
  /-- Gives the session up and begins another one on the same transport. -/
  | renew

/-- How a step ended. -/
inductive Answer where
  | call (answer : CallAnswer)
  | hold (result : Except BusError (List CallAnswer))
  | report (report : Probe.Report)
  | renewed

def step (bus : Bus σ) : Step → Action (Session σ) Answer
  | .acquire => return .call (.done (← acquire bus))
  | .release => return .call (.done (← release bus))
  | .write data timeout => return .call (.done (← write bus data timeout))
  | .read length timeout => return .call (.bytes (← read bus length timeout))
  | .writeRead data timeout => return .call (.bytes (← writeRead bus data timeout))
  | .hold calls stopOnError => return .hold (← holding bus calls stopOnError)
  | .readManufacturerId timeout => return .call (.bytes (← readManufacturerId bus timeout))
  | .readJedecId timeout => return .call (.bytes ((← readJedecId bus timeout).map JedecId.toBytes))
  | .probe prober => return .report (← prober.probe bus)
  | .renew => do
    close bus
    mark .released
    return .renewed

/-- Makes the steps of a run one after the other. -/
def steps (bus : Bus σ) : List Step → Action (Session σ) (List Answer)
  | [] => return []
  | s :: rest => return (← step bus s) :: (← steps bus rest)

end FlashIdent.Session
