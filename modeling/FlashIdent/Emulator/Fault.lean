import FlashIdent.Bus

/-!
# Injected faults

A fault plan says which kinds of calls fail and how.  A later fault for the same kind of call takes the place of
the earlier one, so a plan holds at most one fault for each.
-/

namespace FlashIdent

namespace Operation

/-- The name of a kind of call in an option; two spellings stand for the full-duplex transfer. -/
def ofName? (name : String) : Option Operation :=
  match name with
  | "acquire" => some .acquire
  | "release" => some .release
  | "write" => some .write
  | "read" => some .read
  | "writeread" => some .writeRead
  | "write_read" => some .writeRead
  | _ => none

def label : Operation → String
  | acquire => "Acquire"
  | release => "Release"
  | write => "Write"
  | read => "Read"
  | writeRead => "WriteRead"

end Operation

namespace Emulator

/-- How a call is made to fail. -/
inductive Fault where
  | timeout
  | transport
deriving DecidableEq

namespace Fault

def error : Fault → BusError
  | timeout => .timeout
  | transport => .transport

def ofName? (name : String) : Option Fault :=
  match name with
  | "timeout" => some timeout
  | "transport" => some transport
  | _ => none

def label : Fault → String
  | timeout => "Timeout"
  | transport => "Transport"

end Fault

/-- Faults in the order in which they were injected. -/
structure FaultPlan where
  entries : List (Operation × Fault) := []
deriving DecidableEq

namespace FaultPlan

def inject (plan : FaultPlan) (operation : Operation) (fault : Fault) : FaultPlan :=
  ⟨plan.entries.filter (fun entry => entry.1 != operation) ++ [(operation, fault)]⟩

def ofList (faults : List (Operation × Fault)) : FaultPlan :=
  faults.foldl (fun plan entry => plan.inject entry.1 entry.2) {}

def fault? (plan : FaultPlan) (operation : Operation) : Option Fault :=
  (plan.entries.find? fun entry => entry.1 == operation).map Prod.snd

theorem fault?_inject_self (plan : FaultPlan) (operation : Operation) (fault : Fault) :
    (plan.inject operation fault).fault? operation = some fault := by
  have hnone : (plan.entries.filter fun entry => entry.1 != operation).find?
      (fun entry => entry.1 == operation) = none := by
    rw [List.find?_eq_none]
    intro entry hentry
    have hne := (List.mem_filter.mp hentry).2
    simpa using hne
  simp [inject, fault?, List.find?_append, hnone]

theorem fault?_inject_of_ne (plan : FaultPlan) {operation other : Operation} (fault : Fault)
    (h : other ≠ operation) : (plan.inject operation fault).fault? other = plan.fault? other := by
  have hlast : ((operation, fault).1 == other) = false := by
    simpa using fun e : operation = other => h e.symm
  have hfilter : (plan.entries.filter fun entry => entry.1 != operation).find?
      (fun entry => entry.1 == other) = plan.entries.find? fun entry => entry.1 == other := by
    rw [List.find?_filter]
    congr 1
    funext entry
    by_cases he : entry.1 = other
    · simp [he, h]
    · simp [he]
  rw [fault?, inject, List.find?_append, hfilter, List.find?_singleton, hlast]
  simp [fault?]

@[simp] theorem fault?_empty (operation : Operation) : ({} : FaultPlan).fault? operation = none := rfl

end FaultPlan

end Emulator

end FlashIdent
