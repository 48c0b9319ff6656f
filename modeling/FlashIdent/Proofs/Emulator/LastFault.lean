import FlashIdent.Proofs.Emulator.Histories
import FlashIdent.Proofs.Programmer.Reading
import Mathlib.Data.List.Nodup

/-!
# The last fault wins

A fault plan is a list, searched from the front, but it is used as a map: an injection takes away what stood for
the operation before it puts in the new fault.  So at most one fault stands for each operation, and it is the one
that was injected last, unless the faults were cleared since: `InForce` says this of a history, without a plan.
`FaultPlan.fault?_feedAll_eq_some_iff` is the refinement.  One step of it is `FaultPlan.fault?_feed`.

A call looks at the plan for its own operation only, and it changes no count but its own.  So with `reply_eq` and
`after_eq` a call's failure and what it leaves can be told from the history: `GoesBy`.  To build a bus with faults
is to inject them before anything else: `start_ofList`.
-/

namespace FlashIdent.Emulator

/-! ### A plan is a map -/

namespace FaultPlan

variable {plan : FaultPlan} {operation : Operation} {fault : Fault}

/-- No operation has two entries. -/
def SingleValued (plan : FaultPlan) : Prop := (plan.entries.map Prod.fst).Nodup

namespace SingleValued

theorem inject (h : plan.SingleValued) (operation : Operation) (fault : Fault) :
    (plan.inject operation fault).SingleValued := by
  let kept := plan.entries.filter fun entry => entry.1 != operation
  have hkept : (kept.map Prod.fst).Nodup := (List.filter_sublist.map Prod.fst).nodup h
  have hgone : operation ∉ kept.map Prod.fst := by simp [kept]
  have hentries : (plan.inject operation fault).entries.map Prod.fst = (kept.map Prod.fst).concat operation := by
    simp [FaultPlan.inject, kept]
  rw [SingleValued, hentries]
  exact hkept.concat hgone

theorem feed (h : plan.SingleValued) (i : Input) : (plan.feed i).SingleValued := by
  cases i with
  | call c => exact h
  | fail operation fault => exact h.inject operation fault
  | clearFaults => exact List.nodup_nil

theorem feedAll (inputs : List Input) :
    ∀ {plan : FaultPlan}, plan.SingleValued → (plan.feedAll inputs).SingleValued := by
  induction inputs with
  | nil =>
    intro plan h
    exact h
  | cons i later ih =>
    intro plan h
    exact ih (h.feed i)

/-- Then it does not matter from which end the list is searched. -/
theorem mem_entries_iff (h : plan.SingleValued) :
    (operation, fault) ∈ plan.entries ↔ plan.fault? operation = some fault := by
  constructor
  · intro hmem
    have hfound : (plan.entries.find? fun entry => entry.1 == operation).isSome := by
      rw [List.find?_isSome]
      exact ⟨(operation, fault), hmem, beq_self_eq_true operation⟩
    obtain ⟨entry, hentry⟩ := Option.isSome_iff_exists.mp hfound
    have hoperation : entry.1 = operation := by simpa using List.find?_some hentry
    have hsame : entry = (operation, fault) :=
      List.inj_on_of_nodup_map h (List.mem_of_find?_eq_some hentry) hmem hoperation
    rw [fault?, hentry, hsame]
    rfl
  · intro hfault
    obtain ⟨entry, hentry, rfl⟩ := Option.map_eq_some_iff.mp hfault
    have hoperation : entry.1 = operation := by simpa using List.find?_some hentry
    rw [← hoperation]
    exact List.mem_of_find?_eq_some hentry

end SingleValued

end FaultPlan

/-! ### Histories of faults -/

namespace Input

/-- What an input settles about the fault of an operation, if anything: that it is this one, or that there is
none. -/
def settled? (operation : Operation) : Input → Option (Option Fault)
  | .call _ => none
  | .fail other fault => if other = operation then some (some fault) else none
  | .clearFaults => some none

/-- The input is an injection for the operation, or it clears all faults. -/
def concerns (operation : Operation) (i : Input) : Bool := (i.settled? operation).isSome

variable {operation : Operation} {i : Input}

theorem settled?_eq_fault_iff {fault : Fault} :
    i.settled? operation = some (some fault) ↔ i = .fail operation fault := by
  cases i with
  | call c => simp [settled?]
  | fail other fault' =>
    simp only [settled?, fail.injEq]
    split
    · simp [*]
    · simp [*]
  | clearFaults => simp [settled?]

theorem silent_iff :
    (∀ told, ¬ i.settled? operation = some told) ↔ i ≠ .clearFaults ∧ ∀ fault, i ≠ .fail operation fault := by
  constructor
  · intro hsilent
    constructor
    · rintro rfl
      exact hsilent none rfl
    · intro fault hi
      exact hsilent (some fault) (settled?_eq_fault_iff.mpr hi)
  · rintro ⟨hclear, hfail⟩ told htold
    cases told with
    | some fault => exact hfail fault (settled?_eq_fault_iff.mp htold)
    | none =>
      cases i with
      | call c => cases htold
      | fail other fault =>
        rw [settled?] at htold
        split at htold
        · cases htold
        · cases htold
      | clearFaults => exact hclear rfl

end Input

/-- The fault was injected for the operation after the faults were last cleared, and no later one was. -/
def InForce (history : List Input) (operation : Operation) (fault : Fault) : Prop :=
  ∃ before later, history = before ++ .fail operation fault :: later ∧
    .clearFaults ∉ later ∧ ∀ other, .fail operation other ∉ later

theorem inForce_iff_lastTold {history : List Input} {operation : Operation} {fault : Fault} :
    InForce history operation fault ↔
      LastTold (fun i told => i.settled? operation = some told) history (some (some fault)) := by
  constructor
  · rintro ⟨before, later, hcut, hclear, hfail⟩
    refine ⟨before, .fail operation fault, later, hcut, Input.settled?_eq_fault_iff.mpr rfl, ?_⟩
    intro i hi
    refine Input.silent_iff.mpr ⟨?_, ?_⟩
    · rintro rfl
      exact hclear hi
    · rintro other rfl
      exact hfail other hi
  · rintro ⟨before, i, later, hcut, htold, hlater⟩
    rw [Input.settled?_eq_fault_iff.mp htold] at hcut
    refine ⟨before, later, hcut, ?_, ?_⟩
    · intro hclear
      exact (Input.silent_iff.mp (hlater _ hclear)).1 rfl
    · intro other hother
      exact (Input.silent_iff.mp (hlater _ hother)).2 other rfl

namespace FaultPlan

/-- One input: what it settles takes the place of what stood before. -/
theorem fault?_feed (plan : FaultPlan) (i : Input) (operation : Operation) :
    (plan.feed i).fault? operation = (i.settled? operation).getD (plan.fault? operation) := by
  cases i with
  | call c => rfl
  | fail other fault =>
    by_cases hother : other = operation
    · subst hother
      rw [feed, fault?_inject_self, Input.settled?, if_pos rfl]
      rfl
    · rw [feed, fault?_inject_of_ne plan fault (Ne.symm hother), Input.settled?, if_neg hother]
      rfl
  | clearFaults => rfl

/-- Only the inputs that concern the operation matter. -/
theorem fault?_feedAll_filter (plan : FaultPlan) (history : List Input) (operation : Operation) :
    (plan.feedAll (history.filter (Input.concerns operation))).fault? operation =
      (plan.feedAll history).fault? operation := by
  let settle (standing : Option Fault) (i : Input) : Option Fault := (i.settled? operation).getD standing
  have hrun : ∀ inputs : List Input,
      inputs.foldl settle (plan.fault? operation) = (plan.feedAll inputs).fault? operation := by
    intro inputs
    refine List.foldl_hom (fun plan : FaultPlan => plan.fault? operation) ?_
    intro plan i
    exact (plan.fault?_feed i operation).symm
  have hskip : (fun standing i => if Input.concerns operation i = true then settle standing i else standing) =
      settle := by
    funext standing i
    rcases htold : i.settled? operation with _ | told
    · simp [Input.concerns, settle, htold]
    · simp [Input.concerns, settle, htold]
  rw [← hrun, ← hrun, List.foldl_filter, hskip]

/-- What stands for an operation is what was last settled about it. -/
theorem exists_lastTold (history : List Input) (operation : Operation) :
    ∃ last, LastTold (fun (i : Input) told => i.settled? operation = some told) history last ∧
      (({} : FaultPlan).feedAll history).fault? operation = last.join := by
  induction history using List.reverseRecOn with
  | nil => exact ⟨none, fun _ hmem => absurd hmem List.not_mem_nil, rfl⟩
  | append_singleton history i ih =>
    obtain ⟨last, hlast, hstands⟩ := ih
    rw [feedAll, List.foldl_append, List.foldl_cons, List.foldl_nil, fault?_feed]
    rcases htold : i.settled? operation with _ | told
    · have hsilent : ∀ told, ¬ i.settled? operation = some told := by simp [htold]
      exact ⟨last, hlast.unsaid hsilent, hstands⟩
    · exact ⟨some told, LastTold.said htold, rfl⟩

theorem fault?_feedAll_eq_some_iff {history : List Input} {operation : Operation} {fault : Fault} :
    (({} : FaultPlan).feedAll history).fault? operation = some fault ↔ InForce history operation fault := by
  obtain ⟨last, hlast, hstands⟩ := exists_lastTold history operation
  rw [inForce_iff_lastTold, hstands]
  constructor
  · intro hjoin
    rw [← Option.join_eq_some_iff.mp hjoin]
    exact hlast
  · intro htold
    rw [hlast.unique (fun ha hb => Option.some.inj (ha.symm.trans hb)) htold]
    rfl

end FaultPlan

/-! ### The tally -/

namespace Tally

/-- How often calls of this kind were made. -/
def calls (t : Tally) : Operation → Nat
  | .acquire => t.acquires
  | .release => t.releases
  | .write => t.writes
  | .read => t.reads
  | .writeRead => t.writeReads

theorem calls_count (t : Tally) (operation : Operation) :
    (t.count operation).calls = Function.update t.calls operation (t.calls operation + 1) := by
  funext other
  cases operation <;> cases other <;> rfl

theorem calls_bound (t : Tally) (timeout : Timeout) : (t.bound timeout).calls = t.calls := by
  funext operation
  cases operation <;> rfl

theorem calls_noted (t : Tally) (call : Call) :
    (t.noted call).calls = Function.update t.calls call.operation (t.calls call.operation + 1) := by
  rw [noted]
  split
  · rw [calls_bound, calls_count]
  · exact t.calls_count call.operation

theorem lastTimeout_noted (t : Tally) (call : Call) :
    (t.noted call).lastTimeout = if call.isTransfer then some call.timeout.effective else t.lastTimeout := by
  cases call <;> rfl

end Tally

/-! ### Faults for other operations -/

theorem reply_fail {call : Call} {operation : Operation} (hother : call.operation ≠ operation) (e : Emulator)
    (fault : Fault) : bus.reply call (e.fail operation fault) = bus.reply call e := by
  have hplan : (e.fail operation fault).faults.fault? call.operation = e.faults.fault? call.operation :=
    e.faults.fault?_inject_of_ne fault hother
  rw [reply_eq, reply_eq, FaultPlan.reply, FaultPlan.reply, hplan]
  rfl

theorem after_fail {call : Call} {operation : Operation} (hother : call.operation ≠ operation) (e : Emulator)
    (fault : Fault) : bus.after call (e.fail operation fault) = (bus.after call e).fail operation fault := by
  have hplan : (e.fail operation fault).faults.fault? call.operation = e.faults.fault? call.operation :=
    e.faults.fault?_inject_of_ne fault hother
  rw [after_eq, after_eq, hplan]
  split
  · rfl
  · cases call <;> rfl

/-- Faults that are injected one after the other. -/
def injections (faults : List (Operation × Fault)) : List Input :=
  faults.map fun entry => .fail entry.1 entry.2

theorem others_injected {call : Call} {faults : List (Operation × Fault)}
    (hothers : ∀ entry ∈ faults, entry.1 ≠ call.operation) :
    ∀ e : Emulator,
      bus.reply call (e.feedAll (injections faults)) = bus.reply call e ∧
      bus.after call (e.feedAll (injections faults)) = (bus.after call e).feedAll (injections faults) := by
  induction faults with
  | nil =>
    intro e
    exact ⟨rfl, rfl⟩
  | cons entry later ih =>
    intro e
    have hother : call.operation ≠ entry.1 := (hothers entry List.mem_cons_self).symm
    obtain ⟨hreply, hafter⟩ :=
      ih (fun entry' hmem => hothers entry' (List.mem_cons_of_mem entry hmem)) (e.fail entry.1 entry.2)
    rw [reply_fail hother] at hreply
    rw [after_fail hother] at hafter
    exact ⟨hreply, hafter⟩

/-- A bus that is built with faults has had them injected. -/
theorem start_ofList (f : Flash) (built : List (Operation × Fault)) :
    start f (.ofList built) = (start f {}).feedAll (injections built) := by
  rw [feedAll, injections, List.foldl_map]
  exact (List.foldl_hom (start f) fun _ _ => rfl).symm

/-! ### Counting calls -/

def Input.isCall (operation : Operation) : Input → Bool
  | .call c => c.operation == operation
  | .fail _ _ => false
  | .clearFaults => false

theorem calls_feed (e : Emulator) (i : Input) (operation : Operation) :
    (e.feed i).tally.calls operation = e.tally.calls operation + if i.isCall operation then 1 else 0 := by
  cases i with
  | call c =>
    rw [feed, tally_after, Tally.calls_noted, Function.update_apply]
    by_cases hoperation : operation = c.operation
    · simp [Input.isCall, hoperation]
    · simp [Input.isCall, hoperation, Ne.symm hoperation]
  | fail other fault => rfl
  | clearFaults => rfl

theorem calls_feedAll (inputs : List Input) (operation : Operation) :
    ∀ e : Emulator,
      (e.feedAll inputs).tally.calls operation =
        e.tally.calls operation + inputs.countP (Input.isCall operation) := by
  induction inputs with
  | nil =>
    intro e
    rfl
  | cons i later ih =>
    intro e
    have hlater := ih (e.feed i)
    rw [calls_feed] at hlater
    rw [List.countP_cons, Nat.add_comm (later.countP _), ← Nat.add_assoc]
    exact hlater

/-! ### Every sequence of faults and calls -/

theorem Fault.error_inj {a b : Fault} (h : a.error = b.error) : a = b := by
  cases a with
  | timeout =>
    cases b with
    | timeout => rfl
    | transport => cases h
  | transport =>
    cases b with
    | timeout => cases h
    | transport => rfl

/-- How a call goes on an emulator that a history has led to. -/
structure GoesBy (history : List Input) (e : Emulator) (call : Call) : Prop where
  /-- The call fails by a fault exactly if this fault is in force for it. -/
  fails : ∀ fault, bus.reply call e = .error fault.error ↔ InForce history call.operation fault
  /-- Without a fault in force it does not fail. -/
  succeeds : (∀ fault, ¬ InForce history call.operation fault) →
    bus.reply call e = .ok (call.answerOf (e.answer call.mosi))
  /-- Faults for other operations, and the calls in between, do not change whether and how it fails. -/
  failsAlike : ∀ (g : Flash) (other : List Input),
    other.filter (Input.concerns call.operation) = history.filter (Input.concerns call.operation) →
    ∀ error, bus.reply call ((start g {}).feedAll other) = .error error ↔ bus.reply call e = .error error
  /-- More faults for other operations change neither the answer nor, themselves apart, where the call leads. -/
  others : ∀ faults : List (Operation × Fault), (∀ entry ∈ faults, entry.1 ≠ call.operation) →
    bus.reply call (e.feedAll (injections faults)) = bus.reply call e ∧
    bus.after call (e.feedAll (injections faults)) = (bus.after call e).feedAll (injections faults)
  /-- The call is counted, whether it fails or not, and no other count changes. -/
  counted : (bus.after call e).tally.calls =
    Function.update e.tally.calls call.operation (e.tally.calls call.operation + 1)
  /-- The time bound is noted by transfers only. -/
  bound : (bus.after call e).tally.lastTimeout =
    if call.isTransfer then some call.timeout.effective else e.tally.lastTimeout
  /-- A call that fails, if it is no release, changes nothing but the tally. -/
  unchanged : ∀ fault, InForce history call.operation fault → call ≠ .release →
    bus.after call e = { e with tally := (bus.after call e).tally }

/-- The reply is an error exactly if there is a fault for the call. -/
theorem reply_eq_error_iff {call : Call} {e : Emulator} {error : BusError} :
    bus.reply call e = .error error ↔ (e.faults.fault? call.operation).map Fault.error = some error := by
  rw [reply_eq, FaultPlan.reply]
  rcases e.faults.fault? call.operation with _ | fault
  · simp
  · simp

/-- The plan in force is made by the history alone, whatever its calls did. -/
theorem faults_feedAll_start (f : Flash) (history : List Input) :
    ((start f {}).feedAll history).faults = ({} : FaultPlan).feedAll history :=
  (feedAll_constant history (start f {})).2

theorem fault?_feedAll_start_iff {f : Flash} {history : List Input} {operation : Operation} {fault : Fault} :
    ((start f {}).feedAll history).faults.fault? operation = some fault ↔ InForce history operation fault := by
  rw [faults_feedAll_start]
  exact FaultPlan.fault?_feedAll_eq_some_iff

theorem goesBy_feedAll (f : Flash) (history : List Input) (call : Call) :
    GoesBy history ((start f {}).feedAll history) call where
  fails := by
    intro fault
    rw [reply_eq_error_iff, Option.map_eq_some_iff, ← fault?_feedAll_start_iff (f := f)]
    constructor
    · rintro ⟨other, hother, herror⟩
      rw [← Fault.error_inj herror]
      exact hother
    · intro hfault
      exact ⟨fault, hfault, rfl⟩
  succeeds := by
    intro hnone
    have hclear : ((start f {}).feedAll history).faults.fault? call.operation = none :=
      Option.eq_none_iff_forall_ne_some.mpr fun fault hfault => hnone fault (fault?_feedAll_start_iff.mp hfault)
    rw [reply_eq, FaultPlan.reply, hclear]
  failsAlike := by
    intro g other halike error
    rw [reply_eq_error_iff, reply_eq_error_iff, faults_feedAll_start, faults_feedAll_start,
      ← FaultPlan.fault?_feedAll_filter {} other, halike, FaultPlan.fault?_feedAll_filter]
  others := by
    intro faults hothers
    exact others_injected hothers _
  counted := by rw [tally_after, Tally.calls_noted]
  bound := by rw [tally_after, Tally.lastTimeout_noted]
  unchanged := by
    intro fault hfault hrelease
    rw [tally_after]
    exact after_faulted (fault?_feedAll_start_iff.mpr hfault) hrelease

/-- The last fault wins.  Take any chip, any faults with which the bus is built, and any sequence of calls and of
faults that are injected and cleared.  Then the plan has one entry for each operation with a fault in force, which
is this fault, and no others; the tally has counted the calls; and every call goes by the faults in force. -/
theorem last_fault_wins (f : Flash) (built : List (Operation × Fault)) (inputs : List Input) :
    let history := injections built ++ inputs
    let e := (start f (.ofList built)).feedAll inputs
    (e.faults.entries.map Prod.fst).Nodup ∧
    (∀ operation fault, (operation, fault) ∈ e.faults.entries ↔ InForce history operation fault) ∧
    (∀ operation, e.tally.calls operation = inputs.countP (Input.isCall operation)) ∧
    ∀ call, GoesBy history e call := by
  intro history e
  have hhistory : e = (start f {}).feedAll history := by
    simp only [e, history, start_ofList, feedAll, List.foldl_append]
  have hfaults : e.faults = ({} : FaultPlan).feedAll history := by
    rw [hhistory, faults_feedAll_start]
  have hsingle : e.faults.SingleValued := by
    rw [hfaults]
    exact FaultPlan.SingleValued.feedAll history List.nodup_nil
  refine ⟨hsingle, ?_, ?_, ?_⟩
  · intro operation fault
    rw [hsingle.mem_entries_iff, hfaults]
    exact FaultPlan.fault?_feedAll_eq_some_iff
  · intro operation
    have hcalls := calls_feedAll inputs operation (start f (.ofList built))
    have hunused : (start f (.ofList built)).tally.calls operation = 0 := by cases operation <;> rfl
    rw [hunused, Nat.zero_add] at hcalls
    exact hcalls
  · intro call
    rw [hhistory]
    exact goesBy_feedAll f history call

/-- Of two faults for the write the later one is in force, and those from before the clear are gone.  The write that
fails leaves the hold, and the release does not fail. -/
theorem last_fault_wins_after_clear :
    let built : List (Operation × Fault) := [(.release, .timeout), (.read, .timeout)]
    let inputs : List Input :=
      [.fail .read .transport, .call (.read 2 (some 5)), .clearFaults, .call .acquire, .fail .write .timeout,
        .fail .read .transport, .fail .write .transport]
    let history := injections built ++ inputs
    let e := (start {} (.ofList built)).feedAll inputs
    let call : Call := .write [0x9f] (some 7)
    (Operation.write, Fault.transport) ∈ e.faults.entries ∧
    InForce history .write .transport ∧ ¬ InForce history .write .timeout ∧
    bus.reply call e = .error .transport ∧
    bus.after call e = { e with tally := { acquires := 1, reads := 1, writes := 1, lastTimeout := some 7 } } ∧
    (∀ fault, ¬ InForce history .release fault) ∧ bus.reply .release e = .ok () := by
  intro built inputs history e call
  obtain ⟨_, hentries, _, hcalls⟩ := last_fault_wins {} built inputs
  have hplan : e.faults.entries = [(.read, .transport), (.write, .transport)] := by decide
  have hmem : (Operation.write, Fault.transport) ∈ e.faults.entries := by simp [hplan]
  have hforce : InForce history .write .transport := (hentries .write .transport).mp hmem
  have htimeout : ¬ InForce history .write .timeout := by
    rw [← hentries .write .timeout]
    exact (by simp [hplan] : (Operation.write, Fault.timeout) ∉ e.faults.entries)
  have hrelease : ∀ fault, ¬ InForce history .release fault := by
    intro fault
    rw [← hentries .release fault]
    exact (by simp [hplan] : (Operation.release, fault) ∉ e.faults.entries)
  have htally : (bus.after call e).tally = { acquires := 1, reads := 1, writes := 1, lastTimeout := some 7 } := by
    decide
  have hunchanged := (hcalls call).unchanged .transport hforce (by decide)
  rw [htally] at hunchanged
  exact ⟨hmem, hforce, htimeout, ((hcalls call).fails .transport).mpr hforce, hunchanged, hrelease,
    (hcalls .release).succeeds hrelease⟩

end FlashIdent.Emulator
