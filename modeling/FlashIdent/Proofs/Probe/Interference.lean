import FlashIdent.Bus.Recorded
import FlashIdent.Bus.Rehearsed
import FlashIdent.Proofs.Probe.Blocks
import FlashIdent.Proofs.Probe.Protocol

/-!
# The handshakes do not interfere

A transport is `Separate` when it answers each kind of call from a part of its own: a list of replies for
acquires, one for releases, and so on.  On such a transport two runs can be compared that begin with some parts
alike and the others not.

Two things are compared, what the runs report and which raw calls they make.  Parts that are alike stay alike,
because both runs make the same calls on them: `SeenAlike`.  The JEDEC handshake looks at the replies to acquire,
write and read only, so its course is the same whatever the other replies are; it makes no other use of the
frame's part, so the manufacturer and device handshake finds the same part in every probe.
-/

namespace FlashIdent

open FlashIdent.Action (run)

variable {σ ρ : Type}

/-! ### Transports with a part for each kind of call -/

/-- Every call is answered from the part for its kind alone, and changes no other part. -/
structure Separate (bus : Bus σ) (part : Operation → σ → ρ) : Prop where
  reply : ∀ call {s t}, part call.operation s = part call.operation t → bus.reply call s = bus.reply call t
  own : ∀ call {s t}, part call.operation s = part call.operation t →
    part call.operation (bus.after call s) = part call.operation (bus.after call t)
  other : ∀ call {operation} s, operation ≠ call.operation →
    part operation (bus.after call s) = part operation s

theorem Separate.recorded {bus : Bus σ} {part : Operation → σ → ρ} (hsep : Separate bus part) :
    Separate bus.recorded fun operation r => part operation r.bus where
  reply call _ _ h := hsep.reply call h
  own call _ _ h := hsep.own call h
  other call _ r hne := hsep.other call r.bus hne

namespace Rehearsal

/-- The cues that are left for a kind of call. -/
def cues : Operation → Rehearsal → List Cue
  | .acquire => Rehearsal.acquire
  | .release => Rehearsal.release
  | .write => Rehearsal.write
  | .read => Rehearsal.read
  | .writeRead => Rehearsal.writeRead

/-- A call takes a cue of its own kind and no other. -/
theorem cues_after (call : Call) (operation : Operation) (r : Rehearsal) :
    cues operation (bus.after call r) =
      if operation = call.operation then (Cue.next (cues operation r)).2 else cues operation r := by
  cases call <;> cases operation <;> rfl

theorem separate : Separate bus cues where
  reply := by
    intro call s t h
    cases call with
    | acquire => exact congrArg (fun cs => (Cue.next cs).1.done) h
    | release => exact congrArg (fun cs => (Cue.next cs).1.done) h
    | write data timeout => exact congrArg (fun cs => (Cue.next cs).1.done) h
    | read length timeout =>
      exact congrArg (fun cs => (Cue.next cs).1.received (List.replicate length 0xa5)) h
    | writeRead data timeout =>
      exact congrArg (fun cs => (Cue.next cs).1.received (data.map fun b => ~~~ b)) h
  own := by
    intro call s t h
    rw [cues_after, cues_after, if_pos rfl, if_pos rfl, h]
  other := by
    intro call operation s hne
    rw [cues_after, if_neg hne]

end Rehearsal

/-! ### Runs that are seen alike -/

section Runs

variable {bus : Bus σ} {part : Operation → σ → ρ} {common : Operation → Prop}

/-- The transports have been asked the same calls, and the common parts are alike. -/
structure SeenAlike (part : Operation → σ → ρ) (common : Operation → Prop) (r t : Recorded σ) : Prop where
  calls : r.calls = t.calls
  parts : ∀ operation, common operation → part operation r.bus = part operation t.bus

namespace SeenAlike

variable {r t : Recorded σ}

theorem reply (h : SeenAlike part common r t) (hsep : Separate bus part) (call : Call)
    (hcommon : common call.operation) : bus.recorded.reply call r = bus.recorded.reply call t :=
  hsep.reply call (h.parts call.operation hcommon)

/-- A call keeps common parts alike, its own among them or not. -/
theorem after (h : SeenAlike part common r t) (hsep : Separate bus part) (call : Call) :
    SeenAlike part common (bus.recorded.after call r) (bus.recorded.after call t) where
  calls := by
    have hcalls : ∀ q : Recorded σ, (bus.recorded.after call q).calls = q.calls ++ [call] :=
      fun _ => List.map_append
    rw [hcalls, hcalls, h.calls]
  parts := by
    intro operation hcommon
    have hparts := h.parts operation hcommon
    by_cases hown : operation = call.operation
    · subst hown
      exact hsep.own call hparts
    · exact (hsep.other call r.bus hown).trans (hparts.trans (hsep.other call t.bus hown).symm)

end SeenAlike

namespace Session

open Identification

/-- The JEDEC handshake runs alike wherever the replies to acquire, write and read are alike. -/
theorem readJedecId_alike (hsep : Separate bus part) (hacquires : common .acquire) (hwrites : common .write)
    (hreads : common .read) (timeout : Timeout) (hold : Hold) {r t : Recorded σ}
    (h : SeenAlike part common r t) :
    let left := run (readJedecId bus.recorded timeout) ⟨hold, r⟩
    let right := run (readJedecId bus.recorded timeout) ⟨hold, t⟩
    left.value.toOption = right.value.toOption ∧
    SeenAlike part common left.state.transport right.state.transport := by
  intro left right
  cases hold with
  | held => exact ⟨rfl, h⟩
  | released =>
    have hacquired : SeenAlike part common (acquired bus.recorded r) (acquired bus.recorded t) :=
      h.after hsep .acquire
    have hasked : SeenAlike part common (asked bus.recorded timeout r) (asked bus.recorded timeout t) :=
      hacquired.after hsep _
    have hanswered : SeenAlike part common (answered bus.recorded timeout r)
        (answered bus.recorded timeout t) :=
      hasked.after hsep _
    obtain ⟨hvalue, hstate⟩ := readJedecId_released bus.recorded timeout r
    obtain ⟨hvalue', hstate'⟩ := readJedecId_released bus.recorded timeout t
    simp only [left, right, hvalue, hstate, hvalue', hstate']
    constructor
    · simp only [received?, h.reply hsep .acquire hacquires, hacquired.reply hsep (.write _ timeout) hwrites,
        hasked.reply hsep (.read _ timeout) hreads]
    · simp only [concluded, h.reply hsep .acquire hacquires, hacquired.reply hsep (.write _ timeout) hwrites]
      split
      · exact hacquired
      · split
        · exact hasked.after hsep .release
        · exact hanswered.after hsep .release

/-- The handshake leaves the part for the frame as it is. -/
theorem part_concluded (hsep : Separate bus part) (timeout : Timeout) (t : σ) :
    part .writeRead (concluded bus timeout t) = part .writeRead t := by
  have hother : ∀ call u, call.operation ≠ .writeRead →
      part .writeRead (bus.after call u) = part .writeRead u :=
    fun call u hne => hsep.other call u hne.symm
  have hacquired : part .writeRead (acquired bus t) = part .writeRead t := hother .acquire t nofun
  have hasked : part .writeRead (asked bus timeout t) = part .writeRead t :=
    (hother (.write [rdidOpcode] timeout) _ nofun).trans hacquired
  have hanswered : part .writeRead (answered bus timeout t) = part .writeRead t :=
    (hother (.read jedecIdLength timeout) _ nofun).trans hasked
  have hrelease : ∀ u, part .writeRead (bus.after .release u) = part .writeRead u :=
    fun u => hother .release u nofun
  unfold concluded
  split
  · exact hacquired
  · split
    · exact (hrelease _).trans hasked
    · exact (hrelease _).trans hanswered

end Session

namespace Probe

open Session

/-! ### Runs of probes -/

/-- As far as the JEDEC handshake and the raw calls go, a probe runs alike wherever the replies to acquire, write
and read are alike. -/
theorem Prober.probe_alike (hsep : Separate bus part) (hacquires : common .acquire) (hwrites : common .write)
    (hreads : common .read) (p : Prober) {s t : Session (Recorded σ)} (hhold : s.hold = t.hold)
    (h : SeenAlike part common s.transport t.transport) :
    let left := run (p.probe bus.recorded) s
    let right := run (p.probe bus.recorded) t
    left.value.found .jedecId = right.value.found .jedecId ∧
    (common .writeRead → left.value = right.value) ∧
    SeenAlike part common left.state.transport right.state.transport := by
  intro left right
  obtain ⟨hvalue, hstate⟩ := p.probe_run bus.recorded s
  obtain ⟨hvalue', hstate'⟩ := p.probe_run bus.recorded t
  have hsent := h.after hsep (.writeRead Identification.remsFrame p.timeouts.rems)
  obtain ⟨hid, hend⟩ := readJedecId_alike hsep hacquires hwrites hreads p.timeouts.jedec s.hold hsent
  rw [← hhold] at hvalue' hstate'
  refine ⟨?_, ?_, ?_⟩
  · simp only [left, right, hvalue, hvalue', Report.found_jedecId, hid]
  · intro hframes
    have hframe := h.reply hsep (.writeRead Identification.remsFrame p.timeouts.rems) hframes
    simp only [left, right, hvalue, hvalue', hid, hframe]
  · simp only [left, right, hstate, hstate']
    exact hend

/-- The manufacturer and device handshake hangs on the replies to its frames alone, and finds the next of them
whatever the other handshake has met with. -/
theorem Prober.probe_frames (hsep : Separate bus part) (p : Prober) {s t : Session σ}
    (hframes : part .writeRead s.transport = part .writeRead t.transport) :
    let left := run (p.probe bus) s
    let right := run (p.probe bus) t
    left.value.found .manufacturerId = right.value.found .manufacturerId ∧
    part .writeRead left.state.transport = part .writeRead right.state.transport := by
  intro left right
  have hreply := hsep.reply (.writeRead Identification.remsFrame p.timeouts.rems) hframes
  have hafter := hsep.own (.writeRead Identification.remsFrame p.timeouts.rems) hframes
  -- the JEDEC handshake, which comes after the frame, takes nothing from its part
  have hend : ∀ q : Session σ, part .writeRead (run (p.probe bus) q).state.transport =
      part .writeRead (bus.after (.writeRead Identification.remsFrame p.timeouts.rems) q.transport) := by
    rintro ⟨hold, q⟩
    rw [(p.probe_run bus ⟨hold, q⟩).2]
    cases hold with
    | held => rw [readJedecId_held]
    | released => rw [(readJedecId_released bus _ _).2, part_concluded hsep]
  constructor
  · simp only [left, right, (p.probe_run bus s).1, (p.probe_run bus t).1, Report.found_manufacturerId, hreply]
  · exact (hend s).trans (hafter.trans (hend t).symm)

theorem probes_alike (hsep : Separate bus part) (hacquires : common .acquire) (hwrites : common .write)
    (hreads : common .read) (ps : List Prober) :
    ∀ {s t : Session (Recorded σ)}, s.hold = t.hold → SeenAlike part common s.transport t.transport →
      let left := run (probes bus.recorded ps) s
      let right := run (probes bus.recorded ps) t
      left.value.map (fun report => report.found .jedecId) =
        right.value.map (fun report => report.found .jedecId) ∧
      (common .writeRead → left.value = right.value) ∧
      SeenAlike part common left.state.transport right.state.transport := by
  induction ps with
  | nil =>
    intro s t _ h
    exact ⟨rfl, fun _ => rfl, h⟩
  | cons p later ih =>
    intro s t hhold h left right
    obtain ⟨hfound, hreport, hnext⟩ := p.probe_alike hsep hacquires hwrites hreads hhold h
    have hholds : (run (p.probe bus.recorded) s).state.hold = (run (p.probe bus.recorded) t).state.hold := by
      rw [p.probe_hold, p.probe_hold, hhold]
    obtain ⟨hfounds, hreports, hlast⟩ := ih hholds hnext
    refine ⟨?_, ?_, hlast⟩
    · exact List.cons_eq_cons.mpr ⟨hfound, hfounds⟩
    · intro hframes
      exact List.cons_eq_cons.mpr ⟨hreport hframes, hreports hframes⟩

theorem probes_frames (hsep : Separate bus part) (ps : List Prober) :
    ∀ {s t : Session σ}, part .writeRead s.transport = part .writeRead t.transport →
      (run (probes bus ps) s).value.map (fun report => report.found .manufacturerId) =
        (run (probes bus ps) t).value.map (fun report => report.found .manufacturerId) := by
  induction ps with
  | nil =>
    intro s t _
    rfl
  | cons p later ih =>
    intro s t hframes
    obtain ⟨hfound, hnext⟩ := p.probe_frames hsep hframes
    exact List.cons_eq_cons.mpr ⟨hfound, ih hnext⟩

/-- The identity table has no part in what a probe does. -/
theorem probes_state_congr (bus : Bus σ) {ps qs : List Prober}
    (htimeouts : ps.map Prober.timeouts = qs.map Prober.timeouts) :
    ∀ s : Session σ, (run (probes bus ps) s).state = (run (probes bus qs) s).state := by
  induction ps generalizing qs with
  | nil =>
    intro s
    rw [List.map_eq_nil_iff.mp htimeouts.symm]
  | cons p later ih =>
    intro s
    cases qs with
    | nil => cases htimeouts
    | cons q later' =>
      obtain ⟨hfirst, hrest⟩ := List.cons.inj htimeouts
      have hstate : (run (p.probe bus) s).state = (run (q.probe bus) s).state := by
        rw [(p.probe_run bus s).2, (q.probe_run bus s).2, hfirst]
      have hlater := ih hrest (run (q.probe bus) s).state
      rw [← hstate] at hlater
      exact hlater.trans (congrArg (fun next => (run (probes bus later') next).state) hstate)

/-- The handshakes do not interfere.  On a transport that answers each kind of call from a part of its own, run
any number of probes from two states of it.  If the states differ at most in the replies to release, the reports
and the raw calls are the same.  If they differ at most in the replies to frames, the raw calls are the same and
so is all that the reports say of the JEDEC handshake.  If the replies to frames are the same, so is all that
the reports say of the manufacturer and device handshake.  The raw calls do not hang on the identity tables. -/
theorem handshakes_do_not_interfere (hsep : Separate bus part) (hold : Hold) (ps qs : List Prober) (s t : σ) :
    let left := run (probes bus.recorded ps) ⟨hold, .start s⟩
    let right := run (probes bus.recorded ps) ⟨hold, .start t⟩
    ((∀ operation, operation ≠ .release → part operation s = part operation t) →
      left.value = right.value ∧ left.state.transport.calls = right.state.transport.calls) ∧
    ((∀ operation, operation ≠ .writeRead → part operation s = part operation t) →
      left.value.map (fun report => report.found .jedecId) =
        right.value.map (fun report => report.found .jedecId) ∧
      left.state.transport.calls = right.state.transport.calls) ∧
    (part .writeRead s = part .writeRead t →
      left.value.map (fun report => report.found .manufacturerId) =
        right.value.map (fun report => report.found .manufacturerId)) ∧
    (ps.map Prober.timeouts = qs.map Prober.timeouts →
      left.state.transport.calls =
        (run (probes bus.recorded qs) ⟨hold, .start s⟩).state.transport.calls) := by
  intro left right
  refine ⟨?_, ?_, ?_, ?_⟩
  · intro hparts
    have halike : SeenAlike part (fun operation => operation ≠ .release) (.start s) (.start t) :=
      ⟨rfl, hparts⟩
    obtain ⟨_, hvalue, hend⟩ := probes_alike hsep nofun nofun nofun ps (s := ⟨hold, .start s⟩)
      (t := ⟨hold, .start t⟩) rfl halike
    exact ⟨hvalue nofun, hend.calls⟩
  · intro hparts
    have halike : SeenAlike part (fun operation => operation ≠ .writeRead) (.start s) (.start t) :=
      ⟨rfl, hparts⟩
    obtain ⟨hfound, _, hend⟩ := probes_alike hsep nofun nofun nofun ps (s := ⟨hold, .start s⟩)
      (t := ⟨hold, .start t⟩) rfl halike
    exact ⟨hfound, hend.calls⟩
  · intro hframes
    exact probes_frames hsep.recorded ps hframes
  · intro htimeouts
    simp only [left, probes_state_congr bus.recorded htimeouts]

/-- Three probes, of which the second is refused the bus and the third cannot send its opcode. -/
theorem handshakes_do_not_interfere_when_rehearsed :
    let base : Rehearsal :=
      { acquire := [.plain, .failure .timeout, .plain], write := [.plain, .failure .transport],
        read := [.bytes [0xef, 0x40, 0x16]], writeRead := [.bytes [0, 0, 0, 0, 0xef, 0x15], .failure .timeout] }
    let unreleased : Rehearsal := { base with release := [.failure .transport] }
    let reframed : Rehearsal := { base with writeRead := [.failure .transport, .plain] }
    let untabled : Prober := { table := ⟨[], [], []⟩ }
    let probing (ps : List Prober) (r : Rehearsal) :=
      run (probes Rehearsal.bus.recorded ps) ⟨.released, .start r⟩
    let ps : List Prober := [{}, {}, {}]
    (probing ps base).value = (probing ps unreleased).value ∧
    (probing ps base).state.transport.calls = (probing ps reframed).state.transport.calls ∧
    (probing ps base).value.map (fun report => report.found .manufacturerId) =
      (probing ps { writeRead := base.writeRead }).value.map (fun report => report.found .manufacturerId) ∧
    (probing ps base).state.transport.calls =
      (probing [untabled, untabled, untabled] base).state.transport.calls ∧
    (probing ps base).state.transport.calls.map Call.operation =
      [.writeRead, .acquire, .write, .read, .release, .writeRead, .acquire,
        .writeRead, .acquire, .write, .release] := by
  intro base unreleased reframed untabled probing ps
  have hreleases : ∀ operation, operation ≠ .release →
      Rehearsal.cues operation base = Rehearsal.cues operation unreleased := by
    intro operation hne
    cases operation with
    | release => exact absurd rfl hne
    | _ => rfl
  have hframes : ∀ operation, operation ≠ .writeRead →
      Rehearsal.cues operation base = Rehearsal.cues operation reframed := by
    intro operation hne
    cases operation with
    | writeRead => exact absurd rfl hne
    | _ => rfl
  have hall := handshakes_do_not_interfere Rehearsal.separate .released ps [untabled, untabled, untabled] base
  obtain ⟨hreports, _⟩ := (hall unreleased).1 hreleases
  obtain ⟨_, hcalls⟩ := (hall reframed).2.1 hframes
  have hfound := (hall { writeRead := base.writeRead }).2.2.1 rfl
  have htable := (hall base).2.2.2 rfl
  have hoperations : (probing ps base).state.transport.calls.map Call.operation =
      [.writeRead, .acquire, .write, .read, .release, .writeRead, .acquire,
        .writeRead, .acquire, .write, .release] := by
    decide +kernel
  exact ⟨hreports, hcalls, hfound, htable, hoperations⟩

end Probe

end Runs

end FlashIdent
