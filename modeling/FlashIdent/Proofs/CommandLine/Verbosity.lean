import Mathlib.Data.List.Basic
import FlashIdent.CommandLine.Program
import FlashIdent.Spidev.Rehearsed

/-!
# What the verbosity changes

The count of `-v` raises the bound on what reaches the logger.  The logger's own filter stays as it was set up
before the arguments were read, and a record has to pass both.  So a count can take records away and never adds
one, however the logger reads what the environment says.  Where the environment says nothing, the records down to
information are shown, whatever was asked for.

A probe whose programmer opens tells of its time bounds in a record that is more detailed than that.
-/

namespace FlashIdent

/-- The most detailed level that a count of `-v` asks for. -/
def Log.Level.ofVerbosity : Nat → Log.Level
  | 0 => .info
  | 1 => .debug
  | _ + 2 => .trace

namespace Log.Level

theorem info_le_ofVerbosity (count : Nat) : info ≤ ofVerbosity count := by
  match count with
  | 0 => decide
  | 1 => decide
  | _ + 2 => exact (by decide : info ≤ trace)

theorem debug_le_ofVerbosity_iff {count : Nat} : debug ≤ ofVerbosity count ↔ count ≠ 0 := by
  match count with
  | 0 => decide
  | 1 => decide
  | n + 2 =>
    have htrace : debug ≤ trace := by decide
    exact ⟨fun _ => Nat.succ_ne_zero (n + 1), fun _ => htrace⟩

end Log.Level

namespace CommandLine

open FlashIdent.Action (run)

variable {κ : Type} {reader : String → Log.Selection}

/-! ### The two filters -/

namespace Logging

@[simp] theorem raise_own (l : Logging) (count : Nat) : (l.raise count).own = l.own := by
  match count with
  | 0 => rfl
  | 1 => rfl
  | _ + 2 => rfl

/-- Where no `-v` is given, the bound takes nothing away from what the logger lets through. -/
theorem shows_start (setting : Option String) (r : Log.Record) :
    (start reader setting).shows r = (start reader setting).own.admits r := by
  have hsame : (start reader setting).bound = (start reader setting).own.bound := rfl
  rcases hadmits : (start reader setting).own.admits r with _ | _
  · rw [shows, hadmits, Bool.false_and]
  · rw [shows, hadmits, hsame, (start reader setting).own.within r hadmits, Bool.and_self]

/-- What is shown under any count is shown without `-v`. -/
theorem shows_start_of_raise {setting : Option String} {count : Nat} {r : Log.Record}
    (h : ((start reader setting).raise count).shows r = true) : (start reader setting).shows r = true := by
  rw [shows, raise_own, Bool.and_eq_true] at h
  rw [shows_start]
  exact h.1

theorem shows_raise_start_none (count : Nat) (r : Log.Record) :
    ((start reader none).raise count).shows r = decide (r.level ≤ .info) := by
  match count with
  | 0 => exact (shows_start none r : (start reader none).shows r = _)
  | 1 =>
    have hbound : r.level ≤ .info → r.level ≤ .debug := fun h => Log.Level.le_trans h (by decide)
    simpa [shows, start, raise, Log.Selection.upTo] using hbound
  | _ + 2 =>
    have hbound : r.level ≤ .info → r.level ≤ .trace := fun h => Log.Level.le_trans h (by decide)
    simpa [shows, start, raise, Log.Selection.upTo] using hbound

end Logging

namespace Invocation

theorem shown_sublist (setting : Option String) (i : Invocation) (log : List Log.Record) :
    (i.shown reader setting log).Sublist ({ i with verbosity := 0 }.shown reader setting log) := by
  apply List.monotone_filter_right
  intro r hshown
  exact Logging.shows_start_of_raise hshown

theorem shown_none (i : Invocation) (log : List Log.Record) :
    i.shown reader none log = log.filter fun r => decide (r.level ≤ .info) :=
  List.filter_congr fun r _ => Logging.shows_raise_start_none i.verbosity r

/-- What is shown is what was asked for if that is nothing in detail. -/
theorem shown_none_eq_iff (i : Invocation) (log : List Log.Record) :
    (i.shown reader none log = log.filter fun r => decide (r.level ≤ .ofVerbosity i.verbosity)) ↔
      ∀ r ∈ log, r.level ≤ .ofVerbosity i.verbosity → r.level ≤ .info := by
  rw [shown_none]
  constructor
  · intro heq r hr hasked
    have hmem : r ∈ log.filter fun r => decide (r.level ≤ .ofVerbosity i.verbosity) :=
      List.mem_filter.mpr ⟨hr, decide_eq_true hasked⟩
    rw [← heq] at hmem
    exact of_decide_eq_true (List.mem_filter.mp hmem).2
  · intro hdetail
    apply List.filter_congr
    intro r hr
    have hiff : r.level ≤ .info ↔ r.level ≤ .ofVerbosity i.verbosity :=
      ⟨fun h => Log.Level.le_trans h (Log.Level.info_le_ofVerbosity i.verbosity), hdetail r hr⟩
    exact decide_eq_decide.mpr hiff

/-- Without a word from the environment the count changes nothing in a run. -/
theorem execute_none (k : Spidev.Kernel κ) (i : Invocation) (kernel : κ) :
    i.execute k reader none kernel = { i with verbosity := 0 }.execute k reader none kernel := by
  have hshown : ∀ log, i.shown reader none log = { i with verbosity := 0 }.shown reader none log := by
    intro log
    rw [shown_none, shown_none]
  simp only [execute, hshown]

end Invocation

/-! ### Records in detail -/

/-- The command probes, and its programmer opens. -/
def Command.opens (k : Spidev.Kernel κ) (kernel : κ) : Command → Prop
  | .probe programmer _ _ _ =>
    ∃ backend, (Action.run (Programmer.openString k programmer) kernel).value = .ok backend
  | _ => False

theorem debug_mem_probeBus {σ : Type} (bus : Bus σ) (timeouts : Probe.Timeouts) (json : Bool) (t : σ) :
    ⟨.debug, .command, "Probe timeouts: " ++ timeouts.text⟩ ∈ (run (probeBus bus timeouts json) t).log :=
  List.mem_append_left _ (List.mem_singleton_self _)

/-- A probe whose programmer opens says something in detail. -/
theorem Command.opens.debug_mem {k : Spidev.Kernel κ} {kernel : κ} {command : Command}
    (h : command.opens k kernel) : ∃ r ∈ (Action.run (command.run k) kernel).log, r.level = .debug := by
  cases command with
  | listProgrammers => exact h.elim
  | listChips vendor => exact h.elim
  | probe programmer rems jedec json =>
    obtain ⟨backend, hopen⟩ := h
    let timeouts := Probe.Timeouts.withOverrides rems jedec
    refine ⟨⟨.debug, .command, "Probe timeouts: " ++ timeouts.text⟩, ?_, rfl⟩
    show _ ∈ (Action.run (probeString k programmer timeouts json) kernel).log
    rw [probeString, Action.bind_log, hopen]
    apply List.mem_append_right
    exact List.mem_append_left _ (debug_mem_probeBus (Programmer.Attached.bus k) timeouts json _)

/-- `-v` is not heard.  Take any kernel, any command and any count of `-v`, and an environment that says nothing.
The records of the run down to information are shown.  These are the records that the count asks for exactly if
none of those is more detailed than information, which is so for a probe whose programmer opens only without
`-v`.  The whole run ends as it does without `-v`, and no setting of the environment makes `-v` show more, however
the logger reads it. -/
theorem verbosity_not_heard (k : Spidev.Kernel κ) (reader : String → Log.Selection) (i : Invocation) (kernel : κ) :
    let log := (run (i.command.run k) kernel).log
    let asked := log.filter fun r => decide (r.level ≤ .ofVerbosity i.verbosity)
    (i.shown reader none log = log.filter fun r => decide (r.level ≤ .info)) ∧
    (i.shown reader none log = asked ↔ ∀ r ∈ log, r.level ≤ .ofVerbosity i.verbosity → r.level ≤ .info) ∧
    (i.command.opens k kernel → (i.shown reader none log = asked ↔ i.verbosity = 0)) ∧
    i.execute k reader none kernel = { i with verbosity := 0 }.execute k reader none kernel ∧
    ∀ setting, (i.shown reader setting log).Sublist ({ i with verbosity := 0 }.shown reader setting log) := by
  intro log asked
  refine ⟨i.shown_none log, i.shown_none_eq_iff log, ?_, i.execute_none k kernel,
    fun setting => i.shown_sublist setting log⟩
  intro hopens
  rw [i.shown_none_eq_iff log]
  constructor
  · intro hdetail
    by_contra hcount
    obtain ⟨r, hr, hdebug⟩ := hopens.debug_mem
    have hasked : r.level ≤ .ofVerbosity i.verbosity := by
      rw [hdebug]
      exact Log.Level.debug_le_ofVerbosity_iff.mpr hcount
    have hinfo : r.level ≤ .info := hdetail r hr hasked
    rw [hdebug] at hinfo
    exact absurd hinfo (by decide)
  · intro hcount r _ hasked
    rw [hcount] at hasked
    exact hasked

/-- A probe of the emulated bus under one `-v` does not show what it says about its time bounds. -/
theorem verbose_probe_without_detail :
    let reader : String → Log.Selection := fun _ => .upTo none
    let i : Invocation := ⟨1, .probe "dummy" none none false⟩
    let kernel := Spidev.KernelScript.withoutDevices fun _ => none
    let log := (run (i.command.run Spidev.KernelScript.kernel) kernel).log
    read ["-v", "probe", "-p", "dummy"] = .ok i ∧
    i.shown reader none log ≠ log.filter fun r => decide (r.level ≤ .ofVerbosity i.verbosity) := by
  intro reader i kernel log
  have hread : read ["-v", "probe", "-p", "dummy"] = .ok i := by decide +kernel
  have hopens : i.command.opens Spidev.KernelScript.kernel kernel := ⟨.emulator (.start {} {}), rfl⟩
  obtain ⟨r, hr, hdebug⟩ := hopens.debug_mem
  refine ⟨hread, ?_⟩
  intro heq
  have hinfo : r.level ≤ .info := by
    apply (i.shown_none_eq_iff log).mp heq r hr
    rw [hdebug]
    decide
  rw [hdebug] at hinfo
  exact absurd hinfo (by decide)

end CommandLine

end FlashIdent
