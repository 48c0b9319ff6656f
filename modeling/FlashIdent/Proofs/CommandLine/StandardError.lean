import FlashIdent.CommandLine.Program
import FlashIdent.Proofs.Text.Escaping
import FlashIdent.Text.Split

/-!
# What stands on the standard error

The standard error of a run holds the shown records and, behind them, the reason of a failure.  Texts from outside
find their way into both: names of programmers, values of options, paths of devices.  A record leaves out what a
terminal would obey and a reason has numbers for it, so a terminal to which all of it is sent later only shows it
(`plain_of_mem_errors`).  Where the records had nothing to leave out they are written whole.

Then the standard error tells whether a run failed and why (`failure_told`).  A line of a record opens with a bracket
or, after the first one, with blanks, and never as a reason does.
-/

namespace FlashIdent

open Text (splitAll splitAll_append)
open Text.ControlSequence (isPlain)

/-! ### The lines of a record -/

namespace Log

theorem Level.newline_not_mem_name (l : Level) : '\n' ∉ l.name.toList := by
  cases l <;> decide

theorem Source.newline_not_mem_path (s : Source) : '\n' ∉ s.path.toList := by
  cases s <;> decide

theorem Record.heading_eq (r : Record) : ∃ later, r.heading.toList = '[' :: later ∧ '\n' ∉ later := by
  refine ⟨r.level.name.toList ++ List.replicate (5 - r.level.name.length) ' ' ++ [' '] ++ r.source.path.toList ++
    [']', ' '], ?_, ?_⟩
  · simp [heading]
  · simp [r.level.newline_not_mem_name, r.source.newline_not_mem_path]

end Log

namespace CommandLine

/-- The lines that open as a reason does. -/
def reasonLines (text : List Char) : List (List Char) :=
  (splitAll '\n' text).filter fun line => line.head? == some 'E'

theorem reasonLines_append {first : Char} {line rest : List Char} (hfirst : first ≠ 'E')
    (hline : '\n' ∉ first :: line) :
    reasonLines (first :: line ++ '\n' :: rest) = reasonLines rest := by
  rw [reasonLines, splitAll_append hline, List.filter_cons_of_neg (by simpa using hfirst), reasonLines]

/-- The lines after the first one are set in, so they bring no reason either. -/
theorem reasonLines_indent {first : Char} {line text rest : List Char} (hfirst : first ≠ 'E')
    (hline : '\n' ∉ first :: line) :
    reasonLines (first :: line ++ Log.indent text ++ '\n' :: rest) = reasonLines rest := by
  induction text generalizing first line with
  | nil => simpa [Log.indent] using reasonLines_append hfirst hline
  | cons c text ih =>
    by_cases hc : c = '\n'
    · have hset : first :: line ++ Log.indent (c :: text) ++ '\n' :: rest =
          first :: line ++ '\n' :: (' ' :: [' ', ' ', ' '] ++ Log.indent text ++ '\n' :: rest) := by
        simp [Log.indent, hc]
      rw [hset, reasonLines_append hfirst hline]
      exact ih (by decide) (by decide)
    · have hset : first :: line ++ Log.indent (c :: text) ++ '\n' :: rest =
          first :: (line ++ [c]) ++ Log.indent text ++ '\n' :: rest := by
        simp [Log.indent, hc]
      have hlonger : '\n' ∉ first :: (line ++ [c]) := by
        simpa [hc, eq_comm] using hline
      rw [hset]
      exact ih hfirst hlonger

theorem reasonLines_laidOut (r : Log.Record) (rest : List Char) :
    reasonLines (r.laidOut ++ rest) = reasonLines rest := by
  obtain ⟨later, hheading, hline⟩ := r.heading_eq
  rw [Log.Record.laidOut, hheading, List.append_assoc, List.singleton_append]
  exact reasonLines_indent (by decide) (by simpa using hline)

theorem reasonLines_records (records : List Log.Record) (rest : List Char) :
    reasonLines (records.flatMap Log.Record.laidOut ++ rest) = reasonLines rest := by
  induction records with
  | nil => rfl
  | cons r records ih => rw [List.flatMap_cons, List.append_assoc, reasonLines_laidOut, ih]

/-! ### The reason of a failure -/

/-- What stands behind the records. -/
def reason : Except String String → List Char
  | .ok _ => []
  | .error message => ("Error: " ++ Text.Quoted.encode message).toList ++ ['\n']

theorem plain_of_mem_reason {v : Except String String} {c : Char} (h : c ∈ reason v) : isPlain c := by
  cases v with
  | ok => exact absurd h List.not_mem_nil
  | error message =>
    have hlabel : ∀ c ∈ "Error: ".toList, isPlain c := by simp [isPlain]
    simp only [reason, String.toList_append, List.mem_append, List.mem_singleton] at h
    obtain (hc | hc) | rfl := h
    · exact hlabel c hc
    · exact (Text.Quoted.plain_of_mem_encode hc).1
    · decide

theorem reasonLines_reason_ok (output : String) : reasonLines (reason (.ok output)) = [] := rfl

theorem reasonLines_reason_error (message : String) :
    reasonLines (reason (.error message)) = [("Error: " ++ Text.Quoted.encode message).toList] := by
  have hmessage : '\n' ∉ (Text.Quoted.encode message).toList := fun h => (Text.Quoted.plain_of_mem_encode h).2 rfl
  have hline : '\n' ∉ ("Error: " ++ Text.Quoted.encode message).toList := by
    simpa using hmessage
  rw [reasonLines, reason, splitAll_append hline]
  simp [splitAll]

/-- The reason shows whether there is one, and which. -/
theorem error_of_reasonLines_eq {v w : Except String String} (h : reasonLines (reason v) = reasonLines (reason w))
    {message : String} (hv : v = .error message) : w = .error message := by
  rw [hv, reasonLines_reason_error] at h
  cases w with
  | ok output =>
    rw [reasonLines_reason_ok] at h
    cases h
  | error message' =>
    rw [reasonLines_reason_error, List.singleton_inj, String.toList_append, String.toList_append,
      List.append_cancel_left_eq, String.toList_inj] at h
    rw [Text.Quoted.encode_inj.mp h]

/-! ### The standard error of a run -/

namespace Invocation

variable {κ κ' : Type} {k : Spidev.Kernel κ} {k' : Spidev.Kernel κ'} {reader reader' : String → Log.Selection}
  {setting setting' : Option String} {i i' : Invocation} {kernel : κ} {kernel' : κ'}

/-- The records that a run shows. -/
def shownBy (k : Spidev.Kernel κ) (reader : String → Log.Selection) (setting : Option String) (i : Invocation)
    (kernel : κ) : List Log.Record :=
  i.shown reader setting ((i.command.run k).run kernel).log

theorem toList_errors : (i.execute k reader setting kernel).errors.toList =
    (i.shownBy k reader setting kernel).flatMap (fun r => r.written.toList) ++
      reason ((i.command.run k).run kernel).value := by
  unfold execute shownBy
  generalize (i.command.run k).run kernel = outcome
  obtain ⟨value, -, log⟩ := outcome
  cases value with
  | ok output => simp [reason, String.toList_join, List.flatMap_map]
  | error message => simp [reason, String.toList_join, List.flatMap_map]

/-- A terminal obeys nothing on the standard error, whatever the arguments, the environment and the kernel say. -/
theorem plain_of_mem_errors {c : Char} (h : c ∈ (i.execute k reader setting kernel).errors.toList) : isPlain c := by
  rw [toList_errors] at h
  rcases List.mem_append.mp h with hrecord | hreason
  · obtain ⟨r, -, hc⟩ := List.mem_flatMap.mp hrecord
    rw [Log.Record.written, String.toList_ofList] at hc
    exact Text.ControlSequence.plain_of_mem_strip hc
  · exact plain_of_mem_reason hreason

theorem toList_errors_of_plain (hplain : ∀ r ∈ i.shownBy k reader setting kernel, ∀ c ∈ r.laidOut, isPlain c) :
    (i.execute k reader setting kernel).errors.toList =
      (i.shownBy k reader setting kernel).flatMap Log.Record.laidOut ++
        reason ((i.command.run k).run kernel).value := by
  have hwritten : ∀ r ∈ i.shownBy k reader setting kernel, r.written.toList = r.laidOut := by
    intro r hr
    rw [Log.Record.written_eq_laidOut (hplain r hr), String.toList_ofList]
  rw [toList_errors, List.flatMap_def, List.flatMap_def, List.map_congr_left hwritten]

/-- Runs with the same standard error fail alike, if the records in it were plain: both for one reason or neither.
Neither the commands nor the kernels need to be the same. -/
theorem failure_told (hplain : ∀ r ∈ i.shownBy k reader setting kernel, ∀ c ∈ r.laidOut, isPlain c)
    (hplain' : ∀ r ∈ i'.shownBy k' reader' setting' kernel', ∀ c ∈ r.laidOut, isPlain c)
    (herrors : (i.execute k reader setting kernel).errors = (i'.execute k' reader' setting' kernel').errors)
    (message : String) : ((i.command.run k).run kernel).value = .error message ↔
      ((i'.command.run k').run kernel').value = .error message := by
  have hlines : reasonLines (reason ((i.command.run k).run kernel).value) =
      reasonLines (reason ((i'.command.run k').run kernel').value) := by
    calc
      _ = reasonLines (i.execute k reader setting kernel).errors.toList := by
        rw [toList_errors_of_plain hplain, reasonLines_records]
      _ = reasonLines (i'.execute k' reader' setting' kernel').errors.toList := by rw [herrors]
      _ = _ := by rw [toList_errors_of_plain hplain', reasonLines_records]
  exact ⟨error_of_reasonLines_eq hlines, error_of_reasonLines_eq hlines.symm⟩

end Invocation

end CommandLine

end FlashIdent
