/-!
# Terminal control sequences

Text may hold characters that a terminal obeys instead of showing: single control characters, control sequences
such as `ESC [ 3 1 m`, and whole strings addressed to the terminal.  `strip` leaves them out, for output that no
terminal reads.  Blanks that lay out a line are kept, also those inside an unfinished sequence.

Main statements: plain text stays as it is (`strip_eq_self`), and what is left is plain (`plain_of_mem_strip`).
-/

namespace FlashIdent.Text.ControlSequence

/-! ### Classes of characters -/

/-- A tab, or one of the characters that end a line or a page. -/
def isLayout (c : Char) : Bool := c == '\t' || c == '\n' || c == '\x0c' || c == '\r'

/-- A character of plain text: a layout character, or any from the space on but the delete character. -/
def isPlain (c : Char) : Bool := isLayout c || (decide (' ' ≤ c) && c != '\x7f')

/-- A character that may stand between the introduction of a sequence and its final character. -/
def isIntermediate (c : Char) : Bool := decide (' ' ≤ c) && decide (c ≤ '/')

def isParameter (c : Char) : Bool := decide ('0' ≤ c) && decide (c ≤ '?')

/-- A parameter that may only come first. -/
def isPrivate (c : Char) : Bool := decide ('<' ≤ c) && decide (c ≤ '?')

def isFinal (c : Char) : Bool := decide ('@' ≤ c) && decide (c ≤ '~')

/-- A character whose bytes hold the string terminator; for a terminal these are bytes and not characters. -/
def isTerminator (c : Char) : Bool := (String.utf8EncodeChar c).contains 0x9c

/-! ### Stages of a sequence -/

/-- How much of a sequence has been read. -/
inductive Stage where
  /-- None. -/
  | ground
  /-- The escape character. -/
  | escape
  /-- An escape with intermediate characters. -/
  | intermediate
  /-- A control sequence, `ESC [`, without its final character. -/
  | sequence
  /-- The introduction of a device control string, `ESC P`. -/
  | deviceEntry
  /-- A device control string with parameters. -/
  | deviceParameters
  /-- A device control string with intermediate characters. -/
  | deviceIntermediate
  /-- A device control string past its introduction, or a string that `ESC X`, `ESC ^` or `ESC _` began. -/
  | body
  /-- A command to the operating system, `ESC ]`. -/
  | command
deriving DecidableEq

namespace Stage

/-- The stage after a character that belongs to the sequence or passes through it. -/
def advance : Stage → Char → Stage
  | ground, _ => ground
  | escape, c =>
    if isIntermediate c then intermediate
    else if c = '[' then sequence
    else if c = ']' then command
    else if c = 'P' then deviceEntry
    else if c = 'X' ∨ c = '^' ∨ c = '_' then body
    else if isParameter c || isFinal c then ground
    else escape
  | intermediate, c => if isParameter c || isFinal c then ground else intermediate
  | sequence, c => if isFinal c then ground else sequence
  | deviceEntry, c =>
    if isIntermediate c then deviceIntermediate
    else if isParameter c then deviceParameters
    else if isFinal c then body
    else deviceEntry
  | deviceParameters, c =>
    if isIntermediate c then deviceIntermediate
    else if isPrivate c || isFinal c then body
    else deviceParameters
  | deviceIntermediate, c => if isParameter c || isFinal c then body else deviceIntermediate
  | body, c => if isTerminator c then ground else body
  | command, c => if c = '\x07' then ground else command

/-- The stage after any character: everywhere an escape begins anew, and cancel and substitute end the sequence. -/
def after (s : Stage) (c : Char) : Stage :=
  if c = '\x1b' then escape
  else if c = '\x18' ∨ c = '\x1a' then ground
  else s.advance c

/-- A character is kept: all of plain text outside a sequence, the layout inside a short one, nothing of a
string. -/
def keeps : Stage → Char → Bool
  | ground, c => isPlain c
  | escape, c | intermediate, c | sequence, c => isLayout c
  | deviceEntry, _ | deviceParameters, _ | deviceIntermediate, _ | body, _ | command, _ => false

theorem isPlain_of_keeps {s : Stage} {c : Char} (h : s.keeps c) : isPlain c := by
  cases s <;> simp_all [keeps, isPlain]

end Stage

/-! ### The scanner -/

/-- What has been read so far. -/
structure Scanner where
  stage : Stage
  /-- The last character was kept. -/
  keeping : Bool
  /-- The kept characters, the latest first. -/
  kept : List Char

namespace Scanner

def start : Scanner := ⟨.ground, false, []⟩

/-- Reads one character.  Past a kept one text is plain, even if that one was layout inside a sequence; the next
character that is dropped takes the sequence up again, unless text beyond ASCII has ended it. -/
def read (s : Scanner) (c : Char) : Scanner :=
  if s.keeping then
    if isPlain c then ⟨if c.toNat < 128 then s.stage else .ground, true, c :: s.kept⟩
    else ⟨s.stage.after c, false, s.kept⟩
  else if s.stage.keeps c then ⟨s.stage.after c, true, c :: s.kept⟩
  else ⟨s.stage.after c, false, s.kept⟩

end Scanner

/-- The text without what a terminal would obey. -/
def strip (text : List Char) : List Char := (text.foldl Scanner.read Scanner.start).kept.reverse

/-! ### What is left -/

/-- Plain text is kept whole by a scanner outside any sequence, or past a kept character. -/
theorem Scanner.kept_foldl_read {text : List Char} {s : Scanner} (outside : s.keeping ∨ s.stage = .ground)
    (plain : ∀ c ∈ text, isPlain c) : (text.foldl read s).kept = text.reverse ++ s.kept := by
  induction text generalizing s with
  | nil => rfl
  | cons c rest ih =>
    have first : isPlain c := plain c List.mem_cons_self
    have step : (s.read c).keeping ∧ (s.read c).kept = c :: s.kept := by
      cases outside with
      | inl kept => simp [read, kept, first]
      | inr ground =>
        cases kept : s.keeping <;> simp [read, kept, ground, Stage.keeps, first]
    rw [List.foldl_cons, ih (.inl step.1) fun d hd => plain d (List.mem_cons_of_mem c hd), step.2]
    simp

/-- Plain text stays as it is. -/
theorem strip_eq_self {text : List Char} (plain : ∀ c ∈ text, isPlain c) : strip text = text := by
  rw [strip, Scanner.kept_foldl_read (.inr rfl) plain]
  simp [Scanner.start]

/-- A scanner keeps plain characters only. -/
theorem Scanner.plain_foldl_read {text : List Char} {s : Scanner} (before : ∀ c ∈ s.kept, isPlain c) :
    ∀ c ∈ (text.foldl read s).kept, isPlain c := by
  induction text generalizing s with
  | nil => exact before
  | cons d rest ih =>
    refine ih fun c hc => ?_
    unfold read at hc
    split at hc
    · split at hc
      · rcases List.mem_cons.1 hc with rfl | hc
        · assumption
        · exact before c hc
      · exact before c hc
    · split at hc
      · rcases List.mem_cons.1 hc with rfl | hc
        · exact Stage.isPlain_of_keeps ‹_›
        · exact before c hc
      · exact before c hc

/-- What is left is plain. -/
theorem plain_of_mem_strip {text : List Char} {c : Char} (h : c ∈ strip text) : isPlain c :=
  Scanner.plain_foldl_read (by simp [Scanner.start]) c (List.mem_reverse.1 h)

end FlashIdent.Text.ControlSequence
