import FlashIdent.Document.Json
import FlashIdent.Proofs.Text.Escaping

/-!
# The layout of a JSON document determines the document

Each part of a document shows where it ends: a string at the first quote that is not escaped, a number at the first
character that is no digit, a list of items or fields at its closing bracket.  So a value can be cancelled from the
front of a longer text: two texts that begin with the layouts of two values and are equal have equal values in front
and equal rests behind.  Nothing that stands in a string is taken for the structure around it, because a string keeps
neither a quote nor a backslash nor a character below the blank as it is.

The second part is about the lines.  The only character below the blank in a layout is the line end, and its line ends
are those between items and fields, however long or strange the strings are.
-/

namespace FlashIdent.Document.Json

/-! ### Strings -/

/-- The characters below the blank have numbers of four digits, as far as they have no letters. -/
def escaping : Text.Escaping where
  letters :=
    [('"', '"'), ('\\', '\\'), ('\n', 'n'), ('\r', 'r'), ('\t', 't'), (Char.ofNat 8, 'b'), (Char.ofNat 12, 'f')]
  numbered c := c.toNat < 32
  number c := Text.Hex.fixed .small 4 c.toNat
  shown c := 32 ≤ c.toNat
  letters_inj := by decide
  letters_ne := by decide
  number_append_inj := by
    intro c d r s hc hd h
    obtain ⟨hdigits, hrest⟩ := List.append_inj h (by simp)
    have hnumber : c.toNat = d.toNat := (Text.Hex.fixed_inj (by omega) (by omega)).mp hdigits
    exact ⟨Char.toNat_inj.mp hnumber, hrest⟩
  shown_letters := by decide
  shown_backslash := by decide
  shown_mark := by decide
  shown_number := by
    intro c x hx
    have hdigits : ∀ d : Fin 16, 32 ≤ (Text.Hex.digit .small d).toNat := by decide
    obtain ⟨d, hd, rfl⟩ := Text.Hex.exists_digit_of_mem_fixed hx
    exact hdigits ⟨d, hd⟩

theorem writes_escape (c : Char) : escaping.Writes c (escape c) := by
  by_cases hletter : c ∈ escaping.letters.map Prod.fst
  · have hletters : ∀ pair ∈ escaping.letters, escape pair.1 = ['\\', pair.2] := by decide
    obtain ⟨pair, hpair, rfl⟩ := List.mem_map.mp hletter
    rw [hletters pair hpair]
    exact .letter hpair
  · simp only [escaping, List.map_cons, List.map_nil, List.mem_cons, List.not_mem_nil, or_false, not_or] at hletter
    by_cases hlow : c.toNat < 32
    · have hnumber : escape c = '\\' :: 'u' :: escaping.number c := by simp [escape, escaping, hletter, hlow]
      rw [hnumber]
      exact .number hlow
    · have hraw : escape c = [c] := by simp [escape, hletter, hlow]
      rw [hraw]
      exact .raw hletter.1 hletter.2.1 (Nat.le_of_not_lt hlow)

theorem quote_append_inj {s t r r' : List Char} (h : quote s ++ r = quote t ++ r') : s = t ∧ r = r' := by
  simp only [quote, List.cons_append, List.append_assoc, List.nil_append, List.cons.injEq, true_and] at h
  exact Text.Escaping.flatMap_append_inj writes_escape h

theorem shown_quote {s : List Char} {c : Char} (h : c ∈ quote s) : 32 ≤ c.toNat := by
  obtain rfl | hc : c = '"' ∨ c ∈ s.flatMap escape := by
    simpa [quote, or_comm, or_assoc] using h
  · decide
  · exact Text.Escaping.shown_of_mem_flatMap writes_escape hc

/-! ### Numbers -/

/-- A number that stands before the text ends there. -/
def Delimited (rest : List Char) : Prop := ∀ c ∈ rest.head?, c.isDigit = false

theorem takeWhile_digits {n : Nat} {rest : List Char} (h : Delimited rest) :
    (Nat.toDigits 10 n ++ rest).takeWhile Char.isDigit = Nat.toDigits 10 n := by
  have hall : ∀ c ∈ Nat.toDigits 10 n, c.isDigit = true :=
    fun c => Nat.isDigit_of_mem_toDigits (by decide) (by decide)
  have hnone : rest.takeWhile Char.isDigit = [] := by
    cases rest with
    | nil => rfl
    | cons c rest => exact List.takeWhile_cons_of_neg (by simp [h c rfl])
  rw [List.takeWhile_append_of_pos hall, hnone, List.append_nil]

theorem digits_append_inj {m n : Nat} {r s : List Char} (hr : Delimited r) (hs : Delimited s)
    (h : Nat.toDigits 10 m ++ r = Nat.toDigits 10 n ++ s) : m = n ∧ r = s := by
  have hsame : Nat.toDigits 10 m = Nat.toDigits 10 n := by
    rw [← takeWhile_digits hr, h, takeWhile_digits hs]
  have hnumber : m = n := by
    calc
      m = Nat.ofDigitChars 10 (Nat.toDigits 10 m) 0 := Nat.ofDigitChars_ten_toDigits.symm
      _ = Nat.ofDigitChars 10 (Nat.toDigits 10 n) 0 := by rw [hsame]
      _ = n := Nat.ofDigitChars_ten_toDigits
  rw [hsame] at h
  exact ⟨hnumber, List.append_cancel_left h⟩

/-! ### Values -/

/-- The kinds of values, each of which begins in a way of its own. -/
inductive Kind where
  | null
  | number
  | string
  | array
  | object
deriving DecidableEq

def kind : Json → Kind
  | null => .null
  | number _ => .number
  | string _ => .string
  | array _ => .array
  | object _ => .object

/-- The kind of the value that begins with a character. -/
def kindAt (c : Char) : Kind :=
  if c = 'n' then .null
  else if c = '"' then .string
  else if c = '[' then .array
  else if c = '\x7b' then .object
  else .number

theorem kindAt_digit {c : Char} (h : c.isDigit = true) : kindAt c = .number := by
  have hother : ∀ d ∈ ['n', '"', '[', '\x7b'], c ≠ d := by
    rintro d hd rfl
    have hnone : ∀ d ∈ ['n', '"', '[', '\x7b'], d.isDigit = false := by simp
    rw [hnone c hd] at h
    cases h
  simp only [List.mem_cons, List.not_mem_nil, or_false, forall_eq_or_imp, forall_eq] at hother
  simp [kindAt, hother]

theorem layout_number (depth n : Nat) : layout depth (number n) = Nat.toDigits 10 n := by
  rw [layout, Nat.toString_eq_ofList_toDigits, String.toList_ofList]

theorem kindAt_layout (depth : Nat) (v : Json) :
    ∃ first later, layout depth v = first :: later ∧ kindAt first = v.kind := by
  cases v with
  | null => exact ⟨_, _, rfl, rfl⟩
  | number n =>
    obtain ⟨first, later, hdigits⟩ := List.exists_cons_of_ne_nil (Nat.toDigits_ne_nil (b := 10) (n := n))
    have hfirst : first.isDigit = true :=
      Nat.isDigit_of_mem_toDigits (by decide) (by decide) (hdigits ▸ List.mem_cons_self)
    exact ⟨first, later, (layout_number depth n).trans hdigits, kindAt_digit hfirst⟩
  | string s => exact ⟨_, _, rfl, rfl⟩
  | array items => cases items <;> exact ⟨_, _, rfl, rfl⟩
  | object fields => cases fields <;> exact ⟨_, _, rfl, rfl⟩

theorem kind_of_layout_append {depth : Nat} {v w : Json} {r s : List Char}
    (h : layout depth v ++ r = layout depth w ++ s) : v.kind = w.kind := by
  obtain ⟨first, later, hv, hfirst⟩ := kindAt_layout depth v
  obtain ⟨first', later', hw, hfirst'⟩ := kindAt_layout depth w
  rw [hv, hw] at h
  rw [← hfirst, ← hfirst', (List.cons.inj h).1]

/-- What follows an item is a comma or a line end. -/
theorem delimited_layoutItems (depth : Nat) (items : List Json) (r : List Char) :
    Delimited (layoutItems depth items ++ r) := by
  cases items <;> (rintro c ⟨⟩; decide)

theorem delimited_layoutFields (depth : Nat) (fields : List (String × Json)) (r : List Char) :
    Delimited (layoutFields depth fields ++ r) := by
  cases fields <;> (rintro c ⟨⟩; decide)

mutual

/-- A value can be cancelled from the front of a text. -/
theorem layout_append_inj {depth : Nat} : ∀ {v w : Json} {r s : List Char}, Delimited r → Delimited s →
    layout depth v ++ r = layout depth w ++ s → v = w ∧ r = s
  | .null, w, r, s, hr, hs, h => by
    have hkind := kind_of_layout_append h
    cases w with
    | null => exact ⟨rfl, List.append_cancel_left h⟩
    | _ => cases hkind
  | .number m, w, r, s, hr, hs, h => by
    have hkind := kind_of_layout_append h
    cases w with
    | number n =>
      rw [layout_number, layout_number] at h
      obtain ⟨rfl, hrest⟩ := digits_append_inj hr hs h
      exact ⟨rfl, hrest⟩
    | _ => cases hkind
  | .string text, w, r, s, hr, hs, h => by
    have hkind := kind_of_layout_append h
    cases w with
    | string text' =>
      obtain ⟨htext, hrest⟩ := quote_append_inj h
      exact ⟨congrArg string (String.toList_inj.mp htext), hrest⟩
    | _ => cases hkind
  | .array items, w, r, s, hr, hs, h => by
    have hkind := kind_of_layout_append h
    cases w with
    | array items' =>
      -- behind its bracket an array that is not empty reads as its items do behind their comma
      match items, items', h with
      | [], [], h => exact ⟨rfl, List.append_cancel_left h⟩
      | [], _ :: _, h => cases (List.cons.inj h).2
      | _ :: _, [], h => cases (List.cons.inj h).2
      | item :: items, item' :: items', h =>
        have hitems : layoutItems depth (item :: items) ++ r = layoutItems depth (item' :: items') ++ s :=
          congrArg (List.cons ',') (List.cons.inj h).2
        obtain ⟨hsame, hrest⟩ := layoutItems_append_inj hitems
        exact ⟨congrArg array hsame, hrest⟩
    | _ => cases hkind
  | .object fields, w, r, s, hr, hs, h => by
    have hkind := kind_of_layout_append h
    cases w with
    | object fields' =>
      match fields, fields', h with
      | [], [], h => exact ⟨rfl, List.append_cancel_left h⟩
      | [], _ :: _, h => cases (List.cons.inj h).2
      | _ :: _, [], h => cases (List.cons.inj h).2
      | field :: fields, field' :: fields', h =>
        have hfields : layoutFields depth (field :: fields) ++ r = layoutFields depth (field' :: fields') ++ s :=
          congrArg (List.cons ',') (List.cons.inj h).2
        obtain ⟨hsame, hrest⟩ := layoutFields_append_inj hfields
        exact ⟨congrArg object hsame, hrest⟩
    | _ => cases hkind

theorem layoutItems_append_inj {depth : Nat} : ∀ {xs ys : List Json} {r s : List Char},
    layoutItems depth xs ++ r = layoutItems depth ys ++ s → xs = ys ∧ r = s
  | [], [], r, s, h => ⟨rfl, List.append_cancel_left h⟩
  | [], y :: ys, r, s, h => by cases h
  | x :: xs, [], r, s, h => by cases h
  | x :: xs, y :: ys, r, s, h => by
    simp only [layoutItems, List.append_assoc] at h
    obtain ⟨rfl, hlater⟩ := layout_append_inj (delimited_layoutItems depth xs r) (delimited_layoutItems depth ys s)
      (List.append_cancel_left h)
    obtain ⟨rfl, hrest⟩ := layoutItems_append_inj hlater
    exact ⟨rfl, hrest⟩

theorem layoutFields_append_inj {depth : Nat} : ∀ {xs ys : List (String × Json)} {r s : List Char},
    layoutFields depth xs ++ r = layoutFields depth ys ++ s → xs = ys ∧ r = s
  | [], [], r, s, h => ⟨rfl, List.append_cancel_left h⟩
  | [], y :: ys, r, s, h => by cases h
  | x :: xs, [], r, s, h => by cases h
  | (key, x) :: xs, (key', y) :: ys, r, s, h => by
    simp only [layoutFields, List.append_assoc] at h
    obtain ⟨hkey, hvalue⟩ := quote_append_inj (List.append_cancel_left h)
    obtain ⟨rfl, hlater⟩ := layout_append_inj (delimited_layoutFields depth xs r)
      (delimited_layoutFields depth ys s) (List.append_cancel_left hvalue)
    obtain ⟨rfl, hrest⟩ := layoutFields_append_inj hlater
    exact ⟨by rw [String.toList_inj.mp hkey], hrest⟩

end

theorem render_inj {v w : Json} : v.render = w.render ↔ v = w := by
  constructor
  · intro h
    have hlineEnd : Delimited ['\n'] := by
      rintro c ⟨⟩
      decide
    exact (layout_append_inj hlineEnd hlineEnd (String.ofList_inj.mp h)).1
  · rintro rfl
    rfl

/-! ### Lines -/

/-- The text has so many line ends and no other character below the blank. -/
structure Lined (text : List Char) (lineEnds : Nat) : Prop where
  shown : ∀ c ∈ text, c.toNat < 32 → c = '\n'
  count : text.count '\n' = lineEnds

namespace Lined

variable {text later : List Char} {m n : Nat}

theorem append (h : Lined text m) (h' : Lined later n) : Lined (text ++ later) (m + n) where
  shown := by
    intro c hc hlow
    rcases List.mem_append.mp hc with hc | hc
    · exact h.shown c hc hlow
    · exact h'.shown c hc hlow
  count := by rw [List.count_append, h.count, h'.count]

theorem of_shown (h : ∀ c ∈ text, 32 ≤ c.toNat) : Lined text 0 where
  shown := fun c hc hlow => absurd hlow (Nat.not_lt.mpr (h c hc))
  count := by
    rw [List.count_eq_zero]
    intro hmem
    exact absurd (h '\n' hmem) (by decide)

theorem cons {c : Char} (hc : 32 ≤ c.toNat) (h : Lined text n) : Lined (c :: text) n := by
  have hone : Lined [c] 0 := of_shown (by simpa using hc)
  simpa using hone.append h

end Lined

theorem lined_lineBreak (depth : Nat) : Lined (lineBreak depth) 1 where
  shown := by
    intro c hc hlow
    obtain rfl | ⟨-, rfl⟩ : c = '\n' ∨ depth ≠ 0 ∧ c = ' ' := by simpa [lineBreak] using hc
    · rfl
    · exact absurd hlow (by decide)
  count := by simp [lineBreak, List.count_replicate]

theorem lined_key (depth : Nat) (key : List Char) : Lined (lineBreak depth ++ quote key ++ [':', ' ']) 1 :=
  ((lined_lineBreak depth).append (.of_shown fun _ => shown_quote)).append
    (.of_shown (show ∀ c ∈ [':', ' '], 32 ≤ c.toNat by simp))

mutual

/-- How often the layout of a value goes to a new line: before each item or field and before the closing bracket. -/
def breaks : Json → Nat
  | null => 0
  | number _ => 0
  | string _ => 0
  | array [] => 0
  | array (item :: items) => 1 + breaks item + breaksItems items
  | object [] => 0
  | object ((_, value) :: fields) => 1 + breaks value + breaksFields fields

def breaksItems : List Json → Nat
  | [] => 1
  | item :: items => 1 + breaks item + breaksItems items

def breaksFields : List (String × Json) → Nat
  | [] => 1
  | (_, value) :: fields => 1 + breaks value + breaksFields fields

end

mutual

/-- Strings and numbers bring no line ends of their own. -/
theorem lined_layout (depth : Nat) : ∀ v : Json, Lined (layout depth v) v.breaks
  | .null => .of_shown (show ∀ c ∈ ['n', 'u', 'l', 'l'], 32 ≤ c.toNat by simp)
  | .number n => by
    rw [layout_number]
    refine .of_shown fun c hc => ?_
    have hdigit := Nat.isDigit_of_mem_toDigits (by decide) (by decide) hc
    exact Nat.le_trans (by decide) (Char.isDigit_iff_toNat.mp hdigit).1
  | .string s => .of_shown fun _ => shown_quote
  | .array [] => .of_shown (show ∀ c ∈ ['[', ']'], 32 ≤ c.toNat by simp)
  | .array (item :: items) =>
    .cons (by decide) (((lined_lineBreak _).append (lined_layout _ item)).append (lined_layoutItems depth items))
  | .object [] => .of_shown (show ∀ c ∈ ['\x7b', '\x7d'], 32 ≤ c.toNat by simp)
  | .object ((key, value) :: fields) =>
    .cons (by decide)
      (((lined_key _ key.toList).append (lined_layout _ value)).append (lined_layoutFields depth fields))

theorem lined_layoutItems (depth : Nat) : ∀ items : List Json, Lined (layoutItems depth items) (breaksItems items)
  | [] => (lined_lineBreak depth).append (.of_shown (show ∀ c ∈ [']'], 32 ≤ c.toNat by simp))
  | item :: items =>
    .cons (by decide) (((lined_lineBreak _).append (lined_layout _ item)).append (lined_layoutItems depth items))

theorem lined_layoutFields (depth : Nat) :
    ∀ fields : List (String × Json), Lined (layoutFields depth fields) (breaksFields fields)
  | [] => (lined_lineBreak depth).append (.of_shown (show ∀ c ∈ ['\x7d'], 32 ≤ c.toNat by simp))
  | (key, value) :: fields =>
    .cons (by decide)
      (((lined_key _ key.toList).append (lined_layout _ value)).append (lined_layoutFields depth fields))

end

/-! ### The end of an object -/

theorem getLast?_layoutFields (depth : Nat) (fields : List (String × Json)) :
    (layoutFields depth fields).getLast? = some '\x7d' := by
  induction fields with
  | nil => simp [layoutFields]
  | cons field fields ih =>
    rw [layoutFields, List.getLast?_append, ih]
    rfl

theorem getLast?_layout_object (depth : Nat) (fields : List (String × Json)) :
    (layout depth (object fields)).getLast? = some '\x7d' := by
  cases fields with
  | nil => rfl
  | cons field fields =>
    rw [layout, List.getLast?_append, getLast?_layoutFields]
    rfl

end FlashIdent.Document.Json
