import FlashIdent.Proofs.Programmer.Spelling

/-!
# Writing and reading programmer strings

A programmer string is written with one equals sign in each option, one comma between two options and one colon
behind the name.  Reading takes it apart into the same name and options, if no separator stands where it would be
taken for one of these; a value may hold colons and equals signs.

Read strings need not have been written so.  Empty options are passed over, and a key may stand alone.  But what
is read always has its separators in the right places, so written again it reads as the same: the written strings
are normal forms.
-/

namespace FlashIdent

theorem Text.joinWith_eq_intercalate (sep : Char) (pieces : List (List Char)) :
    joinWith sep pieces = [sep].intercalate pieces := by
  induction pieces with
  | nil => rfl
  | cons piece later ih =>
    cases later with
    | nil => simp [joinWith]
    | cons second rest => simp [joinWith, ih]

namespace Programmer

/-! ### What is written -/

theorem write_eq_intercalate (name : String) (options : Options) :
    write name options =
      name ++ ":" ++ ",".intercalate (options.map fun option => option.1 ++ "=" ++ option.2) := by
  apply String.toList_inj.mp
  simp [write, writeChars, writeOption, Text.joinWith_eq_intercalate, Function.comp_def]

/-! ### What is read -/

theorem parseChars_of_not_mem {s : List Char} (h : ':' ∉ s) : parseChars s = (s, []) := by
  rw [parseChars, Text.splitFirst_eq_none_iff.mpr h]

theorem parse_of_not_mem {s : String} (h : ':' ∉ s.toList) : parse s = (s, []) := by
  rw [parse, parseChars_of_not_mem h, String.ofList_toList, List.map_nil]

theorem colon_not_mem_parseChars (s : List Char) : ':' ∉ (parseChars s).1 := by
  rw [parseChars]
  rcases hcut : Text.splitFirst ':' s with _ | ⟨name, options⟩
  · exact Text.splitFirst_eq_none_iff.mp hcut
  · exact (Text.eq_of_splitFirst_eq_some hcut).2

theorem parseChars_chars {s : List Char} {option : List Char × List Char} (h : option ∈ (parseChars s).2) :
    ',' ∉ option.1 ∧ '=' ∉ option.1 ∧ ',' ∉ option.2 := by
  rw [parseChars] at h
  rcases hcut : Text.splitFirst ':' s with _ | ⟨name, options⟩
  · rw [hcut] at h
    exact absurd h List.not_mem_nil
  · rw [hcut] at h
    exact parseOptions_chars h

theorem colon_not_mem_parse (s : String) : ':' ∉ (parse s).1.toList := by
  rw [parse, String.toList_ofList]
  exact colon_not_mem_parseChars s.toList

theorem separable_of_mem_parse {s : String} {option : String × String} (h : option ∈ (parse s).2) :
    Separable option := by
  obtain ⟨chars, hchars, rfl⟩ := List.mem_map.mp h
  obtain ⟨hcomma, hequals, hvalue⟩ := parseChars_chars hchars
  constructor
  · simp [hcomma, hequals]
  · simp [hvalue]

/-! ### Both ways -/

/-- Programmer strings survive writing and reading.  Any name without a colon and any options without separators in
the wrong places are written as one string that reads as this name and these options.  Whatever string is read, its
name has no colon, its options have no separators in the wrong places, and written again they read as the same.  A
string without a colon is a name alone. -/
theorem programmer_strings_round_trip :
    (∀ (name : String) (options : Options), write name options =
      name ++ ":" ++ ",".intercalate (options.map fun option => option.1 ++ "=" ++ option.2)) ∧
    (∀ (name : String) (options : Options), ':' ∉ name.toList → (∀ option ∈ options, Separable option) →
      parse (write name options) = (name, options)) ∧
    (∀ s : String, ':' ∉ (parse s).1.toList ∧ (∀ option ∈ (parse s).2, Separable option) ∧
      parse (write (parse s).1 (parse s).2) = parse s) ∧
    ∀ s : String, ':' ∉ s.toList → parse s = (s, []) := by
  refine ⟨write_eq_intercalate, ?_, ?_, ?_⟩
  · intro name options hname hoptions
    exact parse_write hname hoptions
  · intro s
    have hname := colon_not_mem_parse s
    have hoptions : ∀ option ∈ (parse s).2, Separable option := fun _ => separable_of_mem_parse
    exact ⟨hname, hoptions, parse_write hname hoptions⟩
  · intro s hs
    exact parse_of_not_mem hs

/-- A string with stray commas, a key alone, an empty key, and a value with separators in it. -/
theorem programmer_strings_round_trip_with_stray_separators :
    let options : Options := [("a", "b=c:d"), ("flag", ""), ("", "x")]
    let s := "dummy:a=b=c:d,,flag,=x,"
    ':' ∉ "dummy".toList ∧ (∀ option ∈ options, Separable option) ∧
    write "dummy" options = "dummy:a=b=c:d,flag=,=x" ∧ parse (write "dummy" options) = ("dummy", options) ∧
    parse s = ("dummy", options) ∧ parse (write (parse s).1 (parse s).2) = parse s ∧
    ':' ∉ "linux_spi".toList ∧ parse "linux_spi" = ("linux_spi", []) := by
  intro options s
  have hname : ':' ∉ "dummy".toList := by decide
  have hoptions : ∀ option ∈ options, Separable option := by
    have hall : ∀ option ∈ options,
        (',' ∉ option.1.toList ∧ '=' ∉ option.1.toList) ∧ ',' ∉ option.2.toList := by decide
    exact fun option hmem => ⟨(hall option hmem).1, (hall option hmem).2⟩
  have hwritten : write "dummy" options = "dummy:a=b=c:d,flag=,=x" := by decide
  have hread : parse s = ("dummy", options) := by decide
  have halone : ':' ∉ "linux_spi".toList := by decide
  obtain ⟨_, hback, hagain, hname_alone⟩ := programmer_strings_round_trip
  obtain ⟨_, _, hsame⟩ := hagain s
  exact ⟨hname, hoptions, hwritten, hback _ _ hname hoptions, hread, hsame, halone, hname_alone _ halone⟩

end Programmer

end FlashIdent
