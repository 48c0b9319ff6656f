import FlashIdent.Programmer.Options
import FlashIdent.Text.Split

/-!
# Programmer strings

A programmer is named by one string: a name, and after the first colon options with commas between them.  An
option is a key and, after the first equals sign, a value; a key alone has an empty value, and empty options are
dropped.  `write` puts a name and options into such a string and `parse` takes it apart.  `parseOptions_texts` says
that options are read one by one, `parseOptions_chars` says which characters are left where.
-/

namespace FlashIdent.Programmer

/-- Takes one option apart at its first equals sign. -/
def parseOption (option : List Char) : List Char × List Char :=
  (Text.splitFirst '=' option).getD (option, [])

def parseOptions (options : List Char) : List (List Char × List Char) :=
  ((Text.splitAll ',' options).filter fun option => !option.isEmpty).map parseOption

def parseChars (s : List Char) : List Char × List (List Char × List Char) :=
  match Text.splitFirst ':' s with
  | none => (s, [])
  | some (name, options) => (name, parseOptions options)

def parse (s : String) : String × Options :=
  let parsed := parseChars s.toList
  (String.ofList parsed.1, parsed.2.map fun option => (String.ofList option.1, String.ofList option.2))

def writeOption (option : List Char × List Char) : List Char := option.1 ++ '=' :: option.2

def writeChars (name : List Char) (options : List (List Char × List Char)) : List Char :=
  name ++ ':' :: Text.joinWith ',' (options.map writeOption)

def write (name : String) (options : Options) : String :=
  String.ofList (writeChars name.toList (options.map fun option => (option.1.toList, option.2.toList)))

/-! ### What was written reads back -/

theorem parseOption_writeOption {key value : List Char} (h : '=' ∉ key) :
    parseOption (writeOption (key, value)) = (key, value) := by
  simp [parseOption, writeOption, Text.splitFirst_append h]

/-- Options with commas between them are taken apart one by one. -/
theorem parseOptions_texts {texts : List (List Char)} (h : ∀ text ∈ texts, text ≠ [] ∧ ',' ∉ text) :
    parseOptions (Text.joinWith ',' texts) = texts.map parseOption := by
  cases htexts : texts with
  | nil => rfl
  | cons first rest =>
    rw [← htexts]
    have hne : texts ≠ [] := by simp [htexts]
    have hfilter : (texts.filter fun option => !option.isEmpty) = texts := by
      rw [List.filter_eq_self]
      intro text htext
      simpa using (h text htext).1
    rw [parseOptions, Text.splitAll_joinWith hne fun text htext => (h text htext).2, hfilter]

/-! ### What reading leaves where -/

theorem parseOption_key {option : List Char} : '=' ∉ (parseOption option).1 := by
  rw [parseOption]
  rcases h : Text.splitFirst '=' option with _ | ⟨key, value⟩
  · exact Text.splitFirst_eq_none_iff.mp h
  · exact (Text.eq_of_splitFirst_eq_some h).2

theorem subset_of_parseOption {option : List Char} {c : Char}
    (h : c ∈ (parseOption option).1 ∨ c ∈ (parseOption option).2) : c ∈ option := by
  rw [parseOption] at h
  rcases hcut : Text.splitFirst '=' option with _ | ⟨key, value⟩
  · simpa [hcut] using h
  · rw [(Text.eq_of_splitFirst_eq_some hcut).1]
    rw [hcut] at h
    rcases h with h | h
    · exact List.mem_append_left _ h
    · exact List.mem_append_right _ (List.mem_cons_of_mem _ h)

theorem parseOptions_chars {options : List Char} {option : List Char × List Char}
    (h : option ∈ parseOptions options) : ',' ∉ option.1 ∧ '=' ∉ option.1 ∧ ',' ∉ option.2 := by
  obtain ⟨piece, hpiece, rfl⟩ := List.mem_map.mp h
  have hcomma := Text.not_mem_of_mem_splitAll (List.mem_filter.mp hpiece).1
  exact ⟨fun hm => hcomma (subset_of_parseOption (Or.inl hm)), parseOption_key,
    fun hm => hcomma (subset_of_parseOption (Or.inr hm))⟩

end FlashIdent.Programmer
