import Mathlib.Data.List.Forall2
import FlashIdent.Programmer.Options
import FlashIdent.Programmer.Text

/-!
# Spelled options

An option can be spelled with an equals sign, or by its key alone if it has no value.  However the options of a
programmer string are spelled, the string is taken apart into the same name and options.
-/

namespace FlashIdent.Programmer

/-- The text is the option with an equals sign, or the key alone of an option without a value. -/
def Spells (option : String × String) (text : List Char) : Prop :=
  text = writeOption (option.1.toList, option.2.toList) ∨
    (option.2 = "" ∧ option.1 ≠ "" ∧ text = option.1.toList)

/-- No character of the option would be taken for the end of its key or of the option. -/
structure Separable (option : String × String) : Prop where
  key : ',' ∉ option.1.toList ∧ '=' ∉ option.1.toList
  value : ',' ∉ option.2.toList

/-- A programmer string with the options as they are spelled. -/
def spelled (name : String) (texts : List (List Char)) : String :=
  String.ofList (name.toList ++ ':' :: Text.joinWith ',' texts)

namespace Spells

variable {option : String × String} {text : List Char}

theorem ne_nil (h : Spells option text) : text ≠ [] := by
  rcases h with rfl | ⟨_, hkey, rfl⟩
  · simp [writeOption]
  · intro hnil
    exact hkey (String.toList_eq_nil_iff.mp hnil)

theorem comma_not_mem (h : Spells option text) (hoption : Separable option) : ',' ∉ text := by
  rcases h with rfl | ⟨_, _, rfl⟩
  · simp [writeOption, hoption.key.1, hoption.value]
  · exact hoption.key.1

theorem parseOption_eq (h : Spells option text) (hoption : Separable option) :
    parseOption text = (option.1.toList, option.2.toList) := by
  rcases h with rfl | ⟨hvalue, _, rfl⟩
  · exact parseOption_writeOption hoption.key.2
  · have huncut : Text.splitFirst '=' option.1.toList = none := Text.splitFirst_eq_none_iff.mpr hoption.key.2
    rw [parseOption, huncut, hvalue]
    rfl

end Spells

theorem mem_texts {options : Options} {texts : List (List Char)} (h : List.Forall₂ Spells options texts)
    (hoptions : ∀ option ∈ options, Separable option) : ∀ text ∈ texts, text ≠ [] ∧ ',' ∉ text := by
  induction h with
  | nil =>
    intro text htext
    exact absurd htext List.not_mem_nil
  | @cons first _ _ _ hfirst _ ih =>
    intro text htext
    rcases List.mem_cons.mp htext with rfl | hlater
    · exact ⟨hfirst.ne_nil, hfirst.comma_not_mem (hoptions first List.mem_cons_self)⟩
    · exact ih (fun o ho => hoptions o (List.mem_cons_of_mem first ho)) text hlater

/-- Spelled options are read back, one by one. -/
theorem map_parseOption_of_spells {options : Options} {texts : List (List Char)}
    (h : List.Forall₂ Spells options texts) (hoptions : ∀ option ∈ options, Separable option) :
    (texts.map parseOption).map (fun parsed => (String.ofList parsed.1, String.ofList parsed.2)) = options := by
  induction h with
  | nil => rfl
  | @cons first text _ _ hfirst _ ih =>
    have hlater := ih fun o ho => hoptions o (List.mem_cons_of_mem first ho)
    rw [List.map_cons, List.map_cons, hlater, hfirst.parseOption_eq (hoptions first List.mem_cons_self)]
    simp

theorem parse_spelled {name : String} (hname : ':' ∉ name.toList) {options : Options}
    {texts : List (List Char)} (h : List.Forall₂ Spells options texts)
    (hoptions : ∀ option ∈ options, Separable option) : parse (spelled name texts) = (name, options) := by
  have htexts := mem_texts h hoptions
  have hparsed : parseChars (spelled name texts).toList = (name.toList, texts.map parseOption) := by
    simp only [spelled, String.toList_ofList, parseChars, Text.splitFirst_append hname, parseOptions_texts htexts]
  rw [parse, hparsed, String.ofList_toList, map_parseOption_of_spells h hoptions]

theorem spells_map_writeOption (options : Options) :
    List.Forall₂ Spells options (options.map fun option => writeOption (option.1.toList, option.2.toList)) := by
  rw [List.forall₂_map_right_iff, List.forall₂_same]
  intro option _
  exact Or.inl rfl

theorem parse_write {name : String} (hname : ':' ∉ name.toList) {options : Options}
    (hoptions : ∀ option ∈ options, Separable option) : parse (write name options) = (name, options) := by
  have hwrite : write name options =
      spelled name (options.map fun option => writeOption (option.1.toList, option.2.toList)) := by
    simp only [write, writeChars, spelled, List.map_map]
    rfl
  rw [hwrite]
  exact parse_spelled hname (spells_map_writeOption options) hoptions

end FlashIdent.Programmer
