import FlashIdent.Emulator.Options
import FlashIdent.Proofs.Programmer.Reading
import FlashIdent.Proofs.Text.Numeral

/-!
# What the options of the emulated bus mean

Four keys set a byte of the chip, `absent` takes the chip away, `fail` injects a fault, and any other key means
nothing.  `Taken` says what one option makes of the settings.  The rest is about lists of options: which of them
are read without an error, and which chip and faults they describe.  There the last option that speaks of a
byte, or of an operation, is the one that counts.
-/

namespace FlashIdent.Emulator

open Programmer (Options takeOption)
open Text (HexByte)

/-! ### Keys -/

/-- A byte of the chip that an option can set. -/
inductive ByteField where
  | manufacturer
  | memoryType
  | capacity
  | device
deriving DecidableEq

namespace ByteField

def key : ByteField → String
  | manufacturer => "mfr"
  | memoryType => "type"
  | capacity => "capacity"
  | device => "rems"

def get (f : Flash) : ByteField → UInt8
  | manufacturer => f.manufacturer
  | memoryType => f.memoryType
  | capacity => f.capacity
  | device => f.device

def set (f : Flash) (b : UInt8) : ByteField → Flash
  | manufacturer => { f with manufacturer := b }
  | memoryType => { f with memoryType := b }
  | capacity => { f with capacity := b }
  | device => { f with device := b }

theorem get_set (f : Flash) (b : UInt8) (field other : ByteField) :
    other.get (field.set f b) = if other = field then b else other.get f := by
  cases field <;> cases other <;> rfl

theorem present_set (f : Flash) (b : UInt8) (field : ByteField) : (field.set f b).present = f.present := by
  cases field <;> rfl

theorem key_inj {field other : ByteField} (h : field.key = other.key) : field = other := by
  revert h
  cases field <;> cases other <;> decide

theorem key_ne (field : ByteField) : field.key ≠ "absent" ∧ field.key ≠ "fail" := by
  cases field <;> decide

theorem eq_of_get_eq {f g : Flash} (hbytes : ∀ field : ByteField, field.get f = field.get g)
    (hpresent : f.present = g.present) : f = g := by
  obtain ⟨_, _, _, _, _⟩ := f
  obtain ⟨_, _, _, _, _⟩ := g
  obtain rfl := hbytes manufacturer
  obtain rfl := hbytes memoryType
  obtain rfl := hbytes capacity
  obtain rfl := hbytes device
  obtain rfl := hpresent
  rfl

end ByteField

/-- The keys that mean something. -/
def knownKeys : List String := ["mfr", "type", "capacity", "rems", "absent", "fail"]

theorem mem_knownKeys_iff {key : String} :
    key ∈ knownKeys ↔ (∃ field : ByteField, key = field.key) ∨ key = "absent" ∨ key = "fail" := by
  constructor
  · intro hkey
    simp only [knownKeys, List.mem_cons, List.not_mem_nil, or_false] at hkey
    rcases hkey with rfl | rfl | rfl | rfl | rfl | rfl
    · exact Or.inl ⟨.manufacturer, rfl⟩
    · exact Or.inl ⟨.memoryType, rfl⟩
    · exact Or.inl ⟨.capacity, rfl⟩
    · exact Or.inl ⟨.device, rfl⟩
    · exact Or.inr (Or.inl rfl)
    · exact Or.inr (Or.inr rfl)
  · rintro (⟨field, rfl⟩ | rfl | rfl)
    · cases field <;> decide
    · decide
    · decide

/-! ### Values -/

/-- The value has the name of the operation before its first colon and the name of the fault behind it. -/
def Names (value : String) (operation : Operation) (fault : Fault) : Prop :=
  ∃ before after, value.toList = before ++ ':' :: after ∧ ':' ∉ before ∧
    Operation.ofName? (String.ofList before) = some operation ∧
    Fault.ofName? (String.ofList after) = some fault

/-- What is wrong with an option; the name of the operation is looked at before the name of the fault. -/
inductive Offence : String × String → OptionError → Prop
  | byte (field : ByteField) {value : String} (hbyte : ∀ b, ¬ HexByte value.toList b) :
    Offence (field.key, value) (.invalidByte field.key value)
  | colon {value : String} (hcolon : ':' ∉ value.toList) : Offence ("fail", value) .faultWithoutColon
  | operation {value : String} {before after : List Char} (hcut : value.toList = before ++ ':' :: after)
    (hfirst : ':' ∉ before) (hoperation : Operation.ofName? (String.ofList before) = none) :
    Offence ("fail", value) (.unknownOperation (String.ofList before))
  | fault {value : String} {before after : List Char} {operation : Operation}
    (hcut : value.toList = before ++ ':' :: after) (hfirst : ':' ∉ before)
    (hoperation : Operation.ofName? (String.ofList before) = some operation)
    (hfault : Fault.ofName? (String.ofList after) = none) :
    Offence ("fail", value) (.unknownFault (String.ofList after))

/-- The value of the option is one that its key takes. -/
structure Acceptable (option : String × String) : Prop where
  byte : ∀ field : ByteField, option.1 = field.key → ∃ b, HexByte option.2.toList b
  fault : option.1 = "fail" → ∃ operation fault, Names option.2 operation fault

namespace Settings

theorem readByte_of_hexByte {value : String} {b : UInt8} (h : HexByte value.toList b) (key : String) :
    readByte key value = .ok b := by
  have hlimit : b.toNat ≤ 255 := Nat.le_of_lt_succ b.toNat_lt
  have hread := (Text.Numeral.read_eq_ok_iff (by decide)).mpr ⟨Text.hexByte_iff.mp h, hlimit⟩
  rw [readByte, hread]
  simp

theorem hexByte_of_readByte {key value : String} {b : UInt8} (h : readByte key value = .ok b) :
    HexByte value.toList b := by
  rw [readByte] at h
  split at h
  · rename_i n hread
    obtain ⟨hdenotes, hlimit⟩ := (Text.Numeral.read_eq_ok_iff (by decide)).mp hread
    obtain rfl : UInt8.ofNat n = b := Except.ok.inj h
    have hvalue : (UInt8.ofNat n).toNat = n := UInt8.toNat_ofNat_of_lt' (Nat.lt_succ_of_le hlimit)
    rw [Text.hexByte_iff, hvalue]
    exact hdenotes
  · cases h

theorem readByte_error {key value : String} {e : OptionError} (h : readByte key value = .error e) :
    e = .invalidByte key value := by
  rw [readByte] at h
  split at h
  · cases h
  · cases h
    rfl

theorem readInjection_of_names {value : String} {operation : Operation} {fault : Fault}
    (h : Names value operation fault) : readInjection value = .ok (operation, fault) := by
  obtain ⟨before, after, hcut, hfirst, hoperation, hfault⟩ := h
  rw [readInjection, hcut, Text.splitFirst_append hfirst]
  simp only [readOperation, readFault, hoperation, hfault]
  rfl

end Settings

theorem Names.unique {value : String} {operation other : Operation} {fault fault' : Fault}
    (h : Names value operation fault) (h' : Names value other fault') : operation = other ∧ fault = fault' := by
  have hread := Settings.readInjection_of_names h
  rw [Settings.readInjection_of_names h'] at hread
  cases hread
  exact ⟨rfl, rfl⟩

/-! ### One option -/

/-- What one option makes of the settings. -/
inductive Taken (s : Settings) : String × String → Except OptionError Settings → Prop
  | byte (field : ByteField) {value : String} {b : UInt8} (hbyte : HexByte value.toList b) :
    Taken s (field.key, value) (.ok { s with flash := field.set s.flash b })
  | absent (value : String) : Taken s ("absent", value) (.ok { s with flash.present := false })
  | fault {value : String} {operation : Operation} {fault : Fault} (hnames : Names value operation fault) :
    Taken s ("fail", value) (.ok { s with faults := s.faults ++ [(operation, fault)] })
  | unknown {option : String × String} (hkey : option.1 ∉ knownKeys) : Taken s option (.ok s)
  | wrong {option : String × String} {e : OptionError} (hoffence : Offence option e) : Taken s option (.error e)

namespace Settings

theorem takeOption_byte (s : Settings) (field : ByteField) (value : String) :
    takeOption apply s (field.key, value) =
      (readByte field.key value).map fun b => { s with flash := field.set s.flash b } := by
  cases field <;> rfl

theorem takeOption_fail (s : Settings) (value : String) :
    takeOption apply s ("fail", value) =
      (readInjection value).map fun entry => { s with faults := s.faults ++ [entry] } := rfl

theorem takeOption_unknown (s : Settings) {option : String × String} (hkey : option.1 ∉ knownKeys) :
    takeOption apply s option = .ok s := by
  obtain ⟨key, value⟩ := option
  have hnone : apply s key value = none := by
    unfold apply
    split
    · exact absurd (by decide : "mfr" ∈ knownKeys) hkey
    · exact absurd (by decide : "type" ∈ knownKeys) hkey
    · exact absurd (by decide : "capacity" ∈ knownKeys) hkey
    · exact absurd (by decide : "rems" ∈ knownKeys) hkey
    · exact absurd (by decide : "absent" ∈ knownKeys) hkey
    · exact absurd (by decide : "fail" ∈ knownKeys) hkey
    · rfl
  rw [takeOption, hnone]
  rfl

theorem readInjection_of_offence {value : String} {e : OptionError} (h : Offence ("fail", value) e) :
    readInjection value = .error e := by
  -- no case can be taken while the option is a literal: the key of a byte is no constructor
  generalize hoption : ("fail", value) = option at h
  cases h with
  | byte field hbyte => exact absurd (congrArg Prod.fst hoption).symm field.key_ne.2
  | colon hcolon =>
    cases hoption
    rw [readInjection, Text.splitFirst_eq_none_iff.mpr hcolon]
  | operation hcut hfirst hoperation =>
    cases hoption
    rw [readInjection, hcut, Text.splitFirst_append hfirst]
    simp only [readOperation, hoperation]
    rfl
  | fault hcut hfirst hoperation hfault =>
    cases hoption
    rw [readInjection, hcut, Text.splitFirst_append hfirst]
    simp only [readOperation, readFault, hoperation, hfault]
    rfl

theorem taken_byte (s : Settings) (field : ByteField) (value : String) :
    Taken s (field.key, value) (takeOption apply s (field.key, value)) := by
  rw [takeOption_byte]
  rcases hread : readByte field.key value with e | b
  · rw [readByte_error hread]
    apply Taken.wrong
    apply Offence.byte field
    intro b hbyte
    rw [readByte_of_hexByte hbyte] at hread
    cases hread
  · exact Taken.byte field (hexByte_of_readByte hread)

theorem taken_fail (s : Settings) (value : String) :
    Taken s ("fail", value) (takeOption apply s ("fail", value)) := by
  have hwrong : ∀ {e}, Offence ("fail", value) e →
      Taken s ("fail", value) (takeOption apply s ("fail", value)) := by
    intro e hoffence
    rw [takeOption_fail, readInjection_of_offence hoffence]
    exact Taken.wrong hoffence
  rcases hcut : Text.splitFirst ':' value.toList with _ | ⟨before, after⟩
  · exact hwrong (Offence.colon (Text.splitFirst_eq_none_iff.mp hcut))
  obtain ⟨hvalue, hfirst⟩ := Text.eq_of_splitFirst_eq_some hcut
  rcases hoperation : Operation.ofName? (String.ofList before) with _ | operation
  · exact hwrong (Offence.operation hvalue hfirst hoperation)
  rcases hfault : Fault.ofName? (String.ofList after) with _ | fault
  · exact hwrong (Offence.fault hvalue hfirst hoperation hfault)
  have hnames : Names value operation fault := ⟨before, after, hvalue, hfirst, hoperation, hfault⟩
  rw [takeOption_fail, readInjection_of_names hnames]
  exact Taken.fault hnames

theorem taken (s : Settings) (option : String × String) : Taken s option (takeOption apply s option) := by
  obtain ⟨key, value⟩ := option
  by_cases hkey : key ∈ knownKeys
  · rcases mem_knownKeys_iff.mp hkey with ⟨field, rfl⟩ | rfl | rfl
    · exact taken_byte s field value
    · exact Taken.absent value
    · exact taken_fail s value
  · rw [takeOption_unknown s hkey]
    exact Taken.unknown hkey

end Settings

/-- An option is an error exactly if something is wrong with it, whatever was said before. -/
theorem Settings.takeOption_eq_error_iff (s : Settings) (option : String × String) (e : OptionError) :
    takeOption apply s option = .error e ↔ Offence option e := by
  constructor
  · intro herror
    have htaken := s.taken option
    rw [herror] at htaken
    cases htaken with
    | wrong hoffence => exact hoffence
  · intro hoffence
    cases hoffence with
    | @byte field value hbyte =>
      rw [takeOption_byte]
      rcases hread : readByte field.key value with e | b
      · rw [readByte_error hread]
        rfl
      · exact absurd (hexByte_of_readByte hread) (hbyte b)
    | colon hcolon =>
      rw [takeOption_fail, readInjection_of_offence (.colon hcolon)]
      rfl
    | operation hcut hfirst hoperation =>
      rw [takeOption_fail, readInjection_of_offence (.operation hcut hfirst hoperation)]
      rfl
    | fault hcut hfirst hoperation hfault =>
      rw [takeOption_fail, readInjection_of_offence (.fault hcut hfirst hoperation hfault)]
      rfl

theorem Settings.exists_takeOption_iff (s : Settings) (option : String × String) :
    (∃ next, takeOption apply s option = .ok next) ↔ Acceptable option := by
  constructor
  · rintro ⟨next, hnext⟩
    have htaken := s.taken option
    rw [hnext] at htaken
    cases htaken with
    | byte field hbyte => exact ⟨fun _ _ => ⟨_, hbyte⟩, fun hfail => absurd hfail field.key_ne.2⟩
    | absent value => exact ⟨fun field hkey => absurd hkey.symm field.key_ne.1, fun hfail => by simp at hfail⟩
    | fault hnames => exact ⟨fun field hkey => absurd hkey.symm field.key_ne.2, fun _ => ⟨_, _, hnames⟩⟩
    | unknown hkey =>
      constructor
      · intro field hfield
        exact absurd (mem_knownKeys_iff.mpr (Or.inl ⟨field, hfield⟩)) hkey
      · intro hfail
        exact absurd (mem_knownKeys_iff.mpr (Or.inr (Or.inr hfail))) hkey
  · intro hacceptable
    obtain ⟨key, value⟩ := option
    by_cases hkey : key ∈ knownKeys
    · rcases mem_knownKeys_iff.mp hkey with ⟨field, rfl⟩ | rfl | rfl
      · obtain ⟨b, hbyte⟩ := hacceptable.byte field rfl
        exact ⟨_, by rw [takeOption_byte, readByte_of_hexByte hbyte]; rfl⟩
      · exact ⟨_, rfl⟩
      · obtain ⟨operation, fault, hnames⟩ := hacceptable.fault rfl
        exact ⟨_, by rw [takeOption_fail, readInjection_of_names hnames]; rfl⟩
    · exact ⟨s, takeOption_unknown s hkey⟩

/-! ### Lists of options -/

/-- The chip and the faults that options describe. -/
structure Describes (options : Options) (flash : Flash) (plan : FaultPlan) : Prop where
  /-- The last value for the byte, or the byte of the usual chip. -/
  byte : ∀ field : ByteField, ∃ last,
    LastTold (fun option b => option.1 = field.key ∧ HexByte option.2.toList b) options last ∧
    field.get flash = last.getD (field.get {})
  present : flash.present = false ↔ ∃ option ∈ options, option.1 = "absent"
  fault : ∀ operation,
    LastTold (fun option fault => option.1 = "fail" ∧ Names option.2 operation fault) options
      (plan.fault? operation)

namespace Describes

variable {options : Options} {flash : Flash} {plan : FaultPlan} {option : String × String}

theorem nil : Describes [] {} {} where
  byte field := ⟨none, fun _ hmem => absurd hmem List.not_mem_nil, rfl⟩
  present := by simp
  fault operation := fun _ hmem => absurd hmem List.not_mem_nil

/-- An option leaves what it does not speak of. -/
theorem byte_unsaid (h : Describes options flash plan) (option : String × String) {field : ByteField}
    (hkey : option.1 ≠ field.key) :
    ∃ last, LastTold (fun option b => option.1 = field.key ∧ HexByte option.2.toList b)
      (options ++ [option]) last ∧ field.get flash = last.getD (field.get {}) := by
  obtain ⟨last, hlast, hget⟩ := h.byte field
  exact ⟨last, hlast.unsaid fun b htells => hkey htells.1, hget⟩

theorem present_unsaid (h : Describes options flash plan) (hkey : option.1 ≠ "absent") :
    flash.present = false ↔ ∃ o ∈ options ++ [option], o.1 = "absent" := by
  rw [h.present]
  constructor
  · rintro ⟨o, hmem, habsent⟩
    exact ⟨o, List.mem_append_left _ hmem, habsent⟩
  · rintro ⟨o, hmem, habsent⟩
    rcases List.mem_append.mp hmem with hmem | hmem
    · exact ⟨o, hmem, habsent⟩
    · rw [List.mem_singleton.mp hmem] at habsent
      exact absurd habsent hkey

theorem fault_unsaid (h : Describes options flash plan) {operation : Operation}
    (hsilent : ∀ fault, ¬ (option.1 = "fail" ∧ Names option.2 operation fault)) :
    LastTold (fun option fault => option.1 = "fail" ∧ Names option.2 operation fault) (options ++ [option])
      (plan.fault? operation) :=
  (h.fault operation).unsaid hsilent

/-- One more option. -/
theorem taken {s next : Settings} (h : Describes options s.flash (FaultPlan.ofList s.faults))
    (htaken : Taken s option (.ok next)) :
    Describes (options ++ [option]) next.flash (FaultPlan.ofList next.faults) := by
  cases htaken with
  | @byte field value b hbyte =>
    refine ⟨?_, ?_, ?_⟩
    · intro other
      by_cases hother : other = field
      · subst hother
        exact ⟨some b, LastTold.said ⟨rfl, hbyte⟩, by simp [ByteField.get_set]⟩
      · have hkey : field.key ≠ other.key := fun heq => hother (ByteField.key_inj heq).symm
        obtain ⟨last, hlast, hget⟩ := h.byte_unsaid (field.key, value) hkey
        exact ⟨last, hlast, by rw [ByteField.get_set, if_neg hother, hget]⟩
    · rw [ByteField.present_set]
      exact h.present_unsaid field.key_ne.1
    · intro operation
      exact h.fault_unsaid fun fault htells => field.key_ne.2 htells.1
  | absent value =>
    refine ⟨?_, ?_, ?_⟩
    · intro field
      obtain ⟨last, hlast, hget⟩ := h.byte_unsaid ("absent", value) field.key_ne.1.symm
      exact ⟨last, hlast, by cases field <;> exact hget⟩
    · simp
    · intro operation
      exact h.fault_unsaid fun fault htells => by simp at htells
  | @fault value operation fault hnames =>
    have hplan : FaultPlan.ofList (s.faults ++ [(operation, fault)]) =
        (FaultPlan.ofList s.faults).inject operation fault := by
      simp [FaultPlan.ofList]
    refine ⟨?_, ?_, ?_⟩
    · intro field
      exact h.byte_unsaid ("fail", value) field.key_ne.2.symm
    · exact h.present_unsaid (by decide : "fail" ≠ "absent")
    · intro other
      rw [hplan]
      by_cases hother : other = operation
      · subst hother
        rw [FaultPlan.fault?_inject_self]
        exact LastTold.said ⟨rfl, hnames⟩
      · rw [FaultPlan.fault?_inject_of_ne _ _ hother]
        exact h.fault_unsaid fun fault' htells => hother (htells.2.unique hnames).1
  | unknown hkey =>
    have hsilent : ∀ key ∈ knownKeys, option.1 ≠ key := by
      rintro key hmem rfl
      exact hkey hmem
    refine ⟨?_, ?_, ?_⟩
    · intro field
      exact h.byte_unsaid option (hsilent field.key (mem_knownKeys_iff.mpr (Or.inl ⟨field, rfl⟩)))
    · exact h.present_unsaid (hsilent "absent" (by decide))
    · intro operation
      exact h.fault_unsaid fun fault htells => hsilent "fail" (by decide) htells.1

theorem of_foldlM {settings : Settings}
    (hread : options.foldlM (takeOption Settings.apply) ({} : Settings) = .ok settings) :
    Describes options settings.flash (FaultPlan.ofList settings.faults) := by
  have hnothing : Describes [] ({} : Settings).flash (FaultPlan.ofList ({} : Settings).faults) := nil
  refine Programmer.foldlM_keeps
    (fun done s => Describes done s.flash (FaultPlan.ofList s.faults)) ?_ options hnothing hread
  intro done s option next h hstep
  have htaken := s.taken option
  rw [hstep] at htaken
  exact h.taken htaken

/-- Options describe one chip, and one fault for each operation or none. -/
theorem unique {other : Flash} {plan' : FaultPlan} (h : Describes options flash plan)
    (h' : Describes options other plan') :
    flash = other ∧ ∀ operation, plan.fault? operation = plan'.fault? operation := by
  constructor
  · apply ByteField.eq_of_get_eq
    · intro field
      obtain ⟨last, hlast, hget⟩ := h.byte field
      obtain ⟨last', hlast', hget'⟩ := h'.byte field
      rw [hget, hget', hlast.unique (fun ha hb => ha.2.unique hb.2) hlast']
    · have hiff : flash.present = false ↔ other.present = false := h.present.trans h'.present.symm
      rcases hpresent : flash.present with _ | _
      · exact (hiff.mp hpresent).symm
      · rcases hother : other.present with _ | _
        · rw [hiff.mpr hother] at hpresent
          cases hpresent
        · rfl
  · intro operation
    exact (h.fault operation).unique (fun ha hb => (ha.2.unique hb.2).2) (h'.fault operation)

end Describes

/-! ### Reading -/

namespace Settings

theorem exists_foldlM_iff (options : Options) :
    (∃ next, options.foldlM (takeOption apply) ({} : Settings) = .ok next) ↔
      ∀ option ∈ options, Acceptable option :=
  Programmer.exists_foldlM_iff exists_takeOption_iff

theorem foldlM_eq_error_iff {options : Options} {e : OptionError} :
    options.foldlM (takeOption apply) ({} : Settings) = .error e ↔
      ∃ before option later, options = before ++ option :: later ∧
        (∀ o ∈ before, Acceptable o) ∧ Offence option e :=
  Programmer.foldlM_eq_error_iff exists_takeOption_iff takeOption_eq_error_iff

/-- Options with other keys might as well not be there. -/
theorem foldlM_known (options : Options) (s : Settings) :
    (options.filter fun option => decide (option.1 ∈ knownKeys)).foldlM (takeOption apply) s =
      options.foldlM (takeOption apply) s :=
  Programmer.foldlM_known (fun settings _ hkey => takeOption_unknown settings hkey) options s

end Settings

end FlashIdent.Emulator
