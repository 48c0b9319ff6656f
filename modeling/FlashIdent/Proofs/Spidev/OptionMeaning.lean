import FlashIdent.Proofs.Programmer.Reading
import FlashIdent.Proofs.Text.Positional
import FlashIdent.Spidev.Options

/-!
# What the options of a kernel SPI device mean

One key names the device file, two give a number, and any other key means nothing.  Each number has a largest value
that is taken: a mode is at most three, and a speed in kilohertz must still fit a word when it is counted in hertz.
`Taken` says what one option makes of the configuration.

Of options that repeat each other the last one counts, but each of them must be good by itself: the reading ends at
the first that is not.  Whether a device was named is looked at only when all options have been read.
-/

namespace FlashIdent.Spidev

open FlashIdent.Action (run)
open Programmer (Options takeOption)
open Text.Numeral (Positional)

/-! ### Keys -/

/-- A number of the configuration that an option can give. -/
inductive NumberField where
  | speed
  | mode
deriving DecidableEq

namespace NumberField

def key : NumberField → String
  | speed => "spispeed"
  | mode => "mode"

/-- The largest number that can be read at all. -/
def readable : NumberField → Nat
  | speed => 4294967295
  | mode => 255

/-- The largest number that is taken. -/
def most : NumberField → Nat
  | speed => 4294967
  | mode => 3

def set (c : Config) (n : Nat) : NumberField → Config
  | speed => { c with speedHz := UInt32.ofNat (n * 1000) }
  | mode => { c with mode := UInt8.ofNat n }

def unreadable (value : String) : NumberField → OptionError
  | speed => .invalidSpeed value
  | mode => .invalidMode value

def outOfRange (n : Nat) : NumberField → OptionError
  | speed => .speedOutOfRange n
  | mode => .modeOutOfRange n

def get (c : Config) : NumberField → Nat
  | speed => c.speedHz.toNat
  | mode => c.mode.toNat

/-- What the configuration has for a number that was given, or for none. -/
def counts : NumberField → Option Nat → Nat
  | speed, kilohertz? => kilohertz?.elim 2000000 fun kilohertz => 1000 * kilohertz
  | mode, mode? => mode?.getD 0

theorem most_le_readable (field : NumberField) : field.most ≤ field.readable := by
  cases field <;> decide

theorem key_inj {field other : NumberField} (h : field.key = other.key) : field = other := by
  revert h
  cases field <;> cases other <;> decide

theorem key_ne (field : NumberField) : field.key ≠ "dev" := by
  cases field <;> decide

theorem device_set (c : Config) (n : Nat) (field : NumberField) : (field.set c n).device = c.device := by
  cases field <;> rfl

theorem get_default (field : NumberField) : field.get {} = field.counts none := by
  cases field <;> rfl

/-- A number that is taken does not wrap around. -/
theorem get_set_self (c : Config) (field : NumberField) {n : Nat} (hmost : n ≤ field.most) :
    field.get (field.set c n) = field.counts (some n) := by
  cases field with
  | speed =>
    have hn : n ≤ 4294967 := hmost
    have hfits : n * 1000 < UInt32.size := by
      show n * 1000 < 4294967296
      omega
    exact (UInt32.toNat_ofNat_of_lt' hfits).trans (Nat.mul_comm n 1000)
  | mode =>
    have hn : n ≤ 3 := hmost
    exact UInt8.toNat_ofNat_of_lt' (Nat.lt_of_le_of_lt hn (by decide))

theorem get_set_of_ne (c : Config) (n : Nat) {field other : NumberField} (hne : other ≠ field) :
    other.get (field.set c n) = other.get c := by
  cases field <;> cases other <;> first | rfl | exact absurd rfl hne

end NumberField

/-- The keys that mean something. -/
def knownKeys : List String := ["dev", "spispeed", "mode"]

theorem mem_knownKeys_iff {key : String} :
    key ∈ knownKeys ↔ key = "dev" ∨ ∃ field : NumberField, key = field.key := by
  constructor
  · intro hkey
    simp only [knownKeys, List.mem_cons, List.not_mem_nil, or_false] at hkey
    rcases hkey with rfl | rfl | rfl
    · exact Or.inl rfl
    · exact Or.inr ⟨.speed, rfl⟩
    · exact Or.inr ⟨.mode, rfl⟩
  · rintro (rfl | ⟨field, rfl⟩)
    · decide
    · cases field <;> decide

/-! ### One option -/

/-- The option names this device file. -/
def Names (option : String × String) (name : String) : Prop := option = ("dev", name)

theorem Names.unique {option : String × String} {name other : String} (h : Names option name)
    (hother : Names option other) : name = other :=
  congrArg Prod.snd (h.symm.trans hother)

/-- The option gives this number. -/
def Gives (field : NumberField) (option : String × String) (n : Nat) : Prop :=
  option.1 = field.key ∧ Positional 10 option.2.toList n

theorem read_decimal_iff (field : NumberField) {value : String} {n : Nat} :
    Text.Numeral.read 10 field.readable value.toList = .ok n ↔
      Positional 10 value.toList n ∧ n ≤ field.readable :=
  Text.Numeral.read_eq_ok_iff_positional (by decide) (by decide)

/-- What is wrong with an option: its value is no number, or one that is too large. -/
inductive Offence : String × String → OptionError → Prop
  | unreadable (field : NumberField) {value : String}
    (hvalue : ∀ n ≤ field.readable, ¬ Positional 10 value.toList n) :
    Offence (field.key, value) (field.unreadable value)
  | outOfRange (field : NumberField) {value : String} {n : Nat} (hvalue : Positional 10 value.toList n)
    (hreadable : n ≤ field.readable) (hmost : field.most < n) : Offence (field.key, value) (field.outOfRange n)

/-- The value of the option is one that its key takes. -/
def Acceptable (option : String × String) : Prop :=
  ∀ field : NumberField, option.1 = field.key → ∃ n, Positional 10 option.2.toList n ∧ n ≤ field.most

/-- What one option makes of the configuration. -/
inductive Taken (c : Config) : String × String → Except OptionError Config → Prop
  | device (name : String) : Taken c ("dev", name) (.ok { c with device := name })
  | number (field : NumberField) {value : String} {n : Nat} (hvalue : Positional 10 value.toList n)
    (hmost : n ≤ field.most) : Taken c (field.key, value) (.ok (field.set c n))
  | unknown {option : String × String} (hkey : option.1 ∉ knownKeys) : Taken c option (.ok c)
  | wrong {option : String × String} {e : OptionError} (hoffence : Offence option e) : Taken c option (.error e)

namespace Config

theorem takeOption_number (c : Config) (field : NumberField) (value : String) :
    takeOption apply c (field.key, value) =
      match Text.Numeral.read 10 field.readable value.toList with
      | .error _ => .error (field.unreadable value)
      | .ok n => if n ≤ field.most then .ok (field.set c n) else .error (field.outOfRange n) := by
  cases field with
  | speed =>
    show (readSpeed value).map _ = match Text.Numeral.read 10 wordMax value.toList with
      | .error _ => _
      | .ok n => if n ≤ 4294967 then _ else _
    rw [readSpeed]
    rcases Text.Numeral.read 10 wordMax value.toList with problem | n
    · rfl
    · -- a word has room for 4294967 times a thousand, and for no more
      have hroom : n * 1000 ≤ wordMax ↔ n ≤ 4294967 := by
        unfold wordMax
        omega
      by_cases hn : n ≤ 4294967
      · simp only [hroom, if_pos hn]
        rfl
      · simp only [hroom, if_neg hn]
        rfl
  | mode =>
    show (readMode value).map _ = match Text.Numeral.read 10 255 value.toList with
      | .error _ => _
      | .ok n => if n ≤ 3 then _ else _
    rw [readMode]
    rcases Text.Numeral.read 10 255 value.toList with problem | n
    · rfl
    · by_cases hn : n ≤ 3
      · simp only [if_pos hn]
        rfl
      · simp only [if_neg hn]
        rfl

theorem takeOption_unknown (c : Config) {option : String × String} (hkey : option.1 ∉ knownKeys) :
    takeOption apply c option = .ok c := by
  obtain ⟨key, value⟩ := option
  have hnone : apply c key value = none := by
    unfold apply
    split
    · exact absurd (by decide : "dev" ∈ knownKeys) hkey
    · exact absurd (by decide : "spispeed" ∈ knownKeys) hkey
    · exact absurd (by decide : "mode" ∈ knownKeys) hkey
    · rfl
  rw [takeOption, hnone]
  rfl

theorem takeOption_of_number (c : Config) (field : NumberField) {value : String} {n : Nat}
    (hvalue : Positional 10 value.toList n) (hmost : n ≤ field.most) :
    takeOption apply c (field.key, value) = .ok (field.set c n) := by
  have hread : Text.Numeral.read 10 field.readable value.toList = .ok n :=
    (read_decimal_iff field).mpr ⟨hvalue, Nat.le_trans hmost field.most_le_readable⟩
  rw [takeOption_number, hread]
  exact if_pos hmost

theorem takeOption_of_offence (c : Config) {option : String × String} {e : OptionError}
    (h : Offence option e) : takeOption apply c option = .error e := by
  cases h with
  | @unreadable field value hvalue =>
    rw [takeOption_number]
    rcases hread : Text.Numeral.read 10 field.readable value.toList with problem | n
    · rfl
    · obtain ⟨hn, hreadable⟩ := (read_decimal_iff field).mp hread
      exact absurd hn (hvalue n hreadable)
  | @outOfRange field value n hvalue hreadable hmost =>
    rw [takeOption_number, (read_decimal_iff field).mpr ⟨hvalue, hreadable⟩]
    exact if_neg (Nat.not_le.mpr hmost)

theorem taken_number (c : Config) (field : NumberField) (value : String) :
    Taken c (field.key, value) (takeOption apply c (field.key, value)) := by
  rcases hread : Text.Numeral.read 10 field.readable value.toList with problem | n
  · have hoffence : Offence (field.key, value) (field.unreadable value) := by
      apply Offence.unreadable
      intro n hn hvalue
      rw [(read_decimal_iff field).mpr ⟨hvalue, hn⟩] at hread
      cases hread
    rw [takeOption_of_offence c hoffence]
    exact .wrong hoffence
  · obtain ⟨hvalue, hreadable⟩ := (read_decimal_iff field).mp hread
    rcases Nat.lt_or_ge field.most n with hmost | hmost
    · have hoffence := Offence.outOfRange field hvalue hreadable hmost
      rw [takeOption_of_offence c hoffence]
      exact .wrong hoffence
    · rw [takeOption_of_number c field hvalue hmost]
      exact .number field hvalue hmost

theorem taken (c : Config) (option : String × String) : Taken c option (takeOption apply c option) := by
  obtain ⟨key, value⟩ := option
  by_cases hkey : key ∈ knownKeys
  · rcases mem_knownKeys_iff.mp hkey with rfl | ⟨field, rfl⟩
    · exact .device value
    · exact taken_number c field value
  · rw [takeOption_unknown c hkey]
    exact .unknown hkey

/-- An option is an error exactly if something is wrong with it, whatever was said before. -/
theorem takeOption_eq_error_iff (c : Config) (option : String × String) (e : OptionError) :
    takeOption apply c option = .error e ↔ Offence option e := by
  constructor
  · intro herror
    have htaken := c.taken option
    rw [herror] at htaken
    cases htaken with
    | wrong hoffence => exact hoffence
  · exact takeOption_of_offence c

theorem exists_takeOption_iff (c : Config) (option : String × String) :
    (∃ next, takeOption apply c option = .ok next) ↔ Acceptable option := by
  constructor
  · rintro ⟨next, hnext⟩ field hfield
    have htaken := c.taken option
    rw [hnext] at htaken
    cases htaken with
    | device name => exact absurd hfield.symm field.key_ne
    | number other hvalue hmost =>
      obtain rfl := NumberField.key_inj hfield
      exact ⟨_, hvalue, hmost⟩
    | unknown hkey => exact absurd (mem_knownKeys_iff.mpr (Or.inr ⟨field, hfield⟩)) hkey
  · intro hacceptable
    obtain ⟨key, value⟩ := option
    by_cases hkey : key ∈ knownKeys
    · rcases mem_knownKeys_iff.mp hkey with rfl | ⟨field, rfl⟩
      · exact ⟨_, rfl⟩
      · obtain ⟨n, hvalue, hmost⟩ := hacceptable field rfl
        exact ⟨_, takeOption_of_number c field hvalue hmost⟩
    · exact ⟨c, takeOption_unknown c hkey⟩

end Config

/-! ### Lists of options -/

/-- The configuration that options describe. -/
structure Describes (options : Options) (c : Config) : Prop where
  device : ∃ name?, LastTold Names options name? ∧ c.device = name?.getD ""
  number : ∀ field : NumberField, ∃ n?, LastTold (Gives field) options n? ∧ field.get c = field.counts n?

namespace Describes

variable {options : Options} {c next : Config} {option : String × String}

theorem nil : Describes [] {} where
  device := ⟨none, fun _ hmem => absurd hmem List.not_mem_nil, rfl⟩
  number field := ⟨none, fun _ hmem => absurd hmem List.not_mem_nil, field.get_default⟩

/-- An option leaves what it does not speak of. -/
theorem device_unsaid (h : Describes options c) (hkey : option.1 ≠ "dev") :
    ∃ name?, LastTold Names (options ++ [option]) name? ∧ c.device = name?.getD "" := by
  obtain ⟨name?, hlast, hdevice⟩ := h.device
  exact ⟨name?, hlast.unsaid fun name hnames => hkey (congrArg Prod.fst hnames), hdevice⟩

theorem number_unsaid (h : Describes options c) (option : String × String) {field : NumberField}
    (hkey : option.1 ≠ field.key) :
    ∃ n?, LastTold (Gives field) (options ++ [option]) n? ∧ field.get c = field.counts n? := by
  obtain ⟨n?, hlast, hget⟩ := h.number field
  exact ⟨n?, hlast.unsaid fun n hgives => hkey hgives.1, hget⟩

/-- One more option. -/
theorem taken (h : Describes options c) (htaken : Taken c option (.ok next)) :
    Describes (options ++ [option]) next := by
  cases htaken with
  | device name =>
    refine ⟨⟨some name, LastTold.said rfl, rfl⟩, ?_⟩
    intro field
    obtain ⟨n?, hlast, hget⟩ := h.number_unsaid ("dev", name) field.key_ne.symm
    exact ⟨n?, hlast, by cases field <;> exact hget⟩
  | @number field value n hvalue hmost =>
    constructor
    · rw [NumberField.device_set]
      exact h.device_unsaid field.key_ne
    · intro other
      by_cases hother : other = field
      · subst hother
        exact ⟨some n, LastTold.said ⟨rfl, hvalue⟩, other.get_set_self c hmost⟩
      · have hkey : field.key ≠ other.key := fun heq => hother (NumberField.key_inj heq).symm
        rw [NumberField.get_set_of_ne c n hother]
        exact h.number_unsaid (field.key, value) hkey
  | unknown hkey =>
    constructor
    · exact h.device_unsaid fun hdev => hkey (mem_knownKeys_iff.mpr (Or.inl hdev))
    · intro field
      exact h.number_unsaid option fun hfield => hkey (mem_knownKeys_iff.mpr (Or.inr ⟨field, hfield⟩))

/-- The file is named by the last option that names one, and not by an empty name. -/
theorem device_ne_empty_iff (h : Describes options c) :
    c.device ≠ "" ↔ ∃ name, LastTold Names options (some name) ∧ name ≠ "" := by
  obtain ⟨name?, hlast, hdevice⟩ := h.device
  rw [hdevice]
  constructor
  · intro hne
    rcases name? with _ | name
    · exact absurd rfl hne
    · exact ⟨name, hlast, hne⟩
  · rintro ⟨name, hother, hne⟩
    obtain rfl := hlast.unique (fun hnames => hnames.unique) hother
    exact hne

theorem of_foldlM (hread : options.foldlM (takeOption Config.apply) ({} : Config) = .ok c) :
    Describes options c := by
  refine Programmer.foldlM_keeps Describes ?_ options nil hread
  intro done c option next h hstep
  have htaken := c.taken option
  rw [hstep] at htaken
  exact h.taken htaken

end Describes

/-! ### Reading -/

/-- The first option that is not acceptable, and what is wrong with it. -/
def FirstOffence (options : Options) (e : OptionError) : Prop :=
  ∃ before option later, options = before ++ option :: later ∧ (∀ o ∈ before, Acceptable o) ∧ Offence option e

namespace Config

theorem exists_foldlM_iff (options : Options) :
    (∃ c, options.foldlM (takeOption apply) ({} : Config) = .ok c) ↔ ∀ option ∈ options, Acceptable option :=
  Programmer.exists_foldlM_iff exists_takeOption_iff

theorem foldlM_eq_error_iff {options : Options} {e : OptionError} :
    options.foldlM (takeOption apply) ({} : Config) = .error e ↔ FirstOffence options e :=
  Programmer.foldlM_eq_error_iff exists_takeOption_iff takeOption_eq_error_iff

/-- Options with other keys might as well not be there. -/
theorem foldlM_known (options : Options) (c : Config) :
    (options.filter fun option => decide (option.1 ∈ knownKeys)).foldlM (takeOption apply) c =
      options.foldlM (takeOption apply) c :=
  Programmer.foldlM_known (fun config _ hkey => takeOption_unknown config hkey) options c

section

variable {σ : Type} {options : Options} {s : σ} {c : Config} {e : OptionError}

theorem read_value (options : Options) (s : σ) :
    (run (read options) s).value = (options.foldlM (takeOption apply) {}).bind fun c =>
      if c.device = "" then .error .missingDevice else .ok c := by
  simp only [read, Action.run_bind, Programmer.readOptions_value]
  rcases options.foldlM (takeOption apply) ({} : Config) with e | c
  · rfl
  · show (run (if c.device = "" then _ else _) _).value = if c.device = "" then _ else _
    split
    · rfl
    · rfl

theorem read_eq_ok_iff :
    (run (read options) s).value = .ok c ↔
      options.foldlM (takeOption apply) {} = .ok c ∧ c.device ≠ "" := by
  rw [read_value]
  rcases options.foldlM (takeOption apply) ({} : Config) with e | reached
  · simp [Except.bind]
  · show (if reached.device = "" then _ else _) = _ ↔ _
    split
    · rename_i hdevice
      constructor
      · intro h
        cases h
      · rintro ⟨h, hne⟩
        cases h
        exact absurd hdevice hne
    · rename_i hdevice
      constructor
      · intro h
        cases h
        exact ⟨rfl, hdevice⟩
      · exact fun h => h.1

theorem read_eq_error_iff :
    (run (read options) s).value = .error e ↔ options.foldlM (takeOption apply) ({} : Config) = .error e ∨
      ∃ c, options.foldlM (takeOption apply) {} = .ok c ∧ c.device = "" ∧ e = .missingDevice := by
  rw [read_value]
  rcases options.foldlM (takeOption apply) ({} : Config) with e' | reached
  · simp [Except.bind]
  · show (if reached.device = "" then _ else _) = _ ↔ _
    split
    · rename_i hdevice
      constructor
      · intro h
        cases h
        exact Or.inr ⟨reached, rfl, hdevice, rfl⟩
      · rintro (h | ⟨c, -, -, rfl⟩)
        · cases h
        · rfl
    · rename_i hdevice
      constructor
      · intro h
        cases h
      · rintro (h | ⟨c, h, hc, -⟩)
        · cases h
        · cases h
          exact absurd hc hdevice

end

end Config

/-- The options of a kernel device are read by their meaning.  Reading succeeds if each speed and each mode is a
number that is not too large, and the last name of a device file is not empty.  The configuration then has this
file, and the last speed and the last mode or else the usual ones; the speed in hertz is exactly a thousand times
the number.  Otherwise the error is that of the first option that is wrong, and only if there is none is it that no
device was named.  Options with other keys change nothing. -/
theorem device_options_read_by_meaning {σ : Type} (options : Options) (s : σ) :
    let reading := (run (Config.read options) s).value
    ((∃ c, reading = .ok c) ↔ (∀ option ∈ options, Acceptable option) ∧
      ∃ name, LastTold Names options (some name) ∧ name ≠ "") ∧
    (∀ c, reading = .ok c → LastTold Names options (some c.device) ∧
      (∃ kilohertz?, LastTold (Gives .speed) options kilohertz? ∧
        c.speedHz.toNat = kilohertz?.elim 2000000 fun kilohertz => 1000 * kilohertz) ∧
      ∃ mode?, LastTold (Gives .mode) options mode? ∧ c.mode.toNat = mode?.getD 0) ∧
    (∀ e, reading = .error e ↔ FirstOffence options e ∨ (∀ option ∈ options, Acceptable option) ∧
      (∀ name, LastTold Names options (some name) → name = "") ∧ e = .missingDevice) ∧
    let known := options.filter fun option => decide (option.1 ∈ knownKeys)
    (run (Config.read known) s).value = reading := by
  intro reading
  have hnamed : ∀ {c}, options.foldlM (takeOption Config.apply) {} = .ok c →
      (c.device ≠ "" ↔ ∃ name, LastTold Names options (some name) ∧ name ≠ "") :=
    fun hread => (Describes.of_foldlM hread).device_ne_empty_iff
  refine ⟨?_, ?_, ?_, ?_⟩
  · constructor
    · rintro ⟨c, hc⟩
      obtain ⟨hread, hdevice⟩ := Config.read_eq_ok_iff.mp hc
      exact ⟨(Config.exists_foldlM_iff options).mp ⟨c, hread⟩, (hnamed hread).mp hdevice⟩
    · rintro ⟨hacceptable, hname⟩
      obtain ⟨c, hread⟩ := (Config.exists_foldlM_iff options).mpr hacceptable
      exact ⟨c, Config.read_eq_ok_iff.mpr ⟨hread, (hnamed hread).mpr hname⟩⟩
  · intro c hc
    obtain ⟨hread, hdevice⟩ := Config.read_eq_ok_iff.mp hc
    have hdescribes := Describes.of_foldlM hread
    refine ⟨?_, hdescribes.number .speed, hdescribes.number .mode⟩
    obtain ⟨name?, hlast, hname⟩ := hdescribes.device
    rcases name? with _ | name
    · exact absurd hname hdevice
    · rw [hname]
      exact hlast
  · intro e
    rw [Config.read_eq_error_iff, Config.foldlM_eq_error_iff]
    constructor
    · rintro (hoffence | ⟨c, hread, hdevice, rfl⟩)
      · exact Or.inl hoffence
      · refine Or.inr ⟨(Config.exists_foldlM_iff options).mp ⟨c, hread⟩, ?_, rfl⟩
        intro name hlast
        by_contra hne
        exact (hnamed hread).mpr ⟨name, hlast, hne⟩ hdevice
    · rintro (hoffence | ⟨hacceptable, hunnamed, rfl⟩)
      · exact Or.inl hoffence
      · obtain ⟨c, hread⟩ := (Config.exists_foldlM_iff options).mpr hacceptable
        refine Or.inr ⟨c, hread, ?_, rfl⟩
        by_contra hdevice
        obtain ⟨name, hlast, hne⟩ := (hnamed hread).mp hdevice
        exact hne (hunnamed name hlast)
  · intro known
    rw [Config.read_value, Config.foldlM_known, ← Config.read_value options s]

/-- A file named twice, a speed with zeros before it and then the largest one, and a key that means nothing; with a
mode too large, or with an empty name at the end, the reading fails. -/
theorem device_options_read_by_meaning_when_repeated :
    let options : Options :=
      [("dev", ""), ("spispeed", "+0004000"), ("colour", "red"), ("mode", "3"), ("dev", "/dev/spidev1.0"),
        ("spispeed", "4294967")]
    let reading := fun options => (run (Config.read options) ()).value
    reading options = .ok ⟨"/dev/spidev1.0", 4294967000, 3⟩ ∧
    LastTold Names options (some "/dev/spidev1.0") ∧ LastTold (Gives .speed) options (some 4294967) ∧
    LastTold (Gives .mode) options (some 3) ∧
    FirstOffence (options ++ [("mode", "4"), ("spispeed", "fast"), ("mode", "0")]) (.modeOutOfRange 4) ∧
    reading (options ++ [("dev", "")]) = .error .missingDevice := by
  intro options reading
  have hreading : reading options = .ok ⟨"/dev/spidev1.0", 4294967000, 3⟩ := by decide +kernel
  obtain ⟨hdevice, ⟨kilohertz?, hspeed, hkilohertz⟩, mode?, hmode, hthree⟩ :=
    (device_options_read_by_meaning options ()).2.1 _ hreading
  have hfull : kilohertz? = some 4294967 := by
    rcases kilohertz? with _ | kilohertz
    · cases hkilohertz
    · have hexact : 4294967000 = 1000 * kilohertz := hkilohertz
      congr 1
      omega
  have hlast : mode? = some 3 := by
    rcases mode? with _ | mode
    · cases hthree
    · exact congrArg some hthree.symm
  subst hfull hlast
  refine ⟨hreading, hdevice, hspeed, hmode, ?_, by decide +kernel⟩
  have hwrong : reading (options ++ [("mode", "4"), ("spispeed", "fast"), ("mode", "0")]) =
      .error (.modeOutOfRange 4) := by decide +kernel
  rcases ((device_options_read_by_meaning _ ()).2.2.1 _).mp hwrong with hoffence | ⟨-, -, hmissing⟩
  · exact hoffence
  · cases hmissing

end FlashIdent.Spidev
