import FlashIdent.Identity.Decoding

/-!
# What the lines of a decoding say

A decoder looks a few things up in its table and writes lines about them.  The identity follows from what was
looked up, and so do the lines.  Here both are written as functions of the findings alone, and the findings are
read back from the lines.  So two decodings with the same lines are the same decoding, even if they were made
with different tables.

The lines of the two decoders are told apart by their first character: the first line about a JEDEC ID opens
with a capital J, and no line about a manufacturer and a device byte does.
-/

namespace FlashIdent

/-! ### Lines -/

namespace Text

/-- The first character, by which most lines are told apart. -/
def first? (s : String) : Option Char := s.toList.head?

@[simp] theorem newline_not_mem_byte (b : UInt8) : '\n' ∉ (Hex.byte b).toList := by
  intro hmem
  rw [Hex.byte, String.toList_ofList] at hmem
  obtain ⟨d, hd, hdigit⟩ := Hex.exists_digit_of_mem_fixed hmem
  have hall : ∀ d : Fin 16, '\n' ≠ Hex.digit .small d := by decide
  exact hall ⟨d, hd⟩ hdigit

end Text

/-- No name that a table gives has a newline in it. -/
structure Chip.Table.OneLine (t : Chip.Table) : Prop where
  vendors : ∀ vendor ∈ t.vendors, '\n' ∉ vendor.name.toList
  rems : ∀ model ∈ t.rems, '\n' ∉ model.name.toList
  jedec : ∀ model ∈ t.jedec, '\n' ∉ model.name.toList

namespace Chip.Table.OneLine

variable {t : Chip.Table}

theorem vendor? (h : t.OneLine) {manufacturer : UInt8} {name : String}
    (hfound : t.vendor? manufacturer = some name) : '\n' ∉ name.toList := by
  obtain ⟨vendor, hvendor, rfl⟩ := Option.map_eq_some_iff.mp hfound
  exact h.vendors vendor (List.mem_of_find?_eq_some hvendor)

theorem rems? (h : t.OneLine) {manufacturer device : UInt8} {model : Chip.Model}
    (hfound : t.rems? manufacturer device = some model) : '\n' ∉ model.name.toList :=
  h.rems model (List.mem_of_find?_eq_some hfound)

theorem jedec? (h : t.OneLine) {code : UInt16} {model : Chip.Model} (hfound : t.jedec? code = some model) :
    '\n' ∉ model.name.toList :=
  h.jedec model (List.mem_of_find?_eq_some hfound)

end Chip.Table.OneLine

namespace Decoding

open Text (first?)

/-- The line opens as the lines about the bytes of a JEDEC ID do. -/
def opensJedec (line : String) : Bool := first? line == some 'J'

/-! ### The manufacturer and device bytes -/

/-- The identity that stands behind a manufacturer and a device byte. -/
inductive Identifies (table : Chip.Table) (manufacturer device : UInt8) : Identity → Prop where
  | known {vendor : String} {model : Chip.Model} (hvendor : table.vendor? manufacturer = some vendor)
      (hmodel : table.rems? manufacturer device = some model) :
      Identifies table manufacturer device (.known vendor model.name)
  | modelUnknown {vendor : String} (hvendor : table.vendor? manufacturer = some vendor)
      (hmodel : table.rems? manufacturer device = none) :
      Identifies table manufacturer device (.modelUnknown vendor device.toUInt16)
  | absent (hvendor : table.vendor? manufacturer = none) (hsilent : manufacturer = silentLow) :
      Identifies table manufacturer device .absent
  | unrecognized (hvendor : table.vendor? manufacturer = none) (hsilent : manufacturer ≠ silentLow) :
      Identifies table manufacturer device (.unrecognized manufacturer)

/-- The lines about such an identity. -/
def deviceLines : Identity → List String
  | .known vendor model => ["Found " ++ vendor ++ " device", "Device ID: " ++ model]
  | .modelUnknown vendor code =>
    ["Found " ++ vendor ++ " device", "unknown device ID: " ++ Text.Hex.byte code.toUInt8]
  | .absent => ["chip not connected"]
  | .unrecognized manufacturer => ["unknown manufacturer ID: " ++ Text.Hex.byte manufacturer]

theorem identifies_ofDevice (table : Chip.Table) (manufacturer device : UInt8) :
    ∃ identity, Identifies table manufacturer device identity ∧
      ofDevice table manufacturer device = ⟨identity, deviceLines identity⟩ := by
  rcases hvendor : table.vendor? manufacturer with _ | vendor
  · by_cases hsilent : manufacturer = silentLow
    · exact ⟨_, .absent hvendor hsilent, by rw [ofDevice, hvendor, hsilent]; rfl⟩
    · exact ⟨_, .unrecognized hvendor hsilent, by simp [ofDevice, hvendor, hsilent, deviceLines]⟩
  · rcases hmodel : table.rems? manufacturer device with _ | model
    · exact ⟨_, .modelUnknown hvendor hmodel, by simp [ofDevice, hvendor, hmodel, deviceLines]⟩
    · exact ⟨_, .known hvendor hmodel, by simp [ofDevice, hvendor, hmodel, deviceLines]⟩

/-- The manufacturer and the device byte of an answer frame. -/
def deviceBytes? : Bytes → Option (UInt8 × UInt8)
  | [_, _, _, _, manufacturer, device] => some (manufacturer, device)
  | _ => none

/-- Which bytes of a frame count does not depend on the table. -/
theorem ofFrame?_eq (table : Chip.Table) (frame : Bytes) :
    ofFrame? table frame = (deviceBytes? frame).map fun bytes => ofDevice table bytes.1 bytes.2 := by
  unfold ofFrame?
  split
  · rfl
  · rename_i hother
    rw [deviceBytes?.eq_2 frame hother]
    rfl

theorem eq_ofDevice_of_ofFrame? {table : Chip.Table} {frame : Bytes} {decoding : Decoding}
    (h : ofFrame? table frame = some decoding) :
    ∃ manufacturer device, decoding = ofDevice table manufacturer device := by
  rw [ofFrame?_eq] at h
  obtain ⟨bytes, -, rfl⟩ := Option.map_eq_some_iff.mp h
  exact ⟨bytes.1, bytes.2, rfl⟩

theorem newline_not_mem_ofDevice {table : Chip.Table} (htable : table.OneLine) {manufacturer device : UInt8}
    {line : String} (hline : line ∈ (ofDevice table manufacturer device).lines) : '\n' ∉ line.toList := by
  obtain ⟨identity, hidentity, hdecoding⟩ := identifies_ofDevice table manufacturer device
  rw [hdecoding] at hline
  cases hidentity with
  | known hvendor hmodel =>
    have hname := htable.vendor? hvendor
    have hname' := htable.rems? hmodel
    obtain rfl | rfl : _ ∨ _ := by simpa [deviceLines] using hline
    · simp [hname]
    · simp [hname']
  | modelUnknown hvendor =>
    have hname := htable.vendor? hvendor
    obtain rfl | rfl : _ ∨ _ := by simpa [deviceLines] using hline
    · simp [hname]
    · simp
  | absent => simp_all [deviceLines]
  | unrecognized => simp_all [deviceLines]

theorem opensJedec_ofDevice {table : Chip.Table} {manufacturer device : UInt8} {line : String}
    (hline : line ∈ (ofDevice table manufacturer device).lines) : opensJedec line = false := by
  obtain ⟨identity, -, hdecoding⟩ := identifies_ofDevice table manufacturer device
  rw [hdecoding] at hline
  cases identity with
  | known vendor model =>
    obtain rfl | rfl : _ ∨ _ := by simpa [deviceLines] using hline
    all_goals simp [opensJedec, first?]
  | modelUnknown vendor code =>
    obtain rfl | rfl : _ ∨ _ := by simpa [deviceLines] using hline
    all_goals simp [opensJedec, first?]
  | absent => simp_all [deviceLines, opensJedec, first?]
  | unrecognized manufacturer => simp_all [deviceLines, opensJedec, first?]

theorem ofDevice_lines_ne_nil (table : Chip.Table) (manufacturer device : UInt8) :
    (ofDevice table manufacturer device).lines ≠ [] := by
  obtain ⟨identity, -, hdecoding⟩ := identifies_ofDevice table manufacturer device
  rw [hdecoding]
  cases identity <;> exact List.cons_ne_nil _ _

/-- The tables and the bytes may differ: it is the lines that count. -/
theorem deviceLines_inj {table table' : Chip.Table} {manufacturer manufacturer' device device' : UInt8}
    {i j : Identity} (hi : Identifies table manufacturer device i) (hj : Identifies table' manufacturer' device' j)
    (h : deviceLines i = deviceLines j) : i = j := by
  -- The first characters of the lines tell the four kinds of identity apart.
  have hfirst : (deviceLines i).map first? = (deviceLines j).map first? := congrArg (List.map first?) h
  cases hi with
  | known =>
    cases hj with
    | known => simpa [deviceLines] using h
    | _ => simp [deviceLines, first?] at hfirst
  | modelUnknown =>
    cases hj with
    | modelUnknown =>
      obtain ⟨hvendor, hdevice⟩ : _ ∧ device = device' := by simpa [deviceLines, Text.Hex.byte_inj] using h
      rw [hvendor, hdevice]
    | _ => simp [deviceLines, first?] at hfirst
  | absent =>
    cases hj with
    | absent => rfl
    | _ => simp [deviceLines, first?] at hfirst
  | unrecognized =>
    cases hj with
    | unrecognized => simpa [deviceLines, Text.Hex.byte_inj] using h
    | _ => simp [deviceLines, first?] at hfirst

theorem ofDevice_of_lines_eq {table table' : Chip.Table} {manufacturer manufacturer' device device' : UInt8}
    (h : (ofDevice table manufacturer device).lines = (ofDevice table' manufacturer' device').lines) :
    ofDevice table manufacturer device = ofDevice table' manufacturer' device' := by
  obtain ⟨i, hi, hdecoding⟩ := identifies_ofDevice table manufacturer device
  obtain ⟨j, hj, hdecoding'⟩ := identifies_ofDevice table' manufacturer' device'
  rw [hdecoding, hdecoding'] at h ⊢
  rw [deviceLines_inj hi hj h]

/-! ### The JEDEC ID -/

/-- What the decoder of a JEDEC ID finds. -/
structure Findings where
  id : JedecId
  vendor? : Option String
  model? : Option String

namespace Findings

def identity (f : Findings) : Identity :=
  match f.vendor?, f.model? with
  | some vendor, some model => .known vendor model
  | some vendor, none => .modelUnknown vendor f.id.code
  | none, _ =>
    if f.id.manufacturer = silentLow ∨ f.id.manufacturer = silentHigh then .absent
    else .unrecognized f.id.manufacturer

def vendorLines (vendor? : Option String) : List String :=
  vendor?.toList.map fun vendor => vendor ++ " device found"

def modelLine : Option String → String
  | some model => "Device: " ++ model
  | none => "unknown device"

def lines (f : Findings) : List String := rawLines f.id ++ vendorLines f.vendor? ++ [modelLine f.model?]

/-- What a decoder with this table finds. -/
def look (table : Chip.Table) (id : JedecId) : Findings :=
  ⟨id, table.vendor? id.manufacturer, (table.jedec? id.code).map Chip.Model.name⟩

end Findings

theorem ofJedecId_eq (table : Chip.Table) (id : JedecId) :
    ofJedecId table id = ⟨(Findings.look table id).identity, (Findings.look table id).lines⟩ := by
  rcases hvendor : table.vendor? id.manufacturer with _ | vendor <;>
    rcases hmodel : table.jedec? id.code with _ | model <;>
    simp [ofJedecId, jedecIdentity, Findings.look, Findings.identity, Findings.lines, Findings.vendorLines,
      Findings.modelLine, hvendor, hmodel]

theorem rawLines_inj {a b : JedecId} (h : rawLines a = rawLines b) : a = b := by
  cases a
  cases b
  simpa [rawLines, Text.Hex.byte_inj] using h

theorem Findings.vendorLines_inj {v w : Option String} (h : vendorLines v = vendorLines w) : v = w := by
  cases v <;> cases w <;> simp_all [vendorLines]

theorem Findings.modelLine_inj {m n : Option String} (h : modelLine m = modelLine n) : m = n := by
  have hfirst : first? (modelLine m) = first? (modelLine n) := congrArg first? h
  cases m with
  | none =>
    cases n with
    | none => rfl
    | some model' => simp [modelLine, first?] at hfirst
  | some model =>
    cases n with
    | none => simp [modelLine, first?] at hfirst
    | some model' => simpa [modelLine] using h

theorem Findings.lines_inj {f g : Findings} (h : f.lines = g.lines) : f = g := by
  obtain ⟨hfirst, hmodel⟩ := List.append_inj' h rfl
  obtain ⟨hraw, hvendor⟩ := List.append_inj hfirst rfl
  cases f
  cases g
  rw [Findings.mk.injEq]
  exact ⟨rawLines_inj hraw, vendorLines_inj hvendor, modelLine_inj (List.singleton_inj.mp hmodel)⟩

theorem ofJedecId_of_lines_eq {table table' : Chip.Table} {id id' : JedecId}
    (h : (ofJedecId table id).lines = (ofJedecId table' id').lines) :
    ofJedecId table id = ofJedecId table' id' := by
  rw [ofJedecId_eq, ofJedecId_eq] at h ⊢
  rw [Findings.lines_inj h]

theorem newline_not_mem_ofJedecId {table : Chip.Table} (htable : table.OneLine) {id : JedecId} {line : String}
    (hline : line ∈ (ofJedecId table id).lines) : '\n' ∉ line.toList := by
  rw [ofJedecId_eq, Findings.lines, List.mem_append, List.mem_append, List.mem_singleton] at hline
  rcases hline with (hraw | hvendor) | rfl
  · obtain rfl | rfl | rfl : _ ∨ _ ∨ _ := by simpa [rawLines] using hraw
    all_goals simp
  · obtain ⟨vendor, hfound, rfl⟩ := List.mem_map.mp hvendor
    simp [htable.vendor? (Option.mem_toList.mp hfound)]
  · rcases hmodel : table.jedec? id.code with _ | model
    · simp [Findings.look, hmodel, Findings.modelLine]
    · simp [Findings.look, hmodel, Findings.modelLine, htable.jedec? hmodel]

theorem opensJedec_ofJedecId (table : Chip.Table) (id : JedecId) :
    ∃ first later, (ofJedecId table id).lines = first :: later ∧ opensJedec first = true :=
  ⟨_, _, rfl, by simp [opensJedec, first?]⟩

end Decoding

end FlashIdent
