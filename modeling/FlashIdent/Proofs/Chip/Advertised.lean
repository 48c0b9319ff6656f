import FlashIdent.Proofs.Chip.Printed
import FlashIdent.Proofs.Emulator.Probing
import FlashIdent.Proofs.Text.Hex

/-!
# The list of chips and the decoders

The list shows what the table is about, and the decoders say what the table recognises.  They look the same chips up
in different ways.  The device byte in a row is looked up by manufacturer and name, and decoded by manufacturer and
byte.  The JEDEC ID in a row is that of any entry, and is decoded by its code alone.  Each lookup takes the first
entry that fits.  So the two agree on a chip that is the first with its code, and on a device byte that stands for no
other name of the manufacturer.

The bytes are read off the row as it is printed: either column determines them.
-/

namespace FlashIdent

open FlashIdent.Action (run)
open Text.Hex (capitalByte capitalWord)

/-! ### Printed bytes -/

namespace JedecId

/-- The bytes as a row shows them. -/
def printed (id : JedecId) : String :=
  capitalByte id.manufacturer ++ " " ++ (capitalByte id.memoryType ++ capitalByte id.capacity)

theorem toNat_code (id : JedecId) : id.code.toNat = id.memoryType.toNat * 256 + id.capacity.toNat := by
  have hhigh : (id.memoryType.toUInt16 <<< 8).toNat = id.memoryType.toNat <<< 8 := by
    have hbyte := id.memoryType.toNat_lt
    simp only [UInt16.toNat_shiftLeft, UInt8.toNat_toUInt16]
    show id.memoryType.toNat <<< 8 % 65536 = _
    rw [Nat.shiftLeft_eq]
    omega
  rw [code, capacityCode, UInt16.toNat_or, hhigh, UInt8.toNat_toUInt16,
    ← Nat.shiftLeft_add_eq_or_of_lt id.capacity.toNat_lt, Nat.shiftLeft_eq]

/-- The word shows the same digits as the two bytes. -/
theorem capitalWord_code (id : JedecId) :
    capitalWord id.code = capitalByte id.memoryType ++ capitalByte id.capacity := by
  have hdigits : Text.Hex.fixed .capital 4 (id.memoryType.toNat * 256 + id.capacity.toNat) =
      Text.Hex.fixed .capital 2 id.memoryType.toNat ++ Text.Hex.fixed .capital 2 id.capacity.toNat :=
    Text.Hex.fixed_add (v := 2) 2 id.memoryType.toNat id.capacity.toNat_lt
  rw [capitalWord, toNat_code, hdigits, String.ofList_append]
  rfl

theorem printed_inj {a b : JedecId} : a.printed = b.printed ↔ a = b := by
  constructor
  · intro h
    have htext := congrArg String.toList h
    simp only [printed, capitalByte, String.toList_append, String.toList_ofList] at htext
    -- the parts have fixed widths, so they are cut off from the end
    obtain ⟨hfront, hback⟩ := List.append_inj' htext (by simp)
    obtain ⟨hmanufacturer, -⟩ := List.append_inj' hfront rfl
    obtain ⟨hmemoryType, hcapacity⟩ := List.append_inj' hback (by simp)
    have hbyte : ∀ {x y : UInt8},
        Text.Hex.fixed .capital 2 x.toNat = Text.Hex.fixed .capital 2 y.toNat → x = y :=
      fun hdigits => Text.Hex.capitalByte_inj.mp (congrArg String.ofList hdigits)
    cases a
    cases b
    rw [mk.injEq]
    exact ⟨hbyte hmanufacturer, hbyte hmemoryType, hbyte hcapacity⟩
  · rintro rfl
    rfl

end JedecId

namespace Chip

/-! ### Rows -/

namespace Model

/-- The column of a row about the JEDEC ID. -/
def idText (m : Model) : String := capitalByte m.manufacturer ++ " " ++ capitalWord m.code

/-- The bytes that a chip with this entry answers the JEDEC ID command with. -/
def jedecId (m : Model) : JedecId := ⟨m.manufacturer, (m.code >>> 8).toUInt8, m.code.toUInt8⟩

theorem code_jedecId (m : Model) : m.jedecId.code = m.code := by
  have hhigh : (m.code >>> 8).toUInt8.toNat = m.code.toNat / 256 := by
    have hword := m.code.toNat_lt
    simp only [UInt16.toNat_toUInt8, UInt16.toNat_shiftRight]
    show m.code.toNat >>> 8 % 256 = _
    rw [Nat.shiftRight_eq_div_pow]
    omega
  have hlow : m.code.toUInt8.toNat = m.code.toNat % 256 := UInt16.toNat_toUInt8 m.code
  rw [← UInt16.toNat_inj, JedecId.toNat_code]
  show (m.code >>> 8).toUInt8.toNat * 256 + m.code.toUInt8.toNat = m.code.toNat
  omega

/-- The column shows these bytes and no others. -/
theorem printed_eq_idText_iff {m : Model} {id : JedecId} : id.printed = m.idText ↔ id = m.jedecId := by
  have htext : m.jedecId.printed = m.idText := by
    rw [idText, ← m.code_jedecId, JedecId.capitalWord_code]
    rfl
  rw [← htext, JedecId.printed_inj]

end Model

namespace Table

variable {t : Table} {filter : Option String} {chip : Model} {vendor : String} {device : UInt8}

/-- The column of a row about the device byte. -/
def remsText (t : Table) (m : Model) : String :=
  match t.remsCode? m with
  | some code => String.ofList (Text.Hex.padded .capital 2 code.toNat)
  | none => "-"

/-- A byte in the column is the code that was looked up; a larger code shows more digits. -/
theorem capitalByte_eq_remsText_iff : capitalByte device = t.remsText chip ↔
    t.remsCode? chip = some device.toUInt16 := by
  rw [remsText, capitalByte]
  rcases t.remsCode? chip with _ | code
  · constructor
    · intro h
      have hlength := congrArg String.length h
      simp only [String.length_ofList, Text.Hex.length_fixed] at hlength
      exact absurd hlength (by decide)
    · intro h
      cases h
  · rw [String.ofList_inj, eq_comm, Text.Hex.padded_eq_fixed_iff device.toNat_lt, Option.some.injEq,
      ← UInt16.toNat_inj, UInt8.toNat_toUInt16]

/-- Where a chip is listed, every vendor counts or some vendor contains the filter. -/
theorem all_knowsVendor_of_listed (h : chip ∈ t.listed filter) : filter.all t.knowsVendor = true := by
  by_contra hunknown
  rw [listed, if_neg hunknown] at h
  exact List.not_mem_nil h

theorem row_eq (hvendor : t.vendor? chip.manufacturer = some vendor) :
    t.row chip = rowText vendor chip.name (sizeText chip.size) chip.idText (t.remsText chip) := by
  rw [row, vendorShown, hvendor]
  rfl

/-! ### First entries -/

/-- The chip is the first entry of the JEDEC list with its code. -/
def Leads (t : Table) (chip : Model) : Prop :=
  ∃ before later, t.jedec = before ++ chip :: later ∧ ∀ other ∈ before, other.code ≠ chip.code

theorem jedec?_of_leads (h : t.Leads chip) : t.jedec? chip.code = some chip := by
  obtain ⟨before, later, hcut, hbefore⟩ := h
  refine List.find?_eq_some_iff_append.mpr ⟨by simp, before, later, hcut, ?_⟩
  intro other hother
  simp [hbefore other hother]

/-- No entry of the chip's manufacturer with this byte has another name, as when no other entry has the byte. -/
def Unshared (t : Table) (chip : Model) (device : UInt8) : Prop :=
  ∀ other ∈ t.rems, other.fits chip.manufacturer device.toUInt16 = true → other.name = chip.name

theorem rems?_of_unshared (hcode : t.remsCode? chip = some device.toUInt16) (hunshared : t.Unshared chip device) :
    ∃ model, t.rems? chip.manufacturer device = some model ∧ model.name = chip.name := by
  obtain ⟨entry, hentry, hdevice⟩ := Option.map_eq_some_iff.mp hcode
  have hfits : entry.fits chip.manufacturer device.toUInt16 = true := by
    have hsame := List.find?_some hentry
    rw [Bool.and_eq_true, beq_iff_eq] at hsame
    exact Model.fits_iff.mpr ⟨hsame.1, hdevice⟩
  -- the entry behind the column need not be the one that the byte finds, but it shows that there is one
  rcases hmodel : t.rems? chip.manufacturer device with _ | model
  · exact absurd hfits (List.find?_eq_none.mp hmodel entry (List.mem_of_find?_eq_some hentry))
  · obtain ⟨hmem, hmatches⟩ := mem_of_rems? hmodel
    exact ⟨model, rfl, hunshared model hmem (Model.fits_iff.mpr hmatches)⟩

/-! ### What the decoders make of the bytes -/

theorem identity_jedecId (hvendor : t.vendor? chip.manufacturer = some vendor) (hleads : t.Leads chip) :
    (Decoding.ofJedecId t chip.jedecId).identity = .known vendor chip.name := by
  show Decoding.jedecIdentity t chip.jedecId = _
  have hvendor' : t.vendor? chip.jedecId.manufacturer = some vendor := hvendor
  rw [Decoding.jedecIdentity, hvendor', chip.code_jedecId, jedec?_of_leads hleads]

theorem identity_device (hvendor : t.vendor? chip.manufacturer = some vendor)
    (hcode : t.remsCode? chip = some device.toUInt16) (hunshared : t.Unshared chip device) :
    (Decoding.ofDevice t chip.manufacturer device).identity = .known vendor chip.name := by
  obtain ⟨model, hmodel, hname⟩ := rems?_of_unshared hcode hunshared
  rw [Decoding.ofDevice, hvendor, hmodel, ← hname]

end Table

/-! ### Probes -/

section Probes

open Probe (Prober)

variable {t : Table} {filter : Option String} {chip : Model} {vendor : String}

/-- The list advertises what the decoders recognise.  Take any row of a list whose vendor is in the table.  The bytes
are what its last two columns show.  If the chip is the first with its code, the JEDEC ID is decoded to this vendor
and this name.  If the device byte stands for no other name of the manufacturer, so are the manufacturer and the
device byte behind any opcode and address.  And a chip that answers with these bytes is recognised so by a probe. -/
theorem listed_chips_are_recognised (hlisted : chip ∈ t.listed filter)
    (hvendor : t.vendor? chip.manufacturer = some vendor) :
    let known := Identity.known vendor chip.name
    t.listingLines filter = Table.heading ++ (t.listed filter).map t.row ∧
    t.listing filter = Text.ofLines (Table.heading ++ (t.listed filter).map t.row) ∧
    t.row chip = rowText vendor chip.name (sizeText chip.size) chip.idText (t.remsText chip) ∧
    (∀ id : JedecId, id.printed = chip.idText ↔
      id = ⟨chip.manufacturer, (chip.code >>> 8).toUInt8, chip.code.toUInt8⟩) ∧
    (∀ device : UInt8, capitalByte device = t.remsText chip ↔ t.remsCode? chip = some device.toUInt16) ∧
    (t.Leads chip → ∀ id : JedecId, id.printed = chip.idText → (Decoding.ofJedecId t id).identity = known) ∧
    (∀ device, capitalByte device = t.remsText chip → t.Unshared chip device → ∀ header : Bytes,
      header.length = 4 → ∃ decoding, decoding.identity = known ∧
        Decoding.ofFrame? t (header ++ [chip.manufacturer, device]) = some decoding) ∧
    ∀ (id : JedecId) (device : UInt8) (p : Prober), id.printed = chip.idText → p.table = t →
      let flash : Emulator.Flash := ⟨id.manufacturer, id.memoryType, id.capacity, device, true⟩
      let report := (run (p.probe Emulator.bus) (.start (.start flash {}))).value
      (t.Leads chip → report.jedec = some known) ∧
      (capitalByte device = t.remsText chip → t.Unshared chip device → report.manufacturerId = some known) := by
  intro known
  have hjedec : t.Leads chip → ∀ id : JedecId, id.printed = chip.idText →
      (Decoding.ofJedecId t id).identity = known := by
    intro hleads id hid
    obtain rfl := Model.printed_eq_idText_iff.mp hid
    exact Table.identity_jedecId hvendor hleads
  have hdevice : ∀ device, capitalByte device = t.remsText chip → t.Unshared chip device →
      (Decoding.ofDevice t chip.manufacturer device).identity = known :=
    fun device hcolumn => Table.identity_device hvendor (Table.capitalByte_eq_remsText_iff.mp hcolumn)
  have hknown := Table.all_knowsVendor_of_listed hlisted
  refine ⟨Table.listingLines_of_known hknown, Table.listing_of_known hknown, Table.row_eq hvendor,
    fun id => Model.printed_eq_idText_iff, fun device => Table.capitalByte_eq_remsText_iff, hjedec, ?_, ?_⟩
  · intro device hcolumn hunshared header hlength
    obtain ⟨a, b, c, d, rfl⟩ := List.length_eq_four.mp hlength
    exact ⟨_, hdevice device hcolumn hunshared, rfl⟩
  · intro id device p hid htable flash report
    have hready : Emulator.Ready flash {} (.start (.start flash {})) := ⟨rfl, rfl, rfl, rfl, rfl⟩
    have hreport : report = Emulator.foreseen flash {} t := htable ▸ hready.probe_value p
    have hmanufacturer : id.manufacturer = chip.manufacturer :=
      congrArg JedecId.manufacturer (Model.printed_eq_idText_iff.mp hid)
    rw [hreport]
    constructor
    · intro hleads
      exact congrArg some (hjedec hleads id hid)
    · intro hcolumn hunshared
      show some (Decoding.ofDevice t id.manufacturer device).identity = some known
      rw [hmanufacturer, hdevice device hcolumn hunshared]

/-- A table in which an entry stands twice, a code is shared by two manufacturers, and a manufacturer byte by two
vendors. -/
theorem listed_chips_are_recognised_among_duplicates :
    let t : Table :=
      ⟨[⟨0xef, "Winbond"⟩, ⟨0xc2, "Macronix"⟩, ⟨0xef, "Other"⟩],
        [⟨0xc2, 0x15, "MX25L32", 4194304⟩, ⟨0xef, 0x15, "W25Q32", 4194304⟩, ⟨0xef, 0x15, "W25Q32", 4194304⟩],
        [⟨0xc2, 0x2016, "MX25L32", 4194304⟩, ⟨0xef, 0x4016, "W25Q32", 4194304⟩, ⟨0xc2, 0x4016, "Copy", 4194304⟩]⟩
    let chip : Model := ⟨0xef, 0x4016, "W25Q32", 4194304⟩
    let known := Identity.known "Winbond" "W25Q32"
    let flash : Emulator.Flash := ⟨0xef, 0x40, 0x16, 0x15, true⟩
    let report := (run (({ table := t } : Prober).probe Emulator.bus) (.start (.start flash {}))).value
    chip ∈ t.listed (some "WINB") ∧ t.vendor? chip.manufacturer = some "Winbond" ∧
    t.Leads chip ∧ t.Unshared chip 0x15 ∧
    t.listing (some "WINB") =
      Text.ofLines (Table.heading ++ ["Winbond      W25Q32          4 MiB    EF 4016     15"]) ∧
    report.jedec = some known ∧ report.manufacturerId = some known := by
  intro t chip known flash report
  have hlisted : chip ∈ t.listed (some "WINB") := by decide +kernel
  have hleads : t.Leads chip := ⟨[t.jedec[0]], [t.jedec[2]], rfl, by decide⟩
  have hunshared : t.Unshared chip 0x15 := by
    unfold Table.Unshared
    decide
  have hvendor : t.vendor? chip.manufacturer = some "Winbond" := by decide
  obtain ⟨-, hprinted, -, -, -, -, -, hprobe⟩ := listed_chips_are_recognised hlisted hvendor
  have hrows : (t.listed (some "WINB")).map t.row = ["Winbond      W25Q32          4 MiB    EF 4016     15"] := by
    decide +kernel
  rw [hrows] at hprinted
  obtain ⟨hjedec, hdevice⟩ := hprobe ⟨0xef, 0x40, 0x16⟩ 0x15 { table := t } (by decide) rfl
  exact ⟨hlisted, hvendor, hleads, hunshared, hprinted, hjedec hleads, hdevice (by decide +kernel) hunshared⟩

end Probes

end Chip

end FlashIdent
