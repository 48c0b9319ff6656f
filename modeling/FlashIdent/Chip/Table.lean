/-!
# The identity table

Which bytes stand for which vendor and which model.  A vendor is found by its manufacturer byte.  A model is
found in one of two lists: by manufacturer and device byte for the manufacturer and device command, by the
capacity code alone for the JEDEC ID.  In all three lists the first entry that fits is the one that counts.
-/

namespace FlashIdent.Chip

/-- A vendor and its manufacturer byte. -/
structure Vendor where
  id : UInt8
  name : String
deriving DecidableEq

/-- A model and the code under which one of the identification commands reports it. -/
structure Model where
  manufacturer : UInt8
  code : UInt16
  name : String
  size : UInt32
deriving DecidableEq

namespace Model

/-- Manufacturer and code as one number of 24 bits. -/
def jedecNumber (m : Model) : UInt32 := m.manufacturer.toUInt32 <<< 16 ||| m.code.toUInt32

/-- The entry belongs to this manufacturer and carries this code. -/
def fits (m : Model) (manufacturer : UInt8) (code : UInt16) : Bool :=
  m.manufacturer == manufacturer && m.code == code

theorem fits_iff {m : Model} {manufacturer : UInt8} {code : UInt16} :
    m.fits manufacturer code = true ↔ m.manufacturer = manufacturer ∧ m.code = code := by
  simp [fits]

end Model

/-- Vendors, models by device byte and models by capacity code, each in the order of search. -/
structure Table where
  vendors : List Vendor
  rems : List Model
  jedec : List Model

namespace Table

/-- The name of the vendor with a manufacturer byte. -/
def vendor? (t : Table) (manufacturer : UInt8) : Option String :=
  (t.vendors.find? fun v => v.id == manufacturer).map Vendor.name

def rems? (t : Table) (manufacturer device : UInt8) : Option Model :=
  t.rems.find? fun m => m.fits manufacturer device.toUInt16

/-- The model with a capacity code, whoever made it. -/
def jedec? (t : Table) (code : UInt16) : Option Model := t.jedec.find? fun m => m.code == code

section

variable {t : Table} {manufacturer device : UInt8} {code : UInt16} {model : Model} {name : String}

theorem exists_of_vendor? (h : t.vendor? manufacturer = some name) :
    ∃ entry ∈ t.vendors, entry.id = manufacturer ∧ entry.name = name := by
  obtain ⟨entry, hentry, hname⟩ := Option.map_eq_some_iff.mp h
  have hid := List.find?_some hentry
  exact ⟨entry, List.mem_of_find?_eq_some hentry, beq_iff_eq.mp hid, hname⟩

theorem mem_of_rems? (h : t.rems? manufacturer device = some model) :
    model ∈ t.rems ∧ model.manufacturer = manufacturer ∧ model.code = device.toUInt16 := by
  have hfound : t.rems.find? (fun m => m.fits manufacturer device.toUInt16) = some model := h
  have hfits := List.find?_some hfound
  exact ⟨List.mem_of_find?_eq_some hfound, Model.fits_iff.mp hfits⟩

theorem mem_of_jedec? (h : t.jedec? code = some model) : model ∈ t.jedec ∧ model.code = code := by
  have hcode := List.find?_some h
  exact ⟨List.mem_of_find?_eq_some h, beq_iff_eq.mp hcode⟩

end

/-! ### Appending entries -/

/-- The entries of `t` and after them those of `later`. -/
def append (t later : Table) : Table :=
  ⟨t.vendors ++ later.vendors, t.rems ++ later.rems, t.jedec ++ later.jedec⟩

instance : Append Table := ⟨append⟩

theorem vendor?_append (t later : Table) (manufacturer : UInt8) :
    (t ++ later).vendor? manufacturer = (t.vendor? manufacturer).or (later.vendor? manufacturer) := by
  show ((t.vendors ++ later.vendors).find? _).map _ = _
  rw [List.find?_append, Option.map_or]
  rfl

theorem rems?_append (t later : Table) (manufacturer device : UInt8) :
    (t ++ later).rems? manufacturer device =
      (t.rems? manufacturer device).or (later.rems? manufacturer device) :=
  List.find?_append

theorem jedec?_append (t later : Table) (code : UInt16) :
    (t ++ later).jedec? code = (t.jedec? code).or (later.jedec? code) :=
  List.find?_append

/-! ### The table that is compiled in -/

def winbond : UInt8 := 0xef

/-- The table used when no other is given. -/
def builtin : Table where
  vendors := [⟨winbond, "Winbond"⟩]
  rems := [⟨winbond, 0x15, "W25Q32", 4194304⟩]
  jedec := [⟨winbond, 0x4016, "W25Q32", 4194304⟩, ⟨winbond, 0x4015, "W25Q16", 2097152⟩,
    ⟨winbond, 0x4014, "W25Q80", 1048576⟩]

end Table

end FlashIdent.Chip
