import FlashIdent.Chip.Table
import FlashIdent.Text.Column
import FlashIdent.Text.Hex
import FlashIdent.Text.Lowercase
import FlashIdent.Text.Split

/-!
# The list of identifiable chips

One row for each entry of the JEDEC list, in the order of the table.  A filter keeps the rows whose vendor name
contains it, capitals or not; an entry whose manufacturer is not listed has the vendor `?`.  When no vendor of
the table contains the filter, one line says so and there is no list.
-/

namespace FlashIdent.Chip

/-- A size in the largest unit of which there is at least one, rounded down. -/
def sizeText (bytes : UInt32) : String :=
  if 1048576 ≤ bytes.toNat then toString (bytes.toNat / 1048576) ++ " MiB"
  else if 1024 ≤ bytes.toNat then toString (bytes.toNat / 1024) ++ " KiB"
  else toString bytes.toNat ++ " B"

def rowText (vendor name size id rems : String) : String :=
  Text.Column.left 12 vendor ++ " " ++ Text.Column.left 12 name ++ " " ++ Text.Column.right 8 size ++ " " ++
    Text.Column.right 10 id ++ " " ++ Text.Column.right 6 rems

namespace Table

def vendorShown (t : Table) (m : Model) : String := (t.vendor? m.manufacturer).getD "?"

/-- The code of the same part in the list of device bytes: the first entry with its manufacturer and name. -/
def remsCode? (t : Table) (m : Model) : Option UInt16 :=
  (t.rems.find? fun r => r.manufacturer == m.manufacturer && r.name == m.name).map Model.code

def row (t : Table) (m : Model) : String :=
  rowText (t.vendorShown m) m.name (sizeText m.size)
    (Text.Hex.capitalByte m.manufacturer ++ " " ++ Text.Hex.capitalWord m.code)
    (match t.remsCode? m with
      | some code => String.ofList (Text.Hex.padded .capital 2 code.toNat)
      | none => "-")

def shows (t : Table) (filter : Option String) (m : Model) : Bool :=
  match filter with
  | none => true
  | some part => Text.occursInIgnoringCase part (t.vendorShown m)

/-- Some vendor of the table contains the filter. -/
def knowsVendor (t : Table) (part : String) : Bool :=
  t.vendors.any fun v => Text.occursInIgnoringCase part v.name

def rows (t : Table) (filter : Option String) : List String := (t.jedec.filter (t.shows filter)).map t.row

def heading : List String :=
  ["Identifiable flash chips:", "", rowText "Vendor" "Name" "Size" "JEDEC ID" "REMS",
    String.ofList (List.replicate 52 '-')]

/-- The line that stands in the place of a list. -/
def noMatch (part : String) : String := "No known vendor matches '" ++ part ++ "'"

def listingLines (t : Table) : Option String → List String
  | none => heading ++ t.rows none
  | some part =>
    if t.knowsVendor part then heading ++ t.rows (some part)
    else [noMatch part]

def listing (t : Table) (filter : Option String) : String := Text.ofLines (t.listingLines filter)

end Table

end FlashIdent.Chip
