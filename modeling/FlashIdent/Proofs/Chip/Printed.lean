import FlashIdent.Chip.Listing
import FlashIdent.Proofs.Text.Lowercase

/-!
# What the list of chips prints

The filter is asked twice.  First all vendors of the table are asked, and if none of them contains it there is no list.
Then each entry is asked by the vendor name in its row, which is that of the first vendor with its manufacturer byte,
or `?`.  `listed` are the chips that pass both questions, and `Prints` says of a text of rows that it is what is
printed: the rows follow the heading, or there are none and a line says that no vendor matches.
-/

namespace FlashIdent.Chip.Table

open Text (StandsIn)

/-- The chips with a row, in the order of the rows. -/
def listed (t : Table) (filter : Option String) : List Model :=
  if filter.all t.knowsVendor then t.jedec.filter (t.shows filter) else []

def printedRows (t : Table) (filter : Option String) : List String := (t.listed filter).map t.row

/-- These rows are printed, and nothing else. -/
inductive Prints (t : Table) (filter : Option String) : List String → Prop
  | list {rows : List String} (hprinted : t.listing filter = Text.ofLines (heading ++ rows)) : Prints t filter rows
  | message {part : String} (hfilter : filter = some part)
      (hprinted : t.listing filter = "No known vendor matches '" ++ part ++ "'\n") : Prints t filter []

variable {t : Table} {part : String} {filter : Option String} {chip : Model}

theorem knowsVendor_iff : t.knowsVendor part = true ↔ ∃ vendor ∈ t.vendors, StandsIn part vendor.name := by
  rw [knowsVendor, List.any_eq_true]
  exact exists_congr fun vendor => and_congr_right fun _ => Text.occursInIgnoringCase_iff

theorem not_knowsVendor_iff : t.knowsVendor part = false ↔ ∀ vendor ∈ t.vendors, ¬ StandsIn part vendor.name := by
  rw [← Bool.not_eq_true, knowsVendor_iff, not_exists]
  exact forall_congr' fun vendor => not_and

/-! ### The chips with a row -/

theorem listed_none (t : Table) : t.listed none = t.jedec := List.filter_eq_self.mpr fun _ _ => rfl

theorem listed_of_known (h : t.knowsVendor part = true) :
    t.listed (some part) = t.jedec.filter fun chip => StandsIn part (t.vendorShown chip) := by
  have hshows : t.shows (some part) = fun chip => decide (StandsIn part (t.vendorShown chip)) := by
    funext chip
    exact Bool.eq_iff_iff.mpr (Text.occursInIgnoringCase_iff.trans decide_eq_true_iff.symm)
  rw [listed, hshows]
  exact if_pos h

theorem listed_of_unknown (h : t.knowsVendor part = false) : t.listed (some part) = [] := by
  rw [listed, Option.all_some, h]
  rfl

/-! ### The printed text -/

theorem listingLines_of_known (h : filter.all t.knowsVendor = true) :
    t.listingLines filter = heading ++ t.printedRows filter := by
  rw [printedRows, listed, if_pos h]
  cases filter with
  | none => rfl
  | some part => exact if_pos h

/-- Where every vendor counts or some vendor contains the filter, there is a list. -/
theorem listing_of_known (h : filter.all t.knowsVendor = true) :
    t.listing filter = Text.ofLines (heading ++ t.printedRows filter) := by
  rw [listing, listingLines_of_known h]

theorem listing_of_unknown (h : t.knowsVendor part = false) :
    t.listing (some part) = "No known vendor matches '" ++ part ++ "'\n" := by
  rw [listing, listingLines, h]
  show "" ++ ("No known vendor matches '" ++ part ++ "'" ++ "\n") = _
  rw [String.empty_append, String.append_assoc]
  rfl

/-- Whatever the filter, the rows that are printed are those of the listed chips. -/
theorem prints_printedRows (t : Table) (filter : Option String) : t.Prints filter (t.printedRows filter) := by
  rcases filter with _ | part
  · exact Prints.list (listing_of_known rfl)
  · rcases hknown : t.knowsVendor part with _ | _
    · rw [printedRows, listed_of_unknown hknown]
      exact Prints.message rfl (listing_of_unknown hknown)
    · exact Prints.list (listing_of_known hknown)

/-- The message is not taken for a list. -/
theorem eq_nil_of_prints_unknown {rows : List String} (h : t.knowsVendor part = false)
    (hprints : t.Prints (some part) rows) : rows = [] := by
  cases hprints with
  | message => rfl
  | list hprinted =>
    rw [listing_of_unknown h] at hprinted
    have hfirst := congrArg (fun text => text.toList.head?) hprinted
    simp [Text.toList_ofLines, heading] at hfirst

end FlashIdent.Chip.Table
