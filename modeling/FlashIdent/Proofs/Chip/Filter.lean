import FlashIdent.Proofs.Chip.Printed

/-!
# The filter of the list of chips

The first question to a filter, whether any vendor of the table contains it, does not take away what the second, about
the vendor name in a row, lets pass, except for a part of `?`: the name in a row is that of some vendor of the table.
So a longer filter shows some of the rows of a shorter one.

Both questions compare small forms.  A part of a vendor name need not have its small form there, and is then not found:
the end of the part looks like the end of a word to a capital sigma.  This happens to the parts that are not `Settled`
and to no others.
-/

namespace FlashIdent.Chip.Table

open Text (StandsIn Settled)

section

variable {t : Table} {part : String} {chip : Model}

/-! ### The two questions -/

theorem vendorShown_of_listed {name : String} (h : t.vendor? chip.manufacturer = some name) :
    t.vendorShown chip = name := by
  rw [vendorShown, h]
  rfl

theorem knowsVendor_of_listed {manufacturer : UInt8} {name : String} (hvendor : t.vendor? manufacturer = some name)
    (hpart : StandsIn part name) : t.knowsVendor part = true := by
  obtain ⟨vendor, hmem, -, rfl⟩ := exists_of_vendor? hvendor
  exact knowsVendor_iff.mpr ⟨vendor, hmem, hpart⟩

/-- An entry that the filter lets pass has a vendor that contains the filter, or the filter is part of `?`. -/
theorem knowsVendor_of_standsIn (h : StandsIn part (t.vendorShown chip)) :
    t.knowsVendor part = true ∨ StandsIn part "?" := by
  rcases hvendor : t.vendor? chip.manufacturer with _ | name
  · right
    rwa [vendorShown, hvendor] at h
  · left
    rw [vendorShown_of_listed hvendor] at h
    exact knowsVendor_of_listed hvendor h

/-- A longer filter shows some of the rows of a shorter one. -/
theorem printedRows_sublist {f g : String} (h : StandsIn g f) :
    (t.printedRows (some f)).Sublist (t.printedRows (some g)) := by
  refine List.Sublist.map _ ?_
  rcases hf : t.knowsVendor f with _ | _
  · rw [listed_of_unknown hf]
    exact List.nil_sublist _
  · obtain ⟨vendor, hmem, hvendor⟩ := knowsVendor_iff.mp hf
    have hg : t.knowsVendor g = true := knowsVendor_iff.mpr ⟨vendor, hmem, h.trans hvendor⟩
    rw [listed_of_known hf, listed_of_known hg]
    refine List.monotone_filter_right _ fun chip hchip => ?_
    exact decide_eq_true (h.trans (of_decide_eq_true hchip))

theorem printedRows_sublist_none (t : Table) (part : String) :
    (t.printedRows (some part)).Sublist (t.printedRows none) := by
  refine List.Sublist.map _ ?_
  rw [listed_none]
  rcases hknown : t.knowsVendor part with _ | _
  · rw [listed_of_unknown hknown]
    exact List.nil_sublist _
  · rw [listed_of_known hknown]
    exact List.filter_sublist

/-! ### Parts of a vendor name -/

theorem row_mem_printedRows {name : String} (hchip : chip ∈ t.jedec) (hvendor : t.vendor? chip.manufacturer = some name)
    (hpart : StandsIn part name) : t.row chip ∈ t.printedRows (some part) := by
  have hchipPart : StandsIn part (t.vendorShown chip) := by rwa [vendorShown_of_listed hvendor]
  rw [printedRows, listed_of_known (knowsVendor_of_listed hvendor hpart)]
  exact List.mem_map_of_mem (List.mem_filter.mpr ⟨hchip, decide_eq_true hchipPart⟩)

end

/-- One vendor with one chip. -/
def single (name : String) : Table := ⟨[⟨winbond, name⟩], [], [⟨winbond, 0x4016, "W25Q32", 4194304⟩]⟩

theorem not_prints_single {part name row : String} {rows : List String} (h : ¬ StandsIn part name)
    (hprints : (single name).Prints (some part) rows) : row ∉ rows := by
  have hunknown : (single name).knowsVendor part = false := by
    rw [not_knowsVendor_iff]
    intro vendor hvendor
    rwa [List.mem_singleton.mp hvendor]
  rw [eq_nil_of_prints_unknown hunknown hprints]
  exact List.not_mem_nil

/-- A filter finds every vendor name it is part of, and the chips of the vendor are printed for every table, if it is
settled, as it is without a capital sigma.  If it is not, it fails for some name and some table. -/
theorem filter_finds_part_iff_settled (part : String) :
    ((∀ name : String, part.toList <:+: name.toList → Text.occursInIgnoringCase part name = true) ↔
        Settled part.toList) ∧
      ((∀ (t : Table) (chip : Model) (name : String), chip ∈ t.jedec → t.vendor? chip.manufacturer = some name →
          part.toList <:+: name.toList → ∃ rows, t.Prints (some part) rows ∧ t.row chip ∈ rows) ↔
        Settled part.toList) ∧
      ('\u03a3' ∉ part.toList → Settled part.toList) := by
  rw [Text.settled_iff_standsIn]
  refine ⟨?_, ⟨?_, ?_⟩, fun hsigma => Text.settled_iff_standsIn.mp (Text.settled_of_not_mem hsigma)⟩
  · exact forall₂_congr fun name _ => Text.occursInIgnoringCase_iff
  · intro hfound name hpart
    by_contra hlost
    obtain ⟨rows, hprints, hrow⟩ :=
      hfound (single name) ⟨winbond, 0x4016, "W25Q32", 4194304⟩ name List.mem_cons_self rfl hpart
    exact not_prints_single hlost hprints hrow
  · intro hfound t chip name hchip hvendor hpart
    exact ⟨_, prints_printedRows t (some part), row_mem_printedRows hchip hvendor (hfound name hpart)⟩

/-- The filter ends in a sigma, and the name goes on after it. -/
theorem filter_loses_part_before_letter :
    "ΑΣ".toList <:+: "ΑΣΤΗΡ".toList ∧ Text.occursInIgnoringCase "ΑΣ" "ΑΣΤΗΡ" = false ∧
      (single "ΑΣΤΗΡ").listing (some "ΑΣ") = "No known vendor matches 'ΑΣ'\n" := by
  refine ⟨⟨[], "ΤΗΡ".toList, by decide⟩, by decide +kernel, by decide +kernel⟩

/-! ### Filters that contain one another -/

/-- Whatever the filter, what is printed are the heading and the rows, or the message alone.  The rows for `f` are some
of those for a shorter `g`, in the same order, and these are some of those without a filter, one for each entry.  If
some vendor contains `f`, exactly the entries are left out whose vendor name does not contain it.  If none does, there
is one line instead of the list, and no entry's vendor name contains `f` either, unless `?` does. -/
theorem filter_exact_and_monotone (t : Table) (f g : String) :
    (∀ filter, t.Prints filter (t.printedRows filter)) ∧
      (StandsIn g f → (t.printedRows (some f)).Sublist (t.printedRows (some g))) ∧
      (t.printedRows (some g)).Sublist (t.printedRows none) ∧
      t.listing none = Text.ofLines (heading ++ t.jedec.map t.row) ∧
      ((∃ vendor ∈ t.vendors, StandsIn f vendor.name) →
        t.listing (some f) =
          Text.ofLines (heading ++ (t.jedec.filter fun chip => StandsIn f (t.vendorShown chip)).map t.row)) ∧
      ((∀ vendor ∈ t.vendors, ¬ StandsIn f vendor.name) →
        t.listing (some f) = "No known vendor matches '" ++ f ++ "'\n" ∧
          (StandsIn f "?" ∨ ∀ chip ∈ t.jedec, ¬ StandsIn f (t.vendorShown chip))) := by
  refine ⟨prints_printedRows t, printedRows_sublist, printedRows_sublist_none t g, ?_, ?_, ?_⟩
  · rw [listing_of_known rfl, printedRows, listed_none]
  · intro hvendor
    have hknown : (some f).all t.knowsVendor = true := knowsVendor_iff.mpr hvendor
    rw [listing_of_known hknown, printedRows, listed_of_known hknown]
  · intro hnone
    have hunknown := not_knowsVendor_iff.mpr hnone
    refine ⟨listing_of_unknown hunknown, ?_⟩
    by_cases hmark : StandsIn f "?"
    · exact Or.inl hmark
    · refine Or.inr fun chip _ hchip => ?_
      rcases knowsVendor_of_standsIn hchip with hknown | hpart
      · rw [hknown] at hunknown
        cases hunknown
      · exact hmark hpart

/-- Two vendors with one byte, of which the second is never shown, a vendor without a chip, a chip without a vendor. -/
def crowded : Table where
  vendors := [⟨0xef, "Winbond"⟩, ⟨0xef, "Winner"⟩, ⟨0x20, "Micron"⟩, ⟨0xc8, "SINO"⟩]
  rems := [⟨0xef, 0x15, "W25Q32", 4194304⟩]
  jedec := [⟨0xef, 0x4016, "W25Q32", 4194304⟩, ⟨0x20, 0xba16, "N25Q032", 4194304⟩, ⟨0x37, 0x3013, "A25L40", 524288⟩,
    ⟨0xef, 0x4014, "W25Q80", 1048576⟩]

theorem filter_exact_and_monotone_in_crowded_table :
    (crowded.printedRows (some "WIN")).Sublist (crowded.printedRows (some "in")) ∧
      crowded.listing (some "WIN") = Text.ofLines (heading ++
        ["Winbond      W25Q32          4 MiB    EF 4016     15",
          "Winbond      W25Q80          1 MiB    EF 4014      -"]) ∧
      crowded.listing (some "Winn") = Text.ofLines heading ∧
      crowded.listing (some "?") = "No known vendor matches '?'\n" := by
  obtain ⟨-, hmonotone, -, -, hshown, -⟩ := filter_exact_and_monotone crowded "WIN" "in"
  obtain ⟨-, -, -, -, hempty, -⟩ := filter_exact_and_monotone crowded "Winn" "in"
  obtain ⟨-, -, -, -, -, hunknown⟩ := filter_exact_and_monotone crowded "?" "in"
  refine ⟨hmonotone (by decide +kernel), ?_, ?_, (hunknown (by decide +kernel)).1⟩
  · exact (hshown ⟨⟨0xef, "Winbond"⟩, by decide, by decide +kernel⟩).trans (by decide +kernel)
  · exact (hempty ⟨⟨0xef, "Winner"⟩, by decide, by decide +kernel⟩).trans (by decide +kernel)

end FlashIdent.Chip.Table
