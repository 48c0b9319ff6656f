import FlashIdent.Proofs.Identity.Lines

/-!
# From findings to identities

Either decoder looks a vendor up by the manufacturer byte and a model by a code of its own, and makes the same of the
two: a known model, an unknown model, or an identity that is left when there is no vendor.  `Identity.ofFindings` is
what they share.  They differ in the code and in which identity is left.
-/

namespace FlashIdent

open Chip (Model Table)

namespace Identity

/-- The identity that follows from what was found; without a vendor it is the one that is left. -/
def ofFindings (vendor? model? : Option String) (code : UInt16) (unnamed : Identity) : Identity :=
  match vendor?, model? with
  | some vendor, some model => .known vendor model
  | some vendor, none => .modelUnknown vendor code
  | none, _ => unnamed

variable {vendor? model? : Option String} {code : UInt16} {unnamed : Identity} {manufacturer : UInt8}

theorem vendor?_ofFindings (hunnamed : unnamed.vendor? = none) :
    (ofFindings vendor? model? code unnamed).vendor? = vendor? := by
  rcases vendor? with _ | vendor
  · exact hunnamed
  · cases model? <;> rfl

theorem model?_ofFindings (hnamed : vendor? ≠ none) :
    (ofFindings vendor? model? code unnamed).model? = model? := by
  rcases vendor? with _ | vendor
  · exact absurd rfl hnamed
  · cases model? <;> rfl

/-- Neither of the identities that are left has a vendor. -/
theorem vendor?_unnamed {silent : Prop} [Decidable silent] :
    (if silent then absent else unrecognized manufacturer).vendor? = none := by
  split
  · rfl
  · rfl

end Identity

namespace Decoding

theorem identity_ofDevice (t : Table) (manufacturer device : UInt8) :
    (ofDevice t manufacturer device).identity =
      .ofFindings (t.vendor? manufacturer) ((t.rems? manufacturer device).map Model.name) device.toUInt16
        (if manufacturer = silentLow then .absent else .unrecognized manufacturer) := by
  rw [ofDevice]
  rcases t.vendor? manufacturer with _ | vendor
  · by_cases hsilent : manufacturer = silentLow
    · simp only [if_pos hsilent]
      rfl
    · simp only [if_neg hsilent]
      rfl
  · cases t.rems? manufacturer device <;> rfl

namespace Findings

theorem identity_eq (f : Findings) :
    f.identity = .ofFindings f.vendor? f.model? f.id.code
      (if f.id.manufacturer = silentLow ∨ f.id.manufacturer = silentHigh then .absent
      else .unrecognized f.id.manufacturer) := by
  obtain ⟨id, vendor?, model?⟩ := f
  cases vendor? <;> cases model? <;> rfl

theorem vendor?_identity (f : Findings) : f.identity.vendor? = f.vendor? := by
  rw [identity_eq, Identity.vendor?_ofFindings Identity.vendor?_unnamed]

theorem model?_identity {f : Findings} (hnamed : f.vendor? ≠ none) : f.identity.model? = f.model? := by
  rw [identity_eq, Identity.model?_ofFindings hnamed]

/-- An identity with a vendor shows everything that was found, so the lines hang on it. -/
theorem eq_of_identity_eq {f g : Findings} (hid : f.id = g.id) (hnamed : f.identity.vendor? ≠ none)
    (h : f.identity = g.identity) : f = g := by
  have hvendor : f.vendor? = g.vendor? := by rw [← vendor?_identity, ← vendor?_identity, h]
  rw [vendor?_identity] at hnamed
  have hmodel : f.model? = g.model? := by
    rw [← model?_identity hnamed, ← model?_identity (hvendor ▸ hnamed), h]
  cases f
  cases g
  rw [mk.injEq]
  exact ⟨hid, hvendor, hmodel⟩

end Findings

end Decoding

end FlashIdent

