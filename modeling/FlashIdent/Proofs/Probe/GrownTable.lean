import FlashIdent.Proofs.Identity.Findings
import FlashIdent.Proofs.Probe.PlainText

/-!
# Growing the identity table

Entries that are appended to a table come after all others, so a lookup that found something finds the same again.
What a decoder makes of an answer can then change in two ways only.  A model that was unknown gets the name of an
appended model with its code, and a manufacturer that was not listed gets the name of an appended vendor with its
byte.  `Identity.Grown` says this of identities and `Decoding.Grown` of decodings with their lines.

A probe does not look at the table before the answers are there.  So the same holds of its report.
-/

namespace FlashIdent

open FlashIdent.Action (run)
open Chip (Model Table Vendor)

/-! ### Identities -/

namespace Identity

/-- How an identity may change when vendors and models are appended to the table. -/
inductive Grown (vendors : List Vendor) (models : List Model) (manufacturer : UInt8) :
    Identity → Identity → Prop where
  | same (identity : Identity) : Grown vendors models manufacturer identity identity
  | modelNamed {vendor : String} {code : UInt16} {model : Model} (hmodel : model ∈ models)
      (hcode : model.code = code) :
      Grown vendors models manufacturer (.modelUnknown vendor code) (.known vendor model.name)
  | vendorNamed {old new : Identity} {entry : Vendor} (hold : old.vendor? = none) (hentry : entry ∈ vendors)
      (hid : entry.id = manufacturer) (hnew : new.vendor? = some entry.name) :
      Grown vendors models manufacturer old new

namespace Grown

variable {vendors : List Vendor} {models : List Model} {manufacturer : UInt8} {old new : Identity}

theorem of_known {vendor model : String} (h : Grown vendors models manufacturer (.known vendor model) new) :
    new = .known vendor model := by
  cases h with
  | same => rfl
  | vendorNamed hold => cases hold

theorem of_modelUnknown {vendor : String} {code : UInt16}
    (h : Grown vendors models manufacturer (.modelUnknown vendor code) new) :
    new = .modelUnknown vendor code ∨ ∃ model ∈ models, model.code = code ∧ new = .known vendor model.name := by
  cases h with
  | same => exact Or.inl rfl
  | modelNamed hmodel hcode => exact Or.inr ⟨_, hmodel, hcode, rfl⟩
  | vendorNamed hold => cases hold

theorem of_unnamed (h : Grown vendors models manufacturer old new) (hold : old.vendor? = none) :
    new = old ∨ ∃ entry ∈ vendors, entry.id = manufacturer ∧ new.vendor? = some entry.name := by
  cases h with
  | same => exact Or.inl rfl
  | modelNamed => cases hold
  | vendorNamed _ hentry hid hnew => exact Or.inr ⟨_, hentry, hid, hnew⟩

end Grown

variable {vendor? : Option String} {code : UInt16} {unnamed : Identity} {manufacturer : UInt8}

/-- Both decoders look a vendor and a model up, and either lookup may go on in the appended entries. -/
theorem grown_ofFindings {laterVendor? : Option String} {found? laterFound? : Option Model} {vendors : List Vendor}
    {models : List Model} (hunnamed : unnamed.vendor? = none)
    (hvendor : ∀ name, laterVendor? = some name → ∃ entry ∈ vendors, entry.id = manufacturer ∧ entry.name = name)
    (hmodel : ∀ model, laterFound? = some model → model ∈ models ∧ model.code = code) :
    Grown vendors models manufacturer (ofFindings vendor? (found?.map Model.name) code unnamed)
      (ofFindings (vendor?.or laterVendor?) ((found?.or laterFound?).map Model.name) code unnamed) := by
  -- what the appended entries hold counts only where the lookup before it found nothing
  rcases vendor? with _ | vendor
  · rcases hlater : laterVendor? with _ | name
    · exact .same unnamed
    · obtain ⟨entry, hentry, hid, rfl⟩ := hvendor name hlater
      exact .vendorNamed hunnamed hentry hid (vendor?_ofFindings hunnamed)
  · rcases found? with _ | model
    · rcases hlater : laterFound? with _ | model
      · exact .same _
      · obtain ⟨hmem, hcode⟩ := hmodel model hlater
        exact .modelNamed hmem hcode
    · exact .same _

end Identity

/-! ### Decodings -/

namespace Decoding

/-- How a decoding may change.  Where the identity has a vendor, the lines stay with it. -/
structure Grown (vendors : List Vendor) (models : List Model) (manufacturer : UInt8) (old new : Decoding) :
    Prop where
  known : ∀ vendor model, old.identity = .known vendor model → new = old
  modelUnknown : ∀ vendor code, old.identity = .modelUnknown vendor code →
    new = old ∨ ∃ model ∈ models, model.code = code ∧ new.identity = .known vendor model.name
  unnamed : old.identity.vendor? = none → new.identity = old.identity ∨
    ∃ entry ∈ vendors, entry.id = manufacturer ∧ new.identity.vendor? = some entry.name

theorem Grown.of_identity {vendors : List Vendor} {models : List Model} {manufacturer : UInt8} {old new : Decoding}
    (hidentity : Identity.Grown vendors models manufacturer old.identity new.identity)
    (hlines : old.identity.vendor? ≠ none → new.identity = old.identity → new = old) :
    Grown vendors models manufacturer old new where
  known := by
    intro vendor model hold
    rw [hold] at hidentity hlines
    exact hlines (by simp [Identity.vendor?]) hidentity.of_known
  modelUnknown := by
    intro vendor code hold
    rw [hold] at hidentity hlines
    rcases hidentity.of_modelUnknown with hsame | hnamed
    · exact Or.inl (hlines (by simp [Identity.vendor?]) hsame)
    · exact Or.inr hnamed
  unnamed := hidentity.of_unnamed

variable (t later : Table)

theorem identity_grown_ofDevice (manufacturer device : UInt8) :
    Identity.Grown later.vendors later.rems manufacturer (ofDevice t manufacturer device).identity
      (ofDevice (t ++ later) manufacturer device).identity := by
  rw [identity_ofDevice, identity_ofDevice, Table.vendor?_append, Table.rems?_append]
  refine Identity.grown_ofFindings Identity.vendor?_unnamed (fun name => Table.exists_of_vendor?) ?_
  intro model hmodel
  obtain ⟨hmem, -, hcode⟩ := Table.mem_of_rems? hmodel
  exact ⟨hmem, hcode⟩

theorem grown_ofDevice (manufacturer device : UInt8) :
    Grown later.vendors later.rems manufacturer (ofDevice t manufacturer device)
      (ofDevice (t ++ later) manufacturer device) := by
  refine .of_identity (identity_grown_ofDevice t later manufacturer device) ?_
  intro _ hsame
  obtain ⟨i, -, hold⟩ := identifies_ofDevice t manufacturer device
  obtain ⟨j, -, hnew⟩ := identifies_ofDevice (t ++ later) manufacturer device
  rw [hold, hnew] at hsame ⊢
  obtain rfl : j = i := hsame
  rfl

theorem identity_grown_ofJedecId (id : JedecId) :
    Identity.Grown later.vendors later.jedec id.manufacturer (ofJedecId t id).identity
      (ofJedecId (t ++ later) id).identity := by
  rw [ofJedecId_eq, ofJedecId_eq, Findings.identity_eq, Findings.identity_eq]
  simp only [Findings.look, Table.vendor?_append, Table.jedec?_append]
  exact Identity.grown_ofFindings Identity.vendor?_unnamed (fun name => Table.exists_of_vendor?)
    fun model => Table.mem_of_jedec?

theorem grown_ofJedecId (id : JedecId) :
    Grown later.vendors later.jedec id.manufacturer (ofJedecId t id) (ofJedecId (t ++ later) id) := by
  refine .of_identity (identity_grown_ofJedecId t later id) ?_
  rw [ofJedecId_eq t id, ofJedecId_eq (t ++ later) id]
  intro hnamed hsame
  have hlook : Findings.look t id = Findings.look (t ++ later) id :=
    Findings.eq_of_identity_eq rfl hnamed hsame.symm
  rw [hlook]

/-- The manufacturer byte is the fifth of the frame. -/
theorem grown_ofFrame? (frame : Bytes) :
    Option.Rel (Grown later.vendors later.rems (frame.getD 4 0)) (ofFrame? t frame)
      (ofFrame? (t ++ later) frame) := by
  unfold ofFrame?
  split
  · exact .some (grown_ofDevice t later _ _)
  · exact .none

end Decoding

/-! ### Probes -/

namespace Probe

variable {σ : Type} (t later : Table)

/-- Appending entries to the table is conservative.  A frame or a JEDEC ID of which vendor and model were known is
decoded as before, to its lines.  A model that was unknown stays so, or it gets the name of an appended model with its
code.  An identity without a vendor stays unless an appended vendor has the manufacturer byte.  On any bus the two
probes read the same bytes, so the identities that they report differ in these ways only. -/
theorem table_grows_conservatively :
    (∀ frame, Option.Rel (Decoding.Grown later.vendors later.rems (frame.getD 4 0))
      (Decoding.ofFrame? t frame) (Decoding.ofFrame? (t ++ later) frame)) ∧
    (∀ id, Decoding.Grown later.vendors later.jedec id.manufacturer (Decoding.ofJedecId t id)
      (Decoding.ofJedecId (t ++ later) id)) ∧
    ∀ (timeouts : Timeouts) (bus : Bus σ) (s : Session σ),
      let report := fun table => (run ((⟨table, timeouts⟩ : Prober).probe bus) s).value
      ∃ device? id?, (∀ table, report table = .ofAnswers table device? id?) ∧
        Option.Rel (fun old new => ∃ bytes, device? = some bytes ∧
          Identity.Grown later.vendors later.rems bytes.1 old new)
          (report t).manufacturerId (report (t ++ later)).manufacturerId ∧
        Option.Rel (fun old new => ∃ id, id? = some id ∧
          Identity.Grown later.vendors later.jedec id.manufacturer old new)
          (report t).jedec (report (t ++ later)).jedec := by
  refine ⟨Decoding.grown_ofFrame? t later, Decoding.grown_ofJedecId t later, ?_⟩
  intro timeouts bus s report
  obtain ⟨device?, id?, hanswers⟩ := Prober.probe_answers timeouts bus s
  have hreport : ∀ table, report table = .ofAnswers table device? id? := hanswers
  refine ⟨device?, id?, hreport, ?_, ?_⟩
  · rw [hreport t, hreport (t ++ later)]
    rcases device? with _ | ⟨manufacturer, device⟩
    · exact .none
    · exact .some ⟨_, rfl, Decoding.identity_grown_ofDevice t later manufacturer device⟩
  · rw [hreport t, hreport (t ++ later)]
    rcases id? with _ | id
    · exact .none
    · exact .some ⟨id, rfl, Decoding.identity_grown_ofJedecId t later id⟩

/-- An appended entry with a code that is taken is never found. -/
example :
    let later : Table :=
      ⟨[⟨0x00, "Macronix"⟩], [⟨0xef, 0x15, "Copy", 4194304⟩, ⟨0xef, 0x14, "W25Q16", 2097152⟩], []⟩
    let identities := fun manufacturer device =>
      [Table.builtin, Table.builtin ++ later].map fun t => (Decoding.ofDevice t manufacturer device).identity
    identities 0xef 0x15 = [.known "Winbond" "W25Q32", .known "Winbond" "W25Q32"] ∧
    identities 0xef 0x14 = [.modelUnknown "Winbond" 0x14, .known "Winbond" "W25Q16"] ∧
    identities 0x00 0x15 = [.absent, .modelUnknown "Macronix" 0x15] := by
  decide

end Probe

end FlashIdent
