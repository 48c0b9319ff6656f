import FlashIdent.Proofs.Emulator.Probing
import FlashIdent.Proofs.Identity.Findings

/-!
# What the two handshakes agree on

The answers to the two handshakes begin with the manufacturer byte of the same chip.  Two decoders look at it, one
before and one after the model is looked up, and each has its own idea of an empty socket: a line that stays low for
both, a line that floats for the JEDEC ID only.  `Identity.Agree` says what comes of it.  The vendor is always the same.
So is the whole identity when there is no vendor, unless the line floats and nobody is listed under its byte.

An emulated chip sends one manufacturer byte in both answers, so this holds of every probe of it.
-/

namespace FlashIdent

open FlashIdent.Action (run)
open Chip (Table)

theorem Chip.Table.vendor?_eq_none_iff {t : Table} {manufacturer : UInt8} :
    t.vendor? manufacturer = none ↔ ∀ entry ∈ t.vendors, entry.id ≠ manufacturer := by
  simp [vendor?]

namespace Identity

/-- How two identities belong together that were made of answers with the same manufacturer byte, the one of the
manufacturer and device command, the other of the JEDEC ID. -/
structure Agree (table : Table) (manufacturer : UInt8) (device jedec : Identity) : Prop where
  vendor : device.vendor? = jedec.vendor?
  presence : device.isPresent ≠ jedec.isPresent ↔
    manufacturer = Decoding.silentHigh ∧ ∀ entry ∈ table.vendors, entry.id ≠ manufacturer
  floating : device.isPresent ≠ jedec.isPresent → device = .unrecognized manufacturer ∧ jedec = .absent
  unnamed : device.vendor? = none → manufacturer ≠ Decoding.silentHigh → device = jedec

theorem isPresent_of_vendor? {identity : Identity} {name : String} (h : identity.vendor? = some name) :
    identity.isPresent = true := by
  cases identity with
  | known vendor model => rfl
  | modelUnknown vendor code => rfl
  | absent => cases h
  | unrecognized manufacturer => cases h

section

variable {table : Table} {manufacturer : UInt8} {device jedec : Identity} {name : String}

theorem agree_of_listed (hlisted : table.vendor? manufacturer = some name) (hdevice : device.vendor? = some name)
    (hjedec : jedec.vendor? = some name) : Agree table manufacturer device jedec := by
  have hpresent : device.isPresent = jedec.isPresent := by
    rw [isPresent_of_vendor? hdevice, isPresent_of_vendor? hjedec]
  constructor
  · rw [hdevice, hjedec]
  · refine iff_of_false (fun hne => hne hpresent) ?_
    rintro ⟨-, hnone⟩
    rw [← Table.vendor?_eq_none_iff, hlisted] at hnone
    cases hnone
  · exact fun hne => absurd hpresent hne
  · intro hunnamed
    rw [hdevice] at hunnamed
    cases hunnamed

/-- One identity agrees with itself, unless the two decoders would differ about the byte. -/
theorem agree_self (hhigh : manufacturer ≠ Decoding.silentHigh) (identity : Identity) :
    Agree table manufacturer identity identity where
  vendor := rfl
  presence := iff_of_false (fun hne => hne rfl) fun h => hhigh h.1
  floating := fun hne => absurd rfl hne
  unnamed := fun _ _ => rfl

/-- Without a vendor there are three kinds of manufacturer byte: a low line, a floating line, and any other. -/
theorem agree_of_unlisted (hunlisted : table.vendor? manufacturer = none) :
    Agree table manufacturer (if manufacturer = Decoding.silentLow then absent else unrecognized manufacturer)
      (if manufacturer = Decoding.silentLow ∨ manufacturer = Decoding.silentHigh then absent
      else unrecognized manufacturer) := by
  by_cases hlow : manufacturer = Decoding.silentLow
  · have hhigh : manufacturer ≠ Decoding.silentHigh := by
      rw [hlow]
      decide
    rw [if_pos hlow, if_pos (Or.inl hlow)]
    exact agree_self hhigh absent
  · rw [if_neg hlow]
    by_cases hhigh : manufacturer = Decoding.silentHigh
    · rw [if_pos (Or.inr hhigh)]
      constructor
      · rfl
      · exact iff_of_true (by simp [isPresent]) ⟨hhigh, Table.vendor?_eq_none_iff.mp hunlisted⟩
      · exact fun _ => ⟨rfl, rfl⟩
      · exact fun _ hother => absurd hhigh hother
    · rw [if_neg (not_or.mpr ⟨hlow, hhigh⟩)]
      exact agree_self hhigh (unrecognized manufacturer)

end

end Identity

namespace Decoding

/-- The model that either decoder looks up plays no part. -/
theorem agree_ofDevice_ofJedecId (table : Table) (device : UInt8) (id : JedecId) :
    Identity.Agree table id.manufacturer (ofDevice table id.manufacturer device).identity
      (ofJedecId table id).identity := by
  have hdevice := identity_ofDevice table id.manufacturer device
  have hjedec : (ofJedecId table id).identity = _ :=
    (congrArg Decoding.identity (ofJedecId_eq table id)).trans (Findings.look table id).identity_eq
  rw [hdevice, hjedec]
  rcases hvendor : table.vendor? id.manufacturer with _ | name
  · simp only [Findings.look, hvendor]
    exact Identity.agree_of_unlisted hvendor
  · simp only [Findings.look, hvendor]
    exact Identity.agree_of_listed hvendor (Identity.vendor?_ofFindings Identity.vendor?_unnamed)
      (Identity.vendor?_ofFindings Identity.vendor?_unnamed)

end Decoding

namespace Emulator.Flash

/-- Either answer of a chip carries the manufacturer byte, and no chip answers zeros to both commands. -/
theorem exists_remsAnswer_eq (f : Flash) :
    ∃ a b c d device, f.remsAnswer = [a, b, c, d, f.jedecAnswer.manufacturer, device] := by
  rw [remsAnswer, jedecAnswer]
  cases f.present with
  | false => exact ⟨0, 0, 0, 0, 0, rfl⟩
  | true => exact ⟨0xff, 0xff, 0xff, 0xff, f.device, rfl⟩

theorem manufacturer_jedecAnswer (f : Flash) :
    f.jedecAnswer.manufacturer = if f.present then f.manufacturer else 0x00 := by
  rw [jedecAnswer]
  split
  · rfl
  · rfl

end Emulator.Flash

/-! ### Probes -/

namespace Probe

/-- The two handshakes agree.  Take any table, any answer frame of full length and any JEDEC ID with the same
manufacturer byte.  The decodings name the same vendor or none.  They differ about whether there is a chip exactly if
the byte is that of a floating line and the table lists nobody under it: then the one does not recognise the byte and
the other finds no chip.  Otherwise, if there is no vendor, the identities are the same.  On an emulator without faults
a probe reports two identities, and they are of this kind. -/
theorem handshakes_agree_on_vendor (table : Table) :
    (∀ (frame : Bytes) (id : JedecId), frame.length = Identification.remsFrameLength →
      frame[4]? = some id.manufacturer →
      ∃ decoding, Decoding.ofFrame? table frame = some decoding ∧
        Identity.Agree table id.manufacturer decoding.identity (Decoding.ofJedecId table id).identity) ∧
    ∀ (flash : Emulator.Flash) (timeouts : Timeouts) (s : Session Emulator), Emulator.Ready flash {} s →
      let report := (run ((⟨table, timeouts⟩ : Prober).probe Emulator.bus) s).value
      ∃ device jedec, report.manufacturerId = some device ∧ report.jedec = some jedec ∧
        Identity.Agree table (if flash.present then flash.manufacturer else 0x00) device jedec := by
  constructor
  · intro frame id hlength hmanufacturer
    match frame, hlength with
    | [_, _, _, _, manufacturer, device], _ =>
      obtain rfl : manufacturer = id.manufacturer := Option.some.inj hmanufacturer
      exact ⟨_, rfl, Decoding.agree_ofDevice_ofJedecId table device id⟩
  · intro flash timeouts s hready report
    obtain ⟨a, b, c, d, device, hanswer⟩ := flash.exists_remsAnswer_eq
    have hreport : report = Emulator.foreseen flash {} table := hready.probe_value ⟨table, timeouts⟩
    have hframe : Decoding.ofFrame? table flash.remsAnswer =
        some (Decoding.ofDevice table flash.jedecAnswer.manufacturer device) := by
      rw [hanswer]
      rfl
    rw [← flash.manufacturer_jedecAnswer, hreport]
    refine ⟨_, _, ?_, rfl, Decoding.agree_ofDevice_ofJedecId table device flash.jedecAnswer⟩
    exact congrArg (Option.map Decoding.identity) hframe

/-- A vendor that is listed under the byte of a low line, a line that floats, and an emulated chip on which a command
was broken off before the probe. -/
theorem handshakes_agree_on_vendor_and_drift_on_floating_line :
    let table : Table := ⟨[⟨0x00, "Zero"⟩, ⟨0xef, "Winbond"⟩, ⟨0x00, "Nought"⟩], [], Table.builtin.jedec⟩
    let frame : Bytes := [0x90, 0x00, 0x00, 0x00, 0xff, 0x15]
    let id : JedecId := ⟨0xff, 0x40, 0x16⟩
    let flash : Emulator.Flash := { manufacturer := 0x00, device := 0xff }
    let s := (run (Session.steps Emulator.bus [.acquire, .write [0x90, 0x00] none, .release])
      (.start (.start flash {}))).state
    let report := (run (({ table := table } : Prober).probe Emulator.bus) s).value
    frame.length = Identification.remsFrameLength ∧ frame[4]? = some id.manufacturer ∧
    (∃ decoding, Decoding.ofFrame? table frame = some decoding ∧ decoding.identity = .unrecognized 0xff ∧
      (Decoding.ofJedecId table id).identity = .absent) ∧
    Emulator.Ready flash {} s ∧ report.manufacturerId = some (.modelUnknown "Zero" 0xff) ∧
    ∃ jedec, report.jedec = some jedec ∧ jedec.vendor? = some "Zero" := by
  intro table frame id flash s report
  have hready : Emulator.Ready flash {} s := ⟨rfl, rfl, rfl, rfl, rfl⟩
  have hdevice : report.manufacturerId = some (.modelUnknown "Zero" 0xff) := by decide +kernel
  have hdrift : (Decoding.ofDevice table 0xff 0x15).identity.isPresent ≠
      (Decoding.ofJedecId table id).identity.isPresent := by decide +kernel
  obtain ⟨hframes, hprobes⟩ := handshakes_agree_on_vendor table
  obtain ⟨decoding, hdecoding, hagree⟩ := hframes frame id rfl rfl
  obtain ⟨device, jedec, hfirst, hsecond, hvendor⟩ := hprobes flash {} s hready
  obtain rfl : decoding = Decoding.ofDevice table 0xff 0x15 := (Option.some.inj hdecoding).symm
  obtain rfl : device = .modelUnknown "Zero" 0xff := Option.some.inj (hfirst.symm.trans hdevice)
  exact ⟨rfl, rfl, ⟨_, rfl, hagree.floating hdrift⟩, hready, hdevice, jedec, hsecond, hvendor.vendor.symm⟩

end Probe

end FlashIdent
