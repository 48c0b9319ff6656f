import FlashIdent.Proofs.Identity.Lines
import FlashIdent.Proofs.Probe.Handshakes

/-!
# The blocks of a report

The messages of a report are two blocks, one for each handshake, in the order of the handshakes.  A block is the
lines of a decoding, or nothing if the handshake was not completed.  So the block and the identity of a handshake
are there together or missing together, and the identity tells how many lines the block has: a decoder that names
a vendor writes one line more than one that does not.

A probe makes its report of two such decodings, whatever the bus answers, so this holds of every probe.
-/

namespace FlashIdent

open FlashIdent.Action (run)

/-! ### How many lines go with an identity -/

/-- One number for the identities with a vendor, another for those without. -/
def Identity.lineCount (named unnamed : Nat) : Identity → Nat
  | known _ _ => named
  | modelUnknown _ _ => named
  | absent => unnamed
  | unrecognized _ => unnamed

theorem Identity.lineCount_ne_zero {named unnamed : Nat} (hnamed : named ≠ 0) (hunnamed : unnamed ≠ 0)
    (identity : Identity) : identity.lineCount named unnamed ≠ 0 := by
  cases identity with
  | known vendor model => exact hnamed
  | modelUnknown vendor code => exact hnamed
  | absent => exact hunnamed
  | unrecognized manufacturer => exact hunnamed

namespace Decoding

theorem length_ofDevice (table : Chip.Table) (manufacturer device : UInt8) :
    (ofDevice table manufacturer device).lines.length =
      (ofDevice table manufacturer device).identity.lineCount 2 1 := by
  obtain ⟨identity, -, hdecoding⟩ := identifies_ofDevice table manufacturer device
  rw [hdecoding]
  cases identity with
  | known vendor model => rfl
  | modelUnknown vendor code => rfl
  | absent => rfl
  | unrecognized manufacturer => rfl

/-- The line about the model is always there, so only the vendor's line counts. -/
theorem length_ofJedecId (table : Chip.Table) (id : JedecId) :
    (ofJedecId table id).lines.length = (ofJedecId table id).identity.lineCount 5 4 := by
  rw [ofJedecId_eq]
  obtain ⟨id, vendor?, model?⟩ := Findings.look table id
  cases vendor? with
  | some vendor =>
    cases model? with
    | some model => rfl
    | none => rfl
  | none =>
    by_cases hsilent : id.manufacturer = silentLow ∨ id.manufacturer = silentHigh
    · simp [Findings.lines, Findings.identity, Findings.vendorLines, rawLines, hsilent, Identity.lineCount]
    · simp [Findings.lines, Findings.identity, Findings.vendorLines, rawLines, hsilent, Identity.lineCount]

end Decoding

namespace Probe

namespace Report

/-! ### Blocks -/

/-- The lines about a handshake that may not have been completed. -/
def block : Option Decoding → List String
  | none => []
  | some decoding => decoding.lines

theorem text_tagged (handshake : Handshake) (decoding? : Option Decoding) :
    (tagged handshake decoding?).map Message.text = block decoding? := by
  cases decoding? with
  | none => rfl
  | some decoding => simp [tagged, block, Function.comp_def]

theorem map_block (handshake : Handshake) (decoding? : Option Decoding) :
    (block decoding?).map (Message.mk handshake) = tagged handshake decoding? := by
  cases decoding? with
  | none => rfl
  | some decoding => rfl

theorem lines_ofDecodings (rems jedec : Option Decoding) :
    (ofDecodings rems jedec).lines = block rems ++ block jedec := by
  rw [lines, messages_ofDecodings, List.map_append, text_tagged, text_tagged]

/-! ### What a report says of each handshake -/

/-- The identity and the lines of one handshake. -/
def found (report : Report) : Handshake → Option Identity × List String
  | .manufacturerId => (report.manufacturerId, report.linesOf .manufacturerId)
  | .jedecId => (report.jedec, report.linesOf .jedecId)

theorem filter_tagged_self (handshake : Handshake) (decoding : Option Decoding) :
    (tagged handshake decoding).filter (fun m => m.handshake == handshake) = tagged handshake decoding := by
  rw [List.filter_eq_self]
  intro m hm
  cases decoding with
  | none => cases hm
  | some decoding =>
    obtain ⟨line, _, rfl⟩ := List.mem_map.mp hm
    exact beq_self_eq_true handshake

theorem filter_tagged_of_ne {handshake other : Handshake} (hne : handshake ≠ other)
    (decoding : Option Decoding) :
    (tagged handshake decoding).filter (fun m => m.handshake == other) = [] := by
  rw [List.filter_eq_nil_iff]
  intro m hm
  cases decoding with
  | none => cases hm
  | some decoding =>
    obtain ⟨line, _, rfl⟩ := List.mem_map.mp hm
    simpa using hne

theorem found_manufacturerId (rems jedec : Option Decoding) :
    (ofDecodings rems jedec).found .manufacturerId =
      (rems.map Decoding.identity, (tagged .manufacturerId rems).map Message.text) := by
  simp only [found, linesOf, messages_ofDecodings, List.filter_append, filter_tagged_self,
    filter_tagged_of_ne (show Handshake.jedecId ≠ .manufacturerId from nofun), List.append_nil]
  rfl

theorem found_jedecId (rems jedec : Option Decoding) :
    (ofDecodings rems jedec).found .jedecId =
      (jedec.map Decoding.identity, (tagged .jedecId jedec).map Message.text) := by
  simp only [found, linesOf, messages_ofDecodings, List.filter_append, filter_tagged_self,
    filter_tagged_of_ne (show Handshake.manufacturerId ≠ .jedecId from nofun), List.nil_append]
  rfl

/-! ### Well-formed reports -/

/-- The lines are there exactly if the identity is, and are as many as the identity asks for. -/
structure Accounts (found : Option Identity × List String) (named unnamed : Nat) : Prop where
  missing : found.2 = [] ↔ found.1 = none
  length : ∀ identity, found.1 = some identity → found.2.length = identity.lineCount named unnamed

/-- The messages are the lines of the one handshake and then those of the other, each with its tag, and both
blocks account for their identities. -/
structure WellFormed (r : Report) : Prop where
  messages : r.messages = (r.linesOf .manufacturerId).map (Message.mk .manufacturerId) ++
    (r.linesOf .jedecId).map (Message.mk .jedecId)
  manufacturerId : Accounts (r.manufacturerId, r.linesOf .manufacturerId) 2 1
  jedec : Accounts (r.jedec, r.linesOf .jedecId) 5 4

theorem accounts_block {decoding? : Option Decoding} {named unnamed : Nat} (hnamed : named ≠ 0)
    (hunnamed : unnamed ≠ 0)
    (hlength : ∀ decoding ∈ decoding?, decoding.lines.length = decoding.identity.lineCount named unnamed) :
    Accounts (decoding?.map Decoding.identity, block decoding?) named unnamed := by
  cases decoding? with
  | none => exact ⟨iff_of_true rfl rfl, fun identity h => nomatch h⟩
  | some decoding =>
    have hlines := hlength decoding rfl
    constructor
    · have hne : decoding.lines ≠ [] := by
        intro hnil
        rw [hnil] at hlines
        exact decoding.identity.lineCount_ne_zero hnamed hunnamed hlines.symm
      exact iff_of_false hne (Option.some_ne_none _)
    · intro identity hidentity
      obtain rfl := Option.some.inj hidentity
      exact hlines

theorem wellFormed_ofDecodings {rems jedec : Option Decoding}
    (hrems : ∀ decoding ∈ rems, decoding.lines.length = decoding.identity.lineCount 2 1)
    (hjedec : ∀ decoding ∈ jedec, decoding.lines.length = decoding.identity.lineCount 5 4) :
    (ofDecodings rems jedec).WellFormed := by
  have hdevice : (ofDecodings rems jedec).linesOf .manufacturerId = block rems := by
    rw [← text_tagged .manufacturerId]
    exact congrArg Prod.snd (found_manufacturerId rems jedec)
  have hid : (ofDecodings rems jedec).linesOf .jedecId = block jedec := by
    rw [← text_tagged .jedecId]
    exact congrArg Prod.snd (found_jedecId rems jedec)
  refine ⟨?_, ?_, ?_⟩
  · rw [hdevice, hid, map_block, map_block, messages_ofDecodings]
  · rw [hdevice]
    exact accounts_block (by decide) (by decide) hrems
  · rw [hid]
    exact accounts_block (by decide) (by decide) hjedec

end Report

/-- Every report of a probe is well-formed, whatever the bus answers, whatever the table lists and whether the
session held the bus or not. -/
theorem Prober.probe_report_well_formed {σ : Type} (p : Prober) (bus : Bus σ) (s : Session σ) :
    (run (p.probe bus) s).value.WellFormed := by
  rw [(p.probe_run bus s).1]
  refine Report.wellFormed_ofDecodings ?_ ?_
  · intro decoding hdecoding
    obtain ⟨frame, -, hframe⟩ := Option.bind_eq_some_iff.mp hdecoding
    obtain ⟨manufacturer, device, rfl⟩ := Decoding.eq_ofDevice_of_ofFrame? hframe
    exact Decoding.length_ofDevice p.table manufacturer device
  · intro decoding hdecoding
    obtain ⟨id, -, rfl⟩ := Option.map_eq_some_iff.mp hdecoding
    exact Decoding.length_ofJedecId p.table id

end Probe

end FlashIdent
