import FlashIdent.Probe.Report
import FlashIdent.Proofs.Document.Layout

/-!
# The JSON document of a report

A report can be read back from its document.  The document of an identity opens with its kind, which tells how to read
the other fields, a missing identity is `null`, and messages keep their order and their handshake.  Names and texts may
hold anything, because the layout of a document determines the document.

The document has as many lines as the kinds of the identities and the number of messages ask for.  A line end in a name
or a text adds none.
-/

namespace FlashIdent

open Document (Json)

namespace Identity

theorem toJson_inj {i j : Identity} (h : i.toJson = j.toJson) : i = j := by
  -- the kinds differ where the constructors do
  cases i with
  | known =>
    cases j with
    | known => simpa [toJson] using h
    | _ => simp [toJson] at h
  | modelUnknown =>
    cases j with
    | modelUnknown => simpa [toJson, UInt16.toNat_inj] using h
    | _ => simp [toJson] at h
  | absent =>
    cases j with
    | absent => rfl
    | _ => simp [toJson] at h
  | unrecognized =>
    cases j with
    | unrecognized => simpa [toJson, UInt8.toNat_inj] using h
    | _ => simp [toJson] at h

/-- The fields in the document of an identity, its kind included. -/
def fieldCount : Identity → Nat
  | known _ _ => 3
  | modelUnknown _ _ => 3
  | absent => 1
  | unrecognized _ => 2

theorem breaks_toJson (i : Identity) : i.toJson.breaks = i.fieldCount + 1 := by
  cases i <;> rfl

end Identity

namespace Probe

namespace Report

theorem identityJson_inj {i? j? : Option Identity} (h : identityJson i? = identityJson j?) : i? = j? := by
  have hobject : ∀ i : Identity, i.toJson ≠ .null := by
    intro i
    cases i <;> exact Json.noConfusion
  cases i? with
  | none =>
    cases j? with
    | none => rfl
    | some j => exact absurd h.symm (hobject j)
  | some i =>
    cases j? with
    | none => exact absurd h (hobject i)
    | some j => exact congrArg some (Identity.toJson_inj h)

theorem messageJson_inj {m n : Message} (h : messageJson m = messageJson n) : m = n := by
  have hname : ∀ a b : Handshake, a.name = b.name → a = b := by
    intro a b
    cases a <;> cases b <;> simp [Handshake.name]
  obtain ⟨handshake, text⟩ := m
  obtain ⟨handshake', text'⟩ := n
  obtain ⟨hhandshake, htext⟩ : handshake.name = handshake'.name ∧ text = text' := by simpa [messageJson] using h
  rw [hname _ _ hhandshake, htext]

theorem toJson_inj {r r' : Report} (h : r.toJson = r'.toJson) : r = r' := by
  obtain ⟨manufacturerId, jedec, messages⟩ := r
  obtain ⟨manufacturerId', jedec', messages'⟩ := r'
  obtain ⟨hdevice, hjedec, hmessages⟩ : identityJson manufacturerId = identityJson manufacturerId' ∧
      identityJson jedec = identityJson jedec' ∧ messages.map messageJson = messages'.map messageJson := by
    simpa [toJson] using h
  rw [identityJson_inj hdevice, identityJson_inj hjedec,
    (List.map_inj_right fun _ _ => messageJson_inj).mp hmessages]

/-! ### Lines -/

/-- The lines that an identity takes up below the one on which it begins. -/
def identityLines (i? : Option Identity) : Nat := i?.elim 0 fun i => i.fieldCount + 1

def messageLines (messages : List Message) : Nat := if messages = [] then 0 else 4 * messages.length + 1

/-- The lines of the document. -/
def documentLines (r : Report) : Nat :=
  identityLines r.manufacturerId + identityLines r.jedec + messageLines r.messages + 5

theorem breaks_identityJson (i? : Option Identity) : (identityJson i?).breaks = identityLines i? := by
  cases i? with
  | none => rfl
  | some i => exact i.breaks_toJson

theorem breaksItems_messages (messages : List Message) :
    Json.breaksItems (messages.map messageJson) = 4 * messages.length + 1 := by
  induction messages with
  | nil => rfl
  | cons m messages ih =>
    rw [List.map_cons, Json.breaksItems, ih, messageJson]
    simp only [Json.breaks, Json.breaksFields, List.length_cons]
    omega

theorem breaks_messages (messages : List Message) :
    (Json.array (messages.map messageJson)).breaks = messageLines messages := by
  cases messages with
  | nil => rfl
  | cons m messages => exact breaksItems_messages (m :: messages)

theorem breaks_toJson (r : Report) : r.toJson.breaks + 1 = r.documentLines := by
  rw [toJson, Json.breaks, breaks_identityJson]
  simp only [Json.breaksFields, breaks_identityJson, breaks_messages, documentLines]
  omega

/-! ### Reports as they are written -/

theorem toList_write_json (r : Report) : (r.write true).toList = r.toJson.layout 0 ++ ['\n'] :=
  String.toList_ofList

end Report

/-- A report is determined by its document, whatever names and texts it holds.  The document has no character below the
blank but line ends, and as many of these as its lines, whose number does not depend on what stands in the names and
texts.  It ends with its closing brace and one line end. -/
theorem json_determines_report (r : Report) :
    (∀ other : Report, r.write true = other.write true ↔ r = other) ∧
    (∀ c ∈ (r.write true).toList, c.toNat < 0x20 → c = '\n') ∧
    (r.write true).toList.count '\n' = r.documentLines ∧
    ∃ document : String, r.write true = document ++ "\n" ∧ document.toList.getLast? = some '\x7d' := by
  have hlined : Json.Lined (r.write true).toList r.documentLines := by
    have hend : Json.Lined ['\n'] 1 := Json.lined_lineBreak 0
    rw [r.toList_write_json, ← r.breaks_toJson]
    exact (Json.lined_layout 0 r.toJson).append hend
  refine ⟨?_, hlined.shown, hlined.count, String.ofList (r.toJson.layout 0), ?_, ?_⟩
  · intro other
    constructor
    · intro h
      exact Report.toJson_inj (Json.render_inj.mp h)
    · rintro rfl
      rfl
  · exact String.ofList_append
  · rw [String.toList_ofList]
    exact Json.getLast?_layout_object 0 _

/-- A name with a control character that imitates the end of its object and a missing JEDEC ID, next to a report that
has what is imitated. -/
theorem json_determines_report_with_imitated_structure :
    let sly : Report := ⟨some (.modelUnknown "A\"\n  \x7d,\n  \"jedec\": null\x01" 0x4016), none, []⟩
    let honest : Report := ⟨some (.modelUnknown "A" 0x4016), none, []⟩
    sly.write true = "\x7b\n" ++
      "  \"manufacturer_id\": \x7b\n" ++
      "    \"kind\": \"vendor_known_model_unknown\",\n" ++
      "    \"vendor\": \"A\\\"\\n  \x7d,\\n  \\\"jedec\\\": null\\u0001\",\n" ++
      "    \"model_code\": 16406\n" ++
      "  \x7d,\n" ++
      "  \"jedec\": null,\n" ++
      "  \"messages\": []\n" ++
      "\x7d\n" ∧
    sly.write true ≠ honest.write true ∧ (sly.write true).toList.count '\n' = 9 ∧
    '\n' ∈ (sly.write true).toList ∧ '\n'.toNat < 0x20 ∧ '\x01' ∉ (sly.write true).toList := by
  intro sly honest
  obtain ⟨hsame, hlow, hcount, -⟩ := json_determines_report sly
  have hdifferent : sly.write true ≠ honest.write true := fun h => absurd ((hsame honest).mp h) (by decide)
  have hlineEnd : '\n' ∈ (sly.write true).toList := by
    rw [← List.count_pos_iff, hcount]
    decide
  refine ⟨by decide +kernel, hdifferent, hcount, hlineEnd, by decide, fun hcontrol => ?_⟩
  exact absurd (hlow '\x01' hcontrol (by decide)) (by decide)

end Probe

end FlashIdent
