import FlashIdent.Bus.Rehearsed
import FlashIdent.Emulator
import FlashIdent.Proofs.Probe.Blocks

/-!
# The plain text of a probe report

In the plain text a report is nothing but its lines.  Neither the identities nor the handshake that each line
comes from are written down.  They can be read back all the same.  The text is cut into lines at its newlines,
the first line that opens with a capital J begins the block about the JEDEC ID, and each of the two blocks says
which decoding it is about.

So the plain text of a probe says as much as its JSON document, as long as no name in the table has a newline
in it.
-/

namespace FlashIdent

open FlashIdent.Action (run)

namespace Probe

namespace Report

/-! ### From the lines to the two blocks -/

/-- The report about the answers to the two handshakes, of which either may be missing. -/
def ofAnswers (table : Chip.Table) (device? : Option (UInt8 × UInt8)) (id? : Option JedecId) : Report :=
  ofDecodings (device?.map fun bytes => Decoding.ofDevice table bytes.1 bytes.2)
    (id?.map (Decoding.ofJedecId table))

section Blocks

variable {table table' : Chip.Table} {device? device'? : Option (UInt8 × UInt8)} {id? id'? : Option JedecId}

/-- The lines about the manufacturer and device bytes. -/
def deviceBlock (table : Chip.Table) (device? : Option (UInt8 × UInt8)) : List String :=
  block (device?.map fun bytes => Decoding.ofDevice table bytes.1 bytes.2)

/-- The lines about the JEDEC ID. -/
def jedecBlock (table : Chip.Table) (id? : Option JedecId) : List String :=
  block (id?.map (Decoding.ofJedecId table))

theorem lines_ofAnswers (table : Chip.Table) (device? : Option (UInt8 × UInt8)) (id? : Option JedecId) :
    (ofAnswers table device? id?).lines = deviceBlock table device? ++ jedecBlock table id? :=
  lines_ofDecodings _ _

theorem newline_not_mem_ofAnswers (htable : table.OneLine) :
    ∀ line ∈ (ofAnswers table device? id?).lines, '\n' ∉ line.toList := by
  intro line hline
  rw [lines_ofAnswers] at hline
  rcases List.mem_append.mp hline with hdevice | hjedec
  · cases device? with
    | none => exact absurd hdevice List.not_mem_nil
    | some bytes => exact Decoding.newline_not_mem_ofDevice htable hdevice
  · cases id? with
    | none => exact absurd hjedec List.not_mem_nil
    | some id => exact Decoding.newline_not_mem_ofJedecId htable hjedec

/-- The first block reaches up to the first line that opens as the second block does. -/
theorem takeWhile_lines (table : Chip.Table) (device? : Option (UInt8 × UInt8)) (id? : Option JedecId) :
    (ofAnswers table device? id?).lines.takeWhile (fun line => !Decoding.opensJedec line) =
      deviceBlock table device? := by
  -- either block may be empty, so both are looked at by cases
  have hdevice : ∀ line ∈ deviceBlock table device?, (!Decoding.opensJedec line) = true := by
    intro line hline
    cases device? with
    | none => exact absurd hline List.not_mem_nil
    | some bytes => rw [Decoding.opensJedec_ofDevice hline]; rfl
  have hjedec : (jedecBlock table id?).takeWhile (fun line => !Decoding.opensJedec line) = [] := by
    cases id? with
    | none => rfl
    | some id =>
      obtain ⟨first, later, hlines, hfirst⟩ := Decoding.opensJedec_ofJedecId table id
      rw [jedecBlock, Option.map_some, block, hlines, List.takeWhile_cons_of_neg (by simp [hfirst])]
  rw [lines_ofAnswers, List.takeWhile_append_of_pos hdevice, hjedec, List.append_nil]

theorem blocks_of_lines_eq (h : (ofAnswers table device? id?).lines = (ofAnswers table' device'? id'?).lines) :
    deviceBlock table device? = deviceBlock table' device'? ∧ jedecBlock table id? = jedecBlock table' id'? := by
  have hdevice : deviceBlock table device? = deviceBlock table' device'? := by
    rw [← takeWhile_lines table device? id?, h, takeWhile_lines]
  rw [lines_ofAnswers, lines_ofAnswers, hdevice] at h
  exact ⟨hdevice, List.append_cancel_left h⟩

/-! ### From the blocks to the decodings -/

theorem device_of_block_eq (h : deviceBlock table device? = deviceBlock table' device'?) :
    device?.map (fun bytes => Decoding.ofDevice table bytes.1 bytes.2) =
      device'?.map (fun bytes => Decoding.ofDevice table' bytes.1 bytes.2) := by
  cases device? with
  | none =>
    cases device'? with
    | none => rfl
    | some bytes' => exact absurd h.symm (Decoding.ofDevice_lines_ne_nil table' bytes'.1 bytes'.2)
  | some bytes =>
    cases device'? with
    | none => exact absurd h (Decoding.ofDevice_lines_ne_nil table bytes.1 bytes.2)
    | some bytes' => exact congrArg some (Decoding.ofDevice_of_lines_eq h)

theorem jedec_of_block_eq (h : jedecBlock table id? = jedecBlock table' id'?) :
    id?.map (Decoding.ofJedecId table) = id'?.map (Decoding.ofJedecId table') := by
  cases id? with
  | none =>
    cases id'? with
    | none => rfl
    | some id' => exact absurd h.symm (List.cons_ne_nil _ _)
  | some id =>
    cases id'? with
    | none => exact absurd h (List.cons_ne_nil _ _)
    | some id' => exact congrArg some (Decoding.ofJedecId_of_lines_eq h)

theorem ofAnswers_of_plain_eq (htable : table.OneLine) (htable' : table'.OneLine)
    (h : (ofAnswers table device? id?).plain = (ofAnswers table' device'? id'?).plain) :
    ofAnswers table device? id? = ofAnswers table' device'? id'? := by
  have hlines := (Text.ofLines_inj (newline_not_mem_ofAnswers htable) (newline_not_mem_ofAnswers htable')).mp h
  obtain ⟨hdevice, hjedec⟩ := blocks_of_lines_eq hlines
  rw [ofAnswers, ofAnswers, device_of_block_eq hdevice, jedec_of_block_eq hjedec]

end Blocks

end Report

/-! ### Probes -/

/-- Every report of a probe is about answers that were decoded with the prober's table.  The answers do not depend on
the table. -/
theorem Prober.probe_answers {σ : Type} (timeouts : Timeouts) (bus : Bus σ) (s : Session σ) :
    ∃ device? id?, ∀ table,
      (run ((⟨table, timeouts⟩ : Prober).probe bus) s).value = .ofAnswers table device? id? := by
  let ask := Call.writeRead Identification.remsFrame timeouts.rems
  let asked : Session σ := ⟨s.hold, bus.after ask s.transport⟩
  refine ⟨(bus.reply ask s.transport).toOption.bind Decoding.deviceBytes?,
    (run (Session.readJedecId bus timeouts.jedec) asked).value.toOption, fun table => ?_⟩
  have hframe : Decoding.ofFrame? table = fun frame =>
      (Decoding.deviceBytes? frame).map fun bytes => Decoding.ofDevice table bytes.1 bytes.2 :=
    funext (Decoding.ofFrame?_eq table)
  rw [(Prober.probe_run ⟨table, timeouts⟩ bus s).1, hframe, Report.ofAnswers, Option.map_bind]
  rfl

theorem Prober.probe_ofAnswers {σ : Type} (p : Prober) (bus : Bus σ) (s : Session σ) :
    ∃ device? id?, (run (p.probe bus) s).value = .ofAnswers p.table device? id? := by
  obtain ⟨device?, id?, hreport⟩ := Prober.probe_answers p.timeouts bus s
  exact ⟨device?, id?, hreport p.table⟩

/-- The plain text of a report determines the report, and with it the JSON document.  The two probes may be made
on different buses, with different tables and time bounds, and from any states of their sessions. -/
theorem plain_text_determines_report {σ τ : Type} (p q : Prober) (hp : p.table.OneLine) (hq : q.table.OneLine)
    (bus : Bus σ) (bus' : Bus τ) (s : Session σ) (t : Session τ) :
    let left := (run (p.probe bus) s).value
    let right := (run (q.probe bus') t).value
    left.write false = right.write false → left = right ∧ left.write true = right.write true := by
  intro left right hwritten
  obtain ⟨device?, id?, hleft⟩ := p.probe_ofAnswers bus s
  obtain ⟨device'?, id'?, hright⟩ := q.probe_ofAnswers bus' t
  have hplain : left.plain = right.plain := hwritten
  have hsame : left = right := by
    show (run (p.probe bus) s).value = (run (q.probe bus') t).value
    rw [hleft, hright]
    exact Report.ofAnswers_of_plain_eq hp hq (by rw [← hleft, ← hright]; exact hplain)
  exact ⟨hsame, by rw [hsame]⟩

/-- An emulated chip, and a rehearsed bus that answers with the same bytes and is probed with a longer table. -/
theorem plain_text_determines_report_of_chip_and_rehearsal :
    let chip : Emulator.Flash := { capacity := 0x15, device := 0x14 }
    let rehearsal : Rehearsal :=
      { writeRead := [.bytes [1, 2, 3, 4, 0xef, 0x14]], read := [.bytes [0xef, 0x40, 0x15]] }
    let longer : Prober :=
      { table := Chip.Table.builtin ++ ⟨[⟨0xc2, "Macronix"⟩], [], [⟨0xc2, 0x2016, "MX25L32", 4194304⟩]⟩,
        timeouts := ⟨none, some 5⟩ }
    let left := (run (({} : Prober).probe Emulator.bus) (.start (.start chip {}))).value
    let right := (run (longer.probe Rehearsal.bus) (.start rehearsal)).value
    left.lines = ["Found Winbond device", "unknown device ID: 14", "JEDEC MF ID: ef", "JEDEC Memory Type: 40",
      "JEDEC Capacity ID: 15", "Winbond device found", "Device: W25Q16"] ∧
    left.write false = right.write false ∧ left = right ∧ left.write true = right.write true := by
  intro chip rehearsal longer left right
  have hlines : left.lines = ["Found Winbond device", "unknown device ID: 14", "JEDEC MF ID: ef",
      "JEDEC Memory Type: 40", "JEDEC Capacity ID: 15", "Winbond device found", "Device: W25Q16"] := by
    decide +kernel
  have hwritten : left.write false = right.write false := by decide +kernel
  have hbuiltin : Chip.Table.builtin.OneLine := ⟨by decide, by decide, by decide⟩
  have hlonger : longer.table.OneLine := ⟨by decide, by decide, by decide⟩
  exact ⟨hlines, hwritten, plain_text_determines_report {} longer hbuiltin hlonger Emulator.bus Rehearsal.bus
    (.start (.start chip {})) (.start rehearsal) hwritten⟩

end Probe

end FlashIdent
