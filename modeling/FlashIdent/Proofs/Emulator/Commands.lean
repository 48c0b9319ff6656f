import FlashIdent.Emulator.Flash
import Mathlib.Data.List.Forall2

/-!
# A chip knows two commands

The first byte of a frame is the opcode.  A chip tells two opcodes from all others and those not from each
other, so a byte that is clocked out only to receive may be any byte that is no command: the answers are the
same.  `Frame.Alike` relates the frames that a chip cannot tell apart, and `clock_alike` says that it goes on
not telling them apart, whatever is sent next.
-/

namespace FlashIdent.Emulator

/-- The opcode is one that a chip answers to. -/
def isCommand (opcode : UInt8) : Bool :=
  opcode == Identification.remsOpcode || opcode == Identification.rdidOpcode

/-- Sent first, the bytes begin frames that a chip cannot tell apart. -/
def SameCommand (a b : UInt8) : Prop := a = b ∨ (isCommand a = false ∧ isCommand b = false)

namespace Frame

/-- The command of a frame, if its opcode is one. -/
def command (frame : Frame) : Option UInt8 := frame.opcode.filter isCommand

/-- The frames have come equally far and have the same command. -/
def Alike (a b : Frame) : Prop := a.position = b.position ∧ a.command = b.command

theorem Alike.refl (frame : Frame) : frame.Alike frame := ⟨rfl, rfl⟩

end Frame

theorem filter_isCommand_eq {a b : UInt8} (h : SameCommand a b) :
    (some a).filter isCommand = (some b).filter isCommand := by
  rcases h with rfl | ⟨ha, hb⟩
  · rfl
  · simp [Option.filter, ha, hb]

namespace Flash

/-- The answer at a place of a frame hangs on the frame's command alone. -/
theorem response_eq_of_command (f : Flash) {a b : Frame} (h : a.command = b.command) (position : Nat) :
    f.response a.opcode position = f.response b.opcode position := by
  have hcommand : ∀ code, isCommand code = true →
      (a.opcode = some code ↔ b.opcode = some code) := by
    intro code hcode
    have hiff : ∀ frame : Frame, frame.opcode = some code ↔ frame.command = some code := by
      intro frame
      rw [Frame.command, Option.filter_eq_some_iff]
      exact ⟨fun hopcode => ⟨hopcode, hcode⟩, And.left⟩
    rw [hiff a, hiff b, h]
  have hrems := hcommand Identification.remsOpcode (by decide)
  have hrdid := hcommand Identification.rdidOpcode (by decide)
  simp only [response, hrems, hrdid]

theorem shift_absent (f : Flash) (habsent : f.present = false) (frame : Frame) (sent : UInt8) :
    f.shift frame sent = (0x00, ⟨frame.opcode, frame.position + 1⟩) := by
  simp [shift, habsent]

theorem shift_first (f : Flash) (hpresent : f.present = true) {frame : Frame} (hfirst : frame.position = 0)
    (sent : UInt8) : f.shift frame sent = (idle, ⟨some sent, 1⟩) := by
  simp [shift, hpresent, hfirst]

theorem shift_later (f : Flash) (hpresent : f.present = true) {frame : Frame} (hlater : frame.position ≠ 0)
    (sent : UInt8) :
    f.shift frame sent =
      (f.response frame.opcode frame.position, ⟨frame.opcode, frame.position + 1⟩) := by
  simp [shift, hpresent, hlater]

theorem shift_alike (f : Flash) {a b : Frame} {x y : UInt8} (h : a.Alike b) (hsent : SameCommand x y) :
    (f.shift a x).1 = (f.shift b y).1 ∧ (f.shift a x).2.Alike (f.shift b y).2 := by
  obtain ⟨hposition, hcommand⟩ := h
  have hnext : a.position + 1 = b.position + 1 := congrArg (· + 1) hposition
  rcases hpresent : f.present with _ | _
  · rw [shift_absent f hpresent, shift_absent f hpresent]
    exact ⟨rfl, hnext, hcommand⟩
  · by_cases hfirst : b.position = 0
    · rw [shift_first f hpresent (hposition.trans hfirst), shift_first f hpresent hfirst]
      exact ⟨rfl, rfl, filter_isCommand_eq hsent⟩
    · rw [shift_later f hpresent (hposition ▸ hfirst), shift_later f hpresent hfirst, hposition]
      exact ⟨f.response_eq_of_command hcommand _, rfl, hcommand⟩

/-- Bytes that begin the same commands are answered the same. -/
theorem clock_alike (f : Flash) {a b : Frame} {xs ys : Bytes} (h : a.Alike b)
    (hsent : List.Forall₂ SameCommand xs ys) :
    (f.clock a xs).1 = (f.clock b ys).1 ∧ (f.clock a xs).2.Alike (f.clock b ys).2 := by
  induction hsent generalizing a b with
  | nil => exact ⟨rfl, h⟩
  | cons hfirst _ ih =>
    obtain ⟨hanswer, hnext⟩ := f.shift_alike h hfirst
    obtain ⟨hanswers, hlast⟩ := ih hnext
    rw [clock_cons, clock_cons, hanswer, hanswers]
    exact ⟨rfl, hlast⟩

end Flash

end FlashIdent.Emulator
