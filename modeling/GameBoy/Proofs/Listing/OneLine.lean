import GameBoy.Proofs.Listing.Texts

/-!
# Texts of one line

Whatever a mnemonic shows, it stays on its line (`mnemonic_isLine`).
-/

namespace GameBoy.Listing

open Text

/-- A text without a line end. -/
def IsLine (s : String) : Prop := '\n' ∉ s.toList

instance (s : String) : Decidable (IsLine s) := inferInstanceAs (Decidable ('\n' ∉ s.toList))

/-- Two texts make one line if each of them does. -/
@[simp] lemma isLine_append {s t : String} : IsLine (s ++ t) ↔ IsLine s ∧ IsLine t := by
  simp [IsLine]

/-- Hexadecimal digits are no new lines. -/
@[simp] lemma hexByte_isLine (b : UInt8) : IsLine (hexByte b) := by
  revert b
  exact Word.forall_byte (by decide +kernel)

/-- Hexadecimal digits of a word are no new lines. -/
@[simp] lemma hexWord_isLine (w : UInt16) : IsLine (hexWord w) :=
  isLine_append.mpr ⟨hexByte_isLine _, hexByte_isLine _⟩

/-- Decimal digits are no new lines. -/
@[simp] lemma repr_isLine (n : Nat) : IsLine n.repr := by
  intro h
  rw [Nat.toList_repr] at h
  exact absurd (Nat.isDigit_of_mem_toDigits (by decide) (by decide) h) (by decide)

/-- A displacement is printed in one line. -/
@[simp] lemma displacement_isLine (e : UInt8) : IsLine (displacement e) := by
  refine isLine_append.mpr ⟨?_, repr_isLine _⟩
  split <;> decide

/-- A displacement with its sign is printed in one line. -/
@[simp] lemma signedDisplacement_isLine (e : UInt8) : IsLine (signedDisplacement e) := by
  refine isLine_append.mpr ⟨?_, repr_isLine _⟩
  split <;> decide

@[simp] lemma operand_isLine (r : Operand) : IsLine r.text := by
  cases r with
  | reg r => cases r <;> decide
  | atHl => decide

@[simp] lemma pointer_isLine (p : Pointer) : IsLine p.text := by cases p <;> decide

@[simp] lemma pair_isLine (r : WordRegister) : IsLine r.name := by cases r <;> decide

@[simp] lemma alu_isLine (op : AluOp) : IsLine op.text := by cases op <;> decide

@[simp] lemma shift_isLine (op : ShiftOp) : IsLine op.text := by cases op <;> decide

@[simp] lemma condition_isLine (cc : Condition) : IsLine cc.text := by cases cc <;> decide

/-- A transfer of control is printed in one line. -/
lemma transferText_isLine {operation target : String} (cc : Option Condition)
    (h : IsLine operation) (ht : IsLine target) : IsLine (transferText operation cc target) := by
  have hcomma : IsLine ", " := by decide
  cases cc <;> simp [transferText, h, ht, hcomma]

/-- An instruction is printed in one line. -/
lemma text_isLine (addr : UInt16) (i : Instruction) : IsLine (i.text addr) := by
  cases i with
  | jumpRelative cc e => exact transferText_isLine cc (by decide) (by simp; decide)
  | jump cc nn | call cc nn => exact transferText_isLine cc (by decide) (by simp; decide)
  | ret cc =>
    cases cc with
    | none => exact (by decide : IsLine "RET")
    | some cc => simp [Instruction.text]; decide
  | _ => simp [Instruction.text] <;> decide

/-- A mnemonic is a text of one line. -/
lemma mnemonic_isLine (addr : UInt16) (opcode byte : UInt8) (word : UInt16) :
    IsLine (mnemonic addr opcode byte word) := by
  rw [mnemonic_eq]
  split
  · exact text_isLine addr _
  · exact isLine_append.mpr ⟨by decide, hexByte_isLine opcode⟩

end GameBoy.Listing
