import GameBoy.Proofs.Machine.Faults

/-!
# The bytes of instructions

An instruction tells the bytes from which it was decoded: its opcode, and behind it what belongs to it
(`code_of_complete`).
-/

namespace GameBoy

namespace Encoding

/-- The byte with a block and two fields of three bits. -/
def ofFields (b y z : Nat) : UInt8 := UInt8.ofNat (64 * b + 8 * y + z)

section Fields

variable {b y z : Nat} (hb : b < 4) (hy : y < 8) (hz : z < 8)
include hb hy hz

/-- An opcode as the number of its fields. -/
lemma toNat_ofFields : (ofFields b y z).toNat = 64 * b + 8 * y + z :=
  UInt8.toNat_ofNat_of_lt' (show 64 * b + 8 * y + z < 256 by omega)

/-- The upper two bits. -/
@[simp] lemma block_ofFields : (ofFields b y z).toNat / 64 = b := by
  rw [toNat_ofFields hb hy hz]
  omega

/-- The three bits in the middle. -/
@[simp] lemma middle_ofFields : (ofFields b y z).toNat / 8 % 8 = y := by
  rw [toNat_ofFields hb hy hz]
  omega

/-- The lower three bits. -/
@[simp] lemma low_ofFields : (ofFields b y z).toNat % 8 = z := by
  rw [toNat_ofFields hb hy hz]
  omega

end Fields

end Encoding

/-- The number by which a table of at most eight entries names something. -/
def indexIn {α : Type} [DecidableEq α] (table : Nat → α) (x : α) : Nat :=
  ((List.range 8).map table).idxOf x

/-- A word in two bytes, the less significant one first. -/
def Word.bytes (w : UInt16) : List UInt8 := [low w, high w]

open Encoding in
/-- The bytes of an instruction. -/
def Instruction.code : Instruction → List UInt8
  | nop => [0x00]
  | stop => [0x10]
  | halt => [0x76]
  | di => [0xf3]
  | ei => [0xfb]
  | load dst src => [ofFields 1 (indexIn Operand.ofIndex dst) (indexIn Operand.ofIndex src)]
  | loadImmediate dst n => [ofFields 0 (indexIn Operand.ofIndex dst) 6, n]
  | storeIndirect p => [ofFields 0 (2 * indexIn Pointer.ofIndex p) 2]
  | loadIndirect p => [ofFields 0 (2 * indexIn Pointer.ofIndex p + 1) 2]
  | storeHigh n => [0xe0, n]
  | loadHigh n => [0xf0, n]
  | storeHighC => [0xe2]
  | loadHighC => [0xf2]
  | storeAbsolute nn => 0xea :: Word.bytes nn
  | loadAbsolute nn => 0xfa :: Word.bytes nn
  | loadWord r nn => ofFields 0 (2 * indexIn Encoding.pair r) 1 :: Word.bytes nn
  | storeSp nn => 0x08 :: Word.bytes nn
  | spFromHl => [0xf9]
  | hlFromSp e => [0xf8, e]
  | push r => [ofFields 3 (2 * indexIn stackPair r) 5]
  | pop r => [ofFields 3 (2 * indexIn stackPair r) 1]
  | alu op src => [ofFields 2 (indexIn AluOp.ofIndex op) (indexIn Operand.ofIndex src)]
  | aluImmediate op n => [ofFields 3 (indexIn AluOp.ofIndex op) 6, n]
  | inc r => [ofFields 0 (indexIn Operand.ofIndex r) 4]
  | dec r => [ofFields 0 (indexIn Operand.ofIndex r) 5]
  | daa => [0x27]
  | cpl => [0x2f]
  | scf => [0x37]
  | ccf => [0x3f]
  | shiftA op => [ofFields 0 (indexIn ShiftOp.ofIndex op) 7]
  | incWord r => [ofFields 0 (2 * indexIn Encoding.pair r) 3]
  | decWord r => [ofFields 0 (2 * indexIn Encoding.pair r + 1) 3]
  | addHl r => [ofFields 0 (2 * indexIn Encoding.pair r + 1) 1]
  | addSp e => [0xe8, e]
  | jumpRelative none e => [0x18, e]
  | jumpRelative (some cc) e => [ofFields 0 (indexIn Condition.ofIndex cc + 4) 0, e]
  | jump none nn => 0xc3 :: Word.bytes nn
  | jump (some cc) nn => ofFields 3 (indexIn Condition.ofIndex cc) 2 :: Word.bytes nn
  | jumpHl => [0xe9]
  | call none nn => 0xcd :: Word.bytes nn
  | call (some cc) nn => ofFields 3 (indexIn Condition.ofIndex cc) 4 :: Word.bytes nn
  | ret none => [0xc9]
  | ret (some cc) => [ofFields 3 (indexIn Condition.ofIndex cc) 0]
  | reti => [0xd9]
  | restart target => [0xc7 ||| target]
  | shift op r => [0xcb, ofFields 0 (indexIn ShiftOp.ofIndex op) (indexIn Operand.ofIndex r)]
  | bit i r => [0xcb, ofFields 1 i.toNat (indexIn Operand.ofIndex r)]
  | res i r => [0xcb, ofFields 2 i.toNat (indexIn Operand.ofIndex r)]
  | set i r => [0xcb, ofFields 3 i.toNat (indexIn Operand.ofIndex r)]

namespace Encoding

variable {opcode byte : UInt8} {word : UInt16} {i : Instruction}

/-- The bytes behind an opcode that belong to its instruction. -/
def immediates (encoding : Encoding) (byte : UInt8) (word : UInt16) : List UInt8 :=
  match encoding with
  | withByte _ => [byte]
  | withWord _ => Word.bytes word
  | _ => []

/-- What stands first does not depend on the immediates, which stand behind it. -/
lemma exists_code_eq (op : Reference.Op) :
    ∃ first, ∀ byte word i, op.encoding.complete byte word = some i →
      i.code = first :: op.encoding.immediates byte word := by
  cases op with
  | jumpRelative cc | jump cc | call cc | ret cc =>
    cases cc <;> exact ⟨_, fun byte word i h => by cases h; rfl⟩
  | _ => exact ⟨_, fun byte word i h => by cases h; rfl⟩

/-- The first bytes of instructions, without immediates. -/
lemma code_table : ∀ n < 256, ∀ i ∈ (ofOpcode (UInt8.ofNat n)).complete 0 0,
    i.code.head? = some (UInt8.ofNat n) := by
  decide +kernel

/-- Behind the prefix the code of an instruction is the byte it was read from. -/
lemma code_extended (byte : UInt8) : (extended byte).code = [0xcb, byte] := by
  revert byte
  exact Word.forall_byte (by decide +kernel)

/-- An instruction has the bytes from which it was decoded. -/
lemma code_of_complete (h : (ofOpcode opcode).complete byte word = some i) :
    i.code = opcode :: (ofOpcode opcode).immediates byte word := by
  obtain hl | rfl | rfl | ⟨op, hop⟩ := opcode_cases opcode
  · rw [ofOpcode_of_mem hl] at h
    cases h
  · cases h
    rfl
  · obtain rfl : extended byte = i := Option.some.inj h
    exact code_extended byte
  · obtain ⟨first, hfirst⟩ := exists_code_eq op
    -- the first byte is the same for all immediates, so that those with zeros decide which it is
    have htable := code_table opcode.toNat opcode.toNat_lt
    rw [UInt8.ofNat_toNat] at htable
    rw [Reference.ofOpcode_eq hop] at h htable ⊢
    have hi := hfirst byte word i h
    obtain ⟨i₀, h₀⟩ : ∃ i₀, op.encoding.complete 0 0 = some i₀ := by cases op <;> exact ⟨_, rfl⟩
    have hhead := htable i₀ h₀
    rw [hfirst 0 0 i₀ h₀, List.head?_cons, Option.some.injEq] at hhead
    rw [hi, hhead]

end Encoding

end GameBoy
