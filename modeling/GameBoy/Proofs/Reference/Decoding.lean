import GameBoy.Cpu.Encoding
import GameBoy.Proofs.Reference.Interpreter
import Mathlib.Tactic.IntervalCases

/-!
# Opcodes and operations

The opcodes stand for the operations that their fields name (`ofOpcode_eq`), the prices are those of
the table (`cost_eq`), and only STOP, the prefix and eleven more opcodes stand for no operation
(`decode_isSome`).
-/

namespace GameBoy.Reference

open Encoding in
/-- How the processor encodes an operation. -/
def Op.encoding : Op → Encoding
  | nop => bare .nop
  | halt => bare .halt
  | di => bare .di
  | ei => bare .ei
  | copy y z => bare (.load (.ofIndex y) (.ofIndex z))
  | loadByte y => withByte (.loadImmediate (.ofIndex y))
  | storeAt p => bare (.storeIndirect (.ofIndex p))
  | loadAt p => bare (.loadIndirect (.ofIndex p))
  | storeHigh => withByte .storeHigh
  | loadHigh => withByte .loadHigh
  | storeHighC => bare .storeHighC
  | loadHighC => bare .loadHighC
  | storeFar => withWord .storeAbsolute
  | loadFar => withWord .loadAbsolute
  | loadWord p => withWord (.loadWord (Encoding.pair p))
  | storeSp => withWord .storeSp
  | spFromHl => bare .spFromHl
  | hlFromSp => withByte .hlFromSp
  | push p => bare (.push (Encoding.stackPair p))
  | pop p => bare (.pop (Encoding.stackPair p))
  | combine y z => bare (.alu (.ofIndex y) (.ofIndex z))
  | combineByte y => withByte (.aluImmediate (.ofIndex y))
  | inc y => bare (.inc (.ofIndex y))
  | dec y => bare (.dec (.ofIndex y))
  | daa => bare .daa
  | cpl => bare .cpl
  | scf => bare .scf
  | ccf => bare .ccf
  | rotateA y => bare (.shiftA (.ofIndex y))
  | incWord p => bare (.incWord (Encoding.pair p))
  | decWord p => bare (.decWord (Encoding.pair p))
  | addHl p => bare (.addHl (Encoding.pair p))
  | addSp => withByte .addSp
  | jumpRelative cc => withByte (.jumpRelative (cc.map .ofIndex))
  | jump cc => withWord (.jump (cc.map .ofIndex))
  | jumpHl => bare .jumpHl
  | call cc => withWord (.call (cc.map .ofIndex))
  | ret cc => bare (.ret (cc.map .ofIndex))
  | reti => bare .reti
  | restart y => bare (.restart (UInt8.ofNat (8 * y)))

/-- An opcode that is documented stands for what is documented. -/
lemma ofOpcode_eq {opcode : UInt8} {op : Op} (h : decode opcode.toNat = some op) :
    Encoding.ofOpcode opcode = op.encoding := by
  have hall : ∀ n < 256, decode n = some op → Encoding.ofOpcode (UInt8.ofNat n) = op.encoding := by
    intro n hn h
    interval_cases n <;> cases h <;> rfl
  have hop := hall opcode.toNat opcode.toNat_lt h
  rwa [UInt8.ofNat_toNat] at hop

/-- Whether the address of a restart is one of the eight that there are. -/
def Op.fits : Op → Bool
  | restart y => y < 8
  | _ => true

/-- The table of the opcodes, row by row. -/
lemma decode_table : ∀ n < 256,
    (n ∈ [0x10, 0xcb, 0xd3, 0xdb, 0xdd, 0xe3, 0xe4, 0xeb, 0xec, 0xed, 0xf4, 0xfc, 0xfd] ∨
      (decode n).isSome = true) ∧
    ∀ op ∈ decode n, op.fits = true ∧
      ∀ z c, ((op.encoding.complete 0 0).map fun i => i.cost { zero := z, carry := c }) =
        some (price n + surcharge { zero := z, carry := c } op) := by
  decide +kernel

/-- All opcodes are documented but the prefix, STOP and those that the processor lacks. -/
lemma decode_isSome {n : Nat} (hn : n < 256)
    (h : n ∉ [0x10, 0xcb, 0xd3, 0xdb, 0xdd, 0xe3, 0xe4, 0xeb, 0xec, 0xed, 0xf4, 0xfc, 0xfd]) :
    ∃ op, decode n = some op := by
  obtain ⟨h' | h', -⟩ := decode_table n hn
  · exact absurd h' h
  · exact Option.isSome_iff_exists.mp h'

/-- What an opcode asks for has fields within their ranges. -/
lemma decode_fits {n : Nat} (hn : n < 256) {op : Op} (h : decode n = some op) : op.fits = true :=
  ((decode_table n hn).2 op h).1

/-- The price of an operation depends neither on the immediates nor on two of the flags. -/
lemma cost_congr (op : Op) {byte : UInt8} {word : UInt16} {f : Flags} {i : Instruction}
    (h : op.encoding.complete byte word = some i) :
    ((op.encoding.complete 0 0).map fun i => i.cost { zero := f.zero, carry := f.carry }) =
      some (i.cost f) := by
  cases op <;> cases h <;> rfl

/-- The surcharge depends on the flags that conditions are about. -/
lemma surcharge_congr (op : Op) (f : Flags) :
    surcharge { zero := f.zero, carry := f.carry } op = surcharge f op := by
  cases op <;> rfl

/-- The prices of documented opcodes are the documented ones. -/
lemma cost_eq {n : Nat} (hn : n < 256) {op : Op} (hop : decode n = some op) {byte : UInt8}
    {word : UInt16} {i : Instruction} (hi : op.encoding.complete byte word = some i) (f : Flags) :
    i.cost f = price n + surcharge f op := by
  have h := ((decode_table n hn).2 op hop).2 f.zero f.carry
  rw [cost_congr op hi, surcharge_congr, Option.some.injEq] at h
  exact h

/-- The prices behind the prefix are the documented ones. -/
lemma cost_extended (byte : UInt8) (f : Flags) :
    (Encoding.extended byte).cost f = prefixedPrice byte.toNat := by
  have hall : ∀ n < 256, (Encoding.extended (UInt8.ofNat n)).cost f = prefixedPrice n := by
    intro n hn
    interval_cases n <;> rfl
  have h := hall byte.toNat byte.toNat_lt
  rwa [UInt8.ofNat_toNat] at h

end GameBoy.Reference
