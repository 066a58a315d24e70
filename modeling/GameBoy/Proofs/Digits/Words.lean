import GameBoy.Proofs.Digits.Binary

/-!
# Sums of words, byte by byte

A sum of two words is the sum of their low bytes and, with the carry of that, the sum of their high
bytes (`low_add`, `high_add`). The flags of `addWord` are those of the high bytes. A displacement is
a word too, whose high byte repeats the sign, but the flags of `addDisplacement` are those of the
low bytes (`word_arithmetic`).
-/

namespace GameBoy.Alu

open Word (low high toNat_low toNat_high)
open Reference (addWord_eq displace_eq toNat_signed)

/-- The sum of the low bytes of two words. -/
def lowSum (m n : UInt16) : UInt8 × Flags := add (low m) (low n) false

/-- The sum of the high bytes of two words with the carry of the low ones. -/
def highSum (m n : UInt16) : UInt8 × Flags := add (high m) (high n) (lowSum m n).2.carry

variable (m n sp : UInt16) (e : UInt8)

/-- The sum of the low bytes, with its carry. -/
lemma lowSum_balanced :
    (lowSum m n).1.toNat + 256 * (lowSum m n).2.carry.toNat = m.toNat % 256 + n.toNat % 256 := by
  have h := add_balanced (low m) (low n) false
  rwa [toNat_low, toNat_low] at h

/-- The sum of the high bytes and the carry between, with its carry. -/
lemma highSum_balanced :
    (highSum m n).1.toNat + 256 * (highSum m n).2.carry.toNat =
      m.toNat / 256 + n.toNat / 256 + (lowSum m n).2.carry.toNat := by
  have h := add_balanced (high m) (high n) (lowSum m n).2.carry
  rwa [toNat_high, toNat_high] at h

/-- The low byte of a sum is the sum of the low bytes. -/
lemma low_add : low (m + n) = (lowSum m n).1 := by
  have hlow := lowSum_balanced m n
  have hbyte := (lowSum m n).1.toNat_lt
  refine UInt8.toNat_inj.mp ?_
  rw [toNat_low, UInt16.toNat_add]
  omega

/-- The high byte of a sum is the sum of the high bytes and of the carry that the low ones leave. -/
lemma high_add : high (m + n) = (highSum m n).1 := by
  have hlow := lowSum_balanced m n
  have hhigh := highSum_balanced m n
  have hbyte := (lowSum m n).1.toNat_lt
  have hbyte' := (highSum m n).1.toNat_lt
  refine UInt8.toNat_inj.mp ?_
  rw [toNat_high, UInt16.toNat_add]
  omega

/-- The carry of a sum tells that it does not fit in a byte. -/
lemma add_carry_iff (x y : UInt8) (c : Bool) :
    (add x y c).2.carry = true ↔ 255 < x.toNat + y.toNat + c.toNat := by
  rw [Reference.add_eq]
  exact decide_eq_true_iff

/-- The flags of a sum of words are those of the high bytes, with zero as it was. -/
lemma addWord_flags (f : Flags) :
    (addWord m n f).2 =
      { zero := f.zero
        subtract := false
        halfCarry := (highSum m n).2.halfCarry
        carry := (highSum m n).2.carry } := by
  have hlow := lowSum_balanced m n
  have hbyte := (lowSum m n).1.toNat_lt
  rw [addWord_eq]
  change Flags.mk _ _ _ _ = Flags.mk _ _ _ _
  -- bit 11 of a word is bit 3 of its high byte
  congr 1
  · rw [Bool.eq_iff_iff, decide_eq_true_iff, highSum, add_halfCarry_iff, toNat_high, toNat_high]
    omega
  · rw [Bool.eq_iff_iff, decide_eq_true_iff, highSum, add_carry_iff, toNat_high, toNat_high]
    omega

/-! ## Displacements -/

/-- The number of a displacement. -/
lemma signed_eq : Reference.signed e.toNat = e.toInt8.toInt := by
  have he := e.toNat_lt
  change _ = e.toBitVec.toInt
  rw [Reference.signed, BitVec.toInt_eq_toNat_cond]
  change _ = if 2 * e.toNat < 256 then (e.toNat : ℤ) else e.toNat - 256
  split <;> split <;> omega

/-- The low byte of a displacement is the byte that it is read from. -/
lemma low_signed : low (Word.signed e) = e := by
  have he := e.toNat_lt
  refine UInt8.toNat_inj.mp ?_
  rw [toNat_low, toNat_signed, Reference.signed]
  split <;> omega

/-- The high byte of a displacement repeats its sign. -/
lemma high_signed : high (Word.signed e) = if e < 0x80 then 0 else 0xff := by
  have he := e.toNat_lt
  have hlt : e < 0x80 ↔ e.toNat < 128 := UInt8.lt_iff_toNat_lt
  refine UInt8.toNat_inj.mp ?_
  rw [toNat_high, toNat_signed, Reference.signed]
  by_cases hsign : e.toNat < 128
  · rw [if_pos hsign, if_pos (hlt.mpr hsign), UInt8.toNat_zero]
    omega
  · rw [if_neg hsign, if_neg fun h => hsign (hlt.mp h), show (0xff : UInt8).toNat = 255 from rfl]
    omega

/-- Only the least displacement is not undone by its negation, which is itself. -/
lemma signed_add_signed_neg_iff : Word.signed e + Word.signed (-e) = 0 ↔ e ≠ 0x80 := by
  have he := e.toNat_lt
  have hneg : (-e).toNat = (256 - e.toNat) % 256 := UInt8.toNat_neg e
  rw [← UInt16.toNat_inj, ne_eq, ← UInt8.toNat_inj, UInt16.toNat_add, toNat_signed, toNat_signed,
    hneg, Reference.signed, Reference.signed, UInt16.toNat_zero,
    show (0x80 : UInt8).toNat = 128 from rfl]
  split <;> split <;> omega

/-- The flags of a displaced word are those of the low bytes, with zero clear. -/
lemma addDisplacement_flags :
    (addDisplacement sp e).2 =
      { zero := false
        subtract := false
        halfCarry := (add (low sp) e false).2.halfCarry
        carry := (add (low sp) e false).2.carry } := by
  have he := e.toNat_lt
  rw [displace_eq]
  change Flags.mk _ _ _ _ = Flags.mk _ _ _ _
  congr 1
  · rw [Bool.eq_iff_iff, decide_eq_true_iff, add_halfCarry_iff, toNat_low, Bool.toNat_false]
    omega
  · rw [Bool.eq_iff_iff, decide_eq_true_iff, add_carry_iff, toNat_low, Bool.toNat_false]
    omega

/-- Adding words is adding bytes: the results and all flags of both word additions are those of
additions of the bytes, and displacing by a byte and by its negation changes nothing. -/
theorem word_arithmetic :
    (∀ m n f,
      let lo := add (low m) (low n) false
      let hi := add (high m) (high n) lo.2.carry
      let sum := addWord m n f
      low sum.1 = lo.1 ∧ high sum.1 = hi.1 ∧
        sum.2 = ⟨f.zero, false, hi.2.halfCarry, hi.2.carry⟩) ∧
    ∀ sp e,
      let lo := add (low sp) e false
      let hi := add (high sp) (if e < 0x80 then 0 else 0xff) lo.2.carry
      let moved := addDisplacement sp e
      (moved.1.toNat : ℤ) = (sp.toNat + e.toInt8.toInt) % 65536 ∧
        low moved.1 = lo.1 ∧ high moved.1 = hi.1 ∧
        moved.2 = ⟨false, false, lo.2.halfCarry, lo.2.carry⟩ ∧
        ((addDisplacement moved.1 (-e)).1 = sp ↔ e ≠ 0x80) := by
  constructor
  · exact fun m n f => ⟨low_add m n, high_add m n, addWord_flags m n f⟩
  · intro sp e lo hi moved
    have hlow : lo = lowSum sp (Word.signed e) := by rw [lowSum, low_signed]
    have hhigh : hi = highSum sp (Word.signed e) := by
      rw [highSum, high_signed, ← hlow]
    refine ⟨?_, ?_, ?_, addDisplacement_flags sp e, ?_⟩
    · have h := Reference.toNat_add_signed sp e
      rw [signed_eq] at h
      change ((sp + Word.signed e).toNat : ℤ) = _
      omega
    · rw [hlow]
      exact low_add sp _
    · rw [hhigh]
      exact high_add sp _
    · change sp + Word.signed e + Word.signed (-e) = sp ↔ _
      rw [UInt16.add_assoc, ← signed_add_signed_neg_iff]
      exact UInt16.add_eq_left

example : (addWord 0x8fff 0x7001 ⟨true, true, false, false⟩).2 = ⟨true, false, true, true⟩ := by
  decide

end GameBoy.Alu
