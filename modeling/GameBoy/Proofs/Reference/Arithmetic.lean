import GameBoy.Machine.Execution
import GameBoy.Proofs.Reference.Interpreter

/-!
# Machine arithmetic and the arithmetic of the numbers

Every operation on bytes and words is the one of the reference interpreter on the numbers that they
stand for, flags included. The carries are comparisons of sums that do not wrap around, so that they
can be made on the numbers; what works on a single byte is settled by looking at all bytes.
-/

namespace GameBoy.Reference

open Word (forall_byte)

/-- A result and flags, with the result as a byte. -/
def asByte (result : Nat × Flags) : UInt8 × Flags := (UInt8.ofNat result.1, result.2)

/-- A result is told by its number and its flags. -/
lemma asByte_ext {result : UInt8 × Flags} {v : Nat} {f : Flags} (hv : result.1.toNat = v)
    (hf : result.2 = f) : result = asByte (v, f) := by
  refine Prod.ext ?_ hf
  rw [asByte, ← hv, UInt8.ofNat_toNat]

/-- The carry that comes in, as a number. -/
lemma carryIn_toNat (c : Bool) : (Alu.carryIn c).toNat = c.toNat := by cases c <;> rfl

/-- The low nibble of a number. -/
lemma land_nibble (n : Nat) : n &&& 15 = n % 16 := Nat.and_two_pow_sub_one_eq_mod n 4

/-- The low byte of a number. -/
lemma land_byte (n : Nat) : n &&& 255 = n % 256 := Nat.and_two_pow_sub_one_eq_mod n 8

/-- The lower twelve bits of a number. -/
lemma land_page (n : Nat) : n &&& 4095 = n % 4096 := Nat.and_two_pow_sub_one_eq_mod n 12

/-- Bytes are compared by their numbers. -/
lemma beq_eq (v w : UInt8) : (v == w) = decide (v.toNat = w.toNat) := by
  rw [Bool.beq_eq_decide_eq, decide_eq_decide, UInt8.toNat_inj]

/-- A byte is compared to zero by its number. -/
lemma beq_zero_eq (v : UInt8) : (v == 0) = decide (v.toNat = 0) := beq_eq v 0

/-- Additions agree. -/
lemma add_eq (a n : UInt8) (c : Bool) : Alu.add a n c = asByte (add a.toNat n.toNat c.toNat) := by
  have hsum : (a + n + Alu.carryIn c).toNat = (a.toNat + n.toNat + c.toNat) % 256 := by
    simp [carryIn_toNat]
  have ha := a.toNat_lt
  have hn := n.toNat_lt
  have hc : c.toNat ≤ 1 := Bool.toNat_le c
  refine asByte_ext hsum ?_
  change Flags.mk _ _ _ _ = Flags.mk _ _ _ _
  congr 1
  · rw [beq_zero_eq, hsum]
  -- the sums of the nibbles do not wrap around in a byte, those of the bytes not in a word
  · rw [decide_eq_decide, gt_iff_lt, UInt8.lt_iff_toNat_lt]
    simp only [UInt8.reduceToNat, UInt8.toNat_add, UInt8.toNat_and, land_nibble, carryIn_toNat]
    omega
  · rw [decide_eq_decide, gt_iff_lt, UInt16.lt_iff_toNat_lt]
    simp only [UInt16.reduceToNat, UInt16.toNat_add, UInt8.toNat_toUInt16, carryIn_toNat]
    omega

/-- Subtractions agree. -/
lemma sub_eq (a n : UInt8) (c : Bool) : Alu.sub a n c = asByte (sub a.toNat n.toNat c.toNat) := by
  have ha := a.toNat_lt
  have hn := n.toNat_lt
  have hc : c.toNat ≤ 1 := Bool.toNat_le c
  have hdiff : (a - n - Alu.carryIn c).toNat =
      (((a.toNat : Int) - n.toNat - c.toNat) % 256).toNat := by
    rw [UInt8.toNat_sub, UInt8.toNat_sub, carryIn_toNat]
    omega
  refine asByte_ext hdiff ?_
  change Flags.mk _ _ _ _ = Flags.mk _ _ _ _
  congr 1
  · rw [beq_zero_eq, hdiff]
  · rw [decide_eq_decide, UInt8.lt_iff_toNat_lt]
    simp only [UInt8.reduceToNat, UInt8.toNat_add, UInt8.toNat_and, land_nibble, carryIn_toNat]
    omega
  · rw [decide_eq_decide, UInt16.lt_iff_toNat_lt]
    simp only [UInt16.toNat_add, UInt8.toNat_toUInt16, carryIn_toNat]
    omega

/-- A result that sets no carry. -/
lemma logic_eq {v : UInt8} {k : Nat} (h : v.toNat = k) (half : Bool) :
    ((v, { zero := v == 0, halfCarry := half }) : UInt8 × Flags) =
      asByte (k, { zero := k = 0, halfCarry := half }) := by
  refine asByte_ext h ?_
  rw [beq_zero_eq, h]

/-- All operations with the accumulator agree. -/
lemma combine_eq (y : Nat) (a n : UInt8) (c : Bool) :
    (AluOp.ofIndex y).apply a n c = asByte (combine y a.toNat n.toNat c.toNat) := by
  match y with
  | 0 => exact add_eq a n false
  | 1 => exact add_eq a n c
  | 2 => exact sub_eq a n false
  | 3 => exact sub_eq a n c
  | 4 => exact logic_eq (UInt8.toNat_and a n) true
  | 5 => exact logic_eq (UInt8.toNat_xor a n) false
  | 6 => exact logic_eq (UInt8.toNat_or a n) false
  -- a comparison keeps the accumulator and takes the flags of the difference
  | y + 7 => exact asByte_ext rfl (congrArg Prod.snd (sub_eq a n false))

/-- A low nibble is compared by its number. -/
lemma nibble_beq_eq (v n : UInt8) : (v &&& 0xf == n) = decide (v.toNat % 16 = n.toNat) := by
  rw [beq_eq, UInt8.toNat_and]
  exact congrArg (fun k => decide (k = n.toNat)) (land_nibble _)

/-- Counting a byte up agrees. -/
lemma inc_eq (v : UInt8) (f : Flags) : Alu.inc v f = asByte (inc v.toNat f) := by
  have hsum : (v + 1).toNat = (v.toNat + 1) % 256 := UInt8.toNat_add v 1
  refine asByte_ext hsum ?_
  change Flags.mk _ _ _ _ = Flags.mk _ _ _ _
  rw [beq_zero_eq, hsum, nibble_beq_eq]
  rfl

/-- Counting a byte down agrees. -/
lemma dec_eq (v : UInt8) (f : Flags) : Alu.dec v f = asByte (dec v.toNat f) := by
  have hdiff : (v - 1).toNat = (((v.toNat : Int) - 1) % 256).toNat := by
    have hv := v.toNat_lt
    have h1 : (1 : UInt8).toNat = 1 := rfl
    rw [UInt8.toNat_sub, h1]
    omega
  refine asByte_ext hdiff ?_
  change Flags.mk _ _ _ _ = Flags.mk _ _ _ _
  rw [beq_zero_eq, hdiff, nibble_beq_eq]
  rfl

/-- Adding or subtracting a correction of both digits. -/
lemma toNat_corrected (a : UInt8) (minus high low : Bool) :
    let adjust : UInt8 := (if high then 0x60 else 0) ||| (if low then 0x06 else 0)
    let correction : Int := (if low then 6 else 0) + (if high then 0x60 else 0)
    (if minus then a - adjust else a + adjust).toNat =
      ((if minus then a.toNat - correction else a.toNat + correction) % 256).toNat := by
  intro adjust correction
  have ha := a.toNat_lt
  have hadjust : (adjust.toNat : Int) = correction ∧ adjust.toNat < 256 := by
    cases high <;> cases low <;> decide
  cases minus with
  | true =>
    change (a - adjust).toNat = ((a.toNat - correction) % 256).toNat
    rw [UInt8.toNat_sub]
    omega
  | false =>
    change (a + adjust).toNat = ((a.toNat + correction) % 256).toNat
    rw [UInt8.toNat_add]
    omega

/-- Decimal corrections agree. -/
lemma daa_eq (a : UInt8) (f : Flags) : Alu.daa a f = asByte (correct a.toNat f) := by
  have hhigh : (a > 0x99) ↔ a.toNat > 0x99 := UInt8.lt_iff_toNat_lt
  have hlow : (a &&& 0xf > 0x9) ↔ a.toNat % 16 > 9 := by
    rw [gt_iff_lt, UInt8.lt_iff_toNat_lt, UInt8.toNat_and]
    exact iff_of_eq (congrArg (9 < ·) (land_nibble _))
  -- after a subtraction the digits themselves do not matter
  have hdigit : ∀ kept more : Bool, (if f.subtract then kept else kept || more) =
      (kept || !f.subtract && more) := by
    intro kept more
    cases f.subtract <;> simp
  simp only [Alu.daa, correct, hhigh, hlow, hdigit]
  have hsum := toNat_corrected a f.subtract (f.carry || !f.subtract && a.toNat > 0x99)
    (f.halfCarry || !f.subtract && a.toNat % 16 > 9)
  refine asByte_ext hsum ?_
  rw [beq_zero_eq, hsum]

/-- The complement of a byte is its distance from 255. -/
lemma cpl_eq (a : UInt8) : ~~~a = UInt8.ofNat (255 - a.toNat) := by
  have h : (~~~a).toNat = 255 - a.toNat := UInt8.toNat_not a
  rw [← h, UInt8.ofNat_toNat]

/-- Parts of a number that do not overlap add up. -/
lemma lor_eq_add {a b k : Nat} (ha : a % 2 ^ k = 0) (hb : b < 2 ^ k) : a ||| b = a + b := by
  have h := Nat.two_pow_add_eq_or_of_lt hb (a / 2 ^ k)
  rw [Nat.mul_div_cancel' (Nat.dvd_of_mod_eq_zero ha)] at h
  exact h.symm

/-- A shift to the left multiplies by a power of two. -/
lemma toNat_shl (v : UInt8) {k : UInt8} (hk : k.toNat < 8) :
    (v <<< k).toNat = v.toNat * 2 ^ k.toNat % 256 := by
  rw [UInt8.toNat_shiftLeft, Nat.mod_eq_of_lt hk, Nat.shiftLeft_eq]

/-- A shift to the right divides by a power of two. -/
lemma toNat_shr (v : UInt8) {k : UInt8} (hk : k.toNat < 8) :
    (v >>> k).toNat = v.toNat / 2 ^ k.toNat := by
  rw [UInt8.toNat_shiftRight, Nat.mod_eq_of_lt hk, Nat.shiftRight_eq_div_pow]

/-- The sign bit as a number. -/
lemma toNat_sign (v : UInt8) : (v &&& 0x80).toNat = 128 * (v.toNat / 128) := by
  have hv : v.toNat < 256 := v.toNat_lt
  have h : v.toNat &&& 2 ^ 7 = (v.toNat.testBit 7).toNat * 2 ^ 7 := Nat.and_two_pow _ _
  rw [Nat.toNat_testBit] at h
  rw [UInt8.toNat_and]
  change v.toNat &&& 2 ^ 7 = _
  omega

/-- The bit that falls out on the left. -/
lemma top_eq (v : UInt8) : (v >>> 7 == 1) = decide (v.toNat / 128 = 1) := by
  rw [beq_eq, toNat_shr v (by decide)]
  rfl

/-- The bit that falls out on the right. -/
lemma bottom_eq (v : UInt8) : (v &&& 1 == 1) = decide (v.toNat % 2 = 1) := by
  rw [beq_eq, UInt8.toNat_and]
  exact congrArg (fun n => decide (n = 1)) (Nat.and_one_is_mod _)

/-- All rotations and shifts agree in their results and in the bit that falls out. -/
lemma move_eq (y : Nat) (v : UInt8) (c : Bool) :
    ((ShiftOp.ofIndex y).move v c).1.toNat = (shift y v.toNat c.toNat).1 ∧
      ((ShiftOp.ofIndex y).move v c).2 = decide ((shift y v.toNat c.toNat).2 = 1) := by
  -- the bits that move and those that come in do not overlap, so that their sum is their union
  have hv : v.toNat < 256 := v.toNat_lt
  have hc : c.toNat ≤ 1 := Bool.toNat_le c
  have h1 : (v <<< 1).toNat = v.toNat * 2 % 256 := toNat_shl v (by decide)
  have h1' : (v >>> 1).toNat = v.toNat / 2 := toNat_shr v (by decide)
  have h7' : (v >>> 7).toNat = v.toNat / 128 := toNat_shr v (by decide)
  match y with
  | 0 =>
    refine ⟨?_, top_eq v⟩
    rw [ShiftOp.ofIndex, ShiftOp.move, UInt8.toNat_or, h1, h7']
    exact lor_eq_add (k := 1) (by omega) (by omega)
  | 1 =>
    refine ⟨?_, bottom_eq v⟩
    have h7 : (v <<< 7).toNat = 128 * (v.toNat % 2) := by
      rw [toNat_shl v (by decide)]
      change v.toNat * 128 % 256 = _
      omega
    rw [ShiftOp.ofIndex, ShiftOp.move, UInt8.toNat_or, h1', h7, Nat.or_comm]
    exact (lor_eq_add (k := 7) (by omega) (by omega)).trans (Nat.add_comm _ _)
  | 2 =>
    refine ⟨?_, top_eq v⟩
    rw [ShiftOp.ofIndex, ShiftOp.move, UInt8.toNat_or, h1, carryIn_toNat]
    exact lor_eq_add (k := 1) (by omega) (by omega)
  | 3 =>
    refine ⟨?_, bottom_eq v⟩
    have h7 : (Alu.carryIn c <<< 7).toNat = 128 * c.toNat := by cases c <;> rfl
    rw [ShiftOp.ofIndex, ShiftOp.move, UInt8.toNat_or, h1', h7, Nat.or_comm]
    exact (lor_eq_add (k := 7) (by omega) (by omega)).trans (Nat.add_comm _ _)
  | 4 => exact ⟨h1, top_eq v⟩
  | 5 =>
    refine ⟨?_, bottom_eq v⟩
    rw [ShiftOp.ofIndex, ShiftOp.move, UInt8.toNat_or, h1', toNat_sign, Nat.or_comm]
    exact (lor_eq_add (k := 7) (by omega) (by omega)).trans (Nat.add_comm _ _)
  | 6 =>
    refine ⟨?_, rfl⟩
    have h4 : (v <<< 4).toNat = v.toNat % 16 * 16 := by
      rw [toNat_shl v (by decide)]
      change v.toNat * 16 % 256 = _
      omega
    have h4' : (v >>> 4).toNat = v.toNat / 16 := toNat_shr v (by decide)
    rw [ShiftOp.ofIndex, ShiftOp.move, UInt8.toNat_or, h4, h4']
    exact lor_eq_add (k := 4) (by omega) (by omega)
  | y + 7 => exact ⟨h1', bottom_eq v⟩

/-- The rotations and shifts behind the prefix agree. -/
lemma rotate_eq (y : Nat) (v : UInt8) (c : Bool) :
    (ShiftOp.ofIndex y).apply v c = asByte (rotate y v.toNat c.toNat) := by
  obtain ⟨hv, ho⟩ := move_eq y v c
  unfold ShiftOp.apply rotate asByte
  generalize (ShiftOp.ofIndex y).move v c = moved at hv ho ⊢
  generalize shift y v.toNat c.toNat = shifted at hv ho ⊢
  obtain ⟨result, out⟩ := moved
  obtain ⟨n, k⟩ := shifted
  dsimp only at hv ho ⊢
  rw [← hv, ho, beq_zero_eq, UInt8.ofNat_toNat]

/-- The rotations of the accumulator agree. -/
lemma rotateA_eq (y : Nat) (v : UInt8) (c : Bool) :
    (ShiftOp.ofIndex y).applyToA v c = asByte (rotateA y v.toNat c.toNat) := by
  have h := rotate_eq y v c
  rw [ShiftOp.applyToA, h]
  rfl

/-- A mask of one bit tells whether it is set. -/
lemma mask_eq (v mask : UInt8) {y : Nat} (hm : mask.toNat = 2 ^ y) :
    (v &&& mask == 0) = !v.toNat.testBit y := by
  rw [beq_zero_eq, UInt8.toNat_and, hm, Nat.and_two_pow]
  cases v.toNat.testBit y <;> simp

/-- Tests of a bit agree. -/
lemma testBit_eq {y : Nat} (hy : y < 8) (v : UInt8) (f : Flags) :
    Alu.testBit (UInt8.ofNat y) v f =
      { zero := !v.toNat.testBit y, subtract := false, halfCarry := true, carry := f.carry } := by
  have hbit : ∀ y < 8, (1 <<< UInt8.ofNat y : UInt8).toNat = 2 ^ y := by decide
  rw [Alu.testBit, mask_eq v _ (hbit y hy)]

/-- Resetting and setting a bit takes its value away or adds it. -/
lemma reset_set_eq {y : Nat} (hy : y < 8) (v : UInt8) :
    v &&& ~~~(1 <<< UInt8.ofNat y) =
        UInt8.ofNat (if v.toNat.testBit y then v.toNat - 2 ^ y else v.toNat) ∧
      v ||| (1 <<< UInt8.ofNat y) =
        UInt8.ofNat (if v.toNat.testBit y then v.toNat else v.toNat + 2 ^ y) := by
  have hall : ∀ v : UInt8, ∀ y < 8,
      v &&& ~~~(1 <<< UInt8.ofNat y) =
          UInt8.ofNat (if v.toNat.testBit y then v.toNat - 2 ^ y else v.toNat) ∧
        v ||| (1 <<< UInt8.ofNat y) =
          UInt8.ofNat (if v.toNat.testBit y then v.toNat else v.toNat + 2 ^ y) :=
    forall_byte (by decide +kernel)
  exact hall v y hy

/-! ## Words -/

/-- A result and flags, with the result as a word. -/
def asWord (result : Nat × Flags) : UInt16 × Flags := (UInt16.ofNat result.1, result.2)

/-- A result of a word is told by its number and its flags. -/
lemma asWord_ext {result : UInt16 × Flags} {v : Nat} {f : Flags} (hv : result.1.toNat = v)
    (hf : result.2 = f) : result = asWord (v, f) := by
  refine Prod.ext ?_ hf
  rw [asWord, ← hv, UInt16.ofNat_toNat]

/-- Additions of words agree. -/
lemma addWord_eq (a n : UInt16) (f : Flags) :
    Alu.addWord a n f = asWord (addWord a.toNat n.toNat f) := by
  have ha := a.toNat_lt
  have hn := n.toNat_lt
  refine asWord_ext (UInt16.toNat_add a n) ?_
  change Flags.mk _ _ _ _ = Flags.mk _ _ _ _
  congr 1
  · rw [decide_eq_decide, gt_iff_lt, UInt16.lt_iff_toNat_lt]
    simp only [UInt16.reduceToNat, UInt16.toNat_add, UInt16.toNat_and, land_page]
    omega
  · rw [decide_eq_decide, gt_iff_lt, UInt32.lt_iff_toNat_lt]
    simp only [UInt32.reduceToNat, UInt32.toNat_add, UInt16.toNat_toUInt32]
    omega

/-- A displacement as a number below 2 ^ 16. -/
lemma toNat_signed (e : UInt8) : (Word.signed e).toNat = (signed e.toNat % 65536).toNat := by
  have he : e.toNat < 256 := e.toNat_lt
  have h : (Word.signed e).toNat = (e.toBitVec.signExtend 16).toNat := rfl
  rw [h, BitVec.toNat_signExtend, BitVec.msb_eq_decide, BitVec.toNat_setWidth, signed]
  change e.toNat % 65536 + (if decide (128 ≤ e.toNat) = true then 65280 else 0) = _
  simp only [decide_eq_true_eq]
  split <;> split <;> omega

/-- A displaced word as a number. -/
lemma toNat_add_signed (a : UInt16) (e : UInt8) :
    (a + Word.signed e).toNat = ((a.toNat + signed e.toNat) % 65536).toNat := by
  have ha := a.toNat_lt
  rw [UInt16.toNat_add, toNat_signed]
  omega

/-- Displacements of a word agree. -/
lemma displace_eq (a : UInt16) (e : UInt8) :
    Alu.addDisplacement a e = asWord (displace a.toNat e.toNat) := by
  have ha := a.toNat_lt
  have he := e.toNat_lt
  refine asWord_ext (toNat_add_signed a e) ?_
  change Flags.mk _ _ _ _ = Flags.mk _ _ _ _
  congr 1
  · rw [decide_eq_decide, gt_iff_lt, UInt16.lt_iff_toNat_lt]
    simp only [UInt16.reduceToNat, UInt16.toNat_add, UInt16.toNat_and, UInt8.toNat_toUInt16,
      land_nibble]
    omega
  · rw [decide_eq_decide, gt_iff_lt, UInt16.lt_iff_toNat_lt]
    simp only [UInt16.reduceToNat, UInt16.toNat_add, UInt16.toNat_and, UInt8.toNat_toUInt16,
      land_byte]
    omega

/-! ## The flags as a byte -/

/-- The flags are packed alike. -/
lemma pack_eq (f : Flags) : f.toByte.toNat = pack f := by
  obtain ⟨z, n, h, c⟩ := f
  cases z <;> cases n <;> cases h <;> cases c <;> rfl

/-- The flags are unpacked alike. -/
lemma unpack_eq (b : UInt8) : Flags.ofByte b = unpack b.toNat := by
  have hbit (mask : UInt8) {y : Nat} (hm : mask.toNat = 2 ^ y) :
      (b &&& mask != 0) = b.toNat.testBit y := by rw [bne, mask_eq b mask hm, Bool.not_not]
  rw [Flags.ofByte, hbit 0x80 (y := 7) rfl, hbit 0x40 (y := 6) rfl, hbit 0x20 (y := 5) rfl,
    hbit 0x10 (y := 4) rfl, unpack]

/-! ## Addresses -/

/-- An address of the last page as a number. -/
lemma highPage_eq (n : UInt8) : (Machine.highPage n).toNat = 0xff00 + n.toNat := by
  rw [Machine.highPage, UInt16.toNat_or, UInt8.toNat_toUInt16]
  exact lor_eq_add (k := 8) rfl n.toNat_lt

end GameBoy.Reference
