/-!
# Bytes and words

A word is two bytes, the more significant one called high. `join` builds a word from its bytes,
`high` and `low` take it apart, and neither direction loses anything. `signed` reads a byte as a
displacement in two's complement. A byte is made of eight bits (`eq_of_testBit`), to which the bitwise
operations apply one by one.
-/

namespace GameBoy.Word

/-- The more significant byte of a word. -/
def high (w : UInt16) : UInt8 := (w >>> 8).toUInt8

/-- The less significant byte of a word. -/
def low (w : UInt16) : UInt8 := w.toUInt8

/-- The word with the given bytes. -/
def join (hi lo : UInt8) : UInt16 := (hi.toUInt16 <<< 8) ||| lo.toUInt16

/-- A byte as a signed displacement, ready to be added to a word modulo `2 ^ 16`. -/
def signed (e : UInt8) : UInt16 := e.toInt8.toInt16.toUInt16

/-- What holds of the bytes of all numbers below 256 holds of every byte. -/
theorem forall_byte {P : UInt8 → Prop} (h : ∀ n < 256, P (UInt8.ofNat n)) (v : UInt8) : P v := by
  have hv := h v.toNat v.toNat_lt
  rwa [UInt8.ofNat_toNat] at hv

/-- A byte is determined by its bits. -/
theorem eq_of_testBit {v w : UInt8} (h : ∀ i < 8, v.toNat.testBit i = w.toNat.testBit i) : v = w :=
  UInt8.eq_of_toBitVec_eq (BitVec.eq_of_getLsbD_eq h)

/-- Conjunction works bit by bit. -/
theorem testBit_and (v w : UInt8) (i : Nat) :
    (v &&& w).toNat.testBit i = (v.toNat.testBit i && w.toNat.testBit i) := by
  rw [UInt8.toNat_and, Nat.testBit_and]

/-- Disjunction works bit by bit. -/
theorem testBit_or (v w : UInt8) (i : Nat) :
    (v ||| w).toNat.testBit i = (v.toNat.testBit i || w.toNat.testBit i) := by
  rw [UInt8.toNat_or, Nat.testBit_or]

/-- Clearing the bits of a mask leaves all others. -/
theorem testBit_clear (v mask : UInt8) (i : Nat) :
    (v &&& ~~~mask).toNat.testBit i = (v.toNat.testBit i && !mask.toNat.testBit i) := by
  rw [testBit_and]
  by_cases h : i < 8
  · have hmask : (~~~mask).toNat.testBit i = !mask.toNat.testBit i := by
      have e := BitVec.getLsbD_not (x := mask.toBitVec) (i := i)
      rwa [decide_eq_true h, Bool.true_and] at e
    rw [hmask]
  · have hv : v.toNat.testBit i = false := BitVec.getLsbD_of_ge v.toBitVec i (Nat.le_of_not_lt h)
    rw [hv, Bool.false_and, Bool.false_and]

/-- The high byte is the quotient by 256. -/
theorem toNat_high (w : UInt16) : (high w).toNat = w.toNat / 256 := by
  have h : w.toNat < 65536 := w.toNat_lt
  simp only [high, UInt16.toNat_toUInt8, UInt16.toNat_shiftRight, UInt16.reduceToNat,
    Nat.shiftRight_eq_div_pow, Nat.reduceMod, Nat.reducePow]
  omega

/-- The low byte is the remainder of division by 256. -/
theorem toNat_low (w : UInt16) : (low w).toNat = w.toNat % 256 := by
  simp [low]

/-- The number of a word is made of the numbers of its bytes. -/
theorem toNat_join (hi lo : UInt8) : (join hi lo).toNat = 256 * hi.toNat + lo.toNat := by
  have h₁ : hi.toNat < 256 := hi.toNat_lt
  have h₂ : lo.toNat < 256 := lo.toNat_lt
  have h : (hi.toNat <<< 8) ||| lo.toNat = hi.toNat <<< 8 + lo.toNat :=
    (Nat.shiftLeft_add_eq_or_of_lt (by omega) _).symm
  have h₃ : hi.toNat <<< 8 = 256 * hi.toNat := by rw [Nat.shiftLeft_eq]; omega
  simp only [join, UInt16.toNat_or, UInt16.toNat_shiftLeft, UInt8.toNat_toUInt16,
    UInt16.reduceToNat, Nat.reduceMod]
  rw [Nat.mod_eq_of_lt (by omega), h]
  omega

@[simp] theorem high_join (hi lo : UInt8) : high (join hi lo) = hi := by
  apply UInt8.toNat_inj.mp
  have h₂ : lo.toNat < 256 := lo.toNat_lt
  rw [toNat_high, toNat_join]
  omega

@[simp] theorem low_join (hi lo : UInt8) : low (join hi lo) = lo := by
  apply UInt8.toNat_inj.mp
  have h₂ : lo.toNat < 256 := lo.toNat_lt
  rw [toNat_low, toNat_join]
  omega

@[simp] theorem join_high_low (w : UInt16) : join (high w) (low w) = w := by
  apply UInt16.toNat_inj.mp
  rw [toNat_join, toNat_high, toNat_low]
  omega

end GameBoy.Word
