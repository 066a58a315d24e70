import GameBoy.Proofs.Digits.Chain
import GameBoy.Proofs.Reference.Arithmetic

/-!
# Binary numbers of many bytes

Adding with carry is right about a byte as a digit of base 256, and so is subtracting with borrow
(`places_adc`, `places_sbc`). So a program that chains them computes with numbers of any length, and
the last borrow compares two of them (`binary_arithmetic`).
-/

namespace GameBoy.Alu

open Reference (add_eq sub_eq asByte)

/-- The number that bytes stand for, the least significant first. -/
abbrev binary : List UInt8 → ℕ := value 256 UInt8.toNat

/-! ## One place -/

/-- What a sum of bytes loses is the carry. -/
lemma add_balanced (x y : UInt8) (c : Bool) :
    (add x y c).1.toNat + 256 * (add x y c).2.carry.toNat = x.toNat + y.toNat + c.toNat := by
  have hx := x.toNat_lt
  have hy := y.toNat_lt
  have hc := Bool.toNat_le c
  rw [add_eq]
  generalize c.toNat = k at hc ⊢
  simp only [asByte, Reference.add, UInt8.toNat_ofNat', Bool.toNat, Bool.cond_decide]
  split <;> omega

/-- What a difference of bytes lacks is the borrow. -/
lemma sub_balanced (x y : UInt8) (c : Bool) :
    (sub x y c).1.toNat + y.toNat + c.toNat = x.toNat + 256 * (sub x y c).2.carry.toNat := by
  have hx := x.toNat_lt
  have hy := y.toNat_lt
  have hc := Bool.toNat_le c
  rw [sub_eq]
  generalize c.toNat = k at hc ⊢
  simp only [asByte, Reference.sub, UInt8.toNat_ofNat', Bool.toNat, Bool.cond_decide]
  split <;> omega

/-- The half carry of a sum is the carry out of the low digits. -/
lemma add_halfCarry_iff (x y : UInt8) (c : Bool) :
    (add x y c).2.halfCarry = true ↔ 15 < x.toNat % 16 + y.toNat % 16 + c.toNat := by
  rw [add_eq]
  exact decide_eq_true_iff

/-- The half carry of a difference is the borrow of the low digits. -/
lemma sub_halfCarry_iff (x y : UInt8) (c : Bool) :
    (sub x y c).2.halfCarry = true ↔ x.toNat % 16 < y.toNat % 16 + c.toNat := by
  rw [sub_eq]
  exact decide_eq_true_iff

/-- The zero flag of an addition. -/
lemma add_zero_iff (x y : UInt8) (c : Bool) :
    (add x y c).2.zero = true ↔ (add x y c).1 = 0 := beq_iff_eq

/-- The zero flag of a subtraction. -/
lemma sub_zero_iff (x y : UInt8) (c : Bool) :
    (sub x y c).2.zero = true ↔ (sub x y c).1 = 0 := beq_iff_eq

/-! ## All places -/

/-- Addition with carry is exact at every place. -/
lemma places_adc : Places 1 256 UInt8.toNat (fun _ => True) AluOp.adc.apply where
  closed _ _ _ := trivial
  balanced {x y} c _ _ := by
    have h := add_balanced x y c
    simp only [AluOp.apply]
    omega

/-- Subtraction with carry is exact at every place. -/
lemma places_sbc : Places (-1) 256 UInt8.toNat (fun _ => True) AluOp.sbc.apply where
  closed _ _ _ := trivial
  balanced {x y} c _ _ := by
    have h := sub_balanced x y c
    simp only [AluOp.apply]
    omega

/-- A number of so many bytes is below the power of 256. -/
lemma binary_lt (xs : List UInt8) : binary xs < 256 ^ xs.length :=
  value_lt (by decide) UInt8.toNat_lt xs

variable {xs ys : List UInt8}

/-- A chain of additions adds the numbers, and the last carry is what exceeds their places. -/
lemma binary_adc (h : xs.length = ys.length) (c : Bool) :
    binary (bytes (chain AluOp.adc.apply c xs ys)) +
        256 ^ xs.length * (carryOut c (chain AluOp.adc.apply c xs ys)).toNat =
      binary xs + binary ys + c.toNat := by
  have hvalue := places_adc.value_chain c h (fun _ _ => trivial) fun _ _ => trivial
  push_cast at hvalue
  zify
  linear_combination hvalue

/-- A chain of subtractions subtracts the numbers, and the last borrow is what their places lack. -/
lemma binary_sbc (h : xs.length = ys.length) (c : Bool) :
    (binary (bytes (chain AluOp.sbc.apply c xs ys)) : ℤ) =
      binary xs - binary ys - c.toNat +
        256 ^ xs.length * (carryOut c (chain AluOp.sbc.apply c xs ys)).toNat := by
  have hvalue := places_sbc.value_chain c h (fun _ _ => trivial) fun _ _ => trivial
  push_cast at hvalue
  linear_combination hvalue

/-- There are as many bytes in the result as in the operands. -/
lemma length_bytes_chain (f : PlaceOp) (c : Bool) (h : xs.length = ys.length) :
    (bytes (chain f c xs ys)).length = xs.length := by
  rw [bytes, List.length_map, length_chain, h, Nat.min_self]

/-- The last borrow tells which of the numbers is less. -/
lemma carryOut_sbc_iff (h : xs.length = ys.length) (c : Bool) :
    carryOut c (chain AluOp.sbc.apply c xs ys) = true ↔ binary xs < binary ys + c.toNat := by
  have hvalue := binary_sbc h c
  have hlt := binary_lt (bytes (chain AluOp.sbc.apply c xs ys))
  rw [length_bytes_chain _ c h] at hlt
  have hlt' : (binary (bytes (chain AluOp.sbc.apply c xs ys)) : ℤ) < 256 ^ xs.length := by
    exact_mod_cast hlt
  -- without a borrow the difference is not negative, and with one it fits only if it was
  cases hout : carryOut c (chain AluOp.sbc.apply c xs ys) with
  | false =>
    rw [hout, Bool.toNat_false, Nat.cast_zero, mul_zero] at hvalue
    simp only [Bool.false_eq_true, false_iff]
    omega
  | true =>
    rw [hout, Bool.toNat_true, Nat.cast_one, mul_one] at hvalue
    simp only [true_iff]
    omega

/-- Chains of additions with carry and of subtractions with borrow compute with numbers of any
length, whatever operation starts them: the numbers, all flags in every place, and the comparison of
the numbers by the last borrow. -/
theorem binary_arithmetic (xs ys : List UInt8) (h : xs.length = ys.length) (c : Bool) :
    chainFrom AluOp.add.apply AluOp.adc.apply c xs ys = chain AluOp.adc.apply false xs ys ∧
    chainFrom AluOp.sub.apply AluOp.sbc.apply c xs ys = chain AluOp.sbc.apply false xs ys ∧
    let sums := chain AluOp.adc.apply c xs ys
    let differences := chain AluOp.sbc.apply c xs ys
    (bytes sums).length = xs.length ∧
    binary (bytes sums) + 256 ^ xs.length * (carryOut c sums).toNat =
      binary xs + binary ys + c.toNat ∧
    (bytes differences).length = xs.length ∧
    (binary (bytes differences) : ℤ) =
      binary xs - binary ys - c.toNat + 256 ^ xs.length * (carryOut c differences).toNat ∧
    (∀ i x y, xs[i]? = some x → ys[i]? = some y →
      let carry := carryOut c (sums.take i)
      ∃ z flags, sums[i]? = some (z, flags) ∧ (flags.zero = true ↔ z = 0) ∧
        flags.subtract = false ∧
        (flags.halfCarry = true ↔ 15 < x.toNat % 16 + y.toNat % 16 + carry.toNat)) ∧
    (∀ i x y, xs[i]? = some x → ys[i]? = some y →
      let borrow := carryOut c (differences.take i)
      ∃ z flags, differences[i]? = some (z, flags) ∧ (flags.zero = true ↔ z = 0) ∧
        flags.subtract = true ∧
        (flags.halfCarry = true ↔ x.toNat % 16 < y.toNat % 16 + borrow.toNat)) ∧
    (∀ a n c', AluOp.cp.apply a n c' = (a, (AluOp.sub.apply a n c').2)) ∧
    (carryOut c differences = true ↔ binary xs < binary ys + c.toNat) := by
  have hadd (x y : UInt8) : AluOp.add.apply x y c = AluOp.adc.apply x y false := rfl
  have hsub (x y : UInt8) : AluOp.sub.apply x y c = AluOp.sbc.apply x y false := rfl
  refine ⟨chainFrom_eq hadd xs ys, chainFrom_eq hsub xs ys, ?_⟩
  intro sums differences
  refine ⟨length_bytes_chain _ c h, binary_adc h c, length_bytes_chain _ c h, binary_sbc h c,
    ?_, ?_, fun _ _ _ => rfl, carryOut_sbc_iff h c⟩
  · intro i x y hx hy carry
    exact ⟨_, _, getElem?_chain c hx hy, add_zero_iff x y carry, rfl,
      add_halfCarry_iff x y carry⟩
  · intro i x y hx hy borrow
    exact ⟨_, _, getElem?_chain c hx hy, sub_zero_iff x y borrow, rfl,
      sub_halfCarry_iff x y borrow⟩

/-- Adding `0xffff`, `0xffff` and a carry, and subtracting `0xffff` and a borrow from nothing. -/
theorem binary_arithmetic_word :
    binary (bytes (chain AluOp.adc.apply true [0xff, 0xff] [0xff, 0xff])) +
        256 ^ 2 * (carryOut true (chain AluOp.adc.apply true [0xff, 0xff] [0xff, 0xff])).toNat =
      0xffff + 0xffff + 1 ∧
    (carryOut true (chain AluOp.sbc.apply true [0, 0] [0xff, 0xff]) = true ↔ 0 < 0xffff + 1) := by
  have hsum := binary_arithmetic [0xff, 0xff] [0xff, 0xff] rfl true
  have hdifference := binary_arithmetic [0, 0] [0xff, 0xff] rfl true
  exact ⟨hsum.2.2.2.1, hdifference.2.2.2.2.2.2.2.2.2⟩

end GameBoy.Alu
