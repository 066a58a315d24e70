import GameBoy.Proofs.Digits.Binary

/-!
# Decimal numbers of many bytes

A packed byte holds two decimal digits. The decimal correction behind an addition or a subtraction
of packed bytes makes a packed byte again, and its carry is the one of the decimal digits
(`places_adc_decimal`, `places_sbc_decimal`). So programs that correct each place before they go on
to the next one compute with decimal numbers of any length (`decimal_arithmetic`).
-/

namespace GameBoy.Alu

open Reference (daa_eq asByte)

/-- Both digits of a byte are decimal ones. -/
def IsPacked (b : UInt8) : Prop := b.toNat / 16 ≤ 9 ∧ b.toNat % 16 ≤ 9

instance : DecidablePred IsPacked := fun _ => inferInstanceAs (Decidable (_ ∧ _))

/-- The number that the two decimal digits of a byte make. -/
def packed (b : UInt8) : ℕ := 10 * (b.toNat / 16) + b.toNat % 16

/-- The decimal number that packed bytes stand for, the least significant first. -/
abbrev decimal : List UInt8 → ℕ := value 100 packed

/-- An operation and the decimal correction of its result. -/
def corrected (f : PlaceOp) (x y : UInt8) (c : Bool) : UInt8 × Flags :=
  daa (f x y c).1 (f x y c).2

/-! ## The correction -/

/-- Behind an addition, the correction skips the six digits that are not decimal ones in each place
that has come to one of them or gone past them. -/
lemma daa_of_add {a : UInt8} {f : Flags} {low high : Bool} (hf : f.subtract = false)
    (hlow : (f.halfCarry || decide (9 < a.toNat % 16)) = low)
    (hhigh : (f.carry || decide (0x99 < a.toNat)) = high) :
    (daa a f).1.toNat = (a.toNat + 6 * low.toNat + 0x60 * high.toNat) % 256 ∧
      (daa a f).2.carry = high := by
  have ha := a.toNat_lt
  rw [daa_eq]
  simp only [asByte, Reference.correct, hf, Bool.not_false, Bool.true_and, gt_iff_lt, hlow, hhigh,
    UInt8.toNat_ofNat', and_true]
  cases low <;> cases high <;> simp <;> omega

/-- Behind a subtraction, it skips them in each place that has borrowed. -/
lemma daa_of_sub {a : UInt8} {f : Flags} (hf : f.subtract = true) :
    ((daa a f).1.toNat : ℤ) =
        ((a.toNat : ℤ) - 6 * f.halfCarry.toNat - 0x60 * f.carry.toNat) % 256 ∧
      (daa a f).2.carry = f.carry := by
  have ha := a.toNat_lt
  rw [daa_eq]
  simp only [asByte, Reference.correct, hf, Bool.not_true, Bool.false_and, Bool.or_false,
    UInt8.toNat_ofNat', and_true]
  cases f.halfCarry <;> cases f.carry <;> simp <;> omega

/-- The zero flag of a correction. -/
lemma daa_zero_iff (a : UInt8) (f : Flags) :
    (daa a f).2.zero = true ↔ (daa a f).1 = 0 := beq_iff_eq

/-! ## One place -/

/-- What a sum of packed bytes loses behind the correction is the carry. -/
lemma add_corrected {x y : UInt8} (c : Bool) (hx : IsPacked x) (hy : IsPacked y) :
    IsPacked (corrected AluOp.adc.apply x y c).1 ∧
      packed (corrected AluOp.adc.apply x y c).1 +
          100 * (corrected AluOp.adc.apply x y c).2.carry.toNat =
        packed x + packed y + c.toNat := by
  obtain ⟨hx₁, hx₀⟩ := hx
  obtain ⟨hy₁, hy₀⟩ := hy
  have hc := Bool.toNat_le c
  have hsum := add_balanced x y c
  have hlt := (add x y c).1.toNat_lt
  -- a place is corrected just if its decimal digits make more than fits into it
  have hlow : ((add x y c).2.halfCarry || decide (9 < (add x y c).1.toNat % 16)) =
      decide (9 < x.toNat % 16 + y.toNat % 16 + c.toNat) := by
    rw [Bool.eq_iff_iff, Bool.or_eq_true, decide_eq_true_iff, decide_eq_true_iff, add_halfCarry_iff]
    omega
  have hhigh : ((add x y c).2.carry || decide (0x99 < (add x y c).1.toNat)) =
      decide (99 < packed x + packed y + c.toNat) := by
    rw [Bool.eq_iff_iff, Bool.or_eq_true, decide_eq_true_iff, decide_eq_true_iff, packed, packed]
    cases hout : (add x y c).2.carry <;> rw [hout] at hsum <;> simp at hsum ⊢ <;> omega
  obtain ⟨hvalue, hcarry⟩ := daa_of_add rfl hlow hhigh
  simp only [corrected, AluOp.apply, IsPacked, hcarry]
  by_cases h₀ : 9 < x.toNat % 16 + y.toNat % 16 + c.toNat <;>
    by_cases h₁ : 99 < packed x + packed y + c.toNat <;>
    simp only [h₀, h₁, decide_true, decide_false, Bool.toNat_true, Bool.toNat_false] at hvalue ⊢ <;>
    unfold packed at h₁ ⊢ <;>
    omega

/-- What a difference of packed bytes lacks behind the correction is the borrow. -/
lemma sub_corrected {x y : UInt8} (c : Bool) (hx : IsPacked x) (hy : IsPacked y) :
    IsPacked (corrected AluOp.sbc.apply x y c).1 ∧
      packed (corrected AluOp.sbc.apply x y c).1 + packed y + c.toNat =
        packed x + 100 * (corrected AluOp.sbc.apply x y c).2.carry.toNat := by
  obtain ⟨hx₁, hx₀⟩ := hx
  obtain ⟨hy₁, hy₀⟩ := hy
  have hc := Bool.toNat_le c
  have hdifference := sub_balanced x y c
  have hhalf := sub_halfCarry_iff x y c
  have hlt := (sub x y c).1.toNat_lt
  obtain ⟨hvalue, hcarry⟩ := daa_of_sub (a := (sub x y c).1) (f := (sub x y c).2) rfl
  simp only [corrected, AluOp.apply, IsPacked, packed, hcarry]
  cases h₀ : (sub x y c).2.halfCarry <;> cases h₁ : (sub x y c).2.carry <;>
    simp only [h₀, h₁, Bool.toNat_true, Bool.toNat_false, Bool.false_eq_true, false_iff, true_iff]
      at hvalue hdifference hhalf ⊢ <;>
    omega

/-! ## All places -/

/-- Addition corrected to decimal is exact at every place. -/
lemma places_adc_decimal : Places 1 100 packed IsPacked (corrected AluOp.adc.apply) where
  closed c hx hy := (add_corrected c hx hy).1
  balanced c hx hy := by
    have h := (add_corrected c hx hy).2
    omega

/-- Subtraction corrected to decimal is exact at every place. -/
lemma places_sbc_decimal : Places (-1) 100 packed IsPacked (corrected AluOp.sbc.apply) where
  closed c hx hy := (sub_corrected c hx hy).1
  balanced c hx hy := by
    have h := (sub_corrected c hx hy).2
    omega

/-- In every place, the correction tells whether it has left nothing, keeps the sign of the
operation and clears the half carry. -/
lemma flags_chain_corrected (f : PlaceOp) (c : Bool) {xs ys : List UInt8} {i : ℕ} {x y : UInt8}
    (hx : xs[i]? = some x) (hy : ys[i]? = some y) :
    let carry := carryOut c ((chain (corrected f) c xs ys).take i)
    ∃ z flags, (chain (corrected f) c xs ys)[i]? = some (z, flags) ∧ (flags.zero = true ↔ z = 0) ∧
      flags.subtract = (f x y carry).2.subtract ∧ flags.halfCarry = false :=
  ⟨_, _, getElem?_chain c hx hy, daa_zero_iff .., rfl, rfl⟩

/-- Chains of additions with carry and of subtractions with borrow, with a decimal correction behind
each of them, compute with packed numbers of any length. -/
theorem decimal_arithmetic (xs ys : List UInt8) (h : xs.length = ys.length)
    (hx : ∀ x ∈ xs, IsPacked x) (hy : ∀ y ∈ ys, IsPacked y) (c : Bool) :
    let sums := chain (corrected AluOp.adc.apply) c xs ys
    let differences := chain (corrected AluOp.sbc.apply) c xs ys
    ((bytes sums).length = xs.length ∧ ∀ z ∈ bytes sums, IsPacked z) ∧
    decimal (bytes sums) + 100 ^ xs.length * (carryOut c sums).toNat =
      decimal xs + decimal ys + c.toNat ∧
    ((bytes differences).length = xs.length ∧ ∀ z ∈ bytes differences, IsPacked z) ∧
    (decimal (bytes differences) : ℤ) =
      decimal xs - decimal ys - c.toNat + 100 ^ xs.length * (carryOut c differences).toNat ∧
    (∀ i x y, xs[i]? = some x → ys[i]? = some y →
      let carry := carryOut c (sums.take i)
      ∃ z flags, sums[i]? = some (z, flags) ∧ (flags.zero = true ↔ z = 0) ∧
        flags.subtract = (AluOp.adc.apply x y carry).2.subtract ∧ flags.halfCarry = false) ∧
    (∀ i x y, xs[i]? = some x → ys[i]? = some y →
      let borrow := carryOut c (differences.take i)
      ∃ z flags, differences[i]? = some (z, flags) ∧ (flags.zero = true ↔ z = 0) ∧
        flags.subtract = (AluOp.sbc.apply x y borrow).2.subtract ∧ flags.halfCarry = false) := by
  intro sums differences
  have hsums := places_adc_decimal.value_chain c h hx hy
  have hdifferences := places_sbc_decimal.value_chain c h hx hy
  refine ⟨⟨length_bytes_chain _ c h, places_adc_decimal.bytes_chain c hx hy⟩, ?_,
    ⟨length_bytes_chain _ c h, places_sbc_decimal.bytes_chain c hx hy⟩, ?_,
    fun i x y => flags_chain_corrected _ c, fun i x y => flags_chain_corrected _ c⟩
  · zify
    push_cast at hsums
    linear_combination hsums
  · push_cast at hdifferences
    linear_combination hdifferences

/-- 9999 + 1 overflows four digits, and 0 - 1 borrows into them. -/
theorem decimal_arithmetic_four_digits :
    decimal (bytes (chain (corrected AluOp.adc.apply) true [0x99, 0x99] [0, 0])) +
        100 ^ 2 * (carryOut true
          (chain (corrected AluOp.adc.apply) true [0x99, 0x99] [0, 0])).toNat =
      9999 + 0 + 1 ∧
    (decimal (bytes (chain (corrected AluOp.sbc.apply) false [0, 0] [0x01, 0])) : ℤ) =
      0 - 1 - 0 + 100 ^ 2 * (carryOut false
        (chain (corrected AluOp.sbc.apply) false [0, 0] [0x01, 0])).toNat := by
  have hpacked : IsPacked 0x99 ∧ IsPacked 0 ∧ IsPacked 0x01 := by decide
  have hnines : ∀ x ∈ [0x99, 0x99], IsPacked x := by simp [hpacked]
  have hzeros : ∀ x ∈ [0, 0], IsPacked x := by simp [hpacked]
  have hone : ∀ x ∈ [0x01, 0], IsPacked x := by simp [hpacked]
  have hsum := decimal_arithmetic [0x99, 0x99] [0, 0] rfl hnines hzeros true
  have hdifference := decimal_arithmetic [0, 0] [0x01, 0] rfl hzeros hone false
  exact ⟨hsum.2.1, hdifference.2.2.2.1⟩

end GameBoy.Alu
