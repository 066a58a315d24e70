import GameBoy.Cpu.Alu
import Mathlib.Data.Nat.Digits.Lemmas
import Mathlib.Tactic.LinearCombination

/-!
# Arithmetic on numbers of many bytes

A number of many bytes is added to another one, or subtracted from it, place by place from the least
significant byte on, and the carry out of each place goes into the next (`chain`). If the operation
is right about the digits of a number system in one place (`Places`), then it is right about numbers
of any length (`value_chain`).
-/

namespace GameBoy.Alu

/-- What is made of the bytes in one place of two numbers and of the carry into that place. -/
abbrev PlaceOp := UInt8 → UInt8 → Bool → UInt8 × Flags

/-- The results in the places of two numbers, the least significant first. The carry of each result
is the carry into the next place. -/
def chain (f : PlaceOp) : Bool → List UInt8 → List UInt8 → List (UInt8 × Flags)
  | c, x :: xs, y :: ys => f x y c :: chain f (f x y c).2.carry xs ys
  | _, _, _ => []

/-- The results if another operation is applied in the first place. -/
def chainFrom (first f : PlaceOp) (c : Bool) : List UInt8 → List UInt8 → List (UInt8 × Flags)
  | x :: xs, y :: ys => first x y c :: chain f (first x y c).2.carry xs ys
  | _, _ => []

/-- The bytes of some results. -/
def bytes (results : List (UInt8 × Flags)) : List UInt8 := results.map (·.1)

/-- The carry behind some results, which is the first carry if there are none. -/
def carryOut (c : Bool) (results : List (UInt8 × Flags)) : Bool :=
  (results.getLast?.map fun r => r.2.carry).getD c

/-- The number that bytes stand for, the least significant first. -/
def value (base : ℕ) (digit : UInt8 → ℕ) (xs : List UInt8) : ℕ := Nat.ofDigits base (xs.map digit)

variable {f : PlaceOp} {base : ℕ} {digit : UInt8 → ℕ}

@[simp] lemma value_nil : value base digit [] = 0 := rfl

@[simp] lemma value_cons (x : UInt8) (xs : List UInt8) :
    value base digit (x :: xs) = digit x + base * value base digit xs :=
  Nat.ofDigits_cons ..

/-- The value of digits in two parts. -/
lemma value_append (xs ys : List UInt8) :
    value base digit (xs ++ ys) =
      value base digit xs + base ^ xs.length * value base digit ys := by
  rw [value, List.map_append, Nat.ofDigits_append, List.length_map, value, value]

/-- The places of a number of bytes hold no more than that many digits. -/
lemma value_lt (hb : 1 < base) (hd : ∀ x, digit x < base) (xs : List UInt8) :
    value base digit xs < base ^ xs.length := by
  have h := Nat.ofDigits_lt_base_pow_length (l := xs.map digit) hb fun d hmem => by
    obtain ⟨x, -, rfl⟩ := List.mem_map.mp hmem
    exact hd x
  rwa [List.length_map] at h

@[simp] lemma carryOut_nil (c : Bool) : carryOut c [] = c := rfl

@[simp] lemma carryOut_cons (c : Bool) (r : UInt8 × Flags) (rs : List (UInt8 × Flags)) :
    carryOut c (r :: rs) = carryOut r.2.carry rs := by
  unfold carryOut
  rw [List.getLast?_cons]
  cases rs.getLast? <;> rfl

/-- A chain has as many results as both operands have places. -/
@[simp] lemma length_chain (f : PlaceOp) (c : Bool) (xs ys : List UInt8) :
    (chain f c xs ys).length = min xs.length ys.length := by
  induction xs generalizing c ys with
  | nil => simp [chain]
  | cons x xs ih =>
    cases ys with
    | nil => simp [chain]
    | cons y ys => simp [chain, ih]

/-- The result in a place comes of the bytes there and of the carry out of the places below it. -/
lemma getElem?_chain {xs ys : List UInt8} {i : ℕ} {x y : UInt8} (c : Bool) (hx : xs[i]? = some x)
    (hy : ys[i]? = some y) :
    (chain f c xs ys)[i]? = some (f x y (carryOut c ((chain f c xs ys).take i))) := by
  induction xs generalizing c ys i with
  | nil => cases hx
  | cons x' xs ih =>
    cases ys with
    | nil => cases hy
    | cons y' ys =>
      cases i with
      | zero =>
        cases hx
        cases hy
        rfl
      | succ i =>
        have h := ih (f x' y' c).2.carry hx hy
        simpa only [chain, List.take_succ_cons, carryOut_cons, List.getElem?_cons_succ] using h

/-- What the first place makes of the carry is all that becomes of it. -/
lemma chainFrom_eq {first : PlaceOp} {c c' : Bool} (h : ∀ x y, first x y c = f x y c')
    (xs ys : List UInt8) : chainFrom first f c xs ys = chain f c' xs ys := by
  cases xs with
  | nil => rfl
  | cons x xs =>
    cases ys with
    | nil => rfl
    | cons y ys => rw [chainFrom, chain, h]

/-! ## Values -/

/-- In one place, an operation adds the digits and the carry of a number system, or with the sign
`-1` subtracts them, and what exceeds the place is the carry out of it. -/
structure Places (sign : ℤ) (base : ℕ) (digit : UInt8 → ℕ) (IsDigit : UInt8 → Prop) (f : PlaceOp) :
    Prop where
  closed {x y : UInt8} (c : Bool) : IsDigit x → IsDigit y → IsDigit (f x y c).1
  balanced {x y : UInt8} (c : Bool) : IsDigit x → IsDigit y →
    (digit (f x y c).1 : ℤ) =
      digit x + sign * (digit y + c.toNat) - sign * (base * (f x y c).2.carry.toNat)

namespace Places

variable {sign : ℤ} {IsDigit : UInt8 → Prop} {xs ys : List UInt8}

/-- The results have digits in all places. -/
lemma bytes_chain (h : Places sign base digit IsDigit f) (c : Bool) (hx : ∀ x ∈ xs, IsDigit x)
    (hy : ∀ y ∈ ys, IsDigit y) : ∀ z ∈ bytes (chain f c xs ys), IsDigit z := by
  induction xs generalizing c ys with
  | nil => exact nofun
  | cons x xs ih =>
    cases ys with
    | nil => exact nofun
    | cons y ys =>
      obtain ⟨hx, hxs⟩ := List.forall_mem_cons.mp hx
      obtain ⟨hy, hys⟩ := List.forall_mem_cons.mp hy
      exact List.forall_mem_cons.mpr ⟨h.closed c hx hy, ih _ hxs hys⟩

/-- What is right in one place is right for numbers of any length. -/
lemma value_chain (h : Places sign base digit IsDigit f) (c : Bool) (hl : xs.length = ys.length)
    (hx : ∀ x ∈ xs, IsDigit x) (hy : ∀ y ∈ ys, IsDigit y) :
    (value base digit (bytes (chain f c xs ys)) : ℤ) =
      value base digit xs + sign * (value base digit ys + c.toNat) -
        sign * (base ^ xs.length * (carryOut c (chain f c xs ys)).toNat) := by
  induction xs generalizing c ys with
  | nil =>
    obtain rfl := List.length_eq_zero_iff.mp hl.symm
    simp [chain, bytes]
  | cons x xs ih =>
    cases ys with
    | nil => cases hl
    | cons y ys =>
      obtain ⟨hx, hxs⟩ := List.forall_mem_cons.mp hx
      obtain ⟨hy, hys⟩ := List.forall_mem_cons.mp hy
      -- the carry out of the first place drops out
      have hfirst := h.balanced c hx hy
      have hrest := ih (f x y c).2.carry (Nat.succ.inj hl) hxs hys
      simp only [chain, bytes, List.map_cons, value_cons, carryOut_cons, List.length_cons]
        at hrest ⊢
      push_cast
      linear_combination hfirst + base * hrest

end Places

end GameBoy.Alu
