import GameBoy.Proofs.Digits.Binary

/-!
# Shifting numbers of many bytes

A number of many bytes is shifted byte by byte, upwards to the left and downwards to the right, and
the bit that leaves a byte comes into the next one. In one place a rotation through carry doubles a
byte or halves it, with nothing lost (`rl_balanced`, `rr_balanced`), so a chain of them doubles or
halves numbers of any length (`binary_shifts_rl`, `binary_shifts_rr`). The other shifts only choose
what comes into the first place. The rotations without carry turn a byte around by one place
(`turned_rlc`, `turned_rrc`). All of it is put together in `shift_arithmetic`.
-/

namespace GameBoy.Alu

open Reference (rotate_eq asByte)

/-- A shift as an operation in the places of two numbers that looks at the first one only. -/
def shiftPlace (op : ShiftOp) : PlaceOp := fun x _ c => op.apply x c

/-- The results of shifting the bytes of a number one after the other. The carry of each result is
what comes into the next byte. -/
def shifts (op : ShiftOp) (c : Bool) (xs : List UInt8) : List (UInt8 × Flags) :=
  chain (shiftPlace op) c xs xs

/-- The results if another shift is applied to the first byte. -/
def shiftsFrom (first op : ShiftOp) (c : Bool) (xs : List UInt8) : List (UInt8 × Flags) :=
  chainFrom (shiftPlace first) (shiftPlace op) c xs xs

/-- The number that bytes stand for in two's complement, the least significant first. -/
def complement (xs : List UInt8) : ℤ :=
  if 2 * binary xs < 256 ^ xs.length then binary xs else binary xs - 256 ^ xs.length

variable {op first : ShiftOp} {c c' : Bool}

@[simp] lemma shifts_nil (op : ShiftOp) (c : Bool) : shifts op c [] = [] := rfl

@[simp] lemma shifts_cons (op : ShiftOp) (c : Bool) (x : UInt8) (xs : List UInt8) :
    shifts op c (x :: xs) = op.apply x c :: shifts op (op.apply x c).2.carry xs :=
  rfl

/-- What the first shift makes of the carry is all that becomes of it. -/
lemma shiftsFrom_eq {x : UInt8} (h : first.apply x c = op.apply x c') (xs : List UInt8) :
    shiftsFrom first op c (x :: xs) = shifts op c' (x :: xs) := by
  rw [shifts_cons, ← h]
  rfl

/-- The value of a number with one more place at its top. -/
lemma binary_concat (xs : List UInt8) (x : UInt8) :
    binary (xs ++ [x]) = binary xs + 256 ^ xs.length * x.toNat := by
  rw [binary, value_append, value_cons, value_nil, Nat.mul_zero, Nat.add_zero]

/-- There are as many bytes after a shift as before it. -/
lemma length_bytes_shifts (op : ShiftOp) (c : Bool) (xs : List UInt8) :
    (bytes (shifts op c xs)).length = xs.length :=
  length_bytes_chain _ c rfl

/-- There are as many bytes after a shift that begins otherwise. -/
lemma length_bytes_shiftsFrom (first op : ShiftOp) (c : Bool) (xs : List UInt8) :
    (bytes (shiftsFrom first op c xs)).length = xs.length := by
  cases xs with
  | nil => rfl
  | cons x xs => exact congrArg (· + 1) (length_bytes_shifts op _ xs)

/-! ## One place -/

/-- What a byte loses by doubling it is the carry. -/
lemma rl_balanced (x : UInt8) (c : Bool) :
    (ShiftOp.rl.apply x c).1.toNat + 256 * (ShiftOp.rl.apply x c).2.carry.toNat =
      2 * x.toNat + c.toNat := by
  have hx := x.toNat_lt
  have hc := Bool.toNat_le c
  have h : ShiftOp.rl.apply x c = asByte (Reference.rotate 2 x.toNat c.toNat) := rotate_eq 2 x c
  rw [h]
  generalize c.toNat = k at hc ⊢
  simp only [asByte, Reference.rotate, Reference.shift, UInt8.toNat_ofNat', Bool.toNat,
    Bool.cond_decide]
  split <;> omega

/-- What a byte loses by halving it is the carry. -/
lemma rr_balanced (x : UInt8) (c : Bool) :
    2 * (ShiftOp.rr.apply x c).1.toNat + (ShiftOp.rr.apply x c).2.carry.toNat =
      x.toNat + 256 * c.toNat := by
  have hx := x.toNat_lt
  have hc := Bool.toNat_le c
  have h : ShiftOp.rr.apply x c = asByte (Reference.rotate 3 x.toNat c.toNat) := rotate_eq 3 x c
  rw [h]
  generalize c.toNat = k at hc ⊢
  simp only [asByte, Reference.rotate, Reference.shift, UInt8.toNat_ofNat', Bool.toNat,
    Bool.cond_decide]
  split <;> omega

/-- An arithmetic shift to the left brings in no carry. -/
lemma sla_eq_rl (x : UInt8) (c : Bool) : ShiftOp.sla.apply x c = ShiftOp.rl.apply x false := by
  simp [ShiftOp.apply, ShiftOp.move, carryIn]

/-- A logical shift to the right brings in no carry. -/
lemma srl_eq_rr (x : UInt8) (c : Bool) : ShiftOp.srl.apply x c = ShiftOp.rr.apply x false := by
  simp [ShiftOp.apply, ShiftOp.move, carryIn]

/-- An arithmetic shift fills up with the sign. -/
lemma sra_eq_rr (x : UInt8) (c : Bool) :
    ShiftOp.sra.apply x c = ShiftOp.rr.apply x (128 ≤ x.toNat) := by
  have hx := x.toNat_lt
  have h : ShiftOp.sra.apply x c = asByte (Reference.rotate 5 x.toNat c.toNat) := rotate_eq 5 x c
  have h' : ShiftOp.rr.apply x (128 ≤ x.toNat) =
      asByte (Reference.rotate 3 x.toNat (decide (128 ≤ x.toNat)).toNat) := rotate_eq 3 x _
  have htop : x.toNat / 128 = (decide (128 ≤ x.toNat)).toNat := by
    by_cases hsign : 128 ≤ x.toNat
    · rw [decide_eq_true hsign, Bool.toNat_true]
      omega
    · rw [decide_eq_false hsign, Bool.toNat_false]
      omega
  rw [h, h', ← htop]
  rfl

/-! ## All places -/

/-- A chain of rotations upwards doubles the number, and the last carry is what exceeds its
places. -/
lemma binary_shifts_rl (c : Bool) (xs : List UInt8) :
    binary (bytes (shifts .rl c xs)) + 256 ^ xs.length * (carryOut c (shifts .rl c xs)).toNat =
      2 * binary xs + c.toNat := by
  induction xs generalizing c with
  | nil => simp [bytes]
  | cons x xs ih =>
    -- the carry out of the first place drops out
    have hfirst := rl_balanced x c
    have hrest := ih (ShiftOp.rl.apply x c).2.carry
    simp only [shifts_cons, bytes, List.map_cons, value_cons, carryOut_cons, List.length_cons]
      at hrest ⊢
    zify at hfirst hrest ⊢
    linear_combination hfirst + 256 * hrest

/-- A chain of rotations downwards, which begins with the most significant byte, halves the number
with the carry above its places, and the last carry is what is left. -/
lemma binary_shifts_rr (c : Bool) (ys : List UInt8) :
    2 * binary (bytes (shifts .rr c ys)).reverse + (carryOut c (shifts .rr c ys)).toNat =
      binary ys.reverse + 256 ^ ys.length * c.toNat := by
  induction ys generalizing c with
  | nil => simp [bytes]
  | cons y ys ih =>
    have hfirst := rr_balanced y c
    have hrest := ih (ShiftOp.rr.apply y c).2.carry
    have hlength := length_bytes_shifts .rr (ShiftOp.rr.apply y c).2.carry ys
    simp only [shifts_cons, bytes, List.map_cons, List.reverse_cons, binary_concat,
      List.length_reverse, carryOut_cons, List.length_cons] at hrest hlength ⊢
    rw [hlength]
    zify at hfirst hrest ⊢
    linear_combination 256 ^ ys.length * hfirst + hrest

variable {xs : List UInt8}

/-- As many bytes that stand for the same number are the same bytes. -/
lemma binary_inj {ys : List UInt8} (hl : xs.length = ys.length) (h : binary xs = binary ys) :
    xs = ys := by
  have hdigit (zs : List UInt8) : ∀ d ∈ zs.map UInt8.toNat, d < 256 := by
    intro d hd
    obtain ⟨z, -, rfl⟩ := List.mem_map.mp hd
    exact z.toNat_lt
  have hinj : Function.Injective (List.map UInt8.toNat) :=
    List.map_injective_iff.mpr fun _ _ => UInt8.toNat_inj.mp
  refine hinj (Nat.ofDigits_inj_of_len_eq (by decide) ?_ (hdigit xs) (hdigit ys) h)
  rw [List.length_map, List.length_map, hl]

/-- The top bit tells whether the number fits in its places when it is doubled. -/
lemma testBit_top (h : xs ≠ []) :
    (binary xs).testBit (8 * xs.length - 1) = decide (256 ^ xs.length ≤ 2 * binary xs) := by
  have hlt := binary_lt xs
  have hpos : 0 < xs.length := List.length_pos_iff.mpr h
  have hpow : 256 ^ xs.length = 2 ^ (8 * xs.length - 1 + 1) := by
    rw [Nat.sub_add_cancel (by omega), Nat.pow_mul]
  rw [hpow] at hlt ⊢
  by_cases htop : 2 ^ (8 * xs.length - 1) ≤ binary xs
  · rw [Nat.testBit_of_two_pow_le_and_two_pow_add_one_gt htop hlt, decide_eq_true (by omega)]
  · rw [Nat.testBit_lt_two_pow (by omega), decide_eq_false (by omega)]

/-- The places of a number hold an even number of values. -/
lemma pow_even (h : xs ≠ []) : 256 ^ xs.length % 2 = 0 := by
  rw [Nat.pow_mod, show 256 % 2 = 0 from rfl, Nat.zero_pow (List.length_pos_iff.mpr h)]

/-- Doubling upwards, in the places of the number. -/
lemma shifts_rl_mod (h : xs ≠ []) (c : Bool) :
    binary (bytes (shifts .rl c xs)) = (2 * binary xs + c.toNat) % 256 ^ xs.length ∧
      carryOut c (shifts .rl c xs) = (binary xs).testBit (8 * xs.length - 1) := by
  have hvalue := binary_shifts_rl c xs
  have hlt := binary_lt (bytes (shifts .rl c xs))
  rw [length_bytes_shifts] at hlt
  rw [testBit_top h, ← hvalue, Nat.add_mul_mod_self_left, Nat.mod_eq_of_lt hlt]
  refine ⟨rfl, ?_⟩
  -- the places end at an even number, so that what comes in does not matter
  have heven := pow_even h
  have hc := Bool.toNat_le c
  cases hout : carryOut c (shifts .rl c xs) with
  | false =>
    rw [hout, Bool.toNat_false, Nat.mul_zero] at hvalue
    exact (decide_eq_false (by omega)).symm
  | true =>
    rw [hout, Bool.toNat_true, Nat.mul_one] at hvalue
    exact (decide_eq_true (by omega)).symm

/-- A shift to the left that lets nothing in doubles a number, and what falls out is its top bit. -/
lemma shiftsFrom_sla (h : xs ≠ []) (c : Bool) :
    binary (bytes (shiftsFrom .sla .rl c xs)) = 2 * binary xs % 256 ^ xs.length ∧
      carryOut c (shiftsFrom .sla .rl c xs) = (binary xs).testBit (8 * xs.length - 1) := by
  obtain ⟨x, xs, rfl⟩ := List.exists_cons_of_ne_nil h
  have hmod := shifts_rl_mod h false
  rw [Bool.toNat_false, Nat.add_zero] at hmod
  rw [shiftsFrom_eq (sla_eq_rl x c)]
  rwa [shifts_cons, carryOut_cons] at hmod ⊢

/-- Halving downwards, where another shift chooses what comes in at the top. -/
lemma binary_shiftsFrom_rr {y : UInt8} (h : first.apply y c = ShiftOp.rr.apply y c')
    (ys : List UInt8) :
    2 * binary (bytes (shiftsFrom first .rr c (y :: ys))).reverse +
        (carryOut c (shiftsFrom first .rr c (y :: ys))).toNat =
      binary (y :: ys).reverse + 256 ^ (y :: ys).length * c'.toNat := by
  have hvalue := binary_shifts_rr c' (y :: ys)
  rw [shiftsFrom_eq h]
  rwa [shifts_cons, carryOut_cons] at hvalue ⊢

/-- The most significant byte has the sign of the number. -/
lemma sign_eq (y : UInt8) (ys : List UInt8) :
    decide (128 ≤ y.toNat) =
      decide (256 ^ (y :: ys).length ≤ 2 * binary (y :: ys).reverse) := by
  have hlt := binary_lt ys.reverse
  rw [List.length_reverse] at hlt
  rw [decide_eq_decide, List.reverse_cons, binary_concat, List.length_reverse, List.length_cons,
    Nat.pow_succ]
  constructor
  · intro hy
    have hmul := Nat.mul_le_mul_left (256 ^ ys.length) hy
    omega
  · intro hle
    by_contra hy
    have hmul := Nat.mul_le_mul_left (256 ^ ys.length) (show y.toNat ≤ 127 by omega)
    omega

/-- A number is halved downwards, and what is left is the carry. -/
lemma shiftsFrom_srl (h : xs ≠ []) (c : Bool) :
    let down := shiftsFrom .srl .rr c xs.reverse
    binary (bytes down).reverse = binary xs / 2 ∧ (carryOut c down).toNat = binary xs % 2 := by
  intro down
  obtain ⟨y, ys, hxs⟩ := List.exists_cons_of_ne_nil (List.reverse_ne_nil_iff.mpr h)
  have hvalue : 2 * binary (bytes down).reverse + (carryOut c down).toNat = binary xs := by
    have hvalue := binary_shiftsFrom_rr (srl_eq_rr y c) ys
    rwa [← hxs, List.reverse_reverse, Bool.toNat_false, Nat.mul_zero, Nat.add_zero] at hvalue
  have hout := Bool.toNat_le (carryOut c down)
  omega

/-- A number in two's complement is halved downwards if the sign is kept. -/
lemma shiftsFrom_sra (h : xs ≠ []) (c : Bool) :
    let down := shiftsFrom .sra .rr c xs.reverse
    complement (bytes down).reverse = complement xs / 2 ∧
      (carryOut c down).toNat = binary xs % 2 := by
  intro down
  obtain ⟨y, ys, hxs⟩ := List.exists_cons_of_ne_nil (List.reverse_ne_nil_iff.mpr h)
  have hvalue : 2 * binary (bytes down).reverse + (carryOut c down).toNat =
      binary xs + 256 ^ xs.length * (decide (256 ^ xs.length ≤ 2 * binary xs)).toNat := by
    have hvalue := binary_shiftsFrom_rr (sra_eq_rr y c) ys
    rwa [sign_eq y ys, ← hxs, List.reverse_reverse, List.length_reverse] at hvalue
  have hlength : (bytes down).reverse.length = xs.length := by
    rw [List.length_reverse, length_bytes_shiftsFrom, List.length_reverse]
  have hout := Bool.toNat_le (carryOut c down)
  have hlt := binary_lt xs
  have heven := pow_even h
  have hcast : ((256 ^ xs.length : ℕ) : ℤ) = 256 ^ xs.length := by push_cast; rfl
  rw [complement, complement, hlength, ← hcast]
  generalize 256 ^ xs.length = places at hvalue hlt heven ⊢
  by_cases hsign : places ≤ 2 * binary xs
  · rw [decide_eq_true hsign, Bool.toNat_true, Nat.mul_one] at hvalue
    rw [if_neg (by omega), if_neg (by omega)]
    omega
  · rw [decide_eq_false hsign, Bool.toNat_false, Nat.mul_zero, Nat.add_zero] at hvalue
    rw [if_pos (by omega), if_pos (by omega)]
    omega

/-- Doubling upwards loses nothing: halving downwards with the carry that is left gives back the
bytes and the first carry. -/
lemma shifts_rr_shifts_rl (c : Bool) (xs : List UInt8) :
    let up := shifts .rl c xs
    let back := shifts .rr (carryOut c up) (bytes up).reverse
    carryOut (carryOut c up) back = c ∧ (bytes back).reverse = xs := by
  intro up back
  have hup : binary (bytes up) + 256 ^ xs.length * (carryOut c up).toNat =
      2 * binary xs + c.toNat := binary_shifts_rl c xs
  have hback : 2 * binary (bytes back).reverse + (carryOut (carryOut c up) back).toNat =
      2 * binary xs + c.toNat := by
    have hback := binary_shifts_rr (carryOut c up) (bytes up).reverse
    rwa [List.reverse_reverse, List.length_reverse, length_bytes_shifts, hup] at hback
  have hlength : (bytes back).reverse.length = xs.length := by
    rw [List.length_reverse, length_bytes_shifts, List.length_reverse, length_bytes_shifts]
  have hc := Bool.toNat_le c
  have hout := Bool.toNat_le (carryOut (carryOut c up) back)
  refine ⟨?_, binary_inj hlength (by omega)⟩
  cases c <;> cases hlast : carryOut (carryOut _ up) back <;>
    rw [hlast] at hback <;> simp only [Bool.toNat_true, Bool.toNat_false] at hback <;> omega

/-! ## Rotations of one byte -/

/-- Shifts a byte with a carry, and leaves the next carry. -/
def turn (op : ShiftOp) (r : UInt8 × Bool) : UInt8 × Bool :=
  ((op.apply r.1 r.2).1, (op.apply r.1 r.2).2.carry)

/-- The bits of a byte have moved a number of places to the left, around the byte. -/
def TurnedBy (k : ℕ) (v w : UInt8) : Prop :=
  ∀ i < 8, w.toNat.testBit ((i + k) % 8) = v.toNat.testBit i

namespace TurnedBy

variable {j k : ℕ} {u v w : UInt8}

/-- Turning by no place leaves a byte as it is. -/
protected lemma zero (v : UInt8) : TurnedBy 0 v v := fun i hi => by
  rw [Nat.add_zero, Nat.mod_eq_of_lt hi]

/-- Turns add up. -/
protected lemma trans (h₁ : TurnedBy j u v) (h₂ : TurnedBy k v w) : TurnedBy (j + k) u w :=
  fun i hi => by
    rw [← h₁ i hi, ← h₂ _ (Nat.mod_lt _ (by decide)), Nat.mod_add_mod, Nat.add_assoc]

/-- Doubling a byte turns it by one place if the bit that leaves it comes in again. -/
protected lemma one (h : w.toNat = 2 * (v.toNat % 128) + v.toNat / 128) : TurnedBy 1 v w := by
  have hv := v.toNat_lt
  intro i hi
  obtain hi | rfl : i < 7 ∨ i = 7 := by omega
  · rw [Nat.mod_eq_of_lt (by omega), Nat.testBit_succ, show w.toNat / 2 = v.toNat % 2 ^ 7 by omega,
      Nat.testBit_mod_two_pow, decide_eq_true hi, Bool.true_and]
  · rw [show (7 + 1) % 8 = 0 from rfl, Nat.testBit_zero, Nat.testBit_eq_decide_div_mod_eq,
      show w.toNat % 2 = v.toNat / 2 ^ 7 % 2 by omega]

/-- A byte turned to the left comes of one byte only. -/
lemma left_unique (h₁ : TurnedBy k u w) (h₂ : TurnedBy k v w) : u = v :=
  Word.eq_of_testBit fun i hi => by rw [← h₁ i hi, h₂ i hi]

/-- A byte is turned to the left in one way only. -/
lemma right_unique (h₁ : TurnedBy k u v) (h₂ : TurnedBy k u w) : v = w := by
  refine Word.eq_of_testBit fun i hi => ?_
  -- the place that comes to `i`
  have hplace : ((i + 7 * k) % 8 + k) % 8 = i := by omega
  have hv := h₁ _ (Nat.mod_lt (i + 7 * k) (by decide))
  have hw := h₂ _ (Nat.mod_lt (i + 7 * k) (by decide))
  rw [hplace] at hv hw
  rw [hv, hw]

/-- All bytes are as they were after eight places, and not before. -/
lemma self_iff : (∀ v, TurnedBy k v v) ↔ 8 ∣ k := by
  constructor
  · intro h
    have hbit := h 1 0 (by decide)
    rw [Nat.zero_add, UInt8.toNat_one, Nat.testBit_one_zero, Nat.testBit_one_eq_true_iff_self_eq_zero]
      at hbit
    exact Nat.dvd_of_mod_eq_zero hbit
  · rintro ⟨j, rfl⟩ v i hi
    rw [Nat.add_mul_mod_self_left, Nat.mod_eq_of_lt hi]

end TurnedBy

/-- A rotation without carry turns the byte by one place. -/
lemma turned_once (v : UInt8) :
    TurnedBy 1 v (ShiftOp.rlc.apply v false).1 ∧ TurnedBy 1 (ShiftOp.rrc.apply v false).1 v := by
  have hv := v.toNat_lt
  have hl : ShiftOp.rlc.apply v false = asByte (Reference.rotate 0 v.toNat 0) := rotate_eq 0 v false
  have hr : ShiftOp.rrc.apply v false = asByte (Reference.rotate 1 v.toNat 0) := rotate_eq 1 v false
  rw [hl, hr]
  simp only [asByte, Reference.rotate, Reference.shift]
  constructor
  · refine .one ?_
    rw [UInt8.toNat_ofNat']
    omega
  · have hout := Nat.mod_two_eq_zero_or_one v.toNat
    refine .one ?_
    rw [UInt8.toNat_ofNat']
    omega

/-- Many rotations to the left turn a byte by as many places, whatever the carry. -/
lemma turned_rlc (k : ℕ) (v : UInt8) (c : Bool) : TurnedBy k v ((turn .rlc)^[k] (v, c)).1 := by
  induction k with
  | zero => exact .zero v
  | succ k ih =>
    rw [Function.iterate_succ_apply']
    exact ih.trans (turned_once _).1

/-- Many rotations to the right turn a byte back by as many places, whatever the carry. -/
lemma turned_rrc (k : ℕ) (v : UInt8) (c : Bool) : TurnedBy k ((turn .rrc)^[k] (v, c)).1 v := by
  induction k with
  | zero => exact .zero v
  | succ k ih =>
    rw [Function.iterate_succ_apply', Nat.add_comm]
    exact (turned_once _).2.trans ih

/-- The rotations to the left and to the right, as many times, undo each other, and eight of them
leave every byte as it was, but no fewer do. -/
lemma rotations (k : ℕ) :
    (∀ v c₁ c₂, ((turn .rrc)^[k] (((turn .rlc)^[k] (v, c₁)).1, c₂)).1 = v ∧
      ((turn .rlc)^[k] (((turn .rrc)^[k] (v, c₁)).1, c₂)).1 = v) ∧
    ((∀ v c, ((turn .rlc)^[k] (v, c)).1 = v) ↔ 8 ∣ k) ∧
    ((∀ v c, ((turn .rrc)^[k] (v, c)).1 = v) ↔ 8 ∣ k) := by
  refine ⟨fun v c₁ c₂ => ⟨?_, ?_⟩, ?_, ?_⟩
  · exact (turned_rrc k _ c₂).left_unique (turned_rlc k v c₁)
  · exact (turned_rlc k _ c₂).right_unique (turned_rrc k v c₁)
  · rw [← TurnedBy.self_iff]
    constructor
    · intro h v
      simpa only [h v false] using turned_rlc k v false
    · exact fun h v c => (turned_rlc k v c).right_unique (h v)
  · rw [← TurnedBy.self_iff]
    constructor
    · intro h v
      simpa only [h v false] using turned_rrc k v false
    · exact fun h v c => (turned_rrc k v c).left_unique (h v)

/-- Shifts of numbers of one byte or more: upwards they double, downwards they halve, with or
without the sign, a rotation up and down again changes nothing, and the rotations without carry
turn single bytes. -/
theorem shift_arithmetic (xs : List UInt8) (c : Bool) (h : xs ≠ []) :
    (let doubled := shiftsFrom .sla .rl c xs
     binary (bytes doubled) = 2 * binary xs % 256 ^ xs.length ∧
     carryOut c doubled = (binary xs).testBit (8 * xs.length - 1) ∧
     (bytes doubled).length = xs.length) ∧
    (let doubled := shifts .rl c xs
     binary (bytes doubled) = (2 * binary xs + c.toNat) % 256 ^ xs.length ∧
     carryOut c doubled = (binary xs).testBit (8 * xs.length - 1) ∧
     (bytes doubled).length = xs.length) ∧
    (let halved := shiftsFrom .srl .rr c xs.reverse
     binary (bytes halved).reverse = binary xs / 2 ∧
     (carryOut c halved).toNat = binary xs % 2 ∧
     (bytes halved).length = xs.length) ∧
    (let halved := shiftsFrom .sra .rr c xs.reverse
     complement (bytes halved).reverse = complement xs / 2 ∧
     (carryOut c halved).toNat = binary xs % 2 ∧
     (bytes halved).length = xs.length) ∧
    (let doubled := shifts .rl c xs
     let back := shifts .rr (carryOut c doubled) (bytes doubled).reverse
     carryOut (carryOut c doubled) back = c ∧ (bytes back).reverse = xs) ∧
    (∀ v c₁ c₂, ShiftOp.rlc.apply v c₁ = ShiftOp.rlc.apply v c₂ ∧
      ShiftOp.rrc.apply v c₁ = ShiftOp.rrc.apply v c₂) ∧
    ∀ k,
      (∀ v c, TurnedBy k v ((turn .rlc)^[k] (v, c)).1 ∧
        TurnedBy k ((turn .rrc)^[k] (v, c)).1 v) ∧
      (∀ v c₁ c₂, ((turn .rrc)^[k] (((turn .rlc)^[k] (v, c₁)).1, c₂)).1 = v ∧
        ((turn .rlc)^[k] (((turn .rrc)^[k] (v, c₁)).1, c₂)).1 = v) ∧
      ((∀ v c, ((turn .rlc)^[k] (v, c)).1 = v) ↔ 8 ∣ k) ∧
      ((∀ v c, ((turn .rrc)^[k] (v, c)).1 = v) ↔ 8 ∣ k) := by
  have hlength (first : ShiftOp) :
      (bytes (shiftsFrom first .rr c xs.reverse)).length = xs.length := by
    rw [length_bytes_shiftsFrom, List.length_reverse]
  obtain ⟨hsla, hslac⟩ := shiftsFrom_sla h c
  obtain ⟨hrl, hrlc⟩ := shifts_rl_mod h c
  obtain ⟨hsrl, hsrlc⟩ := shiftsFrom_srl h c
  obtain ⟨hsra, hsrac⟩ := shiftsFrom_sra h c
  exact ⟨⟨hsla, hslac, length_bytes_shiftsFrom .sla .rl c xs⟩,
    ⟨hrl, hrlc, length_bytes_shifts .rl c xs⟩, ⟨hsrl, hsrlc, hlength .srl⟩,
    ⟨hsra, hsrac, hlength .sra⟩, shifts_rr_shifts_rl c xs, fun v c₁ c₂ => ⟨rfl, rfl⟩,
    fun k => ⟨fun v c => ⟨turned_rlc k v c, turned_rrc k v c⟩, rotations k⟩⟩

/-- The word `0x9234`, shifted up and, as a negative number, down. -/
theorem shift_arithmetic_word :
    [0x34, 0x92] ≠ ([] : List UInt8) ∧
      bytes (shiftsFrom .sla .rl true [0x34, 0x92]) = [0x68, 0x24] ∧
      carryOut true (shiftsFrom .sla .rl true [0x34, 0x92]) = true ∧
      binary (bytes (shiftsFrom .sla .rl true [0x34, 0x92])) =
        2 * binary [0x34, 0x92] % 256 ^ [0x34, 0x92].length ∧
      bytes (shiftsFrom .sra .rr true [0x92, 0x34]) = [0xc9, 0x1a] ∧
      complement (bytes (shiftsFrom .sra .rr true [0x92, 0x34])).reverse =
        complement [0x34, 0x92] / 2 := by
  obtain ⟨hup, -, -, hdown, -⟩ := shift_arithmetic [0x34, 0x92] true (by decide)
  exact ⟨by decide, by decide, by decide, hup.1, by decide, hdown.1⟩

end GameBoy.Alu
