/-!
# Stores

A store of entries under numbers of `n` bits, kept as a perfect binary tree that is read along the
bits of the cell number, the least significant bit first. A store is a value: a snapshot costs
nothing, and two stores are equal as soon as all their cells are (`Store.ext`). Only the low `n`
bits of a cell number are looked at.
-/

namespace GameBoy

/-- A store of one entry for each number of `n` bits. -/
inductive Store (α : Type) : Nat → Type where
  | leaf (entry : α) : Store α 0
  | node {n : Nat} (even odd : Store α n) : Store α (n + 1)

/-- A store of bytes. -/
abbrev Cells (n : Nat) : Type := Store UInt8 n

namespace Store

variable {α : Type}

/-- The number of cells: each further bit doubles it. -/
def count : Nat → Nat
  | 0 => 1
  | n + 1 => 2 * count n

/-- The entry in cell `a`. -/
def get : {n : Nat} → Store α n → Nat → α
  | _, .leaf entry, _ => entry
  | _, .node even odd, a => if a % 2 = 0 then even.get (a / 2) else odd.get (a / 2)

/-- The store with `v` in cell `a`. -/
def set : {n : Nat} → Store α n → Nat → α → Store α n
  | _, .leaf _, _, v => .leaf v
  | _, .node even odd, a, v =>
    if a % 2 = 0 then .node (even.set (a / 2) v) odd else .node even (odd.set (a / 2) v)

/-- The store with the same entry everywhere. -/
def fill : (n : Nat) → α → Store α n
  | 0, v => .leaf v
  | n + 1, v => let half := fill n v; .node half half

/-- The store whose cell `a` holds `f a`. -/
def tabulate : (n : Nat) → (Nat → α) → Store α n
  | 0, f => .leaf (f 0)
  | n + 1, f => .node (tabulate n fun a => f (2 * a)) (tabulate n fun a => f (2 * a + 1))

/-- All cells of a new store hold the same. -/
@[simp] theorem get_fill (n : Nat) (v : α) (a : Nat) : (fill n v).get a = v := by
  induction n generalizing a with
  | zero => rfl
  | succ n ih => simp only [fill, get, ih, ite_self]

/-- A tabulated cell holds the value of the function there. -/
theorem get_tabulate {n : Nat} (f : Nat → α) {a : Nat} (h : a < count n) :
    (tabulate n f).get a = f a := by
  induction n generalizing f a with
  | zero =>
    have : a = 0 := by simpa only [count, Nat.lt_one_iff] using h
    simp only [tabulate, get, this]
  | succ n ih =>
    rw [count] at h
    simp only [tabulate, get]
    split
    · rw [ih _ (by omega)]; congr 1; omega
    · rw [ih _ (by omega)]; congr 1; omega

/-- A cell holds what was put there. -/
@[simp] theorem get_set_self {n : Nat} (s : Store α n) (a : Nat) (v : α) :
    (s.set a v).get a = v := by
  induction s generalizing a with
  | leaf => rfl
  | node even odd ihe iho =>
    simp only [set]
    split
    · next h => simp only [get, h, if_true, ihe]
    · next h => simp only [get, h, if_false, iho]

/-- A cell keeps its value when another one is set. -/
theorem get_set_of_ne {n : Nat} (s : Store α n) {a b : Nat} (v : α) (ha : a < count n)
    (hb : b < count n) (h : b ≠ a) : (s.set a v).get b = s.get b := by
  induction s generalizing a b with
  | leaf => rw [count] at ha hb; omega
  | node even odd ihe iho =>
    rw [count] at ha hb
    simp only [set]
    split
    · simp only [get]
      split
      · exact ihe (by omega) (by omega) (by omega)
      · rfl
    · simp only [get]
      split
      · rfl
      · exact iho (by omega) (by omega) (by omega)

/-- Stores with the same entries are the same store. -/
theorem ext {n : Nat} {s t : Store α n} (h : ∀ a < count n, s.get a = t.get a) : s = t := by
  induction s with
  | leaf x =>
    cases t with
    | leaf y => exact congrArg _ (h 0 (by decide))
  | node e o ihe iho =>
    cases t with
    | node e' o' =>
      have he : e = e' := ihe fun a ha => by
        have h := h (2 * a) (by rw [count]; omega)
        rwa [get, get, if_pos (by omega), if_pos (by omega), Nat.mul_div_cancel_left _ (by omega)]
          at h
      have ho : o = o' := iho fun a ha => by
        have h := h (2 * a + 1) (by rw [count]; omega)
        rwa [get, get, if_neg (by omega), if_neg (by omega), show (2 * a + 1) / 2 = a by omega]
          at h
      rw [he, ho]

end Store

end GameBoy
