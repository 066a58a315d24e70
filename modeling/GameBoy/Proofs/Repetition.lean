import GameBoy.Proofs.Ensures

/-!
# Repeated actions

`Action.upTo` carries an action out and goes on as it answers (`upTo_succ`). In terms of how often the
action was carried out, that is as often as allowed if the action never asks for an end
(`upTo_of_again`), and up to the first time that it does otherwise (`upTo_of_last`).
-/

namespace GameBoy.Action

variable {σ α β : Type}

/-- Carries an action out a number of times, whatever it answers. -/
def times (x : Action σ α) : Nat → Action σ Unit
  | 0 => return
  | n + 1 => do
    let _ ← x
    x.times n

/-- Repetitions add up. -/
lemma times_add (x : Action σ α) (m n : Nat) :
    x.times (m + n) = x.times m >>= fun _ => x.times n := by
  induction m with
  | zero => rw [Nat.zero_add, times, pure_bind]
  | succ m ih => rw [Nat.succ_add, times, times, ih, bind_assoc]

/-- The last time stands apart. -/
lemma times_succ_state (x : Action σ α) (n : Nat) (s : σ) :
    (x.times (n + 1) s).state = (x (x.times n s).state).state := by
  rw [times_add]
  rfl

/-- Actions that lead to the same states do so when they are repeated. -/
lemma times_state_congr {x : Action σ α} {y : Action σ β} (h : ∀ s, (x s).state = (y s).state)
    (n : Nat) (s : σ) : (x.times n s).state = (y.times n s).state := by
  induction n with
  | zero => rfl
  | succ n ih => rw [times_succ_state, times_succ_state, ih, h]

/-! ## The tally -/

/-- How often an action was repeated before, and the events so far, make no difference. -/
lemma repeatFrom_eq (x : Action σ Verdict) (limit count : Nat) (seen : List Event) (s : σ) :
    repeatFrom x limit count seen s =
      let rest := upTo limit x s
      ⟨⟨count + rest.value.count, rest.value.ended⟩, rest.state, seen.reverse ++ rest.events⟩ := by
  induction limit generalizing count seen s with
  | zero => simp [upTo, repeatFrom]
  | succ limit ih =>
    simp only [upTo, repeatFrom]
    split
    · simp [ih (count + 1), ih (0 + 1), List.reverseAux_eq, Nat.add_assoc]
    · simp [List.reverseAux_eq]
    · simp [List.reverseAux_eq]

/-- A repetition begins with the action and goes on as it says. -/
lemma upTo_succ (x : Action σ Verdict) (limit : Nat) (s : σ) :
    upTo (limit + 1) x s =
      match (x s).value with
      | .again =>
        let rest := upTo limit x (x s).state
        ⟨⟨rest.value.count + 1, rest.value.ended⟩, rest.state, (x s).events ++ rest.events⟩
      | .last => ⟨⟨1, true⟩, (x s).state, (x s).events⟩
      | .refused => ⟨⟨0, true⟩, (x s).state, (x s).events⟩ := by
  rw [upTo, repeatFrom]
  cases (x s).value with
  | again => simp [repeatFrom_eq x limit, List.reverseAux_eq, Nat.add_comm 1]
  | last | refused => simp [List.reverseAux_eq]

/-- What is repeated ensures what its repetition ensures. -/
lemma Ensures.upTo {R : σ → List Event → σ → Prop} (hR : Composes R)
    {x : Action σ Verdict} (hx : x.Ensures R) (limit : Nat) : (Action.upTo limit x).Ensures R := by
  induction limit with
  | zero => exact hR.refl
  | succ limit ih =>
    intro s
    rw [upTo_succ]
    split
    · exact hR.trans (hx s) (ih (x s).state)
    · exact hx s
    · exact hx s

variable {x : Action σ Verdict} {s : σ}

/-- An action that always asks for another time is carried out as often as allowed. -/
lemma upTo_of_again {limit : Nat} (h : ∀ j < limit, (x (x.times j s).state).value = .again) :
    upTo limit x s = ⟨⟨limit, false⟩, (x.times limit s).state, (x.times limit s).events⟩ := by
  induction limit generalizing s with
  | zero => rfl
  | succ limit ih =>
    have hfirst : (x s).value = .again := h 0 (Nat.succ_pos limit)
    have hrest := ih (s := (x s).state) fun j hj => h (j + 1) (Nat.succ_lt_succ hj)
    rw [upTo_succ, hfirst, hrest]
    rfl

/-- The first time that an action asks for an end is the last one. -/
lemma upTo_of_last {k limit : Nat} (hk : k < limit)
    (h : ∀ j < k, (x (x.times j s).state).value = .again)
    (hlast : (x (x.times k s).state).value = .last) :
    upTo limit x s =
      ⟨⟨k + 1, true⟩, (x.times (k + 1) s).state, (x.times (k + 1) s).events⟩ := by
  induction limit generalizing k s with
  | zero => cases hk
  | succ limit ih =>
    cases k with
    | zero =>
      have hfirst : (x s).value = .last := hlast
      rw [upTo_succ, hfirst, times, bind_apply]
      simp [times]
    | succ k =>
      have hfirst : (x s).value = .again := h 0 (Nat.succ_pos k)
      have hrest := ih (s := (x s).state) (Nat.lt_of_succ_lt_succ hk)
        (fun j hj => h (j + 1) (Nat.succ_lt_succ hj)) hlast
      rw [upTo_succ, hfirst, hrest]
      rfl

end GameBoy.Action
