import GameBoy.Proofs.Machine.Accounting
import GameBoy.Proofs.Machine.Recorded
import GameBoy.Proofs.Machine.Restoring

/-!
# The ticks of a step

A step is some ticks on end (`Ticks`), the last of which executes an instruction, unless the
processor has stopped or waits for an interrupt (`Stepped`). It ends without a bound: a tick that
leaves the processor busy uses up some of its patience (`exists_stepped`). So the bound never cuts
it short (`Stepped.step_eq`), and injected code runs in whole steps (`runInjected_paced`).
-/

namespace GameBoy

/-- In how many ticks a processor comes to a fetch or to rest: it pays what it owes, it may be
called to a service routine before, and it may have to be woken. -/
def Cpu.patience (cpu : Cpu) : Nat :=
  cpu.owed + Machine.dispatchCost * cpu.ime.toNat + cpu.isIdle.toNat + 1

namespace Machine

/-- Ticks without changes from outside, with the machines in which they begin and their events. -/
inductive Ticks : Machine → List Machine → List Event → Machine → Prop where
  | nil (m : Machine) : Ticks m [] [] m
  | cons {m ms es m'} : Ticks (tick m).state ms es m' →
    Ticks m (m :: ms) ((tick m).events ++ es) m'

variable {m m' m'' : Machine} {es es' : List Event} {ms ms' : List Machine}

/-! ## Ticks on end -/

namespace Ticks

/-- One tick. -/
protected lemma single (m : Machine) : Ticks m [m] (tick m).events (tick m).state := by
  have h := Ticks.cons (.nil (tick m).state)
  rwa [List.append_nil] at h

/-- Ticks on end with ticks on end. -/
protected lemma append (h : Ticks m ms es m') (h' : Ticks m' ms' es' m'') :
    Ticks m (ms ++ ms') (es ++ es') m'' := by
  induction h with
  | nil _ => exact h'
  | cons _ ih =>
    rw [List.append_assoc]
    exact .cons (ih h')

/-- After a fault nothing happens any more. -/
lemma of_isPanicked (h : Ticks m ms es m') (hp : m.cpu.isPanicked = true) : m' = m ∧ es = [] := by
  induction h with
  | nil _ => exact ⟨rfl, rfl⟩
  | cons _ ih =>
    rw [tick_of_isPanicked hp] at ih ⊢
    exact ih hp

/-- Ticks that report no execution execute nothing. -/
lemma waited (h : Ticks m ms es m') (he : executions es = []) :
    ∀ x ∈ ms, (tick x).value = false := by
  induction h with
  | nil _ => exact fun _ hx => absurd hx List.not_mem_nil
  | @cons m _ _ _ _ ih =>
    rw [executions_append, executions_tick] at he
    obtain ⟨hm, he⟩ := List.append_eq_nil_iff.mp he
    refine List.forall_mem_cons.mpr ⟨?_, ih he⟩
    cases hv : (tick m).value with
    | false => rfl
    | true =>
      rw [hv, if_pos rfl] at hm
      exact absurd hm (List.cons_ne_nil _ _)

end Ticks

/-! ## Patience -/

/-- A waiting processor owes something or is at rest. -/
lemma pos_of_waiting (h : m.cpu.isReady = false) : 0 < m.cpu.owed + m.cpu.isIdle.toNat := by
  by_cases ho : m.cpu.owed = 0
  · rw [(owed_of_waiting h).mpr ho]
    exact Nat.succ_pos _
  · omega

/-- Settling a processor that waits uses up some of its patience, unless it idles in the end. -/
lemma Settled.patience_lt (h : Settled m m' es) (hr : m.cpu.isReady = false)
    (hi : m'.cpu.isIdle = false) : m'.cpu.patience < m.cpu.patience := by
  have hbusy := pos_of_waiting hr
  -- what a dispatch adds to what is owed, the interrupts that it disables have kept in patience
  have howed := h.owed_le
  have hspends := h.spends
  rw [Cpu.patience, Cpu.patience, hi, Bool.toNat_false, dispatchCost]
  omega

/-- A tick that neither executes anything nor ends in a fault or at rest uses up some patience. -/
lemma Ticked.patience_lt (h : Ticked m false m' es) (hp : m'.cpu.isPanicked = false)
    (hi : m'.cpu.isIdle = false) : m'.cpu.patience < m.cpu.patience := by
  cases h with
  | panicked h => cases h.symm.trans hp
  | faulted _ _ _ _ => cases hp
  | waited _ hr hs => exact hs.patience_lt hr hi

/-! ## Steps -/

/-- A step without a bound, with the machines in which its ticks begin, its answer and its events: it
ends with the first tick that executes an instruction, or after which there is nothing to wait for. -/
inductive Stepped : Machine → List Machine → Nat → List Event → Machine → Prop where
  | executed {m : Machine} : (tick m).value = true →
    Stepped m [m] (tick m).state.cpu.lastCost (tick m).events (tick m).state
  | ended {m : Machine} : (tick m).value = false →
    (tick m).state.cpu.isPanicked = true ∨ (tick m).state.cpu.isIdle = true →
    Stepped m [m] 0 (tick m).events (tick m).state
  | waited {m ms cost es m'} : (tick m).value = false → (tick m).state.cpu.isPanicked = false →
    (tick m).state.cpu.isIdle = false → Stepped (tick m).state ms cost es m' →
    Stepped m (m :: ms) cost ((tick m).events ++ es) m'

/-- However busy a processor is, a step of it ends. -/
lemma exists_stepped (m : Machine) : ∃ ms cost es m', Stepped m ms cost es m' := by
  -- the patience is used up by the ticks that wait
  induction hk : m.cpu.patience using Nat.strong_induction_on generalizing m with
  | _ k ih =>
    subst hk
    cases hv : (tick m).value with
    | true => exact ⟨_, _, _, _, .executed hv⟩
    | false =>
      by_cases hend : (tick m).state.cpu.isPanicked = true ∨ (tick m).state.cpu.isIdle = true
      · exact ⟨_, _, _, _, .ended hv hend⟩
      · simp only [not_or, Bool.not_eq_true] at hend
        obtain ⟨hp, hi⟩ := hend
        have hless := (ticked_of_value hv).patience_lt hp hi
        obtain ⟨ms, cost, es, m', h⟩ := ih _ hless _ rfl
        exact ⟨_, _, _, _, .waited hv hp hi h⟩

variable {cost : Nat}

/-- A bound that is no smaller than the number of its ticks makes no difference to a step. -/
lemma Stepped.stepWithin_eq (h : Stepped m ms cost es m') {limit : Nat} (hl : ms.length ≤ limit) :
    stepWithin limit m = ⟨cost, m', es⟩ := by
  induction h generalizing limit with
  | executed hv =>
    cases limit with
    | zero => cases hl
    | succ limit => simp [stepWithin, hv]
  | ended hv hend =>
    cases limit with
    | zero => cases hl
    | succ limit => simp [stepWithin, hv, hend]
  | waited hv hp hi _ ih =>
    cases limit with
    | zero => cases hl
    | succ limit => simp [stepWithin, hv, hp, hi, ih (Nat.le_of_succ_le_succ hl)]

/-- What the patience of a processor is at most. -/
lemma patience_le (cpu : Cpu) : cpu.patience ≤ cpu.owed + dispatchCost + 2 := by
  have hime := Bool.toNat_le cpu.ime
  have hidle := Bool.toNat_le cpu.isIdle
  rw [Cpu.patience, dispatchCost]
  omega

/-- A step waits and ends with one more tick, of which it has its answer. -/
lemma Stepped.last (h : Stepped m ms cost es m') :
    ∃ waits es₁ x, ms = waits ++ [x] ∧ Ticks m waits es₁ x ∧ es = es₁ ++ (tick x).events ∧
      m' = (tick x).state ∧ (∀ y ∈ waits, (tick y).value = false) ∧
      ((tick x).value = true ∧ cost = m'.cpu.lastCost ∨
        (tick x).value = false ∧ cost = 0 ∧ (m'.cpu.isPanicked = true ∨ m'.cpu.isIdle = true)) := by
  have hnone : ∀ y ∈ ([] : List Machine), (tick y).value = false :=
    fun y hy => absurd hy List.not_mem_nil
  induction h with
  | @executed m hv => exact ⟨[], [], m, rfl, .nil m, rfl, rfl, hnone, .inl ⟨hv, rfl⟩⟩
  | @ended m hv hend => exact ⟨[], [], m, rfl, .nil m, rfl, rfl, hnone, .inr ⟨hv, rfl, hend⟩⟩
  | @waited m ms cost es m' hv _ _ _ ih =>
    obtain ⟨waits, es₁, x, rfl, hwaits, rfl, rfl, hvs, hx⟩ := ih
    exact ⟨m :: waits, (tick m).events ++ es₁, x, rfl, .cons hwaits, (List.append_assoc ..).symm, rfl,
      List.forall_mem_cons.mpr ⟨hv, hvs⟩, hx⟩

/-- A step takes no more ticks than its processor has patience. -/
lemma Stepped.length_le (h : Stepped m ms cost es m') : ms.length ≤ m.cpu.patience := by
  induction h with
  | executed _ | ended _ _ => exact Nat.succ_pos _
  | waited hv hp hi _ ih => exact Nat.lt_of_le_of_lt ih ((ticked_of_value hv).patience_lt hp hi)

/-- A step does what its ticks do. -/
lemma Stepped.step_eq (h : Stepped m ms cost es m') : step m = ⟨cost, m', es⟩ :=
  h.stepWithin_eq (Nat.le_trans h.length_le (patience_le m.cpu))

/-- The bound of a step does not cut it short. -/
lemma step_stepped (m : Machine) :
    ∃ ms, Stepped m ms (step m).value (step m).events (step m).state := by
  obtain ⟨ms, cost, es, m', h⟩ := exists_stepped m
  rw [h.step_eq]
  exact ⟨ms, h⟩

/-! ## Steps on end -/

/-- Ticks on end, the last of which executes an instruction, unless the processor has stopped or
waits for an interrupt. -/
def Paced (m : Machine) (es : List Event) (m' : Machine) : Prop :=
  ∃ ms, Ticks m ms es m' ∧ ∀ x, ms.getLast? = some x → (tick x).value = false →
    m'.cpu.isPanicked = true ∨ m'.cpu.isIdle = true

/-- Ticks in whole steps compose. -/
lemma paced_composes : Composes Paced where
  refl m := ⟨[], .nil m, fun _ h => nomatch h⟩
  trans h h' := by
    obtain ⟨ms, ht, hlast⟩ := h
    obtain ⟨ms', ht', hlast'⟩ := h'
    refine ⟨ms ++ ms', ht.append ht', ?_⟩
    cases ms' with
    | nil =>
      cases ht'
      rwa [List.append_nil]
    | cons x ms' =>
      rw [List.getLast?_append_cons]
      exact hlast'

/-- A step is ticks in whole steps. -/
lemma Stepped.paced (h : Stepped m ms cost es m') : Paced m es m' := by
  obtain ⟨waits, es₁, x, -, hwaits, rfl, rfl, -, hx⟩ := h.last
  refine ⟨waits ++ [x], hwaits.append (.single x), fun y hy hv => ?_⟩
  rw [List.getLast?_concat] at hy
  obtain rfl := Option.some.inj hy
  obtain ⟨hv', -⟩ | ⟨-, -, hend⟩ := hx
  · cases hv.symm.trans hv'
  · exact hend

/-- Every step is ticks in whole steps. -/
lemma step_paced : step.Ensures Paced := by
  intro m
  obtain ⟨_, h⟩ := step_stepped m
  exact h.paced

/-- Injected code runs in whole steps. -/
lemma runInjected_paced (limit : InjectionLimit) : (runInjected limit).Ensures Paced :=
  runInjected_ensures paced_composes step_paced limit

end Machine

end GameBoy
