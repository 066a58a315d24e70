import GameBoy.Proofs.Machine.Accounting
import GameBoy.Proofs.Machine.Ahead
import GameBoy.Proofs.Machine.Interrupts
import GameBoy.Proofs.Machine.Stepping

/-!
# What a step comes to

A step ends within as many ticks as are owed and twenty-two more, though a dispatch on the way adds
to what is owed: it disables the interrupts, so that there is no second one before the last tick
(`Ticked.spends`). The step answers with the price of the one instruction that its last tick
executes, and with nothing only if the machine is at rest (`step_exact`).
-/

namespace GameBoy.Machine

variable {m m' : Machine} {b : Bool} {es : List Event} {ms : List Machine} {n : Nat}

/-! ## Rest -/

/-- A fault has stopped the machine, or it halts, owes nothing and no interrupt waits. -/
def AtRest (m : Machine) : Prop :=
  m.cpu.isPanicked = true ∨
    m.cpu.halted = true ∧ m.cpu.owed = 0 ∧ m.bus.waiting = 0

/-- Behind a tick an idle processor has nothing to wake it. -/
lemma Ticked.atRest (h : Ticked m b m' es)
    (hend : m'.cpu.isPanicked = true ∨ m'.cpu.isIdle = true) : AtRest m' := by
  cases hp : m'.cpu.isPanicked with
  | true => exact .inl hp
  | false =>
    have hidle := hend.resolve_left (by simp [hp])
    obtain ⟨hhalted, howed⟩ := Cpu.isIdle_iff.mp hidle
    exact .inr ⟨hhalted, howed, h.exhausted (fault_of_isPanicked hp) (.inr hhalted)⟩

/-! ## Accounts -/

/-- The ticks of a step charge the prices of its instructions and dispatches, and count the former.
-/
lemma Ticks.charges (h : Ticks m ms es m') :
    m'.cpu.cycles = m.cpu.cycles + (ms.map price).sum + 20 * (dispatches es).length ∧
      m'.cpu.instructions = m.cpu.instructions + ms.countP fun x => (tick x).value := by
  induction h with
  | nil m => exact ⟨rfl, rfl⟩
  | @cons m ms es m' _ ih =>
    obtain ⟨hc, hi⟩ := (ticked m).charges
    obtain ⟨hc', hi'⟩ := ih
    rw [dispatches_append, List.length_append, List.map_cons, List.sum_cons, List.countP_cons, price]
    constructor <;> omega

/-- A tick without an instruction dispatches nothing unless the master enable is set, which it
spends. -/
lemma Ticked.spends (h : Ticked m false m' es) (hp : m'.cpu.isPanicked = false) :
    (dispatches es).length + m'.cpu.ime.toNat = m.cpu.ime.toNat := by
  cases h with
  | panicked _ => exact Nat.zero_add _
  | faulted _ _ _ _ => cases hp
  | waited _ _ hs => exact hs.spends

/-- On the way a step dispatches an interrupt only if they were enabled to begin with, and its last
tick may dispatch another one. -/
lemma Stepped.dispatches_le (h : Stepped m ms n es m') :
    (dispatches es).length ≤ m.cpu.ime.toNat + 1 := by
  induction h with
  | executed _ | ended _ _ => exact Nat.le_add_left_of_le (ticked _).dispatches_le
  | @waited m _ _ _ _ hv hp _ _ ih =>
    have hspends := (ticked_of_value hv).spends hp
    rw [dispatches_append, List.length_append]
    omega

/-- A tick that executes nothing adds to what is owed as much as a dispatch costs. -/
lemma Ticked.owed_le (h : Ticked m false m' es) :
    m'.cpu.owed ≤ m.cpu.owed + 20 * (dispatches es).length := by
  cases h with
  | panicked _ => exact Nat.le_add_right _ _
  | faulted _ _ _ _ => exact Nat.le_add_right_of_le (execute_owed m).le
  | waited _ _ hs =>
    have ho := hs.owed_le
    omega

/-- A tick that executes an instruction leaves at most its price and that of a dispatch. -/
lemma Ticked.owed_le_of_executed (h : Ticked m true m' es) : m'.cpu.owed ≤ 43 := by
  cases h with
  | executed _ _ hv hs =>
    obtain ⟨-, hcost⟩ := Instruction.bounds_of_mem (execute_price hv)
    have hone := hs.dispatches_le
    have ho := hs.owed_le
    have hcharged := charged_owed (execute m).state (execute_price hv)
    omega

/-- What a step owes on its way and in the end. -/
lemma Stepped.owed_le (h : Stepped m ms n es m') :
    (∀ x ∈ ms, x.cpu.owed ≤ m.cpu.owed + 20 * m.cpu.ime.toNat) ∧
      m'.cpu.owed ≤ m.cpu.owed + 20 * m.cpu.ime.toNat + 43 := by
  induction h with
  | @executed m hv =>
    have ht := ticked_of_value hv
    refine ⟨fun x hx => ?_, Nat.le_add_left_of_le ht.owed_le_of_executed⟩
    obtain rfl := List.mem_singleton.mp hx
    exact Nat.le_add_right _ _
  | @ended m hv _ =>
    have ht := ticked_of_value hv
    have howed := ht.owed_le
    have hone := ht.dispatches_le
    refine ⟨fun x hx => ?_, by omega⟩
    obtain rfl := List.mem_singleton.mp hx
    exact Nat.le_add_right _ _
  | @waited m _ _ _ _ hv hp _ _ ih =>
    have ht := ticked_of_value hv
    -- a dispatch adds what the enabled interrupts have left room for
    have howed := ht.owed_le
    have hspends := ht.spends hp
    obtain ⟨hms, hend⟩ := ih
    refine ⟨List.forall_mem_cons.mpr ⟨Nat.le_add_right _ _, fun x hx => ?_⟩, by omega⟩
    have hx := hms x hx
    omega

/-! ## Answers -/

/-- The price of what a tick executes is what is remembered as the last one. -/
lemma Ticked.lastCost (h : Ticked m true m' es) : m'.cpu.lastCost = m.cost := by
  cases h with
  | executed _ _ hv hs =>
    rw [hs.lastCost, Machine.cost, hv]
    rfl

/-- The cost of the tick that executes an instruction. -/
lemma Executes.cost_eq {i : Instruction} (h : Executes i m) :
    m.cost = i.cost m.cpu.registers.flags := by
  rw [Machine.cost, h.price]

/-- A step answers with the price of what its last tick executes, or it executes nothing and ends at
rest. -/
lemma Stepped.answer (h : Stepped m ms n es m') :
    (n ≠ 0 ∧ ∃ waits x, ms = waits ++ [x] ∧ (∀ y ∈ waits, (tick y).value = false) ∧
      (tick x).value = true ∧ n = x.cost) ∨
    (n = 0 ∧ (∀ x ∈ ms, (tick x).value = false) ∧ AtRest m') := by
  obtain ⟨waits, _, x, rfl, -, rfl, rfl, hwaits, hx⟩ := h.last
  obtain ⟨hv, hcost⟩ | ⟨hv, hcost, hend⟩ := hx
  · have ht := ticked_of_value hv
    have hn : n = x.cost := hcost.trans ht.lastCost
    have hpos : 0 < x.cost := (Instruction.bounds_of_mem ht.cost_mem).1
    exact .inl ⟨by omega, waits, x, rfl, hwaits, hv, hn⟩
  · refine .inr ⟨hcost, fun y hy => ?_, (ticked x).atRest hend⟩
    obtain hy | hy := List.mem_append.mp hy
    · exact hwaits y hy
    · obtain rfl := List.mem_singleton.mp hy
      exact hv

/-- A step is a run of ticks. -/
lemma Stepped.ticks (h : Stepped m ms n es m') : Ticks m ms es m' := by
  obtain ⟨waits, es₁, x, rfl, hwaits, rfl, rfl, -, -⟩ := h.last
  exact hwaits.append (.single x)

/-- What a step charges and counts. -/
lemma Stepped.charges (h : Stepped m ms n es m') :
    (ms.map price).sum = n ∧ (ms.countP fun x => (tick x).value) = if n = 0 then 0 else 1 := by
  obtain ⟨hn, waits, x, rfl, hwaits, hv, hcost⟩ | ⟨hn, hms, -⟩ := h.answer
  · have hcount : (waits.countP fun x => (tick x).value) = 0 :=
      List.countP_eq_zero.mpr fun y hy => by simp [hwaits y hy]
    rw [List.map_append, List.sum_append, sum_price_eq_zero hwaits, List.countP_append, hcount,
      if_neg hn, hcost]
    simp [price, hv]
  · rw [sum_price_eq_zero hms, hn]
    exact ⟨rfl, List.countP_eq_zero.mpr fun y hy => by simp [hms y hy]⟩

/-- What a step does in so many ticks, what it answers, and what it adds to the accounts. What it
owes stays so small that 32 bits hold it if 31 did before. -/
structure Exact (m : Machine) (ms : List Machine) (n : Nat) (es : List Event) (m' : Machine) :
    Prop where
  ticks : ms.length ≤ m.cpu.owed + 22
  one : n ≠ 0 ↔ (ms.countP fun x => (tick x).value) = 1
  none : n = 0 ↔ (ms.countP fun x => (tick x).value) = 0
  last : n ≠ 0 → ∃ waits x i, ms = waits ++ [x] ∧ (tick x).value = true ∧ Executes i x ∧
    n = i.cost x.cpu.registers.flags
  rest : n = 0 → AtRest m'
  charged : m'.cpu.cycles = m.cpu.cycles + n + 20 * (dispatches es).length
  dispatched : (dispatches es).length ≤ 2
  counted : m'.cpu.instructions = m.cpu.instructions + if n = 0 then 0 else 1
  owed : (∀ x ∈ ms, x.cpu.owed ≤ m.cpu.owed + 20) ∧ m'.cpu.owed ≤ m.cpu.owed + 63

/-- A step does exactly what is said of it. -/
lemma Stepped.exact (h : Stepped m ms n es m') : Exact m ms n es m' := by
  have hime := Bool.toNat_le m.cpu.ime
  obtain ⟨hsum, hcount⟩ := h.charges
  obtain ⟨hcycles, hinstructions⟩ := h.ticks.charges
  obtain ⟨howed, howed'⟩ := h.owed_le
  have hdispatches := h.dispatches_le
  rw [hsum] at hcycles
  rw [hcount] at hinstructions
  constructor
  · exact Nat.le_trans h.length_le (patience_le m.cpu)
  · rw [hcount]
    split <;> simp [*]
  · rw [hcount]
    split <;> simp [*]
  · intro hn
    obtain ⟨-, waits, x, rfl, -, hv, hcost⟩ | ⟨h0, -⟩ := h.answer
    · obtain ⟨i, hi⟩ := (ticked_of_value hv).executes
      exact ⟨waits, x, i, rfl, hv, hi, hcost.trans hi.cost_eq⟩
    · exact absurd h0 hn
  · intro h0
    obtain ⟨hn, -⟩ | ⟨-, -, hrest⟩ := h.answer
    · exact absurd h0 hn
    · exact hrest
  · exact hcycles
  · omega
  · exact hinstructions
  · refine ⟨fun x hx => ?_, by omega⟩
    have := howed x hx
    omega

/-- A step needs no bound to end, and its bound does not show: it answers with the price of the one
instruction that is executed in its last tick, or with nothing if the machine has come to rest. -/
theorem step_exact (m : Machine) :
    (∃ ms n es m', Stepped m ms n es m') ∧
    ∀ ms n es m', Stepped m ms n es m' → step m = ⟨n, m', es⟩ ∧ Exact m ms n es m' :=
  ⟨exists_stepped m, fun _ _ _ _ h => ⟨h.step_eq, h.exact⟩⟩

/-- A processor that owes three cycles is called to the vertical blank, whose routine enables the
interrupts, so that the step dispatches the timer as well. -/
theorem step_exact_two_dispatches :
    let bus := ((Bus.new (Clock.steady 0 0)).stored 0x40 0xfb).setIo .interruptEnable 5
    let m : Machine :=
      ⟨{ Cpu.new false with registers := { sp := 0xdffe, pc := 0x100 }, ime := true, debt := 3 },
        bus.setIo .interruptFlag 5⟩
    let done := step m
    (∃ ms, Stepped m ms 4 done.events done.state ∧ ms.length ≤ 3 + 22) ∧
      dispatches done.events = [.vblank, .timer] ∧ done.state.cpu.cycles = 4 + 20 * 2 := by
  intro bus m done
  obtain ⟨⟨ms, n, es, m', h⟩, hall⟩ := step_exact m
  obtain ⟨hstep, hexact⟩ := hall _ _ _ _ h
  obtain ⟨hvalue, hdispatches⟩ : done.value = 4 ∧ dispatches done.events = [.vblank, .timer] := by
    decide +kernel
  have hdone : done = ⟨n, m', es⟩ := hstep
  rw [hdone] at hvalue hdispatches ⊢
  obtain rfl : n = 4 := hvalue
  have hcycles := hexact.charged
  rw [hdispatches] at hcycles
  exact ⟨⟨ms, h, hexact.ticks⟩, hdispatches, hcycles⟩

end GameBoy.Machine
