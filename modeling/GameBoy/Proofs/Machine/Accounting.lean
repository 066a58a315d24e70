import GameBoy.Proofs.Machine.Ticked
import Mathlib.Algebra.Ring.Nat

/-!
# The accounts of the processor

What a tick adds to the cycles, to the owed cycles and to the instructions (`Ticked.accounts`), and
by induction what a run of ticks adds to them (`Run.accounts`). What is owed is a word, and a dispatch
can take it over its end (`overflows`), but only if there is no room to begin with (`Roomy`): a
dispatch adds to what is owed only while interrupts are enabled, it disables them, and only an
instruction, which starts with nothing owed, can enable them again. So what a new processor owes stays
small (`Sparing`).
-/

namespace GameBoy

/-- The prices of instructions. -/
def Instruction.prices : List Nat := [4, 8, 12, 16, 20, 24]

/-- An operand costs one of two prices. -/
lemma Operand.price_mem {l : List Nat} {n k : Nat} (hn : n ∈ l) (hk : k ∈ l) (r : Operand) :
    r.price n k ∈ l := by
  cases r with
  | reg r => exact hn
  | atHl => exact hk

/-- Every instruction costs one of the prices. -/
lemma Instruction.cost_mem (i : Instruction) (flags : Flags) : i.cost flags ∈ prices := by
  cases i with
  | load dst src => cases dst <;> cases src <;> simp [cost, Operand.price, prices]
  | loadImmediate r _ | alu _ r | inc r | dec r | shift _ r | bit _ r | res _ r | set _ r =>
    exact r.price_mem (by decide) (by decide)
  | jumpRelative cc _ | jump cc _ | call cc _ =>
    rw [cost]
    split <;> decide
  | ret cc =>
    cases cc with
    | none => simp [cost, prices]
    | some cc =>
      rw [cost]
      split <;> decide
  | _ => simp [cost, prices]

/-- No instruction is free, and none costs more than 24 cycles. -/
lemma Instruction.bounds_of_mem {cost : Nat} (h : cost ∈ prices) : 0 < cost ∧ cost ≤ 24 := by
  simp only [prices, List.mem_cons, List.not_mem_nil, or_false] at h
  omega

namespace Machine

/-- What an instruction costs. -/
lemma execute_price {m : Machine} {cost : Nat} (h : (execute m).value = .ok cost) :
    cost ∈ Instruction.prices := by
  obtain ⟨fault, hv, -⟩ | ⟨i, flags, hv⟩ := execute_value m
  · cases h.symm.trans hv
  · cases h.symm.trans hv
    exact i.cost_mem flags

/-- What the instruction at the program counter costs. -/
def cost (m : Machine) : Nat :=
  match (execute m).value with
  | .ok cost => cost
  | .error _ => 0

/-- What a tick spends on an instruction. -/
def price (m : Machine) : Nat := if (tick m).value then m.cost else 0

/-- How many interrupts a tick dispatches. -/
def served (m : Machine) : Nat := (dispatches (tick m).events).length

variable {m m' : Machine} {b : Bool} {es : List Event} {ms : List Machine}

/-- How often a tick takes what is owed over the end of its word. -/
def overflows (m : Machine) : Nat := (m.cpu.owed - 1 + 20 * m.served) / 2 ^ 32

/-- A processor that is ready owes nothing. -/
lemma owed_of_isReady (h : m.cpu.isReady = true) : m.cpu.owed = 0 := (Cpu.isReady_iff.mp h).2

/-- A processor that waits owes something, unless it is idle. -/
lemma owed_of_waiting (h : m.cpu.isReady = false) : m.cpu.isIdle = true ↔ m.cpu.owed = 0 := by
  rw [Cpu.isIdle_iff]
  refine ⟨And.right, fun h0 => ⟨?_, h0⟩⟩
  cases hh : m.cpu.halted with
  | true => rfl
  | false => cases h.symm.trans (Cpu.isReady_iff.mpr ⟨hh, h0⟩)

/-- A processor that is ready is not idle. -/
lemma isIdle_of_isReady (h : m.cpu.isReady = true) : m.cpu.isIdle = false := by
  rw [Cpu.isIdle, (Cpu.isReady_iff.mp h).1, Bool.false_and]

/-- The price of an instruction fits into the word of what is owed. -/
lemma charged_owed (m : Machine) {cost : Nat} (h : cost ∈ Instruction.prices) :
    (m.charged cost).cpu.owed = cost := by
  obtain ⟨-, hle⟩ := Instruction.bounds_of_mem h
  exact UInt32.toNat_ofNat_of_lt' (show cost < 2 ^ 32 by omega)

/-- Looking at the interrupts disables them as often as it dispatches one. -/
lemma Settled.spends (h : Settled m m' es) :
    (dispatches es).length + m'.cpu.ime.toNat = m.cpu.ime.toNat := by
  cases h with
  | quiet _ => exact Nat.zero_add _
  | woken _ _ hes =>
    rw [hes]
    exact Nat.zero_add _
  | dispatched _ hi =>
    rw [dispatch_dispatches, dispatch_cpu, hi]
    rfl

/-- Settling dispatches one interrupt at most. -/
lemma Settled.dispatches_le (h : Settled m m' es) : (dispatches es).length ≤ 1 :=
  (Nat.le_of_add_right_le h.spends.le).trans (Bool.toNat_le _)

/-- While interrupts are disabled none is dispatched. -/
lemma Settled.dispatches_of_disabled (h : Settled m m' es) (hime : m.cpu.ime = false) :
    dispatches es = [] := by
  have hspends := h.spends
  rw [hime] at hspends
  exact List.eq_nil_of_length_eq_zero (Nat.eq_zero_of_add_eq_zero_right hspends)

/-- Where interrupts are enabled still, they have been all along, and none was dispatched. -/
lemma Settled.enabled (h : Settled m m' es) (hime : m'.cpu.ime = true) :
    m.cpu.ime = true ∧ dispatches es = [] := by
  cases h with
  | quiet _ => exact ⟨hime, rfl⟩
  | woken _ hi _ => cases hi.symm.trans hime
  | dispatched _ _ =>
    rw [dispatch_cpu] at hime
    cases hime

/-- Settling pays one cycle, if one is owed, and charges for a dispatch, in a word of 32 bits. -/
lemma Settled.accounts (h : Settled m m' es) :
    m'.cpu.cycles = m.cpu.cycles + 20 * (dispatches es).length ∧
      m'.cpu.owed = (m.cpu.owed - 1 + 20 * (dispatches es).length) % 2 ^ 32 ∧
      m'.cpu.instructions = m.cpu.instructions := by
  have hlt := m.cpu.owed_lt
  have hpay : m.paid.cpu.owed = (m.cpu.owed - 1) % 2 ^ 32 := by
    rw [Nat.mod_eq_of_lt (by omega)]
    exact m.cpu.owed_pay
  cases h with
  | quiet _ => exact ⟨rfl, hpay, rfl⟩
  | woken _ _ hes =>
    rw [hes]
    exact ⟨rfl, hpay, rfl⟩
  | dispatched _ _ =>
    rw [dispatch_dispatches, dispatch_owed, hpay, dispatch_cpu, Nat.mod_add_mod]
    exact ⟨rfl, rfl, rfl⟩

/-- If the sum does not fit into the word, less is owed. -/
lemma Settled.owed_le (h : Settled m m' es) :
    m'.cpu.owed ≤ m.cpu.owed - 1 + 20 * (dispatches es).length := by
  obtain ⟨-, ho, -⟩ := h.accounts
  rw [ho]
  exact Nat.mod_le _ _

/-- What one tick charges and counts. A fault does neither. -/
lemma Ticked.charges (h : Ticked m b m' es) :
    m'.cpu.cycles = m.cpu.cycles + (if b then m.cost else 0) + 20 * (dispatches es).length ∧
      m'.cpu.instructions = m.cpu.instructions + (if b then 1 else 0) := by
  cases h with
  | panicked _ => exact ⟨rfl, rfl⟩
  | faulted _ _ _ hes =>
    rw [dispatches_append, execute_dispatches, hes]
    exact ⟨execute_cycles m, execute_instructions m⟩
  | executed _ _ hv hs =>
    obtain ⟨hc, -, hi⟩ := hs.accounts
    rw [dispatches_append, execute_dispatches, cost, hv]
    simp only [charged, Cpu.charge, execute_cycles, execute_instructions] at hc hi
    exact ⟨hc, hi⟩
  | waited _ _ hs =>
    obtain ⟨hc, -, hi⟩ := hs.accounts
    exact ⟨hc, hi⟩

/-- What one tick adds to the accounts. -/
lemma Ticked.accounts (h : Ticked m b m' es) (hp : m'.cpu.isPanicked = false) :
    m'.cpu.cycles = m.cpu.cycles + (if b then m.cost else 0) + 20 * (dispatches es).length ∧
      m'.cpu.cycles + m.cpu.owed =
        m.cpu.cycles + m'.cpu.owed + (if m.cpu.isIdle then 0 else 1) +
          2 ^ 32 * ((m.cpu.owed - 1 + 20 * (dispatches es).length) / 2 ^ 32) ∧
      m'.cpu.instructions = m.cpu.instructions + (if b then 1 else 0) := by
  obtain ⟨hcharged, hcounted⟩ := h.charges
  refine ⟨hcharged, ?_, hcounted⟩
  cases h with
  | panicked h => cases h.symm.trans hp
  | faulted _ _ _ _ => cases hp
  | executed _ hr hv hs =>
    obtain ⟨hc, ho, -⟩ := hs.accounts
    obtain ⟨hpos, hle⟩ := Instruction.bounds_of_mem (execute_price hv)
    -- an execution owes its whole price, of which the tick pays the first cycle
    have h0 := owed_of_isReady hr
    have hone := hs.dispatches_le
    rw [charged_owed _ (execute_price hv)] at ho
    simp only [charged, Cpu.charge, execute_cycles] at hc
    rw [dispatches_append, execute_dispatches, List.nil_append, isIdle_of_isReady hr, h0]
    simp only [Bool.false_eq_true, if_false]
    omega
  | waited _ hr hs =>
    obtain ⟨hc, ho, -⟩ := hs.accounts
    have hw := owed_of_waiting hr
    have hword := Nat.mod_add_div (m.cpu.owed - 1 + 20 * (dispatches es).length) (2 ^ 32)
    split
    · next h =>
      have := hw.mp h
      omega
    · next h =>
      have : m.cpu.owed ≠ 0 := fun h' => h (hw.mpr h')
      omega

/-- An instruction that a tick executes costs one of the prices. -/
lemma Ticked.cost_mem (h : Ticked m true m' es) : m.cost ∈ Instruction.prices := by
  cases h with
  | executed _ _ hv _ =>
    rw [Machine.cost, hv]
    exact execute_price hv

/-- A tick that executes an instruction charges one of the prices. -/
lemma price_mem (h : (tick m).value = true) : m.price ∈ Instruction.prices := by
  rw [price, if_pos h]
  exact (ticked_of_value h).cost_mem

/-- Ticks that execute nothing spend nothing on instructions. -/
lemma sum_price_eq_zero (hv : ∀ x ∈ ms, (tick x).value = false) : (ms.map price).sum = 0 := by
  refine List.sum_eq_zero_iff_forall_eq_nat.mpr fun p hmem => ?_
  obtain ⟨x, hx, rfl⟩ := List.mem_map.mp hmem
  rw [price, hv x hx]
  rfl

/-! ## The word of what is owed -/

/-- As long as interrupts are enabled, what is owed leaves room for a dispatch. -/
def Roomy (cpu : Cpu) : Prop := cpu.ime = true → cpu.owed ≤ 2 ^ 32 - 20

/-- Where interrupts are enabled still, settling has dispatched none, and it pays a cycle. -/
lemma Settled.enabled_le (h : Settled m m' es) {k : Nat}
    (hk : m.cpu.ime = true → m.cpu.owed ≤ k + 1) : m'.cpu.ime = true → m'.cpu.owed ≤ k := by
  intro hime
  obtain ⟨hm, hes⟩ := h.enabled hime
  have hle := h.owed_le
  rw [hes] at hle
  exact hle.trans (Nat.sub_le_of_le_add (hk hm))

/-- An execution owes so little that there is room behind it. -/
lemma roomy_of_execution {cost : Nat} (hv : (execute m).value = .ok cost)
    (h : Settled ((execute m).state.charged cost) m' es) : Roomy m'.cpu := by
  obtain ⟨-, hle⟩ := Instruction.bounds_of_mem (execute_price hv)
  refine h.enabled_le fun _ => ?_
  rw [charged_owed _ (execute_price hv)]
  omega

/-- A fault is found where nothing is owed. -/
lemma stopped_owed (h : m.cpu.isReady = true) (fault : Fault) :
    ((execute m).state.stopped fault).cpu.owed = 0 :=
  (execute_owed m).trans (owed_of_isReady h)

/-- A tick leaves room for a dispatch where there was room for one. -/
lemma Ticked.roomy (h : Ticked m b m' es) (hroom : Roomy m.cpu) : Roomy m'.cpu := by
  cases h with
  | panicked _ => exact hroom
  | faulted _ hr _ _ => exact fun _ => (stopped_owed hr _).le.trans (Nat.zero_le _)
  | executed _ _ hv hs => exact roomy_of_execution hv hs
  | waited _ _ hs => exact hs.enabled_le fun hime => Nat.le_succ_of_le (hroom hime)

/-- A tick dispatches one interrupt at most. -/
lemma Ticked.dispatches_le (h : Ticked m b m' es) : (dispatches es).length ≤ 1 := by
  cases h with
  | panicked _ => exact Nat.zero_le 1
  | faulted _ _ _ hes =>
    rw [dispatches_append, execute_dispatches, hes]
    exact Nat.zero_le 1
  | executed _ _ _ hs =>
    rw [dispatches_append, execute_dispatches, List.nil_append]
    exact hs.dispatches_le
  | waited _ _ hs => exact hs.dispatches_le

/-- Behind a dispatch there is room for another one. -/
lemma Ticked.roomy_of_dispatches (h : Ticked m b m' es) (hes : dispatches es ≠ []) :
    Roomy m'.cpu := by
  cases h with
  | panicked _ => exact absurd rfl hes
  | faulted _ _ _ hnone =>
    rw [dispatches_append, execute_dispatches, hnone] at hes
    exact absurd rfl hes
  | executed _ _ hv hs => exact roomy_of_execution hv hs
  | waited _ _ hs => exact fun hime => absurd (hs.enabled hime).2 hes

/-- Where there is room, what a tick owes fits. -/
lemma Ticked.fits (h : Ticked m b m' es) (hroom : Roomy m.cpu) :
    m.cpu.owed - 1 + 20 * (dispatches es).length < 2 ^ 32 := by
  have hlt := m.cpu.owed_lt
  have hone := h.dispatches_le
  cases h with
  | panicked _ => exact Nat.lt_of_le_of_lt (Nat.sub_le _ _) hlt
  | faulted _ hr _ _ | executed _ hr _ _ =>
    have h0 := owed_of_isReady hr
    omega
  | waited _ _ hs =>
    -- a dispatch takes enabled interrupts, and those leave room
    cases hime : m.cpu.ime with
    | false =>
      rw [hs.dispatches_of_disabled hime, List.length_nil]
      omega
    | true =>
      have := hroom hime
      omega

/-- Where there is room, a tick does not go over the end of the word. -/
lemma overflows_eq_zero (hroom : Roomy m.cpu) : m.overflows = 0 :=
  Nat.div_eq_of_lt ((ticked m).fits hroom)

/-- A tick goes over the end of the word once at most. -/
lemma overflows_le (m : Machine) : m.overflows ≤ 1 := by
  have hlt := m.cpu.owed_lt
  have hone : m.served ≤ 1 := (ticked m).dispatches_le
  refine Nat.lt_succ_iff.mp (Nat.div_lt_of_lt_mul ?_)
  omega

/-- A tick that goes over the end of the word dispatches an interrupt. -/
lemma roomy_of_overflows (h : m.overflows ≠ 0) : Roomy (tick m).state.cpu := by
  refine (ticked m).roomy_of_dispatches fun hes => h ?_
  have hserved : m.served = 0 := by rw [served, hes]; rfl
  have hlt := m.cpu.owed_lt
  rw [overflows, hserved]
  exact Nat.div_eq_of_lt (by omega)

/-- A run that begins with room never goes over the end of the word. -/
lemma Run.overflows_eq_zero (h : Run m ms m') (hroom : Roomy m.cpu) :
    (ms.map overflows).sum = 0 := by
  induction h with
  | nil m => rfl
  | @cons m _ _ _ _ ih =>
    rw [List.map_cons, List.sum_cons, Machine.overflows_eq_zero hroom, Nat.zero_add]
    exact ih ((ticked m).roomy hroom)

/-- Going over the end of the word leaves so little owed that it does not happen again. -/
lemma Run.overflows_le (h : Run m ms m') : (ms.map overflows).sum ≤ 1 := by
  induction h with
  | nil m => exact Nat.zero_le 1
  | @cons m ms _ _ h ih =>
    rw [List.map_cons, List.sum_cons]
    by_cases h0 : m.overflows = 0
    · rwa [h0, Nat.zero_add]
    · rw [h.overflows_eq_zero (roomy_of_overflows h0)]
      exact m.overflows_le

/-! ## Runs -/

/-- What a run adds to the accounts. What is owed is a word of 32 bits: the cycles that a run charges
are those that it pays and those that it owes more in the end, and `2 ^ 32` more if a dispatch has
gone over the end of the word. That happens at most once, and not if there is room to begin with. -/
structure Accounts (m : Machine) (ms : List Machine) (m' : Machine) : Prop where
  charged : m'.cpu.cycles = m.cpu.cycles + ((ms.map price).sum + 20 * (ms.map served).sum)
  paid : (m'.cpu.cycles : Int) - m.cpu.cycles =
    (m'.cpu.owed - m.cpu.owed) + (ms.countP fun m => !m.cpu.isIdle) +
      2 ^ 32 * (ms.map overflows).sum
  once : (ms.map overflows).sum ≤ 1
  fits : Roomy m.cpu → (ms.map overflows).sum = 0
  counted : m'.cpu.instructions = m.cpu.instructions + ms.countP fun m => (tick m).value
  priced : ∀ x ∈ ms, (tick x).value = true → x.price ∈ [4, 8, 12, 16, 20, 24]

/-- The accounts of every run that stops for no fault. -/
lemma Run.accounts (h : Run m ms m') (hp : m'.cpu.isPanicked = false) : Accounts m ms m' := by
  induction h with
  | nil m =>
    exact ⟨by simp, by simp, by simp, fun _ => rfl, by simp, fun _ h => absurd h List.not_mem_nil⟩
  | @cons m ms m' bus h ih =>
    obtain ⟨hc, ho, -, -, hi, hm⟩ := ih hp
    obtain ⟨hc', ho', hi'⟩ := (ticked m).accounts (h.isPanicked hp)
    have hrun := Run.cons bus h
    -- the change of the bus after the tick is not seen by the accounts
    refine ⟨?_, ?_, hrun.overflows_le, hrun.overflows_eq_zero, ?_, ?_⟩
    · rw [hc, hc', List.map_cons, List.map_cons, List.sum_cons, List.sum_cons, price, served]
      omega
    · have hidle : (if !m.cpu.isIdle then 1 else 0) = if m.cpu.isIdle then 0 else 1 := by
        cases m.cpu.isIdle <;> rfl
      rw [← served, ← overflows] at ho'
      change _ - ((tick m).state.cpu.cycles : Int) = _ - ((tick m).state.cpu.owed : Int) + _ + _ at ho
      rw [List.countP_cons, hidle, List.map_cons, List.sum_cons]
      omega
    · rw [hi, hi', List.countP_cons]
      omega
    · intro x hx hv
      obtain rfl | hx := List.mem_cons.mp hx
      · exact price_mem hv
      · exact hm x hx hv

/-- The bounds on what is owed. -/
structure Sparing (cpu : Cpu) : Prop where
  owed : cpu.owed ≤ 43
  enabled : cpu.ime = true → cpu.owed ≤ 23

/-- A new processor owes nothing. -/
lemma Sparing.new (bootMapped : Bool) : Sparing (Cpu.new bootMapped) :=
  ⟨Nat.zero_le 43, nofun⟩

/-- A processor that owes little has room for a dispatch. -/
lemma Sparing.roomy {cpu : Cpu} (h : Sparing cpu) : Roomy cpu := fun hime => by
  have := h.enabled hime
  omega

/-- Settling keeps the bounds, even if they were met only after it pays a cycle. -/
lemma Settled.sparing (h : Settled m m' es) (ho : m.cpu.owed ≤ 44)
    (hi : m.cpu.ime = true → m.cpu.owed ≤ 24) : Sparing m'.cpu := by
  refine ⟨?_, h.enabled_le hi⟩
  have hle := h.owed_le
  -- a dispatch takes enabled interrupts, so that little was owed
  cases hime : m.cpu.ime with
  | false =>
    rw [h.dispatches_of_disabled hime, List.length_nil] at hle
    omega
  | true =>
    have := hi hime
    have := h.dispatches_le
    omega

/-- A tick never makes a processor owe much. -/
lemma Ticked.sparing (h : Ticked m b m' es) (hs : Sparing m.cpu) : Sparing m'.cpu := by
  cases h with
  | panicked _ => exact hs
  | faulted _ hr _ _ =>
    have h0 := stopped_owed hr
    exact ⟨(h0 _).le.trans (Nat.zero_le _), fun _ => (h0 _).le.trans (Nat.zero_le _)⟩
  | executed _ _ hv h =>
    obtain ⟨-, hc⟩ := Instruction.bounds_of_mem (execute_price hv)
    have ho := charged_owed (execute m).state (execute_price hv)
    exact h.sparing (by omega) fun _ => ho.le.trans hc
  | waited _ _ h =>
    exact h.sparing (Nat.le_succ_of_le hs.owed) fun hi => Nat.le_succ_of_le (hs.enabled hi)

/-- A run from a processor that owes little stays there, and never goes over the end of the word. -/
lemma Run.sparing (h : Run m ms m') (hs : Sparing m.cpu) :
    Sparing m'.cpu ∧ ∀ x ∈ ms, x.overflows = 0 := by
  induction h with
  | nil m => exact ⟨hs, fun _ h => absurd h List.not_mem_nil⟩
  | cons bus _ ih =>
    obtain ⟨hend, hms⟩ := ih ((ticked _).sparing hs)
    exact ⟨hend, List.forall_mem_cons.mpr ⟨Machine.overflows_eq_zero hs.roomy, hms⟩⟩

/-- A cycle below the end of the word, a dispatch goes over it. -/
example :
    let bus := ((Bus.new (Clock.steady 0 0)).setIo .interruptEnable 1).setIo .interruptFlag 1
    let m : Machine := ⟨{ Cpu.new false with ime := true, debt := 0xffffffff }, bus⟩
    m.overflows = 1 ∧ (tick m).state.cpu.owed = 18 := by
  decide +kernel

end Machine

end GameBoy
