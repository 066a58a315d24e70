import GameBoy.Machine.Tick
import GameBoy.Proofs.Bus.Effects
import GameBoy.Proofs.Machine.Closed

/-!
# The ways a tick can go

A tick finds a fault, or executes an instruction and then looks at the interrupts, or only looks at
the interrupts while cycles are owed or the processor is halted. The relations `Ticked` and
`Settled` have one constructor for each way, with everything that the tick does in it; `ticked` and
`settled` say that ticks go no other way.
-/

namespace GameBoy

/-- The interrupts whose dispatch a list of events reports. -/
def dispatches (es : List Event) : List Interrupt :=
  es.filterMap fun
    | .notice (.serviced i _) => some i
    | _ => none

/-- The dispatches of two stretches follow each other. -/
lemma dispatches_append (es es' : List Event) :
    dispatches (es ++ es') = dispatches es ++ dispatches es' :=
  List.filterMap_append

/-- The accesses and reports of the bus tell of no dispatch. -/
lemma dispatches_bus {es : List Event} {e' : Event} (he : dispatches [e'] = [])
    (h : ∀ e ∈ es, Bus.isOwnReport e = true ∨ e = e') : dispatches es = [] := by
  induction es with
  | nil => rfl
  | cons e es ih =>
    rw [← List.singleton_append, dispatches_append, ih fun e he => h e (.tail _ he), List.append_nil]
    obtain h | h := h e (.head _)
    -- the record of a dispatch is none of the reports of the bus
    · cases e with
      | notice n => cases n <;> first | rfl | cases h
      | _ => rfl
    · rw [h, he]

/-- What is owed fits into a word of 32 bits. -/
lemma Cpu.owed_lt (cpu : Cpu) : cpu.owed < 2 ^ 32 := cpu.debt.toNat_lt

namespace Machine

/-- The machine after paying one cycle. -/
def paid (m : Machine) : Machine := { m with cpu := m.cpu.pay }

/-- The machine after executing an instruction of the given price. -/
def charged (m : Machine) (cost : Nat) : Machine := { m with cpu := m.cpu.charge cost }

/-- The machine that a fault stopped. -/
def stopped (m : Machine) (fault : Fault) : Machine :=
  { m with cpu := { m.cpu with fault := some fault } }

/-- The ways of paying a cycle and looking at the interrupts. -/
inductive Settled (m : Machine) : Machine → List Event → Prop where
  | quiet : m.pending = none → Settled m m.paid []
  | woken {i es} : m.pending = some i → m.cpu.ime = false → dispatches es = [] →
    Settled m { m with cpu := { m.cpu.pay with halted := false } } es
  | dispatched {i} : m.pending = some i → m.cpu.ime = true →
    Settled m (dispatch i m.paid).state (dispatch i m.paid).events

/-- The ways of a tick. -/
inductive Ticked (m : Machine) : Bool → Machine → List Event → Prop where
  | panicked : m.cpu.isPanicked = true → Ticked m false m []
  | faulted {fault es} : m.cpu.isPanicked = false → m.cpu.isReady = true →
    (execute m).value = .error fault → dispatches es = [] →
    Ticked m false ((execute m).state.stopped fault) ((execute m).events ++ es)
  | executed {cost m' es} : m.cpu.isPanicked = false → m.cpu.isReady = true →
    (execute m).value = .ok cost → Settled ((execute m).state.charged cost) m' es →
    Ticked m true m' ((execute m).events ++ es)
  | waited {m' es} : m.cpu.isPanicked = false → m.cpu.isReady = false → Settled m m' es →
    Ticked m false m' es

/-- Nothing is serviced when nothing is pending. -/
lemma serviceInterrupts_none {m : Machine} (h : m.pending = none) :
    serviceInterrupts m = ⟨none, m, []⟩ := by
  simp [serviceInterrupts, h]

/-- With the master enable a pending interrupt is dispatched. -/
lemma serviceInterrupts_dispatch {m : Machine} {i : Interrupt} (h : m.pending = some i)
    (hi : m.cpu.ime = true) :
    serviceInterrupts m = ⟨some i, (dispatch i m).state, (dispatch i m).events⟩ := by
  simp [serviceInterrupts, h, hi]

/-- Without the master enable a pending interrupt ends a halt. -/
lemma serviceInterrupts_halted {m : Machine} {i : Interrupt} (h : m.pending = some i)
    (hi : m.cpu.ime = false) (hh : m.cpu.halted = true) :
    serviceInterrupts m =
      ⟨none, { m with cpu := { m.cpu with halted := false } }, [.notice (.haltLeft i)]⟩ := by
  simp [serviceInterrupts, h, hi, hh, modifyCpu]

/-- Without the master enable nothing is dispatched, and a processor does not stay halted. -/
lemma serviceInterrupts_wake {m : Machine} {i : Interrupt} (h : m.pending = some i)
    (hi : m.cpu.ime = false) :
    ∃ es, dispatches es = [] ∧
      serviceInterrupts m = ⟨none, { m with cpu := { m.cpu with halted := false } }, es⟩ := by
  cases hh : m.cpu.halted with
  | true => exact ⟨_, rfl, serviceInterrupts_halted h hi hh⟩
  | false =>
    -- a processor that does not halt has nothing to wake from
    have e : { m with cpu := { m.cpu with halted := false } } = m := by rw [← hh]
    exact ⟨[], rfl, by rw [e]; simp [serviceInterrupts, h, hi, hh]⟩

/-- Settling pays a cycle and looks at the interrupts. -/
lemma settle_apply (m : Machine) :
    settle m = ⟨(), (serviceInterrupts m.paid).state, (serviceInterrupts m.paid).events⟩ := by
  change (modifyCpu Cpu.pay >>= fun _ => (fun _ => ()) <$> serviceInterrupts) m = _
  simp [paid, modifyCpu]

/-- Every way to settle. -/
lemma settled (m : Machine) : Settled m (settle m).state (settle m).events := by
  rw [settle_apply]
  cases h : m.pending with
  | none =>
    rw [serviceInterrupts_none (m := m.paid) h]
    exact .quiet h
  | some i =>
    cases hi : m.cpu.ime with
    | true =>
      rw [serviceInterrupts_dispatch (m := m.paid) h hi]
      exact .dispatched h hi
    | false =>
      obtain ⟨es, hes, e⟩ := serviceInterrupts_wake (m := m.paid) h hi
      rw [e]
      exact .woken h hi hes

section

variable {m : Machine}

/-- A processor with a fault does nothing. -/
lemma tick_of_isPanicked (hp : m.cpu.isPanicked = true) : tick m = ⟨false, m, []⟩ := by
  simp [tick, hp]

/-- A processor that is halted or owes something settles. -/
lemma tick_of_waiting (hp : m.cpu.isPanicked = false) (hr : m.cpu.isReady = false) :
    tick m = ⟨false, (settle m).state, (settle m).events⟩ := by
  simp [tick, hp, hr]

/-- An execution that finds a fault ends the tick with two records. -/
lemma tick_of_error {fault : Fault} (hp : m.cpu.isPanicked = false) (hr : m.cpu.isReady = true)
    (hv : (execute m).value = .error fault) :
    tick m = ⟨false, (execute m).state.stopped fault, (execute m).events ++
      [.notice (.cpuFault fault), .notice (.dump .cpu (execute m).state.cpu.dump)]⟩ := by
  simp [tick, hp, hr, hv, latch, modifyCpu, stopped]

/-- An execution is charged for and then settled. -/
lemma tick_of_ok {cost : Nat} (hp : m.cpu.isPanicked = false) (hr : m.cpu.isReady = true)
    (hv : (execute m).value = .ok cost) :
    tick m = ⟨true, (settle ((execute m).state.charged cost)).state,
      (execute m).events ++ (settle ((execute m).state.charged cost)).events⟩ := by
  simp [tick, hp, hr, hv, modifyCpu, charged]

end

/-- Every way to tick. -/
theorem ticked (m : Machine) : Ticked m (tick m).value (tick m).state (tick m).events := by
  cases hp : m.cpu.isPanicked with
  | true =>
    rw [tick_of_isPanicked hp]
    exact .panicked hp
  | false =>
    cases hr : m.cpu.isReady with
    | true =>
      cases hv : (execute m).value with
      | error fault =>
        rw [tick_of_error hp hr hv]
        exact .faulted hp hr hv rfl
      | ok cost =>
        rw [tick_of_ok hp hr hv]
        exact .executed hp hr hv (settled _)
    | false =>
      rw [tick_of_waiting hp hr]
      exact .waited hp hr (settled m)

/-- The ways of a tick that is known to execute an instruction, or not to. -/
lemma ticked_of_value {m : Machine} {b : Bool} (h : (tick m).value = b) :
    Ticked m b (tick m).state (tick m).events := by
  rw [← h]
  exact ticked m

/-! ## What every instruction and every dispatch leaves alone -/

/-- No instruction touches the accounts of the processor, its faults included. -/
lemma execute_ledger (m : Machine) : (execute m).state.cpu.ledger = m.cpu.ledger := by
  have hR : Closed fun m (_ : List Event) m' => m'.cpu.ledger = m.cpu.ledger :=
    { refl := fun _ => rfl
      trans := fun h h' => h'.trans h
      cpu := fun _ _ h => h
      note := fun _ _ _ => rfl
      read := fun _ _ => rfl
      write := fun _ _ _ => rfl }
  exact execute_ensures hR (fun _ => rfl) m

/-- No instruction touches what is owed. -/
lemma execute_debt (m : Machine) : (execute m).state.cpu.debt = m.cpu.debt :=
  congrArg (·.1) (execute_ledger m)

/-- No instruction touches the number of what is owed. -/
lemma execute_owed (m : Machine) : (execute m).state.cpu.owed = m.cpu.owed :=
  congrArg UInt32.toNat (execute_debt m)

/-- No instruction latches a fault of the processor. -/
lemma execute_fault_eq (m : Machine) : (execute m).state.cpu.fault = m.cpu.fault :=
  congrArg (·.2.2.1) (execute_ledger m)

/-- No instruction charges for itself. -/
lemma execute_cycles (m : Machine) : (execute m).state.cpu.cycles = m.cpu.cycles :=
  congrArg (·.2.2.2.1) (execute_ledger m)

/-- No instruction counts itself. -/
lemma execute_instructions (m : Machine) :
    (execute m).state.cpu.instructions = m.cpu.instructions :=
  congrArg (·.2.2.2.2) (execute_ledger m)

/-- Nothing that instructions are made of reports a dispatch. -/
lemma dispatchless : Closed fun (_ : Machine) es (_ : Machine) => dispatches es = [] where
  refl := fun _ => rfl
  trans := fun h h' => by rw [dispatches_append, h, h', List.append_nil]
  cpu := fun _ _ _ => rfl
  note := fun _ n h => by cases n <;> first | rfl | cases h
  read := fun addr m => dispatches_bus rfl (m.bus.read_events addr).2
  write := fun addr v m => dispatches_bus rfl (m.bus.write_events addr v).2

/-- No instruction dispatches an interrupt. -/
lemma execute_dispatches (m : Machine) : dispatches (execute m).events = [] := by
  refine execute_ensures dispatchless (fun m => ?_) m
  have he : dispatches [.echo 0] = [] := rfl
  exact dispatches_bus he fun e h => .inl (Bus.disableBoot_reports m.bus e h)

/-- The machine that took note of an interrupt and is about to call its routine. -/
def acknowledged (m : Machine) (i : Interrupt) : Machine where
  cpu := { m.cpu with ime := false, halted := false }
  bus := m.bus.setIo .interruptFlag (m.bus.io .interruptFlag &&& ~~~i.bit)

/-- A dispatch tells of its push, and then of itself. -/
lemma dispatch_events (i : Interrupt) (m : Machine) :
    (dispatch i m).events =
      (push m.cpu.registers.pc (m.acknowledged i)).events ++
        [.notice (.serviced i m.cpu.registers.pc)] :=
  rfl

/-- A dispatch does to the bus what its push does, behind the acknowledgement. -/
lemma dispatch_bus (i : Interrupt) (m : Machine) :
    (dispatch i m).state.bus = (push m.cpu.registers.pc (m.acknowledged i)).state.bus :=
  rfl

/-- A dispatch changes the processor in no other way than these. -/
lemma dispatch_cpu (i : Interrupt) (m : Machine) :
    (dispatch i m).state.cpu =
      { m.cpu with
        registers := { m.cpu.registers with sp := m.cpu.registers.sp - 2, pc := i.vector }
        ime := false
        halted := false
        debt := m.cpu.debt + UInt32.ofNat dispatchCost
        cycles := m.cpu.cycles + dispatchCost } :=
  rfl

/-- A dispatch charges for itself in a word of 32 bits, whether the sum fits or not. -/
lemma dispatch_owed (i : Interrupt) (m : Machine) :
    (dispatch i m).state.cpu.owed = (m.cpu.owed + 20) % 2 ^ 32 :=
  UInt32.toNat_add m.cpu.debt 20

/-- A dispatch reports itself. -/
lemma dispatch_dispatches (i : Interrupt) (m : Machine) :
    dispatches (dispatch i m).events = [i] := by
  rw [dispatch_events, dispatches_append, (Made.push _).ensures dispatchless (m.acknowledged i)]
  rfl

/-! ## Faults -/

section

variable {m m' : Machine} {b : Bool} {es : List Event}

/-- A processor that has not stopped has no fault. -/
lemma fault_of_isPanicked (h : m.cpu.isPanicked = false) : m.cpu.fault = none := by
  cases hf : m.cpu.fault with
  | none => rfl
  | some fault =>
    rw [Cpu.isPanicked, hf] at h
    cases h

/-- A processor without a fault has not stopped. -/
lemma isPanicked_of_none (h : m.cpu.fault = none) : m.cpu.isPanicked = false := by
  rw [Cpu.isPanicked, h]
  rfl

/-- A processor with a fault has stopped. -/
lemma isPanicked_of_some {fault : Fault} (h : m.cpu.fault = some fault) :
    m.cpu.isPanicked = true := by
  rw [Cpu.isPanicked, h]
  rfl

/-- Settling latches no fault. -/
lemma Settled.fault (h : Settled m m' es) : m'.cpu.fault = m.cpu.fault := by
  cases h <;> rfl

/-- Settling executes nothing, so that the last price stays. -/
lemma Settled.lastCost (h : Settled m m' es) : m'.cpu.lastCost = m.cpu.lastCost := by
  cases h <;> rfl

/-- A tick that executes an instruction finds no fault. -/
lemma Ticked.fault (h : Ticked m true m' es) : m'.cpu.fault = none := by
  cases h with
  | executed hp _ _ hs =>
    rw [hs.fault]
    exact (execute_fault_eq m).trans (fault_of_isPanicked hp)

/-- Only a processor that is ready executes something. -/
lemma Ticked.isReady (h : Ticked m true m' es) : m.cpu.isReady = true := by
  cases h with
  | executed _ hr _ _ => exact hr

/-- Only a processor that is ready executes something. -/
lemma isReady_of_tick (h : (tick m).value = true) : m.cpu.isReady = true :=
  (ticked_of_value h).isReady

/-- A tick of a ready processor executes an instruction or finds a fault. -/
lemma Ticked.of_isReady (h : Ticked m b m' es) (hp : m.cpu.isPanicked = false)
    (hr : m.cpu.isReady = true) : b = true ∨ m'.cpu.isPanicked = true := by
  cases h with
  | panicked h => cases h.symm.trans hp
  | faulted _ _ _ _ => exact .inr rfl
  | executed _ _ _ _ => exact .inl rfl
  | waited _ h _ => cases h.symm.trans hr

/-- A processor with a fault never loses it. -/
lemma Ticked.isPanicked (h : Ticked m b m' es) (hp : m'.cpu.isPanicked = false) :
    m.cpu.isPanicked = false := by
  cases h with
  | panicked _ => exact hp
  | faulted h _ _ _ | executed h _ _ _ | waited h _ _ => exact h

/-- A processor that has stopped stays as it is. -/
lemma Ticked.panicked_cpu (h : Ticked m b m' es) (hp : m.cpu.isPanicked = true) :
    m'.cpu = m.cpu ∧ b = false := by
  cases h with
  | panicked _ => exact ⟨rfl, rfl⟩
  | faulted h _ _ _ | executed h _ _ _ | waited h _ _ => cases h.symm.trans hp

end

/-! ## Runs -/

/-- A run of ticks, with arbitrary changes of the bus after each of them. The list has the machines
in which the ticks begin. -/
inductive Run : Machine → List Machine → Machine → Prop where
  | nil (m) : Run m [] m
  | cons {m ms m'} (bus : Bus) : Run { (tick m).state with bus } ms m' → Run m (m :: ms) m'

variable {m m' : Machine} {ms : List Machine}

/-- A run goes on by one tick. -/
lemma Run.snoc (h : Run m ms m') (bus : Bus) :
    Run m (ms ++ [m']) { (tick m').state with bus } := by
  induction h with
  | nil m => exact .cons bus (.nil _)
  | cons bus' _ ih => exact .cons bus' ih

/-- A processor that has not stopped in the end had not stopped before. -/
lemma Run.isPanicked (h : Run m ms m') (hp : m'.cpu.isPanicked = false) :
    m.cpu.isPanicked = false := by
  induction h with
  | nil m => exact hp
  | cons bus _ ih => exact (ticked _).isPanicked (ih hp)

/-- After a fault nothing happens any more. -/
lemma Run.panicked_cpu (h : Run m ms m') (hp : m.cpu.isPanicked = true) : m'.cpu = m.cpu := by
  induction h with
  | nil m => rfl
  | @cons m _ _ bus _ ih =>
    obtain ⟨e, -⟩ := (ticked m).panicked_cpu hp
    exact (ih ((congrArg Cpu.isPanicked e).trans hp)).trans e

/-- The machine after some ticks without changes from outside. -/
def after (m : Machine) : Nat → Machine
  | 0 => m
  | n + 1 => (tick (after m n)).state

/-- Ticks without changes from outside are a run. -/
lemma run_after (m : Machine) (n : Nat) : Run m ((List.range n).map m.after) (m.after n) := by
  induction n with
  | zero => exact .nil m
  | succ n ih =>
    rw [List.range_succ, List.map_append]
    exact ih.snoc (m.after (n + 1)).bus

end Machine

end GameBoy
