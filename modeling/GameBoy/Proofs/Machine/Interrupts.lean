import GameBoy.Proofs.Machine.Ticked

/-!
# Interrupts along runs

A tick dispatches at most one interrupt, the most urgent of those that are requested and enabled
when it looks at them (`atService`). Nothing but the dispatch and a write to the request register
takes a request back (`Granting`). After a dispatch the processor is bound for the service routine
until it executes an instruction (`Bound`), since it can be neither interrupted nor halted on the
way.
-/

namespace GameBoy

namespace Interrupt

/-- The number of the bit of a source. -/
def number : Interrupt → Nat
  | .vblank => 0 | .lcdStat => 1 | .timer => 2 | .serial => 3 | .joypad => 4

/-- A source has the lowest of the bits that are set. -/
def IsLowest (i : Interrupt) (bits : UInt8) : Prop :=
  bits.toNat.testBit i.number = true ∧ ∀ n < i.number, bits.toNat.testBit n = false

instance (i : Interrupt) (bits : UInt8) : Decidable (i.IsLowest bits) :=
  inferInstanceAs (Decidable (_ ∧ _))

/-- The first interrupt of some bits is the lowest one of the five. -/
lemma highest_spec (bits : UInt8) :
    (∀ i, highest bits = some i → i.IsLowest (bits &&& 0x1f)) ∧
      (highest bits = none → bits &&& 0x1f = 0) := by
  have hall : ∀ bits, (∀ i ∈ highest bits, i.IsLowest (bits &&& 0x1f)) ∧
      (highest bits = none → bits &&& 0x1f = 0) :=
    Word.forall_byte (by decide +kernel)
  exact hall bits

/-- Taking note of an interrupt clears its bit and no other. -/
lemma testBit_clear (i : Interrupt) (bits : UInt8) (n : Nat) :
    (bits &&& ~~~i.bit).toNat.testBit n = (bits.toNat.testBit n && n != i.number) := by
  have hbit : i.bit.toNat = 2 ^ i.number := by cases i <;> rfl
  rw [Word.testBit_clear, hbit, Nat.testBit_two_pow, bne_comm]
  rfl

end Interrupt

namespace Bus

/-- The interrupts that are requested and enabled, a bit each. -/
def waiting (bus : Bus) : UInt8 := bus.io .interruptEnable &&& bus.io .interruptFlag &&& 0x1f

/-- Whether a bit of the request register is set. -/
def requests (bus : Bus) (n : Nat) : Bool := (bus.io .interruptFlag).toNat.testBit n

/-- Marking an interrupt as requested takes no request back. -/
lemma requests_request {bus : Bus} {n : Nat} (i : Interrupt) (h : bus.requests n = true) :
    (bus.request i).requests n = true := by
  rw [requests, request, io, setIo, Store.get_set_self, Word.testBit_or]
  rw [requests] at h
  rw [h, Bool.true_or]

/-- A reading withdraws no request. -/
lemma requests_read {bus : Bus} {n : Nat} (addr : UInt16) (h : bus.requests n = true) :
    (read addr bus).state.requests n = true := by
  rw [read_state]
  split
  · unfold afterLine
    dsimp only
    split
    · exact requests_request .vblank h
    · exact h
  · exact h

end Bus

namespace Machine

variable {m m' : Machine} {b : Bool} {es : List Event} {ms : List Machine} {n : Nat}

/-- The machine in which a tick looks at the interrupts, if it comes to that. -/
def atService (m : Machine) : Option Machine :=
  if m.cpu.isPanicked then none
  else if m.cpu.isReady then
    match (execute m).value with
    | .ok cost => some ((execute m).state.charged cost).paid
    | .error _ => none
  else some m.paid

/-! ## Dispatching -/

/-- A look at the interrupts serves the lowest one that waits, if it serves any. -/
lemma Settled.served (h : Settled m m' es) :
    dispatches es = [] ∨
      ∃ i, dispatches es = [i] ∧ m.cpu.ime = true ∧ i.IsLowest m.bus.waiting := by
  cases h with
  | quiet _ => exact .inl rfl
  | woken _ _ hes => exact .inl hes
  | @dispatched i hp hi => exact .inr ⟨i, dispatch_dispatches i _, hi, (Interrupt.highest_spec _).1 i hp⟩

/-- A tick serves the lowest one that waits at its look at the interrupts, if it serves any. -/
lemma Ticked.served (h : Ticked m b m' es) :
    dispatches es = [] ∨
      ∃ s i, m.atService = some s ∧ dispatches es = [i] ∧ s.cpu.ime = true ∧
        i.IsLowest s.bus.waiting := by
  cases h with
  | panicked _ => exact .inl rfl
  | faulted _ _ _ hes =>
    rw [dispatches_append, execute_dispatches, hes]
    exact .inl rfl
  | @executed cost _ es hp hr hv hs =>
    rw [dispatches_append, execute_dispatches, List.nil_append]
    obtain hes | ⟨i, hes, hi, hl⟩ := hs.served
    · exact .inl hes
    · refine .inr ⟨((execute m).state.charged cost).paid, i, ?_, hes, hi, hl⟩
      simp [atService, hp, hr, hv]
  | waited hp hr hs =>
    obtain hes | ⟨i, hes, hi, hl⟩ := hs.served
    · exact .inl hes
    · exact .inr ⟨m.paid, i, by simp [atService, hp, hr], hes, hi, hl⟩

/-- A tick ends as a look at the interrupts does at the moment of service. -/
lemma tick_atService {s : Machine} (h : m.atService = some s) :
    (tick m).state = (serviceInterrupts s).state := by
  unfold atService at h
  cases hp : m.cpu.isPanicked with
  | true => simp [hp] at h
  | false =>
    cases hr : m.cpu.isReady with
    | true =>
      cases hv : (execute m).value with
      | error fault => simp [hp, hr, hv] at h
      | ok cost =>
        simp only [hp, hr, hv, Bool.false_eq_true, if_false, if_true, Option.some.injEq] at h
        subst h
        rw [tick_of_ok hp hr hv, settle_apply]
    | false =>
      simp only [hp, hr, Bool.false_eq_true, if_false, Option.some.injEq] at h
      subst h
      rw [tick_of_waiting hp hr, settle_apply]

/-! ## Requests -/

/-- Whether the events have a write to the request register. -/
def WritesFlag (es : List Event) : Prop := ∃ v, .write 0xff0f v ∈ es

/-- Writing the flags in one of two stretches is writing them in both. -/
lemma WritesFlag.append {es es' : List Event} (h : WritesFlag es ∨ WritesFlag es') :
    WritesFlag (es ++ es') := by
  obtain ⟨v, h⟩ | ⟨v, h⟩ := h
  · exact ⟨v, List.mem_append_left _ h⟩
  · exact ⟨v, List.mem_append_right _ h⟩

/-- A request is kept as it is, unless the register is written. -/
def Keeps (n : Nat) (m : Machine) (es : List Event) (m' : Machine) : Prop :=
  m'.bus.requests n = m.bus.requests n ∨ WritesFlag es

/-- A request is not taken back, unless the register is written. -/
def Grants (n : Nat) (m : Machine) (es : List Event) (m' : Machine) : Prop :=
  m.bus.requests n = true → m'.bus.requests n = true ∨ WritesFlag es

/-- What keeps a request grants it. -/
lemma Keeps.grants (h : Keeps n m es m') : Grants n m es m' := by
  intro hn
  obtain h | h := h
  · exact .inl (h.trans hn)
  · exact .inr h

/-- Keeping a request composes. -/
lemma keeps_composes (n : Nat) : Composes (Keeps n) where
  refl _ := .inl rfl
  trans h h' := by
    obtain h | h := h
    · obtain h' | h' := h'
      · exact .inl (h'.trans h)
      · exact .inr (.append (.inr h'))
    · exact .inr (.append (.inl h))

/-- Writing a byte withdraws no request but by the flags. -/
lemma writeByte_keeps (n : Nat) (addr : UInt16) (v : UInt8) : (writeByte addr v).Ensures (Keeps n) := by
  intro m
  by_cases h : addr = 0xff0f
  · rw [h]
    exact .inr ⟨v, (m.bus.write_events _ v).1⟩
  · refine .inl (congrArg (fun flag : UInt8 => flag.toNat.testBit n) ?_)
    exact m.bus.write_io v (r := .interruptFlag) h

/-- A push withdraws no request but by the flags. -/
lemma push_keeps (n : Nat) (v : UInt16) : (push v).Ensures (Keeps n) := by
  have hC := keeps_composes n
  exact .bind hC (fun m => hC.refl m) fun _ => .bind hC (writeByte_keeps n _ _) fun _ =>
    .bind hC (writeByte_keeps n _ _) fun _ m => .inl rfl

/-- No instruction takes a request back, except by writing the register. -/
lemma grants_closed (n : Nat) : Closed (Grants n) where
  refl _ h := .inl h
  trans h h' hn := by
    obtain h | h := h hn
    · obtain h' | h' := h' h
      · exact .inl h'
      · exact .inr (.append (.inr h'))
    · exact .inr (.append (.inl h))
  cpu _ _ _ h := .inl h
  note _ _ _ h := .inl h
  read addr m h := .inl (Bus.requests_read addr h)
  write addr v m := (writeByte_keeps n addr v m).grants

/-- An execution withdraws no request but by the flags. -/
lemma execute_grants (n : Nat) (m : Machine) : Grants n m (execute m).events (execute m).state := by
  refine execute_ensures (grants_closed n) (fun m h => .inl ?_) m
  change (Bus.disableBoot m.bus).state.requests n = true
  rw [Bus.disableBoot_state]
  exact h

/-- A dispatch takes back the request that it grants, unless its push hits the register. -/
lemma dispatch_clears (i : Interrupt) (m : Machine) :
    (dispatch i m).state.bus.requests i.number = false ∨ WritesFlag (dispatch i m).events := by
  rw [dispatch_bus, dispatch_events]
  -- the bit is cleared before the push, which may hit the register
  obtain h | h := push_keeps i.number m.cpu.registers.pc (m.acknowledged i)
  · refine .inl (h.trans ?_)
    rw [Bus.requests, acknowledged, Bus.io, Bus.setIo, Store.get_set_self]
    rw [Interrupt.testBit_clear, bne_self_eq_false, Bool.and_false]
  · exact .inr (.append (.inl h))

/-- A dispatch takes back no other request, unless its push hits the register. -/
lemma dispatch_grants {i : Interrupt} (hi : n ≠ i.number) (m : Machine) :
    Grants n m (dispatch i m).events (dispatch i m).state := by
  intro hn
  rw [dispatch_bus, dispatch_events]
  have hack : (m.acknowledged i).bus.requests n = true := by
    rw [Bus.requests, acknowledged, Bus.io, Bus.setIo, Store.get_set_self]
    rw [Interrupt.testBit_clear, bne_iff_ne.mpr hi, Bool.and_true]
    exact hn
  obtain h | h := (push_keeps n m.cpu.registers.pc (m.acknowledged i)).grants hack
  · exact .inl h
  · exact .inr (.append (.inl h))

/-- A look at the interrupts withdraws a request by serving it only. -/
lemma Settled.grants (h : Settled m m' es) (hn : m.bus.requests n = true) :
    m'.bus.requests n = true ∨ (∃ i ∈ dispatches es, i.number = n) ∨ WritesFlag es := by
  cases h with
  | quiet _ => exact .inl hn
  | woken _ _ _ => exact .inl hn
  | @dispatched i _ _ =>
    by_cases hi : n = i.number
    · exact .inr (.inl ⟨i, by rw [dispatch_dispatches]; exact .head _, hi.symm⟩)
    · obtain h | h := dispatch_grants hi m.paid hn
      · exact .inl h
      · exact .inr (.inr h)

/-- A tick withdraws a request by serving it only, or by a write to the flags. -/
lemma Ticked.grants (h : Ticked m b m' es) (hn : m.bus.requests n = true) :
    m'.bus.requests n = true ∨ (∃ i ∈ dispatches es, i.number = n) ∨ WritesFlag es := by
  have he := execute_grants n m hn
  cases h with
  | panicked _ => exact .inl hn
  | faulted _ _ _ _ =>
    obtain h | h := he
    · exact .inl h
    · exact .inr (.inr (.append (.inl h)))
  | executed _ _ _ hs =>
    obtain h | h := he
    · obtain h | ⟨i, hi, e⟩ | h := hs.grants h
      · exact .inl h
      · refine .inr (.inl ⟨i, ?_, e⟩)
        rw [dispatches_append]
        exact List.mem_append_right _ hi
      · exact .inr (.inr (.append (.inr h)))
    · exact .inr (.inr (.append (.inl h)))
  | waited _ _ hs => exact hs.grants hn

/-- A look at the interrupts that serves one clears its request, unless the flags are written. -/
lemma Settled.clears (h : Settled m m' es) {i : Interrupt} (hi : i ∈ dispatches es) :
    m'.bus.requests i.number = false ∨ WritesFlag es := by
  cases h with
  | quiet _ => cases hi
  | woken _ _ hes =>
    rw [hes] at hi
    cases hi
  | @dispatched j _ _ =>
    rw [dispatch_dispatches, List.mem_singleton] at hi
    subst hi
    exact dispatch_clears i m.paid

/-- A tick that serves an interrupt clears its request, unless the flags are written. -/
lemma Ticked.clears (h : Ticked m b m' es) {i : Interrupt} (hi : i ∈ dispatches es) :
    m'.bus.requests i.number = false ∨ WritesFlag es := by
  cases h with
  | panicked _ => cases hi
  | faulted _ _ _ hes =>
    rw [dispatches_append, execute_dispatches, hes] at hi
    cases hi
  | executed _ _ _ hs =>
    rw [dispatches_append, execute_dispatches] at hi
    obtain h | h := hs.clears hi
    · exact .inl h
    · exact .inr (.append (.inr h))
  | waited _ _ hs => exact hs.clears hi

/-! ## Nothing is left to serve -/

/-- Behind a look at the interrupts a processor that may be interrupted has nothing waiting. -/
lemma Settled.exhausted (h : Settled m m' es) (hi : m'.cpu.ime = true ∨ m'.cpu.halted = true) :
    m'.bus.waiting = 0 := by
  cases h with
  | quiet hp => exact (Interrupt.highest_spec _).2 hp
  | woken _ hime _ =>
    obtain h | h := hi
    · cases hime.symm.trans h
    · cases h
  | dispatched _ _ =>
    rw [dispatch_cpu] at hi
    obtain h | h := hi <;> cases h

/-- Behind a tick a processor that may be interrupted has nothing waiting. -/
lemma Ticked.exhausted (h : Ticked m b m' es) (hp : m'.cpu.fault = none)
    (hi : m'.cpu.ime = true ∨ m'.cpu.halted = true) : m'.bus.waiting = 0 := by
  cases h with
  | panicked h => cases h.symm.trans (isPanicked_of_none hp)
  | faulted _ _ _ _ => cases hp
  | executed _ _ _ hs | waited _ _ hs => exact hs.exhausted hi

/-! ## The way to the service routine -/

/-- The processor is bound for an address and nothing can stop it but a fault. -/
structure Headed (addr : UInt16) (cpu : Cpu) : Prop where
  pc : cpu.registers.pc = addr
  ime : cpu.ime = false
  halted : cpu.halted = false
  fault : cpu.fault = none

/-- A fault of an execution names the program counter. -/
lemma execute_fault {fault : Fault} (h : (execute m).value = .error fault) :
    fault.addr = m.cpu.registers.pc := by
  obtain ⟨fault', hv, ha⟩ | ⟨i, flags, hv⟩ := execute_value m
  · cases h.symm.trans hv
    exact ha
  · cases h.symm.trans hv

/-- A dispatched interrupt sends the processor to its vector. -/
lemma Settled.headed {i : Interrupt} (h : Settled m m' es) (hi : i ∈ dispatches es)
    (hf : m.cpu.fault = none) : Headed i.vector m'.cpu := by
  cases h with
  | quiet _ => cases hi
  | woken _ _ hes =>
    rw [hes] at hi
    cases hi
  | dispatched _ _ =>
    rw [dispatch_dispatches, List.mem_singleton] at hi
    subst hi
    exact ⟨rfl, rfl, rfl, hf⟩

/-- A dispatch sets the processor on its way to the service routine. -/
lemma Ticked.headed {i : Interrupt} (h : Ticked m b m' es) (hi : i ∈ dispatches es) :
    Headed i.vector m'.cpu := by
  cases h with
  | panicked _ => cases hi
  | faulted _ _ _ hes =>
    rw [dispatches_append, execute_dispatches, hes] at hi
    cases hi
  | executed hp _ _ hs =>
    rw [dispatches_append, execute_dispatches] at hi
    exact hs.headed hi ((execute_fault_eq m).trans (fault_of_isPanicked hp))
  | waited hp _ hs => exact hs.headed hi (fault_of_isPanicked hp)

/-- On the way, a tick without an execution pays a cycle, or it finds a fault where the way ends. -/
lemma Ticked.headed_wait {addr : UInt16} (h : Ticked m false m' es) (hb : Headed addr m.cpu) :
    (Headed addr m'.cpu ∧ m'.cpu.owed + 1 = m.cpu.owed) ∨
      ∃ fault, m'.cpu.fault = some fault ∧ fault.addr = addr := by
  cases h with
  | panicked hp => cases hp.symm.trans (isPanicked_of_none hb.fault)
  | @faulted fault es _ _ hv _ => exact .inr ⟨fault, rfl, (execute_fault hv).trans hb.pc⟩
  | waited _ hr hs =>
    -- it does not halt, so that it waits because something is owed
    have ho : m.cpu.owed ≠ 0 := fun h0 => by
      cases hr.symm.trans (Cpu.isReady_iff.mpr ⟨hb.halted, h0⟩)
    have hpay : m.paid.cpu.owed + 1 = m.cpu.owed := by
      have : m.paid.cpu.owed = m.cpu.owed - 1 := m.cpu.owed_pay
      omega
    cases hs with
    | quiet _ => exact .inl ⟨⟨hb.pc, hb.ime, hb.halted, hb.fault⟩, hpay⟩
    | woken _ _ _ => exact .inl ⟨⟨hb.pc, hb.ime, rfl, hb.fault⟩, hpay⟩
    | dispatched _ hi => cases hi.symm.trans hb.ime

/-- A run that executes nothing stays on its way, and pays a cycle with every tick, unless it stops.
-/
lemma Run.headed {addr : UInt16} (h : Run m ms m') (hb : Headed addr m.cpu)
    (hv : ∀ x ∈ ms, (tick x).value = false) :
    (Headed addr m'.cpu ∧ m'.cpu.owed + ms.length = m.cpu.owed) ∨
      ∃ fault, m'.cpu.fault = some fault ∧ fault.addr = addr := by
  induction h with
  | nil m => exact .inl ⟨hb, rfl⟩
  | @cons m ms m' bus h ih =>
    have ht := ticked_of_value (hv m (.head _))
    obtain ⟨hb', ho⟩ | ⟨fault, hf, ha⟩ := ht.headed_wait hb
    · obtain ⟨hb', ho'⟩ | hf := ih hb' fun x hx => hv x (.tail _ hx)
      · refine .inl ⟨hb', ?_⟩
        change _ = (tick m).state.cpu.owed at ho'
        rw [List.length_cons]
        omega
      · exact .inr hf
    -- the fault stays for the rest of the run
    · refine .inr ⟨fault, ?_, ha⟩
      rw [h.panicked_cpu (isPanicked_of_some hf)]
      exact hf

/-- Where a run of waiting ticks ends, the next instruction is the one at the address, once nothing
is owed any more. -/
lemma Run.reaches {addr : UInt16} (h : Run m ms m') (hb : Headed addr m.cpu)
    (hv : ∀ x ∈ ms, (tick x).value = false) :
    ((tick m').value = true → m'.cpu.registers.pc = addr ∧ ms.length = m.cpu.owed) ∧
    (∀ fault, (tick m').state.cpu.fault = some fault → fault.addr = addr) ∧
    (m.cpu.owed ≤ ms.length →
      (tick m').value = true ∨ (tick m').state.cpu.isPanicked = true) := by
  obtain ⟨hb, ho⟩ | ⟨fault, hf, ha⟩ := h.headed hb hv
  -- the processor is still on its way
  · refine ⟨fun hv' => ⟨hb.pc, ?_⟩, fun fault hf => ?_, fun hl => ?_⟩
    · have h0 := (Cpu.isReady_iff.mp (isReady_of_tick hv')).2
      omega
    · cases hv' : (tick m').value with
      | true => cases hf.symm.trans (ticked_of_value hv').fault
      | false =>
        obtain ⟨hb', -⟩ | ⟨fault', hf', ha⟩ := (ticked_of_value hv').headed_wait hb
        · cases hf.symm.trans hb'.fault
        · cases hf.symm.trans hf'
          exact ha
    · refine (ticked m').of_isReady (isPanicked_of_none hb.fault) ?_
      exact Cpu.isReady_iff.mpr ⟨hb.halted, by omega⟩
  -- it found a fault on the way
  · have hp := isPanicked_of_some hf
    obtain ⟨hc, hv'⟩ := (ticked m').panicked_cpu hp
    rw [hc]
    refine ⟨fun h => ?_, fun fault' hf' => ?_, fun _ => .inr hp⟩
    · cases hv'.symm.trans h
    · cases hf.symm.trans hf'
      exact ha

/-- What holds of the interrupts in every tick: at most one is dispatched, the lowest-numbered one
of those that are requested and enabled when the tick looks at them; no other request is taken back,
unless the tick writes the register, and the one dispatched is; and none is left that should have
been dispatched or should have ended a halt. -/
structure Serves (m : Machine) : Prop where
  one : dispatches (tick m).events = [] ∨ ∃ s i, m.atService = some s ∧
    dispatches (tick m).events = [i] ∧ s.cpu.ime = true ∧ i.IsLowest s.bus.waiting
  moment : ∀ s, m.atService = some s → (tick m).state = (serviceInterrupts s).state
  kept : ∀ n, m.bus.requests n = true → (tick m).state.bus.requests n = true ∨
    (∃ i ∈ dispatches (tick m).events, i.number = n) ∨ WritesFlag (tick m).events
  taken : ∀ i ∈ dispatches (tick m).events,
    (tick m).state.bus.requests i.number = false ∨ WritesFlag (tick m).events
  exhausted : (tick m).state.cpu.fault = none →
    (tick m).state.cpu.ime = true ∨ (tick m).state.cpu.halted = true →
    (tick m).state.bus.waiting = 0

/-- No interrupt is lost, dispatched twice or out of order, in whatever machine a tick begins; and
along every run, whatever is requested on it, the next instruction after a dispatch is the one at
the vector. It is executed as soon as nothing is owed any more, unless fetching it is a fault. -/
theorem interrupts_served_in_order :
    (∀ m, Serves m) ∧
    ∀ m ms m' i, Run m (m :: ms) m' → i ∈ dispatches (tick m).events →
      (∀ x ∈ ms, (tick x).value = false) →
      ((tick m').value = true → m'.cpu.registers.pc = i.vector) ∧
      (∀ fault, (tick m').state.cpu.fault = some fault → fault.addr = i.vector) ∧
      ((tick m).state.cpu.owed ≤ ms.length →
        (tick m').value = true ∨ (tick m').state.cpu.isPanicked = true) := by
  refine ⟨fun m => ⟨(ticked m).served, fun s => tick_atService, fun n => (ticked m).grants,
    fun i => (ticked m).clears, (ticked m).exhausted⟩, ?_⟩
  intro m ms m' i h hi hv
  cases h with
  | cons bus h =>
    obtain ⟨hpc, hfault, hready⟩ := h.reaches ((ticked m).headed hi) hv
    exact ⟨fun hv' => (hpc hv').1, hfault, hready⟩

/-- A halted processor that is called to the vertical blank executes its first instruction behind
the twenty cycles of the dispatch. -/
theorem interrupts_served_in_order_vblank :
    let bus := (Bus.new (Clock.steady 0 0)).setIo .interruptEnable 1
    let m : Machine := ⟨{ Cpu.new false with ime := true, halted := true }, bus.request .vblank⟩
    Serves m ∧ dispatches (tick m).events = [.vblank] ∧
      (m.after 21).cpu.registers.pc = 0x40 ∧
      ((tick (m.after 21)).value = true ∨ (tick (m.after 21)).state.cpu.isPanicked = true) := by
  intro bus m
  let ms := (List.range 20).map fun n => m.after (n + 1)
  have h : Run m (m :: ms) (m.after 21) := run_after m 21
  obtain ⟨hd, hv, hexec, howed⟩ : dispatches (tick m).events = [.vblank] ∧
      (∀ x ∈ ms, (tick x).value = false) ∧ (tick (m.after 21)).value = true ∧
      (tick m).state.cpu.owed ≤ ms.length := by decide +kernel
  have hi : .vblank ∈ dispatches (tick m).events := by
    rw [hd]
    exact .head _
  obtain ⟨hpc, -, hready⟩ := interrupts_served_in_order.2 _ _ _ _ h hi hv
  exact ⟨interrupts_served_in_order.1 m, hd, hpc hexec, hready howed⟩

end Machine

end GameBoy
