import GameBoy.Proofs.Listing.Agreement

/-!
# The record of the last instruction

A fetch records the instruction that it reads, and nothing touches the record before the next fetch,
neither the instruction itself nor the dispatch of an interrupt (`Ticked.last_executed`,
`Ticked.last_waited`). An
execution reports what was recorded, once, and nothing else does (`executions_tick`).
-/

namespace GameBoy

open Listing

/-- What a list of events tells of executions. -/
def Event.execution? : Event → Option LastInstruction
  | .notice (.executed last) => some last
  | _ => none

/-- The instructions whose execution some events report. -/
def executions (es : List Event) : List LastInstruction := es.filterMap Event.execution?

/-- The executions of two stretches follow each other. -/
lemma executions_append (es es' : List Event) :
    executions (es ++ es') = executions es ++ executions es' :=
  List.filterMap_append

/-- The reports of the bus tell of no execution. -/
lemma execution?_of_isOwnReport {e : Event} (h : Bus.isOwnReport e = true) : e.execution? = none := by
  cases e with
  | notice n => cases n <;> first | rfl | cases h
  | _ => rfl

/-- Reports of the bus tell of no execution. -/
lemma executions_of_reports {es : List Event} (h : ∀ e ∈ es, Bus.isOwnReport e = true) :
    executions es = [] :=
  List.filterMap_eq_nil_iff.mpr fun e he => execution?_of_isOwnReport (h e he)

namespace Machine

variable {m m' : Machine} {es : List Event}

/-! ## Reports of an execution -/

/-- Nothing that instructions are made of reports an execution. -/
lemma Made.no_execution {α : Type} {x : Action Machine α} (h : Made x) (m : Machine) :
    executions (x m).events = [] := by
  induction h generalizing m with
  | pure _ | modifyCpu _ => rfl
  | bind _ _ ihx ihf => rw [Action.bind_apply, executions_append, ihx, ihf, List.append_nil]
  | ask _ ih => exact ih m.cpu m
  | @note n h => cases n <;> first | rfl | cases h
  | read addr => exact Bus.filterMap_read (fun _ => execution?_of_isOwnReport) m.bus addr
  | write addr v => exact Bus.filterMap_write (fun _ => execution?_of_isOwnReport) m.bus addr v

/-- A fetch tells of no execution. -/
lemma executions_fetchEvents (m : Machine) : executions m.fetchEvents = [] := by
  rw [fetchEvents, executions_append, executions_of_reports (liftBoot_reports m _),
    Made.fetchOpcode.no_execution]
  rfl

/-- What follows an execution tells of no other one. -/
lemma executions_settle (m : Machine) : executions (settle m).events = [] := by
  rw [settle_apply]
  cases h : m.pending with
  | none => rw [serviceInterrupts_none (m := m.paid) h]; rfl
  | some i =>
    cases hi : m.cpu.ime with
    | true =>
      rw [serviceInterrupts_dispatch (m := m.paid) h hi]
      change executions (dispatch i m.paid).events = []
      rw [dispatch_events, executions_append, (Made.push _).no_execution]
      rfl
    | false =>
      have hp : m.paid.pending = some i := h
      have hi : m.paid.cpu.ime = false := hi
      cases hh : m.paid.cpu.halted <;>
        simp [serviceInterrupts, hp, hi, hh, modifyCpu, executions, Event.execution?]

/-! ## The record -/

/-- Writing an operand leaves the record of the last instruction alone. -/
lemma writeOperand_last (r : Operand) (v : UInt8) (m : Machine) :
    (writeOperand r v m).state.cpu.last = m.cpu.last := by
  cases r <;> rfl

/-- Following a pointer leaves the record of the last instruction alone. -/
lemma follow_last (p : Pointer) (m : Machine) : (follow p m).state.cpu.last = m.cpu.last := by
  cases p <;> rfl

/-- What is done on a condition leaves the record of the last instruction alone if the act does. -/
lemma guarded_last (cc : Option Condition) {act : Action Machine Unit}
    (h : ∀ m, (act m).state.cpu.last = m.cpu.last) (m : Machine) :
    (guarded cc act m).state.cpu.last = m.cpu.last := by
  cases hcc : Condition.allows cc m.cpu.registers.flags with
  | false => simp [guarded, registers, hcc]
  | true => simpa [guarded, registers, hcc] using h m

/-- An instruction does not touch the record of itself. -/
lemma perform_last (i : Instruction) (m : Machine) :
    (perform i m).state.cpu.last = m.cpu.last := by
  cases i with
  | load dst src | res i dst | set i dst =>
    exact (writeOperand_last dst _ _).trans (congrArg (·.last) (readOperand_cpu _ m))
  | loadImmediate dst n => exact writeOperand_last dst n m
  | inc r | dec r | shift op r =>
    exact (writeOperand_last r _ _).trans (congrArg (·.last) (readOperand_cpu r m))
  | bit i r | alu op r => exact congrArg (·.last) (readOperand_cpu r m)
  | storeIndirect p | loadIndirect p => exact follow_last p m
  | jumpRelative cc | jump cc | call cc | ret cc => exact guarded_last cc (fun _ => rfl) m
  | _ => rfl

/-- A look at the interrupts leaves the record of the last instruction alone. -/
lemma Settled.last (h : Settled m m' es) : m'.cpu.last = m.cpu.last := by
  cases h <;> rfl

/-- An execution below the limit records the instruction that it finds, and reports the record if it
carries the instruction out. -/
lemma execute_recorded (hpc : m.cpu.registers.pc ≤ pcLimit) :
    (execute m).state.cpu.last = m.listed.cpu.last ∧
      ((∃ fault, (execute m).value = .error fault ∧ executions (execute m).events = []) ∨
        ∃ cost, (execute m).value = .ok cost ∧
          executions (execute m).events = [m.listed.cpu.last]) := by
  obtain ⟨-, hs, -⟩ := completeInstruction_fetched hpc
  have hquiet := (Made.completeInstruction
    (Encoding.ofOpcode (m.bus.shown m.cpu.registers.pc))).no_execution m.fetched
  rw [execute_of_le hpc, executeOpcode, executeEncoding, Handler.decode_eq, Action.bind_apply]
  dsimp only
  rw [executions_append, executions_fetchEvents, executions_append, hquiet, hs, List.nil_append,
    List.nil_append]
  -- what is left depends on the instruction alone
  generalize (completeInstruction _ m.fetched).value = i?
  split
  · exact ⟨rfl, .inl ⟨_, rfl, rfl⟩⟩
  · exact ⟨rfl, .inl ⟨_, rfl, rfl⟩⟩
  · next i _ =>
    have hlast := perform_last i m.listed
    refine ⟨hlast, .inr ⟨_, rfl, ?_⟩⟩
    simp only [Action.bind_apply, Action.get_apply, Action.note_apply, Action.pure_apply, registers,
      List.nil_append, List.append_nil, executions_append, (Made.perform i).no_execution, hlast]
    rfl

/-! ## Ticks -/

/-- A tick that executes an instruction leaves the record of it. -/
lemma Ticked.last_executed (h : Ticked m true m' es) : m'.cpu.last = m.listed.cpu.last := by
  have hpc := h.pc_le
  cases h with
  | executed _ _ _ hs => exact hs.last.trans (execute_recorded hpc).1

/-- A tick that neither executes an instruction nor finds a fault leaves the record alone. -/
lemma Ticked.last_waited (h : Ticked m false m' es) (hp : m'.cpu.isPanicked = false) :
    m'.cpu.last = m.cpu.last := by
  cases h with
  | panicked _ => rfl
  | faulted _ _ _ _ => cases hp
  | waited _ _ hs => exact hs.last

/-- A tick that executes an instruction reports the record of it, and no other one reports any. -/
lemma executions_tick (m : Machine) :
    executions (tick m).events = if (tick m).value then [m.listed.cpu.last] else [] := by
  cases hp : m.cpu.isPanicked with
  | true => rw [tick_of_isPanicked hp]; rfl
  | false =>
    cases hr : m.cpu.isReady with
    | false =>
      rw [tick_of_waiting hp hr, executions_settle]
      rfl
    | true =>
      by_cases hpc : m.cpu.registers.pc ≤ pcLimit
      · obtain ⟨-, ⟨fault, hv, he⟩ | ⟨cost, hv, he⟩⟩ := execute_recorded hpc
        · rw [tick_of_error hp hr hv, executions_append, he]
          rfl
        · rw [tick_of_ok hp hr hv, executions_append, he, executions_settle]
          rfl
      · have he := execute_of_lt (UInt16.not_le.mp hpc)
        rw [tick_of_error hp hr (congrArg Outcome.value he), he]
        rfl

end Machine

end GameBoy
