import GameBoy.Proofs.Machine.Fetch
import GameBoy.Proofs.Machine.Ticked

/-!
# Properties of everything a machine does to its bus

Instructions, dispatches and the end of a tick reach the bus through readings, writes and the
request register alone, and a video collaborator reaches the keys besides. A relation between buses
that these respect (`Respected`) is respected by a tick from the fetch on (`tick_respects`), and by
whole ticks and steps if lifting the boot image respects it too (`tick_ensures`, `step_ensures`).
-/

namespace GameBoy.Machine

variable {R : Bus → List Event → Bus → Prop}

/-- A relation between buses as one between the machines that they belong to. -/
def OnBuses (R : Bus → List Event → Bus → Prop) (m : Machine) (es : List Event) (m' : Machine) :
    Prop :=
  R m.bus es m'.bus

/-- What is respected on buses is closed on machines. -/
lemma closed_of_respected (hR : Bus.Respected R) : Closed (OnBuses R) where
  refl m := hR.refl m.bus
  trans h h' := hR.trans h h'
  cpu m _ _ := hR.refl m.bus
  note m n _ := hR.note m.bus n
  read addr m := hR.read addr m.bus
  write addr v m := hR.write addr v m.bus

/-- Changing the processor touches no bus. -/
lemma modifyCpu_ensures (hR : Bus.Respected R) (f : Cpu → Cpu) :
    (modifyCpu f).Ensures (OnBuses R) :=
  fun m => hR.refl m.bus

/-- Telling of something touches no bus. -/
lemma note_ensures (hR : Bus.Respected R) (n : Notice) :
    (Action.note n : Action Machine Unit).Ensures (OnBuses R) :=
  fun m => hR.note m.bus n

/-! ## Behind an execution -/

/-- A dispatch respects what everything on a bus respects. -/
lemma dispatch_ensures (hR : Bus.Respected R) (i : Interrupt) :
    (dispatch i).Ensures (OnBuses R) := by
  have hC := (closed_of_respected hR).toComposes
  have hclear (m : Machine) : R m.bus []
      (m.bus.setIo .interruptFlag (m.bus.io .interruptFlag &&& ~~~i.bit)) := hR.flag m.bus _
  exact .bind hC hclear fun _ => .bind hC (modifyCpu_ensures hR _) fun _ =>
    .bind hC (fun m => hC.refl m) fun _ => .bind hC ((Made.push _).ensures (closed_of_respected hR)) fun _ =>
      .bind hC (modifyCpu_ensures hR _) fun _ => .bind hC (modifyCpu_ensures hR _) fun _ =>
        note_ensures hR _

/-- A look at the interrupts respects what everything on a bus respects. -/
lemma serviceInterrupts_ensures (hR : Bus.Respected R) :
    serviceInterrupts.Ensures (OnBuses R) := by
  have hC := (closed_of_respected hR).toComposes
  refine .bind hC (.get hC) fun m => ?_
  split
  · exact .pure hC _
  · refine .ite (fun _ => ?_) fun _ => .ite (fun _ => ?_) fun _ => .pure hC _
    · exact .bind hC (dispatch_ensures hR _) fun _ => .pure hC _
    · exact .bind hC (note_ensures hR _) fun _ => .bind hC (modifyCpu_ensures hR _) fun _ =>
        .pure hC _

/-- What follows an execution respects what everything on a bus respects. -/
lemma settle_ensures (hR : Bus.Respected R) : settle.Ensures (OnBuses R) := by
  intro m
  have h := serviceInterrupts_ensures hR m.paid
  rw [settle_apply]
  exact h

/-- Latching a fault touches no bus. -/
lemma latch_ensures (hR : Bus.Respected R) (fault : Fault) : (latch fault).Ensures (OnBuses R) := by
  have hC := (closed_of_respected hR).toComposes
  exact .bind hC (note_ensures hR _) fun _ => .bind hC (.get hC) fun _ =>
    .bind hC (note_ensures hR _) fun _ => modifyCpu_ensures hR _

/-- What is left of a tick when the execution of an instruction has ended. -/
def finish : Except Fault Nat → Action Machine Bool
  | .error fault => do
    latch fault
    return false
  | .ok cost => do
    modifyCpu fun cpu => cpu.charge cost
    settle
    return true

/-- What follows the answer of an execution respects what everything on a bus respects. -/
lemma finish_ensures (hR : Bus.Respected R) (done : Except Fault Nat) :
    (finish done).Ensures (OnBuses R) := by
  have hC := (closed_of_respected hR).toComposes
  cases done with
  | error fault => exact .bind hC (latch_ensures hR _) fun _ => .pure hC _
  | ok cost =>
    exact .bind hC (modifyCpu_ensures hR _) fun _ => .bind hC (settle_ensures hR) fun _ =>
      .pure hC _

/-! ## Ticks -/

variable {m : Machine}

/-- A tick of a processor that is ready is an execution and what follows it. -/
lemma tick_of_isReady (hp : m.cpu.isPanicked = false) (hr : m.cpu.isReady = true) :
    tick m = (execute >>= finish) m := by
  simp only [tick, Action.bind_apply, Action.get_apply, hp, hr]
  rfl

/-- Where a tick fetches an opcode, if it comes to a fetch. -/
def fetchAddr (m : Machine) : Option UInt16 :=
  if m.cpu.isPanicked = false ∧ m.cpu.isReady = true ∧ m.cpu.registers.pc ≤ 0xff00 then
    some m.cpu.registers.pc
  else none

/-- The bus as a tick finds it when a fetch behind the boot page has lifted the boot image. -/
def busAtFetch (m : Machine) : Bus :=
  match m.fetchAddr with
  | some addr => m.bus.liftedAt addr
  | none => m.bus

/-- Lifting the boot image for a fetch tells of reports only. -/
lemma liftBoot_reports (m : Machine) (pc : UInt16) :
    ∀ e ∈ (liftBoot pc m).events, Bus.isOwnReport e = true := by
  have hC : Composes fun (_ : Machine) es (_ : Machine) => ∀ e ∈ es, Bus.isOwnReport e = true := .all _
  have hlift : (liftBoot pc).Ensures fun _ es _ => ∀ e ∈ es, Bus.isOwnReport e = true :=
    .bind hC (.get hC) fun _ => .ite (fun _ m => Bus.disableBoot_reports m.bus) fun _ => .pure hC _
  exact hlift m

/-- Behind the lifting of the boot image a tick respects what its parts respect. -/
lemma tick_respects (hR : Bus.Respected R) (m : Machine) :
    ∃ es es', (tick m).events = es ++ es' ∧ (∀ e ∈ es, Bus.isOwnReport e = true) ∧
      R m.busAtFetch es' (tick m).state.bus := by
  have hC := closed_of_respected hR
  have hquiet : ∀ e ∈ ([] : List Event), Bus.isOwnReport e = true := nofun
  cases hp : m.cpu.isPanicked with
  | true =>
    rw [tick_of_isPanicked hp, busAtFetch, fetchAddr, if_neg (by simp [hp])]
    exact ⟨[], [], rfl, hquiet, hR.refl _⟩
  | false =>
    cases hr : m.cpu.isReady with
    | false =>
      rw [tick_of_waiting hp hr, busAtFetch, fetchAddr, if_neg (by simp [hr])]
      exact ⟨[], _, rfl, hquiet, settle_ensures hR m⟩
    | true =>
      rw [tick_of_isReady hp hr, Action.bind_apply]
      by_cases hpc : m.cpu.registers.pc ≤ pcLimit
      · have hpc' : m.cpu.registers.pc ≤ 0xff00 := hpc
        rw [busAtFetch, fetchAddr, if_pos ⟨hp, hr, hpc'⟩, execute_of_le hpc, fetchEvents]
        dsimp only
        generalize hrest : executeOpcode m.cpu.registers.pc (m.bus.shown m.cpu.registers.pc)
          m.fetched = rest
        refine ⟨(liftBoot m.cpu.registers.pc m).events,
          (fetchOpcode (liftBoot m.cpu.registers.pc m).state).events ++
            (rest.events ++ (finish rest.value rest.state).events), ?_, liftBoot_reports m _, ?_⟩
        · simp only [List.append_assoc]
        · have hlift : (liftBoot m.cpu.registers.pc m).state.bus =
              m.bus.liftedAt m.cpu.registers.pc := by rw [liftBoot_state]
          have hfetch := Made.fetchOpcode.ensures hC (liftBoot m.cpu.registers.pc m).state
          rw [OnBuses, hlift, (fetchOpcode_lifted hpc).2] at hfetch
          have hexec := executeOpcode_ensures hC m.cpu.registers.pc
            (m.bus.shown m.cpu.registers.pc) m.fetched
          rw [hrest] at hexec
          exact hR.trans hfetch (hR.trans hexec (finish_ensures hR _ _))
      · have hpc' : ¬m.cpu.registers.pc ≤ 0xff00 := hpc
        rw [busAtFetch, fetchAddr, if_neg (fun h => hpc' h.2.2),
          execute_of_lt (UInt16.not_le.mp hpc)]
        exact ⟨[], _, rfl, hquiet, finish_ensures hR _ m⟩

/-- A whole tick does so if lifting the boot image does. -/
lemma tick_ensures (hR : Bus.Respected R) (hlift : Bus.disableBoot.Ensures R) :
    tick.Ensures (OnBuses R) := by
  have hC := closed_of_respected hR
  refine .bind hC.toComposes (.get hC.toComposes) fun m => .ite (fun _ => .pure hC.toComposes _)
    fun _ => .ite (fun _ => ?_) fun _ => ?_
  · refine .bind hC.toComposes (execute_ensures hC fun m => hlift m.bus) fun done => ?_
    cases done with
    | error fault => exact finish_ensures hR (.error fault)
    | ok cost => exact finish_ensures hR (.ok cost)
  · exact .bind hC.toComposes (settle_ensures hR) fun _ => .pure hC.toComposes _

/-- A step within a number of ticks respects what its ticks respect. -/
lemma stepWithin_ensures (hR : Bus.Respected R) (hlift : Bus.disableBoot.Ensures R) (limit : Nat) :
    (stepWithin limit).Ensures (OnBuses R) := by
  have hC := (closed_of_respected hR).toComposes
  induction limit with
  | zero => exact .pure hC _
  | succ limit ih =>
    exact .bind hC (tick_ensures hR hlift) fun _ => .bind hC (.get hC) fun _ =>
      .ite (fun _ => .pure hC _) fun _ => .ite (fun _ => .pure hC _) fun _ => ih

/-- A step respects what its ticks respect. -/
lemma step_ensures (hR : Bus.Respected R) (hlift : Bus.disableBoot.Ensures R) :
    step.Ensures (OnBuses R) := by
  have hC := (closed_of_respected hR).toComposes
  exact .bind hC (.get hC) fun _ => stepWithin_ensures hR hlift _

end GameBoy.Machine
