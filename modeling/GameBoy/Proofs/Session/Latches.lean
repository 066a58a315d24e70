import GameBoy.Proofs.Bus.Refusals
import GameBoy.Proofs.Machine.Faults
import GameBoy.Proofs.Session.Driver
import GameBoy.Proofs.Session.Steps

/-!
# Faults that stay

A component that has a fault keeps one, whatever happens in the session. The processor does nothing more, so
that its fault is the one that it found first (`undergo_cpu_fault`). The bus goes on, and its fault is the
one of the write that it refused last. A run of the driver stops behind the turn in which a fault comes up,
and names the one that the component has then (`fault_names_last_refusal`).
-/

namespace GameBoy

namespace Machine

/-- A look at the interrupts latches no fault. -/
lemma serviceInterrupts_fault (m : Machine) :
    (serviceInterrupts m).state.cpu.fault = m.cpu.fault := by
  cases h : m.pending with
  | none => rw [serviceInterrupts_none h]
  | some i =>
    cases hi : m.cpu.ime with
    | true => rw [serviceInterrupts_dispatch h hi, dispatch_cpu]
    | false =>
      obtain ⟨_, -, e⟩ := serviceInterrupts_wake h hi
      rw [e]

/-- What a tick does to the bus is told by plain incidents. -/
lemma tick_chronicled (m : Machine) :
    Bus.Chronicled Bus.Incident.IsPlain m.bus (tick m).events (tick m).state.bus :=
  tick_ensures (Bus.chronicled_respected fun _ h => h) (Bus.disableBoot_chronicled fun _ h => h) m

/-- What a look at the interrupts does to the bus is a chronicle of plain incidents. -/
lemma serviceInterrupts_chronicled (m : Machine) :
    Bus.Chronicled Bus.Incident.IsPlain m.bus (serviceInterrupts m).events
      (serviceInterrupts m).state.bus :=
  serviceInterrupts_ensures (Bus.chronicled_respected fun _ h => h) m

end Machine

namespace Session

open Bus (Chronicled replay refusals)

variable {ν : Type} [Video ν] {s : Session ν} {fault : Fault} {ticks : Nat}

/-! ## Faults of the processor -/

/-- A fault of the processor stays whatever happens. -/
lemma perform_cpu_fault (step : Step) (h : s.machine.cpu.fault = some fault) :
    (step.perform s).state.machine.cpu.fault = some fault := by
  cases step with
  | tick =>
    obtain ⟨e, -⟩ := (Machine.ticked s.machine).panicked_cpu (Machine.isPanicked_of_some h)
    exact (congrArg Cpu.fault e).trans h
  | service => exact (Machine.serviceInterrupts_fault s.machine).trans h
  | turn | host => exact h

/-- The processor keeps its fault, whatever happens. -/
lemma undergo_cpu_fault (steps : List Step) (h : s.machine.cpu.fault = some fault) :
    (undergo steps s).state.machine.cpu.fault = some fault := by
  induction steps generalizing s with
  | nil => exact h
  | cons step steps ih => exact ih (perform_cpu_fault step h)

/-! ## Turns of the driver -/

/-- The turn behind which a run of a working session fails begins without a fault. -/
lemma run_failed {duration : Duration} {failure : Failure} (hs : ¬s.Panicked)
    (h : (run duration s).value = .failed failure) :
    ∃ k, s.FailsAt k ∧ (s.after k).Blames k failure ∧ ¬(s.after (k - 1)).Panicked ∧
      s.after k = (alternate (s.after (k - 1))).state := by
  obtain ⟨k, -, hfails, hblames⟩ := run_failed_iff.mp h
  have hafter := after_succ s (k - 1)
  rw [Nat.sub_add_cancel hfails.pos] at hafter
  exact ⟨k, hfails, hblames, hfails.before hs, hafter⟩

/-- The turn at which the processor fails begins with the fetch that finds its fault. -/
lemma failed_cpu {duration : Duration} (hs : ¬s.Panicked)
    (h : (run duration s).value = .failed (.cpu fault ticks)) :
    s.FailsAt ticks ∧ (s.after (ticks - 1)).machine.faultAhead = some fault := by
  obtain ⟨k, hfails, hblames, hbefore, hafter⟩ := run_failed hs h
  cases hblames with
  | cpu hf =>
    have hworks := Machine.isPanicked_of_none (not_panicked_iff.mp hbefore).1
    rw [hafter] at hf
    exact ⟨hfails, (((Machine.ticked _).fault_iff hworks).mp hf).2⟩

/-- At the turn at which the bus fails, the write that is refused last is the one that is named. -/
lemma failed_bus (hvideo : ∀ v : ν, (Video.turn v).Ensures (Chronicled fun _ => True))
    {duration : Duration} (hs : ¬s.Panicked)
    (h : (run duration s).value = .failed (.bus fault ticks)) :
    let before := (s.after (ticks - 1)).machine.bus
    let turn := alternate (s.after (ticks - 1))
    s.FailsAt ticks ∧ before.fault = none ∧
      ∃ chronicle, replay chronicle before = ⟨(), turn.state.machine.bus, turn.events⟩ ∧
        (refusals chronicle before).getLast? = some fault := by
  obtain ⟨k, hfails, hblames, hbefore, hafter⟩ := run_failed hs h
  cases hblames with
  | bus _ hf =>
    have hnone := (not_panicked_iff.mp hbefore).2.1
    have hstep (step : Step) (h : step.Ensures (Chronicled fun _ => True)) :
        (step.perform : Action (Session ν) Unit).Ensures (OnBuses (Chronicled fun _ => True)) :=
      perform_chronicled (fun _ _ => trivial) hvideo h
    have hturn : (alternate : Action (Session ν) Unit).Ensures (OnBuses (Chronicled fun _ => True)) :=
      .bind (onBuses_composes Bus.chronicled_composes) (hstep .tick trivial) fun _ =>
        hstep .turn trivial
    obtain ⟨chronicle, -, e⟩ := hturn (s.after (ticks - 1))
    refine ⟨hfails, hnone, chronicle, e, ?_⟩
    have hfault := Bus.fault_replay chronicle (s.after (ticks - 1)).machine.bus
    rw [e, hnone, Option.or_none] at hfault
    rw [hafter] at hf
    exact hfault.symm.trans hf

/-- Faults stay. Whatever happens in a session, the processor keeps the fault that it has, and the bus has
one from the first on; but the fault of the bus is that of the write that was refused last. So on a strict
bus an instruction or a dispatch leaves the fault that names the last of its writes that trespass. A run of
a session that fails names what the processor found at the only fetch that failed, or the write that was
refused last in the only turn in which one was refused. -/
theorem fault_names_last_refusal {ν : Type} [Video ν]
    (hvideo : ∀ v : ν, (Video.turn v).Ensures (Chronicled fun _ => True)) (s : Session ν)
    (steps : List Step) (hsteps : ∀ step ∈ steps, step.Ensures (Chronicled fun _ => True)) :
    let before := s.machine.bus
    let done := undergo steps s
    let bus := done.state.machine.bus
    -- what stays
    (∀ fault, s.machine.cpu.fault = some fault → done.state.machine.cpu.fault = some fault) ∧
    (before.fault ≠ none → bus.fault ≠ none) ∧
    -- the fault of the bus
    (∃ chronicle, replay chronicle before = ⟨(), bus, done.events⟩) ∧
    (∀ chronicle, replay chronicle before = ⟨(), bus, done.events⟩ →
      bus.fault = (refusals chronicle before).getLast?.or before.fault) ∧
    (before.strict = true →
      let ticked := Machine.tick s.machine
      let looked := Machine.serviceInterrupts s.machine
      ticked.state.bus.fault =
          (trespasses before.window.mode ticked.events).getLast?.or before.fault ∧
        looked.state.bus.fault =
          (trespasses before.window.mode looked.events).getLast?.or before.fault) ∧
    -- the failure of a run
    (¬s.Panicked → ∀ duration fault ticks,
      let last := s.after (ticks - 1)
      ((run duration s).value = .failed (.cpu fault ticks) →
        s.FailsAt ticks ∧ last.machine.faultAhead = some fault) ∧
      ((run duration s).value = .failed (.bus fault ticks) →
        s.FailsAt ticks ∧ last.machine.bus.fault = none ∧ ∃ chronicle,
          replay chronicle last.machine.bus =
            ⟨(), (alternate last).state.machine.bus, (alternate last).events⟩ ∧
          (refusals chronicle last.machine.bus).getLast? = some fault)) := by
  intro before done bus
  obtain ⟨told, -, htold⟩ := undergo_chronicled (fun _ _ => trivial) hvideo hsteps s
  have hfault (chronicle) (e : replay chronicle before = ⟨(), bus, done.events⟩) :
      bus.fault = (refusals chronicle before).getLast?.or before.fault := by
    rw [← Bus.fault_replay, e]
  refine ⟨fun fault => undergo_cpu_fault steps, fun h => ?_, ⟨told, htold⟩, hfault,
    fun hs => ⟨s.machine.tick_chronicled.fault_of_plain hs,
      s.machine.serviceInterrupts_chronicled.fault_of_plain hs⟩,
    fun hs duration fault ticks => ⟨?_, ?_⟩⟩
  · rw [hfault told htold]
    exact fun hnone => h (Option.or_eq_none_iff.mp hnone).2
  · exact failed_cpu hs
  · exact failed_bus hvideo hs

/-- A word is pushed below the cartridge. Neither another cartridge nor the end of the strict mode takes the
fault back, nor does a write that is not refused any more replace it. -/
theorem fault_names_last_refusal_push :
    let bus : Bus :=
      { Bus.new (.steady 0 0) with strict := true, map := (Store.fill 16 0).set 0xc000 0xc5 }
    let m : Machine :=
      { cpu := { registers := { pc := 0xc000, sp := 0x1000, b := 0x12, c := 0x34 } }, bus }
    let s : Session Headless := { machine := m, video := {} }
    let fault := Fault.romWrite 0x0ffe 0x34
    let done := undergo [.tick, .host (Bus.load .cartridge #[7]),
      .host (Bus.Incident.strict false).perform, .host (Bus.write 0x10 9), .service, .turn] s
    done.state.machine.bus.fault = some fault ∧
      (∃ chronicle, replay chronicle bus = ⟨(), done.state.machine.bus, done.events⟩ ∧
        (refusals chronicle bus).getLast? = some fault) ∧
      (run (.ticks 3) s).value = .failed (.bus fault 1) ∧ s.FailsAt 1 := by
  intro bus m s fault done
  have hsteps : ∀ step ∈ ([.tick, .host (Bus.load .cartridge #[7]),
      .host (Bus.Incident.strict false).perform, .host (Bus.write 0x10 9), .service, .turn] :
        List Step), step.Ensures (Chronicled fun _ => True) := by
    simp only [List.forall_mem_cons]
    exact ⟨trivial, Bus.load_chronicled (fun _ _ => trivial) .cartridge #[7],
      Bus.Incident.chronicled (i := .strict false) trivial,
      Bus.Incident.chronicled (i := .write 0x10 9) trivial, trivial, trivial, nofun⟩
  obtain ⟨-, -, ⟨chronicle, e⟩, hlast, -, hfailed⟩ :=
    fault_names_last_refusal (Bus.headless_chronicled fun _ _ => trivial) s _ hsteps
  have hfault : done.state.machine.bus.fault = some fault := by decide +kernel
  have hrun : (run (.ticks 3) s).value = .failed (.bus fault 1) := by decide +kernel
  have hworks : ¬s.Panicked := not_panicked_iff.mpr ⟨rfl, rfl, rfl⟩
  refine ⟨hfault, ⟨chronicle, e, ?_⟩, hrun, ((hfailed hworks _ fault 1).2 hrun).1⟩
  have hbefore : s.machine.bus.fault = none := rfl
  have hrefused := hlast chronicle e
  rw [hbefore, Option.or_none] at hrefused
  exact hrefused.symm.trans hfault

/-- An instruction that pushes a word below the cartridge trespasses twice, and the second write replaces
the fault of the first one, which the session does not get to name. -/
theorem push_replaces_fault :
    let bus : Bus :=
      { Bus.new (.steady 0 0) with strict := true, map := (Store.fill 16 0).set 0xc000 0xc5 }
    let m : Machine :=
      { cpu := { registers := { pc := 0xc000, sp := 0x1000, b := 0x12, c := 0x34 } }, bus }
    let s : Session Headless := { machine := m, video := {} }
    let first := (Bus.write 0x0fff 0x12 bus).state
    let second := (Bus.write 0x0ffe 0x34 first).state
    first.fault = some (.romWrite 0x0fff 0x12) ∧ second.fault = some (.romWrite 0x0ffe 0x34) ∧
      trespasses bus.window.mode (Machine.tick m).events =
        [.romWrite 0x0fff 0x12, .romWrite 0x0ffe 0x34] ∧
      (Machine.tick m).state.bus.fault = some (.romWrite 0x0ffe 0x34) ∧
      (run (.ticks 1) s).value = .failed (.bus (.romWrite 0x0ffe 0x34) 1) := by
  decide +kernel

end Session

end GameBoy
