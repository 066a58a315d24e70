import GameBoy.Proofs.Bus.Veiled
import GameBoy.Proofs.Session.Steps

/-!
# Inputs of a session

Keys and the time are what reaches a session from outside of the program. They can influence it only
where the program, or the screen, reads one of the two registers that show them
(`inputs_enter_by_registers`).
-/

namespace GameBoy

/-- Whether an event is the record of a key that went down or up. -/
def Event.isKey : Event → Bool
  | .notice (.pressed _ _) | .notice (.released _ _) => true
  | _ => false

namespace Session

open GameBoy.Action (Lockstep)
open Bus (Veiled)

/-- What reaches a session from outside. Where the time is set, another clock takes over. -/
inductive Input where
  | press (key : Key)
  | release (key : Key)
  | time (clock : Clock)

/-- What an input does to the bus. -/
def Input.perform : Input → Action Bus Unit
  | press key => Bus.press key
  | release key => Bus.release key
  | time clock => .modify fun bus => { bus with scanline.clock := clock }

/-- Two runs that do the same by themselves, while inputs of any kind reach either of them at any
time. -/
inductive SameButInputs : List Step → List Step → Prop where
  | nil : SameButInputs [] []
  | same {step : Step} {steps steps' : List Step} (h : ∀ act, step ≠ .host act) :
    SameButInputs steps steps' → SameButInputs (step :: steps) (step :: steps')
  | left {steps steps' : List Step} (input : Input) :
    SameButInputs steps steps' → SameButInputs (.host input.perform :: steps) steps'
  | right {steps steps' : List Step} (input : Input) :
    SameButInputs steps steps' → SameButInputs steps (.host input.perform :: steps')

variable {ν : Type}

/-- The session with another clock and another remembered line, and with other keys held. -/
def withInputs (s : Session ν) (scanline : Scanline) (held : Vector Bool 8) : Session ν :=
  { s with machine := { s.machine with bus := s.machine.bus.withInputs scanline held } }

/-- Sessions that differ in their inputs differ in them alone. -/
lemma Paired.eq_withInputs {s t : Session ν} (h : Paired Veiled s t) :
    ∃ scanline held, t = s.withInputs scanline held := by
  obtain ⟨⟨hcpu, scanline, held, hbus⟩, hvideo⟩ := h
  obtain ⟨⟨cpu, bus⟩, video⟩ := t
  dsimp only at hcpu hbus hvideo
  subst hcpu hbus hvideo
  exact ⟨scanline, held, rfl⟩

/-- An input changes nothing but the inputs of the bus, and shows in no other record than that of a
key. -/
lemma Input.perform_bus (input : Input) (bus : Bus) :
    (∃ scanline held, (input.perform bus).state = bus.withInputs scanline held) ∧
      ∀ e ∈ (input.perform bus).events, e.isKey = true := by
  cases input with
  | press key | release key =>
    refine ⟨⟨bus.scanline, _, rfl⟩, fun e he => ?_⟩
    obtain rfl := List.mem_singleton.mp he
    rfl
  | time clock => exact ⟨⟨_, bus.joypad.held, rfl⟩, nofun⟩

/-- What a run does by itself goes the same way, whatever the inputs are. -/
lemma perform_veiled {step : Step} (h : ∀ act, step ≠ .host act) :
    Lockstep (Paired Veiled) Event.Peeks (step.perform : Action (Session Headless) Unit)
      step.perform := by
  cases step with
  | tick => exact .bind (onMachine_lockstep (Machine.tick_lockstep Bus.veiled_coupled)) fun _ => .pure _
  | service =>
    exact .bind (onMachine_lockstep (Machine.serviceInterrupts_lockstep Bus.veiled_coupled))
      fun _ => .pure _
  | turn => exact videoTurn_lockstep Headless.turn_veiled
  | host act => exact absurd rfl (h act)

/-- The events that are no records of keys. -/
def keyless (es : List Event) : List Event := es.filter fun e => !e.isKey

/-- The events of two stretches but for the keys. -/
lemma keyless_append (es es' : List Event) : keyless (es ++ es') = keyless es ++ keyless es' :=
  List.filter_append ..

/-- Of events that are keys nothing is left. -/
lemma keyless_eq_nil {es : List Event} (h : ∀ e ∈ es, e.isKey = true) : keyless es = [] := by
  refine List.filter_eq_nil_iff.mpr fun e he => ?_
  rw [h e he]
  decide

variable {steps steps' : List Step} {s t : Session Headless}

/-- An input in one of two runs shows to nothing else in them. -/
lemma Paired.left (h : Paired Veiled s t) (input : Input) :
    Paired Veiled (onMachine (Machine.onBus input.perform) s).state t := by
  obtain ⟨⟨scanline, held, e⟩, -⟩ := input.perform_bus s.machine.bus
  refine ⟨⟨h.machine.cpu, ?_⟩, h.video⟩
  change Veiled (input.perform s.machine.bus).state t.machine.bus
  rw [e]
  exact h.machine.bus.left scanline held

/-- An input to the second session leaves the two paired. -/
lemma Paired.right (h : Paired Veiled s t) (input : Input) :
    Paired Veiled s (onMachine (Machine.onBus input.perform) t).state := by
  obtain ⟨⟨scanline, held, e⟩, -⟩ := input.perform_bus t.machine.bus
  refine ⟨⟨h.machine.cpu, ?_⟩, h.video⟩
  change Veiled s.machine.bus (input.perform t.machine.bus).state
  rw [e]
  exact h.machine.bus.right scanline held

/-- An input tells of keys only. -/
lemma keyless_input (input : Input) (s : Session Headless) :
    keyless ((Step.host input.perform).perform s).events = [] :=
  keyless_eq_nil (input.perform_bus s.machine.bus).2

/-- Runs that are the same but for their inputs go the same way, as long as no input is looked at. -/
lemma SameButInputs.paired (hsteps : SameButInputs steps steps') (h : Paired Veiled s t)
    (hquiet : ∀ e ∈ (undergo steps s).events, ¬e.Peeks) :
    Paired Veiled (undergo steps s).state (undergo steps' t).state ∧
      keyless (undergo steps' t).events = keyless (undergo steps s).events := by
  induction hsteps generalizing s t with
  | nil => exact ⟨h, rfl⟩
  | same hstep _ ih =>
    obtain ⟨hfirst, hrest⟩ := List.forall_mem_append.mp hquiet
    obtain ⟨-, he, hpaired⟩ := perform_veiled hstep s t h hfirst
    obtain ⟨hpaired, hes⟩ := ih hpaired hrest
    refine ⟨hpaired, ?_⟩
    simp only [undergo, Action.bind_apply, keyless_append, he, hes]
  | left input _ ih =>
    obtain ⟨-, hrest⟩ := List.forall_mem_append.mp hquiet
    obtain ⟨hpaired, hes⟩ := ih (h.left input) hrest
    refine ⟨hpaired, ?_⟩
    simp only [undergo, Action.bind_apply, keyless_append, keyless_input, List.nil_append]
    exact hes
  | right input _ ih =>
    obtain ⟨hpaired, hes⟩ := ih (h.right input) hquiet
    refine ⟨hpaired, ?_⟩
    simp only [undergo, Action.bind_apply, keyless_append, keyless_input, List.nil_append]
    exact hes

/-- Time and keys enter a session by the registers that show them and by no other way. Two sessions
that are the same but for the clock, the remembered line and the held keys are so again after any two
runs that do the same by themselves, whatever inputs reach either of them in between, as long as the
first of them reads neither the scanline counter nor the joypad. Then they have also made the same
accesses and reports, the records of the keys aside. -/
theorem inputs_enter_by_registers (s : Session Headless) (scanline : Scanline)
    (held : Vector Bool 8) {steps steps' : List Step} (hsteps : SameButInputs steps steps')
    (hquiet : ∀ e ∈ (undergo steps s).events, ¬e.Peeks) :
    let done := undergo steps s
    let done' := undergo steps' (s.withInputs scanline held)
    (∃ scanline held, done'.state = done.state.withInputs scanline held) ∧
      keyless done'.events = keyless done.events := by
  intro done done'
  have hpaired : Paired Veiled s (s.withInputs scanline held) :=
    ⟨⟨rfl, scanline, held, rfl⟩, rfl⟩
  obtain ⟨hpaired, hes⟩ := hsteps.paired hpaired hquiet
  exact ⟨hpaired.eq_withInputs, hes⟩

/-- A program that selects a group of keys, once with a key held and once without, by clocks that
differ. -/
theorem inputs_enter_by_registers_keys :
    let bus : Bus := { Bus.new (.steady 0 1) with map := (Store.fill 16 0).set 0x100 0xe0 }
    let s : Session Headless := { machine := Machine.new bus, video := {} }
    let t := s.withInputs { clock := .steady 9 7, last := 0x99 } (Vector.replicate 8 true)
    let done := undergo [.host (Input.press .a).perform, .tick, .turn] s
    let done' := undergo [.tick, .host (Input.release .up).perform, .turn] t
    done'.state.machine.cpu = done.state.machine.cpu ∧
      done'.state.machine.bus.map = done.state.machine.bus.map ∧
      done'.state.machine.bus.joypad ≠ done.state.machine.bus.joypad := by
  intro bus s t done done'
  have hsteps : SameButInputs [.host (Input.press .a).perform, .tick, .turn]
      [.tick, .host (Input.release .up).perform, .turn] :=
    .left _ (.same nofun (.right _ (.same nofun .nil)))
  obtain ⟨⟨scanline, held, h⟩, -⟩ := inputs_enter_by_registers s
    { clock := .steady 9 7, last := 0x99 } (Vector.replicate 8 true) hsteps (by decide +kernel)
  exact ⟨congrArg (·.machine.cpu) h, congrArg (·.machine.bus.map) h, by decide +kernel⟩

end Session

end GameBoy
