import GameBoy.Proofs.Bus.Chronicle
import GameBoy.Proofs.Machine.Coupled

/-!
# Sessions step by step

What happens in a session, in any order: ticks, looks at the interrupts, turns of the video and visits
of the host. A relation between buses that all of them respect is respected by runs of any length
(`undergo_ensures`), and a relation that they keep up between two sessions is kept up by runs of any
length (`undergo_lockstep`).
-/

namespace GameBoy.Session

open GameBoy.Action (Lockstep)
open Bus (Visit Adjustment)

variable {ν : Type}

/-- A relation between buses as one between the sessions that they belong to. -/
def OnBuses (R : Bus → List Event → Bus → Prop) (s : Session ν) (es : List Event)
    (s' : Session ν) : Prop :=
  R s.machine.bus es s'.machine.bus

/-- Two sessions with the same processor and video and related buses. -/
structure Paired (S : Bus → Bus → Prop) (s t : Session ν) : Prop where
  machine : Machine.Paired S s.machine t.machine
  video : t.video = s.video

variable {R : Bus → List Event → Bus → Prop} {S : Bus → Bus → Prop} {bad : Event → Prop}

/-- What composes on buses composes in sessions. -/
lemma onBuses_composes (hR : Composes R) : Composes fun (s : Session ν) es s' => OnBuses R s es s' where
  refl s := hR.refl s.machine.bus
  trans h h' := hR.trans h h'

/-- What goes the same way in two machines goes the same way in their sessions. -/
lemma onMachine_lockstep {α : Type} {x : Action Machine α}
    (h : Lockstep (Machine.Paired S) bad x x) :
    Lockstep (Paired S) bad (onMachine x : Action (Session ν) α) (onMachine x) := by
  intro s t hst hgood
  obtain ⟨hv, he, hm⟩ := h s.machine t.machine hst.machine hgood
  exact ⟨hv, he, hm, hst.video⟩

variable [Video ν]

/-- What happens in a session. -/
inductive Step where
  | tick
  /-- A look at the interrupts. -/
  | service
  | turn
  | host (act : Action Bus Unit)

namespace Step

/-- What a step does. -/
def perform : Step → Action (Session ν) Unit
  | tick => discard (onMachine Machine.tick)
  | service => discard (onMachine Machine.serviceInterrupts)
  | turn => videoTurn
  | host act => onMachine (Machine.onBus act)

/-- Whether a step of the host ensures a relation between buses. -/
def Ensures (R : Bus → List Event → Bus → Prop) : Step → Prop
  | host act => act.Ensures R
  | _ => True

/-- Whether a step of the host is a visit whose adjustments have a property. -/
def Visits (p : Adjustment → Prop) : Step → Prop
  | host act => Visit p act
  | _ => True

end Step

/-- One step after the other. -/
def undergo : List Step → Action (Session ν) Unit
  | [] => return
  | step :: steps => do
    step.perform
    undergo steps

variable {p : Adjustment → Prop} {step : Step} {steps : List Step}

/-! ## One run -/

/-- A step ensures what its parts respect, if the video and the host ensure it too. -/
lemma perform_ensures_of (hR : Bus.Respected R) (hlift : Bus.disableBoot.Ensures R)
    (hvideo : ∀ v : ν, (Video.turn v).Ensures R) (h : step.Ensures R) :
    (step.perform : Action (Session ν) Unit).Ensures (OnBuses R) := by
  have hC : Composes fun (s : Session ν) es s' => OnBuses R s es s' := onBuses_composes hR.toComposes
  cases step with
  | tick =>
    have htick : (onMachine Machine.tick : Action (Session ν) Bool).Ensures (OnBuses R) :=
      fun s => Machine.tick_ensures hR hlift s.machine
    exact .bind hC htick fun _ => .pure hC _
  | service =>
    have hservice : (onMachine Machine.serviceInterrupts : Action (Session ν) _).Ensures (OnBuses R) :=
      fun s => Machine.serviceInterrupts_ensures hR s.machine
    exact .bind hC hservice fun _ => .pure hC _
  | turn => exact fun s => hvideo s.video s.machine.bus
  | host act => exact fun s => h s.machine.bus

/-- A run of any length respects what each of its steps respects. -/
theorem undergo_ensures_of (hR : Bus.Respected R) (hlift : Bus.disableBoot.Ensures R)
    (hvideo : ∀ v : ν, (Video.turn v).Ensures R) (h : ∀ step ∈ steps, step.Ensures R) :
    (undergo steps : Action (Session ν) Unit).Ensures (OnBuses R) := by
  have hC : Composes fun (s : Session ν) es s' => OnBuses R s es s' := onBuses_composes hR.toComposes
  induction steps with
  | nil => exact .pure hC _
  | cons step steps ih =>
    obtain ⟨hstep, hsteps⟩ := List.forall_mem_cons.mp h
    exact .bind hC (perform_ensures_of hR hlift hvideo hstep) fun _ => ih hsteps

/-- A step of visits respects what its visits respect. -/
lemma Step.Visits.ensures (hR : Bus.Respected R)
    (hadjust : ∀ a, p a → ∀ bus, R bus [] (a.apply bus)) (h : step.Visits p) : step.Ensures R := by
  cases step with
  | tick | service | turn => trivial
  | host act => exact Visit.ensures hR hadjust h

/-- A step respects what everything on a bus respects, if its adjustments do. -/
lemma perform_ensures (hR : Bus.Respected R) (hlift : Bus.disableBoot.Ensures R)
    (hadjust : ∀ a, p a → ∀ bus, R bus [] (a.apply bus)) (hvideo : ∀ v : ν, Visit p (Video.turn v))
    (h : step.Visits p) : (step.perform : Action (Session ν) Unit).Ensures (OnBuses R) :=
  perform_ensures_of hR hlift (fun v => (hvideo v).ensures hR hadjust) (h.ensures hR hadjust)

/-- A run of any length respects what its parts respect. -/
theorem undergo_ensures (hR : Bus.Respected R) (hlift : Bus.disableBoot.Ensures R)
    (hadjust : ∀ a, p a → ∀ bus, R bus [] (a.apply bus)) (hvideo : ∀ v : ν, Visit p (Video.turn v))
    (h : ∀ step ∈ steps, step.Visits p) :
    (undergo steps : Action (Session ν) Unit).Ensures (OnBuses R) :=
  undergo_ensures_of hR hlift (fun v => (hvideo v).ensures hR hadjust)
    fun step hs => (h step hs).ensures hR hadjust

section Chronicles

variable {q : Bus.Incident → Prop} (hq : ∀ i : Bus.Incident, i.IsPlain → q i)
  (hvideo : ∀ v : ν, (Video.turn v).Ensures (Bus.Chronicled q))
include hq hvideo

/-- What a step does to the bus is told by a chronicle, if video and host use the bus by its
operations. -/
lemma perform_chronicled (h : step.Ensures (Bus.Chronicled q)) (s : Session ν) :
    Bus.Chronicled q s.machine.bus (step.perform s).events (step.perform s).state.machine.bus :=
  perform_ensures_of (Bus.chronicled_respected hq) (Bus.disableBoot_chronicled hq) hvideo h s

/-- What a run does to the bus has a chronicle. -/
lemma undergo_chronicled (h : ∀ step ∈ steps, step.Ensures (Bus.Chronicled q)) (s : Session ν) :
    Bus.Chronicled q s.machine.bus (undergo steps s).events (undergo steps s).state.machine.bus :=
  undergo_ensures_of (Bus.chronicled_respected hq) (Bus.disableBoot_chronicled hq) hvideo h s

end Chronicles

/-! ## Two runs -/

/-- The turn of the video goes the same way in two sessions if it does on their buses. -/
lemma videoTurn_lockstep (h : ∀ v : ν, Lockstep S bad (Video.turn v) (Video.turn v)) :
    Lockstep (Paired S) bad (videoTurn : Action (Session ν) Unit) videoTurn := by
  intro s t hst hgood
  obtain ⟨hv, he, hb⟩ := h s.video s.machine.bus t.machine.bus hst.machine.bus hgood
  unfold videoTurn
  rw [hst.video]
  exact ⟨rfl, he, ⟨hst.machine.cpu, hb⟩, hv⟩

/-- Steps go the same way in two sessions if their visits do. -/
lemma perform_lockstep (hS : Bus.Coupled S bad)
    (hvisit : ∀ {α : Type} {x : Action Bus α}, Visit p x → Lockstep S bad x x)
    (hvideo : ∀ v : ν, Visit p (Video.turn v)) (h : step.Visits p) :
    Lockstep (Paired S) bad (step.perform : Action (Session ν) Unit) step.perform := by
  cases step with
  | tick => exact .bind (onMachine_lockstep (Machine.tick_lockstep hS)) fun _ => .pure _
  | service =>
    exact .bind (onMachine_lockstep (Machine.serviceInterrupts_lockstep hS)) fun _ => .pure _
  | turn => exact videoTurn_lockstep fun v => hvisit (hvideo v)
  | host act => exact onMachine_lockstep (Machine.onBus_lockstep (hvisit h))

/-- Two sessions that go the same way in each step do so in runs of any length. -/
theorem undergo_lockstep (hS : Bus.Coupled S bad)
    (hvisit : ∀ {α : Type} {x : Action Bus α}, Visit p x → Lockstep S bad x x)
    (hvideo : ∀ v : ν, Visit p (Video.turn v)) (h : ∀ step ∈ steps, step.Visits p) :
    Lockstep (Paired S) bad (undergo steps : Action (Session ν) Unit) (undergo steps) := by
  induction steps with
  | nil => exact .pure _
  | cons step steps ih =>
    obtain ⟨hstep, hsteps⟩ := List.forall_mem_cons.mp h
    exact .bind (perform_lockstep hS hvisit hvideo hstep) fun _ => ih hsteps

end GameBoy.Session
