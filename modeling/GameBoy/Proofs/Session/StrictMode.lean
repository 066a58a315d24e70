import GameBoy.Proofs.Bus.Strictness
import GameBoy.Proofs.Session.Steps

/-!
# Strict mode

In strict mode nothing that happens in a session reaches the cartridge, and the bus has a fault as soon
as something tries to (`strict_mode_protects_rom`). Apart from that, strict mode changes nothing: until
the first trespass a strict session goes the same way as one that is not (`strict_mode_conservative`).
-/

namespace GameBoy.Session

open GameBoy.Action (Lockstep)
open Bus (Visit Adjustment Watched Protected Twins)

/-- In strict mode the cartridge image, its part of the map and the boot image stay as they are, as long
as collaborators only read and write, signal, and change what lies outside of the map. The bus has a
fault exactly if it had one before or was trespassed on. A trespass on a strict bus changes nothing but
the fault, and a bank selection nothing but the place of the window. -/
theorem strict_mode_protects_rom {ν : Type} [Video ν]
    (hvideo : ∀ v : ν, Visit Adjustment.HandsOff (Video.turn v)) (s : Session ν)
    (hstrict : s.machine.bus.strict = true) (steps : List Step)
    (hsteps : ∀ step ∈ steps, step.Visits Adjustment.HandsOff) :
    let before := s.machine.bus
    let done := undergo steps s
    let bus := done.state.machine.bus
    -- what stays
    (∀ addr : UInt16, addr < 0x8000 → bus.map.get addr.toNat = before.map.get addr.toNat) ∧
    bus.cartridge = before.cartridge ∧ bus.boot = before.boot ∧
    -- when the bus has a fault
    (bus.fault ≠ none ↔
      before.fault ≠ none ∨ ∃ e ∈ done.events, Trespass before.window.mode e) ∧
    -- what a single write does
    ∀ (bus : Bus) (addr : UInt16) (v : UInt8), bus.strict = true →
      (Trespass bus.window.mode (.write addr v) →
        (Bus.write addr v bus).state = { bus with fault := some (.romWrite addr v) }) ∧
      (bus.window.selects addr = true →
        (Bus.write addr v bus).state = { bus with window := bus.window.select v }) := by
  intro before done bus
  have hp : Protected before done.events bus :=
    undergo_ensures Bus.protected_respected Bus.disableBoot_protected
      (fun _ ha bus => Bus.adjust_protected ha bus) hvideo hsteps s
  have hw : Watched before done.events bus :=
    undergo_ensures Bus.watched_respected Bus.disableBoot_watched
      (fun a _ bus => Bus.adjust_watched a bus) hvideo hsteps s
  refine ⟨fun addr ha => hp.map hstrict ha, hp.cartridge, hp.boot, ?_, fun bus addr v hs => ⟨?_, ?_⟩⟩
  · rw [hw.fault]
    exact or_congr_right (and_iff_right hstrict)
  · intro ht
    obtain ⟨ha, hsel⟩ := (Bus.trespass_write_iff bus addr v).mp ht
    exact Bus.write_refuse v hsel ha hs
  · exact Bus.write_select v

/-- A video that writes to the cartridge in its first turn, and a host that does so later. -/
theorem strict_mode_protects_rom_scripted :
    let bus : Bus := { Bus.new (Clock.steady 0 1) with strict := true }
    let s : Session Scripted :=
      { machine := Machine.new bus, video := { script := [(1, .write 0x1000 7)] } }
    let done := undergo [.tick, .turn, .host (Bus.write 0x2000 1)] s
    (∀ addr : UInt16, addr < 0x8000 →
      done.state.machine.bus.map.get addr.toNat = bus.map.get addr.toNat) ∧
    done.state.machine.bus.fault ≠ none := by
  intro bus s done
  have hvideo (v : Scripted) : Visit Adjustment.HandsOff (Video.turn v) :=
    v.turn_visit.mono fun _ => Adjustment.IsSignal.handsOff
  have hsteps : ∀ step ∈ ([.tick, .turn, .host (Bus.write 0x2000 1)] : List Step),
      step.Visits Adjustment.HandsOff := by
    simp only [List.forall_mem_cons]
    exact ⟨trivial, trivial, .write _ _, nofun⟩
  obtain ⟨hmap, -, -, hfault, -⟩ := strict_mode_protects_rom hvideo s rfl _ hsteps
  have hwrite : Event.write 0x1000 7 ∈ done.events := by decide +kernel
  exact ⟨hmap, hfault.mpr (.inr ⟨_, hwrite, by decide, nofun⟩)⟩

/-! ## Two sessions -/

variable {ν : Type}

/-- The session in strict mode or not. -/
def withStrict (s : Session ν) (strict : Bool) : Session ν :=
  { s with machine := { s.machine with bus := s.machine.bus.withStrict strict } }

variable {mode : BankMode} {x : Action (Session ν) Unit} {s t : Session ν}

/-- A session is made strict only if it was not. -/
lemma withStrict_self {strict : Bool} (h : s.machine.bus.strict = strict) :
    s.withStrict strict = s := by
  subst h
  rfl

/-- Paired sessions differ in whether they are strict, and in nothing else. -/
lemma Paired.eq_withStrict {strict : Bool} (h : Paired (Twins mode) s t)
    (ht : t.machine.bus.strict = strict) : t = s.withStrict strict := by
  obtain ⟨⟨hcpu, -, strict, hbus⟩, hvideo⟩ := h
  obtain ⟨⟨cpu, bus⟩, video⟩ := t
  dsimp only at hcpu hbus hvideo ht
  subst hcpu hbus hvideo ht
  rfl

/-- What goes the same way whether the bus is strict or not, until the first trespass, and makes a fault
of trespasses alone. -/
structure Conservative (mode : BankMode) (x : Action (Session ν) Unit) : Prop where
  twins : Lockstep (Paired (Twins mode)) (Trespass mode) x x
  watched : x.Ensures (OnBuses Watched)

/-- What is conservative makes the same of two sessions if nothing trespasses in the one that is not
strict. -/
lemma Conservative.eq_of_no_trespass (hx : Conservative mode x)
    (hmode : s.machine.bus.window.mode = mode)
    (h : ∀ e ∈ (x (s.withStrict false)).events, ¬Trespass mode e) :
    (x (s.withStrict true)).state = (x (s.withStrict false)).state.withStrict true ∧
      (x (s.withStrict true)).events = (x (s.withStrict false)).events := by
  have hpaired : Paired (Twins mode) (s.withStrict false) (s.withStrict true) :=
    ⟨⟨rfl, hmode, true, rfl⟩, rfl⟩
  obtain ⟨-, he, hpaired⟩ := hx.twins _ _ hpaired h
  have hw : Watched _ _ _ := hx.watched (s.withStrict true)
  exact ⟨hpaired.eq_withStrict hw.strict, he⟩

/-- The strict session has no fault exactly if nothing trespasses in the other one. -/
lemma Conservative.fault_eq_none_iff (hx : Conservative mode x)
    (hmode : s.machine.bus.window.mode = mode) (hfault : s.machine.bus.fault = none) :
    (x (s.withStrict true)).state.machine.bus.fault = none ↔
      ∀ e ∈ (x (s.withStrict false)).events, ¬Trespass mode e := by
  have hw : Watched _ _ _ := hx.watched (s.withStrict true)
  have hstrict : (x (s.withStrict true)).state.machine.bus.fault = none ↔
      ∀ e ∈ (x (s.withStrict true)).events, ¬Trespass mode e := by
    rw [hw.fault_eq_none_iff, ← hmode]
    exact ⟨fun h => h.2 rfl, fun h => ⟨hfault, fun _ => h⟩⟩
  rw [hstrict]
  constructor
  · intro h
    -- here the strict session is the first one
    have hpaired : Paired (Twins mode) (s.withStrict true) (s.withStrict false) :=
      ⟨⟨rfl, hmode, false, rfl⟩, rfl⟩
    rw [(hx.twins _ _ hpaired h).2.1]
    exact h
  · intro h
    rw [(hx.eq_of_no_trespass hmode h).2]
    exact h

variable [Video ν] {p : Adjustment → Prop} {step : Step} {steps : List Step}

/-- A step goes the same way whether the bus is strict or not, up to a trespass. -/
lemma perform_conservative (hvideo : ∀ v : ν, Visit p (Video.turn v)) (h : step.Visits p) :
    Conservative mode (step.perform : Action (Session ν) Unit) where
  twins := perform_lockstep Bus.twins_coupled Visit.twins hvideo h
  watched := perform_ensures Bus.watched_respected Bus.disableBoot_watched
    (fun a _ bus => Bus.adjust_watched a bus) hvideo h

/-- A run goes the same way whether the bus is strict or not, up to a trespass. -/
lemma undergo_conservative (hvideo : ∀ v : ν, Visit p (Video.turn v))
    (h : ∀ step ∈ steps, step.Visits p) :
    Conservative mode (undergo steps : Action (Session ν) Unit) where
  twins := undergo_lockstep Bus.twins_coupled Visit.twins hvideo h
  watched := undergo_ensures Bus.watched_respected Bus.disableBoot_watched
    (fun a _ bus => Bus.adjust_watched a bus) hvideo h

/-- Strict mode changes nothing until the first trespass. Of two sessions that are the same, but for that
one is strict, the strict one has no fault exactly if nothing trespasses in the other, whatever happens
in them. Then they are the same again, but for that, and have made the same events; and the next step is
the one at which the strict session gets a fault exactly if it trespasses in the other one. -/
theorem strict_mode_conservative {ν : Type} [Video ν]
    (hvideo : ∀ v : ν, Visit (fun _ => True) (Video.turn v))
    (s : Session ν) (hfault : s.machine.bus.fault = none) (steps : List Step)
    (hsteps : ∀ step ∈ steps, step.Visits fun _ => True) :
    let mode := s.machine.bus.window.mode
    let lax := undergo steps (s.withStrict false)
    let strict := undergo steps (s.withStrict true)
    (strict.state.machine.bus.fault = none ↔ ∀ e ∈ lax.events, ¬Trespass mode e) ∧
    (strict.state.machine.bus.fault = none →
      strict.state = lax.state.withStrict true ∧ strict.events = lax.events ∧
      ∀ step : Step, step.Visits (fun _ => True) →
        ((step.perform strict.state).state.machine.bus.fault ≠ none ↔
          ∃ e ∈ (step.perform lax.state).events, Trespass mode e)) := by
  intro mode lax strict
  have hx : Conservative mode (undergo steps : Action (Session ν) Unit) :=
    undergo_conservative hvideo hsteps
  have hiff : strict.state.machine.bus.fault = none ↔ ∀ e ∈ lax.events, ¬Trespass mode e :=
    hx.fault_eq_none_iff rfl hfault
  refine ⟨hiff, fun h => ?_⟩
  obtain ⟨hstate, hevents⟩ : strict.state = lax.state.withStrict true ∧ strict.events = lax.events :=
    hx.eq_of_no_trespass rfl (hiff.mp h)
  refine ⟨hstate, hevents, fun step hstep => ?_⟩
  -- one more step, from where the session that is not strict stands
  have hw : Watched _ _ _ := hx.watched (s.withStrict false)
  have hlax : lax.state.withStrict false = lax.state := withStrict_self hw.strict
  have hfault' : lax.state.machine.bus.fault = none := hw.fault_eq_none_iff.mpr ⟨hfault, nofun⟩
  have hperform : Conservative mode (step.perform : Action (Session ν) Unit) :=
    perform_conservative hvideo hstep
  have hnext := hperform.fault_eq_none_iff (s := lax.state) hw.mode hfault'
  rw [hlax, ← hstate] at hnext
  rw [ne_eq, hnext]
  simp only [Classical.not_forall, Classical.not_not, exists_prop]

/-- A tick in which nothing trespasses, and then a turn of a video that does. -/
theorem strict_mode_conservative_scripted :
    let s : Session Scripted :=
      { machine := Machine.new (Bus.new (Clock.steady 0 1)),
        video := { script := [(1, .write 0x1000 7)] } }
    let lax := undergo [.tick] (s.withStrict false)
    let strict := undergo [.tick] (s.withStrict true)
    strict.state = lax.state.withStrict true ∧
      (Step.turn.perform lax.state).state.machine.bus.fault = none ∧
      (Step.turn.perform strict.state).state.machine.bus.fault ≠ none := by
  intro s lax strict
  have hvideo (v : Scripted) : Visit (fun _ => True) (Video.turn v) :=
    v.turn_visit.mono fun _ _ => trivial
  have hsteps : ∀ step ∈ ([.tick] : List Step), step.Visits fun _ => True :=
    List.forall_mem_singleton.mpr trivial
  obtain ⟨hiff, hsame⟩ := strict_mode_conservative hvideo s rfl [.tick] hsteps
  obtain ⟨hstate, -, hnext⟩ := hsame (hiff.mpr (by decide +kernel))
  have hwrite : Event.write 0x1000 7 ∈ (Step.turn.perform lax.state).events := by decide +kernel
  exact ⟨hstate, by decide +kernel, (hnext .turn trivial).mpr ⟨_, hwrite, by decide⟩⟩

end GameBoy.Session
