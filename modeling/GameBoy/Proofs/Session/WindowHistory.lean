import GameBoy.Proofs.Bus.Window
import GameBoy.Proofs.Session.Steps

/-!
# The bank window over a history

A cartridge shows its image right after it is loaded. Whatever happens in a session afterwards, in a
banked one the window shows the loaded image at the place that was chosen last, and the choices
change neither the image nor the map (`bank_window_over_history`).
-/

namespace GameBoy.Session

open Bus (Visit Adjustment Steered Spared)

/-- The bank window. Right after an image is loaded the lower half shows it, as far as it reaches. If
the image is one of a banked cartridge, then after any history without patches the addresses from
0x4000 to 0x7fff show the loaded image at the place that the byte written last from 0x2000 to 0x7fff
chose, and 0xff past its end. The place never leads out of the part of an image that five bits can
reach. The history changes neither the image nor, where nothing is stored past the bus, the map behind
the addresses that take bank numbers. -/
theorem bank_window_over_history {ν : Type} [Video ν]
    (hvideo : ∀ v : ν, Visit Adjustment.KeepsImage (Video.turn v))
    (bus : Bus) (image : Image) (cpu : Cpu) (video : ν) (steps : List Step)
    (hsteps : ∀ step ∈ steps, step.Visits Adjustment.KeepsImage) :
    let loaded := (Bus.loadRom image bus).state
    let done := undergo steps { machine := { cpu, bus := loaded }, video }
    let after := done.state.machine.bus
    (bus.bootMapped = false → ∀ (addr : UInt16) (h : addr.toNat < image.size), addr < 0x8000 →
      (Bus.read addr loaded).value = image[addr.toNat]) ∧
    (image[0x147]? = some 1 →
      (∀ addr : UInt16, 0x4000 ≤ addr → addr < 0x8000 →
        let offset := chosenPlace done.events * 0x2000 + addr.toNat - 0x2000
        0x4000 ≤ offset ∧ offset ≤ 0x43fff ∧
          (Bus.read addr after).value = image[offset]?.getD 0xff) ∧
      after.cartridge = image ∧
      ∀ addr : UInt16, 0x2000 ≤ addr → addr < 0x8000 →
        (∀ v : ν, Visit (Adjustment.Spares addr) (Video.turn v)) →
        (∀ step ∈ steps, step.Visits (Adjustment.Spares addr)) →
        after.map.get addr.toNat = loaded.map.get addr.toNat) := by
  intro loaded done after
  have hloaded : loaded = bus.inserted image := Bus.loadRom_state bus image
  refine ⟨fun hb addr h ha => ?_, fun hbanked => ?_⟩
  · rw [hloaded, Bus.read_value]
    exact Bus.shown_inserted bus image h ha hb
  · have hmode : loaded.window.mode = .banked := by
      rw [hloaded]
      simp [Bus.inserted, Header.parse, BankMode.ofCartType, hbanked]
    have hbank : loaded.window.bank = 0 := by rw [hloaded]; rfl
    have hsteered : Steered loaded done.events after :=
      undergo_ensures Bus.steered_respected Bus.disableBoot_steered
        (fun _ ha bus => Bus.adjust_steered ha bus) hvideo hsteps
        { machine := { cpu, bus := loaded }, video }
    have hcart : after.cartridge = image := by
      rw [hsteered.cartridge, hloaded]
      rfl
    refine ⟨fun addr ha ha' => ?_, hcart, fun addr ha ha' hvideo hsteps => ?_⟩
    · obtain ⟨hlow, hhigh⟩ := chosenPlace_bounds done.events
      have hlow' : 0x4000 ≤ addr.toNat := ha
      have hhigh' : addr.toNat < 0x8000 := ha'
      refine ⟨by omega, by omega, ?_⟩
      rw [Bus.read_value, Bus.shown_window (hsteered.mode.trans hmode) ha ha', hcart,
        hsteered.place hmode hbank]
    · have hspared : Spared addr loaded done.events after :=
        undergo_ensures (Bus.spared_respected addr) (Bus.disableBoot_spared addr)
          (fun _ h bus => Bus.adjust_spared h bus) hvideo hsteps
          { machine := { cpu, bus := loaded }, video }
      exact (hspared ((BankWindow.selects_iff _ _).mpr ⟨hmode, ha, ha'⟩)).2

/-- A video that chooses bank 2 in its first turn, in a strict session: the window leads past the end of
a short image. -/
theorem bank_window_over_history_scripted :
    let image : Image := (Array.replicate 0x148 0).set! 0x147 1
    let bus : Bus := { Bus.new (Clock.steady 0 1) with strict := true }
    let loaded := (Bus.loadRom image bus).state
    let video : Scripted := { script := [(1, .write 0x6000 2)] }
    let done := undergo [.tick, .turn] { machine := { cpu := {}, bus := loaded }, video }
    chosenPlace done.events = 2 ∧ (Bus.read 0x4000 done.state.machine.bus).value = 0xff ∧
      done.state.machine.bus.cartridge = image ∧
      done.state.machine.bus.map.get 0x6000 = loaded.map.get 0x6000 := by
  intro image bus loaded video done
  have hvideo {p : Adjustment → Prop} (hp : ∀ a : Adjustment, a.IsSignal → p a) (v : Scripted) :
      Visit p (Video.turn v) :=
    v.turn_visit.mono hp
  have hsteps (p : Adjustment → Prop) : ∀ step ∈ ([.tick, .turn] : List Step), step.Visits p := by
    simp only [List.forall_mem_cons]
    exact ⟨trivial, trivial, nofun⟩
  have hplace : chosenPlace done.events = 2 := by decide +kernel
  obtain ⟨-, hbanked⟩ := bank_window_over_history (hvideo fun _ => Adjustment.IsSignal.keepsImage)
    bus image {} video [.tick, .turn] (hsteps _)
  obtain ⟨hshown, hcart, hmap⟩ := hbanked (by decide +kernel)
  have hpast : image[2 * 0x2000 + (0x4000 : UInt16).toNat - 0x2000]?.getD 0xff = 0xff := by
    decide +kernel
  refine ⟨hplace, ?_, hcart, ?_⟩
  · obtain ⟨-, -, hshown⟩ := hshown 0x4000 (by decide) (by decide)
    rw [hshown, hplace, hpast]
  · exact hmap 0x6000 (by decide) (by decide)
      (hvideo fun _ => Adjustment.IsSignal.spares) (hsteps _)

end GameBoy.Session
