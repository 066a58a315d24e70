import GameBoy.Bus.Loading
import GameBoy.Machine.Injection
import GameBoy.Proofs.Bus.Overlay
import GameBoy.Proofs.Bus.Patching
import GameBoy.Proofs.Machine.Respected
import GameBoy.Proofs.Repetition

/-!
# What injected code leaves behind

The bytes that injected code replaces are put back through the window of the cartridge as it stands
when the code has run. If it stands where it stood before, nothing of the code is kept; if the code
has chosen another bank, the bytes go there and the code stays where it was (`inject_restores`).
-/

namespace GameBoy

namespace Bus

/-- The bus with the boot image lifted. -/
def lifted (bus : Bus) : Bus := { bus with bootMapped := false }

/-- The boot image covers addresses, not cells. -/
lemma byte_lifted (bus : Bus) (c : Cell) : bus.lifted.byte c = bus.byte c := by cases c <;> rfl

/-- No access reaches the cartridge image, its kind or the boot image, or maps the boot image. -/
structure Inserted (bus : Bus) (_ : List Event) (bus' : Bus) : Prop where
  cartridge : bus'.cartridge = bus.cartridge
  mode : bus'.window.mode = bus.window.mode
  boot : bus'.boot = bus.boot
  lifted : bus.bootMapped = false → bus'.bootMapped = false

/-- A write changes neither the cartridge image nor the kind of the window. -/
lemma write_cartridge (bus : Bus) (addr : UInt16) (v : UInt8) :
    (write addr v bus).state.cartridge = bus.cartridge ∧
      (write addr v bus).state.window.mode = bus.window.mode := by
  obtain ⟨_, _, _, _, _, _, e, hmode, -⟩ := write_reaches bus addr v
  rw [e]
  exact ⟨rfl, hmode⟩

/-- A reading changes neither the cartridge image nor the window. -/
lemma read_cartridge (bus : Bus) (addr : UInt16) :
    (read addr bus).state.cartridge = bus.cartridge ∧
      (read addr bus).state.window = bus.window := by
  obtain ⟨_, _, e, -⟩ := read_reaches bus addr
  rw [e]
  exact ⟨rfl, rfl⟩

/-- Whatever happens on a bus, the cartridge stays inserted. -/
lemma inserted_respected : Respected Inserted where
  refl _ := ⟨rfl, rfl, rfl, id⟩
  trans h h' := ⟨h'.cartridge.trans h.cartridge, h'.mode.trans h.mode, h'.boot.trans h.boot,
    h'.lifted ∘ h.lifted⟩
  note _ _ := ⟨rfl, rfl, rfl, id⟩
  flag _ _ := ⟨rfl, rfl, rfl, id⟩
  keys _ _ := ⟨rfl, rfl, rfl, id⟩
  read addr bus := by
    obtain ⟨hc, hw⟩ := read_cartridge bus addr
    obtain ⟨hb, hm⟩ := read_boot bus addr
    exact ⟨hc, congrArg BankWindow.mode hw, hb, hm.trans⟩
  write addr v bus := by
    obtain ⟨hc, hw⟩ := write_cartridge bus addr v
    obtain ⟨hb, hm⟩ := write_boot bus addr v
    refine ⟨hc, hw, hb, fun h => Bool.eq_false_iff.mpr fun h' => ?_⟩
    exact Bool.false_ne_true (h.symm.trans (hm.mp h').1)

/-- Lifting the boot image leaves the cartridge inserted. -/
lemma disableBoot_inserted : disableBoot.Ensures Inserted := by
  intro bus
  rw [disableBoot_state]
  exact ⟨rfl, rfl, rfl, fun _ => rfl⟩

end Bus

namespace Machine

/-- However long injected code runs, it respects what steps respect. -/
lemma runInjected_ensures {R : Machine → List Event → Machine → Prop} (hR : Composes R)
    (hstep : step.Ensures R) (limit : InjectionLimit) : (runInjected limit).Ensures R := by
  have hinjected (stopAtNop : Bool) : (injectedStep stopAtNop).Ensures R :=
    .bind hR hstep fun _ => .ite (fun _ => .pure hR _) fun _ => .bind hR (.get hR) fun _ =>
      .ite (fun _ => .pure hR _) fun _ => .pure hR _
  cases limit with
  | instructions n => exact .bind hR (.upTo hR (hinjected false) n) fun _ => .pure hR _
  | untilNop patience => exact .bind hR (.upTo hR (hinjected true) patience) fun _ => .pure hR _

/-- No injected code reaches the cartridge image, its kind or the boot image. -/
lemma runInjected_inserted (limit : InjectionLimit) (m : Machine) :
    Bus.Inserted m.bus (runInjected limit m).events (runInjected limit m).state.bus :=
  have hR := Bus.inserted_respected
  runInjected_ensures (closed_of_respected hR).toComposes
    (step_ensures hR Bus.disableBoot_inserted) limit m

/-- The machine on which injected code is run. -/
def patched (m : Machine) (code : List UInt8) (addr : UInt16) : Machine where
  cpu := { m.cpu with
    registers := { m.cpu.registers with pc := addr }, debt := 0, halted := false }
  bus := (m.bus.lifted.patch addr code).2

/-- What is left of an injection when its code has run. -/
def restore (before : Machine) (addr : UInt16) (saved : List UInt8) : Action Machine Unit := do
  let _ ← patch addr saved
  modifyCpu fun cpu =>
    { cpu with
      registers := { cpu.registers with pc := before.cpu.registers.pc }
      debt := before.cpu.debt
      halted := before.cpu.halted }
  if before.bus.bootMapped then onBus Bus.enableBoot

/-- An injection patches the code in, runs it and restores what was there. -/
lemma inject_state (m : Machine) (code : List UInt8) (addr : UInt16) (limit : InjectionLimit) :
    (inject code addr limit m).state =
      (restore m addr (m.bus.lifted.patch addr code).1
        (runInjected limit (m.patched code addr)).state).state := by
  have hlift : (onBus Bus.disableBoot m).state = { m with bus := m.bus.lifted } := by
    simp only [onBus, Bus.disableBoot_state, Bus.lifted]
  unfold inject restore
  rw [Action.bind_apply, Action.get_apply]
  dsimp only
  rw [Action.bind_apply, hlift]
  cases m.bus.bootMapped with
  | true => rfl
  | false => rfl

/-- What restoring makes of the bus. -/
lemma restore_bus (before : Machine) (addr : UInt16) (saved : List UInt8) {m : Machine}
    (h : m.bus.bootMapped = false) :
    (restore before addr saved m).state.bus =
      { (m.bus.patch addr saved).2 with bootMapped := before.bus.bootMapped } := by
  have hb : (m.bus.patch addr saved).2.bootMapped = false :=
    (Bus.patch.go_frame _ _ _).2.1.trans h
  unfold restore
  cases before.bus.bootMapped with
  | true => rfl
  | false =>
    have hsame : { (m.bus.patch addr saved).2 with bootMapped := false } =
        (m.bus.patch addr saved).2 := by rw [← hb]
    rw [hsame]
    rfl

/-- An injection is a patch, a stretch of accesses that leave the cartridge alone, and the restoration
of what the patch has saved. -/
lemma inject_bus (m : Machine) (code : List UInt8) (addr : UInt16) (limit : InjectionLimit) :
    ∃ bus : Bus, bus.bootMapped = false ∧
      bus.cartridge = (m.bus.lifted.patch addr code).2.cartridge ∧
      bus.window.mode = m.bus.window.mode ∧
      (inject code addr limit m).state.bus =
        { (bus.patch addr (m.bus.lifted.patch addr code).1).2 with
          bootMapped := m.bus.bootMapped } := by
  obtain ⟨hwindow, hmapped, -⟩ := Bus.patch.go_frame m.bus.lifted addr.toNat code
  have hrun := runInjected_inserted limit (m.patched code addr)
  have hbus := hrun.lifted hmapped
  refine ⟨_, hbus, hrun.cartridge, hrun.mode.trans (congrArg BankWindow.mode hwindow), ?_⟩
  exact (congrArg Machine.bus (inject_state m code addr limit)).trans (restore_bus m addr _ hbus)

/-- The bytes that were behind the address go to where the window leads in the end. The code stays
wherever the window led before, unless one of those bytes goes there, and the rest of the cartridge
image stays as it is. -/
lemma inject_bytes (m : Machine) (code : List UInt8) (addr : UInt16) (limit : InjectionLimit) :
    let before := m.bus
    let after := (inject code addr limit m).state.bus
    let behind i := UInt16.ofNat (addr.toNat + i)
    (∀ i (h : i < code.length), addr.toNat + i < 0x10000 →
      after.byte (after.window.cell (behind i)) = before.byte (before.window.cell (behind i)) ∧
      ((∀ j < code.length, addr.toNat + j < 0x10000 →
          after.window.cell (behind j) ≠ before.window.cell (behind i)) →
        after.byte (before.window.cell (behind i)) = code[i])) ∧
    (∀ o, (∀ i < code.length, addr.toNat + i < 0x10000 →
        before.window.cell (behind i) ≠ .image o ∧ after.window.cell (behind i) ≠ .image o) →
      after.byte (.image o) = before.byte (.image o)) ∧
    before.cartridge.size ≤ after.cartridge.size ∧
    after.bootMapped = before.bootMapped ∧ after.window.mode = before.window.mode := by
  intro before after behind
  obtain ⟨bus, hbus, hcart, hkind, hafter⟩ := inject_bus m code addr limit
  have hlifted : before.lifted.bootMapped = false := rfl
  have hafter : after = { (bus.patch addr (before.lifted.patch addr code).1).2 with
      bootMapped := before.bootMapped } := hafter
  have hbyte (c : Cell) :
      after.byte c = (bus.patch addr (before.lifted.patch addr code).1).2.byte c := by
    rw [hafter]
    cases c <;> rfl
  have hwindow : after.window = bus.window := by
    rw [hafter]
    exact (Bus.patch.go_frame _ _ _).1
  have hmode : after.window.mode = before.window.mode := by rw [hwindow, hkind]
  obtain ⟨hin, hout⟩ := Bus.byte_patch_saved addr code hlifted hbus
  simp only [← hbyte, ← hwindow, Bus.byte_lifted] at hin hout
  -- what the run finds in the image is what the patch has left there
  have himage (o : Nat) : bus.byte (.image o) = (before.lifted.patch addr code).2.byte (.image o) := by
    rw [Bus.byte, Bus.byte, hcart]
  refine ⟨fun i hi hai => ⟨hin i hi hai, fun h => ?_⟩, fun o h => ?_, ?_, by rw [hafter], hmode⟩
  · -- only a byte of the image can have been left behind
    cases e : before.window.offset? (behind i) with
    | none => exact absurd (BankWindow.cell_congr hmode (.inr e)) (h i hi hai)
    | some o =>
      rw [hout _ fun j hj haj => (h j hj haj).symm, BankWindow.cell_of_some e, himage,
        ← BankWindow.cell_of_some e]
      exact Bus.patch.byte_go_inside hlifted hi hai
  · rw [hout _ fun i hi hai => (h i hi hai).2.symm, himage, ← Bus.byte_lifted]
    exact Bus.patch.byte_go_outside hlifted fun i hi hai => (h i hi hai).1.symm
  · have hpatch : before.cartridge.size ≤ bus.cartridge.size := by
      rw [hcart]
      exact (Bus.patch.go_frame before.lifted _ _).2.2
    rw [hafter]
    exact Nat.le_trans hpatch (Bus.patch.go_frame bus _ _).2.2

/-- What injected code leaves behind. The bytes that were behind the address go to where the window
leads in the end, and the code stays wherever the window led before and leads no more. So nothing of
the code is kept in the map, and nothing in the cartridge if the window has not moved, whatever else
the code has done; the image has then at most grown by bytes 0xff. -/
theorem inject_restores (m : Machine) (code : List UInt8) (addr : UInt16) (limit : InjectionLimit) :
    let before := m.bus
    let after := (inject code addr limit m).state.bus
    let behind i := UInt16.ofNat (addr.toNat + i)
    let unmoved i := after.window.place = before.window.place ∨ before.window.offset? (behind i) = none
    -- where the window has not moved
    (∀ i < code.length, addr.toNat + i < 0x10000 → unmoved i →
      after.byte (before.window.cell (behind i)) = before.byte (before.window.cell (behind i))) ∧
    ((∀ i < code.length, addr.toNat + i < 0x10000 → unmoved i) →
      ∃ n, after.cartridge = before.cartridge ++ Array.replicate n 0xff) ∧
    -- wherever it stands
    (∀ i (h : i < code.length), addr.toNat + i < 0x10000 →
      after.byte (after.window.cell (behind i)) = before.byte (before.window.cell (behind i)) ∧
      ((∀ j < code.length, addr.toNat + j < 0x10000 →
          after.window.cell (behind j) ≠ before.window.cell (behind i)) →
        after.byte (before.window.cell (behind i)) = code[i])) ∧
    (∀ o, (∀ i < code.length, addr.toNat + i < 0x10000 →
        before.window.cell (behind i) ≠ .image o ∧ after.window.cell (behind i) ≠ .image o) →
      after.byte (.image o) = before.byte (.image o)) := by
  intro before after behind unmoved
  obtain ⟨hbytes, hrest, hsize, -, hmode⟩ := inject_bytes m code addr limit
  have hunmoved (i : Nat) (hi : i < code.length) (hai : addr.toNat + i < 0x10000) (h : unmoved i) :
      after.byte (before.window.cell (behind i)) = before.byte (before.window.cell (behind i)) := by
    have hcell := BankWindow.cell_congr hmode h
    have hi := (hbytes i hi hai).1
    rwa [hcell] at hi
  refine ⟨hunmoved, fun h => ⟨_, Bus.image_eq_append hsize fun o => ?_⟩, hbytes, hrest⟩
  by_cases hc : ∃ i < code.length, addr.toNat + i < 0x10000 ∧
      before.window.cell (behind i) = .image o
  · obtain ⟨i, hi, hai, e⟩ := hc
    have hi := hunmoved i hi hai (h i hi hai)
    rwa [e] at hi
  · refine hrest o fun i hi hai => ?_
    rw [BankWindow.cell_congr hmode (h i hi hai)]
    exact ⟨fun e => hc ⟨i, hi, hai, e⟩, fun e => hc ⟨i, hi, hai, e⟩⟩

/-- Code that chooses another bank is kept in the one that it leaves: the last of the four bytes that
are injected across the beginning of the window stays in the image, which ended long before. -/
theorem inject_leaves_code :
    let image : Image := (Array.replicate 0x147 0).push 1
    let m : Machine :=
      { cpu := { registers := { a := 2 } }
        bus := (Bus.loadRom image (Bus.new (.steady 0 0))).state }
    let done := inject [0xea, 0x00, 0x20, 0x77] 0x3ffd (.instructions 1) m
    done.value = some 1 ∧ m.bus.window.cell 0x4000 = .image 0x4000 ∧
      m.bus.byte (.image 0x4000) = 0xff ∧ done.state.bus.byte (.image 0x4000) = 0x77 ∧
      ¬∃ n, done.state.bus.cartridge = m.bus.cartridge ++ Array.replicate n 0xff := by
  intro image m done
  have hwindow : (inject [0xea, 0x00, 0x20, 0x77] 0x3ffd (.instructions 1) m).state.bus.window =
      { mode := .banked, bank := 2 } := by decide +kernel
  have hcell : m.bus.window.cell 0x4000 = .image 0x4000 := by decide +kernel
  have hbefore : m.bus.byte (.image 0x4000) = 0xff := by decide +kernel
  have hsize : m.bus.cartridge.size ≤ 0x4000 := by decide +kernel
  have hleft : done.state.bus.byte (.image 0x4000) = 0x77 := by
    have h := ((inject_bytes m [0xea, 0x00, 0x20, 0x77] 0x3ffd (.instructions 1)).1 3 (by decide)
      (by decide)).2
    have hfirst : UInt16.ofNat ((0x3ffd : UInt16).toNat + 3) = 0x4000 := by decide
    dsimp only at h
    rw [hfirst, hcell] at h
    refine h fun j hj _ => ?_
    rw [hwindow]
    have hne : ∀ j < 4, BankWindow.cell { mode := .banked, bank := 2 }
        (UInt16.ofNat ((0x3ffd : UInt16).toNat + j)) ≠ .image 0x4000 := by decide
    exact hne j hj
  refine ⟨by decide +kernel, hcell, hbefore, hleft, ?_⟩
  rintro ⟨n, h⟩
  rw [Bus.byte, h, Bus.getD_append_replicate _ n hsize] at hleft
  exact absurd hleft (by decide)

end Machine

end GameBoy
