import GameBoy.Proofs.Bus.Patching

/-!
# Readings of a patched bus

Apart from the joypad and the scanline counter, a reading answers with the byte behind its address
(`shown_eq_peek`), so that what a patch does to the bytes shows in readings: at the addresses of the
patch and nowhere else, and not at all when the saved bytes are patched in again
(`patch_faithful_and_undone`).
-/

namespace GameBoy.Bus

variable {bus bus' : Bus} {addr : UInt16}

/-- In the upper half nothing stands before the map. -/
lemma peek_of_romEnd_le (bus : Bus) (h : romEnd ≤ addr) : bus.peek addr = bus.map.get addr.toNat := by
  have hboot : ¬addr < bootEnd := by grind [romEnd, bootEnd]
  have hwindow : bus.window.offset? addr = none :=
    BankWindow.offset?_eq_none fun hin => UInt16.not_lt.mpr h hin.2
  simp [peek, hboot, hwindow]

/-- Only two registers answer with something else than the byte behind them. -/
lemma shown_eq_peek (bus : Bus) (hp1 : addr ≠ 0xff00) (hly : addr ≠ 0xff44) :
    bus.shown addr = bus.peek addr := by
  unfold shown
  cases e : IoRegister.ofAddr? addr with
  | none => rfl
  | some r =>
    obtain rfl := IoRegister.ofAddr?_eq_some_iff.mp e
    rw [peek_of_romEnd_le bus (by cases r <;> decide)]
    cases r with
    | p1 => exact absurd rfl hp1
    | ly => exact absurd rfl hly
    | _ => rfl

/-- What is behind an address, the joypad and the scanline counter decide what it answers with. -/
lemma shown_congr_peek (hpeek : bus'.peek addr = bus.peek addr) (hpad : bus'.joypad = bus.joypad)
    (hline : bus'.scanline = bus.scanline) : bus'.shown addr = bus.shown addr := by
  by_cases hly : addr = 0xff44
  · subst hly
    exact congrArg Scanline.line hline
  · by_cases hp1 : addr = 0xff00
    · subst hp1
      have hio : bus'.io .p1 = bus.io .p1 := by
        rwa [peek_of_romEnd_le _ (by decide), peek_of_romEnd_le _ (by decide)] at hpeek
      change bus'.joypad.read (bus'.io .p1) = bus.joypad.read (bus.io .p1)
      rw [hpad, hio]
    · rw [shown_eq_peek _ hp1 hly, shown_eq_peek _ hp1 hly, hpeek]

/-- A patch shows its bytes behind its addresses. -/
lemma peek_patch_inside (bus : Bus) (addr : UInt16) {bytes : List UInt8} {i : Nat} (hi : i < bytes.length)
    (hai : addr.toNat + i < 0x10000) :
    (bus.patch addr bytes).2.peek (UInt16.ofNat (addr.toNat + i)) = bytes[i] := by
  have h := patch.kept_go_inside bus hi hai
  rwa [← patch.backing_go bus addr.toNat bytes, ← peek_eq_kept] at h

/-- Behind all other addresses are the bytes that were there. -/
lemma peek_patch_outside (bus : Bus) {bytes : List UInt8} {a : UInt16}
    (h : ∀ i < bytes.length, addr.toNat + i < 0x10000 → a ≠ UInt16.ofNat (addr.toNat + i)) :
    (bus.patch addr bytes).2.peek a = bus.peek a := by
  have hbacking : (bus.patch addr bytes).2.backing a = bus.backing a :=
    patch.backing_go bus addr.toNat bytes a
  rw [peek_eq_kept, hbacking, peek_eq_kept]
  exact patch.kept_go_outside fun i hi hai e => h i hi hai (backing_inj e)

/-- Patching is faithful and can be undone. A patch of as many bytes as fit below the end of the
addresses answers with what readings of its addresses showed, the stored bytes at the joypad and the
scanline counter. Afterwards the readings show the new bytes there, these two aside, and everywhere
else what they showed before. Patching the answer in again leaves the map and the boot image as they
were, the cartridge image but for bytes 0xff at its end, and all readings. Nothing else than the bytes
changes in either patch. -/
theorem patch_faithful_and_undone (bus : Bus) (addr : UInt16) (bytes : List UInt8) :
    let len := min bytes.length (0x10000 - addr.toNat)
    let done := bus.patch addr bytes
    let undone := done.2.patch addr done.1
    -- what is saved
    (done.1.length = len ∧
      ∀ i (_ : i < done.1.length), let a := addr + UInt16.ofNat i
        done.1[i] = if a = 0xff00 ∨ a = 0xff44 then bus.map.get a.toNat else (read a bus).value) ∧
    -- what readings show of the patch
    ((∀ i < len, let a := addr + UInt16.ofNat i
        a ≠ 0xff00 → a ≠ 0xff44 → bytes[i]? = some (read a done.2).value) ∧
      ∀ a, (∀ i < len, a ≠ addr + UInt16.ofNat i) →
        (read a done.2).value = (read a bus).value) ∧
    -- what is left of it when it is undone
    (undone.2.map = bus.map ∧ undone.2.boot = bus.boot ∧
      (∃ n, undone.2.cartridge = bus.cartridge ++ Array.replicate n 0xff) ∧
      ∀ a, (read a undone.2).value = (read a bus).value) ∧
    -- what neither of them reaches
    (∃ map boot cartridge, done.2 = { bus with map, boot, cartridge }) ∧
      ∃ cartridge, undone.2 = { bus with cartridge } := by
  intro len done undone
  have haddr (i : Nat) : UInt16.ofNat (addr.toNat + i) = addr + UInt16.ofNat i := by
    rw [UInt16.ofNat_add, UInt16.ofNat_toNat]
  have hlen : done.1.length = len := patch.go_saved_length bus addr.toNat bytes
  obtain ⟨map, boot, cartridge, hdone, -⟩ := patch.go_reaches bus addr.toNat bytes
  have hdone : done.2 = { bus with map, boot, cartridge } := hdone
  obtain ⟨n, hundone⟩ := patch_undone bus addr bytes
  have hundone : undone.2 = _ := hundone
  simp only [read_value]
  refine ⟨⟨hlen, fun i hi => ?_⟩, ⟨fun i hi hp1 hly => ?_, fun a ha => ?_⟩,
    ⟨?_, ?_, ⟨n, ?_⟩, fun a => ?_⟩, ⟨_, _, _, hdone⟩, _, hundone⟩
  -- what is saved
  · have hsaved : done.1[i] = _ := patch.go_saved hi
    rw [hsaved, haddr]
    split
    · next h =>
      refine peek_of_romEnd_le bus ?_
      obtain h | h := h <;> rw [h] <;> decide
    · next h =>
      obtain ⟨hp1, hly⟩ := not_or.mp h
      exact (shown_eq_peek bus hp1 hly).symm
  -- what readings show of the patch
  · have hi' : i < bytes.length := by omega
    have hin := peek_patch_inside bus addr hi' (by omega)
    rw [haddr] at hin
    rw [shown_eq_peek _ hp1 hly, hin, List.getElem?_eq_getElem hi']
  · refine shown_congr_peek (peek_patch_outside bus fun i hi hai => ?_) ?_ ?_
    · rw [haddr]
      exact ha i (by omega)
    · rw [hdone]
    · rw [hdone]
  -- what is left of it when it is undone
  · rw [hundone]
  · rw [hundone]
  · rw [hundone]
  · rw [hundone, shown_grown]

/-- A patch across the end of a mapped boot image, in strict mode: one byte goes to the image and the
next one to the map. -/
example :
    let bus : Bus := { Bus.new (.steady 0 0) with bootMapped := true, strict := true }
    let done := (bus.patch 0xff [7, 8]).2
    done.boot.get 0xff = 7 ∧ done.map.get 0xff = 0 ∧ done.map.get 0x100 = 8 ∧ done.fault = none := by
  decide +kernel

end GameBoy.Bus
