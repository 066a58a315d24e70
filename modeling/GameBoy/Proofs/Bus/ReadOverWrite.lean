import GameBoy.Proofs.Bus.Effects

/-!
# Reading after writing

Which answers a write changes. `shown_congr` says what the answer at an address depends on; a bank
selection, a refused write and a store each change some of that (`shown_write_select`,
`shown_write_refuse`, `shown_write_store`). The law that puts them together is
`read_over_write`.
-/

namespace GameBoy

/-- Storing what is there already changes nothing. -/
lemma Store.set_get_self {n : Nat} (s : Cells n) (a : Nat) (h : a < count n) :
    s.set a (s.get a) = s := by
  refine Store.ext fun b hb => ?_
  by_cases e : b = a
  · rw [e, get_set_self]
  · exact get_set_of_ne s _ h hb e

namespace BankWindow

/-- Bank selections reach from 0x2000 to 0x7fff, in a banked cartridge only. -/
lemma selects_iff (w : BankWindow) (addr : UInt16) :
    w.selects addr = true ↔ w.mode = .banked ∧ 0x2000 ≤ addr ∧ addr < 0x8000 := by
  simp [selects, and_assoc]

/-- Outside of the window nothing is mapped, wherever the window is placed. -/
lemma offset?_eq_none {w : BankWindow} {addr : UInt16} (h : ¬(0x4000 ≤ addr ∧ addr < 0x8000)) :
    w.offset? addr = none := by
  grind [offset?]

/-- A write that is no selection lies outside of the window. -/
lemma offset?_of_not_selects {w : BankWindow} {addr : UInt16} (h : w.selects addr = false) :
    w.offset? addr = none := by
  grind [offset?, selects]

end BankWindow

namespace Bus

/-- What the answer of a reading depends on. -/
lemma shown_congr {bus bus' : Bus} {addr : UInt16}
    (hmap : bus'.map.get addr.toNat = bus.map.get addr.toNat)
    (hpad : addr = 0xff00 → bus'.joypad = bus.joypad)
    (hline : bus'.scanline = bus.scanline)
    (hboot : addr < bootEnd → bus'.bootMapped = bus.bootMapped ∧ bus'.boot = bus.boot)
    (hwin : bus'.window.offset? addr = bus.window.offset? addr)
    (hcart : ∀ o : Nat, bus'.cartridge[o]?.getD 0xff = bus.cartridge[o]?.getD 0xff) :
    bus'.shown addr = bus.shown addr := by
  unfold shown
  cases e : IoRegister.ofAddr? addr with
  | none =>
    simp only [peek, hwin, hcart, hmap]
    by_cases h : addr < bootEnd
    · rw [(hboot h).1, (hboot h).2]
    · simp [h]
  | some r =>
    have e := IoRegister.ofAddr?_eq_some_iff.mp e
    subst e
    cases r with
    | ly => rw [hline]
    | p1 =>
      have hio : bus'.io .p1 = bus.io .p1 := hmap
      rw [hpad rfl, hio]
    | _ => exact hmap

/-- A selection shows only in the bank window. -/
lemma shown_write_select {bus : Bus} {a b : UInt16} (v : UInt8)
    (h : bus.window.selects a = true) (hb : ¬(0x4000 ≤ b ∧ b < 0x8000)) :
    (write a v bus).state.shown b = bus.shown b := by
  rw [write_select v h]
  refine shown_congr rfl (fun _ => rfl) rfl (fun _ => ⟨rfl, rfl⟩) ?_ fun _ => rfl
  rw [BankWindow.offset?_eq_none hb, BankWindow.offset?_eq_none hb]

/-- A refused write does not show at all. -/
lemma shown_write_refuse {bus : Bus} {a : UInt16} (b : UInt16) (v : UInt8)
    (h : bus.window.selects a = false) (hr : a < romEnd) (hs : bus.strict = true) :
    (write a v bus).state.shown b = bus.shown b := by
  rw [write_refuse v h hr hs]
  exact shown_congr rfl (fun _ => rfl) rfl (fun _ => ⟨rfl, rfl⟩) rfl fun _ => rfl

/-- A store does not show at other addresses, unless it lifts the boot image. -/
lemma shown_write_store {bus : Bus} {a b : UInt16} (v : UInt8)
    (h : bus.window.selects a = false) (hs : a < romEnd → bus.strict = false) (hne : b ≠ a)
    (hlift : b < bootEnd → bus.bootMapped = true → ¬(a = 0xff50 ∧ v = 1)) :
    (write a v bus).state.shown b = bus.shown b := by
  cases e : IoRegister.ofAddr? a with
  | none =>
    rw [write_memory v h hs e]
    exact shown_congr (Store.get_set_word _ _ hne) (fun _ => rfl) rfl (fun _ => ⟨rfl, rfl⟩) rfl
      fun _ => rfl
  | some r =>
    have e := IoRegister.ofAddr?_eq_some_iff.mp e
    subst e
    have hpad : b = 0xff00 → (bus.afterIo r v).joypad = bus.joypad := by
      rintro rfl
      exact if_neg fun hr => hne (by rw [hr]; rfl)
    have hmapped : b < bootEnd → (bus.afterIo r v).bootMapped = bus.bootMapped := by
      intro hb
      cases hm : bus.bootMapped with
      | false => simp [afterIo, hm]
      | true =>
        simp only [afterIo, hm, ite_eq_right_iff, Bool.false_eq_true, imp_false]
        rintro ⟨rfl, hv⟩
        exact hlift hb hm ⟨rfl, hv⟩
    rw [write_register]
    split
    · exact shown_congr rfl hpad rfl (fun hb => ⟨hmapped hb, rfl⟩) rfl fun _ => rfl
    · exact shown_congr (Store.get_set_word _ _ hne) hpad rfl (fun hb => ⟨hmapped hb, rfl⟩) rfl
        fun _ => rfl

/-- A stored byte is what the address answers with from then on, wherever neither the boot image nor
a register with an answer of its own stands before the map. -/
lemma shown_write_store_self {bus : Bus} {a : UInt16} (v : UInt8)
    (h : bus.window.selects a = false) (hs : a < romEnd → bus.strict = false)
    (hp1 : a ≠ 0xff00) (hly : a ≠ 0xff44) (hbt : a ≠ 0xff50)
    (hmapped : a < bootEnd → bus.bootMapped = false) : (write a v bus).state.shown a = v := by
  cases e : IoRegister.ofAddr? a with
  | none =>
    have hb : (bus.bootMapped && decide (a < bootEnd)) = false := by
      by_cases hb : a < bootEnd
      · rw [hmapped hb, Bool.false_and]
      · rw [decide_eq_false hb, Bool.and_false]
    rw [write_memory v h hs e, shown, e]
    simp [peek, hb, BankWindow.offset?_of_not_selects h]
  | some r =>
    have e' := IoRegister.ofAddr?_eq_some_iff.mp e
    subst e'
    rw [write_register, shown, e]
    cases r with
    | p1 => exact absurd rfl hp1
    | ly => exact absurd rfl hly
    | boot => exact absurd rfl hbt
    | _ => exact Store.get_set_self _ _ _

/-- A byte stored in the lower half is what the address answers with, whenever the boot image does
not cover it. -/
lemma shown_write_below {bus : Bus} {a : UInt16} (v : UInt8) (ha : a < romEnd)
    (h : bus.window.selects a = false) (hs : bus.strict = false) (mapped : Bool)
    (hm : mapped = true → bootEnd ≤ a) :
    { (write a v bus).state with bootMapped := mapped : Bus }.shown a = v := by
  have hreg : IoRegister.ofAddr? a = none := by grind [IoRegister.ofAddr?, romEnd]
  have hself : (write a v { bus with bootMapped := mapped }).state.shown a = v := by
    refine shown_write_store_self v h (fun _ => hs) ?_ ?_ ?_ fun hb => ?_
    · rintro rfl; exact absurd ha (by decide)
    · rintro rfl; exact absurd ha (by decide)
    · rintro rfl; exact absurd ha (by decide)
    · exact Bool.eq_false_iff.mpr fun hmap => UInt16.not_le.mpr hb (hm hmap)
  -- the store does not look at the boot image, so that it can be lifted before or after
  have e : (write a v bus).state = _ := write_memory v h (fun _ => hs) hreg
  have e' : (write a v { bus with bootMapped := mapped }).state = _ :=
    write_memory v h (fun _ => hs) hreg
  rw [e'] at hself
  rw [e]
  exact hself

/-- The joypad register answers with the upper nibble written to it and the keys in the lower one. -/
lemma shown_write_joypad (bus : Bus) (v : UInt8) :
    (write 0xff00 v bus).state.shown 0xff00 =
      (v &&& 0xf0) ||| (write 0xff00 v bus).state.joypad.nibble := by
  have e : (write 0xff00 v bus).state = _ := write_register bus .p1 v
  have hio : (write 0xff00 v bus).state.io .p1 = v := by
    rw [e]
    exact Store.get_set_self _ _ _
  change Joypad.read _ ((write 0xff00 v bus).state.io .p1) = _
  rw [hio, Joypad.read]

/-- The boot register is not stored. -/
lemma shown_write_boot (bus : Bus) (v : UInt8) :
    (write 0xff50 v bus).state.shown 0xff50 = bus.shown 0xff50 := by
  have e : (write 0xff50 v bus).state = _ := write_register bus .boot v
  rw [e]
  exact shown_congr rfl (fun h => absurd h (by decide)) rfl (fun h => absurd h (by decide)) rfl
    fun _ => rfl

/-- Writes do not touch the scanline counter. -/
lemma write_scanline (bus : Bus) (a : UInt16) (v : UInt8) :
    (write a v bus).state.scanline = bus.scanline := by
  obtain ⟨_, _, _, _, _, _, e, -⟩ := write_reaches bus a v
  rw [e]

/-- A reading of the scanline counter leaves the line that it showed, and requests at most the
interrupt of the vertical blank. -/
lemma read_line_state (bus : Bus) :
    ∃ flags, (flags = bus.io .interruptFlag ∨ flags = bus.io .interruptFlag ||| 1) ∧
      (read 0xff44 bus).state =
        { bus with
          map := bus.map.set 0xff0f flags
          scanline := { clock := bus.scanline.clock.next, last := (read 0xff44 bus).value } } := by
  have hv : (read 0xff44 bus).value = bus.scanline.line := read_value bus _
  have hs : (read 0xff44 bus).state = bus.afterLine := read_state bus _
  rw [hv, hs, afterLine]
  cases bus.scanline.entersBlank with
  | true => exact ⟨_, .inr rfl, rfl⟩
  | false =>
    refine ⟨_, .inl rfl, ?_⟩
    have h : bus.map.set 0xff0f (bus.io .interruptFlag) = bus.map :=
      Store.set_get_self _ _ (by decide)
    rw [h]
    rfl

/-- The read-over-write law of the bus.

A reading changes nothing, except that a reading of the scanline counter may request the interrupt
of the vertical blank. A write to the upper half is read back, with the exceptions of the joypad
register, the scanline counter and the boot register. A write to the lower half chooses a bank, or
is refused, or is read back as soon as the boot image does not cover it. No write shows at another
address, except that a selection moves the window, that the boot register can lift the boot image,
and that the scanline counter answers by the clock. -/
theorem read_over_write (bus : Bus) (a b : UInt16) (v : UInt8) :
    let bus' := (write a v bus).state
    let isSelect := bus.window.mode = .banked ∧ 0x2000 ≤ a ∧ a < 0x8000
    -- readings
    ((a ≠ 0xff44 → (read a bus).state = bus) ∧
      ∃ flags, (flags = bus.io .interruptFlag ∨ flags = bus.io .interruptFlag ||| 1) ∧
        (read 0xff44 bus).state =
          { bus with
            map := bus.map.set 0xff0f flags
            scanline := { clock := bus.scanline.clock.next, last := (read 0xff44 bus).value } }) ∧
    -- the upper half
    ((0x8000 ≤ a → a ≠ 0xff00 → a ≠ 0xff44 → a ≠ 0xff50 → (read a bus').value = v) ∧
      (a = 0xff00 → (read a bus').value = (v &&& 0xf0) ||| bus'.joypad.nibble) ∧
      (a = 0xff44 → ∀ w, (read a bus').value = (read a (write a w bus).state).value) ∧
      (a = 0xff50 → (read a bus').value = (read a bus).value)) ∧
    -- the lower half
    (a < 0x8000 →
      (isSelect → bus' = { bus with window := { bus.window with bank := v &&& 0x1f } }) ∧
      (¬isSelect → bus.strict = true → bus' = { bus with fault := some (.romWrite a v) }) ∧
      (¬isSelect → bus.strict = false → bus' = { bus with map := bus.map.set a.toNat v } ∧
        ∀ mapped, (mapped = true → 0x100 ≤ a) →
          (read a { bus' with bootMapped := mapped }).value = v)) ∧
    -- other addresses
    (b ≠ a →
      (¬(isSelect ∧ 0x4000 ≤ b ∧ b < 0x8000) →
        ¬(a = 0xff50 ∧ v = 1 ∧ bus.bootMapped = true ∧ b < 0x100) → b ≠ 0xff44 →
        (read b bus').value = (read b bus).value) ∧
      (b = 0xff44 → (read b bus').value = lineAt bus.scanline.clock.now ∧
        (read b bus).value = lineAt bus.scanline.clock.now)) := by
  intro bus' isSelect
  have hsel : bus.window.selects a = true ↔ isSelect := bus.window.selects_iff a
  have hsel' : ¬isSelect ↔ bus.window.selects a = false := by rw [← hsel, Bool.not_eq_true]
  simp only [read_value]
  refine ⟨⟨fun h => ?_, ?_⟩, ⟨fun h h1 h2 h3 => ?_, ?_, ?_, ?_⟩, fun h => ⟨fun h' => ?_, fun h' hs => ?_,
    fun h' hs => ⟨?_, fun mapped hm => ?_⟩⟩, fun hne => ⟨fun h h1 h2 => ?_, ?_⟩⟩
  -- readings
  · rw [read_state]
    exact if_neg h
  · simpa only [read_value] using read_line_state bus
  -- the upper half, where there is no bank to select
  · have hw : bus.window.selects a = false := by grind [BankWindow.selects]
    exact shown_write_store_self v hw (by grind [romEnd]) h1 h2 h3 (by grind [bootEnd])
  · rintro rfl
    exact shown_write_joypad bus v
  · rintro rfl w
    change (write _ v bus).state.scanline.line = (write _ w bus).state.scanline.line
    rw [write_scanline, write_scanline]
  · rintro rfl
    exact shown_write_boot bus v
  -- the lower half
  · exact write_select v (hsel.mpr h')
  · exact write_refuse v (hsel'.mp h') h hs
  · exact write_memory v (hsel'.mp h') (fun _ => hs) (by grind [IoRegister.ofAddr?])
  · exact shown_write_below v h (hsel'.mp h') hs mapped hm
  -- other addresses
  · obtain hw | ⟨hw, hr, hs⟩ | ⟨hw, hs⟩ := write_cases bus a
    · exact shown_write_select v hw fun hb => h ⟨hsel.mp hw, hb⟩
    · exact shown_write_refuse b v hw hr hs
    · exact shown_write_store v hw hs hne fun hb hm h' => h1 ⟨h'.1, h'.2, hm, hb⟩
  · rintro rfl
    exact ⟨congrArg Scanline.line (write_scanline bus a v), rfl⟩

end Bus

end GameBoy
