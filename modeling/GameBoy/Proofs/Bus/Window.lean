import GameBoy.Bus.Loading
import GameBoy.Proofs.Bus.Overlay
import GameBoy.Proofs.Bus.Visits

/-!
# The bank window

In a banked cartridge the byte that was written last to the addresses from 0x2000 to 0x7fff says
where the window stands (`Steered`). Those writes reach nothing else: the cells of the map behind the
addresses keep what was loaded there (`Spared`).
-/

namespace GameBoy

/-- The byte that an event writes to the addresses at which a banked cartridge takes bank numbers. -/
def Event.choice? : Event → Option UInt8
  | .write addr v => if 0x2000 ≤ addr ∧ addr < 0x8000 then some v else none
  | _ => none

/-- The byte written last to those addresses. -/
def lastChoice (es : List Event) : Option UInt8 := (es.filterMap Event.choice?).getLast?

/-- Where the window stands after some events in a banked cartridge: at the lower five bits of the
byte written last, where 0, or no write at all, stands for 1. -/
def chosenPlace (es : List Event) : Nat :=
  let low := ((lastChoice es).getD 0).toNat % 32
  if low = 0 then 1 else low

/-- The last choice of two stretches is that of the second one, if it makes one. -/
lemma lastChoice_append (es es' : List Event) :
    lastChoice (es ++ es') = (lastChoice es').or (lastChoice es) := by
  rw [lastChoice, List.filterMap_append, List.getLast?_append]
  rfl

/-- Without a choice there is no last one. -/
lemma lastChoice_eq_none {es : List Event} (h : ∀ e ∈ es, e.choice? = none) :
    lastChoice es = none := by
  rw [lastChoice, List.filterMap_eq_nil_iff.mpr h]
  rfl

/-- The window stands at a bank from 1 to 31. -/
lemma chosenPlace_bounds (es : List Event) : 1 ≤ chosenPlace es ∧ chosenPlace es ≤ 31 := by
  unfold chosenPlace
  dsimp only
  split <;> omega

namespace Bus

/-- What the bus reports about itself chooses no bank. -/
lemma choice?_of_isOwnReport {e : Event} (h : isOwnReport e = true) : e.choice? = none := by
  cases e with
  | write addr v => cases h
  | read | notice | echo => rfl

/-- A reading chooses no bank. -/
lemma lastChoice_read (bus : Bus) (addr : UInt16) : lastChoice (read addr bus).events = none := by
  rw [lastChoice, filterMap_read fun _ => choice?_of_isOwnReport]
  rfl

/-- A write chooses what it says itself, and nothing in its reports. -/
lemma lastChoice_write (bus : Bus) (addr : UInt16) (v : UInt8) :
    lastChoice (write addr v bus).events = (Event.write addr v).choice? := by
  rw [lastChoice, filterMap_write fun _ => choice?_of_isOwnReport]
  cases (Event.write addr v).choice? <;> rfl

/-- In a banked cartridge, a write goes to the window exactly if it chooses a bank. -/
lemma selects_banked {bus : Bus} {addr : UInt16} (v : UInt8) (h : bus.window.mode = .banked) :
    (Event.write addr v).choice? = if bus.window.selects addr then some v else none := by
  have hsel := bus.window.selects_iff addr
  simp only [h, true_and] at hsel
  simp only [Event.choice?, hsel]

/-! ## Stretches of accesses -/

/-- The cartridge stays, and in a banked one the last choice says where the window stands. -/
structure Steered (bus : Bus) (es : List Event) (bus' : Bus) : Prop where
  cartridge : bus'.cartridge = bus.cartridge
  mode : bus'.window.mode = bus.window.mode
  bank (h : bus.window.mode = .banked) :
    bus'.window.bank = ((lastChoice es).map (· &&& 0x1f)).getD bus.window.bank

/-- A stretch that chooses no bank and moves no window. -/
lemma Steered.of_quiet {bus bus' : Bus} {es : List Event} (hc : bus'.cartridge = bus.cartridge)
    (hw : bus'.window = bus.window) (h : lastChoice es = none) : Steered bus es bus' where
  cartridge := hc
  mode := by rw [hw]
  bank _ := by rw [hw, h]; rfl

/-- A write that chooses a bank moves the window there. -/
lemma steered_write (bus : Bus) (addr : UInt16) (v : UInt8) :
    Steered bus (write addr v bus).events (write addr v bus).state := by
  have hlast := lastChoice_write bus addr v
  obtain h | ⟨h, hr, hs⟩ | ⟨h, hs⟩ := write_cases bus addr
  · rw [write_select v h]
    refine ⟨rfl, rfl, fun hb => ?_⟩
    rw [hlast, selects_banked v hb, if_pos h]
    rfl
  · rw [write_refuse v h hr hs]
    refine ⟨rfl, rfl, fun hb => ?_⟩
    rw [hlast, selects_banked v hb, h]
    rfl
  · obtain ⟨_, _, _, e⟩ := write_through v h hs
    rw [e]
    refine ⟨rfl, rfl, fun hb => ?_⟩
    rw [hlast, selects_banked v hb, h]
    rfl

/-- Whatever happens on a bus, the choices alone move the window. -/
lemma steered_respected : Respected Steered where
  refl _ := .of_quiet rfl rfl rfl
  trans h h' := by
    refine ⟨h'.cartridge.trans h.cartridge, h'.mode.trans h.mode, fun hb => ?_⟩
    rw [h'.bank (h.mode.trans hb), h.bank hb, lastChoice_append]
    cases lastChoice _ <;> rfl
  note _ _ := .of_quiet rfl rfl rfl
  flag _ _ := .of_quiet rfl rfl rfl
  keys _ _ := .of_quiet rfl rfl rfl
  read addr bus := by
    have hlast := lastChoice_read bus addr
    obtain ⟨_, _, e, -⟩ := read_reaches bus addr
    rw [e]
    exact .of_quiet rfl rfl hlast
  write addr v bus := steered_write bus addr v

/-- Lifting the boot image chooses no bank. -/
lemma disableBoot_steered : disableBoot.Ensures Steered := by
  intro bus
  rw [disableBoot_state]
  refine .of_quiet rfl rfl (lastChoice_eq_none fun e he => ?_)
  exact choice?_of_isOwnReport (disableBoot_reports bus e he)

/-- Whether an adjustment leaves the cartridge image alone, as only patches do not. -/
def Adjustment.KeepsImage : Adjustment → Prop
  | patch _ _ => False
  | _ => True

/-- No signal changes the cartridge image. -/
lemma Adjustment.IsSignal.keepsImage {a : Adjustment} (h : a.IsSignal) : a.KeepsImage := by
  cases a with
  | patch => exact h
  | flags | keys | boot | install | echo | scratch | store => trivial

/-- An adjustment that keeps the image chooses no bank. -/
lemma adjust_steered {a : Adjustment} (h : a.KeepsImage) (bus : Bus) :
    Steered bus [] (a.apply bus) := by
  cases a with
  | patch => exact h.elim
  | flags | keys | boot | install | echo | scratch | store => exact .of_quiet rfl rfl rfl

/-- A cell of the map behind an address at which the cartridge takes bank numbers. -/
def Spared (addr : UInt16) (bus : Bus) (_ : List Event) (bus' : Bus) : Prop :=
  bus.window.selects addr = true →
    bus'.window.selects addr = true ∧ bus'.map.get addr.toNat = bus.map.get addr.toNat

/-- Where it stands does not matter to the addresses at which a window takes bank numbers. -/
lemma selects_congr {w w' : BankWindow} (h : w'.mode = w.mode) (addr : UInt16) :
    w'.selects addr = w.selects addr := by
  rw [BankWindow.selects, BankWindow.selects, h]

/-- Whatever happens in a banked cartridge, the map behind the bank numbers is spared. -/
lemma spared_respected (addr : UInt16) : Respected (Spared addr) where
  refl _ h := ⟨h, rfl⟩
  trans h h' hs := ⟨(h' (h hs).1).1, (h' (h hs).1).2.trans (h hs).2⟩
  note _ _ h := ⟨h, rfl⟩
  flag bus v h := by
    refine ⟨h, Store.get_set_word _ _ ?_⟩
    rintro rfl
    exact absurd ((bus.window.selects_iff _).mp h).2.2 (by decide)
  keys _ _ h := ⟨h, rfl⟩
  read a bus h := by
    refine ⟨?_, read_map bus a ?_⟩
    · rw [selects_congr (steered_respected.read a bus).mode, h]
    · rintro rfl
      exact absurd ((bus.window.selects_iff _).mp h).2.2 (by decide)
  write a v bus h := by
    refine ⟨by rw [selects_congr (steered_write bus a v).mode, h], ?_⟩
    by_cases ha : addr = a
    · rw [← ha, write_select v h]
    · exact write_map bus v ha

/-- Lifting the boot image spares the map. -/
lemma disableBoot_spared (addr : UInt16) : disableBoot.Ensures (Spared addr) := by
  intro bus h
  rw [disableBoot_state]
  exact ⟨h, rfl⟩

/-- Whether an adjustment leaves the map behind an address alone, other than the registers do. -/
def Adjustment.Spares (addr : UInt16) : Adjustment → Prop
  | store b _ => b ≠ addr
  | patch _ _ => False
  | _ => True

/-- No signal reaches the map behind the bank numbers. -/
lemma Adjustment.IsSignal.spares {a : Adjustment} {addr : UInt16} (h : a.IsSignal) :
    a.Spares addr := by
  cases a with
  | store | patch => exact h.elim
  | flags | keys | boot | install | echo | scratch => trivial

/-- An adjustment that spares a cell of the map keeps its byte. -/
lemma adjust_spared {a : Adjustment} {addr : UInt16} (h : a.Spares addr) (bus : Bus) :
    Spared addr bus [] (a.apply bus) := by
  cases a with
  | flags v => exact (spared_respected addr).flag bus v
  | store b v => exact fun hs => ⟨hs, Store.get_set_word _ _ (Ne.symm h)⟩
  | patch => exact h.elim
  | keys | boot | install | echo | scratch => exact fun hs => ⟨hs, rfl⟩

/-! ## Loading -/

/-- The bus behind the loading of a cartridge image. -/
def inserted (bus : Bus) (image : Image) : Bus :=
  { bus with
    map := overlay bus.map image
    cartridge := image
    header := Header.parse image
    window := { mode := BankMode.ofCartType (Header.parse image).cartType } }

/-- Loading a cartridge inserts it. -/
lemma loadRom_state (bus : Bus) (image : Image) : (loadRom image bus).state = bus.inserted image := by
  unfold loadRom
  by_cases h : image.size > romEnd.toNat
  · rw [if_pos h]
    rfl
  · rw [if_neg h]
    rfl

/-- The lower half of the map shows the image as far as it reaches. -/
lemma get_overlay (map : Cells 16) (image : Image) (addr : UInt16) :
    (overlay map image).get addr.toNat =
      if addr.toNat < min image.size romEnd.toNat then image[addr.toNat]?.getD 0
      else map.get addr.toNat := by
  have hcount : addr.toNat < Store.count 16 := addr.toNat_lt
  rw [overlay, Store.get_tabulate _ hcount]

/-- A freshly loaded image is what the lower half answers with, whether the map shows it or the
window, which stands where the map would show the same. -/
lemma shown_inserted (bus : Bus) (image : Image) {addr : UInt16} (h : addr.toNat < image.size)
    (ha : addr < romEnd) (hb : bus.bootMapped = false) :
    (bus.inserted image).shown addr = image[addr.toNat] := by
  have hreg : IoRegister.ofAddr? addr = none := by grind [IoRegister.ofAddr?, romEnd]
  have hmapped : (bus.inserted image).bootMapped = false := hb
  rw [shown, hreg]
  simp only [peek, hmapped, Bool.false_and, Bool.false_eq_true, if_false]
  cases e : (bus.inserted image).window.offset? addr with
  | none =>
    change (overlay bus.map image).get addr.toNat = _
    rw [get_overlay, Array.getElem?_eq_getElem h, Option.getD_some]
    exact if_pos (Nat.lt_min.mpr ⟨h, ha⟩)
  | some offset =>
    have hoff : offset = addr.toNat := by
      unfold BankWindow.offset? at e
      split at e
      · rw [← Option.some.inj e]
        change 1 * 0x2000 + addr.toNat - 0x2000 = addr.toNat
        omega
      · cases e
    change image[offset]?.getD 0xff = _
    rw [hoff, Array.getElem?_eq_getElem h]
    rfl

/-- In the window, answers come from the image behind the place where the window stands. -/
lemma shown_window {bus : Bus} {addr : UInt16} (h : bus.window.mode = .banked)
    (ha : 0x4000 ≤ addr) (ha' : addr < 0x8000) :
    bus.shown addr =
      bus.cartridge[bus.window.place * 0x2000 + addr.toNat - 0x2000]?.getD 0xff := by
  have hreg : IoRegister.ofAddr? addr = none := by grind [IoRegister.ofAddr?]
  have hboot : ¬addr < bootEnd := by grind [bootEnd]
  have hoff : bus.window.offset? addr =
      some (bus.window.place * 0x2000 + addr.toNat - 0x2000) := by
    simp [BankWindow.offset?, h, ha, ha']
  simp [shown, hreg, peek, hboot, hoff]

/-- The place that the last choice says is where the window stands. -/
lemma Steered.place {bus bus' : Bus} {es : List Event} (h : Steered bus es bus')
    (hm : bus.window.mode = .banked) (hb : bus.window.bank = 0) :
    bus'.window.place = chosenPlace es := by
  have hbank : bus'.window.bank.toNat = ((lastChoice es).getD 0).toNat % 32 := by
    rw [h.bank hm, hb]
    cases lastChoice es with
    | none => rfl
    | some v =>
      change (v &&& 0x1f).toNat = _
      rw [UInt8.toNat_and]
      exact Nat.and_two_pow_sub_one_eq_mod v.toNat 5
  have hzero : bus'.window.bank = 0 ↔ bus'.window.bank.toNat = 0 := UInt8.toNat_inj.symm
  simp only [BankWindow.place, chosenPlace, hzero, hbank]

end Bus

end GameBoy
