import GameBoy.Bus.Access
import GameBoy.Proofs.Ensures

/-!
# What bus accesses do

The answer, the next state and the events of `Bus.read` and `Bus.write` in closed form, so that no
later proof opens the actions themselves. A reading changes the bus at most through the scanline
counter (`read_state`). A write is a bank selection, or refused, or a store in the map, which at a
register comes with an effect (`write_select`, `write_refuse`, `write_memory`, `write_register`).
-/

namespace GameBoy

/-- A store at one address leaves the bytes at all others alone. -/
lemma Store.get_set_word (s : Cells 16) {a b : UInt16} (v : UInt8) (h : b ≠ a) :
    (s.set a.toNat v).get b.toNat = s.get b.toNat :=
  get_set_of_ne s v a.toNat_lt b.toNat_lt fun e => h (UInt16.toNat_inj.mp e)

namespace Bus

/-- What a reading of an address answers with. -/
def shown (bus : Bus) (addr : UInt16) : UInt8 :=
  match IoRegister.ofAddr? addr with
  | some .ly => bus.scanline.line
  | some .p1 => bus.joypad.read (bus.io .p1)
  | some r => bus.io r
  | none => bus.peek addr

/-- The bus after a reading of the scanline counter. -/
def afterLine (bus : Bus) : Bus :=
  let bus' := { bus with scanline := bus.scanline.afterRead }
  if bus.scanline.entersBlank then bus'.request .vblank else bus'

/-- Whether writing the serial control register sends the byte in SB. -/
def sends (bus : Bus) (control : UInt8) : Bool :=
  control &&& 0x80 != 0 && isPrintable (bus.io .sb)

/-- The bus after the side effect of writing a register, before the value is stored. -/
def afterIo (bus : Bus) (r : IoRegister) (v : UInt8) : Bus :=
  { bus with
    joypad := if r = .p1 then bus.joypad.select v else bus.joypad
    sent := if r = .sc ∧ bus.sends v then bus.io .sb :: bus.sent else bus.sent
    bootMapped := if r = .boot ∧ v = 1 then false else bus.bootMapped }

/-- Whether an event is what a bus access reports about itself. -/
def isOwnReport : Event → Bool
  | .notice n => n.component == .bus || n.component == .joypad
  | .echo _ => true
  | .read _ _ | .write _ _ => false

/-- A reading of the line counter answers with the line of the moment. -/
lemma readLine_value (bus : Bus) : (readLine bus).value = bus.scanline.line := by
  cases h : bus.scanline.entersBlank <;> simp [readLine, h]

/-- What a reading of the line counter leaves behind. -/
lemma readLine_state (bus : Bus) : (readLine bus).state = bus.afterLine := by
  cases h : bus.scanline.entersBlank <;> simp [readLine, afterLine, h]

/-- A register with a name answers with what shows at its address. -/
lemma readIo_value (bus : Bus) (r : IoRegister) (addr : UInt16)
    (e : IoRegister.ofAddr? addr = some r) : (readIo r bus).value = bus.shown addr := by
  rw [shown, e]
  cases r with
  | ly => exact readLine_value bus
  | _ => rfl

/-- Only the line counter changes by being read. -/
lemma readIo_state (bus : Bus) (r : IoRegister) :
    (readIo r bus).state = if r = .ly then bus.afterLine else bus := by
  cases r with
  | ly => exact readLine_state bus
  | _ => rfl

/-- The answer of a reading. -/
lemma read_value (bus : Bus) (addr : UInt16) : (read addr bus).value = bus.shown addr := by
  unfold read
  cases e : IoRegister.ofAddr? addr with
  | none => simp [shown, e]
  | some r => simpa using readIo_value bus r addr e

/-- Only a reading of the scanline counter changes the bus. -/
lemma read_state (bus : Bus) (addr : UInt16) :
    (read addr bus).state = if addr = IoRegister.ly.addr then bus.afterLine else bus := by
  unfold read
  cases e : IoRegister.ofAddr? addr with
  | none =>
    have h : addr ≠ IoRegister.ly.addr := by
      intro h
      have h := IoRegister.ofAddr?_eq_some_iff.mpr h.symm
      exact absurd (e.symm.trans h) nofun
    simp [h]
  | some r =>
    have h := IoRegister.ofAddr?_eq_some_iff.mp e
    have h' : addr = IoRegister.ly.addr ↔ r = .ly := by
      rw [← h]
      cases r <;> decide
    simp [readIo_state, h']

/-- A reading reaches at most the scanline counter and the register of the requested interrupts. -/
lemma read_reaches (bus : Bus) (addr : UInt16) :
    ∃ scanline map, (read addr bus).state = { bus with scanline, map } ∧
      ∀ b : UInt16, b ≠ 0xff0f → map.get b.toNat = bus.map.get b.toNat := by
  rw [read_state]
  split
  · unfold afterLine
    split
    · exact ⟨_, _, rfl, fun b hb => Store.get_set_word _ _ hb⟩
    · exact ⟨_, _, rfl, fun _ _ => rfl⟩
  · exact ⟨_, _, rfl, fun _ _ => rfl⟩

/-- A write is a bank selection, or refused, or goes through to the map. -/
lemma write_cases (bus : Bus) (addr : UInt16) :
    bus.window.selects addr = true ∨
      bus.window.selects addr = false ∧ addr < romEnd ∧ bus.strict = true ∨
      bus.window.selects addr = false ∧ (addr < romEnd → bus.strict = false) := by
  cases bus.window.selects addr with
  | true => exact .inl rfl
  | false =>
    by_cases h : addr < romEnd ∧ bus.strict = true
    · exact .inr (.inl ⟨rfl, h⟩)
    · exact .inr (.inr ⟨rfl, fun ha => by simpa [ha] using h⟩)

/-- A selection of a bank changes nothing but the place of the window. -/
lemma write_select {bus : Bus} {addr : UInt16} (v : UInt8) (h : bus.window.selects addr = true) :
    (write addr v bus).state = { bus with window := bus.window.select v } := by
  simp [write, h]

/-- A refused write changes nothing but the fault. -/
lemma write_refuse {bus : Bus} {addr : UInt16} (v : UInt8) (h : bus.window.selects addr = false)
    (hr : addr < romEnd) (hs : bus.strict = true) :
    (write addr v bus).state = { bus with fault := some (.romWrite addr v) } := by
  simp [write, h, hr, hs]

/-- Lifting the boot image changes nothing else. -/
lemma disableBoot_state (bus : Bus) : (disableBoot bus).state = { bus with bootMapped := false } := by
  cases h : bus.bootMapped <;> simp [disableBoot, h]

/-- A transfer changes the transcript alone. -/
lemma transfer_state (bus : Bus) (v : UInt8) :
    (transfer v bus).state =
      { bus with sent := if bus.sends v then bus.io .sb :: bus.sent else bus.sent } := by
  simp +instances only [transfer, Action.bind_apply, Action.get_apply, Action.ite_apply]
  change (if bus.sends v then _ else _ : Outcome Bus Unit).state = _
  cases bus.sends v with
  | false => rfl
  | true => simp +instances [apply_ite Outcome.state]

/-- Selecting keys changes the joypad alone. -/
lemma selectKeys_state (bus : Bus) (v : UInt8) :
    (selectKeys v bus).state = { bus with joypad := bus.joypad.select v } := by
  cases h : Joypad.asksFor v .directions <;> cases h' : Joypad.asksFor v .buttons <;>
    simp [selectKeys, h, h']

/-- What writing a register does before the value is stored. -/
lemma writeIo_state (bus : Bus) (r : IoRegister) (v : UInt8) :
    (writeIo r v bus).state = bus.afterIo r v := by
  cases r with
  | p1 => simpa [writeIo, afterIo] using selectKeys_state bus v
  | sc => simpa [writeIo, afterIo] using transfer_state bus v
  | boot =>
    by_cases h : v = 1
    · cases h' : bus.bootMapped with
      | false =>
        -- there is no boot image left to lift
        have e : ({ bus with bootMapped := false } : Bus) = bus := by rw [← h']
        simp [writeIo, afterIo, h, h', e]
      | true => simp [writeIo, afterIo, h, h', disableBoot_state]
    · simp [writeIo, afterIo, h]
  | _ => rfl

/-- What a write does that goes through: it acts on the register at its address, if there is one, and
stores the byte. -/
def through (addr : UInt16) (v : UInt8) : Action Bus Unit :=
  match IoRegister.ofAddr? addr with
  | some r => do
    writeIo r v
    if r != .boot then store addr v
  | none => store addr v

/-- A write that selects no bank and that strict mode lets pass goes through. -/
lemma write_eq_through {bus : Bus} {addr : UInt16} (v : UInt8) (h : bus.window.selects addr = false)
    (hs : addr < romEnd → bus.strict = false) :
    write addr v bus =
      ⟨(), (through addr v bus).state, .write addr v :: (through addr v bus).events⟩ := by
  have hr : (decide (addr < romEnd) && bus.strict) = false := by
    by_cases hr : addr < romEnd
    · rw [hs hr, Bool.and_false]
    · rw [decide_eq_false hr, Bool.false_and]
  simp only [write, Action.bind_apply, Action.get_apply, h, hr]
  rfl

/-- Any other write to an address without a register stores the byte. -/
lemma write_memory {bus : Bus} {addr : UInt16} (v : UInt8) (h : bus.window.selects addr = false)
    (hs : addr < romEnd → bus.strict = false) (e : IoRegister.ofAddr? addr = none) :
    (write addr v bus).state = { bus with map := bus.map.set addr.toNat v } := by
  rw [write_eq_through v h hs, through, e]
  rfl

/-- A write to a register goes through. -/
lemma write_eq_through_register (bus : Bus) (r : IoRegister) (v : UInt8) :
    write r.addr v bus =
      ⟨(), (through r.addr v bus).state, .write r.addr v :: (through r.addr v bus).events⟩ := by
  have hr : ¬r.addr < romEnd := by cases r <;> decide
  refine write_eq_through v ?_ fun h => absurd h hr
  cases r <;> simp [BankWindow.selects, IoRegister.addr]

/-- A write to a register acts on it and stores the byte; only the boot register is not stored. -/
lemma write_register (bus : Bus) (r : IoRegister) (v : UInt8) :
    (write r.addr v bus).state =
      if r = .boot then bus.afterIo r v
      else { bus.afterIo r v with map := bus.map.set r.addr.toNat v } := by
  have e : IoRegister.ofAddr? r.addr = some r := IoRegister.ofAddr?_eq_some_iff.mpr rfl
  rw [write_eq_through_register, through, e]
  by_cases hb : r = .boot
  · simp [hb, writeIo_state]
  · simp [hb, writeIo_state, store]
    rfl

/-- A write that goes through reaches the map at its address, unless it is one of the boot register,
and besides that at most the joypad, the transcript and the boot mapping. -/
lemma write_through {bus : Bus} {addr : UInt16} (v : UInt8) (h : bus.window.selects addr = false)
    (hs : addr < romEnd → bus.strict = false) :
    ∃ joypad sent bootMapped, (write addr v bus).state =
      { bus with
        map := if addr = 0xff50 then bus.map else bus.map.set addr.toNat v
        joypad, sent, bootMapped } := by
  cases e : IoRegister.ofAddr? addr with
  | none =>
    have hne : addr ≠ 0xff50 := by
      rintro rfl
      exact absurd e (by decide)
    rw [write_memory v h hs e, if_neg hne]
    exact ⟨_, _, _, rfl⟩
  | some r =>
    rw [← IoRegister.ofAddr?_eq_some_iff.mp e, write_register]
    have hboot : r.addr = 0xff50 ↔ r = .boot := by cases r <;> decide
    by_cases hr : r = .boot
    · rw [if_pos hr, if_pos (hboot.mpr hr)]
      exact ⟨_, _, _, rfl⟩
    · rw [if_neg hr, if_neg (mt hboot.mp hr)]
      exact ⟨_, _, _, rfl⟩

/-- A write leaves the kind of the cartridge, the map at all other addresses, and whatever else is not
among the things that it can reach. -/
lemma write_reaches (bus : Bus) (addr : UInt16) (v : UInt8) :
    ∃ map window joypad sent bootMapped fault, (write addr v bus).state =
        { bus with map, window, joypad, sent, bootMapped, fault } ∧
      window.mode = bus.window.mode ∧
      ∀ b : UInt16, b ≠ addr → map.get b.toNat = bus.map.get b.toNat := by
  obtain h | ⟨h, hr, hs⟩ | ⟨h, hs⟩ := write_cases bus addr
  · rw [write_select v h]
    exact ⟨_, _, _, _, _, _, rfl, rfl, fun _ _ => rfl⟩
  · rw [write_refuse v h hr hs]
    exact ⟨_, _, _, _, _, _, rfl, rfl, fun _ _ => rfl⟩
  · obtain ⟨_, _, _, e⟩ := write_through v h hs
    rw [e]
    refine ⟨_, _, _, _, _, _, rfl, rfl, fun b hb => ?_⟩
    split
    · rfl
    · exact Store.get_set_word _ _ hb

/-- A write changes no other register than the one at its address. -/
lemma write_io (bus : Bus) {addr : UInt16} (v : UInt8) {r : IoRegister} (h : addr ≠ r.addr) :
    (write addr v bus).state.io r = bus.io r := by
  obtain ⟨_, _, _, _, _, _, e, -, hmap⟩ := write_reaches bus addr v
  rw [e]
  exact hmap _ h.symm

/-- An action whose events are all reports of the bus. -/
abbrev Reports {α : Type} (x : Action Bus α) : Prop :=
  x.Ensures fun _ es _ => ∀ e ∈ es, isOwnReport e = true

/-- Reports compose. -/
lemma reports_composes : Composes fun (_ : Bus) es (_ : Bus) => ∀ e ∈ es, isOwnReport e = true := .all _

/-- Records of the bus and of the joypad are reports. -/
lemma note_reports {n : Notice} (h : n.component = .bus ∨ n.component = .joypad) :
    Reports (.note n) := by
  intro _ e he
  obtain rfl := List.mem_singleton.mp he
  obtain h | h := h <;> simp [isOwnReport, h]

/-- Changing the bus tells of nothing. -/
lemma modify_reports (f : Bus → Bus) : Reports (.modify f) := fun _ => nofun

/-- Lifting the boot image tells of reports only. -/
lemma disableBoot_reports : Reports disableBoot :=
  .bind reports_composes (.get reports_composes) fun _ =>
    .optional reports_composes (note_reports (.inl rfl)) (modify_reports _)

/-- Reading a register tells of reports only. -/
lemma readIo_reports (r : IoRegister) : Reports (readIo r) := by
  have hC := reports_composes
  refine .bind hC (.get hC) fun bus => ?_
  split
  · exact .bind hC (.get hC) fun _ => .bind hC (modify_reports _) fun _ =>
      .optional hC (modify_reports _) (.pure hC _)
  · exact .bind hC (note_reports (.inl rfl)) fun _ => .pure hC _
  · exact .optional hC (note_reports (.inl rfl)) (.pure hC _)

/-- Selecting keys tells of reports only. -/
lemma selectKeys_reports (v : UInt8) : Reports (selectKeys v) := by
  have hC := reports_composes
  exact .optional hC (note_reports (.inr rfl)) (.optional hC (note_reports (.inr rfl)) (modify_reports _))

/-- A transfer tells of reports only. -/
lemma transfer_reports (v : UInt8) : Reports (transfer v) := by
  have hC := reports_composes
  refine .bind hC (.get hC) fun bus => .ite (fun _ => ?_) fun _ => .pure hC _
  refine .bind hC (modify_reports _) fun _ => .ite (fun _ => ?_) fun _ => .pure hC _
  intro _ e he
  obtain rfl := List.mem_singleton.mp he
  rfl

/-- Writing a register tells of reports only. -/
lemma writeIo_reports (r : IoRegister) (v : UInt8) : Reports (writeIo r v) := by
  have hC := reports_composes
  refine .bind hC (.get hC) fun bus => ?_
  split
  · exact selectKeys_reports v
  · exact transfer_reports v
  · exact .ite (fun _ => disableBoot_reports) fun _ => .pure hC _
  · exact note_reports (.inl rfl)
  · exact note_reports (.inl rfl)
  · exact note_reports (.inl rfl)
  · exact .ite (fun _ => note_reports (.inl rfl)) fun _ => .pure hC _

/-- A reading is reported behind everything that it causes. -/
lemma read_events_eq (bus : Bus) (addr : UInt16) :
    ∃ es, (∀ e ∈ es, isOwnReport e = true) ∧
      (read addr bus).events = es ++ [.read addr (bus.shown addr)] := by
  rw [← read_value]
  unfold read
  cases e : IoRegister.ofAddr? addr with
  | none => exact ⟨[], nofun, rfl⟩
  | some r => exact ⟨_, readIo_reports r bus, rfl⟩

/-- A reading shows as an event, and causes only reports besides. -/
lemma read_events (bus : Bus) (addr : UInt16) :
    .read addr (bus.shown addr) ∈ (read addr bus).events ∧
      ∀ e ∈ (read addr bus).events, isOwnReport e = true ∨ e = .read addr (bus.shown addr) := by
  obtain ⟨es, hes, h⟩ := read_events_eq bus addr
  refine ⟨by simp [h], fun e he => ?_⟩
  rw [h] at he
  obtain he | he := List.mem_append.mp he
  · exact .inl (hes e he)
  · exact .inr (List.mem_singleton.mp he)

/-- A write is shown before everything that it causes. -/
lemma write_events_eq (bus : Bus) (addr : UInt16) (v : UInt8) :
    ∃ es, (∀ e ∈ es, isOwnReport e = true) ∧ (write addr v bus).events = .write addr v :: es := by
  have hC := reports_composes
  have hcaused {x : Action Bus Unit} (h : Reports x) :
      ∃ es, (∀ e ∈ es, isOwnReport e = true) ∧
        [] ++ ([.write addr v] ++ (x bus).events) = .write addr v :: es :=
    ⟨_, h bus, rfl⟩
  refine hcaused (.ite (fun _ => ?_) fun _ => .ite (fun _ => ?_) fun _ => ?_)
  · exact .bind hC (note_reports (.inl rfl)) fun _ => modify_reports _
  · exact .bind hC (note_reports (.inl rfl)) fun _ => modify_reports _
  · split
    · exact .bind hC (writeIo_reports _ _) fun _ => .ite (fun _ => modify_reports _) fun _ => .pure hC _
    · exact modify_reports _

/-- A write shows as an event, and causes only reports besides. -/
lemma write_events (bus : Bus) (addr : UInt16) (v : UInt8) :
    .write addr v ∈ (write addr v bus).events ∧
      ∀ e ∈ (write addr v bus).events, isOwnReport e = true ∨ e = .write addr v := by
  obtain ⟨es, hes, h⟩ := write_events_eq bus addr v
  rw [h]
  refine ⟨List.mem_cons_self, fun e he => ?_⟩
  obtain rfl | he := List.mem_cons.mp he
  · exact .inr rfl
  · exact .inl (hes e he)

section Shown

variable {α : Type} {f : Event → Option α} (hf : ∀ e, isOwnReport e = true → f e = none)
include hf

/-- What makes nothing of reports makes of a reading what it makes of the one event that shows it. -/
lemma filterMap_read (bus : Bus) (addr : UInt16) :
    (read addr bus).events.filterMap f = (f (.read addr (bus.shown addr))).toList := by
  obtain ⟨es, hes, h⟩ := read_events_eq bus addr
  have hreports : es.filterMap f = [] := List.filterMap_eq_nil_iff.mpr fun e he => hf e (hes e he)
  rw [h, List.filterMap_append, hreports, List.nil_append, List.filterMap_cons]
  cases f (.read addr (bus.shown addr)) <;> rfl

/-- What makes nothing of reports makes of a write what it makes of the one event that shows it. -/
lemma filterMap_write (bus : Bus) (addr : UInt16) (v : UInt8) :
    (write addr v bus).events.filterMap f = (f (.write addr v)).toList := by
  obtain ⟨es, hes, h⟩ := write_events_eq bus addr v
  have hreports : es.filterMap f = [] := List.filterMap_eq_nil_iff.mpr fun e he => hf e (hes e he)
  rw [h, List.filterMap_cons, hreports]
  cases f (.write addr v) <;> rfl

end Shown

/-- A relation that everything respects that happens to a bus, except lifting the boot image. -/
structure Respected (R : Bus → List Event → Bus → Prop) : Prop extends Composes R where
  note (bus : Bus) (n : Notice) : R bus [.notice n] bus
  flag (bus : Bus) (v : UInt8) : R bus [] (bus.setIo .interruptFlag v)
  keys (bus : Bus) (joypad : Joypad) : R bus [] { bus with joypad }
  read (addr : UInt16) : (Bus.read addr).Ensures R
  write (addr : UInt16) (v : UInt8) : (Bus.write addr v).Ensures R

end Bus

end GameBoy
