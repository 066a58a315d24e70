import GameBoy.Proofs.Bus.Mirrored
import GameBoy.Proofs.Bus.Patching
import GameBoy.Proofs.Bus.Visits

/-!
# Strict buses

A write to the cartridge that chooses no bank is a trespass. On a strict bus it is a fault, and
nothing else is (`Watched`), so that the cartridge stays as it is (`Protected`). Otherwise two buses of
which one is strict go the same way, until the first trespass (`Twins`).
-/

namespace GameBoy

open GameBoy.Action (Lockstep)

/-- A write to the addresses of the cartridge that chooses no bank. -/
def Trespass (mode : BankMode) : Event → Prop
  | .write addr _ => addr < 0x8000 ∧ ¬(mode = .banked ∧ 0x2000 ≤ addr)
  | _ => False

instance (mode : BankMode) : DecidablePred (Trespass mode)
  | .write addr _ => inferInstanceAs (Decidable (addr < 0x8000 ∧ ¬(mode = .banked ∧ 0x2000 ≤ addr)))
  | .read _ _ | .notice _ | .echo _ => inferInstanceAs (Decidable False)

namespace Bus

/-- What the bus reports about itself is no trespass. -/
lemma not_trespass_of_isOwnReport {mode : BankMode} {e : Event} (h : isOwnReport e = true) :
    ¬Trespass mode e := by
  cases e with
  | write => cases h
  | read | notice | echo => exact id

/-- A write trespasses if it is for the cartridge and selects no bank. -/
lemma trespass_write_iff (bus : Bus) (addr : UInt16) (v : UInt8) :
    Trespass bus.window.mode (.write addr v) ↔ addr < romEnd ∧ bus.window.selects addr = false := by
  have hsel := bus.window.selects_iff addr
  rw [← Bool.not_eq_true, hsel]
  exact ⟨fun ⟨ha, h⟩ => ⟨ha, fun ⟨hm, hl, _⟩ => h ⟨hm, hl⟩⟩,
    fun ⟨ha, h⟩ => ⟨ha, fun ⟨hm, hl⟩ => h ⟨hm, hl, ha⟩⟩⟩

/-- A write trespasses if it does so itself; what it reports does not. -/
lemma write_trespasses_iff (mode : BankMode) (bus : Bus) (addr : UInt16) (v : UInt8) :
    (∃ e ∈ (write addr v bus).events, Trespass mode e) ↔ Trespass mode (.write addr v) := by
  obtain ⟨hmem, hes⟩ := write_events bus addr v
  refine ⟨fun ⟨e, he, ht⟩ => ?_, fun h => ⟨_, hmem, h⟩⟩
  obtain hr | rfl := hes e he
  · exact absurd ht (not_trespass_of_isOwnReport hr)
  · exact ht

/-- A reading trespasses nowhere. -/
lemma read_not_trespass (mode : BankMode) (bus : Bus) (addr : UInt16) :
    ¬∃ e ∈ (read addr bus).events, Trespass mode e := by
  rintro ⟨e, he, ht⟩
  obtain hr | rfl := (read_events bus addr).2 e he
  · exact not_trespass_of_isOwnReport hr ht
  · exact ht

/-! ## Faults -/

/-- The bus has a fault if it had one before, or is strict and was trespassed on. -/
structure Watched (bus : Bus) (es : List Event) (bus' : Bus) : Prop where
  strict : bus'.strict = bus.strict
  mode : bus'.window.mode = bus.window.mode
  fault : bus'.fault ≠ none ↔
    bus.fault ≠ none ∨ bus.strict = true ∧ ∃ e ∈ es, Trespass bus.window.mode e

/-- A stretch without a trespass and without a change of the fault. -/
lemma Watched.of_quiet {bus bus' : Bus} {es : List Event} (hs : bus'.strict = bus.strict)
    (hm : bus'.window.mode = bus.window.mode) (hf : bus'.fault = bus.fault)
    (h : bus.strict = true → ¬∃ e ∈ es, Trespass bus.window.mode e) : Watched bus es bus' where
  strict := hs
  mode := hm
  fault := by
    rw [hf, or_iff_left]
    exact fun ⟨hs, he⟩ => h hs he

/-- There is no fault if and only if there was none before and no trespass on a strict bus. -/
lemma Watched.fault_eq_none_iff {bus bus' : Bus} {es : List Event} (h : Watched bus es bus') :
    bus'.fault = none ↔
      bus.fault = none ∧ (bus.strict = true → ∀ e ∈ es, ¬Trespass bus.window.mode e) := by
  have hfault := not_congr h.fault
  simpa only [ne_eq, not_or, Decidable.not_not, not_and, not_exists] using hfault

/-- A write is a fault if it is a trespass on a strict bus. -/
lemma write_watched (bus : Bus) (addr : UInt16) (v : UInt8) :
    Watched bus (write addr v bus).events (write addr v bus).state := by
  have htrespass := (write_trespasses_iff bus.window.mode bus addr v).trans (trespass_write_iff bus addr v)
  obtain h | ⟨h, hr, hs⟩ | ⟨h, hs⟩ := write_cases bus addr
  · rw [write_select v h]
    refine .of_quiet rfl rfl rfl fun _ he => ?_
    exact Bool.false_ne_true ((htrespass.mp he).2.symm.trans h)
  · rw [write_refuse v h hr hs]
    exact ⟨rfl, rfl, iff_of_true nofun (.inr ⟨hs, htrespass.mpr ⟨hr, h⟩⟩)⟩
  · obtain ⟨_, _, _, e⟩ := write_through v h hs
    rw [e]
    refine .of_quiet rfl rfl rfl fun hstrict he => ?_
    exact Bool.false_ne_true ((hs (htrespass.mp he).1).symm.trans hstrict)

/-- Whatever happens on a bus, trespasses alone are faults. -/
lemma watched_respected : Respected Watched where
  refl _ := .of_quiet rfl rfl rfl fun _ => nofun
  trans {bus bus' bus''} es es' h h' := by
    refine ⟨h'.strict.trans h.strict, h'.mode.trans h.mode, ?_⟩
    rw [h'.fault, h.fault, h.strict, h.mode, or_assoc, ← and_or_left]
    simp only [List.mem_append, or_and_right, exists_or]
  note _ _ := .of_quiet rfl rfl rfl fun _ ⟨e, he, ht⟩ => by
    rw [List.mem_singleton.mp he] at ht
    exact ht
  flag _ _ := .of_quiet rfl rfl rfl fun _ => nofun
  keys _ _ := .of_quiet rfl rfl rfl fun _ => nofun
  read addr bus := by
    have hquiet := read_not_trespass bus.window.mode bus addr
    obtain ⟨_, _, e, -⟩ := read_reaches bus addr
    rw [e]
    exact .of_quiet rfl rfl rfl fun _ => hquiet
  write addr v bus := write_watched bus addr v

/-- Lifting the boot image is no trespass. -/
lemma disableBoot_watched : disableBoot.Ensures Watched := by
  intro bus
  rw [disableBoot_state]
  refine .of_quiet rfl rfl rfl fun _ ⟨e, he, ht⟩ => ?_
  exact not_trespass_of_isOwnReport (disableBoot_reports bus e he) ht

/-- No adjustment is a trespass. -/
lemma adjust_watched (a : Adjustment) (bus : Bus) : Watched bus [] (a.apply bus) := by
  have hquiet : ¬∃ e ∈ ([] : List Event), Trespass bus.window.mode e := nofun
  cases a with
  | patch addr bytes =>
    obtain ⟨_, _, _, e, -⟩ := patch.go_reaches bus addr.toNat bytes
    change Watched bus [] (patch.go bus addr.toNat bytes).2
    rw [e]
    exact .of_quiet rfl rfl rfl fun _ => hquiet
  | flags | keys | boot | install | echo | scratch | store => exact .of_quiet rfl rfl rfl fun _ => hquiet

/-! ## Protection -/

/-- On a strict bus, the cartridge, its part of the map and the boot image stay as they are. -/
structure Protected (bus : Bus) (_ : List Event) (bus' : Bus) : Prop where
  strict : bus'.strict = bus.strict
  cartridge : bus'.cartridge = bus.cartridge
  boot : bus'.boot = bus.boot
  map (h : bus.strict = true) {addr : UInt16} (ha : addr < romEnd) :
    bus'.map.get addr.toNat = bus.map.get addr.toNat

/-- The addresses of the cartridge end before the registers. -/
lemma ne_interruptFlag {addr : UInt16} (h : addr < romEnd) : addr ≠ 0xff0f := by
  rintro rfl
  exact absurd h (by decide)

/-- Whatever happens on a strict bus, the cartridge is protected. -/
lemma protected_respected : Respected Protected where
  refl _ := ⟨rfl, rfl, rfl, fun _ _ _ => rfl⟩
  trans h h' := ⟨h'.strict.trans h.strict, h'.cartridge.trans h.cartridge, h'.boot.trans h.boot,
    fun hs _ ha => (h'.map (h.strict.trans hs) ha).trans (h.map hs ha)⟩
  note _ _ := ⟨rfl, rfl, rfl, fun _ _ _ => rfl⟩
  flag _ _ := ⟨rfl, rfl, rfl, fun _ _ ha => Store.get_set_word _ _ (ne_interruptFlag ha)⟩
  keys _ _ := ⟨rfl, rfl, rfl, fun _ _ _ => rfl⟩
  read a bus := by
    obtain ⟨_, _, e, hmap⟩ := read_reaches bus a
    rw [e]
    exact ⟨rfl, rfl, rfl, fun _ addr ha => hmap addr (ne_interruptFlag ha)⟩
  write a v bus := by
    obtain h | ⟨h, hr, hs⟩ | ⟨h, hs⟩ := write_cases bus a
    · rw [write_select v h]
      exact ⟨rfl, rfl, rfl, fun _ _ _ => rfl⟩
    · rw [write_refuse v h hr hs]
      exact ⟨rfl, rfl, rfl, fun _ _ _ => rfl⟩
    · obtain ⟨_, _, _, e⟩ := write_through v h hs
      rw [e]
      refine ⟨rfl, rfl, rfl, fun hstrict addr ha => ?_⟩
      -- what goes through on a strict bus lies behind the cartridge
      have hne : addr ≠ a := by
        rintro rfl
        exact Bool.false_ne_true ((hs ha).symm.trans hstrict)
      dsimp only
      split
      · rfl
      · exact Store.get_set_word _ _ hne

/-- Lifting the boot image leaves the cartridge alone. -/
lemma disableBoot_protected : disableBoot.Ensures Protected := by
  intro bus
  rw [disableBoot_state]
  exact ⟨rfl, rfl, rfl, fun _ _ _ => rfl⟩

/-- An adjustment that keeps its hands off the cartridge leaves it alone. -/
lemma adjust_protected {a : Adjustment} (h : a.HandsOff) (bus : Bus) :
    Protected bus [] (a.apply bus) := by
  cases a with
  | flags v => exact protected_respected.flag bus v
  | keys | boot | echo | scratch => exact ⟨rfl, rfl, rfl, fun _ _ _ => rfl⟩
  | install | store | patch => exact h.elim

/-! ## Two buses -/

/-- The bus made strict or not. -/
def withStrict (bus : Bus) (strict : Bool) : Bus := { bus with strict }

/-- Two buses that are the same but for whether they are strict. -/
def Twins (mode : BankMode) (s t : Bus) : Prop :=
  s.window.mode = mode ∧ ∃ strict, t = s.withStrict strict

variable {mode : BankMode} {bad : Event → Prop}

/-- Which of the two buses is called strict makes no difference. -/
lemma Twins.symm {s t : Bus} (h : Twins mode s t) : Twins mode t s := by
  obtain ⟨hm, f, rfl⟩ := h
  exact ⟨hm, s.strict, rfl⟩

/-- Whatever else they are, such buses hold the same. -/
lemma twins_mirrored : Mirrored (Twins mode) where
  map := fun ⟨_, _, e⟩ => by rw [e]; rfl
  boot := fun ⟨_, _, e⟩ => by rw [e]; rfl
  mapped := fun ⟨_, _, e⟩ => by rw [e]; rfl
  cartridge := fun ⟨_, _, e⟩ => by rw [e]; rfl
  window := fun ⟨_, _, e⟩ => by rw [e]; rfl
  echo := fun ⟨_, _, e⟩ => by rw [e]; rfl
  stored := fun ⟨hm, strict, e⟩ _ _ => ⟨hm, strict, by rw [e]; rfl⟩
  move := fun ⟨hm, strict, e⟩ _ => ⟨hm, strict, by rw [e]; rfl⟩
  choose := fun ⟨hm, strict, e⟩ _ => ⟨hm, strict, by rw [e]; rfl⟩
  send := fun ⟨hm, strict, e⟩ _ => ⟨hm, strict, by rw [e]; rfl⟩
  lift := fun ⟨hm, strict, e⟩ => ⟨hm, strict, by rw [e]; rfl⟩

/-- A change for which it does not matter whether a bus is strict. -/
lemma modify_twins {f : Bus → Bus} (hm : ∀ bus, (f bus).window.mode = bus.window.mode)
    (hf : ∀ bus strict, f (bus.withStrict strict) = (f bus).withStrict strict) :
    Lockstep (Twins mode) bad (.modify f) (.modify f) := by
  refine .modify fun s t ⟨h, strict, e⟩ => ?_
  rw [e, hf]
  exact ⟨(hm s).trans h, strict, rfl⟩

/-- The line counter is read the same way on both buses. -/
lemma readLine_twins : Lockstep (Twins mode) bad readLine readLine := by
  refine .get fun s t ⟨_, _, e⟩ => ?_
  rw [e]
  refine .bind (modify_twins (fun _ => rfl) fun _ _ => rfl) fun _ => .ite ?_ (.pure _)
  exact .bind (modify_twins (fun _ => rfl) fun _ _ => rfl) fun _ => .pure _

/-- Every register is read the same way on both buses. -/
lemma readIo_twins (r : IoRegister) : Lockstep (Twins mode) bad (readIo r) (readIo r) := by
  by_cases hly : r = .ly
  · subst hly
    exact .get fun _ _ _ => readLine_twins
  · by_cases hp1 : r = .p1
    · subst hp1
      refine .get fun s t ⟨_, _, e⟩ => ?_
      rw [e]
      exact .bind (.emit _) fun _ => .pure _
    · exact twins_mirrored.readIo_lockstep hly hp1

/-- Every address is read the same way on both buses. -/
lemma read_twins (addr : UInt16) : Lockstep (Twins mode) bad (read addr) (read addr) :=
  twins_mirrored.read_lockstep fun r _ => readIo_twins r

/-- A write that nothing refuses. -/
def writeFreely (addr : UInt16) (v : UInt8) : Action Bus Unit := do
  let bus ← .get
  .emit (.write addr v)
  if bus.window.selects addr then
    .note (.bankSelected v)
    .modify fun bus => { bus with window := bus.window.select v }
  else match IoRegister.ofAddr? addr with
    | some r =>
      writeIo r v
      if r != .boot then store addr v
    | none => store addr v

/-- A write that nothing refuses goes the same way on both buses. -/
lemma writeFreely_twins (addr : UInt16) (v : UInt8) :
    Lockstep (Twins mode) bad (writeFreely addr v) (writeFreely addr v) := by
  refine .get fun s t h => .bind (.emit _) fun _ => ?_
  rw [twins_mirrored.window h]
  refine .ite (.bind (.emit _) fun _ => .modify fun _ _ h => twins_mirrored.move h v) ?_
  exact twins_mirrored.through_lockstep addr v

/-- A write that is no trespass is refused by nothing. -/
lemma write_eq_writeFreely {bus : Bus} {addr : UInt16} (v : UInt8)
    (h : ¬Trespass bus.window.mode (.write addr v)) :
    write addr v bus = writeFreely addr v bus := by
  rw [trespass_write_iff] at h
  by_cases hsel : bus.window.selects addr = true
  · simp [write, writeFreely, hsel]
  · have hr : ¬addr < romEnd := fun hr => h ⟨hr, Bool.eq_false_iff.mpr hsel⟩
    cases e : IoRegister.ofAddr? addr <;> simp [write, writeFreely, hsel, hr, e]

/-- A write goes the same way on a strict bus and on another one, unless it is a trespass. -/
lemma write_twins (addr : UInt16) (v : UInt8) :
    Lockstep (Twins mode) (Trespass mode) (write addr v) (write addr v) := by
  intro s t h hgood
  obtain ⟨rfl, strict, rfl⟩ := id h
  have hs : ¬Trespass s.window.mode (.write addr v) := hgood _ (write_events s addr v).1
  have ht : write addr v (s.withStrict strict) = writeFreely addr v (s.withStrict strict) :=
    write_eq_writeFreely v hs
  rw [write_eq_writeFreely v hs] at hgood ⊢
  rw [ht]
  exact writeFreely_twins addr v _ _ h hgood

/-- Up to a trespass the processor cannot tell the two buses apart. -/
lemma twins_coupled : Coupled (Twins mode) (Trespass mode) :=
  twins_mirrored.coupled read_twins write_twins

/-- A byte is put into a cell of a strict bus as into one of any other. -/
lemma poke_withStrict (bus : Bus) (addr : UInt16) (v : UInt8) (strict : Bool) :
    (bus.withStrict strict).poke addr v = (bus.poke addr v).withStrict strict := by
  have hwindow : (bus.withStrict strict).window = bus.window := rfl
  have hmapped : (bus.withStrict strict).bootMapped = bus.bootMapped := rfl
  unfold poke
  rw [hwindow, hmapped]
  split
  · rfl
  · split <;> rfl

/-- A strict bus is patched like any other. -/
lemma patch_withStrict (bus : Bus) (a : Nat) (bytes : List UInt8) (strict : Bool) :
    (patch.go (bus.withStrict strict) a bytes).2 = (patch.go bus a bytes).2.withStrict strict := by
  induction bytes generalizing bus a with
  | nil => rfl
  | cons b bytes ih =>
    unfold patch.go
    split
    · dsimp only
      rw [poke_withStrict, ih]
    · rfl

/-- Adjustments do the same to both buses. -/
lemma adjust_twins (a : Adjustment) :
    Lockstep (Twins mode) bad (.modify a.apply) (.modify a.apply) := by
  refine modify_twins (fun bus => (adjust_watched a bus).mode) fun bus strict => ?_
  cases a with
  | patch addr bytes => exact patch_withStrict bus addr.toNat bytes strict
  | flags | keys | boot | install | echo | scratch | store => rfl

/-- A visit goes the same way on both buses, up to a trespass. -/
lemma Visit.twins {p : Adjustment → Prop} {α : Type} {x : Action Bus α} (h : Visit p x) :
    Lockstep (Twins mode) (Trespass mode) x x := by
  induction h with
  | pure a => exact .pure a
  | bind _ _ ihx ihf => exact .bind ihx ihf
  | look _ ih =>
    refine .get fun s t ⟨_, _, e⟩ => ?_
    rw [e]
    exact ih _
  | note n => exact .emit _
  | read addr => exact read_twins addr
  | write addr v => exact write_twins addr v
  | adjust _ => exact adjust_twins _

end Bus

end GameBoy
