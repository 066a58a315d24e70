import GameBoy.Proofs.Bus.Chronicle
import GameBoy.Proofs.Bus.PatchedReads

/-!
# History of the joypad

What the joypad register shows is made of three things, each of which some of the uses of a bus set anew
and all others leave: the byte that is stored in the register, the group that is selected, and which keys
are held. After any uses each of them is as the last use has left it that sets it (`latest_useAll`), which
tells what is read of the register (`p1_follows_history`).
-/

namespace GameBoy

/-! ## The register -/

/-- The keys of a group in the order of their bits. -/
def KeyGroup.keys : KeyGroup → Vector Key 4
  | .directions => #v[.right, .left, .up, .down]
  | .buttons => #v[.a, .b, .select, .start]

/-- A bit of a group of keys belongs to one key. -/
lemma Key.eq_keys_iff (key : Key) (group : KeyGroup) (i : Fin 4) :
    key.group = group ∧ key.mask.toNat.testBit i = true ↔ key = group.keys[i] := by
  revert i
  cases key <;> cases group <;> decide

namespace Joypad

/-- Clearing the bits of some keys one after the other leaves those bits that none of them has. -/
lemma testBit_cleared (p : Key → Prop) [DecidablePred p] (keys : List Key) (bits : UInt8) (i : Nat) :
    (keys.foldl (fun bits key => if p key then bits &&& ~~~key.mask else bits) bits).toNat.testBit i =
      (bits.toNat.testBit i && keys.all fun key => !(p key && key.mask.toNat.testBit i)) := by
  induction keys generalizing bits with
  | nil => exact (Bool.and_true _).symm
  | cons key keys ih =>
    rw [List.foldl_cons, ih, List.all_cons, ← Bool.and_assoc]
    refine congrArg (· && _) ?_
    by_cases h : p key
    · rw [if_pos h, Word.testBit_clear, decide_eq_true h, Bool.true_and]
    · rw [if_neg h, decide_eq_false h, Bool.false_and, Bool.not_false, Bool.and_true]

/-- The bit of a key in the nibble is clear while the key is held. -/
lemma testBit_nibble (pad : Joypad) (i : Fin 4) :
    pad.nibble.toNat.testBit i = !pad.holds pad.group.keys[i] := by
  have hlow : ∀ i : Fin 4, (0x0f : UInt8).toNat.testBit i = true := by decide
  have hall (key : Key) : key ∈ Key.all := by cases key <;> decide
  rw [nibble, testBit_cleared, hlow, Bool.true_and]
  obtain ⟨hgroup, hmask⟩ := (Key.eq_keys_iff _ _ _).mpr (rfl : pad.group.keys[i] = _)
  cases hheld : pad.holds pad.group.keys[i] with
  | true =>
    refine List.all_eq_false.mpr ⟨pad.group.keys[i], hall _, ?_⟩
    rw [decide_eq_true ⟨hgroup, hheld⟩, hmask]
    decide
  | false =>
    refine List.all_eq_true.mpr fun key _ => ?_
    by_cases h : key.group = pad.group ∧ pad.holds key = true
    · -- it is not the key of the bit, which is not held
      have hbit : key.mask.toNat.testBit i = false := by
        refine Bool.eq_false_iff.mpr fun hbit => ?_
        obtain rfl := (Key.eq_keys_iff _ _ _).mp ⟨h.1, hbit⟩
        exact Bool.false_ne_true (hheld.symm.trans h.2)
      rw [hbit, Bool.and_false]
      rfl
    · rw [decide_eq_false h]
      rfl

/-- In its upper half the register shows what is stored there. -/
lemma read_high (pad : Joypad) (latched : UInt8) : pad.read latched &&& 0xf0 = latched &&& 0xf0 := by
  refine Word.eq_of_testBit fun i hi => ?_
  have hmasks : (0x0f : UInt8).toNat.testBit i = false ∨ (0xf0 : UInt8).toNat.testBit i = false := by
    revert i
    decide
  rw [read, Word.testBit_and, Word.testBit_or, Word.testBit_and, nibble, testBit_cleared]
  obtain h | h := hmasks
  · rw [h, Bool.false_and, Bool.or_false, Bool.and_assoc, Bool.and_self]
  · rw [h, Bool.and_false, Bool.and_false]

/-- In its lower half the register shows the keys of the selected group, with a clear bit for a key
that is held. -/
lemma read_low (pad : Joypad) (latched : UInt8) (i : Fin 4) :
    (pad.read latched).toNat.testBit i = !pad.holds pad.group.keys[i] := by
  have hlow : ∀ i : Fin 4, (0xf0 : UInt8).toNat.testBit i = false := by decide
  rw [read, Word.testBit_or, Word.testBit_and, hlow, Bool.and_false, Bool.false_or, testBit_nibble]

/-- Selecting keys presses and releases none. -/
lemma select_holds (pad : Joypad) (v : UInt8) (key : Key) :
    (pad.select v).holds key = pad.holds key := by
  unfold select
  split
  · rfl
  · split <;> rfl

/-- Pressing or releasing a key leaves the others as they are. -/
lemma holds_setHeld (pad : Joypad) (key key' : Key) (held : Bool) :
    (pad.setHeld key held).holds key' = if key = key' then held else pad.holds key' := by
  have hindex : key.index = key'.index ↔ key = key' := by
    revert key'
    cases key <;> intro key' <;> cases key' <;> decide
  by_cases h : key = key'
  · subst h
    rw [if_pos rfl]
    exact Vector.getElem_set_self _
  · rw [if_neg h]
    exact Vector.getElem_set_ne key.index.isLt key'.index.isLt fun e => h (hindex.mp (Fin.ext e))

end Joypad

namespace Bus

/-! ## One use -/

/-- Whether an incident neither is a write to the joypad register nor gets at the keys or at the cell of
the register in any other way. -/
def Incident.SparesJoypad : Incident → Prop
  | write addr _ => addr ≠ 0xff00
  | adjust (.keys _) => False
  | adjust (.store addr _) => addr ≠ 0xff00
  | adjust (.patch addr bytes) => ∀ i < bytes.length, addr.toNat + i ≠ 0xff00
  | _ => True

/-- A use of a bus: a key goes down or up, a byte is written to the joypad register, or anything else
happens that spares the joypad. -/
inductive Use where
  | key (key : Key) (down : Bool)
  | select (v : UInt8)
  | other (i : Incident) (spares : i.SparesJoypad)

namespace Use

/-- What a use does to the bus. -/
def perform : Use → Action Bus Unit
  | key k true => press k
  | key k false => release k
  | select v => write 0xff00 v
  | other i _ => i.perform

/-- The byte that is written to the joypad register. -/
def written? : Use → Option UInt8
  | select v => some v
  | _ => none

/-- The group that is selected by clearing one of the two bits. -/
def group? : Use → Option KeyGroup
  | select v =>
    if v &&& 0x20 = 0 then some .buttons
    else if v &&& 0x10 = 0 then some .directions
    else none
  | _ => none

/-- Where a key has moved. -/
def moved? (k : Key) : Use → Option Bool
  | key k' down => if k' = k then some down else none
  | _ => none

end Use

/-- Does all that a list of uses tells. -/
def useAll : List Use → Action Bus Unit
  | [] => return
  | use :: uses => do
    use.perform
    useAll uses

/-- The byte that was written to the joypad register last. -/
def latched (uses : List Use) : UInt8 := (uses.filterMap Use.written?).getLastD 0

/-- The group that was selected last. -/
def selected (uses : List Use) : KeyGroup := (uses.filterMap Use.group?).getLastD .buttons

/-- Whether a key was pressed last, rather than released. -/
def held (uses : List Use) (k : Key) : Bool := (uses.filterMap (Use.moved? k)).getLastD false

/-! ## What one use does -/

/-- A write anywhere else reaches no key and selects no group. -/
lemma write_joypad (bus : Bus) {addr : UInt16} (v : UInt8) (h : addr ≠ 0xff00) :
    (write addr v bus).state.joypad = bus.joypad := by
  obtain hs | ⟨hs, hr, hstrict⟩ | ⟨hs, hstrict⟩ := write_cases bus addr
  · rw [write_select v hs]
  · rw [write_refuse v hs hr hstrict]
  · cases e : IoRegister.ofAddr? addr with
    | none => rw [write_memory v hs hstrict e]
    | some r =>
      obtain rfl := IoRegister.ofAddr?_eq_some_iff.mp e
      have hr : r ≠ .p1 := by
        rintro rfl
        exact h rfl
      rw [write_register]
      split <;> exact if_neg hr

/-- An adjustment that spares the joypad leaves it, and the cell of its register. -/
lemma adjust_spares {a : Adjustment} (h : (Incident.adjust a).SparesJoypad) (bus : Bus) :
    (a.apply bus).io .p1 = bus.io .p1 ∧ (a.apply bus).joypad = bus.joypad := by
  cases a with
  | keys => exact h.elim
  | flags v => exact ⟨Store.get_set_word _ v (by decide), rfl⟩
  | store addr v => exact ⟨Store.get_set_word _ v (Ne.symm h), rfl⟩
  | patch addr bytes =>
    obtain ⟨_, _, _, e, -⟩ := patch.go_reaches bus addr.toNat bytes
    have hpeek : (bus.patch addr bytes).2.peek 0xff00 = bus.peek 0xff00 := by
      refine peek_patch_outside bus fun i hi hai e => h i hi ?_
      rw [← UInt16.toNat_ofNat_of_lt' hai, ← e]
      rfl
    rw [peek_of_romEnd_le _ (by decide), peek_of_romEnd_le _ (by decide)] at hpeek
    have hpad : (patch.go bus addr.toNat bytes).2.joypad = bus.joypad := by rw [e]
    exact ⟨hpeek, hpad⟩
  | boot | install | echo | scratch => exact ⟨rfl, rfl⟩

/-- An incident that spares the joypad keeps both its register and its keys. -/
lemma Incident.SparesJoypad.keeps {i : Incident} (h : i.SparesJoypad) (bus : Bus) :
    (i.perform bus).state.io .p1 = bus.io .p1 ∧ (i.perform bus).state.joypad = bus.joypad := by
  cases i with
  | read addr =>
    obtain ⟨_, _, e, hmap⟩ := read_reaches bus addr
    change (Bus.read addr bus).state.io .p1 = _ ∧ (Bus.read addr bus).state.joypad = _
    rw [e]
    exact ⟨hmap 0xff00 (by decide), rfl⟩
  | write addr v => exact ⟨write_io bus v h, write_joypad bus v h⟩
  | adjust a => exact adjust_spares h bus
  | insert image =>
    have hrom : ¬(0xff00 : UInt16).toNat < min image.size romEnd.toNat := fun hlt =>
      absurd (Nat.lt_of_lt_of_le hlt (Nat.min_le_right _ _)) (by decide)
    exact ⟨(get_overlay bus.map image 0xff00).trans (if_neg hrom), rfl⟩
  | note | strict => exact ⟨rfl, rfl⟩

/-- A write to the register of the joypad is latched there and selects the keys. -/
lemma write_selects (bus : Bus) (v : UInt8) :
    (write 0xff00 v bus).state.io .p1 = v ∧
      (write 0xff00 v bus).state.joypad = bus.joypad.select v := by
  have e : (write 0xff00 v bus).state = _ := write_register bus .p1 v
  rw [e]
  exact ⟨Store.get_set_self _ _ _, rfl⟩

namespace Use

variable (use : Use) (bus : Bus)

/-- A key changes the keys that are held, and nothing else. -/
lemma perform_key (k : Key) (down : Bool) :
    ((key k down).perform bus).state = { bus with joypad := bus.joypad.setHeld k down } := by
  cases down <;> rfl

/-- The latch holds what the last use has written there. -/
lemma perform_latched : (use.perform bus).state.io .p1 = use.written?.getD (bus.io .p1) := by
  cases use with
  | key k down =>
    rw [perform_key]
    rfl
  | select v => exact (write_selects bus v).1
  | other i spares => exact (spares.keeps bus).1

/-- The selected group is what the last use has selected. -/
lemma perform_group :
    (use.perform bus).state.joypad.group = use.group?.getD bus.joypad.group := by
  cases use with
  | key k down =>
    rw [perform_key]
    rfl
  | select v =>
    refine (congrArg Joypad.group (write_selects bus v).2).trans ?_
    simp only [Joypad.select, Joypad.asksFor, group?, beq_iff_eq]
    split
    · rfl
    · split <;> rfl
  | other i spares => exact congrArg Joypad.group (spares.keeps bus).2

/-- A key is held if the last use of it was to press it. -/
lemma perform_holds (k : Key) :
    (use.perform bus).state.joypad.holds k = (use.moved? k).getD (bus.joypad.holds k) := by
  cases use with
  | key k' down =>
    rw [perform_key, moved?, bus.joypad.holds_setHeld]
    split <;> rfl
  | select v =>
    refine (congrArg (Joypad.holds · k) (write_selects bus v).2).trans ?_
    exact bus.joypad.select_holds v k
  | other i spares => exact congrArg (Joypad.holds · k) (spares.keeps bus).2

end Use

/-! ## What many of them do -/

/-- What some of the uses set, and all others leave, is as the last one of them has set it. -/
lemma latest_useAll {α : Type} {f : Bus → α} {set? : Use → Option α}
    (h : ∀ (use : Use) bus, f (use.perform bus).state = (set? use).getD (f bus)) (uses : List Use)
    (bus : Bus) : f (useAll uses bus).state = (uses.filterMap set?).getLastD (f bus) := by
  induction uses generalizing bus with
  | nil => rfl
  | cons use uses ih =>
    refine (ih (use.perform bus).state).trans ?_
    rw [h, List.filterMap_cons]
    cases set? use with
    | none => rfl
    | some a => exact (List.getLastD_cons ..).symm

/-- What the joypad register of a fresh bus shows after some uses. -/
def p1After (clock : Clock) (uses : List Use) : UInt8 :=
  (read 0xff00 (useAll uses (Bus.new clock)).state).value

/-- The register shows what a joypad answers with in which the keys are held that went down last, in
the group that was selected last, for the byte that was written last. -/
lemma p1After_eq (clock : Clock) (uses : List Use) :
    ∃ pad : Joypad, p1After clock uses = pad.read (latched uses) ∧ pad.group = selected uses ∧
      ∀ k, pad.holds k = held uses k := by
  let bus := Bus.new clock
  have hlatched : (useAll uses bus).state.io .p1 = _ :=
    latest_useAll (f := fun bus => bus.io .p1) Use.perform_latched uses bus
  have hgroup : (useAll uses bus).state.joypad.group = _ :=
    latest_useAll (f := fun bus => bus.joypad.group) Use.perform_group uses bus
  have hheld (k : Key) : (useAll uses bus).state.joypad.holds k = _ :=
    latest_useAll (f := fun bus => bus.joypad.holds k) (fun use bus => use.perform_holds bus k) uses bus
  -- nothing was written, selected or held before
  have hzero : bus.io .p1 = 0 := Store.get_fill 16 0 _
  have hnone (k : Key) : bus.joypad.holds k = false := by cases k <;> rfl
  rw [hzero] at hlatched
  refine ⟨(useAll uses bus).state.joypad, ?_, hgroup, fun k => ?_⟩
  · exact (read_value _ _).trans (congrArg (Joypad.read _) hlatched)
  · rw [hheld, hnone, held]

/-- The upper half of the byte, the group and its keys decide what the register shows. -/
lemma p1After_congr (clock : Clock) {uses uses' : List Use}
    (hlatched : latched uses' &&& 0xf0 = latched uses &&& 0xf0) (hgroup : selected uses' = selected uses)
    (hheld : ∀ i : Fin 4, held uses' (selected uses).keys[i] = held uses (selected uses).keys[i]) :
    p1After clock uses' = p1After clock uses := by
  obtain ⟨pad, e, hpad, hkeys⟩ := p1After_eq clock uses
  obtain ⟨pad', e', hpad', hkeys'⟩ := p1After_eq clock uses'
  refine Word.eq_of_testBit fun i hi => ?_
  rw [e, e']
  by_cases hlow : i < 4
  · have h := pad.read_low (latched uses) ⟨i, hlow⟩
    have h' := pad'.read_low (latched uses') ⟨i, hlow⟩
    rw [hkeys, hpad] at h
    rw [hkeys', hpad', hgroup, hheld] at h'
    exact h'.trans h.symm
  · have hmask : ∀ i < 8, ¬i < 4 → (0xf0 : UInt8).toNat.testBit i = true := by decide
    have hhigh : pad'.read (latched uses') &&& 0xf0 = pad.read (latched uses) &&& 0xf0 := by
      rw [Joypad.read_high, Joypad.read_high, hlatched]
    have h := congrArg (fun v => v.toNat.testBit i) hhigh
    simp only [Word.testBit_and, hmask i hi hlow, Bool.and_true] at h
    exact h

/-- Whether a use behind some others has no effect on the keys of a group: a read of any address, a key
that moves to where it is, or a key of the other group. -/
inductive Idle (before : List Use) (group : KeyGroup) : Use → Prop where
  | read (addr : UInt16) : Idle before group (.other (.read addr) trivial)
  | again {k : Key} {down : Bool} (h : held before k = down) : Idle before group (.key k down)
  | elsewhere {k : Key} {down : Bool} (h : ∀ i : Fin 4, k ≠ group.keys[i]) :
    Idle before group (.key k down)

/-- A use that sets nothing makes no difference to what is set last. -/
lemma latest_skip {α : Type} {set? : Use → Option α} {use : Use} (h : set? use = none)
    (first last : List Use) (a : α) :
    ((first ++ last).filterMap set?).getLastD a = ((first ++ use :: last).filterMap set?).getLastD a := by
  rw [List.filterMap_append, List.filterMap_append, List.filterMap_cons_none h]

/-- A use that sets what is already set makes no difference to what is set last. -/
lemma latest_again {α : Type} {set? : Use → Option α} {use : Use} {first : List Use} {a b : α}
    (h : set? use = some b) (hfirst : (first.filterMap set?).getLastD a = b) (last : List Use) :
    ((first ++ last).filterMap set?).getLastD a = ((first ++ use :: last).filterMap set?).getLastD a := by
  rw [List.filterMap_append, List.filterMap_append, List.filterMap_cons_some h]
  simp only [List.getLastD_eq_getLast?, List.getLast?_append, List.getLast?_cons] at hfirst ⊢
  cases (last.filterMap set?).getLast? with
  | none => exact hfirst
  | some => rfl

/-- An idle use selects nothing. -/
lemma Idle.sets_none {before : List Use} {group : KeyGroup} {use : Use} (h : Idle before group use) :
    use.written? = none ∧ use.group? = none := by
  cases h <;> exact ⟨rfl, rfl⟩

/-- An idle use moves no key of the selected group. -/
lemma Idle.held_eq {first last : List Use} {group : KeyGroup} {use : Use} (h : Idle first group use)
    (i : Fin 4) : held (first ++ last) group.keys[i] = held (first ++ use :: last) group.keys[i] := by
  cases h with
  | read => exact latest_skip rfl first last false
  | @again k down h =>
    by_cases hk : k = group.keys[i]
    · subst hk
      exact latest_again (if_pos rfl) h last
    · exact latest_skip (if_neg hk) first last false
  | elsewhere h => exact latest_skip (if_neg (h i)) first last false

/-- Which group a byte selects depends on its upper half only. -/
lemma Use.group?_congr {v w : UInt8} (h : v &&& 0xf0 = w &&& 0xf0) :
    (select v).group? = (select w).group? := by
  have hbuttons (u : UInt8) : u &&& 0x20 = u &&& 0xf0 &&& 0x20 := by
    rw [UInt8.and_assoc]
    rfl
  have hdirections (u : UInt8) : u &&& 0x10 = u &&& 0xf0 &&& 0x10 := by
    rw [UInt8.and_assoc]
    rfl
  rw [group?, group?, hbuttons v, hdirections v, h, ← hbuttons, ← hdirections]

/-- What is written below its upper half makes no difference to the upper half of the latch. -/
lemma latched_congr {v w : UInt8} (h : v &&& 0xf0 = w &&& 0xf0) (first last : List Use) :
    latched (first ++ .select v :: last) &&& 0xf0 = latched (first ++ .select w :: last) &&& 0xf0 := by
  have hwritten (u : UInt8) : (Use.select u).written? = some u := rfl
  simp only [latched, List.filterMap_append, List.filterMap_cons_some (hwritten _),
    List.getLastD_eq_getLast?, List.getLast?_append, List.getLast?_cons]
  cases (last.filterMap Use.written?).getLast? with
  | none => exact h
  | some => rfl

/-- The lower nibble of what is written makes no difference to the selection. -/
lemma selected_congr {v w : UInt8} (h : v &&& 0xf0 = w &&& 0xf0) (first last : List Use) :
    selected (first ++ .select v :: last) = selected (first ++ .select w :: last) := by
  simp only [selected, List.filterMap_append, List.filterMap_cons, Use.group?_congr h]

/-- What the joypad register shows after any uses of a bus: above, the upper half of the byte that was
written to it last, and below, a zero bit for each key of the group selected last that was pressed last
rather than released. -/
theorem p1_follows_history (clock : Clock) (uses : List Use) :
    -- what is shown
    (p1After clock uses &&& 0xf0 = latched uses &&& 0xf0 ∧
      ∀ i : Fin 4, (p1After clock uses).toNat.testBit i = false ↔
        held uses (selected uses).keys[i] = true) ∧
    -- what makes no difference to it
    (∀ first use last, uses = first ++ use :: last → Idle first (selected uses) use →
      p1After clock (first ++ last) = p1After clock uses) ∧
    ∀ first v w last, uses = first ++ .select v :: last → v &&& 0xf0 = w &&& 0xf0 →
      p1After clock (first ++ .select w :: last) = p1After clock uses := by
  obtain ⟨pad, e, hpad, hkeys⟩ := p1After_eq clock uses
  refine ⟨⟨?_, fun i => ?_⟩, fun first use last huses h => ?_, fun first v w last huses h => ?_⟩
  · rw [e, pad.read_high]
  · rw [e, pad.read_low, hkeys, hpad, Bool.not_eq_false']
  · subst huses
    obtain ⟨hwritten, hgroup⟩ := h.sets_none
    refine p1After_congr clock ?_ (latest_skip hgroup first last .buttons) h.held_eq
    rw [latched, latest_skip hwritten, latched]
  · subst huses
    refine p1After_congr clock (latched_congr h.symm first last) (selected_congr h.symm first last) ?_
    intro i
    simp only [held, List.filterMap_append, List.filterMap_cons, Use.moved?]

/-- With A and the upward key held and the directions selected, the register shows the latter alone. -/
example : p1After (.steady 0 0) [.key .a true, .key .up true, .select 0x2f] = 0x2b := by
  decide +kernel

end Bus

end GameBoy
