import GameBoy.Proofs.Machine.Stack

/-!
# Words come back in reverse order

A run of pushing events stacks their words one below the other (`Pushes.stacked`), and a run of as
many popping events, of whatever kinds, unstacks them (`Pops.unstacked`). Between the events
anything may happen that leaves alone the stack pointer and the words that are stacked just then.
-/

namespace GameBoy.Machine

/-! ## Addresses -/

/-- The addresses of `n` words below a stack pointer, the highest first. -/
def area (sp : UInt16) (n : Nat) : List UInt16 :=
  (List.range (2 * n)).map fun i => sp - 1 - UInt16.ofNat i

/-- There is room for `n` words below a stack pointer, in plain cells. -/
structure Room (sp : UInt16) (n : Nat) : Prop where
  nodup : (area sp n).Nodup
  plain {addr : UInt16} : addr ∈ area sp n → Bus.IsPlain addr

variable {sp : UInt16} {i j k n : Nat}

/-- The cells of so many words are in the area below the stack pointer. -/
lemma mem_area (sp : UInt16) (h : i < 2 * n) : sp - 1 - UInt16.ofNat i ∈ area sp n :=
  List.mem_map_of_mem (List.mem_range.mpr h)

/-- The cells in the area are different ones. -/
lemma Room.inj (h : Room sp n) (hi : i < 2 * n) (hj : j < 2 * n)
    (e : sp - 1 - UInt16.ofNat i = sp - 1 - UInt16.ofNat j) : i = j :=
  (List.nodup_map_iff_inj_on List.nodup_range).mp h.nodup i (List.mem_range.mpr hi) j
    (List.mem_range.mpr hj) e

/-- Behind a word the next one begins. -/
lemma add_two_add_ofNat (a : UInt16) (k : Nat) :
    a + 2 + UInt16.ofNat k = a + UInt16.ofNat (k + 2) := by
  rw [UInt16.ofNat_add, UInt16.add_assoc, UInt16.add_comm 2]
  rfl

/-- The stack pointer below one more word. -/
lemma sub_ofNat_sub_two (sp : UInt16) (k : Nat) :
    sp - UInt16.ofNat (2 * k) - 2 = sp - UInt16.ofNat (2 * (k + 1)) := by
  rw [Nat.mul_succ, UInt16.ofNat_add]
  grind

/-- The two bytes of the word below `k` others. -/
lemma high_eq (sp : UInt16) (k : Nat) :
    sp - UInt16.ofNat (2 * k) - 1 = sp - 1 - UInt16.ofNat (2 * k) := by
  grind

/-- The low byte of a word in the area. -/
lemma low_eq (sp : UInt16) (k : Nat) :
    sp - UInt16.ofNat (2 * k) - 2 = sp - 1 - UInt16.ofNat (2 * k + 1) := by
  rw [UInt16.ofNat_add]
  grind

/-- The bytes of these others. -/
lemma above_eq (sp : UInt16) (h : j < 2 * k) :
    sp - UInt16.ofNat (2 * k) + UInt16.ofNat j = sp - 1 - UInt16.ofNat (2 * k - 1 - j) := by
  obtain ⟨i, hi⟩ := Nat.exists_eq_add_of_lt h
  rw [hi, show j + i + 1 - 1 - j = i by omega, UInt16.ofNat_add, UInt16.ofNat_add]
  grind

/-! ## Stacks -/

/-- The words of some pushing events lie on a stack, the one that was pushed last on top. Popping
them leads the stack pointer back to where each event found it. -/
def Stacked (bus : Bus) (sp : UInt16) : List Pushing → Prop
  | [] => True
  | e :: es =>
    topOf bus sp = e.word ∧ sp + 2 = e.before.cpu.registers.sp ∧ Stacked bus (sp + 2) es

/-- Only the cells of the words matter. -/
lemma Stacked.congr {bus bus' : Bus} {es : List Pushing} (h : Stacked bus sp es)
    (hpeek : ∀ k < 2 * es.length, bus'.peek (sp + UInt16.ofNat k) = bus.peek (sp + UInt16.ofNat k)) :
    Stacked bus' sp es := by
  induction es generalizing sp with
  | nil => trivial
  | cons e es ih =>
    obtain ⟨htop, hsp, hrest⟩ := h
    rw [List.length_cons] at hpeek
    have hlow := hpeek 0 (by omega)
    have hhigh := hpeek 1 (by omega)
    rw [show sp + UInt16.ofNat 0 = sp from UInt16.add_zero _] at hlow
    refine ⟨?_, hsp, ih hrest fun k hk => ?_⟩
    · rw [← htop, topOf, topOf, hlow]
      exact congrArg (Word.join · _) hhigh
    · rw [add_two_add_ofNat]
      exact hpeek (k + 2) (by omega)

/-- The stack pointer and the topmost words are as they were, whatever else has happened. -/
structure Untouched (n : Nat) (m m' : Machine) : Prop where
  pointer : m'.cpu.registers.sp = m.cpu.registers.sp
  cells {k : Nat} : k < 2 * n → m'.bus.peek (m.cpu.registers.sp + UInt16.ofNat k) =
    m.bus.peek (m.cpu.registers.sp + UInt16.ofNat k)

/-- Where nothing happens everything is untouched. -/
lemma Untouched.refl (n : Nat) (m : Machine) : Untouched n m m := ⟨rfl, fun _ => rfl⟩

variable {m m' m'' : Machine} {e : Pushing} {es : List Pushing} {ps : List Popping}

/-- Words that are untouched stay on the stack. -/
lemma Untouched.stacked (h : Untouched n m m') (hn : n = es.length)
    (hs : Stacked m.bus m.cpu.registers.sp es) : Stacked m'.bus m'.cpu.registers.sp es := by
  subst hn
  rw [h.pointer]
  exact hs.congr fun k hk => h.cells hk

namespace Pushed

variable {bus : Bus} {w : UInt16}

/-- A pushed word is on top. -/
lemma top (h : Pushed bus sp w m) (h₁ : Bus.IsPlain (sp - 1)) (h₂ : Bus.IsPlain (sp - 2)) :
    topOf m.bus m.cpu.registers.sp = w := by
  have hup : sp - 2 + 1 = sp - 1 := by grind
  rw [topOf, h.pointer, hup, h.peek_high h₁, h.peek_low h₂, Word.join_high_low]

/-- No other cell has changed. -/
lemma peek_of_ne (h : Pushed bus sp w m) {addr : UInt16} (hplain : Bus.IsPlain addr)
    (h₁ : addr ≠ sp - 1) (h₂ : addr ≠ sp - 2) : m.bus.peek addr = bus.peek addr := by
  rw [h.stored, Bus.peek_stored_of_ne _ hplain _ h₂, Bus.peek_stored_of_ne _ hplain _ h₁]

end Pushed

/-- Neither a fetch nor a dispatch changes plain cells. -/
lemma Pushing.peek_reached (e : Pushing) {addr : UInt16} (h : Bus.IsPlain addr) :
    e.reached.peek addr = e.before.bus.peek addr := by
  obtain ⟨m, kind⟩ := e
  cases kind with
  | dispatch i => exact Bus.peek_stored_of_ne _ h _ (h.ne_register .interruptFlag)
  | _ => exact Bus.peek_liftedAt _ _ h

/-- What is popped other than for a pair is where the program goes on. -/
lemma Popping.Receives.pc {p : Popping} {w : UInt16} (h : p.Receives w)
    (hk : ∀ q, p.kind ≠ .pair q) : p.after.cpu.registers.pc = w := by
  obtain ⟨m, kind⟩ := p
  cases kind with
  | pair q => exact absurd rfl (hk q)
  | ret cc => exact h
  | reti => exact h.1

/-! ## Runs -/

/-- Some pushing events, the last one first, lead from one machine to another. Before each of them,
the words of the earlier ones are untouched. -/
inductive Pushes (m : Machine) : List Pushing → Machine → Prop where
  | nil : Pushes m [] m
  | push {m' : Machine} {e : Pushing} {es : List Pushing} : Pushes m es m' →
    Untouched es.length m' e.before → e.IsNext → Pushes m (e :: es) e.after

/-- Some popping events lead from one machine to another. Before each of them, as many words are
untouched as are still to be popped. -/
inductive Pops : Machine → List Popping → Machine → Prop where
  | nil {m : Machine} : Pops m [] m
  | pop {m m' : Machine} {p : Popping} {ps : List Popping} :
    Untouched (ps.length + 1) m p.before → p.IsNext → Pops p.after ps m' → Pops m (p :: ps) m'

/-- An event pushes its word within the room that there is. -/
structure Fits (sp : UInt16) (n : Nat) (e : Pushing) : Prop where
  pushed : Pushed e.reached e.before.cpu.registers.sp e.word e.after
  high : e.before.cpu.registers.sp - 1 ∈ area sp n
  low : e.before.cpu.registers.sp - 2 ∈ area sp n

/-- Pushing puts a word on top of the others. -/
lemma Pushing.stacked (hroom : Room sp n) (hn : es.length < n) (h : e.IsNext)
    (hsp : e.before.cpu.registers.sp = sp - UInt16.ofNat (2 * es.length))
    (hs : Stacked e.before.bus e.before.cpu.registers.sp es) :
    Fits sp n e ∧ Stacked e.after.bus e.after.cpu.registers.sp (e :: es) := by
  have hhigh : e.before.cpu.registers.sp - 1 ∈ area sp n := by
    rw [hsp, high_eq]
    exact mem_area sp (by omega)
  have hlow : e.before.cpu.registers.sp - 2 ∈ area sp n := by
    rw [hsp, low_eq]
    exact mem_area sp (by omega)
  have hpushed := e.effect h (hroom.plain hhigh) (hroom.plain hlow)
  refine ⟨⟨hpushed, hhigh, hlow⟩, hpushed.top (hroom.plain hhigh) (hroom.plain hlow), ?_, ?_⟩
  · rw [hpushed.pointer]
    grind
  · rw [hpushed.pointer, UInt16.sub_add_cancel]
    refine hs.congr fun j hj => ?_
    -- the words above lie in the area, but not where the new one is
    have habove := above_eq sp hj
    have hplain : Bus.IsPlain (e.before.cpu.registers.sp + UInt16.ofNat j) := by
      rw [hsp, habove]
      exact hroom.plain (mem_area sp (by omega))
    rw [hpushed.peek_of_ne hplain, e.peek_reached hplain]
    · intro he
      rw [hsp, habove, high_eq] at he
      have := hroom.inj (by omega) (by omega) he
      omega
    · intro he
      rw [hsp, habove, low_eq] at he
      have := hroom.inj (by omega) (by omega) he
      omega

/-- A run of pushing events stacks their words. -/
lemma Pushes.stacked (h : Pushes m es m') (hn : es.length ≤ n) (hroom : Room m.cpu.registers.sp n) :
    m'.cpu.registers.sp = m.cpu.registers.sp - UInt16.ofNat (2 * es.length) ∧
      Stacked m'.bus m'.cpu.registers.sp es ∧ ∀ e ∈ es, Fits m.cpu.registers.sp n e := by
  induction h with
  | nil => exact ⟨by simp, trivial, by simp⟩
  | @push m' e es hpush hbetween hnext ih =>
    rw [List.length_cons] at hn
    obtain ⟨hsp, hs, hfits⟩ := ih (by omega)
    obtain ⟨hfit, hs'⟩ := Pushing.stacked hroom hn hnext (hbetween.pointer.trans hsp)
      (hbetween.stacked rfl hs)
    refine ⟨?_, hs', List.forall_mem_cons.mpr ⟨hfit, hfits⟩⟩
    rw [hfit.pushed.pointer, hbetween.pointer, hsp, sub_ofNat_sub_two, List.length_cons]

/-- A run of popping events unstacks as many words. -/
lemma Pops.unstacked (h : Pops m ps m') (hlen : ps.length = es.length)
    (hs : Stacked m.bus m.cpu.registers.sp es)
    (hplain : ∀ k < 2 * es.length, Bus.IsPlain (m.cpu.registers.sp + UInt16.ofNat k)) :
    m'.cpu.registers.sp = m.cpu.registers.sp + UInt16.ofNat (2 * es.length) ∧
      List.Forall₂ (fun p e => p.Receives e.word ∧
        p.after.cpu.registers.sp = e.before.cpu.registers.sp) ps es ∧
      ∀ p ∈ ps, p.after.cpu.registers.sp = p.before.cpu.registers.sp + 2 ∧
        p.after.bus = p.before.bus.liftedAt p.before.cpu.registers.pc := by
  induction h generalizing es with
  | nil =>
    obtain rfl := List.length_eq_zero_iff.mp hlen.symm
    exact ⟨by simp, .nil, by simp⟩
  | @pop m m' p ps hbetween hnext _ ih =>
    cases es with
    | nil => cases hlen
    | cons e es =>
      rw [List.length_cons] at hplain
      obtain ⟨htop, hsp, hrest⟩ := hbetween.stacked hlen hs
      have hlow := hplain 0 (by omega)
      have hhigh := hplain 1 (by omega)
      rw [show m.cpu.registers.sp + UInt16.ofNat 0 = m.cpu.registers.sp from UInt16.add_zero _]
        at hlow
      rw [← hbetween.pointer] at hlow hhigh
      obtain ⟨hreceives, hpointer, hbus⟩ := Popping.effect hnext hlow hhigh
      have hplain' : ∀ k < 2 * es.length, Bus.IsPlain (p.after.cpu.registers.sp + UInt16.ofNat k) := by
        intro k hk
        rw [hpointer, hbetween.pointer, add_two_add_ofNat]
        exact hplain (k + 2) (by omega)
      have hstacked : Stacked p.after.bus p.after.cpu.registers.sp es := by
        rw [hbus, hpointer]
        refine hrest.congr fun k hk => Bus.peek_liftedAt _ _ ?_
        rw [← hpointer]
        exact hplain' k hk
      obtain ⟨hend, hall, hsame⟩ := ih (Nat.succ.inj hlen) hstacked hplain'
      refine ⟨?_, .cons ⟨htop ▸ hreceives, hpointer.trans hsp⟩ hall,
        List.forall_mem_cons.mpr ⟨⟨hpointer, hbus⟩, hsame⟩⟩
      rw [hend, hpointer, hbetween.pointer, add_two_add_ofNat]
      rfl

/-- Pushing events of any kinds, as far as there is room in plain cells, and as many popping events
of any kinds behind them: each pushes its word and reaches no other cell, they receive the words in
reverse order, and the stack pointer ends where it started. Calls are left behind themselves, and
interrupts where they came, whatever was called or came in between. -/
theorem stack_discipline (m m' m'' : Machine) (es : List Pushing) (ps : List Popping)
    (hroom : Room m.cpu.registers.sp es.length) (hpush : Pushes m es m') (hpop : Pops m' ps m'')
    (hlen : ps.length = es.length) :
    (∀ e ∈ es,
      let sp := e.before.cpu.registers.sp
      e.after.cpu.registers.sp = sp - 2 ∧
        e.after.bus.peek (sp - 1) = Word.high e.word ∧
        e.after.bus.peek (sp - 2) = Word.low e.word ∧
        ∃ map, e.after.bus = { e.reached with map } ∧
          ∀ addr ∉ area m.cpu.registers.sp es.length,
            map.get addr.toNat = e.reached.map.get addr.toNat) ∧
    (∀ p ∈ ps, p.after.cpu.registers.sp = p.before.cpu.registers.sp + 2 ∧
      p.after.bus = p.before.bus.liftedAt p.before.cpu.registers.pc) ∧
    List.Forall₂ (fun p e => p.Receives e.word ∧
      p.after.cpu.registers.sp = e.before.cpu.registers.sp) ps es ∧
    m''.cpu.registers.sp = m.cpu.registers.sp ∧
    ∀ p e, (p, e) ∈ ps.zip es →
      ((∀ q, p.kind ≠ .pair q) →
        (∀ cc nn, e.kind = .call cc nn →
          p.after.cpu.registers.pc = e.before.cpu.registers.pc + 3) ∧
        ∀ target, e.kind = .restart target →
          p.after.cpu.registers.pc = e.before.cpu.registers.pc + 1) ∧
      (p.kind = .reti → ∀ i, e.kind = .dispatch i →
        p.after.cpu.registers.pc = e.before.cpu.registers.pc ∧
        p.after.cpu.registers.sp = e.before.cpu.registers.sp ∧ p.after.cpu.ime = true) := by
  obtain ⟨hsp, hstacked, hfits⟩ := hpush.stacked le_rfl hroom
  obtain ⟨hend, hall, hpopped⟩ := hpop.unstacked hlen hstacked fun k hk => by
    rw [hsp, above_eq _ hk]
    exact hroom.plain (mem_area _ (by omega))
  refine ⟨fun e he => ?_, hpopped, hall, ?_, fun p e hpe => ?_⟩
  · obtain ⟨hpushed, hhigh, hlow⟩ := hfits e he
    refine ⟨hpushed.pointer, hpushed.peek_high (hroom.plain hhigh),
      hpushed.peek_low (hroom.plain hlow), _, hpushed.stored, fun addr haddr => ?_⟩
    have hne : addr ≠ e.before.cpu.registers.sp - 1 := fun he => haddr (he ▸ hhigh)
    have hne' : addr ≠ e.before.cpu.registers.sp - 2 := fun he => haddr (he ▸ hlow)
    exact (Store.get_set_word _ _ hne').trans (Store.get_set_word _ _ hne)
  · rw [hend, hsp, UInt16.sub_add_cancel]
  · obtain ⟨hreceives, hpointer⟩ := (List.forall₂_iff_zip.mp hall).2 hpe
    refine ⟨fun hreturn => ⟨fun cc nn he => ?_, fun target he => ?_⟩, fun hreti i he => ?_⟩
    · rw [hreceives.pc hreturn, Pushing.word, he]
    · rw [hreceives.pc hreturn, Pushing.word, he]
    · have hgo := hreceives.pc (hreti ▸ nofun)
      rw [Popping.Receives, hreti] at hreceives
      rw [Pushing.word, he] at hgo
      exact ⟨hgo, hpointer, hreceives.2⟩

/-- A call, an interrupt in the routine that is called, and the way back from both. -/
theorem stack_discipline_interrupted :
    let cells := (((((Store.fill 16 0).set 0x100 0xcd).set 0x102 0x02).set 0x200 0xc9).set 0x40
      0xd9).set 0xffff 0x01
    let bus := { Bus.new (Clock.steady 0 0) with map := cells.set 0xff0f 0x01 }
    let m : Machine := ⟨{ registers := { sp := 0xd000, pc := 0x100 }, ime := true }, bus⟩
    let call : Pushing := ⟨m, .call none 0x200⟩
    let dispatch : Pushing := ⟨call.after, .dispatch .vblank⟩
    let reti : Popping := ⟨dispatch.after, .reti⟩
    let ret : Popping := ⟨reti.after, .ret none⟩
    Pushes m [dispatch, call] dispatch.after ∧ Pops dispatch.after [reti, ret] ret.after ∧
      reti.after.cpu.registers.pc = call.after.cpu.registers.pc ∧
      ret.after.cpu.registers.pc = 0x103 ∧ ret.after.cpu.registers.sp = 0xd000 := by
  intro cells bus m call dispatch reti ret
  have hcall : call.IsNext := ⟨by decide, by decide +kernel, rfl⟩
  have hdispatch : dispatch.IsNext := ⟨by decide +kernel, by decide +kernel⟩
  have hreti : reti.IsNext := ⟨by decide +kernel, by decide +kernel⟩
  have hret : ret.IsNext := ⟨by decide +kernel, by decide +kernel, rfl⟩
  have hpush : Pushes m [dispatch, call] dispatch.after :=
    .push (.push .nil (.refl 0 m) hcall) (.refl 1 call.after) hdispatch
  have hpop : Pops dispatch.after [reti, ret] ret.after :=
    .pop (.refl 2 dispatch.after) hreti (.pop (.refl 1 reti.after) hret .nil)
  have hplain : (area m.cpu.registers.sp 2).Forall Bus.IsPlain := by decide
  have hroom : Room m.cpu.registers.sp 2 :=
    ⟨by decide, fun {addr} => List.forall_iff_forall_mem.mp hplain addr⟩
  obtain ⟨-, -, -, hsp, hback⟩ :=
    stack_discipline m _ _ [dispatch, call] [reti, ret] hroom hpush hpop rfl
  obtain ⟨-, hresumed⟩ := hback reti dispatch (by simp)
  obtain ⟨hreturned, -⟩ := hback ret call (by simp)
  exact ⟨hpush, hpop, (hresumed rfl .vblank rfl).1, (hreturned nofun).1 none 0x200 rfl, hsp⟩

end GameBoy.Machine
