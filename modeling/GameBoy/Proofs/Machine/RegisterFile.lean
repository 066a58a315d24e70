import GameBoy.Cpu.RegisterCells
import GameBoy.Proofs.Machine.Stack

/-!
# The register file

The register file is stored in six cells, whose twelve halves are what is read and written: eight of
them are the byte registers. A write goes to a cell, a byte register, a half, or counts HL. It
replaces the halves that it is for and no others, where the low half of AF takes the upper nibble only
(`half_write`). Nothing about the cells themselves keeps the lower nibble of the flags clear; every
write does (`Tidy.write`), and so it is clear after every history of writes (`tidy_writeAll`), each half
holds what the last write for it has put there (`half_writeAll_last`), and the laws of the register
file hold (`lawful`).

The registers that the processor works on, with the flags one by one, are such cells: every view of
the one is a view of the other, a write to the one is a write to the other (`Registers.refines`), and
they stand for exactly the cells that histories of writes reach (`reached_iff`).
-/

namespace GameBoy

/-! ## Bytes of a word -/

namespace Word

/-- The low byte of a word, cut out by a mask. -/
lemma low_mask (w : UInt16) : (w &&& 0xff).toUInt8 = low w := by
  refine UInt8.toNat_inj.mp ?_
  rw [UInt16.toNat_toUInt8, UInt16.toNat_and, toNat_low]
  exact (Nat.mod_eq_of_lt (Nat.lt_of_le_of_lt Nat.and_le_right (by decide))).trans
    (Nat.and_two_pow_sub_one_eq_mod w.toNat 8)

/-- The bits of the low byte of a word, left in place. -/
lemma and_low (w : UInt16) : w &&& 0x00ff = (low w).toUInt16 := by
  refine UInt16.toNat_inj.mp ?_
  rw [UInt8.toNat_toUInt16, UInt16.toNat_and, toNat_low]
  exact Nat.and_two_pow_sub_one_eq_mod w.toNat 8

/-- The bits of the high byte of a word, left in place. -/
lemma and_high (w : UInt16) : w &&& (0xff00 : UInt16) = (high w).toUInt16 <<< 8 := by
  have hhigh : ∀ hi : UInt8, (hi.toUInt16 <<< 8) &&& (0xff00 : UInt16) = hi.toUInt16 <<< 8 :=
    forall_byte (by decide +kernel)
  have hlow : ∀ lo : UInt8, lo.toUInt16 &&& 0xff00 = 0 := forall_byte (by decide +kernel)
  refine (congrArg (· &&& 0xff00) (join_high_low w)).symm.trans (UInt16.toNat_inj.mp ?_)
  rw [join, UInt16.toNat_and, UInt16.toNat_or, Nat.and_or_distrib_right, ← UInt16.toNat_and,
    ← UInt16.toNat_and, hhigh, hlow]
  exact Nat.or_zero _

/-- A word with its high byte replaced. -/
lemma replace_high (w : UInt16) (v : UInt8) :
    (w &&& (0x00ff : UInt16)) ||| (v.toUInt16 <<< 8) = join v (low w) := by
  rw [and_low, UInt16.or_comm, join]

/-- A word with its low byte replaced. -/
lemma replace_low (w : UInt16) (v : UInt8) : (w &&& 0xff00) ||| v.toUInt16 = join (high w) v := by
  rw [and_high, join]

/-- A word with the flags that exist. -/
lemma and_mask (w : UInt16) :
    w &&& (0xff00 ||| Flags.mask.toUInt16) = join (high w) (low w &&& Flags.mask) := by
  have hjoin := join_and (high w) (low w)
  rw [join_high_low] at hjoin
  exact hjoin.symm

end Word

/-- What a half keeps of a byte: the low half of AF has an upper nibble only. -/
def Place.keep (x : Place) (v : UInt8) : UInt8 := if x = (.af, .low) then v &&& Flags.mask else v

/-- No two word registers are the same cell. -/
lemma WordRegister.cell_inj {q q' : WordRegister} : q.cell = q'.cell ↔ q = q' := by
  cases q <;> cases q' <;> decide

/-- Every cell is a word register. -/
lemma WordRegister.exists_cell_eq (i : Fin 6) : ∃ q : WordRegister, q.cell = i :=
  match i with
  | 0 => ⟨.af, rfl⟩
  | 1 => ⟨.bc, rfl⟩
  | 2 => ⟨.de, rfl⟩
  | 3 => ⟨.hl, rfl⟩
  | 4 => ⟨.sp, rfl⟩
  | 5 => ⟨.pc, rfl⟩

/-- A write to the register file. -/
inductive RegisterWrite where
  | word (q : WordRegister) (v : UInt16)
  | byte (q : ByteRegister) (v : UInt8)
  | high (q : WordRegister) (v : UInt8)
  | low (q : WordRegister) (v : UInt8)
  | a (v : UInt8)
  | f (v : UInt8)
  | incrementHl
  | decrementHl
  deriving DecidableEq, Repr

namespace RegisterWrite

/-- The halves that a write is for. -/
def places : RegisterWrite → List Place
  | word q _ => [(q, .high), (q, .low)]
  | byte q _ => [q.place]
  | high q _ => [(q, .high)]
  | low q _ => [(q, .low)]
  | a _ => [(.af, .high)]
  | f _ => [(.af, .low)]
  | incrementHl | decrementHl => [(.hl, .high), (.hl, .low)]

/-- The byte that a write has for each of them. -/
def value (r : RegisterCells) : RegisterWrite → Half → UInt8
  | word _ v, x => Word.half v x
  | byte _ v, _ | high _ v, _ | low _ v, _ | a v, _ | f v, _ => v
  | incrementHl, x => Word.half (r.hl + 1) x
  | decrementHl, x => Word.half (r.hl - 1) x

end RegisterWrite

namespace RegisterCells

/-- What a write does to the cells. -/
def write (r : RegisterCells) : RegisterWrite → RegisterCells
  | .word q v => r.setWord q v
  | .byte q v => r.setByte q v
  | .high q v => r.setHigh q v
  | .low q v => r.setLow q v
  | .a v => r.setA v
  | .f v => r.setF v
  | .incrementHl => r.incrementHl
  | .decrementHl => r.decrementHl

/-- The cells after some writes. -/
def writeAll (r : RegisterCells) (ws : List RegisterWrite) : RegisterCells := ws.foldl write r

variable {r r' : RegisterCells} {ws ws' : List RegisterWrite} {w : RegisterWrite} {x : Place}

@[simp] lemma writeAll_nil (r : RegisterCells) : r.writeAll [] = r := rfl

@[simp] lemma writeAll_cons (r : RegisterCells) (w : RegisterWrite) (ws : List RegisterWrite) :
    r.writeAll (w :: ws) = (r.write w).writeAll ws :=
  rfl

/-- A history in two parts is written part by part. -/
lemma writeAll_append (r : RegisterCells) (ws ws' : List RegisterWrite) :
    r.writeAll (ws ++ ws') = (r.writeAll ws).writeAll ws' :=
  List.foldl_append

/-! ## Views -/

/-- Cells with the same words are the same. -/
lemma eq_of_word (h : ∀ q, r.word q = r'.word q) : r = r' := by
  have hcells : r.cells = r'.cells := by
    refine Vector.ext fun i hi => ?_
    obtain ⟨q, hq⟩ := WordRegister.exists_cell_eq ⟨i, hi⟩
    have hword := h q
    rwa [word, word, hq] at hword
  cases r
  cases r'
  exact congrArg mk hcells

/-- A cell holds what was stored there, and the others what they held. -/
lemma word_store (r : RegisterCells) (q : WordRegister) (v : UInt16) (q' : WordRegister) :
    (r.store q v).word q' = if q' = q then v else r.word q' := by
  have hset : (r.store q v).word q' = if q.cell.val = q'.cell.val then v else r.word q' :=
    Vector.getElem_set q.cell.isLt q'.cell.isLt
  simp only [hset, Fin.val_inj, WordRegister.cell_inj, eq_comm]

/-- The high half of a cell is its high byte. -/
lemma half_high (r : RegisterCells) (q : WordRegister) :
    r.half (q, .high) = Word.high (r.word q) :=
  rfl

/-- The low half of a cell is its low byte. -/
lemma half_low (r : RegisterCells) (q : WordRegister) : r.half (q, .low) = Word.low (r.word q) :=
  Word.low_mask (r.word q)

/-- A half of the register file is the byte of its cell. -/
lemma half_eq (r : RegisterCells) (x : Place) : r.half x = Word.half (r.word x.1) x.2 := by
  obtain ⟨q, y⟩ := x
  cases y with
  | high => exact half_high r q
  | low => exact half_low r q

/-- A cell is made of its halves. -/
lemma word_eq_join (r : RegisterCells) (q : WordRegister) :
    r.word q = Word.join (r.half (q, .high)) (r.half (q, .low)) := by
  rw [half_high, half_low, Word.join_high_low]

/-- Cells with the same halves are the same. -/
lemma eq_of_half (h : ∀ x, r.half x = r'.half x) : r = r' :=
  eq_of_word fun q => by rw [word_eq_join r, word_eq_join r', h, h]

/-! ## One write -/

/-- Storing a word replaces both halves of its cell. -/
lemma half_store (r : RegisterCells) (q : WordRegister) (v : UInt16) (x : Place) :
    (r.store q v).half x = if x.1 = q then Word.half v x.2 else r.half x := by
  rw [half_eq, half_eq, word_store]
  split <;> rfl

/-- A word replaces both halves of its cell. -/
lemma half_setWord (r : RegisterCells) (q : WordRegister) (v : UInt16) (x : Place) :
    (r.setWord q v).half x = if x.1 = q then x.keep (Word.half v x.2) else r.half x := by
  obtain ⟨q', y⟩ := x
  rw [setWord, half_store]
  refine ite_congr rfl (fun hq => ?_) fun _ => rfl
  dsimp only at hq
  subst hq
  by_cases haf : q' = .af
  · subst haf
    cases y <;> simp [Place.keep, Word.half, Word.and_mask]
  · simp [Place.keep, haf]

/-- A byte replaces the half that it is for, and leaves the other half of the cell alone. -/
lemma half_setHalf (r : RegisterCells) (x : Place) (v : UInt8) (y : Place) :
    (r.setHalf x v).half y = if y = x then y.keep v else r.half y := by
  obtain ⟨q, h⟩ := x
  obtain ⟨q', h'⟩ := y
  by_cases hq : q' = q
  · subst hq
    cases h <;> cases h' <;>
      simp [setHalf, setHigh, setLow, Word.replace_high, Word.replace_low, word_store, Place.keep,
        half_high, half_low]
  · cases h <;> simp [setHalf, setHigh, setLow, half_store, hq]

/-- A write replaces the halves that it is for, and no others. -/
lemma half_write (r : RegisterCells) (w : RegisterWrite) (x : Place) :
    (r.write w).half x = if x ∈ w.places then x.keep (w.value r x.2) else r.half x := by
  have hword (q : WordRegister) (v : UInt16) : (r.setWord q v).half x =
      if x ∈ [(q, .high), (q, .low)] then x.keep (Word.half v x.2) else r.half x := by
    have hmem : x ∈ [(q, Half.high), (q, Half.low)] ↔ x.1 = q := by
      obtain ⟨q', y⟩ := x
      cases y <;> simp
    rw [half_setWord]
    exact if_congr hmem.symm rfl rfl
  have hhalf (y : Place) (v : UInt8) :
      (r.setHalf y v).half x = if x ∈ [y] then x.keep v else r.half x := by
    rw [half_setHalf]
    exact if_congr List.mem_singleton.symm rfl rfl
  cases w with
  | word q v => exact hword q v
  | byte q v => exact hhalf q.place v
  | high q v => exact hhalf (q, .high) v
  | low q v => exact hhalf (q, .low) v
  | a v => exact hhalf (.af, .high) v
  | f v => exact hhalf (.af, .low) v
  | incrementHl => exact hword .hl (r.hl + 1)
  | decrementHl => exact hword .hl (r.hl - 1)

/-- A half that a write is for holds what it keeps of the byte. -/
lemma half_write_of_mem (h : x ∈ w.places) : (r.write w).half x = x.keep (w.value r x.2) := by
  rw [half_write, if_pos h]

/-- A half that a write is not for holds what it held. -/
lemma half_write_of_not_mem (h : x ∉ w.places) : (r.write w).half x = r.half x := by
  rw [half_write, if_neg h]

/-! ## The lower nibble of the flags -/

/-- The lower nibble of the flags is clear. -/
def Tidy (r : RegisterCells) : Prop := r.f &&& 0x0f = 0

/-- The cells themselves would hold a lower nibble. -/
example : ¬(new.store .af 0xffff).Tidy := by
  unfold Tidy
  decide

/-- What the flags keep of a byte has no lower nibble. -/
lemma keep_nibble (v : UInt8) : Place.keep (.af, .low) v &&& 0x0f = 0 := by
  rw [Place.keep, if_pos rfl, UInt8.and_assoc]
  exact UInt8.and_zero

/-- A new register file has no flags. -/
lemma tidy_new : new.Tidy := by
  unfold Tidy
  decide

/-- Every write leaves the lower nibble of the flags clear: one that reaches them clears it, and any
other finds it clear. -/
lemma Tidy.write (h : r.Tidy) (w : RegisterWrite) : (r.write w).Tidy := by
  have hflags : (r.write w).f = (r.write w).half (.af, .low) := rfl
  rw [Tidy, hflags, half_write]
  split
  · exact keep_nibble _
  · exact h

/-! ## Histories -/

/-- After every history of writes the lower nibble of the flags is clear. -/
lemma Tidy.writeAll (h : r.Tidy) (ws : List RegisterWrite) : (r.writeAll ws).Tidy := by
  induction ws generalizing r with
  | nil => exact h
  | cons w ws ih => exact ih (h.write w)

/-- Writes for other halves leave a half alone. -/
lemma half_writeAll_of_not_mem (h : ∀ w ∈ ws, x ∉ w.places) : (r.writeAll ws).half x = r.half x := by
  induction ws generalizing r with
  | nil => rfl
  | cons w ws ih =>
    obtain ⟨hw, hws⟩ := List.forall_mem_cons.mp h
    rw [writeAll_cons, ih hws, half_write_of_not_mem hw]

/-- The last write for a half says what it holds. -/
lemma half_writeAll_last (h : x ∈ w.places) (h' : ∀ w ∈ ws', x ∉ w.places) :
    (r.writeAll (ws ++ w :: ws')).half x = x.keep (w.value (r.writeAll ws) x.2) := by
  rw [writeAll_append, writeAll_cons, half_writeAll_of_not_mem h', half_write_of_mem h]

/-! ## Laws -/

/-- What is written to a cell is read there. -/
lemma word_setWord (r : RegisterCells) (q : WordRegister) (v : UInt16) :
    (r.setWord q v).word q = if q = .af then v &&& 0xfff0 else v := by
  rw [setWord, word_store, if_pos rfl]
  rfl

/-- A write leaves a word register alone that it is for neither half of. -/
lemma word_write_of_not_mem {q : WordRegister} (h : (q, .high) ∉ w.places)
    (h' : (q, .low) ∉ w.places) : (r.write w).word q = r.word q := by
  rw [word_eq_join, half_write_of_not_mem h, half_write_of_not_mem h', ← word_eq_join]

/-- HL, which has no flags, may be written twice. -/
lemma setWord_setWord_hl (r : RegisterCells) (v v' : UInt16) :
    (r.setWord .hl v).setWord .hl v' = r.setWord .hl v' := by
  refine eq_of_word fun q => ?_
  simp only [setWord, word_store]
  split <;> rfl

/-- Writing HL back changes nothing. -/
lemma setWord_hl (r : RegisterCells) : r.setWord .hl r.hl = r := by
  refine eq_of_word fun q => ?_
  rw [setWord, word_store]
  split
  · next h => rw [h]; rfl
  · rfl

/-- What is written to HL is read there. -/
lemma hl_setWord (r : RegisterCells) (v : UInt16) : (r.setWord .hl v).hl = v := word_setWord r .hl v

/-- A mask of one bit finds that bit. -/
lemma and_ne_zero_iff (v : UInt8) :
    (v &&& 0x80 != 0) = v.toNat.testBit 7 ∧ (v &&& 0x40 != 0) = v.toNat.testBit 6 ∧
      (v &&& 0x20 != 0) = v.toNat.testBit 5 ∧ (v &&& 0x10 != 0) = v.toNat.testBit 4 := by
  revert v
  exact Word.forall_byte (by decide +kernel)

/-- The laws of the register file: what holds of its cells, and of the next write to them. -/
structure Lawful (r : RegisterCells) : Prop where
  /-- The flags have no lower nibble. -/
  lowNibble : r.f &&& 0x0f = 0
  /-- Every byte register is the byte of its pair that its letter stands for. -/
  bytes : ∀ q, r.byte q = Word.half (r.word q.place.1) q.place.2
  halves : ∀ x : Place, r.half x = Word.half (r.word x.1) x.2
  words : ∀ q, r.word q = Word.join (r.high q) (r.low q)
  accumulator : r.a = r.byte .a
  flags : r.f = r.byte .f
  zero : r.zero = r.f.toNat.testBit 7
  subtract : r.subtract = r.f.toNat.testBit 6
  halfCarry : r.halfCarry = r.f.toNat.testBit 5
  carry : r.carry = r.f.toNat.testBit 4
  /-- What is written is read. -/
  word_written : ∀ q v, (r.setWord q v).word q = if q = .af then v &&& 0xfff0 else v
  byte_written : ∀ q v, (r.setByte q v).byte q = if q = .f then v &&& 0xf0 else v
  high_written : ∀ q v, (r.setHigh q v).high q = v
  low_written : ∀ q v, (r.setLow q v).low q = if q = .af then v &&& 0xf0 else v
  accumulator_written : ∀ v, (r.setA v).a = v
  flags_written : ∀ v, (r.setF v).f = v &&& 0xf0
  half_written : ∀ w : RegisterWrite, ∀ x ∈ w.places, (r.write w).half x = x.keep (w.value r x.2)
  /-- Nothing else changes. -/
  half_kept : ∀ w : RegisterWrite, ∀ x ∉ w.places, (r.write w).half x = r.half x
  word_kept : ∀ w : RegisterWrite, ∀ q : WordRegister, (q, .high) ∉ w.places →
    (q, .low) ∉ w.places → (r.write w).word q = r.word q
  /-- Counting HL up and counting it down undo each other, and go around modulo 2 ^ 16. -/
  increment : r.incrementHl.hl = r.hl + 1
  decrement : r.decrementHl.hl = r.hl - 1
  decrement_increment : r.incrementHl.decrementHl = r
  increment_decrement : r.decrementHl.incrementHl = r

/-- The laws rest on the lower nibble of the flags alone. -/
theorem lawful (h : r.Tidy) : Lawful r where
  lowNibble := h
  bytes q := half_eq r q.place
  halves := half_eq r
  words q := word_eq_join r q
  accumulator := rfl
  flags := rfl
  zero := (and_ne_zero_iff r.f).1
  subtract := (and_ne_zero_iff r.f).2.1
  halfCarry := (and_ne_zero_iff r.f).2.2.1
  carry := (and_ne_zero_iff r.f).2.2.2
  word_written := word_setWord r
  byte_written q v := by
    refine (half_setHalf r q.place v q.place).trans ?_
    rw [if_pos rfl]
    cases q <;> rfl
  high_written q v := by
    refine (half_setHalf r (q, .high) v (q, .high)).trans ?_
    simp [Place.keep]
  low_written q v := by
    refine (half_setHalf r (q, .low) v (q, .low)).trans ?_
    simp [Place.keep, Flags.mask]
  accumulator_written v := half_setHalf r (.af, .high) v (.af, .high)
  flags_written v := half_setHalf r (.af, .low) v (.af, .low)
  half_written _ _ := half_write_of_mem
  half_kept _ _ := half_write_of_not_mem
  word_kept _ _ := word_write_of_not_mem
  increment := hl_setWord r _
  decrement := hl_setWord r _
  decrement_increment := by
    rw [decrementHl, incrementHl, setWord_setWord_hl, hl_setWord, UInt16.add_sub_cancel, setWord_hl]
  increment_decrement := by
    rw [decrementHl, incrementHl, setWord_setWord_hl, hl_setWord, UInt16.sub_add_cancel, setWord_hl]

/-! ## The cells that are reached -/

/-- With tidy flags the mask takes nothing away. -/
lemma Tidy.low_mask (h : r.Tidy) :
    Word.low (r.word .af) &&& Flags.mask = Word.low (r.word .af) := by
  have hnibble : ∀ v : UInt8, v &&& 0x0f = 0 → v &&& Flags.mask = v :=
    Word.forall_byte (by decide +kernel)
  have hf : r.f = Word.low (r.word .af) := half_low r .af
  exact hnibble _ (hf ▸ h)

/-- Histories of writes reach the cells with no lower nibble of the flags, and no others. -/
lemma reached_iff : (∃ ws, new.writeAll ws = r) ↔ r.Tidy := by
  constructor
  · rintro ⟨ws, rfl⟩
    exact tidy_new.writeAll ws
  · intro h
    refine ⟨WordRegister.all.map fun q => .word q (r.word q), eq_of_word fun q => ?_⟩
    have haf : r.word .af &&& (0xff00 ||| Flags.mask.toUInt16) = r.word .af := by
      rw [Word.and_mask, h.low_mask, Word.join_high_low]
    cases q <;> simp [WordRegister.all, write, setWord, word_store, haf]

end RegisterCells

/-! ## The registers of the processor -/

namespace Registers

open RegisterCells

/-- A write, to the registers that the processor works on. -/
def write (r : Registers) : RegisterWrite → Registers
  | .word q v => r.setWord q v
  | .byte q v => r.setByte q v
  | .high q v => r.setHigh q v
  | .low q v => r.setLow q v
  | .a v => { r with a := v }
  | .f v => { r with flags := Flags.ofByte v }
  | .incrementHl => r.incrementHl
  | .decrementHl => r.decrementHl

/-- The registers after some writes. -/
def writeAll (r : Registers) (ws : List RegisterWrite) : Registers := ws.foldl write r

@[simp] lemma writeAll_nil (r : Registers) : r.writeAll [] = r := rfl

@[simp] lemma writeAll_cons (r : Registers) (w : RegisterWrite) (ws : List RegisterWrite) :
    r.writeAll (w :: ws) = (r.write w).writeAll ws :=
  rfl

/-- A history in two parts is written part by part. -/
lemma writeAll_append (r : Registers) (ws ws' : List RegisterWrite) :
    r.writeAll (ws ++ ws') = (r.writeAll ws).writeAll ws' :=
  List.foldl_append

/-- The word registers are the cells. -/
lemma cells_word (r : Registers) (q : WordRegister) : r.cells.word q = r.word q := by
  cases q <;> rfl

/-- The bytes of the word registers are the halves of the cells. -/
lemma cells_half (r : Registers) (x : Place) : r.cells.half x = Word.half (r.word x.1) x.2 := by
  rw [half_eq, cells_word]

/-- The byte registers are halves of the cells. -/
lemma cells_byte (r : Registers) (q : ByteRegister) : r.cells.byte q = r.byte q := by
  refine (cells_half r q.place).trans ?_
  cases q <;> simp [ByteRegister.place, Word.half, word, af, bc, de, hl, byte]

/-- The flags, packed, are the low half of AF. -/
lemma cells_f (r : Registers) : r.cells.f = r.flags.toByte := cells_byte r .f

/-- The flags one by one are the bits of their byte. -/
lemma cells_flags (r : Registers) :
    r.flags.zero = r.cells.zero ∧ r.flags.subtract = r.cells.subtract ∧
      r.flags.halfCarry = r.cells.halfCarry ∧ r.flags.carry = r.cells.carry := by
  have hflags : r.flags = Flags.ofByte r.cells.f := by rw [cells_f, Flags.ofByte_toByte]
  rw [hflags]
  exact ⟨rfl, rfl, rfl, rfl⟩

/-- Flags one by one have no lower nibble. -/
lemma cells_tidy (r : Registers) : r.cells.Tidy := by
  rw [Tidy, cells_f, ← Flags.ofByte_toByte r.flags, Flags.toByte_ofByte, UInt8.and_assoc]
  exact UInt8.and_zero

/-- A word written to AF loses the same bits in both. -/
lemma cells_setWord (r : Registers) (q : WordRegister) (v : UInt16) :
    (r.setWord q v).cells = r.cells.setWord q v := by
  have haf : Word.join (Word.high v) (Flags.ofByte (Word.low v)).toByte =
      v &&& (0xff00 ||| Flags.mask.toUInt16) := by
    rw [Word.and_mask, Flags.toByte_ofByte]
    rfl
  refine eq_of_word fun q' => ?_
  rw [cells_word, RegisterCells.setWord, word_store, cells_word]
  cases q <;> cases q' <;> simp [setWord, setHl, word, af, bc, de, hl, haf]

/-- A byte written to F loses the same bits in both. -/
lemma cells_setByte (r : Registers) (q : ByteRegister) (v : UInt8) :
    (r.setByte q v).cells = r.cells.setByte q v := by
  refine eq_of_half fun x => ?_
  rw [cells_half, RegisterCells.setByte, half_setHalf, cells_half]
  obtain ⟨q', y⟩ := x
  cases q <;> cases q' <;> cases y <;>
    simp [Word.half, Place.keep, ByteRegister.place, setByte, word, af, bc, de, hl,
      Flags.toByte_ofByte, Flags.mask]

/-- The low half is written once more, where the flags lose nothing. -/
lemma cells_setHigh (r : Registers) (q : WordRegister) (v : UInt8) :
    (r.setHigh q v).cells = r.cells.setHigh q v := by
  have hlow := r.cells_tidy.low_mask
  rw [cells_word] at hlow
  rw [setHigh, cells_setWord, RegisterCells.setWord, RegisterCells.setHigh, Word.replace_high,
    cells_word]
  split
  · next hq =>
    subst hq
    rw [Word.and_mask, Word.high_join, Word.low_join, hlow]
  · rfl

/-- A byte written to a low half loses the same bits in both. -/
lemma cells_setLow (r : Registers) (q : WordRegister) (v : UInt8) :
    (r.setLow q v).cells = r.cells.setLow q v := by
  rw [setLow, cells_setWord, RegisterCells.setWord, RegisterCells.setLow, Word.replace_low,
    cells_word]
  split
  · rw [Word.and_mask, Word.high_join, Word.low_join]
  · rfl

/-- A write to the registers is a write to the cells. -/
lemma cells_write (r : Registers) (w : RegisterWrite) : (r.write w).cells = r.cells.write w := by
  cases w with
  | word q v => exact cells_setWord r q v
  | byte q v => exact cells_setByte r q v
  | high q v => exact cells_setHigh r q v
  | low q v => exact cells_setLow r q v
  | a v => exact cells_setByte r .a v
  | f v => exact cells_setByte r .f v
  | incrementHl => exact cells_setWord r .hl (r.hl + 1)
  | decrementHl => exact cells_setWord r .hl (r.hl - 1)

/-- What it means that cells hold some registers: all views of them are the same, and so are all
writes. -/
structure Refines (r : Registers) (c : RegisterCells) : Prop where
  words : ∀ q, r.word q = c.word q
  bytes : ∀ q, r.byte q = c.byte q
  accumulator : r.a = c.a
  flags : r.flags.toByte = c.f
  zero : r.flags.zero = c.zero
  subtract : r.flags.subtract = c.subtract
  halfCarry : r.flags.halfCarry = c.halfCarry
  carry : r.flags.carry = c.carry
  writes : ∀ w, (r.write w).cells = c.write w

/-- The registers of the processor are stored in their cells. -/
theorem refines (r : Registers) : Refines r r.cells where
  words q := (cells_word r q).symm
  bytes q := (cells_byte r q).symm
  accumulator := (cells_byte r .a).symm
  flags := (cells_f r).symm
  zero := (cells_flags r).1
  subtract := (cells_flags r).2.1
  halfCarry := (cells_flags r).2.2.1
  carry := (cells_flags r).2.2.2
  writes := cells_write r

/-- Histories of writes go the same way in both. -/
lemma cells_writeAll (r : Registers) (ws : List RegisterWrite) :
    (r.writeAll ws).cells = r.cells.writeAll ws := by
  induction ws generalizing r with
  | nil => rfl
  | cons w ws ih => rw [writeAll_cons, ih, cells_write, RegisterCells.writeAll_cons]

/-- The registers that cells hold. -/
def ofCells (c : RegisterCells) : Registers where
  a := c.byte .a
  flags := Flags.ofByte c.f
  b := c.byte .b
  c := c.byte .c
  d := c.byte .d
  e := c.byte .e
  h := c.byte .h
  l := c.byte .l
  sp := c.word .sp
  pc := c.word .pc

/-- The cells hold all registers. -/
lemma ofCells_cells (r : Registers) : ofCells r.cells = r := by
  simp only [ofCells, cells_byte, cells_word, cells_f, Flags.ofByte_toByte]
  rfl

/-- Registers with the same cells are the same. -/
lemma cells_injective : Function.Injective cells :=
  Function.LeftInverse.injective ofCells_cells

/-- Cells that writes reach hold the registers of one processor, and others those of none. -/
lemma existsUnique_cells_eq_iff {c : RegisterCells} :
    (∃! r : Registers, r.cells = c) ↔ ∃ ws, RegisterCells.new.writeAll ws = c := by
  constructor
  · rintro ⟨r, rfl, -⟩
    exact reached_iff.mpr r.cells_tidy
  · rintro ⟨ws, rfl⟩
    have hcells : (({} : Registers).writeAll ws).cells = RegisterCells.new.writeAll ws :=
      cells_writeAll {} ws
    exact ⟨_, hcells, fun _ h => cells_injective (h.trans hcells.symm)⟩

end Registers

end GameBoy
