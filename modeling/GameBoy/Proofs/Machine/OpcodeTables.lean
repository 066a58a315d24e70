import GameBoy.Cpu.Handler
import Mathlib.Tactic.IntervalCases
import Mathlib.Tactic.Lemma

/-!
# What the opcode tables hold

A slot that a loop over slots passes holds the entry of its last assignment, and every other slot
what it held before (`slot_sweep`). So the table of the opcodes can be read slot by slot: a removed
opcode comes before the assignments, which come before the families (`slot_table`). No slot is left
with the handler that knows no instruction (`slot_ne_unknown`), and every handler makes of the fields
that it reads what the blocks of the opcodes say (`decode_eq`).
-/

namespace GameBoy

namespace ByteTable

variable {α : Type} {n : Nat}

/-- Every slot of a filled table holds the same. -/
lemma slot_fill (a : α) (b : UInt8) : slot (Store.fill 8 a) b = a := Store.get_fill 8 a _

/-- Assigning a slot changes that slot. -/
lemma slot_set (t : ByteTable α) (hn : n < 256) (a : α) (b : UInt8) :
    slot (t.set n a) b = if b.toNat = n then a else slot t b := by
  split
  · next h => rw [slot, h, Store.get_set_self]
  · next h => exact Store.get_set_of_ne t a hn b.toNat_lt h

/-- A loop over slots fills those that it passes and has an entry for. -/
lemma slot_sweep {slots : List Nat} (hslots : ∀ n ∈ slots, n < 256) (t : ByteTable α)
    (f : Nat → Option α) (b : UInt8) :
    slot (sweep t slots f) b = if b.toNat ∈ slots then (f b.toNat).getD (slot t b) else slot t b := by
  induction slots generalizing t with
  | nil => rfl
  | cons n slots ih =>
    obtain ⟨hn, hslots⟩ := List.forall_mem_cons.mp hslots
    rw [sweep, List.foldl_cons, ← sweep, ih hslots]
    cases hf : f n with
    | none => by_cases h : b.toNat = n <;> simp_all
    | some a =>
      rw [slot_set t hn]
      by_cases h : b.toNat = n <;> simp_all

/-- An assignment changes the slots that it lists. -/
lemma slot_assign {slots : List Nat} (hslots : ∀ n ∈ slots, n < 256) (t : ByteTable α) (a : α)
    (b : UInt8) : slot (assign t slots a) b = if b.toNat ∈ slots then a else slot t b :=
  slot_sweep hslots t _ b

/-- Of several assignments the last one to a slot stays. -/
lemma slot_assignments {entries : List (List Nat × α)}
    (hslots : ∀ entry ∈ entries, ∀ n ∈ entry.1, n < 256) (t : ByteTable α) (b : UInt8) :
    slot (entries.foldl (fun t entry => assign t entry.1 entry.2) t) b =
      entries.foldl (fun a entry => if b.toNat ∈ entry.1 then entry.2 else a) (slot t b) := by
  induction entries generalizing t with
  | nil => rfl
  | cons entry entries ih =>
    obtain ⟨hentry, hslots⟩ := List.forall_mem_cons.mp hslots
    rw [List.foldl_cons, List.foldl_cons, ih hslots, slot_assign hentry]

end ByteTable

open ByteTable

namespace ExtendedHandler

/-- The table behind the prefix, slot by slot: shifts in the first quarter, bit instructions behind
it. -/
lemma slot_table (byte : UInt8) :
    slot table byte = if byte.toNat < 0x40 then shift else family byte.toNat := by
  have hslots : ∀ n ∈ List.range' 0x40 0xc0, n < 256 := fun n h => (List.mem_range'_1.mp h).2
  have hbyte : byte.toNat ∈ List.range' 0x40 0xc0 ↔ ¬byte.toNat < 0x40 :=
    List.mem_range'_1.trans ((and_iff_left byte.toNat_lt).trans Nat.not_lt.symm)
  rw [table, slot_sweep hslots, slot_fill]
  simp only [hbyte, ite_not, Option.getD_some]

/-- The handlers behind the prefix name the instruction of every byte. -/
lemma instruction_slot (byte : UInt8) :
    (slot table byte).instruction byte = Encoding.extended byte := by
  rw [slot_table]
  revert byte
  refine Word.forall_byte fun n hn => ?_
  interval_cases n <;> rfl

end ExtendedHandler

namespace Handler

/-- The handler of an opcode. -/
def entry (n : Nat) : Handler :=
  if n ∈ removedSlots then removed
  else assignments.foldl (fun h entry => if n ∈ entry.1 then entry.2 else h)
    ((family n).getD unknown)

/-- The table of opcodes, slot by slot. -/
lemma slot_table (opcode : UInt8) : slot table opcode = entry opcode.toNat := by
  rw [table, slot_assign (by decide), slot_assignments (by decide), slot_sweep (fun _ => List.mem_range.mp),
    slot_fill, if_pos (List.mem_range.mpr opcode.toNat_lt)]
  rfl

/-- Every slot is assigned a handler that knows what to do. -/
lemma slot_ne_unknown (opcode : UInt8) : slot table opcode ≠ unknown := by
  have hall : ∀ n < 256, entry n ≠ unknown := by decide +kernel
  rw [slot_table]
  exact hall _ opcode.toNat_lt

/-- No other handler leaves an opcode unknown. -/
lemma decode_ne_unknown (opcode : UInt8) : decode opcode ≠ .unknown := by
  unfold decode
  cases h : slot table opcode with
  | unknown => exact absurd h (slot_ne_unknown opcode)
  | _ => nofun

set_option maxRecDepth 2000 in
/-- The fields that the handlers of single instructions read, row by row. -/
lemma encoding_entry {n : Nat} (hn : n < 256) (hext : n ≠ 0xcb) :
    (entry n).encoding (UInt8.ofNat n) = Encoding.ofOpcode (UInt8.ofNat n) := by
  interval_cases n <;> first | exact absurd rfl hext | rfl

/-- The extension opcode goes on to the second table. -/
lemma encoding_extension : encoding extension 0xcb = Encoding.ofOpcode 0xcb :=
  congrArg Encoding.withByte (funext ExtendedHandler.instruction_slot)

/-- The handlers in the tables decode an opcode as its blocks do. -/
theorem decode_eq (opcode : UInt8) : decode opcode = Encoding.ofOpcode opcode := by
  unfold decode
  rw [slot_table]
  -- the extension opcode stands for a function, which is compared byte by byte
  by_cases hext : opcode = 0xcb
  · have hentry : entry (0xcb : UInt8).toNat = extension := by decide +kernel
    rw [hext, hentry, encoding_extension]
  · have hne : opcode.toNat ≠ 0xcb := fun h => hext (UInt8.toNat_inj.mp h)
    have hrow := encoding_entry opcode.toNat_lt hne
    rwa [UInt8.ofNat_toNat] at hrow

end Handler

end GameBoy
