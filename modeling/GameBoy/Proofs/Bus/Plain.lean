import GameBoy.Proofs.Machine.Fetch

/-!
# Plain cells

Behind the cartridge, an address without a register is that of a plain cell of the map: no image
covers it, every reading answers with what is stored, and every write stores
(`read_of_isPlain`, `write_of_isPlain`).
-/

namespace GameBoy.Bus

/-- Whether an address is that of a plain cell. -/
def IsPlain (addr : UInt16) : Prop := romEnd ≤ addr ∧ IoRegister.ofAddr? addr = none

instance (addr : UInt16) : Decidable (IsPlain addr) := inferInstanceAs (Decidable (_ ∧ _))

/-- The bus after a byte is stored in the map. -/
def stored (bus : Bus) (addr : UInt16) (v : UInt8) : Bus :=
  { bus with map := bus.map.set addr.toNat v }

variable {addr : UInt16}

/-- No register has a plain address. -/
lemma IsPlain.ne_register (h : IsPlain addr) (r : IoRegister) : addr ≠ r.addr := by
  rintro rfl
  cases (IoRegister.ofAddr?_eq_some_iff.mpr rfl).symm.trans h.2

/-- A plain cell lies in the map, whatever is mapped elsewhere. -/
lemma peek_of_isPlain (bus : Bus) (h : IsPlain addr) : bus.peek addr = bus.map.get addr.toNat := by
  have hrom : ¬addr < romEnd := UInt16.not_lt.mpr h.1
  have hboot : ¬addr < bootEnd := fun hlt => hrom (UInt16.lt_trans hlt (by decide))
  have hwindow : bus.window.offset? addr = none :=
    BankWindow.offset?_eq_none fun hin => hrom hin.2
  rw [peek, decide_eq_false hboot, Bool.and_false, hwindow]
  rfl

/-- Reading a plain cell does nothing else. -/
lemma read_of_isPlain (bus : Bus) (h : IsPlain addr) :
    read addr bus = ⟨bus.peek addr, bus, [.read addr (bus.peek addr)]⟩ := by
  simp [read, h.2]

/-- Writing a plain cell does nothing else. -/
lemma write_of_isPlain (bus : Bus) (h : IsPlain addr) (v : UInt8) :
    write addr v bus = ⟨(), bus.stored addr v, [.write addr v]⟩ := by
  have hrom : ¬addr < romEnd := UInt16.not_lt.mpr h.1
  have hselects : bus.window.selects addr = false :=
    Bool.eq_false_iff.mpr fun hs => hrom ((BankWindow.selects_iff _ _).mp hs).2.2
  rw [write_eq_through v hselects fun hlt => absurd hlt hrom, through, h.2]
  rfl

/-- What is stored at a plain address is found there. -/
@[simp] lemma peek_stored_self (bus : Bus) (h : IsPlain addr) (v : UInt8) :
    (bus.stored addr v).peek addr = v := by
  rw [peek_of_isPlain _ h]
  exact Store.get_set_self _ _ _

/-- The other addresses keep their bytes. -/
lemma peek_stored_of_ne (bus : Bus) {b : UInt16} (h : IsPlain b) (v : UInt8) (hne : b ≠ addr) :
    (bus.stored addr v).peek b = bus.peek b := by
  rw [peek_of_isPlain _ h, peek_of_isPlain _ h]
  exact Store.get_set_word _ _ hne

/-- The boot image covers no plain cell. -/
@[simp] lemma peek_liftedAt (bus : Bus) (pc : UInt16) (h : IsPlain addr) :
    (bus.liftedAt pc).peek addr = bus.peek addr := by
  rw [peek_of_isPlain _ h, peek_of_isPlain _ h]
  rfl

end GameBoy.Bus
