import GameBoy.Proofs.Bus.ReadOverWrite

/-!
# The boot image over the map

What a stretch of accesses means for the boot image: its bytes stay, it is lifted by nothing but the
write of 1 to its register, and until then the readings below 0x100 show its bytes (`Overlaid`). The
map below it takes the bytes that are written, which nothing else changes (`Keeps`).
-/

namespace GameBoy.Bus

/-- While the boot image is mapped its bytes are what readings of its page answer with. -/
lemma shown_boot {bus : Bus} {addr : UInt16} (h : bus.bootMapped = true) (ha : addr < bootEnd) :
    bus.shown addr = bus.boot.get addr.toNat := by
  have hreg : IoRegister.ofAddr? addr = none := by grind [IoRegister.ofAddr?, bootEnd]
  simp [shown, hreg, peek, h, ha]

/-- Once it is lifted they answer with the map. -/
lemma shown_map {bus : Bus} {addr : UInt16} (h : bus.bootMapped = false) (ha : addr < bootEnd) :
    bus.shown addr = bus.map.get addr.toNat := by
  have hreg : IoRegister.ofAddr? addr = none := by grind [IoRegister.ofAddr?, bootEnd]
  have hwin : bus.window.offset? addr = none :=
    BankWindow.offset?_eq_none fun h' => by grind [bootEnd]
  simp [shown, hreg, peek, h, hwin]

/-- A write leaves the bytes of the boot image alone and lifts it if it is one of 1 to its
register. -/
lemma write_boot (bus : Bus) (addr : UInt16) (v : UInt8) :
    (write addr v bus).state.boot = bus.boot ∧
      ((write addr v bus).state.bootMapped = true ↔
        bus.bootMapped = true ∧ ¬(addr = 0xff50 ∧ v = 1)) := by
  have hsel (h : bus.window.selects addr = true) : addr ≠ 0xff50 := by
    rintro rfl
    exact absurd (BankWindow.selects_iff _ _ |>.mp h).2.2 (by decide)
  obtain h | ⟨h, hr, hs⟩ | ⟨h, hs⟩ := write_cases bus addr
  · rw [write_select v h]
    simp [hsel h]
  · rw [write_refuse v h hr hs]
    have hne : addr ≠ 0xff50 := fun e => absurd (e ▸ hr) (by decide)
    simp [hne]
  · cases e : IoRegister.ofAddr? addr with
    | none =>
      rw [write_memory v h hs e]
      have hne : addr ≠ 0xff50 := by
        rintro rfl
        exact absurd e (by decide)
      simp [hne]
    | some r =>
      rw [← IoRegister.ofAddr?_eq_some_iff.mp e, write_register]
      cases r <;> simp [afterIo, IoRegister.addr, and_comm]

/-- A write below the boot image that is not refused is a store in the map. -/
lemma write_below {bus : Bus} {addr : UInt16} (v : UInt8) (ha : addr < bootEnd)
    (hs : bus.strict = false) :
    (write addr v bus).state = { bus with map := bus.map.set addr.toNat v } := by
  refine write_memory v ?_ (fun _ => hs) (by grind [IoRegister.ofAddr?, bootEnd])
  grind [BankWindow.selects, bootEnd]

/-- While the boot image is mapped, what is stored below it does not show at all. -/
lemma shown_store_below {bus : Bus} {addr : UInt16} (b : UInt16) (v : UInt8) (ha : addr < bootEnd)
    (h : bus.bootMapped = true) :
    { bus with map := bus.map.set addr.toNat v : Bus }.shown b = bus.shown b := by
  by_cases hb : b = addr
  · subst hb
    have h' : { bus with map := bus.map.set b.toNat v : Bus }.bootMapped = true := h
    exact (shown_boot h' ha).trans (shown_boot h ha).symm
  · exact shown_congr (Store.get_set_word _ _ hb) (fun _ => rfl) rfl (fun _ => ⟨rfl, rfl⟩) rfl
      fun _ => rfl

/-- A write changes the map at its address only. -/
lemma write_map (bus : Bus) {addr b : UInt16} (v : UInt8) (h : b ≠ addr) :
    (write addr v bus).state.map.get b.toNat = bus.map.get b.toNat := by
  obtain ⟨_, _, _, _, _, _, e, -, hmap⟩ := write_reaches bus addr v
  rw [e]
  exact hmap b h

/-- A reading changes the map at most in the register of the requested interrupts. -/
lemma read_map (bus : Bus) (addr : UInt16) {b : UInt16} (h : b ≠ 0xff0f) :
    (read addr bus).state.map.get b.toNat = bus.map.get b.toNat := by
  obtain ⟨_, _, e, hmap⟩ := read_reaches bus addr
  rw [e]
  exact hmap b h

/-- A reading leaves the boot image and its mapping alone. -/
lemma read_boot (bus : Bus) (addr : UInt16) :
    (read addr bus).state.boot = bus.boot ∧
      (read addr bus).state.bootMapped = bus.bootMapped := by
  obtain ⟨_, _, e, -⟩ := read_reaches bus addr
  rw [e]
  exact ⟨rfl, rfl⟩

/-! ## Stretches of accesses -/

/-- What a stretch of accesses means for the boot image. -/
structure Overlaid (bus : Bus) (es : List Event) (bus' : Bus) : Prop where
  bytes : bus'.boot = bus.boot
  mapped : bus'.bootMapped = true ↔ bus.bootMapped = true ∧ .write 0xff50 1 ∉ es
  shows (h : bus.bootMapped = true) {es₁ es₂ : List Event} {addr : UInt16} {v : UInt8}
    (he : es = es₁ ++ .read addr v :: es₂) (ha : addr < bootEnd) (hl : .write 0xff50 1 ∉ es₁) :
    v = bus.boot.get addr.toNat

/-- A stretch without accesses that leaves the boot image where it is. -/
lemma Overlaid.of_quiet {bus bus' : Bus} {es : List Event} (hb : bus'.boot = bus.boot)
    (hm : bus'.bootMapped = bus.bootMapped) (hr : ∀ addr v, .read addr v ∉ es)
    (hw : .write 0xff50 1 ∉ es) : Overlaid bus es bus' where
  bytes := hb
  mapped := by simp [hm, hw]
  shows _ _ _ addr v he _ _ := absurd (he ▸ List.mem_append_cons_self) (hr addr v)

/-- One stretch of accesses after the other. -/
lemma Overlaid.trans {bus bus' bus'' : Bus} {es es' : List Event} (h : Overlaid bus es bus')
    (h' : Overlaid bus' es' bus'') : Overlaid bus (es ++ es') bus'' where
  bytes := h'.bytes.trans h.bytes
  mapped := by
    rw [h'.mapped, h.mapped, List.mem_append, not_or, and_assoc]
  shows hm es₁ es₂ addr v he ha hl := by
    obtain ⟨c, rfl, hc⟩ | ⟨c, rfl, hc⟩ := List.append_eq_append_iff.mp he
    · -- the reading lies in the second part, which finds the image mapped
      obtain ⟨hl, hl'⟩ := not_or.mp (mt List.mem_append.mpr hl)
      rw [h'.shows (h.mapped.mpr ⟨hm, hl⟩) hc ha hl', h.bytes]
    · cases c with
      | nil =>
        have hl : .write 0xff50 1 ∉ es₁ ++ [] := by rwa [List.append_nil]
        have hc : es' = [] ++ .read addr v :: es₂ := hc.symm
        rw [h'.shows (h.mapped.mpr ⟨hm, hl⟩) hc ha nofun, h.bytes]
      | cons e c =>
        obtain ⟨rfl, -⟩ := List.cons.inj hc
        exact h.shows hm rfl ha hl

/-- Whatever happens on a bus says how long the boot image is mapped. -/
lemma overlaid_respected : Respected Overlaid where
  refl _ := .of_quiet rfl rfl (fun _ _ => nofun) nofun
  trans h h' := h.trans h'
  note _ _ := .of_quiet rfl rfl (fun _ _ => by simp) (by simp)
  flag _ _ := .of_quiet rfl rfl (fun _ _ => nofun) nofun
  keys _ _ := .of_quiet rfl rfl (fun _ _ => nofun) nofun
  read addr bus := by
    have hes := (read_events bus addr).2
    have hw : .write 0xff50 1 ∉ (read addr bus).events := fun h => by simpa [isOwnReport] using hes _ h
    obtain ⟨hb, hm⟩ := read_boot bus addr
    refine ⟨hb, by simp [hm, hw], fun h es₁ es₂ a v he ha _ => ?_⟩
    have hr := hes _ (he ▸ List.mem_append_cons_self)
    simp only [isOwnReport, Bool.false_eq_true, Event.read.injEq, false_or] at hr
    obtain ⟨rfl, rfl⟩ := hr
    exact shown_boot h ha
  write addr v bus := by
    obtain ⟨hmem, hes⟩ := write_events bus addr v
    obtain ⟨hb, hm⟩ := write_boot bus addr v
    have hw : .write 0xff50 1 ∈ (write addr v bus).events ↔ addr = 0xff50 ∧ v = 1 := by
      refine ⟨fun h => ?_, ?_⟩
      · simpa [isOwnReport, eq_comm] using hes _ h
      · rintro ⟨rfl, rfl⟩
        exact hmem
    refine ⟨hb, by rw [hm, hw], fun h es₁ es₂ a w he ha _ => ?_⟩
    have hr := hes _ (he ▸ List.mem_append_cons_self)
    simp [isOwnReport] at hr

/-- A stretch of accesses that leaves the byte of the map at an address, or writes there. -/
def Keeps (addr : UInt16) (bus : Bus) (es : List Event) (bus' : Bus) : Prop :=
  (∀ v, .write addr v ∉ es) → bus'.map.get addr.toNat = bus.map.get addr.toNat

/-- Whatever happens keeps a cell of the map if it does not write there. -/
lemma keeps_respected {addr : UInt16} (h : addr ≠ 0xff0f) : Respected (Keeps addr) where
  refl _ _ := rfl
  trans h h' hw :=
    (h' fun v hv => hw v (List.mem_append_right _ hv)).trans
      (h fun v hv => hw v (List.mem_append_left _ hv))
  note _ _ _ := rfl
  flag _ _ _ := Store.get_set_word _ _ h
  keys _ _ _ := rfl
  read a bus _ := read_map bus a h
  write a v bus hw := write_map bus v fun e => hw v (e ▸ (write_events bus a v).1)

/-- Lifting the boot image keeps the map. -/
lemma disableBoot_keeps (addr : UInt16) : disableBoot.Ensures (Keeps addr) := by
  intro bus _
  rw [disableBoot_state]

end GameBoy.Bus
