import GameBoy.Proofs.Bus.Overlay
import GameBoy.Proofs.Machine.Histories

/-!
# The lifetime of the boot image

Whatever happens to a machine, its boot image is lifted by the first opcode that is fetched behind
its page, by a write of 1 to its register, or by hand, and by nothing else; and it does not come
back (`boot_image_lifetime`).
-/

namespace GameBoy

open Bus (bootEnd)

/-- A tick means for the boot image what its accesses mean, after a fetch behind the page of the
image has lifted it. -/
lemma Machine.tick_overlaid (m : Machine) :
    Bus.Overlaid m.busAtFetch (tick m).events (tick m).state.bus := by
  obtain ⟨es, es', he, hes, h⟩ := tick_respects Bus.overlaid_respected m
  have hquiet : Bus.Overlaid m.busAtFetch es m.busAtFetch :=
    .of_quiet rfl rfl (fun addr v hr => by simpa [Bus.isOwnReport] using hes _ hr)
      fun hw => by simpa [Bus.isOwnReport] using hes _ hw
  rw [he]
  exact hquiet.trans h

/-- Every operation means for the boot image what its accesses mean, after a fetch or the operation
itself has lifted it. -/
lemma Operation.perform_overlaid (op : Operation) (m : Machine) :
    ∃ mapped, (mapped = true ↔
        m.bus.bootMapped = true ∧ (∀ addr ∈ op.fetches m, addr < bootEnd) ∧ op ≠ .disableBoot) ∧
      Bus.Overlaid { m.bus with bootMapped := mapped } (op.perform m).events
        (op.perform m).state.bus := by
  cases op with
  | tick =>
    have h := m.tick_overlaid
    refine ⟨m.busAtFetch.bootMapped, ?_, ?_⟩
    · cases hf : m.fetchAddr <;> simp [Machine.busAtFetch, Bus.liftedAt, fetches, hf]
    · have hbus : { m.bus with bootMapped := m.busAtFetch.bootMapped } = m.busAtFetch := by
        cases hf : m.fetchAddr <;> simp [Machine.busAtFetch, Bus.liftedAt, hf]
      rw [hbus]
      simpa [perform] using h
  | access a => exact ⟨m.bus.bootMapped, by simp [fetches], a.perform_ensures Bus.overlaid_respected _⟩
  | store addr v =>
    exact ⟨m.bus.bootMapped, by simp [fetches],
      .of_quiet rfl rfl (fun _ _ => List.not_mem_nil) List.not_mem_nil⟩
  | disableBoot =>
    refine ⟨false, by simp, ?_⟩
    have hes := Bus.disableBoot_reports m.bus
    have hstate := Bus.disableBoot_state m.bus
    refine .of_quiet ?_ ?_ (fun addr v hr => by simpa [Bus.isOwnReport] using hes _ hr)
      fun hw => by simpa [Bus.isOwnReport] using hes _ hw
    · simp [perform, Machine.onBus, hstate]
    · simp [perform, Machine.onBus, hstate]

namespace Machine

/-- What a history means for the boot image. -/
lemma undergo_boot (ops : List Operation) (m : Machine) :
    (undergo ops m).state.bus.boot = m.bus.boot ∧
      ((undergo ops m).state.bus.bootMapped = true ↔
        m.bus.bootMapped = true ∧ (∀ addr ∈ fetches ops m, addr < bootEnd) ∧
          .disableBoot ∉ ops ∧ .write 0xff50 1 ∉ (undergo ops m).events) := by
  induction ops generalizing m with
  | nil => simp [undergo, fetches]
  | cons op ops ih =>
    obtain ⟨mapped, hm, h⟩ := op.perform_overlaid m
    obtain ⟨hb, ih⟩ := ih (op.perform m).state
    refine ⟨hb.trans h.bytes, ?_⟩
    simp only [undergo, Action.bind_apply, fetches]
    rw [ih, h.mapped, hm]
    grind

/-- A byte of the map below the boot image stays until something is written or stored over it. -/
lemma undergo_map {addr : UInt16} (ha : addr < bootEnd) (ops : List Operation) (m : Machine)
    (hw : ∀ v, .write addr v ∉ (undergo ops m).events) (hs : ∀ v, .store addr v ∉ ops) :
    (undergo ops m).state.bus.map.get addr.toNat = m.bus.map.get addr.toNat := by
  have hif : addr ≠ 0xff0f := by
    rintro rfl
    exact absurd ha (by decide)
  have hstore (b : UInt16) (v : UInt8) (h : .store b v ∈ ops) :
      (Bus.store b v).Ensures (Bus.Keeps addr) := by
    have hb : addr ≠ b := by
      rintro rfl
      exact hs v h
    exact fun bus _ => Store.get_set_word _ _ hb
  exact undergo_ensures (Bus.keeps_respected hif) (Bus.disableBoot_keeps addr) ops hstore m hw

/-- The lifetime of the boot image. It is mapped as long as no opcode is fetched behind its page, 1 is
not written to its register and it is not lifted by hand; once lifted it does not come back, and its
bytes never change. While it is mapped they are what readings of its page answer with, those of an
operation up to the write that lifts it included. A byte written below the image shows nowhere while
it is mapped, and at its address as soon as it is not. -/
theorem boot_image_lifetime (m : Machine) (ops : List Operation) :
    let done := undergo ops m
    -- how long it is mapped
    (done.state.bus.bootMapped = true ↔
      m.bus.bootMapped = true ∧ (∀ addr ∈ fetches ops m, addr < 0x100) ∧
        .disableBoot ∉ ops ∧ .write 0xff50 1 ∉ done.events) ∧
    (∀ ops', done.state.bus.bootMapped = false →
      (undergo ops' done.state).state.bus.bootMapped = false) ∧
    done.state.bus.boot = m.bus.boot ∧
    -- what readings answer with while it is mapped
    (done.state.bus.bootMapped = true →
      ∀ addr : UInt16, addr < 0x100 →
        (Bus.read addr done.state.bus).value = m.bus.boot.get addr.toNat ∧
        ∀ (op : Operation) (es es' : List Event) (v : UInt8),
          (∀ a ∈ op.fetches done.state, a < 0x100) →
          (op.perform done.state).events = es ++ .read addr v :: es' → .write 0xff50 1 ∉ es →
          v = m.bus.boot.get addr.toNat) ∧
    -- what is written below it
    (∀ (addr : UInt16) (v : UInt8), addr < 0x100 → done.state.bus.strict = false →
      let written := (writeByte addr v done.state).state
      (done.state.bus.bootMapped = true →
        ∀ b, (Bus.read b written.bus).value = (Bus.read b done.state.bus).value) ∧
      ∀ ops', (∀ w, .write addr w ∉ (undergo ops' written).events) →
        (∀ w, .store addr w ∉ ops') →
        (Bus.read addr (undergo ops' written).state.bus).value =
          if (undergo ops' written).state.bus.bootMapped then m.bus.boot.get addr.toNat else v) := by
  intro done
  obtain ⟨hbytes, hmapped⟩ := undergo_boot ops m
  refine ⟨hmapped, fun ops' h => ?_, hbytes, fun h addr ha => ⟨?_, fun op es es' v hf he hl => ?_⟩,
    fun addr v ha hs => ?_⟩
  · exact Bool.eq_false_iff.mpr fun h' =>
      Bool.false_ne_true (h.symm.trans ((undergo_boot ops' _).2.mp h').1)
  · rw [Bus.read_value, Bus.shown_boot h ha, hbytes]
  · obtain ⟨mapped, hm, hop⟩ := op.perform_overlaid done.state
    by_cases hd : op = .disableBoot
    · -- lifting the image by hand reads nothing
      have hr := Bus.disableBoot_reports done.state.bus (.read addr v)
      subst hd
      simp [Bus.isOwnReport] at hr
      exact absurd (he ▸ List.mem_append_cons_self) hr
    · rw [hop.shows (hm.mpr ⟨h, hf, hd⟩) he ha hl, ← hbytes]
  · have hstore : (writeByte addr v done.state).state.bus =
        { done.state.bus with map := done.state.bus.map.set addr.toNat v } := Bus.write_below v ha hs
    refine ⟨fun h b => ?_, fun ops' hw hst => ?_⟩
    · rw [Bus.read_value, Bus.read_value, hstore]
      exact Bus.shown_store_below b v ha h
    · rw [Bus.read_value]
      split
      · next h => rw [Bus.shown_boot h ha, (undergo_boot ops' _).1, hstore, hbytes]
      · next h =>
        rw [Bus.shown_map (Bool.eq_false_iff.mpr h) ha, undergo_map ha ops' _ hw hst, hstore]
        exact Store.get_set_self _ _ _

/-- Immediates behind the page lift nothing, the next opcode does: a load of a word that begins two
bytes before the end of the page. -/
example :
    let boot : Cells 8 := ((Store.fill 8 0).set 0xfe 0x01).set 0xff 0x34
    let bus : Bus := { Bus.new (.steady 0 1) with
      map := (Store.fill 16 0).set 0x100 0x12, boot, bootMapped := true }
    let m : Machine := { cpu := { registers := { pc := 0xfe } }, bus }
    let done n := undergo (List.replicate n .tick) m
    (done 12).state.cpu.registers.bc = 0x1234 ∧ (done 12).state.bus.bootMapped = true ∧
      fetches (List.replicate 13 .tick) m = [0xfe, 0x101] ∧
      (done 13).state.bus.bootMapped = false := by
  decide +kernel

end Machine

end GameBoy
