import GameBoy.Proofs.Bus.ReadOverWrite

/-!
# Patching and restoring

Without a boot image before it, the byte behind an address is kept in a cell of the map, or in a cell
of the cartridge image that the window leads to; a boot image that covers it keeps it otherwise
(`Backing`). No two addresses share what backs them (`backing_inj`). So a patch changes what backs a
range of addresses and nothing else (`kept_go_inside`, `kept_go_outside`), and saves what was there
(`go_saved`); patching the saved bytes in again undoes it (`patch_undone`). If the window has moved in
between, what is saved through one place of it goes back through another (`byte_patch_saved`).
-/

namespace GameBoy

/-- Where the byte behind an address is kept. -/
inductive Cell where
  | map (addr : UInt16)
  | image (offset : Nat)
  deriving DecidableEq, Repr

namespace BankWindow

/-- Where a window leads an address. -/
def cell (w : BankWindow) (addr : UInt16) : Cell :=
  match w.offset? addr with
  | some offset => .image offset
  | none => .map addr

/-- Past the window an address leads to the map. -/
lemma cell_of_none {w : BankWindow} {addr : UInt16} (h : w.offset? addr = none) :
    w.cell addr = .map addr := by
  rw [cell, h]

/-- Inside the window an address leads to the image. -/
lemma cell_of_some {w : BankWindow} {addr : UInt16} {offset : Nat}
    (h : w.offset? addr = some offset) : w.cell addr = .image offset := by
  rw [cell, h]

/-- The window never stands at bank 0. -/
lemma place_pos (w : BankWindow) : 0 < w.place := by
  unfold place
  split
  · exact Nat.one_pos
  · next h => exact Nat.pos_of_ne_zero fun e => h (UInt8.toNat_inj.mp e)

/-- No two addresses share a cell. -/
lemma cell_inj {w : BankWindow} {a b : UInt16} (h : w.cell a = w.cell b) : a = b := by
  cases ha : w.offset? a with
  | none =>
    rw [cell_of_none ha] at h
    cases hb : w.offset? b with
    | none => rw [cell_of_none hb] at h; exact Cell.map.inj h
    | some o => rw [cell_of_some hb] at h; cases h
  | some o =>
    rw [cell_of_some ha] at h
    cases hb : w.offset? b with
    | none => rw [cell_of_none hb] at h; cases h
    | some o' =>
      rw [cell_of_some hb] at h
      cases Cell.image.inj h
      have hplace := w.place_pos
      apply UInt16.toNat_inj.mp
      grind [offset?, UInt16.le_iff_toNat_le]

/-- A window leads an address to no cell of the map but its own. -/
lemma map_ne_cell {w : BankWindow} {a : UInt16} {n : Nat} (hn : n < 0x10000)
    (h : n ≠ a.toNat) : .map a ≠ w.cell (UInt16.ofNat n) := by
  intro e
  cases ho : w.offset? (UInt16.ofNat n) with
  | some o =>
    rw [cell_of_some ho] at e
    cases e
  | none =>
    rw [cell_of_none ho] at e
    cases e
    exact h (UInt16.toNat_ofNat_of_lt' hn).symm

/-- Where the window stands matters to the addresses inside it only. -/
lemma cell_congr {w w' : BankWindow} {addr : UInt16} (hm : w'.mode = w.mode)
    (h : w'.place = w.place ∨ w.offset? addr = none) : w'.cell addr = w.cell addr := by
  have hoff : w'.offset? addr = w.offset? addr := by
    obtain h | h := h
    · rw [offset?, offset?, hm, h]
    · rw [h]
      unfold offset? at h ⊢
      rw [hm]
      grind
  rw [cell, cell, hoff]

end BankWindow

/-- What backs an address: a byte of the boot image that covers it, or a cell. -/
inductive Backing where
  | boot (offset : UInt8)
  | cell (c : Cell)
  deriving DecidableEq, Repr

namespace Bus

/-- The byte in a cell. The cartridge image goes on behind its end with 0xff. -/
def byte (bus : Bus) : Cell → UInt8
  | .map addr => bus.map.get addr.toNat
  | .image offset => bus.cartridge[offset]?.getD 0xff

/-- Where a bus leads an address: to the boot image where it covers the address, and past the window
otherwise. -/
def backing (bus : Bus) (addr : UInt16) : Backing :=
  if bus.bootMapped && addr < bootEnd then .boot addr.toUInt8 else .cell (bus.window.cell addr)

/-- The byte in what backs an address. -/
def kept (bus : Bus) : Backing → UInt8
  | .boot offset => bus.boot.get offset.toNat
  | .cell c => bus.byte c

/-- A mapped boot image backs the addresses of its page. -/
lemma backing_of_covered {bus : Bus} {addr : UInt16}
    (h : (bus.bootMapped && decide (addr < bootEnd)) = true) :
    bus.backing addr = .boot addr.toUInt8 :=
  if_pos h

/-- An address that the boot image does not cover is backed by its cell. -/
lemma backing_of_not_covered {bus : Bus} {addr : UInt16}
    (h : ¬(bus.bootMapped && decide (addr < bootEnd)) = true) :
    bus.backing addr = .cell (bus.window.cell addr) :=
  if_neg h

/-- Without a boot image every address is backed by its cell. -/
lemma backing_of_lifted {bus : Bus} (h : bus.bootMapped = false) (addr : UInt16) :
    bus.backing addr = .cell (bus.window.cell addr) :=
  backing_of_not_covered (by simp [h])

/-- Below the end of the boot image an address is told by its lower byte. -/
lemma toNat_toUInt8_of_covered {bus : Bus} {addr : UInt16}
    (h : (bus.bootMapped && decide (addr < bootEnd)) = true) : addr.toUInt8.toNat = addr.toNat := by
  obtain ⟨-, h⟩ := Bool.and_eq_true_iff.mp h
  have hlt : addr.toNat < 0x100 := UInt16.lt_iff_toNat_lt.mp (of_decide_eq_true h)
  rw [UInt16.toNat_toUInt8, Nat.mod_eq_of_lt hlt]

/-- No two addresses share what backs them. -/
lemma backing_inj {bus : Bus} {a b : UInt16} (h : bus.backing a = bus.backing b) : a = b := by
  by_cases ha : (bus.bootMapped && decide (a < bootEnd)) = true
  · rw [backing_of_covered ha] at h
    by_cases hb : (bus.bootMapped && decide (b < bootEnd)) = true
    · rw [backing_of_covered hb] at h
      have h := congrArg UInt8.toNat (Backing.boot.inj h)
      rw [toNat_toUInt8_of_covered ha, toNat_toUInt8_of_covered hb] at h
      exact UInt16.toNat_inj.mp h
    · rw [backing_of_not_covered hb] at h
      cases h
  · rw [backing_of_not_covered ha] at h
    by_cases hb : (bus.bootMapped && decide (b < bootEnd)) = true
    · rw [backing_of_covered hb] at h
      cases h
    · rw [backing_of_not_covered hb] at h
      exact BankWindow.cell_inj (Backing.cell.inj h)

/-- The byte behind an address is the one in what backs it. -/
lemma peek_eq_kept (bus : Bus) (addr : UInt16) : bus.peek addr = bus.kept (bus.backing addr) := by
  by_cases h : (bus.bootMapped && decide (addr < bootEnd)) = true
  · rw [backing_of_covered h, kept, toNat_toUInt8_of_covered h, peek, if_pos h]
  · rw [backing_of_not_covered h, kept, peek, if_neg h]
    cases e : bus.window.offset? addr with
    | none => rw [BankWindow.cell_of_none e, byte]
    | some o => rw [BankWindow.cell_of_some e, byte]

/-- Without a boot image the byte at an address is the one in its cell. -/
lemma peek_eq_byte {bus : Bus} (h : bus.bootMapped = false) (addr : UInt16) :
    bus.peek addr = bus.byte (bus.window.cell addr) := by
  rw [peek_eq_kept, backing_of_lifted h, kept]

/-- Setting a byte of an image changes that byte only. -/
lemma setImage_getD (image : Image) (offset o : Nat) (v : UInt8) :
    (setImage image offset v)[o]?.getD 0xff = if o = offset then v else image[o]?.getD 0xff := by
  grind [setImage]

/-- Poking changes what backs the address and nothing else. -/
lemma kept_poke (bus : Bus) (addr : UInt16) (v : UInt8) (b : Backing) :
    (bus.poke addr v).kept b = if b = bus.backing addr then v else bus.kept b := by
  by_cases h : (bus.bootMapped && decide (addr < bootEnd)) = true
  · rw [backing_of_covered h, poke, if_pos h]
    cases b with
    | boot offset =>
      rw [kept, ← toNat_toUInt8_of_covered h]
      by_cases ho : offset = addr.toUInt8
      · rw [ho, if_pos rfl, Store.get_set_self]
      · rw [if_neg (mt Backing.boot.inj ho), kept]
        exact Store.get_set_of_ne _ _ addr.toUInt8.toNat_lt offset.toNat_lt
          (mt UInt8.toNat_inj.mp ho)
    | cell c => cases c <;> simp [kept, byte]
  · rw [backing_of_not_covered h, poke, if_neg h]
    cases e : bus.window.offset? addr with
    | none =>
      rw [BankWindow.cell_of_none e]
      cases b with
      | boot offset => simp [kept]
      | cell c =>
        cases c with
        | map b =>
          by_cases hb : b = addr
          · simp [kept, byte, hb, Store.get_set_self]
          · simp [kept, byte, hb, Store.get_set_word]
        | image o => simp [kept, byte]
    | some offset =>
      rw [BankWindow.cell_of_some e]
      cases b with
      | boot o => simp [kept]
      | cell c =>
        cases c with
        | map b => simp [kept, byte]
        | image o => simp [kept, byte, setImage_getD]

/-- Poking reaches the memories and nothing else, and the boot image only if it is mapped. It shortens
no cartridge. -/
lemma poke_reaches (bus : Bus) (addr : UInt16) (v : UInt8) :
    ∃ map boot cartridge, bus.poke addr v = { bus with map, boot, cartridge } ∧
      (bus.bootMapped = false → boot = bus.boot) ∧ bus.cartridge.size ≤ cartridge.size := by
  unfold poke
  split
  · next h => exact ⟨_, _, _, rfl, fun hb => by simp [hb] at h, Nat.le_refl _⟩
  · split
    · exact ⟨_, _, _, rfl, fun _ => rfl, by simp [setImage]⟩
    · exact ⟨_, _, _, rfl, fun _ => rfl, Nat.le_refl _⟩

/-- A byte put at an address moves no window and lifts no boot image. -/
lemma poke_frame (bus : Bus) (addr : UInt16) (v : UInt8) :
    (bus.poke addr v).window = bus.window ∧ (bus.poke addr v).bootMapped = bus.bootMapped := by
  obtain ⟨_, _, _, e, -⟩ := bus.poke_reaches addr v
  rw [e]
  exact ⟨rfl, rfl⟩

/-- Where a bus leads an address depends on the window and the boot mapping alone. -/
lemma backing_congr {bus bus' : Bus} (h : bus'.window = bus.window ∧ bus'.bootMapped = bus.bootMapped)
    (addr : UInt16) : bus'.backing addr = bus.backing addr := by
  rw [backing, backing, h.1, h.2]

/-- An image that shows the same bytes, shortened or not, is the same up to 0xff at its end. -/
lemma image_eq_append {image image' : Image} (hs : image.size ≤ image'.size)
    (h : ∀ o : Nat, image'[o]?.getD 0xff = image[o]?.getD 0xff) :
    image' = image ++ Array.replicate (image'.size - image.size) 0xff := by
  refine Array.ext (by simp [hs]) fun o ho ho' => ?_
  have h := h o
  grind

/-- An image grows by bytes that are all 0xff. -/
lemma getD_append_replicate (image : Image) (n : Nat) {o : Nat} (h : image.size ≤ o) :
    (image ++ Array.replicate n 0xff)[o]?.getD 0xff = 0xff := by
  grind

/-- Bytes 0xff at the end of the image do not show. -/
lemma shown_grown (bus : Bus) (n : Nat) (addr : UInt16) :
    ({ bus with cartridge := bus.cartridge ++ Array.replicate n 0xff } : Bus).shown addr =
      bus.shown addr := by
  have hcartridge (o : Nat) : (bus.cartridge ++ Array.replicate n 0xff)[o]?.getD 0xff =
      bus.cartridge[o]?.getD 0xff := by grind
  exact shown_congr rfl (fun _ => rfl) rfl (fun _ => ⟨rfl, rfl⟩) rfl hcartridge

/-! ## Patches -/

namespace patch

variable {bus : Bus} {bytes : List UInt8} {a : Nat}

/-- A patch reaches what poking reaches. -/
lemma go_reaches (bus : Bus) (a : Nat) (bytes : List UInt8) :
    ∃ map boot cartridge, (go bus a bytes).2 = { bus with map, boot, cartridge } ∧
      (bus.bootMapped = false → boot = bus.boot) ∧ bus.cartridge.size ≤ cartridge.size := by
  induction bytes generalizing bus a with
  | nil => exact ⟨_, _, _, rfl, fun _ => rfl, Nat.le_refl _⟩
  | cons b bytes ih =>
    unfold go
    split
    · obtain ⟨_, _, _, e, hb, hs⟩ := bus.poke_reaches (UInt16.ofNat a) b
      obtain ⟨map, boot, cartridge, e', hb', hs'⟩ := ih (bus.poke (UInt16.ofNat a) b) (a + 1)
      rw [e] at e' hb' hs'
      exact ⟨map, boot, cartridge, (congrArg (fun bus => (go bus (a + 1) bytes).2) e).trans e',
        fun h => (hb' h).trans (hb h), Nat.le_trans hs hs'⟩
    · exact ⟨_, _, _, rfl, fun _ => rfl, Nat.le_refl _⟩

/-- A patch moves no window, lifts no boot image and never shrinks the cartridge. -/
lemma go_frame (bus : Bus) (a : Nat) (bytes : List UInt8) :
    (go bus a bytes).2.window = bus.window ∧ (go bus a bytes).2.bootMapped = bus.bootMapped ∧
      bus.cartridge.size ≤ (go bus a bytes).2.cartridge.size := by
  obtain ⟨_, _, _, e, -, hs⟩ := go_reaches bus a bytes
  rw [e]
  exact ⟨rfl, rfl, hs⟩

/-- A patch leaves every address backed by what backed it. -/
lemma backing_go (bus : Bus) (a : Nat) (bytes : List UInt8) (addr : UInt16) :
    (go bus a bytes).2.backing addr = bus.backing addr :=
  have h := go_frame bus a bytes
  backing_congr ⟨h.1, h.2.1⟩ addr

/-- Two numbers below 2 ^ 16 are different addresses, with different cells or bytes behind them. -/
lemma backing_ne_of_ne (bus : Bus) {i j : Nat} (hi : i < 0x10000) (hj : j < 0x10000) (h : i ≠ j) :
    bus.backing (UInt16.ofNat i) ≠ bus.backing (UInt16.ofNat j) := by
  intro e
  have e := congrArg UInt16.toNat (backing_inj e)
  rw [UInt16.toNat_ofNat_of_lt' hi, UInt16.toNat_ofNat_of_lt' hj] at e
  exact h e

/-- What backs none of the addresses stays. -/
lemma kept_go_outside {k : Backing}
    (h : ∀ i < bytes.length, a + i < 0x10000 → k ≠ bus.backing (UInt16.ofNat (a + i))) :
    (go bus a bytes).2.kept k = bus.kept k := by
  induction bytes generalizing bus a with
  | nil => rfl
  | cons b bytes ih =>
    unfold go
    split
    · next ha =>
      have hk : k ≠ bus.backing (UInt16.ofNat a) := h 0 (Nat.zero_lt_succ _) ha
      refine (ih fun i hi hai => ?_).trans ?_
      · rw [backing_congr (bus.poke_frame _ b), Nat.add_assoc, Nat.add_comm 1]
        exact h (i + 1) (Nat.succ_lt_succ hi) (by omega)
      · rw [kept_poke, if_neg hk]
    · rfl

/-- What backs one of them takes its byte. -/
lemma kept_go_inside (bus : Bus) {i : Nat} (hi : i < bytes.length) (hai : a + i < 0x10000) :
    (go bus a bytes).2.kept (bus.backing (UInt16.ofNat (a + i))) = bytes[i] := by
  induction bytes generalizing bus a i with
  | nil => exact absurd hi (Nat.not_lt_zero _)
  | cons b bytes ih =>
    have ha : a < 0x10000 := by omega
    unfold go
    rw [if_pos ha]
    cases i with
    | zero =>
      -- the addresses of the rest are others
      refine (kept_go_outside fun j hj haj => ?_).trans ?_
      · rw [backing_congr (bus.poke_frame _ b)]
        exact backing_ne_of_ne bus ha haj (by omega)
      · exact (kept_poke _ _ _ _).trans (if_pos rfl)
    | succ i =>
      have h := ih (bus.poke (UInt16.ofNat a) b) (Nat.lt_of_succ_lt_succ hi)
        (by omega : a + 1 + i < 0x10000)
      rw [backing_congr (bus.poke_frame _ b), Nat.add_assoc, Nat.add_comm 1] at h
      exact h

/-- Without a boot image a patch keeps all cells but those of its addresses. -/
lemma byte_go_outside {c : Cell} (hb : bus.bootMapped = false)
    (h : ∀ i < bytes.length, a + i < 0x10000 → c ≠ bus.window.cell (UInt16.ofNat (a + i))) :
    (go bus a bytes).2.byte c = bus.byte c :=
  kept_go_outside (k := .cell c) fun i hi hai e =>
    h i hi hai (Backing.cell.inj (e.trans (backing_of_lifted hb _)))

/-- Without a boot image a patch puts its bytes into the cells of its addresses. -/
lemma byte_go_inside (hb : bus.bootMapped = false) {i : Nat} (hi : i < bytes.length)
    (hai : a + i < 0x10000) :
    (go bus a bytes).2.byte (bus.window.cell (UInt16.ofNat (a + i))) = bytes[i] := by
  have h := kept_go_inside bus hi hai
  rwa [backing_of_lifted hb] at h

/-- As many bytes are saved as are patched in before the addresses end. -/
lemma go_saved_length (bus : Bus) (a : Nat) (bytes : List UInt8) :
    (go bus a bytes).1.length = min bytes.length (0x10000 - a) := by
  induction bytes generalizing bus a with
  | nil => simp [go]
  | cons b bytes ih =>
    unfold go
    split
    · simp only [List.length_cons, ih]
      omega
    · simp only [List.length_nil, List.length_cons]
      omega

/-- What was behind the addresses is saved. -/
lemma go_saved {i : Nat} (h : i < (go bus a bytes).1.length) :
    (go bus a bytes).1[i] = bus.peek (UInt16.ofNat (a + i)) := by
  induction bytes generalizing bus a i with
  | nil => exact absurd h (Nat.not_lt_zero _)
  | cons b bytes ih =>
    have ha : a < 0x10000 := by
      rw [go_saved_length] at h
      omega
    have e : (go bus a (b :: bytes)).1 =
        bus.peek (UInt16.ofNat a) :: (go (bus.poke (UInt16.ofNat a) b) (a + 1) bytes).1 := by
      rw [go, if_pos ha]
    cases i with
    | zero => simp only [e, List.getElem_cons_zero, Nat.add_zero]
    | succ i =>
      have hi : i < (go (bus.poke (UInt16.ofNat a) b) (a + 1) bytes).1.length := by
        rw [e] at h
        exact Nat.lt_of_succ_lt_succ h
      have hai : a + (i + 1) < 0x10000 := by
        rw [go_saved_length] at h
        omega
      -- the byte that is poked before is another one
      have hne := backing_ne_of_ne bus hai ha (by omega)
      have hrest := ih hi
      rw [peek_eq_kept, backing_congr (bus.poke_frame _ b), Nat.add_assoc, Nat.add_comm 1, kept_poke,
        if_neg hne, ← peek_eq_kept] at hrest
      simp only [e, List.getElem_cons_succ]
      exact hrest

end patch

/-- Putting back what a patch has saved, into a bus whose window may stand elsewhere: the bytes go to
where the window leads now, and all other cells stay. -/
lemma byte_patch_saved {bus bus' : Bus} (addr : UInt16) (code : List UInt8)
    (hb : bus.bootMapped = false) (hb' : bus'.bootMapped = false) :
    (∀ i < code.length, addr.toNat + i < 0x10000 →
      (bus'.patch addr (bus.patch addr code).1).2.byte
          (bus'.window.cell (UInt16.ofNat (addr.toNat + i))) =
        bus.byte (bus.window.cell (UInt16.ofNat (addr.toNat + i)))) ∧
    ∀ c, (∀ i < code.length, addr.toNat + i < 0x10000 →
        c ≠ bus'.window.cell (UInt16.ofNat (addr.toNat + i))) →
      (bus'.patch addr (bus.patch addr code).1).2.byte c = bus'.byte c := by
  have hlen : (bus.patch addr code).1.length = min code.length (0x10000 - addr.toNat) :=
    patch.go_saved_length bus addr.toNat code
  refine ⟨fun i hi hai => ?_, fun c hc => ?_⟩
  · have hi' : i < (bus.patch addr code).1.length := by omega
    rw [← peek_eq_byte hb]
    exact (patch.byte_go_inside hb' hi' hai).trans (patch.go_saved hi')
  · exact patch.byte_go_outside hb' fun i hi hai => hc i (by omega) hai

/-- Putting back at once what a patch has saved leaves every byte as it was. -/
lemma kept_patch_undone (bus : Bus) (addr : UInt16) (code : List UInt8) (k : Backing) :
    ((bus.patch addr code).2.patch addr (bus.patch addr code).1).2.kept k = bus.kept k := by
  have hlen : (bus.patch addr code).1.length = min code.length (0x10000 - addr.toNat) :=
    patch.go_saved_length bus addr.toNat code
  have hbacking (a : UInt16) : (bus.patch addr code).2.backing a = bus.backing a :=
    patch.backing_go bus addr.toNat code a
  by_cases hk : ∃ i < code.length, addr.toNat + i < 0x10000 ∧
      k = bus.backing (UInt16.ofNat (addr.toNat + i))
  · obtain ⟨i, hi, hai, rfl⟩ := hk
    have hi' : i < (bus.patch addr code).1.length := by omega
    have h := (patch.kept_go_inside (bus.patch addr code).2 hi' hai).trans
      (patch.go_saved hi')
    rw [peek_eq_kept, ← hbacking] at h
    rw [← hbacking]
    exact h
  · have hk' : ∀ i < code.length, addr.toNat + i < 0x10000 →
        k ≠ bus.backing (UInt16.ofNat (addr.toNat + i)) := fun i hi hai e => hk ⟨i, hi, hai, e⟩
    refine (patch.kept_go_outside fun i hi hai => ?_).trans (patch.kept_go_outside hk')
    rw [hbacking]
    exact hk' i (by omega) hai

/-- After a patch and the patch that undoes it the bus is as it was, but that the cartridge image
may have grown by bytes 0xff. -/
lemma patch_undone (bus : Bus) (addr : UInt16) (code : List UInt8) :
    ∃ n, ((bus.patch addr code).2.patch addr (bus.patch addr code).1).2 =
      { bus with cartridge := bus.cartridge ++ Array.replicate n 0xff } := by
  have hkept := kept_patch_undone bus addr code
  obtain ⟨_, _, _, e, -, hsize⟩ := patch.go_reaches bus addr.toNat code
  obtain ⟨map, boot, cartridge, e', -, hsize'⟩ :=
    patch.go_reaches (bus.patch addr code).2 addr.toNat (bus.patch addr code).1
  have hfirst : (bus.patch addr code).2 = _ := e
  rw [hfirst] at e' hsize'
  have hsecond : ((bus.patch addr code).2.patch addr (bus.patch addr code).1).2 =
      { bus with map, boot, cartridge } := by
    rw [hfirst]
    exact e'
  rw [hsecond] at hkept ⊢
  have hmap : map = bus.map := by
    refine Store.ext fun a ha => ?_
    have h := hkept (.cell (.map (UInt16.ofNat a)))
    rwa [kept, kept, byte, byte, UInt16.toNat_ofNat_of_lt' ha] at h
  have hboot : boot = bus.boot := by
    refine Store.ext fun a ha => ?_
    have h := hkept (.boot (UInt8.ofNat a))
    rwa [kept, kept, UInt8.toNat_ofNat_of_lt' ha] at h
  have hcartridge := image_eq_append (Nat.le_trans hsize hsize') fun o => hkept (.cell (.image o))
  exact ⟨_, by rw [hmap, hboot, ← hcartridge]⟩

end Bus

end GameBoy
