import GameBoy.Session
import GameBoy.Proofs.Bus.Strictness
import GameBoy.Proofs.Bus.Window

/-!
# Chronicles of a bus

What happens to a bus is told by a list of incidents, each of which is one of the operations that a bus
offers (`Incident`). A chronicle can be replayed, and a record can be kept of it that sees the bus as it
was at each incident (`record`). Whatever uses a bus by its operations does the same as the replay of
some chronicle (`Chronicled`): so do the parts of a tick, visits (`Visit.chronicled`) and the loading of
images (`load_chronicled`).
-/

namespace GameBoy.Bus

/-- One of the operations that a bus offers. -/
inductive Incident where
  | read (addr : UInt16)
  | write (addr : UInt16) (v : UInt8)
  | note (n : Notice)
  | adjust (a : Adjustment)
  /-- Installs a cartridge image. -/
  | insert (image : Image)
  | strict (on : Bool)

namespace Incident

/-- What an incident does to the bus. -/
def perform : Incident → Action Bus Unit
  | read addr => do let _ ← Bus.read addr
  | write addr v => Bus.write addr v
  | note n => .note n
  | adjust a => .modify a.apply
  | insert image => .modify fun bus => bus.inserted image
  | strict on => .modify fun bus => bus.withStrict on

/-- Whether an incident is of the kinds that a tick, a turn of the screen and a key are made of. -/
def IsPlain : Incident → Prop
  | read _ | write _ _ | note _ => True
  | adjust (.flags _) | adjust (.keys _) | adjust (.boot false) => True
  | _ => False

/-- Whether an incident is of the kinds that the loading of an image is made of. -/
def IsLoading : Incident → Prop
  | note _ | insert _ | adjust (.install _) => True
  | _ => False

end Incident

/-- Does what a chronicle tells, one incident after the other. -/
def replay : List Incident → Action Bus Unit
  | [] => return
  | i :: chronicle => do
    i.perform
    replay chronicle

/-- A record of a chronicle: for each incident, what `f` makes of it and of the bus as it is right
before. -/
def record {α : Type} (f : Bus → Incident → Option α) : List Incident → Bus → List α
  | [], _ => []
  | i :: chronicle, bus => (f bus i).toList ++ record f chronicle (i.perform bus).state

/-- What happened is told by a chronicle whose incidents have a property. -/
def Chronicled (p : Incident → Prop) (bus : Bus) (es : List Event) (bus' : Bus) : Prop :=
  ∃ chronicle, (∀ i ∈ chronicle, p i) ∧ replay chronicle bus = ⟨(), bus', es⟩

variable {p : Incident → Prop}

/-- A chronicle in two parts is replayed part by part. -/
lemma replay_append (first rest : List Incident) :
    replay (first ++ rest) = replay first >>= fun _ => replay rest := by
  induction first with
  | nil => rw [replay, pure_bind, List.nil_append]
  | cons i first ih => rw [List.cons_append, replay, replay, ih, bind_assoc]

/-- Chronicles compose. -/
lemma chronicled_composes : Composes (Chronicled p) where
  refl _ := ⟨[], nofun, rfl⟩
  trans := by
    rintro bus bus' bus'' es es' ⟨first, hfirst, e⟩ ⟨rest, hrest, e'⟩
    refine ⟨first ++ rest, List.forall_mem_append.mpr ⟨hfirst, hrest⟩, ?_⟩
    rw [replay_append, Action.bind_apply, e, e']

/-- A single incident is told by itself. -/
lemma Incident.chronicled {i : Incident} (h : p i) (bus : Bus) :
    Chronicled p bus (i.perform bus).events (i.perform bus).state := by
  refine ⟨[i], List.forall_mem_singleton.mpr h, ?_⟩
  rw [replay, Action.bind_apply, replay, Action.pure_apply, List.append_nil]

/-- A relation that each incident ensures is ensured by whatever the incidents tell. -/
lemma Chronicled.ensures {R : Bus → List Event → Bus → Prop} (hR : Composes R)
    (h : ∀ i, p i → i.perform.Ensures R) {bus bus' : Bus} {es : List Event}
    (hes : Chronicled p bus es bus') : R bus es bus' := by
  obtain ⟨chronicle, hp, e⟩ := hes
  have hreplay : (replay chronicle).Ensures R := by
    clear e
    induction chronicle with
    | nil => exact .pure hR _
    | cons i chronicle ih =>
      obtain ⟨hi, hchronicle⟩ := List.forall_mem_cons.mp hp
      exact .bind hR (h i hi) fun _ => ih hchronicle
  have hR := hreplay bus
  rw [e] at hR
  exact hR

/-- What a tick does to its bus is told by plain incidents. -/
lemma chronicled_respected (hp : ∀ i : Incident, i.IsPlain → p i) : Respected (Chronicled p) where
  toComposes := chronicled_composes
  note bus n := Incident.chronicled (hp (.note n) trivial) bus
  flag bus v := Incident.chronicled (hp (.adjust (.flags v)) trivial) bus
  keys bus joypad := Incident.chronicled (hp (.adjust (.keys joypad)) trivial) bus
  read addr bus := by
    have h := Incident.chronicled (hp (.read addr) trivial) bus
    rw [Incident.perform, Action.bind_apply, Action.pure_apply, List.append_nil] at h
    exact h
  write addr v bus := Incident.chronicled (hp (.write addr v) trivial) bus

/-- Lifting the boot image has a chronicle. -/
lemma disableBoot_chronicled (hp : ∀ i : Incident, i.IsPlain → p i) :
    disableBoot.Ensures (Chronicled p) := by
  have hC : Composes (Chronicled p) := chronicled_composes
  have hlift (bus : Bus) := Incident.chronicled (hp (.adjust (.boot false)) trivial) bus
  exact .bind hC (.get hC) fun _ =>
    .optional hC ((chronicled_respected hp).note · _) fun bus => hlift bus

/-- A visit has a chronicle, in which its adjustments are incidents themselves. -/
lemma Visit.chronicled (hp : ∀ i : Incident, i.IsPlain → p i) {q : Adjustment → Prop}
    (hq : ∀ a, q a → p (.adjust a)) {α : Type} {x : Action Bus α} (h : Visit q x) :
    x.Ensures (Chronicled p) :=
  h.ensures (chronicled_respected hp) fun a ha bus => Incident.chronicled (hq a ha) bus

/-- A turn of the screen has a chronicle of plain incidents. -/
lemma headless_chronicled (hp : ∀ i : Incident, i.IsPlain → p i) (screen : Headless) :
    screen.turn.Ensures (Chronicled p) :=
  screen.turn_visit.ensures_of_signals (chronicled_respected hp)

/-- The write that an incident is, if it is one. -/
def Incident.write? : Incident → Option (UInt16 × UInt8)
  | write addr v => some (addr, v)
  | _ => none

/-- The writes among some events. -/
def writesShown (es : List Event) : List (UInt16 × UInt8) :=
  es.filterMap fun
    | .write addr v => some (addr, v)
    | _ => none

/-- An incident shows the write that it is, and no other. -/
lemma Incident.writesShown_perform (i : Incident) (bus : Bus) :
    writesShown (i.perform bus).events = i.write?.toList := by
  cases i with
  | read addr =>
    change writesShown ((Bus.read addr bus).events ++ []) = []
    rw [List.append_nil]
    refine filterMap_read (fun e h => ?_) bus addr
    cases e with
    | write => cases h
    | read | notice | echo => rfl
  | write addr v =>
    refine filterMap_write (fun e h => ?_) bus addr v
    cases e with
    | write => cases h
    | read | notice | echo => rfl
  | note | adjust | insert | strict => rfl

/-- The writes of a chronicle are those that show in its events. -/
lemma writesShown_replay (chronicle : List Incident) (bus : Bus) :
    writesShown (replay chronicle bus).events = chronicle.filterMap Incident.write? := by
  induction chronicle generalizing bus with
  | nil => rfl
  | cons i chronicle ih =>
    rw [replay, Action.bind_apply, writesShown, List.filterMap_append, ← writesShown, ← writesShown,
      ih, i.writesShown_perform, List.filterMap_cons]
    cases i.write? <;> rfl

/-- An adjustment leaves whatever it does not adjust; only one of them decides about the echo. -/
lemma adjust_reaches (a : Adjustment) (bus : Bus) :
    ∃ map scratch boot bootMapped cartridge joypad echo,
      a.apply bus = { bus with map, scratch, boot, bootMapped, cartridge, joypad, echo } ∧
        ((∀ on, a ≠ .echo on) → echo = bus.echo) := by
  cases a with
  | patch addr bytes =>
    obtain ⟨_, _, _, e, -⟩ := patch.go_reaches bus addr.toNat bytes
    exact ⟨_, _, _, _, _, _, _, e, fun _ => rfl⟩
  | echo on => exact ⟨_, _, _, _, _, _, _, rfl, fun h => absurd rfl (h on)⟩
  | flags | keys | boot | install | scratch | store =>
    exact ⟨_, _, _, _, _, _, _, rfl, fun _ => rfl⟩

/-! ## Loading -/

/-- Loads the cartridge, or reports why it is left out. -/
def openCartridge (files : FileStore) (path : String) : Action Bus Unit := do
  if let .error e ← openImage files .cartridge path then .note (.cartridgeMissing e.message)

/-- What remains of setting up a bus when its switches are set. -/
def openImages (files : FileStore) (config : Config) : Action Bus Unit := do
  if let some path := config.boot then
    if let .error e ← openImage files .boot path then .note (.bootMissing e.message)
  openCartridge files config.rom

section Loading

variable (hp : ∀ i : Incident, i.IsLoading → p i)
include hp

/-- Loading an image has a chronicle. -/
lemma load_chronicled (kind : ImageKind) (image : Image) :
    (load kind image).Ensures (Chronicled p) := by
  intro bus
  have hnote (n : Notice) : p (.note n) := hp _ trivial
  cases kind with
  | boot =>
    let cells := Store.tabulate 8 fun a => image[a]?.getD 0
    let rest : List Incident :=
      [.note .bootEnabled, .adjust (.install cells), .note (.bootLoaded (min image.size 0x100))]
    have hrest : ∀ i ∈ rest, p i := by
      simp only [rest, List.forall_mem_cons]
      exact ⟨hnote _, hp _ trivial, hnote _, nofun⟩
    unfold load loadBoot
    split
    · exact ⟨.note (.bootTruncated image.size) :: rest,
        List.forall_mem_cons.mpr ⟨hnote _, hrest⟩, rfl⟩
    · exact ⟨rest, hrest, rfl⟩
  | cartridge =>
    let rest : List Incident :=
      [.insert image, .note (.cartridgeLoaded (Header.parse image) image.size)]
    have hrest : ∀ i ∈ rest, p i := by
      simp only [rest, List.forall_mem_cons]
      exact ⟨hp _ trivial, hnote _, nofun⟩
    unfold load loadRom
    split
    · exact ⟨.note .cartridgeLarge :: rest, List.forall_mem_cons.mpr ⟨hnote _, hrest⟩, rfl⟩
    · exact ⟨rest, hrest, rfl⟩

/-- Opening a file as an image has a chronicle. -/
lemma openImage_chronicled (files : FileStore) (kind : ImageKind) (path : String) :
    (openImage files kind path).Ensures (Chronicled p) := by
  unfold openImage
  split
  · exact .pure chronicled_composes _
  · exact .bind chronicled_composes (load_chronicled hp kind _) fun _ => .pure chronicled_composes _

/-- Opening a cartridge has a chronicle. -/
lemma openCartridge_chronicled (files : FileStore) (path : String) :
    (openCartridge files path).Ensures (Chronicled p) := by
  refine .bind chronicled_composes (openImage_chronicled hp _ _ _) fun opened => ?_
  split
  · exact Incident.chronicled (i := .note _) (hp _ trivial)
  · exact .pure chronicled_composes _

/-- A bus is set up by setting its switches and loading its images. -/
lemma configure_chronicled (files : FileStore) (config : Config) (bus : Bus) :
    let done := configure files config bus
    Chronicled p { bus with strict := config.strict, echo := config.echo } done.events
      done.state := by
  suffices h : (openImages files config).Ensures (Chronicled p) from h _
  have hC : Composes (Chronicled p) := chronicled_composes
  have hcartridge := openCartridge_chronicled hp files config.rom
  unfold openImages
  cases config.boot with
  | none => exact hcartridge
  | some path =>
    refine .bind hC (openImage_chronicled hp _ _ _) fun opened => ?_
    split
    · exact .bind hC (Incident.chronicled (i := .note _) (hp _ trivial)) fun _ => hcartridge
    · exact hcartridge

end Loading

end GameBoy.Bus
