import GameBoy.Proofs.Listing.OneLine
import GameBoy.Proofs.Machine.Recorded

/-!
# Tracing

What the log tells of the processor is what happened: one record for each instruction that a run
executes, in their order, with the text of the instruction as the bus showed it before it was
executed, and for a fault its text and a dump that ends with the last instruction
(`trace_tells_truth`).
-/

namespace GameBoy

open Listing Text

/-! ## Records -/

/-- The text of a record of a level that passes a filter. -/
def Event.record? (filter : Filter) (level : Level) : Event → Option String
  | .notice n => if filter.passes n.level = true ∧ n.level = level then some n.text else none
  | _ => none

/-- The texts of the records of a level that pass a filter. -/
def records (filter : Filter) (level : Level) (es : List Event) : List String :=
  es.filterMap (Event.record? filter level)

/-- The records of two stretches follow each other. -/
lemma records_append (filter : Filter) (level : Level) (es es' : List Event) :
    records filter level (es ++ es') = records filter level es ++ records filter level es' :=
  List.filterMap_append

/-- The record that a trace has of an instruction. -/
def LastInstruction.traced (last : LastInstruction) : String :=
  hexWord last.addr ++ ": " ++ last.mnemonic

/-- Executions are all that is traced. -/
lemma records_trace (es : List Event) :
    records (some .trace) .trace es = (executions es).map LastInstruction.traced := by
  rw [records, executions, List.map_filterMap]
  refine List.filterMap_congr fun e _ => ?_
  cases e with
  | notice n => cases n <;> rfl
  | _ => rfl

/-- Whether an event is a record of an error. -/
def Event.isError : Event → Bool
  | .notice n => n.level == .error
  | _ => false

/-- A relation that says that no error is reported. -/
abbrev Calm {σ : Type} (_ : σ) (es : List Event) (_ : σ) : Prop := ∀ e ∈ es, e.isError = false

/-- Stretches without errors compose. -/
lemma calm_composes {σ : Type} : Composes (Calm (σ := σ)) := .all _

/-- Without errors there is no record at their level. -/
lemma records_of_calm (filter : Filter) {es : List Event} (h : ∀ e ∈ es, e.isError = false) :
    records filter .error es = [] := by
  refine List.filterMap_eq_nil_iff.mpr fun e he => ?_
  have hcalm := h e he
  cases e with
  | notice n => exact if_neg fun hn => by simp [Event.isError, hn.2] at hcalm
  | _ => rfl

/-- A notice below the level of errors is calm. -/
lemma note_calm {σ : Type} {n : Notice} (h : (n.level == .error) = false) :
    (Action.note n : Action σ Unit).Ensures Calm := by
  intro _ e he
  obtain rfl := List.mem_singleton.mp he
  exact h

namespace Bus

/-- Reading a register is calm. -/
lemma readIo_calm (r : IoRegister) : (readIo r).Ensures Calm := by
  have hC := calm_composes (σ := Bus)
  refine .bind hC (.get hC) fun bus => ?_
  split
  · exact .bind hC (.get hC) fun _ => .bind hC (fun _ => nofun) fun _ =>
      .optional hC (fun _ => nofun) (.pure hC _)
  · exact .bind hC (note_calm rfl) fun _ => .pure hC _
  · exact .optional hC (note_calm rfl) (.pure hC _)

/-- A reading is no error. -/
lemma read_calm (addr : UInt16) : (read addr).Ensures Calm := by
  have hC := calm_composes (σ := Bus)
  have hshow (v : UInt8) : (do .emit (.read addr v); return v : Action Bus UInt8).Ensures Calm := by
    intro _ e he
    obtain rfl := List.mem_singleton.mp he
    rfl
  refine .bind hC (.get hC) fun bus => ?_
  dsimp only
  split
  · exact .bind hC (readIo_calm _) hshow
  · exact hshow _

/-- Lifting the boot image is calm. -/
lemma disableBoot_calm : disableBoot.Ensures Calm := by
  have hC := calm_composes (σ := Bus)
  exact .bind hC (.get hC) fun _ => .optional hC (note_calm rfl) fun _ => nofun

end Bus

namespace Machine

variable {m m' : Machine}

/-! ## Faults -/

/-- A fetch is no error. -/
lemma fetchEvents_calm (m : Machine) : ∀ e ∈ m.fetchEvents, e.isError = false := by
  have hC := calm_composes (σ := Machine)
  have hlift : (liftBoot m.cpu.registers.pc).Ensures Calm :=
    .bind hC (.get hC) fun _ => .ite (fun _ m => Bus.disableBoot_calm m.bus) fun _ => .pure hC _
  have hfetch : fetchOpcode.Ensures Calm :=
    .bind hC (fun _ => nofun) fun _ => .bind hC (fun m => Bus.read_calm _ m.bus) fun _ =>
      .bind hC (fun _ => nofun) fun _ => .pure hC _
  exact hC.trans (hlift m) (hfetch _)

/-- What an execution does that finds a fault is no error yet. -/
lemma execute_calm {fault : Fault} (hv : (execute m).value = .error fault) :
    ∀ e ∈ (execute m).events, e.isError = false := by
  obtain ⟨hpc, -⟩ | ⟨hpc, ⟨hop, -⟩ | ⟨hop, -⟩ | ⟨-, -, ha⟩⟩ := m.faultAhead_cases
  · rw [execute_of_lt hpc]
    exact nofun
  · rw [execute_of_le hpc, hop, executeOpcode_stop]
    exact List.forall_mem_append.mpr ⟨fetchEvents_calm m, note_calm rfl m⟩
  · rw [execute_of_le hpc, executeOpcode_removed _ hop, List.append_nil]
    exact fetchEvents_calm m
  · cases ha.symm.trans (execute_error_iff.mp hv)

/-- A dump ends with a line of its own for the last instruction. -/
lemma dump_eq (cpu : Cpu) :
    ∃ head, cpu.dump = head ++ "\n" ++
      ("Last instruction 0x" ++ hexByte cpu.last.opcode ++ " at adr 0x" ++ hexWord cpu.last.addr ++
        ": " ++ cpu.last.mnemonic) := by
  have hlast (a b c d : String) : a ++ (b ++ "\n") ++ c ++ d = a ++ b ++ "\n" ++ (c ++ d) := by
    simp only [String.append_assoc]
  exact ⟨_, hlast _ _ _ _⟩

/-- The last line of a dump is one line. -/
lemma lastLine_isLine (last : LastInstruction) :
    IsLine ("Last instruction 0x" ++ hexByte last.opcode ++ " at adr 0x" ++ hexWord last.addr ++
      ": " ++ last.mnemonic) := by
  have h := mnemonic_isLine last.addr last.opcode (last.byte.getD 0) (last.word.getD 0)
  simp only [isLine_append, hexByte_isLine, hexWord_isLine, LastInstruction.mnemonic, h]
  decide

/-! ## The instruction ahead -/

/-- The text of the instruction at the program counter, from what readings of the bus answer. -/
def listing (m : Machine) : String :=
  let addr := m.cpu.registers.pc
  mnemonic addr (Bus.read addr m.bus).value (Bus.read (addr + 1) m.bus).value
    (Bus.readWord (addr + 1) m.bus).value

/-- A record is that of the instruction at the program counter. -/
structure Recorded (m : Machine) (last : LastInstruction) : Prop where
  addr : last.addr = m.cpu.registers.pc
  opcode : last.opcode = (Bus.read m.cpu.registers.pc m.bus).value
  mnemonic : last.mnemonic = m.listing

/-- The listing ahead is the text of the bytes that are shown. -/
lemma listing_eq (hpc : m.cpu.registers.pc ≤ pcLimit) :
    m.listing = GameBoy.mnemonic m.cpu.registers.pc (m.bus.shown m.cpu.registers.pc)
      (m.bus.shown (m.cpu.registers.pc + 1)) m.wordBehind := by
  have hpc' : m.cpu.registers.pc.toNat ≤ 0xff00 := UInt16.le_iff_toNat_le.mp hpc
  have hnext : m.cpu.registers.pc + 1 < 0xff44 := by
    rw [UInt16.lt_iff_toNat_lt, UInt16.toNat_add]
    simp only [UInt16.reduceToNat]
    omega
  have hpc2 : m.cpu.registers.pc + 1 + 1 = m.cpu.registers.pc + 2 := UInt16.add_assoc _ 1 1
  rw [listing, Bus.readWord, Action.bind_apply, Action.bind_apply]
  dsimp only
  rw [Bus.read_value, Bus.read_value, Bus.read_state_of_lt _ hnext, Bus.read_value, hpc2]
  rfl

/-- What an instruction does not read does not show in its text. -/
lemma mnemonic_listed (m : Machine) :
    m.listed.cpu.last.mnemonic =
      GameBoy.mnemonic m.cpu.registers.pc (m.bus.shown m.cpu.registers.pc)
        (m.bus.shown (m.cpu.registers.pc + 1)) m.wordBehind := by
  have hb : ∀ word, ¬DependsOnByte m.cpu.registers.pc (m.bus.shown m.cpu.registers.pc) →
      GameBoy.mnemonic m.cpu.registers.pc (m.bus.shown m.cpu.registers.pc) 0 word =
        GameBoy.mnemonic m.cpu.registers.pc (m.bus.shown m.cpu.registers.pc)
          (m.bus.shown (m.cpu.registers.pc + 1)) word :=
    fun word h => by_contra fun hne => h ⟨_, _, word, hne⟩
  have hw : ∀ byte, ¬DependsOnWord m.cpu.registers.pc (m.bus.shown m.cpu.registers.pc) →
      GameBoy.mnemonic m.cpu.registers.pc (m.bus.shown m.cpu.registers.pc) byte 0 =
        GameBoy.mnemonic m.cpu.registers.pc (m.bus.shown m.cpu.registers.pc) byte m.wordBehind :=
    fun byte h => by_contra fun hne => h ⟨byte, _, _, hne⟩
  simp only [LastInstruction.mnemonic, listed, behind]
  split <;> split <;> simp only [Option.getD_some, Option.getD_none, *, not_false_eq_true]

/-- What an execution records is the instruction that is listed. -/
lemma recorded_listed (hpc : m.cpu.registers.pc ≤ pcLimit) : Recorded m m.listed.cpu.last where
  addr := rfl
  opcode := (Bus.read_value _ _).symm
  mnemonic := (mnemonic_listed m).trans (listing_eq hpc).symm

/-! ## Traces -/

/-- The record of a tick that executes something is its listing; other ticks leave none. -/
lemma records_tick (m : Machine) :
    records (some .trace) .trace (tick m).events =
      if (tick m).value then [hexWord m.cpu.registers.pc ++ ": " ++ m.listing] else [] := by
  rw [records_trace, executions_tick]
  have ht := ticked m
  cases hv : (tick m).value with
  | false => rfl
  | true =>
    rw [hv] at ht
    have hlast := recorded_listed ht.pc_le
    rw [if_pos rfl, if_pos rfl, List.map_singleton, LastInstruction.traced, hlast.addr,
      hlast.mnemonic]

/-- Ticks leave a trace of the instructions that they execute. -/
lemma records_ticks (ms : List Machine) :
    records (some .trace) .trace (ms.flatMap fun x => (tick x).events) =
      (ms.filter fun x => (tick x).value).map fun x =>
        hexWord x.cpu.registers.pc ++ ": " ++ x.listing := by
  induction ms with
  | nil => rfl
  | cons m ms ih =>
    rw [List.flatMap_cons, records_append, ih, records_tick, List.filter_cons]
    split <;> rfl

/-- While nothing is executed, the record stays. -/
lemma Run.last_waited {ms : List Machine} (h : Run m ms m')
    (hv : ∀ x ∈ ms, (tick x).value = false) (hp : m'.cpu.isPanicked = false) :
    m'.cpu.last = m.cpu.last := by
  induction h with
  | nil _ => rfl
  | @cons m _ _ bus h ih =>
    have ht := ticked_of_value (hv m (.head _))
    exact (ih (fun x hx => hv x (.tail _ hx)) hp).trans (ht.last_waited (h.isPanicked hp))

/-- What a fault leaves on record: the instruction at which it was found, if any was fetched. -/
lemma last_of_fault {fault : Fault} (hv : (execute m).value = .error fault) :
    ((∀ addr, fault ≠ .pcOverflow addr) → Recorded m (execute m).state.cpu.last) ∧
      ∀ addr, fault = .pcOverflow addr → (execute m).state.cpu.last = m.cpu.last := by
  obtain ⟨hpc, ha⟩ | ⟨hpc, ha⟩ := m.faultAhead_cases
  · cases (execute_error_iff.mp hv).symm.trans ha
    rw [execute_of_lt hpc]
    exact ⟨fun h => absurd rfl (h _), fun _ _ => rfl⟩
  · rw [(execute_recorded hpc).1]
    refine ⟨fun _ => recorded_listed hpc, fun addr h => ?_⟩
    subst h
    have ha' := execute_error_iff.mp hv
    obtain ⟨-, ha⟩ | ⟨-, ha⟩ | ⟨-, -, ha⟩ := ha
    all_goals cases ha'.symm.trans ha

/-- A fault is reported by its text and a dump, and nothing is traced. -/
lemma records_of_fault {fault : Fault} (hp : m.cpu.isPanicked = false)
    (hr : m.cpu.isReady = true) (hv : (execute m).value = .error fault) :
    records (some .trace) .trace (tick m).events = [] ∧
      records (some .trace) .error (tick m).events =
        ["CPU panicked: " ++ fault.message, (execute m).state.cpu.dump] := by
  constructor
  · rw [records_tick, tick_of_error hp hr hv]
    rfl
  · rw [tick_of_error hp hr hv, records_append, records_of_calm _ (execute_calm hv)]
    rfl

/-- The trace tells the truth. A tick that executes an instruction leaves the record of the one that
the bus showed at the program counter before the tick, whatever the instruction does to its own
bytes and whatever is dispatched behind it. Along every run the trace has one line for each
instruction executed, in order. A fault is not traced but reported, by its text and a dump whose
last line is the last instruction: the one at which the fault was found, or if nothing was fetched,
the one executed before. -/
theorem trace_tells_truth :
    (∀ m, (tick m).value = true → Recorded m (tick m).state.cpu.last) ∧
    (∀ m ms m', Run m ms m' →
      records (some .trace) .trace (ms.flatMap fun x => (tick x).events) =
        (ms.filter fun x => (tick x).value).map fun x =>
          hexWord x.cpu.registers.pc ++ ": " ++ x.listing) ∧
    (∀ m fault, m.cpu.isPanicked = false → (tick m).state.cpu.fault = some fault →
      let last := (tick m).state.cpu.last
      let line := "Last instruction 0x" ++ hexByte last.opcode ++ " at adr 0x" ++
        hexWord last.addr ++ ": " ++ last.mnemonic
      records (some .trace) .trace (tick m).events = [] ∧
      (∃ head, (tick m).state.cpu.dump = head ++ "\n" ++ line ∧
        records (some .trace) .error (tick m).events =
          ["CPU panicked: " ++ fault.message, head ++ "\n" ++ line]) ∧
      '\n' ∉ line.toList ∧
      ((∀ addr, fault ≠ .pcOverflow addr) → Recorded m last) ∧
      ∀ addr, fault = .pcOverflow addr → last = m.cpu.last) ∧
    ∀ m ms m', Run m (m :: ms) m' → (tick m).value = true →
      (∀ x ∈ ms, (tick x).value = false) → m'.cpu.isPanicked = false →
      m'.cpu.last = (tick m).state.cpu.last := by
  refine ⟨fun m hv => ?_, fun m ms m' _ => records_ticks ms, fun m fault hp hf => ?_,
    fun m ms m' h _ hms hp => ?_⟩
  · have ht := ticked m
    rw [hv] at ht
    rw [ht.last_executed]
    exact recorded_listed ht.pc_le
  · obtain ⟨hr, ha⟩ := ((ticked m).fault_iff hp).mp hf
    have hv := execute_error_iff.mpr ha
    have htick := tick_of_error hp hr hv
    have hcpu : (tick m).state = (execute m).state.stopped fault := congrArg Outcome.state htick
    obtain ⟨htrace, herror⟩ := records_of_fault hp hr hv
    obtain ⟨head, hdump⟩ := dump_eq (execute m).state.cpu
    rw [hdump] at herror
    rw [hcpu]
    exact ⟨htrace, ⟨head, hdump, herror⟩, lastLine_isLine _, last_of_fault hv⟩
  · cases h with
    | cons bus h => exact h.last_waited hms hp

/-- An instruction that overwrites itself in a tick that dispatches an interrupt, to a routine that
begins with an opcode that the processor lacks. -/
theorem trace_tells_truth_overwritten :
    let bus := { Bus.new (Clock.steady 0 0) with
      map := (((((Store.fill 16 0).set 0xc000 0xea).set 0xc002 0xc0).set 0x40 0xfd).set 0xff0f 1).set
        0xffff 1 }
    let m : Machine := ⟨{ Cpu.new false with ime := true, registers := { pc := 0xc000 } }, bus⟩
    let ms := (List.range 36).map m.after
    dispatches (tick m).events = [.vblank] ∧ (tick m).state.bus.shown 0xc000 = 0 ∧
      Recorded m (tick m).state.cpu.last ∧
      records (some .trace) .trace (ms.flatMap fun x => (tick x).events) =
        ["c000: LD (0xc000), A"] ∧
      (m.after 36).cpu.last = (tick m).state.cpu.last ∧
      Recorded (m.after 36) (tick (m.after 36)).state.cpu.last := by
  intro bus m ms
  obtain ⟨hd, hs, hv, hms⟩ : dispatches (tick m).events = [.vblank] ∧
      (tick m).state.bus.shown 0xc000 = 0 ∧ (tick m).value = true ∧
      (∀ x ∈ (List.range 35).map fun n => m.after (n + 1), (tick x).value = false) := by
    decide +kernel
  obtain ⟨htrace, hp, hf⟩ : ((ms.filter fun x => (tick x).value).map fun x =>
        hexWord x.cpu.registers.pc ++ ": " ++ x.listing) = ["c000: LD (0xc000), A"] ∧
      (m.after 36).cpu.isPanicked = false ∧
      (tick (m.after 36)).state.cpu.fault = some (.removedOpcode 0x40 0xfd) := by
    decide +kernel
  obtain ⟨hrecorded, htraced, hfault, hwaited⟩ := trace_tells_truth
  have hrun : Run m ms (m.after 36) := run_after m 36
  obtain ⟨-, -, -, hlast, -⟩ := hfault (m.after 36) _ hp hf
  exact ⟨hd, hs, hrecorded m hv, (htraced m ms _ hrun).trans htrace,
    hwaited m _ _ hrun hv hms hp, hlast nofun⟩

end Machine

end GameBoy
