import GameBoy.Proofs.Bus.Chronicle

/-!
# The serial line

A byte is sent by a write to the serial control register that asks for it, and by nothing else, so that
the transcript of a bus is a record of its chronicle (`transcript_replay`). What is printed is the part of
it that was sent while the echo was on (`echoed_replay`).
-/

namespace GameBoy

/-- The bytes that events copy to the terminal. -/
def echoed (es : List Event) : List UInt8 :=
  es.filterMap fun
    | .echo byte => some byte
    | _ => none

/-- What two stretches of events echo is echoed one after the other. -/
lemma echoed_append (es es' : List Event) : echoed (es ++ es') = echoed es ++ echoed es' :=
  List.filterMap_append

namespace Bus

/-- The byte that an incident sends over the serial line. A write to the control register of a value with
the top bit set sends the byte that the data register holds, if it is a visible character or a blank. -/
def Incident.sent? (bus : Bus) : Incident → Option UInt8
  | .write addr v =>
    let held := bus.map.get 0xff01
    if addr = 0xff02 ∧ v &&& 0x80 ≠ 0 ∧ 0x20 ≤ held ∧ held ≤ 0x7e then some held else none
  | _ => none

/-- The byte that an incident copies to the terminal. -/
def Incident.printed? (bus : Bus) (i : Incident) : Option UInt8 :=
  if bus.echo then i.sent? bus else none

/-! ## One incident -/

/-- An incident that sends nothing prints nothing. -/
lemma Incident.printed?_of_none {i : Incident} {bus : Bus} (h : i.sent? bus = none) :
    i.printed? bus = none := by
  rw [printed?, h, ite_self]

/-- When a value in the control register sends the byte that is held. -/
lemma sends_iff (bus : Bus) (v : UInt8) :
    bus.sends v = true ↔ v &&& 0x80 ≠ 0 ∧ 0x20 ≤ bus.map.get 0xff01 ∧ bus.map.get 0xff01 ≤ 0x7e := by
  have hio : bus.io .sb = bus.map.get 0xff01 := rfl
  simp only [sends, isPrintable, hio, Bool.and_eq_true, bne_iff_ne, decide_eq_true_eq]

/-- Writes elsewhere send nothing. -/
lemma sent?_of_ne (bus : Bus) {addr : UInt16} (v : UInt8) (h : addr ≠ 0xff02) :
    (Incident.write addr v).sent? bus = none :=
  if_neg fun ⟨e, _⟩ => h e

/-- A write to the control register sends the byte of the data register, if it sends any. -/
lemma sent?_control (bus : Bus) (v : UInt8) :
    (Incident.write 0xff02 v).sent? bus = if bus.sends v then some (bus.io .sb) else none := by
  simp only [Incident.sent?, sends_iff, true_and]
  rfl

/-- Of the registers only the control register adds to what was sent. -/
lemma write_register_sent (bus : Bus) (r : IoRegister) (v : UInt8) :
    (write r.addr v bus).state.sent =
      if r = .sc ∧ bus.sends v then bus.io .sb :: bus.sent else bus.sent := by
  rw [write_register]
  split <;> rfl

/-- A transfer echoes the byte that it sends, if the echo is on. -/
lemma transfer_echoed (bus : Bus) (v : UInt8) :
    echoed (transfer v bus).events = if bus.sends v ∧ bus.echo then [bus.io .sb] else [] := by
  simp +instances only [transfer, Action.bind_apply, Action.get_apply, Action.ite_apply]
  change echoed ([] ++ (if bus.sends v then _ else _ : Outcome Bus Unit).events) = _
  cases bus.sends v with
  | false => rfl
  | true => cases bus.echo <;> rfl

/-- Acting on any other register copies nothing to the terminal. -/
lemma writeIo_echoed (bus : Bus) {r : IoRegister} (v : UInt8) (h : r ≠ .sc) :
    echoed (writeIo r v bus).events = [] := by
  cases r with
  | sc => exact absurd rfl h
  | p1 =>
    cases h : Joypad.asksFor v .directions <;> cases h' : Joypad.asksFor v .buttons <;>
      simp [writeIo, selectKeys, h, h', echoed]
  | boot =>
    by_cases hv : v = 1 <;> cases hb : bus.bootMapped <;>
      simp [writeIo, disableBoot, hv, hb, echoed]
  | _ => rfl

/-- A reading echoes nothing. -/
lemma read_echoed (bus : Bus) (addr : UInt16) : echoed (read addr bus).events = [] := by
  have hio (r : IoRegister) : echoed (readIo r bus).events = [] := by
    cases r with
    | ly => cases h : bus.scanline.entersBlank <;> simp [readIo, readLine, h, echoed]
    | _ => rfl
  unfold read
  rw [Action.bind_apply, Action.get_apply]
  cases IoRegister.ofAddr? addr with
  | none => rfl
  | some r =>
    simp only [Action.bind_apply, echoed_append, hio]
    rfl

/-- A write to a register copies to the terminal what the register does. -/
lemma write_register_echoed (bus : Bus) (r : IoRegister) (v : UInt8) :
    echoed (write r.addr v bus).events = echoed (writeIo r v bus).events := by
  have e : IoRegister.ofAddr? r.addr = some r := IoRegister.ofAddr?_eq_some_iff.mpr rfl
  rw [write_eq_through_register, through, e]
  change echoed ((writeIo r v bus).events ++ _) = _
  rw [echoed_append]
  cases r <;> exact List.append_nil _

/-- A write anywhere else sends nothing, whether it goes through or not. -/
lemma write_sends_none (bus : Bus) {addr : UInt16} (v : UInt8) (haddr : addr ≠ 0xff02) :
    (write addr v bus).state.sent = bus.sent ∧ echoed (write addr v bus).events = [] := by
  cases e : IoRegister.ofAddr? addr with
  | some r =>
    obtain rfl := IoRegister.ofAddr?_eq_some_iff.mp e
    have hr : r ≠ .sc := by
      rintro rfl
      exact haddr rfl
    rw [write_register_sent, if_neg fun ⟨e, _⟩ => hr e, write_register_echoed]
    exact ⟨rfl, writeIo_echoed bus v hr⟩
  | none =>
    obtain h | ⟨h, hr, hs⟩ | ⟨h, hs⟩ := write_cases bus addr
    · rw [write_select v h]
      exact ⟨rfl, by simp [write, h, echoed]⟩
    · rw [write_refuse v h hr hs]
      exact ⟨rfl, by simp [write, h, hr, hs, echoed]⟩
    · rw [write_eq_through v h hs, through, e]
      exact ⟨rfl, rfl⟩

/-- A write sends and prints what it is said to. -/
lemma write_sends (bus : Bus) (addr : UInt16) (v : UInt8) :
    (write addr v bus).state.sent = ((Incident.write addr v).sent? bus).toList ++ bus.sent ∧
      echoed (write addr v bus).events = ((Incident.write addr v).printed? bus).toList := by
  by_cases haddr : addr = 0xff02
  · subst haddr
    have hstate : (write 0xff02 v bus).state.sent = _ := write_register_sent bus .sc v
    have hechoed : echoed (write 0xff02 v bus).events = _ :=
      (write_register_echoed bus .sc v).trans (transfer_echoed bus v)
    rw [Incident.printed?, sent?_control, hstate, hechoed]
    cases bus.sends v <;> cases bus.echo <;> exact ⟨rfl, rfl⟩
  · rw [Incident.printed?_of_none (sent?_of_ne bus v haddr), sent?_of_ne bus v haddr]
    exact write_sends_none bus v haddr

/-- Every incident sends and prints what it is said to; only writes send anything. -/
lemma Incident.perform_sends (i : Incident) (bus : Bus) :
    (i.perform bus).state.sent = (i.sent? bus).toList ++ bus.sent ∧
      echoed (i.perform bus).events = (i.printed? bus).toList := by
  cases i with
  | write addr v => exact write_sends bus addr v
  | read addr =>
    obtain ⟨_, _, e, -⟩ := read_reaches bus addr
    rw [printed?_of_none rfl]
    change (Bus.read addr bus).state.sent = bus.sent ∧ echoed ((Bus.read addr bus).events ++ []) = []
    rw [e, List.append_nil]
    exact ⟨rfl, read_echoed bus addr⟩
  | adjust a =>
    obtain ⟨_, _, _, _, _, _, _, e, -⟩ := adjust_reaches a bus
    rw [printed?_of_none rfl]
    change (a.apply bus).sent = bus.sent ∧ _
    rw [e]
    exact ⟨rfl, rfl⟩
  | note | insert | strict =>
    rw [printed?_of_none rfl]
    exact ⟨rfl, rfl⟩

/-- An incident adds what it sends to the transcript. -/
lemma Incident.perform_transcript (i : Incident) (bus : Bus) :
    (i.perform bus).state.transcript = bus.transcript ++ (i.sent? bus).toList := by
  rw [transcript, transcript, (i.perform_sends bus).1, List.reverse_append]
  cases i.sent? bus <;> rfl

/-! ## Chronicles -/

/-- The transcript of a bus is a record of what was sent. -/
theorem transcript_replay (chronicle : List Incident) (bus : Bus) :
    (replay chronicle bus).state.transcript =
      bus.transcript ++ record Incident.sent? chronicle bus := by
  induction chronicle generalizing bus with
  | nil => exact (List.append_nil _).symm
  | cons i chronicle ih =>
    refine (ih (i.perform bus).state).trans ?_
    rw [i.perform_transcript, record, List.append_assoc]

/-- What was printed is a record of what was sent under the echo. -/
theorem echoed_replay (chronicle : List Incident) (bus : Bus) :
    echoed (replay chronicle bus).events = record Incident.printed? chronicle bus := by
  induction chronicle generalizing bus with
  | nil => rfl
  | cons i chronicle ih =>
    rw [replay, Action.bind_apply, echoed_append, (i.perform_sends bus).2, ih, record]

/-! ## The echo -/

/-- Whether an incident leaves the echo as it is. -/
def Incident.KeepsEcho : Incident → Prop
  | adjust (.echo _) => False
  | _ => True

/-- A plain incident leaves the echo as it is. -/
lemma Incident.IsPlain.keepsEcho {i : Incident} (h : i.IsPlain) : i.KeepsEcho := by
  cases i with
  | adjust a =>
    cases a with
    | echo => exact h
    | flags | keys | boot | install | scratch | store | patch => trivial
  | read | write | note | insert | strict => trivial

/-- The echo stays as it is until it is switched. -/
lemma Incident.perform_echo {i : Incident} (h : i.KeepsEcho) (bus : Bus) :
    (i.perform bus).state.echo = bus.echo := by
  cases i with
  | read addr =>
    obtain ⟨_, _, e, -⟩ := read_reaches bus addr
    change (Bus.read addr bus).state.echo = bus.echo
    rw [e]
  | write addr v =>
    obtain ⟨_, _, _, _, _, _, e, -⟩ := write_reaches bus addr v
    change (Bus.write addr v bus).state.echo = bus.echo
    rw [e]
  | adjust a =>
    obtain ⟨_, _, _, _, _, _, _, e, hecho⟩ := adjust_reaches a bus
    change (a.apply bus).echo = bus.echo
    rw [e]
    refine hecho fun on => ?_
    rintro rfl
    exact h
  | note | insert | strict => rfl

/-- The echo stays as it is, the transcript grows, and under the echo it grows by what is printed. -/
structure Transcribed (bus : Bus) (es : List Event) (bus' : Bus) : Prop where
  echo : bus'.echo = bus.echo
  grows : ∃ sent, bus'.transcript = bus.transcript ++ sent ∧
    echoed es = if bus.echo then sent else []

/-- Transcripts compose. -/
lemma transcribed_composes : Composes Transcribed where
  refl bus := ⟨rfl, [], (List.append_nil _).symm, (ite_self _).symm⟩
  trans h h' := by
    obtain ⟨hecho, sent, hsent, hes⟩ := h
    obtain ⟨hecho', sent', hsent', hes'⟩ := h'
    refine ⟨hecho'.trans hecho, sent ++ sent', ?_, ?_⟩
    · rw [hsent', hsent, List.append_assoc]
    · rw [echoed_append, hes, hes', hecho]
      split <;> rfl

/-- Whatever leaves the echo as it is does so. -/
lemma Chronicled.transcribed {bus bus' : Bus} {es : List Event}
    (h : Chronicled Incident.KeepsEcho bus es bus') : Transcribed bus es bus' := by
  refine h.ensures transcribed_composes fun i hi bus => ⟨i.perform_echo hi bus, ?_⟩
  refine ⟨(i.sent? bus).toList, i.perform_transcript bus, ?_⟩
  rw [(i.perform_sends bus).2, Incident.printed?]
  cases bus.echo <;> rfl

/-- Loading images sends nothing. -/
lemma Chronicled.transcript_of_isLoading {bus bus' : Bus} {es : List Event}
    (h : Chronicled Incident.IsLoading bus es bus') :
    bus'.transcript = bus.transcript ∧ bus'.echo = bus.echo ∧ echoed es = [] := by
  refine h.ensures (R := fun bus es bus' =>
    bus'.transcript = bus.transcript ∧ bus'.echo = bus.echo ∧ echoed es = []) ⟨?_, ?_⟩ ?_
  · exact fun _ => ⟨rfl, rfl, rfl⟩
  · rintro _ _ _ _ _ ⟨ht, he, hes⟩ ⟨ht', he', hes'⟩
    exact ⟨ht'.trans ht, he'.trans he, by rw [echoed_append, hes, hes']; rfl⟩
  · intro i hi bus
    cases i with
    | note | insert => exact ⟨rfl, rfl, rfl⟩
    | adjust a =>
      cases a with
      | install => exact ⟨rfl, rfl, rfl⟩
      | flags | keys | boot | echo | scratch | store | patch => exact hi.elim
    | read | write | strict => exact hi.elim

end Bus

end GameBoy
