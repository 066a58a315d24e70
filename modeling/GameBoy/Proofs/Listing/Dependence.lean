import GameBoy.Proofs.Listing.Assembly
import GameBoy.Proofs.Listing.Codes

/-!
# What a mnemonic depends on

Only the opcodes that stand for nothing have an unknown text (`mnemonic_eq_unknown_iff`). Two opcodes
with what stands behind them have the same text at an address only if they are the same opcode with
the same immediates, as far as the opcode has any (`mnemonic_eq_iff`). So the text of an opcode depends
on the byte or the word behind it exactly if the opcode calls for it (`dependsOnByte_iff`,
`dependsOnWord_iff`).
-/

namespace GameBoy

open Listing Text Encoding

namespace Encoding

/-- Whether a form carries a byte. -/
def takesByte : Encoding → Bool
  | withByte _ => true
  | _ => false

/-- Whether a form carries a word. -/
def takesWord : Encoding → Bool
  | withWord _ => true
  | _ => false

end Encoding

namespace Listing

variable {addr : UInt16} {opcode opcode' byte byte' : UInt8} {word word' : UInt16}

/-- Whether the text of an opcode shows the byte behind it. -/
def DependsOnByte (addr : UInt16) (opcode : UInt8) : Prop :=
  ∃ byte byte' word, mnemonic addr opcode byte word ≠ mnemonic addr opcode byte' word

/-- Whether the text of an opcode shows the word behind it. -/
def DependsOnWord (addr : UInt16) (opcode : UInt8) : Prop :=
  ∃ byte word word', mnemonic addr opcode byte word ≠ mnemonic addr opcode byte word'

/-! ## Unknown instructions -/

/-- What is printed of an opcode that stands for nothing names no instruction. -/
lemma ofText_unknown (digits : String) :
    (Line.ofText ("unknown instruction 0x" ++ digits)).operation = "unknown" := by
  have hchars : (("unknown instruction 0x" ++ digits).toList.filter (· != ',')) =
      "unknown".toList ++ ' ' :: ("instruction 0x" ++ digits).toList.filter (· != ',') := by
    rw [String.toList_append, String.toList_append, List.filter_append, List.filter_append]
    rfl
  have hword : IsWord "unknown" := by decide
  rw [Line.ofText, hchars, List.splitOn, List.splitOnP_append_cons_of_forall_mem hword.forall _ rfl]
  rfl

/-- No operation has that name. -/
lemma line_operation_ne (addr : UInt16) (i : Instruction) : (i.line addr).operation ≠ "unknown" := by
  cases i with
  | alu op | aluImmediate op | shiftA op | shift op =>
    cases op <;> simp [Instruction.line, AluOp.line, ShiftOp.text]
  | _ => simp [Instruction.line, transferLine]

/-- A text that begins so is that of an opcode that stands for nothing. -/
lemma mnemonic_eq_unknown_iff {digits : String} :
    mnemonic addr opcode byte word = "unknown instruction 0x" ++ digits ↔
      digits = hexByte opcode ∧ (ofOpcode opcode).complete byte word = none := by
  rw [mnemonic_eq]
  generalize (ofOpcode opcode).complete byte word = i?
  cases i? with
  | none =>
    dsimp only
    unfold unknownText
    rw [String.append_right_inj, eq_comm, and_iff_left rfl]
  | some i =>
    refine iff_of_false (fun e => ?_) nofun
    have hi : i.text addr = "unknown instruction 0x" ++ digits := e
    apply line_operation_ne addr i
    rw [← ofText_text, hi, ofText_unknown]

/-! ## Equal texts -/

/-- Immediates that a form does not carry make no difference to the instruction. -/
lemma complete_congr {encoding : Encoding} (hb : encoding.takesByte = true → byte = byte')
    (hw : encoding.takesWord = true → word = word') :
    encoding.complete byte word = encoding.complete byte' word' := by
  cases encoding with
  | unknown | removed | bare i => rfl
  | withByte f => rw [hb rfl]; rfl
  | withWord f => rw [hw rfl]; rfl

/-- What an opcode does not call for does not show. -/
lemma mnemonic_congr (hb : (ofOpcode opcode).takesByte = true → byte = byte')
    (hw : (ofOpcode opcode).takesWord = true → word = word') :
    mnemonic addr opcode byte word = mnemonic addr opcode byte' word' := by
  rw [mnemonic_eq, mnemonic_eq, complete_congr hb hw]

/-- The immediates that a form carries are told by their bytes. -/
lemma immediates_inj {encoding : Encoding}
    (h : encoding.immediates byte word = encoding.immediates byte' word') :
    (encoding.takesByte = true → byte = byte') ∧ (encoding.takesWord = true → word = word') := by
  cases encoding with
  | unknown | removed | bare i => exact ⟨nofun, nofun⟩
  | withByte f => exact ⟨fun _ => List.head_eq_of_cons_eq h, nofun⟩
  | withWord f =>
    obtain ⟨hlow, hhigh⟩ : Word.low word = Word.low word' ∧ Word.high word = Word.high word' := by
      simpa [immediates, Word.bytes] using h
    refine ⟨nofun, fun _ => ?_⟩
    rw [← Word.join_high_low word, hlow, hhigh, Word.join_high_low]

/-- Two hexadecimal digits tell a byte. -/
lemma hexByte_injective : Function.Injective hexByte := by
  intro b b' h
  have hpart := ofChars_byte b
  rw [h, ofChars_byte] at hpart
  exact (Part.byte.inj hpart).symm

/-- A form without an instruction carries no immediates. -/
lemma immediates_of_complete_eq_none {encoding : Encoding}
    (h : encoding.complete byte word = none) : encoding.immediates byte word = [] := by
  cases encoding with
  | unknown | removed => rfl
  | bare i | withByte f | withWord f => cases h

/-- The text of an opcode that stands for nothing is the text of no other. -/
lemma eq_of_complete_eq_none
    (h : mnemonic addr opcode byte word = mnemonic addr opcode' byte' word')
    (hnone : (ofOpcode opcode').complete byte' word' = none) :
    opcode = opcode' ∧ (ofOpcode opcode).complete byte word = none := by
  have hunknown : mnemonic addr opcode' byte' word' =
      "unknown instruction 0x" ++ hexByte opcode' := mnemonic_eq_unknown_iff.mpr ⟨rfl, hnone⟩
  obtain ⟨hdigits, hnone'⟩ := mnemonic_eq_unknown_iff.mp (h.trans hunknown)
  exact ⟨(hexByte_injective hdigits).symm, hnone'⟩

/-- Equal texts come from equal bytes. -/
lemma bytes_eq_of_mnemonic_eq
    (h : mnemonic addr opcode byte word = mnemonic addr opcode' byte' word') :
    opcode :: (ofOpcode opcode).immediates byte word =
      opcode' :: (ofOpcode opcode').immediates byte' word' := by
  cases hi : (ofOpcode opcode).complete byte word with
  | none =>
    obtain ⟨rfl, hi'⟩ := eq_of_complete_eq_none h.symm hi
    rw [immediates_of_complete_eq_none hi, immediates_of_complete_eq_none hi']
  | some i =>
    cases hi' : (ofOpcode opcode').complete byte' word' with
    | none =>
      obtain ⟨-, hnone⟩ := eq_of_complete_eq_none h hi'
      cases hnone.symm.trans hi
    | some i' =>
      have htext : i.text addr = i'.text addr := by simpa only [mnemonic_eq, hi, hi'] using h
      rw [← code_of_complete hi, text_injective addr htext, code_of_complete hi']

/-- Texts are equal exactly if the opcodes are, and the immediates as far as there are any. -/
lemma mnemonic_eq_iff :
    mnemonic addr opcode byte word = mnemonic addr opcode' byte' word' ↔
      opcode = opcode' ∧ ((ofOpcode opcode).takesByte = true → byte = byte') ∧
        ((ofOpcode opcode).takesWord = true → word = word') := by
  constructor
  · intro h
    have hbytes := bytes_eq_of_mnemonic_eq h
    obtain rfl := List.head_eq_of_cons_eq hbytes
    exact ⟨rfl, immediates_inj (List.tail_eq_of_cons_eq hbytes)⟩
  · rintro ⟨rfl, hb, hw⟩
    exact mnemonic_congr hb hw

/-! ## Immediates -/

/-- The text depends on the byte if and only if the form carries one. -/
lemma dependsOnByte_iff : DependsOnByte addr opcode ↔ (ofOpcode opcode).takesByte = true := by
  constructor
  · rintro ⟨byte, byte', word, hne⟩
    by_contra ht
    exact hne (mnemonic_congr (fun h => absurd h ht) fun _ => rfl)
  · intro ht
    refine ⟨0, 1, 0, fun e => ?_⟩
    obtain ⟨-, hbyte, -⟩ := mnemonic_eq_iff.mp e
    exact absurd (hbyte ht) (by decide)

/-- The text depends on the word if and only if the form carries one. -/
lemma dependsOnWord_iff : DependsOnWord addr opcode ↔ (ofOpcode opcode).takesWord = true := by
  constructor
  · rintro ⟨byte, word, word', hne⟩
    by_contra ht
    exact hne (mnemonic_congr (fun _ => rfl) fun h => absurd h ht)
  · intro ht
    refine ⟨0, 0, 1, fun e => ?_⟩
    obtain ⟨-, -, hword⟩ := mnemonic_eq_iff.mp e
    exact absurd (hword ht) (by decide)

instance : Decidable (DependsOnByte addr opcode) := decidable_of_iff _ dependsOnByte_iff.symm

instance : Decidable (DependsOnWord addr opcode) := decidable_of_iff _ dependsOnWord_iff.symm

/-- How many bytes an instruction has, as its text shows it: the opcode and what it depends on. -/
def size (addr : UInt16) (opcode : UInt8) : Nat :=
  1 + (if DependsOnByte addr opcode then 1 else 0) + if DependsOnWord addr opcode then 2 else 0

end Listing

end GameBoy
