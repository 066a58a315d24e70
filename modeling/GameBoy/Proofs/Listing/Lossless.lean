import GameBoy.Proofs.Listing.Agreement

/-!
# What texts tell

The text at an address tells an opcode and what belongs to it. All encodings have texts of their own
(`Form.text_inj`), and the text of a relative jump tells its target and so how far it leads
(`listing_lossless`).
-/

namespace GameBoy.Listing

open Text Encoding

/-- The opcodes with a byte behind them: an immediate, a displacement, an offset in the last page, or the
second byte of an extended instruction. -/
def byteOpcodes : List UInt8 :=
  [0x06, 0x0e, 0x16, 0x1e, 0x26, 0x2e, 0x36, 0x3e, 0xc6, 0xce, 0xd6, 0xde, 0xe6, 0xee, 0xf6, 0xfe,
    0x18, 0x20, 0x28, 0x30, 0x38, 0xe8, 0xf8, 0xe0, 0xf0, 0xcb]

/-- The opcodes with a word behind them. -/
def wordOpcodes : List UInt8 :=
  [0x01, 0x11, 0x21, 0x31, 0x08, 0xea, 0xfa, 0xc2, 0xca, 0xd2, 0xda, 0xc3, 0xc4, 0xcc, 0xd4, 0xdc,
    0xcd]

/-- The opcodes of relative jumps. -/
def relativeJumps : List UInt8 := [0x18, 0x20, 0x28, 0x30, 0x38]

variable {addr : UInt16} {opcode opcode' byte byte' : UInt8} {word word' : UInt16}

/-- The opcodes that a byte follows. -/
lemma takesByte_iff (opcode : UInt8) :
    (ofOpcode opcode).takesByte = true ↔ opcode ∈ byteOpcodes := by
  revert opcode
  exact Word.forall_byte (by decide +kernel)

/-- The opcodes that a word follows. -/
lemma takesWord_iff (opcode : UInt8) :
    (ofOpcode opcode).takesWord = true ↔ opcode ∈ wordOpcodes := by
  revert opcode
  exact Word.forall_byte (by decide +kernel)

/-! ## Encodings -/

/-- An encoding: an opcode, or the byte that extends the prefix. -/
inductive Form where
  | base (opcode : UInt8)
  | extended (byte : UInt8)
  deriving DecidableEq, Repr

namespace Form

/-- All bytes. -/
def bytes : List UInt8 := (List.range 256).map UInt8.ofNat

/-- The encodings of instructions. -/
def all : List Form :=
  (bytes.filter fun opcode => opcode != 0xcb && opcode ∉ lacking).map base ++ bytes.map extended

/-- The first byte of a form. -/
def firstByte : Form → UInt8
  | base opcode => opcode
  | extended _ => 0xcb

/-- The byte behind the opcode, which belongs to the encoding if the opcode is the prefix. -/
def byteBehind (byte : UInt8) : Form → UInt8
  | base _ => byte
  | extended second => second

/-- The text of an encoding at an address, with the byte and the word that may follow it. -/
def text (addr : UInt16) (byte : UInt8) (word : UInt16) (f : Form) : String :=
  mnemonic addr f.firstByte (f.byteBehind byte) word

/-- Every byte is listed once. -/
lemma bytes_nodup : bytes.Nodup := by
  have hvalues : bytes.map UInt8.toNat = List.range 256 := by decide +kernel
  exact .of_map UInt8.toNat (hvalues ▸ List.nodup_range)

/-- Every form is listed once. -/
lemma all_nodup : all.Nodup := by
  refine List.nodup_append.mpr ⟨?_, ?_, ?_⟩
  · exact (bytes_nodup.filter _).map fun _ _ => base.inj
  · exact bytes_nodup.map fun _ _ => extended.inj
  · intro f hf f' hf' e
    obtain ⟨_, -, rfl⟩ := List.mem_map.mp hf
    obtain ⟨_, -, rfl⟩ := List.mem_map.mp hf'
    cases e

/-- The prefix stands for no form itself. -/
lemma ne_prefix_of_mem {opcode : UInt8} (h : base opcode ∈ all) : opcode ≠ 0xcb := by
  rintro rfl
  simp [all] at h

/-- Encodings of instructions are told apart by their texts, whatever stands behind them. -/
lemma text_inj {f f' : Form} (hf : f ∈ all) (hf' : f' ∈ all)
    (h : f.text addr byte word = f'.text addr byte' word') : f = f' := by
  obtain ⟨hop, hbyte, -⟩ := mnemonic_eq_iff.mp h
  cases f with
  | base opcode =>
    cases f' with
    | base opcode' => exact congrArg base hop
    | extended second' => exact absurd hop (ne_prefix_of_mem hf)
  | extended second =>
    cases f' with
    | base opcode' => exact absurd hop.symm (ne_prefix_of_mem hf')
    | extended second' => exact congrArg extended (hbyte ((takesByte_iff 0xcb).mpr (by decide)))

end Form

/-! ## Relative jumps -/

/-- The text of a relative jump shows its target. -/
lemma target_of_relativeJump (addr : UInt16) (byte : UInt8) (word : UInt16)
    (h : opcode ∈ relativeJumps) :
    ∃ cc, (Line.ofText (mnemonic addr opcode byte word)).target =
      some (cc, relativeTarget addr byte) := by
  obtain ⟨cc, hop⟩ : ∃ cc, ofOpcode opcode = withByte (.jumpRelative cc) := by
    fin_cases h <;> exact ⟨_, rfl⟩
  have htext : mnemonic addr opcode byte word = Instruction.text addr (.jumpRelative cc byte) := by
    rw [mnemonic_eq, hop]
    rfl
  refine ⟨cc, ?_⟩
  rw [htext, ofText_text]
  cases cc with
  | none => rfl
  | some cc => cases cc <;> rfl

/-- Listings lose nothing. At any address the texts of two opcodes, with the byte and the word behind
each, are equal exactly if the opcodes are, and so are the byte and the word where the opcode has
one; what it does not have does not show. So the five hundred encodings have five hundred texts,
whatever stands behind them. The text of a relative jump shows its target, from which the byte behind
the opcode is found again. -/
theorem listing_lossless (addr : UInt16) :
    (∀ (opcode opcode' byte byte' : UInt8) (word word' : UInt16),
      mnemonic addr opcode byte word = mnemonic addr opcode' byte' word' ↔
        opcode = opcode' ∧ (opcode ∈ byteOpcodes → byte = byte') ∧
          (opcode ∈ wordOpcodes → word = word')) ∧
    (Form.all.length = 500 ∧ ∀ (byte : Form → UInt8) (word : Form → UInt16),
      (Form.all.map fun f => f.text addr (byte f) (word f)).Nodup) ∧
    ∀ opcode ∈ relativeJumps, ∀ byte word, ∃ cc target,
      (Line.ofText (mnemonic addr opcode byte word)).target = some (cc, target) ∧
        byte = Word.low (target - (addr + 2)) := by
  refine ⟨fun opcode opcode' byte byte' word word' => ?_, ⟨?_, fun byte word => ?_⟩,
    fun opcode h byte word => ?_⟩
  · rw [mnemonic_eq_iff, takesByte_iff, takesWord_iff]
  · decide +kernel
  · exact Form.all_nodup.map_on fun f hf f' hf' h => Form.text_inj hf hf' h
  · obtain ⟨cc, ht⟩ := target_of_relativeJump addr byte word h
    exact ⟨cc, _, ht, (displacementTo_relativeTarget addr byte).symm⟩

/-- A relative jump over the end of the address space. -/
theorem listing_lossless_wrapped :
    mnemonic 0xfff0 0x20 0x7f 0 = "JR NZ, 0x0071" ∧ 0x20 ∈ relativeJumps ∧
      ∃ cc target, (Line.ofText (mnemonic 0xfff0 0x20 0x7f 0)).target = some (cc, target) ∧
        0x7f = Word.low (target - (0xfff0 + 2)) := by
  have hjump : 0x20 ∈ relativeJumps := by decide
  obtain ⟨-, -, htarget⟩ := listing_lossless 0xfff0
  exact ⟨by decide +kernel, hjump, htarget 0x20 hjump 0x7f 0⟩

end GameBoy.Listing
