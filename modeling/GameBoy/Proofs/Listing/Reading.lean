import GameBoy.Proofs.Listing.Texts

/-!
# Reading listings

A line of a listing is an operation and the operands behind it, taken from the text alone: words
between blanks, numbers by their digits, parentheses around what addresses a cell. The text of every
instruction reads back as the operation and the operands that the instruction carries
(`ofText_text`).
-/

namespace GameBoy.Listing

open Text

/-! ## Lines and their parts -/

/-- What can stand at the place of an operand. -/
inductive Part where
  | name (s : String)
  | byte (n : UInt8)
  | word (n : UInt16)
  /-- A bit number or a displacement, in two's complement. -/
  | decimal (n : UInt8)
  /-- The stack pointer with a displacement. -/
  | displaced (n : UInt8)
  /-- The memory cell at an address. -/
  | cell (address : Part)
  deriving DecidableEq, Repr

/-- A line of a listing. -/
structure Line where
  operation : String
  parts : List Part
  deriving DecidableEq, Repr

/-- The value of a hexadecimal digit. -/
def digitValue (c : Char) : Nat := if c.isDigit then c.toNat - 48 else c.toNat - 87

/-- The byte with two hexadecimal digits. -/
def ofHexadecimal (c c' : Char) : UInt8 := UInt8.ofNat (16 * digitValue c + digitValue c')

/-- The byte with some decimal digits. -/
def ofDecimal (cs : List Char) : UInt8 :=
  UInt8.ofNat (cs.foldl (fun n c => 10 * n + digitValue c) 0)

/-- Reads what stands outside of parentheses, or inside. -/
def Part.ofWord : List Char → Part
  | ['0', 'x', a, b] => byte (ofHexadecimal a b)
  | ['0', 'x', a, b, c, d] => word (Word.join (ofHexadecimal a b) (ofHexadecimal c d))
  | 'S' :: 'P' :: '+' :: cs => displaced (ofDecimal cs)
  | 'S' :: 'P' :: '-' :: cs => displaced (-ofDecimal cs)
  | '-' :: cs => decimal (-ofDecimal cs)
  | cs => if cs.all Char.isDigit then decimal (ofDecimal cs) else name (String.ofList cs)

/-- Reads an operand, in parentheses or not. -/
def Part.ofChars : List Char → Part
  | '(' :: cs => cell (ofWord cs.dropLast)
  | cs => ofWord cs

/-- Reads a line. Commas between the operands say nothing that the blanks do not. -/
def Line.ofText (s : String) : Line :=
  match (s.toList.filter (· != ',')).splitOn ' ' with
  | [] => { operation := "", parts := [] }
  | w :: ws => { operation := String.ofList w, parts := ws.map Part.ofChars }

/-! ## The lines of instructions -/

end GameBoy.Listing

namespace GameBoy

open Listing

/-- What is printed of an operand. -/
def Operand.part : Operand → Part
  | .reg r => .name r.name
  | .atHl => .cell (.name "HL")

/-- What is printed of a pointer. -/
def Pointer.part : Pointer → Part
  | .bc => .cell (.name "BC")
  | .de => .cell (.name "DE")
  | .hlInc => .cell (.name "HL+")
  | .hlDec => .cell (.name "HL-")

/-- The operation, and the accumulator where it is printed. -/
def AluOp.line (op : AluOp) (part : Part) : Line :=
  match op with
  | .add => ⟨"ADD", [.name "A", part]⟩
  | .adc => ⟨"ADC", [.name "A", part]⟩
  | .sub => ⟨"SUB", [part]⟩
  | .sbc => ⟨"SBC", [.name "A", part]⟩
  | .and => ⟨"AND", [part]⟩
  | .xor => ⟨"XOR", [part]⟩
  | .or => ⟨"OR", [part]⟩
  | .cp => ⟨"CP", [part]⟩

/-- The line of a transfer of control, with the condition first. -/
def transferLine (operation : String) (cc : Option Condition) (parts : List Part) : Line where
  operation := operation
  parts := (cc.toList.map fun cc => .name cc.text) ++ parts

/-- What is printed of an instruction that stands at `addr`. -/
def Instruction.line (addr : UInt16) : Instruction → Line
  | nop => ⟨"NOP", []⟩
  | stop => ⟨"STOP", []⟩
  | halt => ⟨"HALT", []⟩
  | di => ⟨"DI", []⟩
  | ei => ⟨"EI", []⟩
  | load dst src => ⟨"LD", [dst.part, src.part]⟩
  | loadImmediate dst n => ⟨"LD", [dst.part, .byte n]⟩
  | storeIndirect p => ⟨"LD", [p.part, .name "A"]⟩
  | loadIndirect p => ⟨"LD", [.name "A", p.part]⟩
  | storeHigh n => ⟨"LDH", [.cell (.word (Word.join 0xff n)), .name "A"]⟩
  | loadHigh n => ⟨"LDH", [.name "A", .cell (.word (Word.join 0xff n))]⟩
  | storeHighC => ⟨"LD", [.cell (.name "C"), .name "A"]⟩
  | loadHighC => ⟨"LD", [.name "A", .cell (.name "C")]⟩
  | storeAbsolute nn => ⟨"LD", [.cell (.word nn), .name "A"]⟩
  | loadAbsolute nn => ⟨"LD", [.name "A", .cell (.word nn)]⟩
  | loadWord r nn => ⟨"LD", [.name r.name, .word nn]⟩
  | storeSp nn => ⟨"LD", [.cell (.word nn), .name "SP"]⟩
  | spFromHl => ⟨"LD", [.name "SP", .name "HL"]⟩
  | hlFromSp e => ⟨"LD", [.name "HL", .displaced e]⟩
  | push r => ⟨"PUSH", [.name r.name]⟩
  | pop r => ⟨"POP", [.name r.name]⟩
  | alu op src => op.line src.part
  | aluImmediate op n => op.line (.byte n)
  | inc r => ⟨"INC", [r.part]⟩
  | dec r => ⟨"DEC", [r.part]⟩
  | daa => ⟨"DAA", []⟩
  | cpl => ⟨"CPL", []⟩
  | scf => ⟨"SCF", []⟩
  | ccf => ⟨"CCF", []⟩
  | shiftA op => ⟨op.text ++ "A", []⟩
  | incWord r => ⟨"INC", [.name r.name]⟩
  | decWord r => ⟨"DEC", [.name r.name]⟩
  | addHl r => ⟨"ADD", [.name "HL", .name r.name]⟩
  | addSp e => ⟨"ADD", [.name "SP", .decimal e]⟩
  | jumpRelative cc e => transferLine "JR" cc [.word (relativeTarget addr e)]
  | jump cc nn => transferLine "JP" cc [.word nn]
  | jumpHl => ⟨"JP", [.name "HL"]⟩
  | call cc nn => transferLine "CALL" cc [.word nn]
  | ret cc => transferLine "RET" cc []
  | reti => ⟨"RETI", []⟩
  | restart target => ⟨"RST", [.byte target]⟩
  | shift op r => ⟨op.text, [r.part]⟩
  | bit i r => ⟨"BIT", [.decimal i, r.part]⟩
  | res i r => ⟨"RES", [.decimal i, r.part]⟩
  | set i r => ⟨"SET", [.decimal i, r.part]⟩

end GameBoy

namespace GameBoy.Listing

open Text

/-! ## Words -/

/-- A word has neither blanks nor commas. -/
def IsWord (s : String) : Prop := ∀ c ∈ s.toList, c != ',' && c != ' '

instance (s : String) : Decidable (IsWord s) := List.decidableBAll _ s.toList

/-- Two words make one word. -/
lemma IsWord.append {s t : String} (hs : IsWord s) (ht : IsWord t) : IsWord (s ++ t) := by
  intro c hc
  rw [String.toList_append, List.mem_append] at hc
  exact hc.elim (hs c) (ht c)

/-- A word has no comma. -/
lemma IsWord.filter {s : String} (h : IsWord s) : s.toList.filter (· != ',') = s.toList :=
  List.filter_eq_self.mpr fun c hc => (Bool.and_eq_true_iff.mp (h c hc)).1

/-- A word has no blank. -/
lemma IsWord.forall {s : String} (h : IsWord s) : ∀ c ∈ s.toList, (c == ' ') = false := by
  intro c hc
  have h := (Bool.and_eq_true_iff.mp (h c hc)).2
  simpa using h

/-- A line that is one word has no operands. -/
lemma ofText_word {op : String} (h : IsWord op) : Line.ofText op = ⟨op, []⟩ := by
  rw [Line.ofText, h.filter, List.splitOn, List.splitOnP_eq_singleton h.forall]
  simp

/-- A line with one operand. -/
lemma ofText_operand {s op x : String} {p : Part} (h : IsWord op) (hx : IsWord x)
    (hp : Part.ofChars x.toList = p) (e : s.toList = op.toList ++ ' ' :: x.toList) :
    Line.ofText s = ⟨op, [p]⟩ := by
  have hchars : s.toList.filter (· != ',') = op.toList ++ ' ' :: x.toList := by
    simp [e, h.filter, hx.filter]
  rw [Line.ofText, hchars, List.splitOn, List.splitOnP_append_cons_of_forall_mem h.forall _ rfl,
    List.splitOnP_eq_singleton hx.forall]
  simp [hp]

/-- A line with two operands. -/
lemma ofText_operands {s op x y : String} {p q : Part} (h : IsWord op) (hx : IsWord x)
    (hy : IsWord y) (hp : Part.ofChars x.toList = p) (hq : Part.ofChars y.toList = q)
    (e : s.toList = op.toList ++ ' ' :: (x.toList ++ ',' :: ' ' :: y.toList)) :
    Line.ofText s = ⟨op, [p, q]⟩ := by
  have hchars : s.toList.filter (· != ',') =
      op.toList ++ ' ' :: (x.toList ++ ' ' :: y.toList) := by
    simp [e, h.filter, hx.filter, hy.filter]
  rw [Line.ofText, hchars, List.splitOn, List.splitOnP_append_cons_of_forall_mem h.forall _ rfl,
    List.splitOnP_append_cons_of_forall_mem hx.forall _ rfl,
    List.splitOnP_eq_singleton hy.forall]
  simp [hp, hq]

/-! ## Numbers -/

/-- A byte is printed as one word. -/
lemma hexByte_isWord (n : UInt8) : IsWord (hexByte n) := by
  have hdigit : ∀ n < 16, digit n != ',' && digit n != ' ' := by decide
  have hn := n.toNat_lt
  intro c hc
  simp only [hexByte, String.toList_ofList, List.mem_cons, List.not_mem_nil, or_false] at hc
  obtain rfl | rfl := hc
  · exact hdigit _ (by omega)
  · exact hdigit _ (by omega)

/-- A word of the machine is printed as one word. -/
lemma hexWord_isWord (nn : UInt16) : IsWord (hexWord nn) :=
  (hexByte_isWord _).append (hexByte_isWord _)

/-- The digits of a number. -/
lemma toList_toString (n : Nat) : (toString n).toList = Nat.toDigits 10 n := by
  simp [toString, Nat.repr]

/-- A number is printed as one word. -/
lemma toString_isWord (n : Nat) : IsWord (toString n) := by
  rw [IsWord, toList_toString]
  intro c hc
  have hdigit := Nat.isDigit_of_mem_toDigits (by decide) (by decide) hc
  refine Bool.and_eq_true_iff.mpr ⟨bne_iff_ne.mpr ?_, bne_iff_ne.mpr ?_⟩
  · rintro rfl
    exact absurd hdigit (by decide)
  · rintro rfl
    exact absurd hdigit (by decide)

/-- A displacement is printed as one word. -/
lemma displacement_isWord (e : UInt8) : IsWord (displacement e) := by
  refine IsWord.append ?_ (toString_isWord (distance e))
  split <;> decide

/-- A displacement with its sign is printed as one word. -/
lemma signedDisplacement_isWord (e : UInt8) : IsWord (signedDisplacement e) := by
  refine IsWord.append ?_ (toString_isWord (distance e))
  split <;> decide

/-- The two digits of a byte read back as the byte. -/
lemma ofHexadecimal_digit (n : UInt8) :
    ofHexadecimal (digit (n.toNat / 16)) (digit (n.toNat % 16)) = n := by
  have hdigit : ∀ k < 16, digitValue (digit k) = k := by decide
  have hn := n.toNat_lt
  rw [ofHexadecimal, hdigit _ (by omega), hdigit _ (by omega), Nat.div_add_mod, UInt8.ofNat_toNat]

/-- A byte behind `0x` reads back. -/
lemma ofChars_byte (n : UInt8) : Part.ofChars ("0x" ++ hexByte n).toList = .byte n := by
  have h : ("0x" ++ hexByte n).toList = ['0', 'x', digit (n.toNat / 16), digit (n.toNat % 16)] := by
    simp [hexByte]
  rw [h]
  exact congrArg Part.byte (ofHexadecimal_digit n)

/-- The four digits of a word. -/
lemma ofWord_digits (hi lo : UInt8) :
    Part.ofWord ['0', 'x', digit (hi.toNat / 16), digit (hi.toNat % 16), digit (lo.toNat / 16),
      digit (lo.toNat % 16)] = .word (Word.join hi lo) := by
  simp only [Part.ofWord, ofHexadecimal_digit]

/-- A word behind `0x` reads back. -/
lemma ofChars_word (nn : UInt16) : Part.ofChars ("0x" ++ hexWord nn).toList = .word nn := by
  have h := ofWord_digits (Word.high nn) (Word.low nn)
  rw [Word.join_high_low] at h
  simpa [hexWord, hexByte, Part.ofChars] using h

/-- The cell at an address reads back. -/
lemma ofChars_cell (nn : UInt16) :
    Part.ofChars ("(0x" ++ hexWord nn ++ ")").toList = .cell (.word nn) := by
  have h := ofWord_digits (Word.high nn) (Word.low nn)
  rw [Word.join_high_low] at h
  simpa [hexWord, hexByte, Part.ofChars] using h

/-- The cell of the last page reads back as its whole address. -/
lemma ofChars_high (n : UInt8) :
    Part.ofChars ("(0xff" ++ hexByte n ++ ")").toList = .cell (.word (Word.join 0xff n)) := by
  have h : Part.ofWord ['0', 'x', 'f', 'f', digit (n.toNat / 16), digit (n.toNat % 16)] = _ :=
    ofWord_digits 0xff n
  simpa [hexByte, Part.ofChars] using h

/-- A number reads back. -/
lemma ofChars_toString (n : UInt8) : Part.ofChars (toString n.toNat).toList = .decimal n := by
  rw [toList_toString]
  revert n
  exact Word.forall_byte (by decide +kernel)

/-- A displacement reads back. -/
lemma ofChars_displacement (e : UInt8) : Part.ofChars (displacement e).toList = .decimal e := by
  have hdigits : Part.ofChars ((if e < 0x80 then [] else ['-']) ++ Nat.toDigits 10 (distance e)) =
      .decimal e := by
    revert e
    exact Word.forall_byte (by decide +kernel)
  rw [displacement, String.toList_append, toList_toString, apply_ite String.toList]
  exact hdigits

/-- A displacement behind the stack pointer reads back. -/
lemma ofChars_displaced (e : UInt8) :
    Part.ofChars ("SP" ++ signedDisplacement e).toList = .displaced e := by
  have hdigits : Part.ofChars ('S' :: 'P' ::
      ((if e < 0x80 then ['+'] else ['-']) ++ Nat.toDigits 10 (distance e))) = .displaced e := by
    revert e
    exact Word.forall_byte (by decide +kernel)
  rw [signedDisplacement, String.toList_append, String.toList_append, toList_toString,
    apply_ite String.toList]
  exact hdigits

/-! ## Operands -/

/-- An operand is printed as one word. -/
lemma operand_isWord (r : Operand) : IsWord r.text := by
  cases r with
  | reg r => cases r <;> decide
  | atHl => decide

/-- An operand reads back. -/
lemma ofChars_operand (r : Operand) : Part.ofChars r.text.toList = r.part := by
  cases r with
  | reg r => cases r <;> rfl
  | atHl => rfl

lemma pointer_isWord (p : Pointer) : IsWord p.text := by cases p <;> decide

lemma ofChars_pointer (p : Pointer) : Part.ofChars p.text.toList = p.part := by cases p <;> rfl

lemma pair_isWord (r : WordRegister) : IsWord r.name := by cases r <;> decide

/-- The name of a pair reads back. -/
lemma ofChars_pair (r : WordRegister) : Part.ofChars r.name.toList = .name r.name := by
  cases r <;> rfl

lemma condition_isWord (cc : Condition) : IsWord cc.text := by cases cc <;> decide

/-- The name of a condition reads back. -/
lemma ofChars_condition (cc : Condition) : Part.ofChars cc.text.toList = .name cc.text := by
  cases cc <;> rfl

lemma shift_isWord (op : ShiftOp) : IsWord op.text := by cases op <;> decide

/-! ## Lines -/

/-- The line of an operation with the accumulator reads back. -/
lemma ofText_alu (op : AluOp) {x : String} {p : Part} (hx : IsWord x)
    (hp : Part.ofChars x.toList = p) : Line.ofText (op.text ++ x) = op.line p := by
  have hA : IsWord "A" := by decide
  have hpA : Part.ofChars "A".toList = .name "A" := rfl
  cases op with
  | add | adc | sbc =>
    exact ofText_operands (by decide) hA hx hpA hp (by simp [AluOp.text])
  | sub | and | xor | or | cp =>
    exact ofText_operand (by decide) hx hp (by simp [AluOp.text])

/-- The line of a transfer of control reads back. -/
lemma ofText_transfer (operation : String) {target : String} {p : Part} (cc : Option Condition)
    (h : IsWord operation) (ht : IsWord target) (hp : Part.ofChars target.toList = p) :
    Line.ofText (transferText (operation ++ " ") cc target) = transferLine operation cc [p] := by
  cases cc with
  | none => exact ofText_operand h ht hp (by simp [transferText])
  | some cc =>
    exact ofText_operands h (condition_isWord cc) ht (ofChars_condition cc) hp
      (by simp [transferText])

/-- The text of an instruction shows its operation and its operands. -/
lemma ofText_text (addr : UInt16) (i : Instruction) :
    Line.ofText (i.text addr) = i.line addr := by
  have hA : IsWord "A" := by decide
  have hpA : Part.ofChars "A".toList = .name "A" := rfl
  have hC : IsWord "(C)" := by decide
  have hpC : Part.ofChars "(C)".toList = .cell (.name "C") := rfl
  have hx (n : UInt8) : IsWord ("0x" ++ hexByte n) := .append (by decide) (hexByte_isWord n)
  have hxx (nn : UInt16) : IsWord ("0x" ++ hexWord nn) := .append (by decide) (hexWord_isWord nn)
  have hhigh (n : UInt8) : IsWord ("(0xff" ++ hexByte n ++ ")") :=
    .append (.append (by decide) (hexByte_isWord n)) (by decide)
  have hcell (nn : UInt16) : IsWord ("(0x" ++ hexWord nn ++ ")") :=
    .append (.append (by decide) (hexWord_isWord nn)) (by decide)
  cases i with
  | nop | stop | halt | di | ei | daa | cpl | scf | ccf | reti =>
    rw [Instruction.text]
    exact ofText_word (by decide)
  | load dst src =>
    exact ofText_operands (by decide) (operand_isWord dst) (operand_isWord src)
      (ofChars_operand dst) (ofChars_operand src) (by simp [Instruction.text])
  | loadImmediate dst n =>
    exact ofText_operands (by decide) (operand_isWord dst) (hx n)
      (ofChars_operand dst) (ofChars_byte n) (by simp [Instruction.text])
  | storeIndirect p =>
    exact ofText_operands (by decide) (pointer_isWord p) hA (ofChars_pointer p) hpA
      (by simp [Instruction.text])
  | loadIndirect p =>
    exact ofText_operands (by decide) hA (pointer_isWord p) hpA (ofChars_pointer p)
      (by simp [Instruction.text])
  | storeHigh n =>
    exact ofText_operands (by decide) (hhigh n) hA (ofChars_high n) hpA
      (by simp [Instruction.text])
  | loadHigh n =>
    exact ofText_operands (by decide) hA (hhigh n) hpA (ofChars_high n)
      (by simp [Instruction.text])
  | storeHighC =>
    exact ofText_operands (by decide) hC hA hpC hpA (by simp [Instruction.text])
  | loadHighC =>
    exact ofText_operands (by decide) hA hC hpA hpC (by simp [Instruction.text])
  | storeAbsolute nn =>
    exact ofText_operands (by decide) (hcell nn) hA (ofChars_cell nn) hpA
      (by simp [Instruction.text])
  | loadAbsolute nn =>
    exact ofText_operands (by decide) hA (hcell nn) hpA (ofChars_cell nn)
      (by simp [Instruction.text])
  | loadWord r nn =>
    exact ofText_operands (by decide) (pair_isWord r) (hxx nn) (ofChars_pair r) (ofChars_word nn)
      (by simp [Instruction.text])
  | storeSp nn =>
    exact ofText_operands (by decide) (hcell nn) (pair_isWord .sp) (ofChars_cell nn)
      (ofChars_pair .sp) (by simp [Instruction.text, WordRegister.name])
  | spFromHl =>
    exact ofText_operands (by decide) (pair_isWord .sp) (pair_isWord .hl) (ofChars_pair .sp)
      (ofChars_pair .hl) (by simp [Instruction.text, WordRegister.name])
  | hlFromSp e =>
    exact ofText_operands (by decide) (pair_isWord .hl)
      (.append (by decide) (signedDisplacement_isWord e)) (ofChars_pair .hl) (ofChars_displaced e)
      (by simp [Instruction.text, WordRegister.name])
  | push r | pop r | incWord r | decWord r =>
    exact ofText_operand (by decide) (pair_isWord r) (ofChars_pair r) (by simp [Instruction.text])
  | alu op src => exact ofText_alu op (operand_isWord src) (ofChars_operand src)
  | aluImmediate op n =>
    exact ofText_alu op (hx n) (ofChars_byte n)
  | inc r | dec r =>
    exact ofText_operand (by decide) (operand_isWord r) (ofChars_operand r)
      (by simp [Instruction.text])
  | shiftA op => exact ofText_word ((shift_isWord op).append hA)
  | addHl r =>
    exact ofText_operands (by decide) (pair_isWord .hl) (pair_isWord r) (ofChars_pair .hl)
      (ofChars_pair r) (by simp [Instruction.text, WordRegister.name])
  | addSp e =>
    exact ofText_operands (by decide) (pair_isWord .sp) (displacement_isWord e) (ofChars_pair .sp)
      (ofChars_displacement e) (by simp [Instruction.text, WordRegister.name])
  | jumpHl =>
    exact ofText_operand (by decide) (pair_isWord .hl) (ofChars_pair .hl)
      (by simp [Instruction.text, WordRegister.name])
  | jumpRelative cc e => exact ofText_transfer "JR" cc (by decide) (hxx _) (ofChars_word _)
  | jump cc nn => exact ofText_transfer "JP" cc (by decide) (hxx nn) (ofChars_word nn)
  | call cc nn => exact ofText_transfer "CALL" cc (by decide) (hxx nn) (ofChars_word nn)
  | ret cc =>
    cases cc with
    | none =>
      rw [Instruction.text]
      exact ofText_word (by decide)
    | some cc =>
      exact ofText_operand (by decide) (condition_isWord cc) (ofChars_condition cc)
        (by simp [Instruction.text])
  | restart target =>
    exact ofText_operand (by decide) (hx target) (ofChars_byte target) (by simp [Instruction.text])
  | shift op r =>
    exact ofText_operand (shift_isWord op) (operand_isWord r) (ofChars_operand r)
      (by simp [Instruction.text])
  | bit i r | res i r | set i r =>
    exact ofText_operands (by decide) (toString_isWord i.toNat) (operand_isWord r)
      (ofChars_toString i) (ofChars_operand r) (by simp [Instruction.text])

end GameBoy.Listing
