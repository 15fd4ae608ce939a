import RiscvGpu.Assembler.Parser

/-!
# Grammar — the typed line grammar and the parser against it

The spec describes the lines the parser accepts by a grammar (§4.3): a directive and its number,
a lone label, or an optional label, a mnemonic and the operand shape of the mnemonic's class,
with a typing rule on the registers. This module writes that grammar down as the canonical token
rendering `Line.render` and the predicate `Line.Typed`, and relates `parse_line` to it.

* `parseLine_sound`: whatever `parse_line` returns is the line its tokens render, of the shape of
  its class, with every register passing the code's check, which compares only `is_scalar()`.
* `parseLine_accepts_pc_sources`: so a `PC` register passes every check that wants a vector
  register, also the source checks of `SX_SLT`, whose comment asks for vector sources.
* `parseLine_sound_of_no_pc`: on tokens with no `PC` register the check is the typing rule's, and
  the line returned has every register of the kind its position prescribes.
* `parseLine_complete`: every well-typed line is parsed back from its rendering, whatever the
  columns, with no error pushed.

Each operand parser gets a soundness lemma (what a success read) and a shape lemma: on operand
tokens of its class's shape it reads them all and then runs its register checks, in the order
`MnemonicClass.checks` gives, stopping at the first that fails (`parseOperands_of_shape`,
`firstKindError`). No check fails exactly when the instruction is typed by the code's check
(`firstKindError_eq_none_iff`). The line-level theorems are assembled from those.
-/

namespace RiscvGpu
namespace As

/-! ## The grammar -/

/-- The classes `parse_instruction` dispatches on. -/
inductive MnemonicClass
  | halt
  | itypeArithmetic
  | rtype
  | load
  | store
  deriving DecidableEq, Repr

/-- The class of a mnemonic, by the lists of §3. -/
def MnemonicName.cls : MnemonicName → MnemonicClass
  | .halt => .halt
  | .addi | .slti | .xori | .ori | .andi | .slli | .srli | .srai | .sxSlti => .itypeArithmetic
  | .add | .sub | .sll | .slt | .xor | .srl | .sra | .or | .and | .sxSlt => .rtype
  | .lb | .lh | .lw => .load
  | .sb | .sh | .sw => .store

/-- The operand parser `parse_instruction` runs for a class. -/
def MnemonicClass.parseOperands : MnemonicClass → Mnemonic → ParserM (Option Instruction)
  | .halt, m => pure (some { mnemonic := m })
  | .itypeArithmetic, m => Parser.parseItypeArithemticInstruction m
  | .rtype, m => Parser.parseRtypeInstruction m
  | .load, m => Parser.parseLoadInstruction m
  | .store, m => Parser.parseStoreInstruction m

/-- The operand shape of each class; `HALT` keeps the default operands. -/
def MnemonicClass.Fits : MnemonicClass → Operands → Prop
  | .halt, ops => ops = default
  | .itypeArithmetic, .itype .. => True
  | .load, .itype .. => True
  | .rtype, .rtype .. => True
  | .store, .stype .. => True
  | _, _ => False

/-- The canonical tokens of the operands of an instruction of class `c`. -/
def Operands.render (c : MnemonicClass) : Operands → List TokenData
  | .itype rd rs1 imm12 =>
    if c = .load then [.register rd, .comma, .immediate imm12, .lparen, .register rs1, .rparen]
    else [.register rd, .comma, .register rs1, .comma, .immediate imm12]
  | .rtype rd rs1 rs2 => [.register rd, .comma, .register rs1, .comma, .register rs2]
  | .stype rs1 rs2 imm12 =>
    [.register rs2, .comma, .immediate imm12, .lparen, .register rs1, .rparen]

/-- The operand positions of the typing rule. -/
inductive OperandPos
  | rd
  | rs1
  | rs2
  deriving DecidableEq, Repr

/-- The register operands, each with its position. -/
def Operands.registers : Operands → List (OperandPos × RegisterData)
  | .itype rd rs1 _ => [(.rd, rd), (.rs1, rs1)]
  | .rtype rd rs1 rs2 => [(.rd, rd), (.rs1, rs1), (.rs2, rs2)]
  | .stype rs1 rs2 _ => [(.rs1, rs1), (.rs2, rs2)]

/-- Whether the typing rule wants a scalar register in position `pos` of an instruction of
mnemonic `m`: the cross-width `SX_SLTI` and `SX_SLT` write a scalar `rd` from vector sources,
and every other opcode wants all its registers of its own `is_scalar` flag. -/
def expectedScalar (m : Mnemonic) (pos : OperandPos) : Bool :=
  if m.name = .sxSlti ∨ m.name = .sxSlt then pos = .rd else m.isScalar

/-- In the I-type arithmetic class the typing rule singles out `SX_SLTI` alone. -/
theorem expectedScalar_of_itypeArithmetic {m : Mnemonic} (hc : m.name.cls = .itypeArithmetic)
    (pos : OperandPos) :
    expectedScalar m pos = if m.name = .sxSlti then decide (pos = .rd) else m.isScalar := by
  have : m.name ≠ .sxSlt := fun h => by rw [h] at hc; cases hc
  simp [expectedScalar, this]

/-- In the R-type class the typing rule singles out `SX_SLT` alone. -/
theorem expectedScalar_of_rtype {m : Mnemonic} (hc : m.name.cls = .rtype) (pos : OperandPos) :
    expectedScalar m pos = if m.name = .sxSlt then decide (pos = .rd) else m.isScalar := by
  have : m.name ≠ .sxSlti := fun h => by rw [h] at hc; cases hc
  simp [expectedScalar, this]

/-- Loads and stores have no cross-width opcode. -/
theorem expectedScalar_of_memory {m : Mnemonic} (hc : m.name.cls = .load ∨ m.name.cls = .store)
    (pos : OperandPos) : expectedScalar m pos = m.isScalar := by
  have : ¬(m.name = .sxSlti ∨ m.name = .sxSlt) := by
    rintro (h | h) <;> rcases hc with hc | hc <;> rw [h] at hc <;> cases hc
  simp [expectedScalar, this]

/-- The kind a register must have under the typing rule of the spec, when the rule wants a
scalar register (`true`) or a vector one (`false`). -/
def KindIs (r : RegisterData) (scalar : Bool) : Prop :=
  r.type = if scalar then .scalar else .vector

/-- The kind check `check_register_correct_type` makes: it compares `is_scalar()` alone. -/
def ScalarFlagIs (r : RegisterData) (scalar : Bool) : Prop :=
  r.isScalar = scalar

/-- An instruction whose operands have its class's shape, and, unless it is `HALT`, whose every
register `r` in position `pos` satisfies `kindOk r (expectedScalar m pos)`. -/
def Instruction.Typed (kindOk : RegisterData → Bool → Prop) (i : Instruction) : Prop :=
  i.mnemonic.name.cls.Fits i.operands ∧
    (i.mnemonic.name.cls ≠ .halt →
      ∀ pr ∈ i.operands.registers, kindOk pr.2 (expectedScalar i.mnemonic pr.1))

/-- The number of a directive `parse_directive` can return: at least 1, and an `int32_t`. -/
def DirectiveNumber (n : BitVec 32) : Prop := 1 ≤ n.toNat ∧ n.toNat ≤ 2^31 - 1

/-- A directive's number is one whose `int32_t` reading is at least 1. -/
theorem directiveNumber_iff (n : BitVec 32) : DirectiveNumber n ↔ 1 ≤ n.toInt := by
  rw [DirectiveNumber, BitVec.toInt_eq_toNat_cond]
  have := n.isLt
  split <;> omega

/-- A line of the grammar whose registers satisfy `kindOk`. -/
def Line.Typed (kindOk : RegisterData → Bool → Prop) : Line → Prop
  | .justLabel _ => True
  | .blocksDirective n => DirectiveNumber n
  | .warpsDirective n => DirectiveNumber n
  | .instruction i => i.Typed kindOk

instance : ∀ c ops, Decidable (MnemonicClass.Fits c ops)
  | .halt, ops => inferInstanceAs (Decidable (ops = default))
  | .itypeArithmetic, .itype .. | .load, .itype .. | .rtype, .rtype .. | .store, .stype .. =>
    isTrue trivial
  | .itypeArithmetic, .rtype .. | .itypeArithmetic, .stype .. | .load, .rtype ..
  | .load, .stype .. | .rtype, .itype .. | .rtype, .stype .. | .store, .itype ..
  | .store, .rtype .. => isFalse id

instance (r : RegisterData) (b : Bool) : Decidable (KindIs r b) :=
  inferInstanceAs (Decidable (_ = _))

instance (r : RegisterData) (b : Bool) : Decidable (ScalarFlagIs r b) :=
  inferInstanceAs (Decidable (_ = _))

instance (kindOk : RegisterData → Bool → Prop) [∀ r b, Decidable (kindOk r b)]
    (i : Instruction) : Decidable (i.Typed kindOk) :=
  inferInstanceAs (Decidable (_ ∧ _))

instance (n : BitVec 32) : Decidable (DirectiveNumber n) := inferInstanceAs (Decidable (_ ∧ _))

instance (kindOk : RegisterData → Bool → Prop) [∀ r b, Decidable (kindOk r b)] :
    ∀ L : Line, Decidable (L.Typed kindOk)
  | .justLabel _ => isTrue trivial
  | .blocksDirective n | .warpsDirective n => inferInstanceAs (Decidable (DirectiveNumber n))
  | .instruction i => inferInstanceAs (Decidable (i.Typed kindOk))

/-- The canonical tokens after an instruction's mnemonic: none for `HALT`, the operands of its
class otherwise. -/
def Instruction.operandTokens (i : Instruction) : List TokenData :=
  if i.mnemonic.name.cls = .halt then [] else i.operands.render i.mnemonic.name.cls

/-- The canonical tokens of an instruction: its label, its mnemonic, its operands. -/
def Instruction.render (i : Instruction) : List TokenData :=
  (i.label.map TokenData.label).toList ++ TokenData.mnemonic i.mnemonic :: i.operandTokens

/-- The canonical tokens of a line. -/
def Line.render : Line → List TokenData
  | .justLabel l => [.label l]
  | .blocksDirective n => [.blocksDirective, .immediate n]
  | .warpsDirective n => [.warpsDirective, .immediate n]
  | .instruction i => i.render

/-- The kind the spec prescribes passes the check the code makes. -/
theorem ScalarFlagIs.of_kindIs {r : RegisterData} {b : Bool} (h : KindIs r b) :
    ScalarFlagIs r b := by
  unfold KindIs at h
  unfold ScalarFlagIs RegisterData.isScalar
  cases b <;> simp [h]

/-- For a register that is not `PC` the code's check is the spec's kind: `is_scalar()` is false
exactly on the vector registers. -/
theorem kindIs_iff_scalarFlagIs {r : RegisterData} {b : Bool} (hpc : r.type ≠ .pc) :
    KindIs r b ↔ ScalarFlagIs r b := by
  obtain ⟨ty, n⟩ := r
  cases ty <;> cases b <;> simp_all [KindIs, ScalarFlagIs, RegisterData.isScalar]

/-- Every register operand stands among the operand tokens, whatever the class. -/
theorem Operands.register_mem_render (c : MnemonicClass) {ops : Operands}
    {pr : OperandPos × RegisterData} (hpr : pr ∈ ops.registers) :
    TokenData.register pr.2 ∈ ops.render c := by
  cases ops <;> simp only [Operands.registers, List.mem_cons, List.mem_singleton,
    List.not_mem_nil, or_false] at hpr <;> rcases hpr with rfl | rfl | rfl <;>
    simp [Operands.render] <;> split <;> simp

/-- Every register operand of an instruction other than `HALT` stands among its tokens. -/
theorem Instruction.register_mem_render {i : Instruction} (hh : i.mnemonic.name.cls ≠ .halt)
    {pr : OperandPos × RegisterData} (hpr : pr ∈ i.operands.registers) :
    TokenData.register pr.2 ∈ i.render := by
  rw [Instruction.render, Instruction.operandTokens, if_neg hh]
  exact List.mem_append_right _ (List.mem_cons_of_mem _ (Operands.register_mem_render _ hpr))

/-- `toks` are the operand tokens of `i`, an unlabelled instruction of mnemonic `m` whose
registers pass the code's kind check. -/
def OperandsRead (m : Mnemonic) (toks : List Token) (i : Instruction) : Prop :=
  i.label = none ∧ i.mnemonic = m ∧ toks.map Token.data = i.operandTokens ∧
    i.Typed ScalarFlagIs

/-! ## The register checks -/

/-- The register checks of a class's operand parser, in the order it makes them: the index of the
register's token among the operand tokens, and the register's position. A store checks its
parenthesised base `rs1` before `rs2`, which comes first in the text. -/
def MnemonicClass.checks : MnemonicClass → List (Nat × OperandPos)
  | .halt => []
  | .itypeArithmetic => [(0, .rd), (2, .rs1)]
  | .rtype => [(0, .rd), (2, .rs1), (4, .rs2)]
  | .load => [(0, .rd), (4, .rs1)]
  | .store => [(4, .rs1), (0, .rs2)]

/-- The error `check_register_correct_type` pushes for the register token `t` when it wants the
scalar flag `shouldBeScalar`. -/
def kindError (t : Token) (shouldBeScalar : Bool) : Error :=
  ⟨"Register '" ++ t.asRegister.toStr ++ "' should be " ++
    (if shouldBeScalar then "scalar" else "vector"), t.col⟩

/-- The outcome of `check_register_correct_type`: nothing when `is_scalar()` is the flag wanted,
its error otherwise. -/
def kindCheck (t : Token) (shouldBeScalar : Bool) : Option Error :=
  if t.asRegister.isScalar = shouldBeScalar then none else some (kindError t shouldBeScalar)

@[simp] theorem kindCheck_eq_none_iff {t : Token} {b : Bool} :
    kindCheck t b = none ↔ t.asRegister.isScalar = b := by
  simp [kindCheck]

/-- The register tokens among the operand tokens `toks` that the operand parser of `m`'s class
checks, in the order it checks them, each with the scalar flag the check wants. -/
def checkedRegisters (m : Mnemonic) (toks : List Token) : List (Token × Bool) :=
  m.name.cls.checks.filterMap fun c => toks[c.1]?.map fun t => (t, expectedScalar m c.2)

/-- The error of the first register check of `m`'s class that fails on the operand tokens
`toks`, if one does. -/
def firstKindError (m : Mnemonic) (toks : List Token) : Option Error :=
  (checkedRegisters m toks).findSome? fun c => kindCheck c.1 c.2

/-- On operand tokens of its class's shape, a class checks the instruction's registers in the
order `Operands.registers` lists them, each against the flag the typing rule gives its
position. -/
theorem checkedRegisters_of_shape {m : Mnemonic} {toks : List Token} {ops : Operands}
    (hh : m.name.cls ≠ .halt) (hfit : m.name.cls.Fits ops)
    (hd : toks.map Token.data = ops.render m.name.cls) :
    (checkedRegisters m toks).map (fun c => (c.1.asRegister, c.2)) =
      ops.registers.map fun pr => (pr.2, expectedScalar m pr.1) := by
  have hget (k : Nat) : toks[k]?.map Token.asRegister =
      (ops.render m.name.cls)[k]?.map fun d => (Token.mk d 0).asRegister := by
    rw [← hd, List.getElem?_map, Option.map_map]
    rfl
  have hmap : (checkedRegisters m toks).map (fun c => (c.1.asRegister, c.2)) =
      m.name.cls.checks.filterMap fun c =>
        (toks[c.1]?.map Token.asRegister).map fun r => (r, expectedScalar m c.2) := by
    simp only [checkedRegisters, List.map_filterMap, Option.map_map]
    rfl
  rw [hmap]
  simp only [hget]
  revert hh hfit
  cases m.name.cls <;> cases ops <;> intro hh hfit <;>
    first | exact absurd rfl hh | exact hfit.elim | rfl

/-- On operand tokens of its class's shape, no register check fails exactly when the instruction
is typed by the code's check. -/
theorem firstKindError_eq_none_iff {m : Mnemonic} {toks : List Token} {ops : Operands}
    (hfit : m.name.cls.Fits ops)
    (hd : toks.map Token.data = ({ mnemonic := m, operands := ops } : Instruction).operandTokens) :
    firstKindError m toks = none ↔
      ({ mnemonic := m, operands := ops } : Instruction).Typed ScalarFlagIs := by
  by_cases hh : m.name.cls = .halt
  · simp only [firstKindError, checkedRegisters, hh, MnemonicClass.checks, List.filterMap_nil,
      List.findSome?_nil, true_iff]
    exact ⟨hfit, fun h => absurd hh h⟩
  · simp only [Instruction.operandTokens, if_neg hh] at hd
    have hmap := checkedRegisters_of_shape hh hfit hd
    rw [firstKindError, List.findSome?_eq_none_iff]
    simp only [Instruction.Typed, hfit, ne_eq, hh, not_false_eq_true, forall_const, true_and,
      kindCheck_eq_none_iff, ScalarFlagIs]
    constructor
    · intro h pr hpr
      obtain ⟨c, hc, hce⟩ := List.mem_map.1 (hmap ▸ List.mem_map_of_mem _ hpr :
        (pr.2, expectedScalar m pr.1) ∈ (checkedRegisters m toks).map _)
      simp only [Prod.mk.injEq] at hce
      exact hce.1 ▸ hce.2 ▸ h c hc
    · intro h c hc
      obtain ⟨pr, hpr, hce⟩ := List.mem_map.1 (hmap ▸ List.mem_map_of_mem _ hc :
        (c.1.asRegister, c.2) ∈ ops.registers.map _)
      simp only [Prod.mk.injEq] at hce
      exact hce.1 ▸ hce.2 ▸ h pr hpr

/-- The checks read register tokens of the operand tokens. -/
theorem mem_checkedRegisters {m : Mnemonic} {toks : List Token} {c : Token × Bool}
    (hc : c ∈ checkedRegisters m toks) : c.1 ∈ toks := by
  simp only [checkedRegisters, List.mem_filterMap, Option.map_eq_some'] at hc
  obtain ⟨_, _, t, ht, rfl⟩ := hc
  exact List.getElem?_mem ht

/-- On a register that is not `PC`, a check fails exactly when the kind is not the prescribed
one. -/
theorem kindCheck_of_ne_pc {t : Token} {b : Bool} (hpc : t.asRegister.type ≠ .pc) :
    kindCheck t b = if KindIs t.asRegister b then none else some (kindError t b) := by
  simp only [kindCheck, kindIs_iff_scalarFlagIs hpc, ScalarFlagIs]

/-- On operand tokens with no `PC` register, the first check to fail is the one of the first
checked register whose kind is not the one the typing rule prescribes. -/
theorem firstKindError_of_no_pc {m : Mnemonic} {toks : List Token}
    (hpc : ∀ t ∈ toks, t.asRegister.type ≠ .pc) :
    firstKindError m toks =
      ((checkedRegisters m toks).find? fun c => !decide (KindIs c.1.asRegister c.2)).map
        fun c => kindError c.1 c.2 := by
  have hcs : ∀ c ∈ checkedRegisters m toks, c.1.asRegister.type ≠ .pc :=
    fun c hc => hpc _ (mem_checkedRegisters hc)
  rw [firstKindError]
  generalize checkedRegisters m toks = cs at hcs ⊢
  induction cs with
  | nil => rfl
  | cons c cs ih =>
    rw [List.findSome?_cons, List.find?_cons, kindCheck_of_ne_pc (hcs c (List.mem_cons_self _ _)),
      ih fun c' h => hcs c' (List.mem_cons_of_mem _ h)]
    by_cases hk : KindIs c.1.asRegister c.2 <;> simp [hk]

/-! ## The operand parsers -/

namespace Parser

variable {p' : Parser} {m : Mnemonic} {i : Instruction} {ts : List Token} {es : List Error}

/-- What a successful `parse_itype_arithemtic_instruction` read. -/
theorem parseItypeArithemticInstruction_some (hc : m.name.cls = .itypeArithmetic)
    (h : (parseItypeArithemticInstruction m).run ⟨ts, es⟩ = (some i, p')) :
    ∃ toks, ts = toks ++ p'.tokens ∧ p'.errors = es ∧ OperandsRead m toks i := by
  obtain ⟨rd, _, rfl, hrd, h⟩ := expectOrReturn_some h
  obtain ⟨c1, _, rfl, hc1, h⟩ := expectOrReturn_some h
  obtain ⟨rs1, _, rfl, hrs1, h⟩ := expectOrReturn_some h
  obtain ⟨c2, _, rfl, hc2, h⟩ := expectOrReturn_some h
  obtain ⟨imm, _, rfl, himm, h⟩ := expectOrReturn_some h
  refine ⟨[rd, c1, rs1, c2, imm], ?_⟩
  dsimp only at h
  split_ifs at h with hsxi
  all_goals
    obtain ⟨k1, h⟩ := checkReg_some h
    obtain ⟨k2, h⟩ := checkReg_some h
    obtain ⟨rfl, rfl⟩ := pure_some h
    simp only [OperandsRead, Instruction.operandTokens, Instruction.Typed, hc]
    simp [Operands.render, Operands.registers, MnemonicClass.Fits, ScalarFlagIs,
      expectedScalar_of_itypeArithmetic hc, hsxi, k1, k2, Token.data_of_type_register hrd,
      Token.data_of_type_register hrs1, Token.data_of_type_immediate himm,
      TokenData.eq_of_type_comma hc1,
      TokenData.eq_of_type_comma hc2]

/-- What a successful `parse_rtype_instruction` read. -/
theorem parseRtypeInstruction_some (hc : m.name.cls = .rtype)
    (h : (parseRtypeInstruction m).run ⟨ts, es⟩ = (some i, p')) :
    ∃ toks, ts = toks ++ p'.tokens ∧ p'.errors = es ∧ OperandsRead m toks i := by
  obtain ⟨rd, _, rfl, hrd, h⟩ := expectOrReturn_some h
  obtain ⟨c1, _, rfl, hc1, h⟩ := expectOrReturn_some h
  obtain ⟨rs1, _, rfl, hrs1, h⟩ := expectOrReturn_some h
  obtain ⟨c2, _, rfl, hc2, h⟩ := expectOrReturn_some h
  obtain ⟨rs2, _, rfl, hrs2, h⟩ := expectOrReturn_some h
  refine ⟨[rd, c1, rs1, c2, rs2], ?_⟩
  dsimp only at h
  split_ifs at h with hsx
  all_goals
    obtain ⟨k1, h⟩ := checkReg_some h
    obtain ⟨k2, h⟩ := checkReg_some h
    obtain ⟨k3, h⟩ := checkReg_some h
    obtain ⟨rfl, rfl⟩ := pure_some h
    simp only [OperandsRead, Instruction.operandTokens, Instruction.Typed, hc]
    simp [Operands.render, Operands.registers, MnemonicClass.Fits, ScalarFlagIs,
      expectedScalar_of_rtype hc, hsx, k1, k2, k3, Token.data_of_type_register hrd,
      Token.data_of_type_register hrs1,
      Token.data_of_type_register hrs2, TokenData.eq_of_type_comma hc1,
      TokenData.eq_of_type_comma hc2]

/-- What a successful `parse_load_instruction` read. -/
theorem parseLoadInstruction_some (hc : m.name.cls = .load)
    (h : (parseLoadInstruction m).run ⟨ts, es⟩ = (some i, p')) :
    ∃ toks, ts = toks ++ p'.tokens ∧ p'.errors = es ∧ OperandsRead m toks i := by
  obtain ⟨rd, _, rfl, hrd, h⟩ := expectOrReturn_some h
  obtain ⟨c, _, rfl, hcm, h⟩ := expectOrReturn_some h
  obtain ⟨off, _, rfl, hoff, h⟩ := expectOrReturn_some h
  obtain ⟨lp, _, rfl, hlp, h⟩ := expectOrReturn_some h
  obtain ⟨rs1, _, rfl, hrs1, h⟩ := expectOrReturn_some h
  obtain ⟨rp, _, rfl, hrp, h⟩ := expectOrReturn_some h
  obtain ⟨k1, h⟩ := checkReg_some h
  obtain ⟨k2, h⟩ := checkReg_some h
  obtain ⟨rfl, rfl⟩ := pure_some h
  refine ⟨[rd, c, off, lp, rs1, rp], rfl, rfl, ?_⟩
  simp only [OperandsRead, Instruction.operandTokens, Instruction.Typed, hc]
  simp [Operands.render, Operands.registers, MnemonicClass.Fits, ScalarFlagIs,
    expectedScalar_of_memory (.inl hc), k1, k2, Token.data_of_type_register hrd,
    Token.data_of_type_register hrs1,
    Token.data_of_type_immediate hoff, TokenData.eq_of_type_comma hcm,
    TokenData.eq_of_type_lparen hlp, TokenData.eq_of_type_rparen hrp]

/-- What a successful `parse_store_instruction` read: the first register is `rs2`, the
parenthesised one `rs1`. -/
theorem parseStoreInstruction_some (hc : m.name.cls = .store)
    (h : (parseStoreInstruction m).run ⟨ts, es⟩ = (some i, p')) :
    ∃ toks, ts = toks ++ p'.tokens ∧ p'.errors = es ∧ OperandsRead m toks i := by
  obtain ⟨rs2, _, rfl, hrs2, h⟩ := expectOrReturn_some h
  obtain ⟨c, _, rfl, hcm, h⟩ := expectOrReturn_some h
  obtain ⟨off, _, rfl, hoff, h⟩ := expectOrReturn_some h
  obtain ⟨lp, _, rfl, hlp, h⟩ := expectOrReturn_some h
  obtain ⟨rs1, _, rfl, hrs1, h⟩ := expectOrReturn_some h
  obtain ⟨rp, _, rfl, hrp, h⟩ := expectOrReturn_some h
  obtain ⟨k1, h⟩ := checkReg_some h
  obtain ⟨k2, h⟩ := checkReg_some h
  obtain ⟨rfl, rfl⟩ := pure_some h
  refine ⟨[rs2, c, off, lp, rs1, rp], rfl, rfl, ?_⟩
  simp only [OperandsRead, Instruction.operandTokens, Instruction.Typed, hc]
  simp [Operands.render, Operands.registers, MnemonicClass.Fits, ScalarFlagIs,
    expectedScalar_of_memory (.inr hc), k1, k2, Token.data_of_type_register hrs2,
    Token.data_of_type_register hrs1,
    Token.data_of_type_immediate hoff, TokenData.eq_of_type_comma hcm,
    TokenData.eq_of_type_lparen hlp, TokenData.eq_of_type_rparen hrp]

/-- The nested `CHECK_REG`s of an operand parser on the register tokens and flags `cs`, in that
order, before the continuation `k`. -/
def checkChain {α : Type} (cs : List (Token × Bool)) (k : ParserM (Option α)) :
    ParserM (Option α) :=
  cs.foldr (fun c k => checkReg c.1 c.2 k) k

/-- `CHECK_REG` continues, or pushes the error of its check and returns `std::nullopt`. -/
theorem checkReg_run {α : Type} (t : Token) (b : Bool) (k : ParserM (Option α)) (p : Parser) :
    (checkReg t b k).run p =
      match kindCheck t b with
      | none => k.run p
      | some e => (none, { p with errors := p.errors ++ [e] }) := by
  by_cases h : t.asRegister.isScalar = b
  · rw [checkReg_of_ok p h, (kindCheck_eq_none_iff).2 h]
  · rw [checkReg_of_not_ok k p h, kindCheck, if_neg h]
    rfl

/-- A chain of `CHECK_REG`s continues when every check passes, and otherwise pushes the error of
the first that fails and stops there. -/
theorem checkChain_run {α : Type} (cs : List (Token × Bool)) (k : ParserM (Option α))
    (p : Parser) :
    (checkChain cs k).run p =
      match cs.findSome? fun c => kindCheck c.1 c.2 with
      | none => k.run p
      | some e => (none, { p with errors := p.errors ++ [e] }) := by
  induction cs with
  | nil => rfl
  | cons c cs ih =>
    simp only [checkChain, List.foldr_cons, List.findSome?_cons] at ih ⊢
    rw [checkReg_run]
    cases kindCheck c.1 c.2 with
    | none => exact ih
    | some e => rfl

/-- `parse_itype_arithemtic_instruction` reads the operand tokens of its class, then makes its
register checks. -/
theorem parseItypeArithemticInstruction_of_shape {toks : List Token} {ops : Operands}
    (hc : m.name.cls = .itypeArithmetic) (hfit : MnemonicClass.itypeArithmetic.Fits ops)
    (hd : toks.map Token.data = ops.render .itypeArithmetic) (rest : List Token)
    (es : List Error) :
    (parseItypeArithemticInstruction m).run ⟨toks ++ rest, es⟩ =
      (checkChain (checkedRegisters m toks) (pure (some { mnemonic := m, operands := ops }))).run
        ⟨rest, es⟩ := by
  cases ops with
  | itype rd rs1 imm =>
    simp only [Operands.render, reduceCtorEq, ↓reduceIte, List.map_eq_cons_iff,
      List.map_eq_nil_iff] at hd
    obtain ⟨t1, _, rfl, h1, t2, _, rfl, h2, t3, _, rfl, h3, t4, _, rfl, h4, t5, _, rfl, h5, rfl⟩ :=
      hd
    have hcr : checkedRegisters m [t1, t2, t3, t4, t5] =
        [(t1, expectedScalar m .rd), (t3, expectedScalar m .rs1)] := by
      simp only [checkedRegisters, hc]
      rfl
    simp only [parseItypeArithemticInstruction, List.cons_append, List.nil_append, hcr,
      expectOrReturn_cons, TokenData.type, h1, h2, h3, h4, h5, Token.asRegister_of_data h1,
      Token.asRegister_of_data h3, Token.asImmediate_of_data h5,
      expectedScalar_of_itypeArithmetic hc]
    by_cases hsxi : m.name = .sxSlti <;> simp only [hsxi, if_true, if_false] <;> rfl
  | rtype => simp [MnemonicClass.Fits] at hfit
  | stype => simp [MnemonicClass.Fits] at hfit

/-- `parse_rtype_instruction` reads the operand tokens of its class, then makes its register
checks. -/
theorem parseRtypeInstruction_of_shape {toks : List Token} {ops : Operands}
    (hc : m.name.cls = .rtype) (hfit : MnemonicClass.rtype.Fits ops)
    (hd : toks.map Token.data = ops.render .rtype) (rest : List Token) (es : List Error) :
    (parseRtypeInstruction m).run ⟨toks ++ rest, es⟩ =
      (checkChain (checkedRegisters m toks) (pure (some { mnemonic := m, operands := ops }))).run
        ⟨rest, es⟩ := by
  cases ops with
  | rtype rd rs1 rs2 =>
    simp only [Operands.render, List.map_eq_cons_iff, List.map_eq_nil_iff] at hd
    obtain ⟨t1, _, rfl, h1, t2, _, rfl, h2, t3, _, rfl, h3, t4, _, rfl, h4, t5, _, rfl, h5, rfl⟩ :=
      hd
    have hcr : checkedRegisters m [t1, t2, t3, t4, t5] =
        [(t1, expectedScalar m .rd), (t3, expectedScalar m .rs1), (t5, expectedScalar m .rs2)] := by
      simp only [checkedRegisters, hc]
      rfl
    simp only [parseRtypeInstruction, List.cons_append, List.nil_append, hcr, expectOrReturn_cons,
      TokenData.type, h1, h2, h3, h4, h5, Token.asRegister_of_data h1, Token.asRegister_of_data h3,
      Token.asRegister_of_data h5, expectedScalar_of_rtype hc]
    by_cases hsx : m.name = .sxSlt <;> simp only [hsx, if_true, if_false] <;> rfl
  | itype => simp [MnemonicClass.Fits] at hfit
  | stype => simp [MnemonicClass.Fits] at hfit

/-- `parse_load_instruction` reads the operand tokens of a load, then makes its register
checks. -/
theorem parseLoadInstruction_of_shape {toks : List Token} {ops : Operands}
    (hc : m.name.cls = .load) (hfit : MnemonicClass.load.Fits ops)
    (hd : toks.map Token.data = ops.render .load) (rest : List Token) (es : List Error) :
    (parseLoadInstruction m).run ⟨toks ++ rest, es⟩ =
      (checkChain (checkedRegisters m toks) (pure (some { mnemonic := m, operands := ops }))).run
        ⟨rest, es⟩ := by
  cases ops with
  | itype rd rs1 imm =>
    simp only [Operands.render, ↓reduceIte, List.map_eq_cons_iff, List.map_eq_nil_iff] at hd
    obtain ⟨t1, _, rfl, h1, t2, _, rfl, h2, t3, _, rfl, h3, t4, _, rfl, h4, t5, _, rfl, h5,
      t6, _, rfl, h6, rfl⟩ := hd
    have hcr : checkedRegisters m [t1, t2, t3, t4, t5, t6] =
        [(t1, expectedScalar m .rd), (t5, expectedScalar m .rs1)] := by
      simp only [checkedRegisters, hc]
      rfl
    simp only [parseLoadInstruction, List.cons_append, List.nil_append, hcr, expectOrReturn_cons,
      TokenData.type, h1, h2, h3, h4, h5, h6, Token.asRegister_of_data h1,
      Token.asRegister_of_data h5, Token.asImmediate_of_data h3, expectedScalar_of_memory (.inl hc)]
    rfl
  | rtype => simp [MnemonicClass.Fits] at hfit
  | stype => simp [MnemonicClass.Fits] at hfit

/-- `parse_store_instruction` reads the operand tokens of a store, then makes its register
checks, the parenthesised `rs1` first. -/
theorem parseStoreInstruction_of_shape {toks : List Token} {ops : Operands}
    (hc : m.name.cls = .store) (hfit : MnemonicClass.store.Fits ops)
    (hd : toks.map Token.data = ops.render .store) (rest : List Token) (es : List Error) :
    (parseStoreInstruction m).run ⟨toks ++ rest, es⟩ =
      (checkChain (checkedRegisters m toks) (pure (some { mnemonic := m, operands := ops }))).run
        ⟨rest, es⟩ := by
  cases ops with
  | stype rs1 rs2 imm =>
    simp only [Operands.render, List.map_eq_cons_iff, List.map_eq_nil_iff] at hd
    obtain ⟨t1, _, rfl, h1, t2, _, rfl, h2, t3, _, rfl, h3, t4, _, rfl, h4, t5, _, rfl, h5,
      t6, _, rfl, h6, rfl⟩ := hd
    have hcr : checkedRegisters m [t1, t2, t3, t4, t5, t6] =
        [(t5, expectedScalar m .rs1), (t1, expectedScalar m .rs2)] := by
      simp only [checkedRegisters, hc]
      rfl
    simp only [parseStoreInstruction, List.cons_append, List.nil_append, hcr, expectOrReturn_cons,
      TokenData.type, h1, h2, h3, h4, h5, h6, Token.asRegister_of_data h1,
      Token.asRegister_of_data h5, Token.asImmediate_of_data h3, expectedScalar_of_memory (.inr hc)]
    rfl
  | itype => simp [MnemonicClass.Fits] at hfit
  | rtype => simp [MnemonicClass.Fits] at hfit

/-! ## Instructions and lines -/

/-- `parse_instruction`'s chain of class tests dispatches on the mnemonic's class. -/
theorem parseInstruction_run_cons (t : Token) (ts : List Token) (es : List Error) :
    parseInstruction.run ⟨t :: ts, es⟩ =
      (t.asMnemonic.name.cls.parseOperands t.asMnemonic).run ⟨ts, es⟩ := by
  simp only [parseInstruction, StateT.run_bind, chop_run_cons, Id.bind_eq]
  generalize t.asMnemonic = m
  obtain ⟨n, s⟩ := m
  cases n <;> rfl

/-- What the operand parser of a mnemonic's class read when it succeeded. -/
theorem parseOperands_some (h : (m.name.cls.parseOperands m).run ⟨ts, es⟩ = (some i, p')) :
    ∃ toks, ts = toks ++ p'.tokens ∧ p'.errors = es ∧ OperandsRead m toks i := by
  cases hc : m.name.cls <;> rw [hc] at h
  case halt =>
    obtain ⟨rfl, rfl⟩ := pure_some h
    exact ⟨[], rfl, rfl, rfl, rfl, by simp [Instruction.operandTokens, hc],
      by simp [Instruction.Typed, MnemonicClass.Fits, hc]⟩
  case itypeArithmetic => exact parseItypeArithemticInstruction_some hc h
  case rtype => exact parseRtypeInstruction_some hc h
  case load => exact parseLoadInstruction_some hc h
  case store => exact parseStoreInstruction_some hc h

/-- The operand parser of a mnemonic's class, on operand tokens of its class's shape, reads them
all, and returns the instruction when every register check passes; otherwise it pushes the error
of the first check that fails, and that error alone. -/
theorem parseOperands_of_shape {toks : List Token} {ops : Operands} (hfit : m.name.cls.Fits ops)
    (hd : toks.map Token.data = ({ mnemonic := m, operands := ops } : Instruction).operandTokens)
    (rest : List Token) (es : List Error) :
    (m.name.cls.parseOperands m).run ⟨toks ++ rest, es⟩ =
      match firstKindError m toks with
      | none => (some { mnemonic := m, operands := ops }, ⟨rest, es⟩)
      | some e => (none, ⟨rest, es ++ [e]⟩) := by
  simp only [Instruction.operandTokens] at hd
  cases hc : m.name.cls <;> simp only [hc, reduceCtorEq, if_true, if_false] at hfit hd
  case halt =>
    obtain rfl := List.map_eq_nil_iff.1 hd
    obtain rfl : ops = default := hfit
    simp only [firstKindError, checkedRegisters, hc, MnemonicClass.checks, List.filterMap_nil,
      List.findSome?_nil]
    rfl
  case itypeArithmetic =>
    rw [MnemonicClass.parseOperands, parseItypeArithemticInstruction_of_shape hc hfit hd,
      checkChain_run]
    rfl
  case rtype =>
    rw [MnemonicClass.parseOperands, parseRtypeInstruction_of_shape hc hfit hd, checkChain_run]
    rfl
  case load =>
    rw [MnemonicClass.parseOperands, parseLoadInstruction_of_shape hc hfit hd, checkChain_run]
    rfl
  case store =>
    rw [MnemonicClass.parseOperands, parseStoreInstruction_of_shape hc hfit hd, checkChain_run]
    rfl

/-- What a successful `parse_directive` read: the directive token, then the number. -/
theorem parseDirective_some {t : Token}
    (ht : t.data.type = .blocksDirective ∨ t.data.type = .warpsDirective)
    (h : parseDirective.run ⟨t :: ts, es⟩ = (some L, p')) :
    (t :: ts).map Token.data = L.render ∧ L.Typed ScalarFlagIs := by
  simp only [parseDirective, StateT.run_bind, chop_run_cons, Id.bind_eq] at h
  obtain ⟨num, ts', rfl, hnum, h⟩ := expectOrReturn_some h
  by_cases hv : num.asImmediate.toInt < 1
  · simp [hv] at h
    cases h
  simp only [hv, if_false, StateT.run_bind, peek_run, Id.bind_eq] at h
  cases ts' with
  | cons next ts' => cases h
  | nil =>
    have hd := Token.data_of_type_immediate hnum
    have hn : DirectiveNumber num.asImmediate := (directiveNumber_iff _).2 (by omega)
    rcases ht with ht | ht
    · simp only [ht, if_true, List.head?_nil] at h
      cases h
      simp [Line.render, Line.Typed, hd, TokenData.eq_of_type_blocksDirective ht, hn]
    · simp only [ht, reduceCtorEq, if_false, List.head?_nil] at h
      cases h
      simp [Line.render, Line.Typed, hd, TokenData.eq_of_type_warpsDirective ht, hn]

/-- What a successful `parse_line` read after an optional label: an instruction that ends the
line. -/
theorem parseLineFrom_some {label : Option Label} {t : Token}
    (h : (parseLineFrom label t).run ⟨t :: ts, es⟩ = (some L, p')) :
    (label.map TokenData.label).toList ++ (t :: ts).map Token.data = L.render ∧
      L.Typed ScalarFlagIs := by
  by_cases ht : t.data.type = .mnemonic
  · simp only [parseLineFrom, ht, if_true, StateT.run_bind, parseInstruction_run_cons,
      Id.bind_eq] at h
    obtain ⟨⟨_ | i, ⟨rest, es'⟩⟩, hr⟩ :
        ∃ r, (t.asMnemonic.name.cls.parseOperands t.asMnemonic).run ⟨ts, es⟩ = r := ⟨_, rfl⟩
    · rw [hr] at h
      cases h
    rw [hr] at h
    obtain ⟨toks, rfl, -, -, hm, hd, hty⟩ := parseOperands_some hr
    simp only [StateT.run_bind, peek_run, Id.bind_eq] at h
    cases rest with
    | cons next rest =>
      simp at h
      cases h
    | nil =>
      cases h
      simp only [Line.render, Line.Typed, Instruction.render, List.map_cons, List.append_nil,
        Token.data_of_type_mnemonic ht, ← hm, hd]
      exact ⟨rfl, hty⟩
  · simp [parseLineFrom, ht] at h
    cases h

/-- What a successful `parse_line` read: the rendering of a line of the grammar, its registers
passing the check the code makes. -/
theorem parseLine_some (h : parseLine.run ⟨ts, es⟩ = (some L, p')) :
    ts.map Token.data = L.render ∧ L.Typed ScalarFlagIs := by
  cases ts with
  | nil => cases h
  | cons t ts =>
    simp only [parseLine, StateT.run_bind, peek_run, Id.bind_eq, List.head?_cons] at h
    by_cases hdir : t.data.type = .blocksDirective ∨ t.data.type = .warpsDirective
    · rw [if_pos hdir] at h
      exact parseDirective_some hdir h
    rw [if_neg hdir] at h
    by_cases hl : t.data.type = .label
    · simp only [hl, if_true, StateT.run_bind, chop_run_cons, peek_run, Id.bind_eq] at h
      cases ts with
      | nil =>
        cases h
        simp [Line.render, Line.Typed, Token.data_of_type_label hl]
      | cons next ts =>
        simpa [Token.data_of_type_label hl] using parseLineFrom_some h
    · rw [if_neg hl] at h
      simpa using parseLineFrom_some h

/-- After an optional label, `parse_line` on a mnemonic, the operand tokens of its class and then
`rest` pushes the error of the first register check that fails; when every check passes it
returns the instruction if nothing follows, and otherwise reports the token that follows, at the
column of the mnemonic. -/
theorem parseLineFrom_of_shape (label : Option Label) {t : Token} {toks : List Token}
    (ht : t.data = .mnemonic i.mnemonic) (hfit : i.mnemonic.name.cls.Fits i.operands)
    (hd : toks.map Token.data = i.operandTokens) (rest : List Token) (es : List Error) :
    (parseLineFrom label t).run ⟨t :: (toks ++ rest), es⟩ =
      match firstKindError i.mnemonic toks, rest with
      | some e, _ => (none, ⟨rest, es ++ [e]⟩)
      | none, [] => (some (.instruction { i with label }), ⟨[], es⟩)
      | none, next :: _ =>
        (none, ⟨rest, es ++ [⟨"Unexpected token: Expected end of line, instead found '" ++
          next.toStr ++ "'", t.col⟩]⟩) := by
  have hops := parseOperands_of_shape hfit hd rest es
  simp only [parseLineFrom, ht, TokenData.type, if_true, StateT.run_bind,
    parseInstruction_run_cons, Token.asMnemonic_of_data ht, hops, Id.bind_eq]
  cases firstKindError i.mnemonic toks <;> cases rest <;> rfl

/-- `Parser::parse_line` on an optional label, a mnemonic, the operand tokens of its class and
then `rest`: the error of the first register check that fails; when every check passes, the
instruction if nothing follows, and otherwise the token that follows, at the mnemonic's column. -/
theorem parseLine_run_of_shape {lbl toks : List Token} {mt : Token}
    (hfit : i.mnemonic.name.cls.Fits i.operands)
    (hlbl : lbl.map Token.data = (i.label.map TokenData.label).toList)
    (hmt : mt.data = .mnemonic i.mnemonic) (hd : toks.map Token.data = i.operandTokens)
    (rest : List Token) (es : List Error) :
    parseLine.run ⟨lbl ++ mt :: (toks ++ rest), es⟩ =
      match firstKindError i.mnemonic toks, rest with
      | some e, _ => (none, ⟨rest, es ++ [e]⟩)
      | none, [] => (some (.instruction i), ⟨[], es⟩)
      | none, next :: _ =>
        (none, ⟨rest, es ++ [⟨"Unexpected token: Expected end of line, instead found '" ++
          next.toStr ++ "'", mt.col⟩]⟩) := by
  have h := parseLineFrom_of_shape i.label hmt hfit hd rest es
  have hm : mt.data.type = .mnemonic := by rw [hmt]; rfl
  cases hl : i.label with
  | none =>
    rw [hl] at hlbl
    obtain rfl := List.map_eq_nil_iff.1 hlbl
    simp only [parseLine, List.nil_append, StateT.run_bind, peek_run, List.head?_cons,
      Id.bind_eq, hm, reduceCtorEq, or_self, if_false]
    rw [← hl]
    exact h
  | some l =>
    rw [hl] at hlbl
    obtain ⟨lt, rfl, hlt⟩ : ∃ lt, lbl = [lt] ∧ lt.data = .label l := by
      simpa [List.map_eq_cons_iff] using hlbl
    have hlt' : lt.data.type = .label := by rw [hlt]; rfl
    simp only [parseLine, List.singleton_append, StateT.run_bind, peek_run, List.head?_cons,
      Id.bind_eq, hlt', reduceCtorEq, or_self, if_false, if_true, chop_run_cons,
      Token.asLabel_of_data hlt]
    rw [← hl]
    exact h

/-- `parse_line` reads back every line of the grammar whose registers pass the code's check, from
its rendering, whatever the columns, and pushes no error. -/
theorem parseLine_of_render (hL : L.Typed ScalarFlagIs) (hts : ts.map Token.data = L.render)
    (es : List Error) : parseLine.run ⟨ts, es⟩ = (some L, ⟨[], es⟩) := by
  cases L with
  | justLabel l =>
    obtain ⟨t, rfl, ht⟩ : ∃ t, ts = [t] ∧ t.data = .label l := by
      simpa [Line.render, List.map_eq_cons_iff] using hts
    simp [parseLine, ht, TokenData.type]
  | blocksDirective n | warpsDirective n =>
    simp only [Line.render, List.map_eq_cons_iff, List.map_eq_nil_iff] at hts
    obtain ⟨t, _, rfl, ht, u, _, rfl, hu, rfl⟩ := hts
    have hn : ¬n.toInt < 1 := not_lt.2 ((directiveNumber_iff n).1 hL)
    simp only [parseLine, parseDirective, TokenData.type, bind_pure_comp, StateT.run_bind,
      peek_run, List.head?_cons, List.head?_nil, Id.bind_eq, Id.pure_eq, StateT.run_pure, ht, hu,
      reduceCtorEq, or_false, or_true, ↓reduceIte, chop_run_cons, expectOrReturn_cons,
      TokenData.immediate.injEq, Token.asImmediate_of_data, hn]
  | instruction i =>
    simp only [Line.render, Instruction.render] at hts
    obtain ⟨lbl, rest, rfl, hlbl, hrest⟩ := List.map_eq_append_iff.1 hts
    obtain ⟨mt, toks, rfl, hmt, hd⟩ := List.map_eq_cons_iff.1 hrest
    have h := parseLine_run_of_shape hL.1 hlbl hmt hd [] es
    rwa [List.append_nil, (firstKindError_eq_none_iff hL.1 hd).2 hL] at h

end Parser

/-! ## The line parser against the grammar -/

/-- A line typed by the spec's kinds passes the code's check. -/
theorem Line.Typed.scalarFlagIs {L : Line} (h : L.Typed KindIs) : L.Typed ScalarFlagIs := by
  cases L with
  | instruction i => exact ⟨h.1, fun hne pr hpr => ScalarFlagIs.of_kindIs (h.2 hne pr hpr)⟩
  | _ => exact h

/-- What `as::parse_line` checks of a line it returns: the line its tokens render, of its class's
shape, with a directive number of at least 1 and every register passing the code's check, the
`is_scalar()` flag the typing rule gives its position. -/
theorem parseLine_sound {ts : List Token} {L : Line} (h : parseLine ts = .ok L) :
    ts.map Token.data = L.render ∧ L.Typed ScalarFlagIs := by
  unfold parseLine at h
  split at h
  · cases h
    exact Parser.parseLine_some ‹_›
  · cases h

/-- `SX_SLT` checks its sources with `CHECK_REG(*rs1, false)` and `CHECK_REG(*rs2, false)`, which
compare `is_scalar()` alone, so the `PC` register passes where the comment above them wants a
vector source: `sx_slt s1, pc, pc` is accepted, against the typing rule. -/
theorem parseLine_accepts_pc_sources :
    parseLine [⟨.mnemonic ⟨.sxSlt, false⟩, 1⟩, ⟨.register ⟨.scalar, 1⟩, 8⟩, ⟨.comma, 10⟩,
      ⟨.register ⟨.pc, 0⟩, 12⟩, ⟨.comma, 14⟩, ⟨.register ⟨.pc, 0⟩, 16⟩] =
        .ok (.instruction
          { mnemonic := ⟨.sxSlt, false⟩, operands := .rtype ⟨.scalar, 1⟩ ⟨.pc, 0⟩ ⟨.pc, 0⟩ }) ∧
      ¬(Line.instruction
        { mnemonic := ⟨.sxSlt, false⟩, operands := .rtype ⟨.scalar, 1⟩ ⟨.pc, 0⟩ ⟨.pc, 0⟩ }).Typed
          KindIs :=
  ⟨rfl, by decide⟩

/-- Soundness of `as::parse_line` on tokens with no `PC` register: a line it returns is the line
its tokens render, of its class's shape, with a directive number of at least 1 and every register
of the kind the typing rule prescribes in its position. -/
theorem parseLine_sound_of_no_pc {ts : List Token} {L : Line} (h : parseLine ts = .ok L)
    (hpc : ∀ t ∈ ts, t.asRegister.type ≠ .pc) :
    ts.map Token.data = L.render ∧ L.Typed KindIs := by
  obtain ⟨hr, hty⟩ := parseLine_sound h
  refine ⟨hr, ?_⟩
  cases L with
  | instruction i =>
    refine ⟨hty.1, fun hh pr hpr => (kindIs_iff_scalarFlagIs ?_).2 (hty.2 hh pr hpr)⟩
    have hmem : TokenData.register pr.2 ∈ ts.map Token.data :=
      hr ▸ Instruction.register_mem_render hh hpr
    obtain ⟨t, ht, htd⟩ := List.mem_map.1 hmem
    exact Token.asRegister_of_data htd ▸ hpc t ht
  | _ => exact hty

/-- `sx_slt s1, x2, x3`: a scalar destination from vector sources, as the typing rule wants. -/
theorem parseLine_sound_of_no_pc_sx_slt :
    parseLine [⟨.mnemonic ⟨.sxSlt, false⟩, 1⟩, ⟨.register ⟨.scalar, 1⟩, 8⟩, ⟨.comma, 10⟩,
      ⟨.register ⟨.vector, 2⟩, 12⟩, ⟨.comma, 14⟩, ⟨.register ⟨.vector, 3⟩, 16⟩] =
        .ok (.instruction
          { mnemonic := ⟨.sxSlt, false⟩,
            operands := .rtype ⟨.scalar, 1⟩ ⟨.vector, 2⟩ ⟨.vector, 3⟩ }) ∧
      (∀ t ∈ [(⟨.mnemonic ⟨.sxSlt, false⟩, 1⟩ : Token), ⟨.register ⟨.scalar, 1⟩, 8⟩,
        ⟨.comma, 10⟩, ⟨.register ⟨.vector, 2⟩, 12⟩, ⟨.comma, 14⟩, ⟨.register ⟨.vector, 3⟩, 16⟩],
          t.asRegister.type ≠ .pc) ∧
      [TokenData.mnemonic ⟨.sxSlt, false⟩, .register ⟨.scalar, 1⟩, .comma,
        .register ⟨.vector, 2⟩, .comma, .register ⟨.vector, 3⟩] =
        (Line.instruction
          { mnemonic := ⟨.sxSlt, false⟩,
            operands := .rtype ⟨.scalar, 1⟩ ⟨.vector, 2⟩ ⟨.vector, 3⟩ }).render ∧
      (Line.instruction
        { mnemonic := ⟨.sxSlt, false⟩,
          operands := .rtype ⟨.scalar, 1⟩ ⟨.vector, 2⟩ ⟨.vector, 3⟩ }).Typed KindIs :=
  (fun h hpc => ⟨h, hpc, parseLine_sound_of_no_pc h hpc⟩) rfl (by decide)

/-- Completeness of `as::parse_line`: every line of the grammar typed by the spec's kinds is read
back from its rendering, whatever the columns, with no error pushed. -/
theorem parseLine_complete {L : Line} (hL : L.Typed KindIs) {ts : List Token}
    (hts : ts.map Token.data = L.render) :
    Parser.parseLine.run { tokens := ts } = (some L, { tokens := [] }) ∧ parseLine ts = .ok L := by
  have h := Parser.parseLine_of_render hL.scalarFlagIs hts []
  exact ⟨h, by simp [parseLine, h]⟩

theorem parseLine_complete_labelled_load :
    (Line.instruction
      { label := some ⟨"loop"⟩, mnemonic := ⟨.lw, false⟩,
        operands := .itype ⟨.vector, 5⟩ ⟨.vector, 1⟩ (-4) }).Typed KindIs ∧
    [⟨.label ⟨"loop"⟩, 1⟩, ⟨.mnemonic ⟨.lw, false⟩, 7⟩, ⟨.register ⟨.vector, 5⟩, 10⟩, ⟨.comma, 12⟩,
      ⟨.immediate (-4), 14⟩, ⟨.lparen, 16⟩, ⟨.register ⟨.vector, 1⟩, 17⟩, ⟨.rparen, 19⟩].map
        Token.data =
      (Line.instruction
        { label := some ⟨"loop"⟩, mnemonic := ⟨.lw, false⟩,
          operands := .itype ⟨.vector, 5⟩ ⟨.vector, 1⟩ (-4) }).render ∧
    Parser.parseLine.run
      { tokens := [⟨.label ⟨"loop"⟩, 1⟩, ⟨.mnemonic ⟨.lw, false⟩, 7⟩, ⟨.register ⟨.vector, 5⟩, 10⟩,
          ⟨.comma, 12⟩, ⟨.immediate (-4), 14⟩, ⟨.lparen, 16⟩, ⟨.register ⟨.vector, 1⟩, 17⟩,
          ⟨.rparen, 19⟩] } =
      (some (.instruction
        { label := some ⟨"loop"⟩, mnemonic := ⟨.lw, false⟩,
          operands := .itype ⟨.vector, 5⟩ ⟨.vector, 1⟩ (-4) }), { tokens := [] }) ∧
    parseLine [⟨.label ⟨"loop"⟩, 1⟩, ⟨.mnemonic ⟨.lw, false⟩, 7⟩, ⟨.register ⟨.vector, 5⟩, 10⟩,
        ⟨.comma, 12⟩, ⟨.immediate (-4), 14⟩, ⟨.lparen, 16⟩, ⟨.register ⟨.vector, 1⟩, 17⟩,
        ⟨.rparen, 19⟩] =
      .ok (.instruction
        { label := some ⟨"loop"⟩, mnemonic := ⟨.lw, false⟩,
          operands := .itype ⟨.vector, 5⟩ ⟨.vector, 1⟩ (-4) }) :=
  ⟨by decide, rfl, parseLine_complete (by decide) rfl⟩

end As
end RiscvGpu
