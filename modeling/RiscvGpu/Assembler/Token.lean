import RiscvGpu.Assembler.ParserUtils

/-!
# Token — mnemonics, tokens and the line AST

The data the line parser (`src/sim/aslib/parser.cpp`) reads and builds. The declarations of these
types (`token.hpp`, `instructions.hpp`, `parser.hpp`) are not under src/; they are modelled from
the spec's data model (§3) and from how `parser.cpp` uses them: a token is a tagged variant with
its column, a mnemonic is a name with its `is_scalar` flag, and a line is a directive, a lone
label or an instruction with an optional label and one of three operand shapes.

`strToReg_toStr` shows that `str_to_reg` reads back every register name as it is printed.
-/

namespace RiscvGpu
namespace As

/-! ## Mnemonics -/

/-- Modelled from the spec: `sim::MnemonicName`, the closed list of instructions of §3. -/
inductive MnemonicName
  | addi | slti | xori | ori | andi | slli | srli | srai | sxSlti
  | add | sub | sll | slt | xor | srl | sra | or | and | sxSlt
  | lb | lh | lw
  | sb | sh | sw
  | halt
  deriving DecidableEq, Repr

/-- Modelled from the spec: `sim::Mnemonic`, a name (`get_name()`) with its scalar flag
(`is_scalar()`). -/
structure Mnemonic where
  name : MnemonicName
  isScalar : Bool
  deriving DecidableEq, Repr

/-- Modelled from the spec: `parser::is_itype_arithmetic`, the names listed at its call in
`parse_instruction`. -/
def isItypeArithmetic : MnemonicName → Bool
  | .addi | .slti | .xori | .ori | .andi | .slli | .srli | .srai | .sxSlti => true
  | _ => false

/-- Modelled from the spec: `parser::is_rtype`. -/
def isRtype : MnemonicName → Bool
  | .add | .sub | .sll | .slt | .xor | .srl | .sra | .or | .and | .sxSlt => true
  | _ => false

/-- Modelled from the spec: `parser::is_load_type`. -/
def isLoadType : MnemonicName → Bool
  | .lb | .lh | .lw => true
  | _ => false

/-- Modelled from the spec: `parser::is_store_type`. -/
def isStoreType : MnemonicName → Bool
  | .sb | .sh | .sw => true
  | _ => false

/-- Modelled from the spec: the text of a mnemonic, as the assembly syntax of §6 writes it. -/
def MnemonicName.toStr : MnemonicName → String
  | .addi => "addi" | .slti => "slti" | .xori => "xori" | .ori => "ori" | .andi => "andi"
  | .slli => "slli" | .srli => "srli" | .srai => "srai" | .sxSlti => "sx_slti"
  | .add => "add" | .sub => "sub" | .sll => "sll" | .slt => "slt" | .xor => "xor"
  | .srl => "srl" | .sra => "sra" | .or => "or" | .and => "and" | .sxSlt => "sx_slt"
  | .lb => "lb" | .lh => "lh" | .lw => "lw" | .sb => "sb" | .sh => "sh" | .sw => "sw"
  | .halt => "halt"

/-- Modelled from the spec: `Mnemonic::to_str`. -/
def Mnemonic.toStr (m : Mnemonic) : String := m.name.toStr

/-- Modelled from the spec: `RegisterData::to_str`, the register's name in the assembly syntax. -/
def RegisterData.toStr (r : RegisterData) : String :=
  match r.type with
  | .vector => "x" ++ toString r.registerNumber.toInt
  | .scalar => "s" ++ toString r.registerNumber.toInt
  | .pc => "pc"

/-- Every register, printed as the assembler prints it, reads back through `str_to_reg` as the
same register: a vector or scalar register with any 32-bit number, or `pc` with number 0. -/
theorem strToReg_toStr (r : RegisterData) (hpc : r.type = .pc → r.registerNumber = 0) :
    strToReg r.toStr.toList = .ok r := by
  obtain ⟨type, n⟩ := r
  have hlen : ∀ c : Char, ¬(c :: (toString n.toInt).toList).length < 2 := fun c => by
    have := List.length_pos.2 (toDigits_ten n.toInt.natAbs).1
    simp only [toString_toList, List.length_cons, List.length_append]
    omega
  cases type with
  | vector =>
    show strToReg ('x' :: (toString n.toInt).toList) = _
    rw [strToReg, if_neg (hlen _)]
    exact strToRegNumber_toString .vector n
  | scalar =>
    show strToReg ('s' :: (toString n.toInt).toList) = _
    rw [strToReg, if_neg (hlen _)]
    exact strToRegNumber_toString .scalar n
  | pc =>
    obtain rfl : n = 0 := hpc rfl
    rfl

/-- `x-7` reads back as vector register -7. -/
theorem strToReg_toStr_negative :
    (({ type := .vector, registerNumber := -7 } : RegisterData).type = .pc →
        ({ type := .vector, registerNumber := -7 } : RegisterData).registerNumber = 0) ∧
      strToReg ({ type := .vector, registerNumber := -7 } : RegisterData).toStr.toList =
        .ok { type := .vector, registerNumber := -7 } :=
  ⟨nofun, strToReg_toStr _ nofun⟩

/-! ## Tokens -/

/-- Modelled from the spec: `token::Label`, the name of a label definition or reference. -/
structure Label where
  name : String
  deriving DecidableEq, Repr

/-- Modelled from the spec: the alternatives of `token::Token`; `label` is a label definition
(`LabelDef`, written `name:`) and `labelRef` a reference to one. -/
inductive TokenData
  | mnemonic (mnemonic : Mnemonic)
  | register (registerData : RegisterData)
  | immediate (value : BitVec 32)
  | label (label : Label)
  | labelRef (label : Label)
  | comma
  | lparen
  | rparen
  | blocksDirective
  | warpsDirective
  deriving DecidableEq, Repr

/-- The alternatives of `token::Token`, as `is_of_type<T>` and `expect<T>` name them. -/
inductive TokenType
  | mnemonic | register | immediate | label | labelRef
  | comma | lparen | rparen | blocksDirective | warpsDirective
  deriving DecidableEq, Repr

/-- The alternative a token holds. -/
def TokenData.type : TokenData → TokenType
  | .mnemonic _ => .mnemonic
  | .register _ => .register
  | .immediate _ => .immediate
  | .label _ => .label
  | .labelRef _ => .labelRef
  | .comma => .comma
  | .lparen => .lparen
  | .rparen => .rparen
  | .blocksDirective => .blocksDirective
  | .warpsDirective => .warpsDirective

/-- Modelled from the spec: the name `expect<T>` gives an alternative in its error messages. -/
def TokenType.name : TokenType → String
  | .mnemonic => "mnemonic" | .register => "register" | .immediate => "immediate"
  | .label => "label" | .labelRef => "label reference" | .comma => "','"
  | .lparen => "'('" | .rparen => "')'" | .blocksDirective => "'.blocks'"
  | .warpsDirective => "'.warps'"

/-- A token with the 1-based column it starts at. -/
structure Token where
  data : TokenData
  col : Nat
  deriving DecidableEq, Repr

/-- Modelled from the spec: `Token::to_str`, the token in the assembly syntax of §6. -/
def TokenData.toStr : TokenData → String
  | .mnemonic m => m.toStr
  | .register r => r.toStr
  | .immediate v => toString v.toInt
  | .label l => l.name ++ ":"
  | .labelRef l => l.name
  | .comma => ","
  | .lparen => "("
  | .rparen => ")"
  | .blocksDirective => ".blocks"
  | .warpsDirective => ".warps"

/-- `Token::to_str`. -/
def Token.toStr (t : Token) : String := t.data.toStr

/-! `Token::as<T>` is `std::get`: the parser only calls it on a token whose alternative it has
checked. The accessors below return a default value on the other alternatives. -/

/-- `token.as<token::Mnemonic>().mnemonic`. -/
def Token.asMnemonic (t : Token) : Mnemonic :=
  match t.data with
  | .mnemonic m => m
  | _ => ⟨.halt, false⟩

/-- `token.as<token::Register>().register_data`. -/
def Token.asRegister (t : Token) : RegisterData :=
  match t.data with
  | .register r => r
  | _ => {}

/-- `token.as<token::Immediate>().value`. -/
def Token.asImmediate (t : Token) : BitVec 32 :=
  match t.data with
  | .immediate v => v
  | _ => 0

/-- `token.as<token::Label>()`. -/
def Token.asLabel (t : Token) : Label :=
  match t.data with
  | .label l => l
  | _ => ⟨""⟩

/-! A token of a known alternative is that alternative applied to what its accessor reads. -/

theorem Token.data_of_type_register {t : Token} (h : t.data.type = .register) :
    t.data = .register t.asRegister := by
  obtain ⟨d, _⟩ := t; cases d <;> simp_all [TokenData.type, Token.asRegister]

theorem Token.data_of_type_immediate {t : Token} (h : t.data.type = .immediate) :
    t.data = .immediate t.asImmediate := by
  obtain ⟨d, _⟩ := t; cases d <;> simp_all [TokenData.type, Token.asImmediate]

theorem Token.data_of_type_mnemonic {t : Token} (h : t.data.type = .mnemonic) :
    t.data = .mnemonic t.asMnemonic := by
  obtain ⟨d, _⟩ := t; cases d <;> simp_all [TokenData.type, Token.asMnemonic]

theorem Token.data_of_type_label {t : Token} (h : t.data.type = .label) :
    t.data = .label t.asLabel := by
  obtain ⟨d, _⟩ := t; cases d <;> simp_all [TokenData.type, Token.asLabel]

theorem TokenData.eq_of_type_comma {d : TokenData} (h : d.type = .comma) : d = .comma := by
  cases d <;> simp_all [TokenData.type]

theorem TokenData.eq_of_type_lparen {d : TokenData} (h : d.type = .lparen) : d = .lparen := by
  cases d <;> simp_all [TokenData.type]

theorem TokenData.eq_of_type_rparen {d : TokenData} (h : d.type = .rparen) : d = .rparen := by
  cases d <;> simp_all [TokenData.type]

theorem TokenData.eq_of_type_blocksDirective {d : TokenData} (h : d.type = .blocksDirective) :
    d = .blocksDirective := by
  cases d <;> simp_all [TokenData.type]

theorem TokenData.eq_of_type_warpsDirective {d : TokenData} (h : d.type = .warpsDirective) :
    d = .warpsDirective := by
  cases d <;> simp_all [TokenData.type]

@[simp] theorem Token.asRegister_of_data {t : Token} {r : RegisterData} (h : t.data = .register r) :
    t.asRegister = r := by
  simp [Token.asRegister, h]

@[simp] theorem Token.asImmediate_of_data {t : Token} {v : BitVec 32} (h : t.data = .immediate v) :
    t.asImmediate = v := by
  simp [Token.asImmediate, h]

@[simp] theorem Token.asMnemonic_of_data {t : Token} {m : Mnemonic} (h : t.data = .mnemonic m) :
    t.asMnemonic = m := by
  simp [Token.asMnemonic, h]

@[simp] theorem Token.asLabel_of_data {t : Token} {l : Label} (h : t.data = .label l) :
    t.asLabel = l := by
  simp [Token.asLabel, h]

/-! ## Lines -/

/-- Modelled from the spec: the operand shapes of an instruction. `itype` serves the I-type
arithmetic instructions and the loads, `stype` the stores; `imm12` is the immediate token's
value. -/
inductive Operands
  | itype (rd rs1 : RegisterData) (imm12 : BitVec 32)
  | rtype (rd rs1 rs2 : RegisterData)
  | stype (rs1 rs2 : RegisterData) (imm12 : BitVec 32)
  deriving DecidableEq, Repr

/-- A default-constructed operand variant holds its first alternative with default members. -/
instance : Inhabited Operands := ⟨.itype {} {} 0⟩

/-- Modelled from the spec: `parser::Instruction`. -/
structure Instruction where
  label : Option Label := none
  mnemonic : Mnemonic
  operands : Operands := default
  deriving DecidableEq, Repr

/-- Modelled from the spec: `parser::Line`; a directive's number is a `uint32_t`. -/
inductive Line
  | justLabel (label : Label)
  | blocksDirective (number : BitVec 32)
  | warpsDirective (number : BitVec 32)
  | instruction (instruction : Instruction)
  deriving DecidableEq, Repr

end As
end RiscvGpu
