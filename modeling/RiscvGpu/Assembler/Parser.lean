import RiscvGpu.Assembler.Token

/-!
# Parser — `src/sim/aslib/parser.cpp`

The `Parser` object holds the tokens still to read and the errors pushed so far; its methods are
`ParserM` actions, and a method returning `std::optional` returns `Option`, `none` being
`std::nullopt`. The macros `EXPECT_OR_RETURN` and `CHECK_REG` become `expectOrReturn` and
`checkReg`, which take the rest of the method as a continuation, as the macros' early `return`
does.

The second half gives every method its run equations: what it does to a token list that starts
with the tokens it wants (`expectOrReturn_cons`, `checkReg_of_ok`), and what a success of it says
about the tokens it read (`expectOrReturn_some`, `checkReg_some`). The class parsers' lemmas
(`parseRtypeInstruction_some`, …) are assembled from those alone.
-/

namespace RiscvGpu
namespace As

/-- `Parser::Error`: a message and the 1-based column it is about (0 at the end of the line). -/
structure Error where
  message : String
  column : Nat
  deriving DecidableEq, Repr

/-- The state of a `Parser`: the tokens not read yet and the errors pushed so far. -/
structure Parser where
  tokens : List Token
  errors : List Error := []
  deriving DecidableEq, Repr

/-- The methods of `Parser`. -/
abbrev ParserM := StateM Parser

namespace Parser

/-! ## Methods -/

/-- `Parser::chop`: take the first token. -/
def chop : ParserM (Option Token) := fun p =>
  match p.tokens with
  | [] => (none, p)
  | token :: rest => (some token, { p with tokens := rest })

/-- `Parser::peek`: the first token, if any. -/
def peek : ParserM (Option Token) := fun p => (p.tokens.head?, p)

/-- `Parser::push_err(message, column)`. -/
def pushErr (message : String) (column : Nat) : ParserM Unit :=
  modify fun p => { p with errors := p.errors ++ [⟨message, column⟩] }

/-- `Parser::throw_unexpected_token`. -/
def throwUnexpectedToken (expected : String) (unexpected : Token) : ParserM Unit :=
  pushErr ("Unexpected token: Expected " ++ expected ++ ", instead found " ++ unexpected.toStr)
    unexpected.col

/-- `Parser::throw_unexpected_eos`. -/
def throwUnexpectedEos (expected : String) : ParserM Unit :=
  pushErr ("Unexpected end of stream: Expected " ++ expected) 0

/-- Modelled from the spec: `Parser::expect<T>` (declared in `parser.hpp`, not under src/) takes
the next token and returns it when it holds alternative `type`; otherwise it reports an
unexpected end of stream or an unexpected token and returns `std::nullopt`. -/
def expect (type : TokenType) : ParserM (Option Token) := do
  match ← chop with
  | none =>
    throwUnexpectedEos type.name
    return none
  | some token =>
    if token.data.type = type then return some token
    else
      throwUnexpectedToken type.name token
      return none

/-- `EXPECT_OR_RETURN(opt, type)`: expect a token of `type` and continue with it, or return
`std::nullopt`. -/
def expectOrReturn {α : Type} (type : TokenType) (k : Token → ParserM (Option α)) :
    ParserM (Option α) := do
  match ← expect type with
  | some token => k token
  | none => return none

/-- `Parser::check_register_correct_type`. -/
def checkRegisterCorrectType (regToken : Token) (shouldBeScalar : Bool) : ParserM Bool := do
  let reg := regToken.asRegister
  if reg.isScalar != shouldBeScalar then
    pushErr ("Register '" ++ reg.toStr ++ "' should be " ++
      (if shouldBeScalar then "scalar" else "vector")) regToken.col
    return false
  else return true

/-- `CHECK_REG(reg, should_be_scalar)`: check a register's kind and continue, or return
`std::nullopt`. -/
def checkReg {α : Type} (reg : Token) (shouldBeScalar : Bool) (k : ParserM (Option α)) :
    ParserM (Option α) := do
  if !(← checkRegisterCorrectType reg shouldBeScalar) then return none
  k

/-- `Parser::parse_itype_arithemtic_instruction`: `<rd>, <rs1>, <imm12>`. -/
def parseItypeArithemticInstruction (mnemonic : Mnemonic) : ParserM (Option Instruction) :=
  expectOrReturn .register fun rd =>
  expectOrReturn .comma fun _ =>
  expectOrReturn .register fun rs1 =>
  expectOrReturn .comma fun _ =>
  expectOrReturn .immediate fun imm12 =>
  let instruction : Instruction :=
    { mnemonic, operands := .itype rd.asRegister rs1.asRegister imm12.asImmediate }
  if mnemonic.name = .sxSlti then
    checkReg rd true <| checkReg rs1 false <| pure (some instruction)
  else
    checkReg rd mnemonic.isScalar <| checkReg rs1 mnemonic.isScalar <| pure (some instruction)

/-- `Parser::parse_rtype_instruction`: `<rd>, <rs1>, <rs2>`. -/
def parseRtypeInstruction (mnemonic : Mnemonic) : ParserM (Option Instruction) :=
  expectOrReturn .register fun rd =>
  expectOrReturn .comma fun _ =>
  expectOrReturn .register fun rs1 =>
  expectOrReturn .comma fun _ =>
  expectOrReturn .register fun rs2 =>
  let instruction : Instruction :=
    { mnemonic, operands := .rtype rd.asRegister rs1.asRegister rs2.asRegister }
  if mnemonic.name = .sxSlt then
    checkReg rd true <| checkReg rs1 false <| checkReg rs2 false <| pure (some instruction)
  else
    checkReg rd mnemonic.isScalar <| checkReg rs1 mnemonic.isScalar <|
      checkReg rs2 mnemonic.isScalar <| pure (some instruction)

/-- `Parser::parse_load_instruction`: `<rd>, <offset>(<rs1>)`. -/
def parseLoadInstruction (mnemonic : Mnemonic) : ParserM (Option Instruction) :=
  expectOrReturn .register fun rd =>
  expectOrReturn .comma fun _ =>
  expectOrReturn .immediate fun offset =>
  expectOrReturn .lparen fun _ =>
  expectOrReturn .register fun rs1 =>
  expectOrReturn .rparen fun _ =>
  checkReg rd mnemonic.isScalar <| checkReg rs1 mnemonic.isScalar <|
    pure (some { mnemonic, operands := .itype rd.asRegister rs1.asRegister offset.asImmediate })

/-- `Parser::parse_store_instruction`: `<rs2>, <offset>(<rs1>)`; the parenthesised register is
checked first. -/
def parseStoreInstruction (mnemonic : Mnemonic) : ParserM (Option Instruction) :=
  expectOrReturn .register fun rs2 =>
  expectOrReturn .comma fun _ =>
  expectOrReturn .immediate fun offset =>
  expectOrReturn .lparen fun _ =>
  expectOrReturn .register fun rs1 =>
  expectOrReturn .rparen fun _ =>
  checkReg rs1 mnemonic.isScalar <| checkReg rs2 mnemonic.isScalar <|
    pure (some { mnemonic, operands := .stype rs1.asRegister rs2.asRegister offset.asImmediate })

/-- `Parser::parse_instruction`: take the mnemonic and parse the operands of its class. The
mnemonic token is always there: `parse_line` calls this only when it has peeked one. -/
def parseInstruction : ParserM (Option Instruction) := do
  match ← chop with
  | none => return none
  | some mnemonicToken =>
    let mnemonic := mnemonicToken.asMnemonic
    if mnemonic.name = .halt then return some { mnemonic }
    else if isItypeArithmetic mnemonic.name then parseItypeArithemticInstruction mnemonic
    else if isRtype mnemonic.name then parseRtypeInstruction mnemonic
    else if isLoadType mnemonic.name then parseLoadInstruction mnemonic
    else if isStoreType mnemonic.name then parseStoreInstruction mnemonic
    else
      pushErr ("Unknown mnemonic: '" ++ mnemonic.toStr ++ "'") mnemonicToken.col
      return none

/-- `Parser::parse_directive`: the directive token, then a number that is at least 1 and ends
the line. -/
def parseDirective : ParserM (Option Line) := do
  match ← chop with
  | none => return none
  | some token =>
    expectOrReturn .immediate fun number => do
      let value := number.asImmediate
      if value.toInt < 1 then
        pushErr ("Invalid number of " ++ token.toStr ++ ": '" ++ toString value.toInt ++ "'")
          number.col
        return none
      else
        match ← peek with
        | some next =>
          throwUnexpectedToken "End of line" next
          return none
        | none =>
          if token.data.type = .blocksDirective then return some (.blocksDirective value)
          else return some (.warpsDirective value)

/-- The part of `Parser::parse_line` after an optional label, `token` being the first token
left: a mnemonic starts an instruction, which must end the line. -/
def parseLineFrom (label : Option Label) (token : Token) : ParserM (Option Line) := do
  if token.data.type = .mnemonic then
    match ← parseInstruction with
    | none => return none
    | some instruction =>
      match ← peek with
      | none => return some (.instruction { instruction with label })
      | some next =>
        pushErr ("Unexpected token: Expected end of line, instead found '" ++ next.toStr ++ "'")
          token.col
        return none
  else
    pushErr ("Unexpected token: Expected mnemonic or directive, instead found '" ++
      token.toStr ++ "'") token.col
    return none

/-- `Parser::parse_line`: a directive, a lone label, or an instruction with an optional label. -/
def parseLine : ParserM (Option Line) := do
  match ← peek with
  | none => return none
  | some token =>
    if token.data.type = .blocksDirective ∨ token.data.type = .warpsDirective then parseDirective
    else if token.data.type = .label then do
      let _ ← chop
      match ← peek with
      | none => return some (.justLabel token.asLabel)
      | some next => parseLineFrom (some token.asLabel) next
    else parseLineFrom none token

/-! ## Run equations -/

variable {α : Type} {p p' : Parser} {a : α}

@[simp] theorem chop_run_nil (es : List Error) : chop.run ⟨[], es⟩ = (none, ⟨[], es⟩) := rfl

@[simp] theorem chop_run_cons (t : Token) (ts : List Token) (es : List Error) :
    chop.run ⟨t :: ts, es⟩ = (some t, ⟨ts, es⟩) := rfl

@[simp] theorem peek_run (p : Parser) : peek.run p = (p.tokens.head?, p) := rfl

@[simp] theorem pushErr_run (message : String) (column : Nat) (p : Parser) :
    (pushErr message column).run p = ((), { p with errors := p.errors ++ [⟨message, column⟩] }) :=
  rfl

@[simp] theorem pure_run (x : α) (p : Parser) : (pure x : ParserM α).run p = (x, p) := rfl

/-- A method that ends in `return some x` returned `x` on the state it was given. -/
theorem pure_some {x a : α} (h : (pure (some x) : ParserM (Option α)).run p = (some a, p')) :
    x = a ∧ p = p' := by
  cases h
  exact ⟨rfl, rfl⟩

/-- `EXPECT_OR_RETURN` on a token of the wanted alternative continues with it. -/
theorem expectOrReturn_cons {type : TokenType} {k : Token → ParserM (Option α)} {t : Token}
    (ts : List Token) (es : List Error) (ht : t.data.type = type) :
    (expectOrReturn type k).run ⟨t :: ts, es⟩ = (k t).run ⟨ts, es⟩ := by
  simp [expectOrReturn, expect, ht]

/-- `EXPECT_OR_RETURN` at the end of the line reports the end of the stream. -/
theorem expectOrReturn_nil (type : TokenType) (k : Token → ParserM (Option α)) (es : List Error) :
    (expectOrReturn type k).run ⟨[], es⟩ =
      (none, ⟨[], es ++ [⟨"Unexpected end of stream: Expected " ++ type.name, 0⟩]⟩) := rfl

/-- `EXPECT_OR_RETURN` on a token of another alternative reports it, at its column. -/
theorem expectOrReturn_mismatch {type : TokenType} (k : Token → ParserM (Option α)) {t : Token}
    (ts : List Token) (es : List Error) (ht : t.data.type ≠ type) :
    (expectOrReturn type k).run ⟨t :: ts, es⟩ =
      (none, ⟨ts, es ++ [⟨"Unexpected token: Expected " ++ type.name ++ ", instead found " ++
        t.toStr, t.col⟩]⟩) := by
  simp [expectOrReturn, expect, ht, throwUnexpectedToken]

/-- What a success after `EXPECT_OR_RETURN` read: a token of the wanted alternative, the rest
succeeding on the tokens after it. -/
theorem expectOrReturn_some {type : TokenType} {k : Token → ParserM (Option α)} {ts : List Token}
    {es : List Error} (h : (expectOrReturn type k).run ⟨ts, es⟩ = (some a, p')) :
    ∃ t ts', ts = t :: ts' ∧ t.data.type = type ∧ (k t).run ⟨ts', es⟩ = (some a, p') := by
  cases ts with
  | nil =>
    rw [expectOrReturn_nil] at h
    cases h
  | cons t ts =>
    by_cases ht : t.data.type = type
    · exact ⟨t, ts, rfl, ht, by rwa [expectOrReturn_cons ts es ht] at h⟩
    · rw [expectOrReturn_mismatch k ts es ht] at h
      cases h

/-- `CHECK_REG` on a register of the kind wanted continues. -/
theorem checkReg_of_ok {reg : Token} {b : Bool} {k : ParserM (Option α)} (p : Parser)
    (h : reg.asRegister.isScalar = b) : (checkReg reg b k).run p = k.run p := by
  simp [checkReg, checkRegisterCorrectType, h]

/-- `CHECK_REG` on a register of the other kind reports it, at its column. -/
theorem checkReg_of_not_ok {reg : Token} {b : Bool} (k : ParserM (Option α)) (p : Parser)
    (h : reg.asRegister.isScalar ≠ b) :
    (checkReg reg b k).run p =
      (none, { p with errors := p.errors ++ [⟨"Register '" ++ reg.asRegister.toStr ++
        "' should be " ++ (if b then "scalar" else "vector"), reg.col⟩] }) := by
  simp [checkReg, checkRegisterCorrectType, h]

/-- A success after `CHECK_REG` had a register of the kind wanted. -/
theorem checkReg_some {reg : Token} {b : Bool} {k : ParserM (Option α)}
    (h : (checkReg reg b k).run p = (some a, p')) :
    reg.asRegister.isScalar = b ∧ k.run p = (some a, p') := by
  by_cases hr : reg.asRegister.isScalar = b
  · exact ⟨hr, by rwa [checkReg_of_ok p hr] at h⟩
  · rw [checkReg_of_not_ok k p hr] at h
    cases h

end Parser

/-- `as::parse_line`: the line, or every error the parser pushed. -/
def parseLine (tokens : List Token) : Except (List Error) Line :=
  match Parser.parseLine.run { tokens } with
  | (some result, _) => .ok result
  | (none, parser) => .error parser.errors

end As
end RiscvGpu
