import RiscvGpu.Assembler.FromChars

/-!
# ParserUtils — number literals and register names

`parse_num` and `str_to_reg` of `src/unnamed/part_000`, the two readers the lexer builds its
`Immediate` and `Register` tokens with. A string view is a `List Char`; both functions return the
view as they leave it alongside their result, since `parse_num` advances the caller's view.

* `parseNum_sound`: whatever `parse_num` accepts is a sign, the prefix the base-selection rule
  picks and a nonempty longest run of digits of that base, with its signed value, which never
  reaches `-2^31`.
* `parseNum_complete`: every literal of the number grammar whose value lies in
  `[-(2^31-1), 2^31-1]` is read back whole, before any suffix that does not start with a letter
  or a digit; `parseNum_rejects_int32_min` is the one value of `int32_t` left out.
* `parseNum_invalid_digit`: a hex digit that is not a digit of the selected base is an error
  that quotes the number up to it, and the view is left at it.
* `strToReg_ok`: a register name is `pc`, or a prefix letter and whatever `std::from_chars` reads
  after it; `strToReg_accepts_unchecked_numbers` shows that nothing bounds the number or rejects
  what follows it.
-/

namespace RiscvGpu
namespace As

/-! ## `parse_num` -/

theorem drop_length_takeWhile {α : Type} (p : α → Bool) (l : List α) :
    l.drop (l.takeWhile p).length = l.dropWhile p :=
  calc l.drop (l.takeWhile p).length
      = (l.takeWhile p ++ l.dropWhile p).drop (l.takeWhile p).length := by
        rw [List.takeWhile_append_dropWhile]
    _ = l.dropWhile p := List.drop_left _ _

/-- The lambda `parse_integral` of `parse_num`: scan the run of hex digits at the front of
`source`, reject the first one that is not a digit of `base`, and read the run with
`std::from_chars`. Returns the result and the view as the lambda leaves it. -/
def parseIntegral (isNegative : Bool) (source : List Char) (base : Nat) :
    Except String (BitVec 32) × List Char :=
  let run := source.takeWhile (isNumeric · 16)
  match run.span (isNumeric · base) with
  | (valid, digit :: _) =>
    (.error ("Failed to parse number: '" ++ String.mk (valid ++ [digit]) ++ "': Invalid digit '" ++
      digit.toString ++ "' for base " ++ toString base), source.drop valid.length)
  | (_, []) =>
    match fromChars run base with
    | (_, .error ec) =>
      (.error ("Failed to parse number '" ++ String.mk run ++ "': " ++ ec.message), source)
    | (consumed, .ok result) => (.ok (if isNegative then -result else result), source.drop consumed)

/-- The `// Check for number format` part of `parse_num`, on the view after the sign: `0x` or
`0X` selects base 16 and `0b` or `0B` base 2, both consumed; a `0` followed by any other character
selects base 8 with the `0` kept; anything else is decimal. -/
def parseNumberFormat (isNegative : Bool) (source : List Char) :
    Except String (BitVec 32) × List Char :=
  match source with
  | '0' :: c1 :: _ =>
    if c1 = 'x' ∨ c1 = 'X' then parseIntegral isNegative (source.drop 2) 16
    else if c1 = 'b' ∨ c1 = 'B' then parseIntegral isNegative (source.drop 2) 2
    else parseIntegral isNegative source 8
  | _ => parseIntegral isNegative source 10

/-- `as::parse_num`: an optional `-`, then a number in the format `parseNumberFormat` reads.
Returns the result and the view `source` as the function leaves it. -/
def parseNum (source : List Char) : Except String (BitVec 32) × List Char :=
  match source with
  | [] => (.error "Expected a number, found ''", [])
  | ['-'] => (.error "Expected a number, found '-'", [])
  | '-' :: rest => parseNumberFormat true rest
  | _ => parseNumberFormat false source

/-- The value `parse_integral` returns for a magnitude `m` read by `std::from_chars`. -/
theorem toInt_signedResult {m : Nat} (hm : m < 2^31) (isNegative : Bool) :
    (if isNegative then -BitVec.ofInt 32 m else BitVec.ofInt 32 m).toInt = signed isNegative m := by
  cases isNegative
  · exact toInt_ofInt_of_inInt32 ⟨by omega, by omega⟩
  · exact toInt_neg_ofInt (by omega) (by exact_mod_cast hm)

/-- What `parse_integral` accepts: a nonempty run of digits of `base`, read to the end of the
run of hex digits, whose value is below `2^31`. -/
theorem parseIntegral_ok {isNegative : Bool} {source r : List Char} {base : Nat}
    {v : BitVec 32} (h : parseIntegral isNegative source base = (.ok v, r)) :
    ∃ ds, source = ds ++ r ∧ ds ≠ [] ∧ (∀ d ∈ ds, isNumeric d base) ∧
      (∀ c ∈ r.head?, isNumeric c 16 = false) ∧ digitsValue base ds < 2^31 ∧
      v = if isNegative then -BitVec.ofInt 32 (digitsValue base ds)
        else BitVec.ofInt 32 (digitsValue base ds) := by
  unfold parseIntegral at h
  dsimp only at h
  rw [List.span_eq_take_drop] at h
  set run := source.takeWhile (isNumeric · 16) with hrun
  cases hd : run.dropWhile (isNumeric · base) with
  | cons digit _ => simp only [hd, reduceCtorEq, Prod.mk.injEq, false_and] at h
  | nil =>
    have hvalid : ∀ d ∈ run, isNumeric d base := List.dropWhile_eq_nil_iff.mp hd
    by_cases hne : run = []
    · simp [hd, hne, fromChars_nil] at h
    by_cases hlt : digitsValue base run < 2^31
    · simp only [hd, fromChars_digits hne hvalid, if_pos hlt, Prod.mk.injEq, Except.ok.injEq] at h
      obtain ⟨rfl, rfl⟩ := h
      refine ⟨run, ?_, hne, hvalid, ?_, hlt, rfl⟩
      · rw [drop_length_takeWhile]
        exact (List.takeWhile_append_dropWhile _ _).symm
      · intro c hc
        have := List.head?_dropWhile_not (isNumeric · 16) source
        rw [← drop_length_takeWhile] at this
        rw [Option.mem_def] at hc
        simpa [hc] using this
    · simp only [hd, fromChars_digits hne hvalid, if_neg hlt, Prod.mk.injEq, reduceCtorEq,
        false_and] at h

/-- The base-selection rule, on the text after the sign: `0x`/`0X` selects 16 and `0b`/`0B`
selects 2, both read as a prefix; a `0` followed by another character selects 8, the `0` staying a
digit; anything else selects 10. `SelectsBase body pfx base` says that the rule picks `base` on
`body` with prefix `pfx`. -/
inductive SelectsBase : List Char → List Char → Nat → Prop
  | hex {x : Char} {rest : List Char} :
      x = 'x' ∨ x = 'X' → SelectsBase ('0' :: x :: rest) ['0', x] 16
  | bin {b : Char} {rest : List Char} :
      b = 'b' ∨ b = 'B' → SelectsBase ('0' :: b :: rest) ['0', b] 2
  | octal {c : Char} {rest : List Char} : ¬(c = 'x' ∨ c = 'X') → ¬(c = 'b' ∨ c = 'B') →
      SelectsBase ('0' :: c :: rest) [] 8
  | decimal {body : List Char} : (∀ c rest, body ≠ '0' :: c :: rest) → SelectsBase body [] 10

/-- What the format part of `parse_num` accepts: the prefix the rule selects, then a nonempty run
of digits of the base, read up to the first character that is not a hex digit. -/
theorem parseNumberFormat_ok {isNegative : Bool} {body r : List Char} {v : BitVec 32}
    (h : parseNumberFormat isNegative body = (.ok v, r)) :
    ∃ pfx base ds, body = pfx ++ ds ++ r ∧ SelectsBase body pfx base ∧ ds ≠ [] ∧
      (∀ d ∈ ds, isNumeric d base) ∧ (∀ c ∈ r.head?, isNumeric c 16 = false) ∧
      digitsValue base ds < 2^31 ∧
      v = if isNegative then -BitVec.ofInt 32 (digitsValue base ds)
        else BitVec.ofInt 32 (digitsValue base ds) := by
  unfold parseNumberFormat at h
  split at h
  · rename_i c1 rest
    split_ifs at h with hx hb
    · obtain ⟨ds, hds, hrest⟩ := parseIntegral_ok h
      exact ⟨['0', c1], 16, ds, by simpa using hds, .hex hx, hrest⟩
    · obtain ⟨ds, hds, hrest⟩ := parseIntegral_ok h
      exact ⟨['0', c1], 2, ds, by simpa using hds, .bin hb, hrest⟩
    · obtain ⟨ds, hds, hrest⟩ := parseIntegral_ok h
      exact ⟨[], 8, ds, by simp [hds], .octal hx hb, hrest⟩
  · rename_i hnot
    obtain ⟨ds, hds, hrest⟩ := parseIntegral_ok h
    exact ⟨[], 10, ds, by simp [hds], .decimal fun c rest heq => hnot c rest heq, hrest⟩

/-- Soundness of `parse_num`: it accepts an optional `-`, the prefix the base-selection rule
picks, and a nonempty run of digits of that base, read to its longest extent; the value is the
signed value of that text and lies in `[-(2^31-1), 2^31-1]`. -/
theorem parseNum_sound {s r : List Char} {v : BitVec 32} (h : parseNum s = (.ok v, r)) :
    ∃ negative pfx base ds, s = signChars negative ++ pfx ++ ds ++ r ∧
      SelectsBase (pfx ++ ds ++ r) pfx base ∧ ds ≠ [] ∧ (∀ d ∈ ds, isNumeric d base) ∧
      v.toInt = signed negative (digitsValue base ds) ∧
      -(2^31 - 1) ≤ v.toInt ∧ v.toInt ≤ 2^31 - 1 ∧
      ∀ c ∈ r.head?, isNumeric c 16 = false := by
  have key : ∀ negative body, parseNumberFormat negative body = (.ok v, r) →
      ∃ pfx base ds, body = pfx ++ ds ++ r ∧ SelectsBase (pfx ++ ds ++ r) pfx base ∧ ds ≠ [] ∧
        (∀ d ∈ ds, isNumeric d base) ∧ v.toInt = signed negative (digitsValue base ds) ∧
        -(2^31 - 1) ≤ v.toInt ∧ v.toInt ≤ 2^31 - 1 ∧ ∀ c ∈ r.head?, isNumeric c 16 = false := by
    intro negative body hb
    obtain ⟨pfx, base, ds, rfl, hsel, hne, hds, hr, hlt, hv⟩ := parseNumberFormat_ok hb
    have hv : v.toInt = signed negative (digitsValue base ds) :=
      hv ▸ toInt_signedResult hlt negative
    refine ⟨pfx, base, ds, rfl, hsel, hne, hds, hv, ?_, ?_, hr⟩ <;>
      cases negative <;> simp only [hv, signed_true, signed_false] <;> omega
  unfold parseNum at h
  split at h
  · simp at h
  · simp at h
  · obtain ⟨pfx, base, ds, rfl, hrest⟩ := key true _ h
    exact ⟨true, pfx, base, ds, by simp, hrest⟩
  · obtain ⟨pfx, base, ds, rfl, hrest⟩ := key false _ h
    exact ⟨false, pfx, base, ds, by simp, hrest⟩

/-- `-0x1F,` reads as -31 with the view left at `,`. -/
theorem parseNum_sound_negative_hex :
    parseNum "-0x1F,".toList = (.ok (-31), ",".toList) ∧
    ∃ negative pfx base ds, "-0x1F,".toList = signChars negative ++ pfx ++ ds ++ ",".toList ∧
      SelectsBase (pfx ++ ds ++ ",".toList) pfx base ∧ ds ≠ [] ∧ (∀ d ∈ ds, isNumeric d base) ∧
      (-31 : BitVec 32).toInt = signed negative (digitsValue base ds) ∧
      -(2^31 - 1) ≤ (-31 : BitVec 32).toInt ∧ (-31 : BitVec 32).toInt ≤ 2^31 - 1 ∧
      ∀ c ∈ (",".toList).head?, isNumeric c 16 = false :=
  ⟨rfl, parseNum_sound rfl⟩

/-! ## Completeness over the number grammar -/

/-- Base prefixes of the number grammar; `upper` is the case of the prefix letter. -/
inductive NumPrefix
  | hex (upper : Bool)
  | bin (upper : Bool)
  | octal
  | decimal
  deriving DecidableEq, Repr

/-- The base a prefix stands for. -/
def NumPrefix.base : NumPrefix → Nat
  | .hex _ => 16
  | .bin _ => 2
  | .octal => 8
  | .decimal => 10

/-- The characters of a prefix; an octal literal starts with its `0`. -/
def NumPrefix.chars : NumPrefix → List Char
  | .hex upper => ['0', if upper then 'X' else 'x']
  | .bin upper => ['0', if upper then 'B' else 'b']
  | .octal => ['0']
  | .decimal => []

/-- A literal of the number grammar: an optional `-`, then `0x`/`0X` and hex digits, `0b`/`0B` and
binary digits, `0` and octal digits, or a decimal numeral with no leading zero or `0` alone. -/
structure NumLiteral where
  negative : Bool
  pfx : NumPrefix
  digits : List Char
  digits_ne_nil : digits ≠ []
  digits_valid : ∀ d ∈ digits, isNumeric d pfx.base
  no_leading_zero : pfx = .decimal → digits.head? = some '0' → digits = ['0']

namespace NumLiteral

/-- The text of a literal. -/
def chars (lit : NumLiteral) : List Char := signChars lit.negative ++ lit.pfx.chars ++ lit.digits

/-- The signed value of a literal. -/
def value (lit : NumLiteral) : Int := signed lit.negative (digitsValue lit.pfx.base lit.digits)

end NumLiteral

theorem digitsValue_cons_zero (base : Nat) (ds : List Char) :
    digitsValue base ('0' :: ds) = digitsValue base ds := by
  simp [digitsValue, List.foldl, show digitValue '0' = some 0 by decide]

theorem takeWhile_hex_of_head {r : List Char} (hr : ∀ c ∈ r.head?, isNumeric c 16 = false) :
    r.takeWhile (isNumeric · 16) = [] := by
  cases r with
  | nil => rfl
  | cons c _ => simp [List.takeWhile_cons_of_neg, hr c rfl]

/-- Completeness of `parse_integral`: a nonempty run of digits of `base` below `2^31`, followed
by anything that does not start with a hex digit, is read whole. -/
theorem parseIntegral_digits (isNegative : Bool) {ds r : List Char} {base : Nat}
    (hbase : base ≤ 16) (hne : ds ≠ []) (hds : ∀ d ∈ ds, isNumeric d base)
    (hr : ∀ c ∈ r.head?, isNumeric c 16 = false) (hlt : digitsValue base ds < 2^31) :
    ∃ v, parseIntegral isNegative (ds ++ r) base = (.ok v, r) ∧
      v.toInt = signed isNegative (digitsValue base ds) := by
  have hrun : (ds ++ r).takeWhile (isNumeric · 16) = ds := by
    rw [List.takeWhile_append_of_pos fun d hd => isNumeric_mono (hds d hd) hbase,
      takeWhile_hex_of_head hr, List.append_nil]
  have hspan : ds.dropWhile (isNumeric · base) = [] := List.dropWhile_eq_nil_iff.mpr hds
  refine ⟨_, ?_, toInt_signedResult hlt isNegative⟩
  simp only [parseIntegral, hrun, List.span_eq_take_drop, hspan, fromChars_digits hne hds,
    if_pos hlt, List.drop_left]

/-- A character that is neither a letter nor a digit is not a hex digit. -/
theorem not_isNumeric_of_not_isAlphanum {c : Char} (h : c.isAlphanum = false) (base : Nat) :
    isNumeric c base = false := by
  cases hc : isNumeric c base
  · rfl
  · simpa [h] using isAlphanum_of_isNumeric hc

/-- `parse_integral` fails on a run of digits whose value does not fit below `2^31`. -/
theorem parseIntegral_overflow (isNegative : Bool) {ds r : List Char} {base : Nat}
    (hbase : base ≤ 16) (hne : ds ≠ []) (hds : ∀ d ∈ ds, isNumeric d base)
    (hr : ∀ c ∈ r.head?, isNumeric c 16 = false) (hge : 2^31 ≤ digitsValue base ds) :
    ∃ msg, parseIntegral isNegative (ds ++ r) base = (.error msg, ds ++ r) := by
  have hrun : (ds ++ r).takeWhile (isNumeric · 16) = ds := by
    rw [List.takeWhile_append_of_pos fun d hd => isNumeric_mono (hds d hd) hbase,
      takeWhile_hex_of_head hr, List.append_nil]
  have hspan : ds.dropWhile (isNumeric · base) = [] := List.dropWhile_eq_nil_iff.mpr hds
  simp only [parseIntegral, hrun, List.span_eq_take_drop, hspan, fromChars_digits hne hds,
    if_neg (Nat.not_lt.mpr hge)]
  exact ⟨_, rfl⟩

/-- On the text of a literal after its sign, the format part of `parse_num` runs `parse_integral`
on the literal's digits (an octal literal's with its leading `0`), in the literal's base, when
what follows does not start with a letter or a digit. -/
theorem parseNumberFormat_literal (lit : NumLiteral) {r : List Char}
    (hr : ∀ c ∈ r.head?, c.isAlphanum = false) :
    ∃ ds base, parseNumberFormat lit.negative (lit.pfx.chars ++ lit.digits ++ r) =
        parseIntegral lit.negative (ds ++ r) base ∧
      base ≤ 16 ∧ ds ≠ [] ∧ (∀ d ∈ ds, isNumeric d base) ∧
      digitsValue base ds = digitsValue lit.pfx.base lit.digits := by
  obtain ⟨negative, pfx, digits, hne, hvalid, hlead⟩ := lit
  obtain ⟨d, ds, rfl⟩ := List.exists_cons_of_ne_nil hne
  cases pfx with
  | hex upper =>
    refine ⟨d :: ds, 16, ?_, by decide, hne, hvalid, rfl⟩
    cases upper <;> simp [NumPrefix.chars, parseNumberFormat]
  | bin upper =>
    refine ⟨d :: ds, 2, ?_, by decide, hne, hvalid, rfl⟩
    cases upper <;> simp [NumPrefix.chars, parseNumberFormat]
  | octal =>
    have hd : ¬(d = 'x' ∨ d = 'X') ∧ ¬(d = 'b' ∨ d = 'B') := by
      have := hvalid d (List.mem_cons_self _ _)
      refine ⟨?_, ?_⟩ <;> rintro (rfl | rfl) <;> revert this <;> decide
    refine ⟨'0' :: d :: ds, 8, ?_, by decide, List.cons_ne_nil _ _, ?_,
      digitsValue_cons_zero _ _⟩
    · simp only [parseNumberFormat, NumPrefix.chars, if_neg hd.1, if_neg hd.2,
        List.singleton_append, List.cons_append, List.nil_append]
    · simpa [show isNumeric '0' 8 = true by decide] using hvalid
  | decimal =>
    by_cases h0 : d = '0'
    · subst h0
      obtain rfl : ds = [] := by simpa using hlead rfl rfl
      have hzero : ∀ base, 2 ≤ base → ∀ c ∈ ['0'], isNumeric c base := by
        intro base hb c hc
        simp only [List.mem_singleton] at hc
        subst hc
        simp [isNumeric, show digitValue '0' = some 0 by decide]
        omega
      have hval : ∀ base, digitsValue base ['0'] = 0 := fun base => by
        simp [digitsValue, show digitValue '0' = some 0 by decide]
      cases r with
      | nil =>
        refine ⟨['0'], 10, ?_, by decide, hne, hvalid, rfl⟩
        simp only [NumPrefix.chars, List.nil_append, List.append_nil]
        rfl
      | cons c r =>
        have hc : ¬(c = 'x' ∨ c = 'X') ∧ ¬(c = 'b' ∨ c = 'B') := by
          have := hr c rfl
          refine ⟨?_, ?_⟩ <;> rintro (rfl | rfl) <;> revert this <;> decide
        refine ⟨['0'], 8, ?_, by decide, hne, hzero 8 (by decide), by rw [hval, hval]⟩
        simp only [parseNumberFormat, NumPrefix.chars, if_neg hc.1, if_neg hc.2,
          List.singleton_append, List.nil_append]
    · refine ⟨d :: ds, 10, ?_, by decide, hne, hvalid, rfl⟩
      unfold parseNumberFormat
      split
      · rename_i heq
        simp only [NumPrefix.chars, List.nil_append, List.cons_append, List.cons.injEq] at heq
        exact absurd heq.1 h0
      · rfl

/-- `parse_num` hands the text after an optional `-` to its format part, whenever there is text
after the `-` and, without a `-`, the text does not itself start with one. -/
theorem parseNum_signChars (negative : Bool) {body : List Char} (hne : body ≠ [])
    (hhead : ∀ c ∈ body.head?, c ≠ '-') :
    parseNum (signChars negative ++ body) = parseNumberFormat negative body := by
  obtain ⟨c, cs, rfl⟩ := List.exists_cons_of_ne_nil hne
  cases negative
  · have hc : c ≠ '-' := hhead c rfl
    unfold parseNum
    split <;> simp_all
  · rfl

/-- The text of a literal after its sign is nonempty and does not start with `-`. -/
theorem NumLiteral.body_head (lit : NumLiteral) (r : List Char) :
    lit.pfx.chars ++ lit.digits ++ r ≠ [] ∧
      ∀ c ∈ (lit.pfx.chars ++ lit.digits ++ r).head?, c ≠ '-' := by
  obtain ⟨negative, pfx, digits, hne, hvalid, hlead⟩ := lit
  obtain ⟨d, ds, rfl⟩ := List.exists_cons_of_ne_nil hne
  have hd : d ≠ '-' := by
    rintro rfl
    simp [not_isNumeric_minus] at hvalid
  cases pfx <;> simp [NumPrefix.chars, hd]

/-- Completeness of `parse_num` on the values it can return: every literal of the number grammar
whose value lies in `[-(2^31-1), 2^31-1]`, followed by a suffix that does not start with a letter
or a digit, is read with its value, leaving the view at the suffix. -/
theorem parseNum_complete (lit : NumLiteral) (r : List Char)
    (hv : -(2^31 - 1) ≤ lit.value ∧ lit.value ≤ 2^31 - 1)
    (hr : ∀ c ∈ r.head?, c.isAlphanum = false) :
    ∃ v, parseNum (lit.chars ++ r) = (.ok v, r) ∧ v.toInt = lit.value := by
  obtain ⟨ds, base, hfmt, hbase, hne, hds, hval⟩ := parseNumberFormat_literal lit hr
  have hlt : digitsValue base ds < 2^31 := by
    unfold NumLiteral.value signed at hv
    split at hv <;> omega
  obtain ⟨v, hv', hvint⟩ := parseIntegral_digits lit.negative hbase hne hds
    (fun c hc => not_isNumeric_of_not_isAlphanum (hr c hc) 16) hlt
  obtain ⟨hbne, hbhead⟩ := lit.body_head r
  refine ⟨v, ?_, by rw [hvint, hval]; rfl⟩
  rw [NumLiteral.chars, List.append_assoc, List.append_assoc, ← List.append_assoc lit.pfx.chars,
    parseNum_signChars _ hbne hbhead, hfmt, hv']

/-- `-0x1F` followed by `,` reads back as -31. -/
theorem parseNum_complete_negative_hex :
    let lit : NumLiteral := ⟨true, .hex false, ['1', 'F'], by decide, by decide, by decide⟩
    (-(2^31 - 1) ≤ lit.value ∧ lit.value ≤ 2^31 - 1) ∧
      (∀ c ∈ [','].head?, c.isAlphanum = false) ∧
      ∃ v, parseNum (lit.chars ++ [',']) = (.ok v, [',']) ∧ v.toInt = lit.value := by
  intro lit
  have hv : -(2^31 - 1) ≤ lit.value ∧ lit.value ≤ 2^31 - 1 := by decide
  have hr : ∀ c ∈ [','].head?, c.isAlphanum = false := by decide
  exact ⟨hv, hr, parseNum_complete lit [','] hv hr⟩

/-- Every literal of the grammar with value `-2^31` is rejected: `parse_num` reads the magnitude
`2^31` into an `int32_t` before negating it. -/
theorem parseNum_int32_min_fails (lit : NumLiteral) (r : List Char) (hv : lit.value = -2^31)
    (hr : ∀ c ∈ r.head?, c.isAlphanum = false) :
    ∃ msg rest, parseNum (lit.chars ++ r) = (.error msg, rest) := by
  obtain ⟨ds, base, hfmt, hbase, hne, hds, hval⟩ := parseNumberFormat_literal lit hr
  have hge : 2^31 ≤ digitsValue base ds := by
    unfold NumLiteral.value signed at hv
    split at hv <;> omega
  obtain ⟨msg, hmsg⟩ := parseIntegral_overflow lit.negative hbase hne hds
    (fun c hc => not_isNumeric_of_not_isAlphanum (hr c hc) 16) hge
  obtain ⟨hbne, hbhead⟩ := lit.body_head r
  refine ⟨msg, ds ++ r, ?_⟩
  rw [NumLiteral.chars, List.append_assoc, List.append_assoc, ← List.append_assoc lit.pfx.chars,
    parseNum_signChars _ hbne hbhead, hfmt, hmsg]

/-- `-0x80000000`, the value `-2^31` in hex, is rejected like its decimal spelling. -/
theorem parseNum_int32_min_fails_hex :
    let lit : NumLiteral :=
      ⟨true, .hex false, ['8', '0', '0', '0', '0', '0', '0', '0'], by decide, by decide, by decide⟩
    lit.value = -2^31 ∧ (∀ c ∈ ([] : List Char).head?, c.isAlphanum = false) ∧
      ∃ msg rest, parseNum (lit.chars ++ []) = (.error msg, rest) := by
  intro lit
  have hv : lit.value = -2^31 := by decide
  exact ⟨hv, by decide, parseNum_int32_min_fails lit [] hv (by decide)⟩

/-- The literal `-2147483648`, whose value `-2^31` is an `int32_t`, is rejected. -/
theorem parseNum_rejects_int32_min :
    parseNum "-2147483648".toList =
      (.error "Failed to parse number '2147483648': Numerical result out of range",
        "2147483648".toList) := rfl

/-! ## Invalid digits

`parse_integral` scans the whole run of hex digits before reading it, so a digit that is a hex
digit but not a digit of the selected base (`8` in an octal literal, `a` in a decimal one) is an
error, not the end of the number. -/

/-- On digits of `base` followed by a hex digit that is not one, `parse_integral` fails naming the
text up to that digit, and leaves the view at it. -/
theorem parseIntegral_invalid_digit (isNegative : Bool) {ds rest : List Char} {digit : Char}
    {base : Nat} (hbase : base ≤ 16) (hds : ∀ d ∈ ds, isNumeric d base)
    (hhex : isNumeric digit 16 = true) (hbad : isNumeric digit base = false) :
    parseIntegral isNegative (ds ++ digit :: rest) base =
      (.error ("Failed to parse number: '" ++ String.mk (ds ++ [digit]) ++ "': Invalid digit '" ++
        digit.toString ++ "' for base " ++ toString base), digit :: rest) := by
  have hbad' : ¬isNumeric digit base = true := by simp [hbad]
  simp only [parseIntegral, List.span_eq_take_drop,
    List.takeWhile_append_of_pos fun d hd => isNumeric_mono (hds d hd) hbase,
    @List.takeWhile_cons_of_pos _ (isNumeric · 16) _ _ hhex, List.takeWhile_append_of_pos hds,
    List.dropWhile_append_of_pos hds, @List.takeWhile_cons_of_neg _ (isNumeric · base) _ _ hbad',
    @List.dropWhile_cons_of_neg _ (isNumeric · base) _ _ hbad', List.append_nil, List.drop_left]

/-- The format part of `parse_num` runs `parse_integral` after the prefix, in the base the rule
selects. -/
theorem parseNumberFormat_of_selectsBase (isNegative : Bool) {body pfx : List Char} {base : Nat}
    (h : SelectsBase body pfx base) :
    parseNumberFormat isNegative body = parseIntegral isNegative (body.drop pfx.length) base := by
  cases h with
  | hex hx => simp [parseNumberFormat, hx]
  | @bin b _ hb =>
    have hx : ¬(b = 'x' ∨ b = 'X') := by rcases hb with rfl | rfl <;> decide
    simp [parseNumberFormat, hb, hx]
  | octal hx hb => simp [parseNumberFormat, hx, hb]
  | decimal hnot =>
    unfold parseNumberFormat
    split
    · exact absurd rfl (hnot _ _)
    · rfl

theorem SelectsBase.base_le {body pfx : List Char} {base : Nat} (h : SelectsBase body pfx base) :
    base ≤ 16 := by
  cases h <;> decide

/-- `parse_num` on an optional `-`, the prefix the rule selects, digits of its base and then a hex
digit that is not one fails with the error `Invalid digit`, which quotes the digits up to and
including that one (an octal literal's with its `0`), and leaves the view at the digit. -/
theorem parseNum_invalid_digit (negative : Bool) {pfx ds rest : List Char} {digit : Char}
    {base : Nat} (hsel : SelectsBase (pfx ++ ds ++ digit :: rest) pfx base)
    (hds : ∀ d ∈ ds, isNumeric d base) (hhex : isNumeric digit 16 = true)
    (hbad : isNumeric digit base = false) :
    parseNum (signChars negative ++ pfx ++ ds ++ digit :: rest) =
      (.error ("Failed to parse number: '" ++ String.mk (ds ++ [digit]) ++ "': Invalid digit '" ++
        digit.toString ++ "' for base " ++ toString base), digit :: rest) := by
  have hbase := hsel.base_le
  have hhead : ∀ c ∈ (pfx ++ ds ++ digit :: rest).head?, c ≠ '-' := by
    generalize hb : pfx ++ ds ++ digit :: rest = body at hsel
    cases hsel with
    | decimal _ =>
      subst hb
      cases ds with
      | nil => simpa using ne_minus_of_isNumeric hhex
      | cons d _ => simpa using ne_minus_of_isNumeric (hds d (List.mem_cons_self _ _))
    | _ => simp
  rw [List.append_assoc (signChars negative), List.append_assoc (signChars negative),
    parseNum_signChars negative (by simp) hhead,
    parseNumberFormat_of_selectsBase _ hsel, List.append_assoc, List.drop_left,
    parseIntegral_invalid_digit negative hbase hds hhex hbad]

/-- `-0b102,` fails at the `2`, quoting `102`. -/
theorem parseNum_invalid_digit_binary :
    SelectsBase (['0', 'b'] ++ ['1', '0'] ++ '2' :: [',']) ['0', 'b'] 2 ∧
      (∀ d ∈ ['1', '0'], isNumeric d 2) ∧ isNumeric '2' 16 = true ∧ isNumeric '2' 2 = false ∧
      parseNum (signChars true ++ ['0', 'b'] ++ ['1', '0'] ++ '2' :: [',']) =
        (.error "Failed to parse number: '102': Invalid digit '2' for base 2", ['2', ',']) :=
  ⟨.bin (.inl rfl), by decide, rfl, rfl,
    (@parseNum_invalid_digit true ['0', 'b'] ['1', '0'] [','] '2' 2 (.bin (.inl rfl)) (by decide)
      rfl rfl).trans rfl⟩

/-! ## `str_to_reg` -/

/-- `RegisterType`: the kinds of registers. -/
inductive RegisterType
  | vector
  | scalar
  | pc
  deriving DecidableEq, Repr

/-- Modelled from the spec: `RegisterData` (declared outside src/) is a register's kind and its
number, an `int32_t`; `RegisterData{}`, from which `str_to_reg` starts, has the first kind and
number 0, so that a `PC` register carries number 0. -/
structure RegisterData where
  type : RegisterType := .vector
  registerNumber : BitVec 32 := 0
  deriving DecidableEq, Repr

/-- Modelled from the spec: `RegisterData::is_scalar()` holds of the scalar registers. -/
def RegisterData.isScalar (r : RegisterData) : Bool := r.type == .scalar

/-- The number part of `str_to_reg`, once the prefix letter has given the kind `type`: whatever
`std::from_chars` reads from the rest of the name, in base ten. -/
def strToRegNumber (type : RegisterType) (regNumStr : List Char) : Except String RegisterData :=
  match fromChars regNumStr 10 with
  | (_, .ok regNum) => .ok { type, registerNumber := regNum }
  | (_, .error ec) =>
    .error ("Failed to parse register number '" ++ String.mk regNumStr ++ "': " ++ ec.message)

/-- `as::str_to_reg`: `x` (vector) or `s` (scalar) and a number, or `pc`. -/
def strToReg (str : List Char) : Except String RegisterData :=
  if str.length < 2 then .error ("Invalid register name: '" ++ String.mk str ++ "'")
  else
    match str with
    | 'x' :: regNumStr => strToRegNumber .vector regNumStr
    | 's' :: regNumStr => strToRegNumber .scalar regNumStr
    | _ =>
      if str = ['p', 'c'] then .ok { type := .pc }
      else .error ("Invalid register name: '" ++ String.mk str ++ "'")

theorem strToRegNumber_ok {type : RegisterType} {regNumStr : List Char} {r : RegisterData}
    (h : strToRegNumber type regNumStr = .ok r) :
    r.type = type ∧ ∃ negative ds rest, regNumStr = signChars negative ++ ds ++ rest ∧
      ds ≠ [] ∧ (∀ d ∈ ds, d.isDigit) ∧ (∀ c ∈ rest.head?, c.isDigit = false) ∧
      r.registerNumber.toInt = signed negative (digitsValue 10 ds) := by
  unfold strToRegNumber at h
  split at h
  · rename_i n regNum hfc
    simp only [Except.ok.injEq] at h
    subst h
    obtain ⟨negative, ds, rest, hs, hne, hds, hrest, -, -, hv⟩ := fromChars_ok hfc
    refine ⟨rfl, negative, ds, rest, hs, hne, fun d hd => ?_, fun c hc => ?_, hv⟩
    · rw [← isNumeric_ten]; exact hds d hd
    · rw [← isNumeric_ten]; exact hrest c hc
  · simp at h

/-- What `str_to_reg` accepts: `pc`, with number 0, or the prefix letter of a vector or scalar
register followed by an optional `-` and the longest nonempty run of decimal digits, whose
signed value is the register number; the characters after the run are not looked at, and the
number is not compared with the 32 registers of a kind. -/
theorem strToReg_ok {str : List Char} {r : RegisterData} (h : strToReg str = .ok r) :
    (r.type = .pc ∧ str = ['p', 'c'] ∧ r.registerNumber = 0) ∨
    ∃ letter negative ds rest,
      (letter = 'x' ∧ r.type = .vector ∨ letter = 's' ∧ r.type = .scalar) ∧
      str = letter :: (signChars negative ++ ds ++ rest) ∧ ds ≠ [] ∧ (∀ d ∈ ds, d.isDigit) ∧
      (∀ c ∈ rest.head?, c.isDigit = false) ∧
      r.registerNumber.toInt = signed negative (digitsValue 10 ds) := by
  unfold strToReg at h
  by_cases hlen : str.length < 2
  · simp [hlen] at h
  rw [if_neg hlen] at h
  split at h
  · obtain ⟨htype, negative, ds, rest, hs, hrest⟩ := strToRegNumber_ok h
    exact .inr ⟨'x', negative, ds, rest, .inl ⟨rfl, htype⟩, by rw [hs], hrest⟩
  · obtain ⟨htype, negative, ds, rest, hs, hrest⟩ := strToRegNumber_ok h
    exact .inr ⟨'s', negative, ds, rest, .inr ⟨rfl, htype⟩, by rw [hs], hrest⟩
  · split_ifs at h with hpc
    simp only [Except.ok.injEq] at h
    exact .inl ⟨by rw [← h], hpc, by rw [← h]⟩

/-- The number part of `str_to_reg` reads back the decimal text of any register number. -/
theorem strToRegNumber_toString (type : RegisterType) (n : BitVec 32) :
    strToRegNumber type (toString n.toInt).toList = .ok ⟨type, n⟩ := by
  obtain ⟨hne, hd, hval⟩ := toDigits_ten n.toInt.natAbs
  have hv : signed (decide (n.toInt < 0)) (digitsValue 10 (Nat.toDigits 10 n.toInt.natAbs)) =
      n.toInt := by
    rw [hval, signed_natAbs]
  rw [strToRegNumber, toString_toList,
    fromChars_signChars_digits _ hne hd (by rw [hv]; exact inInt32_toInt n), hv]
  simp only [Except.ok.injEq]
  exact congrArg _ (BitVec.eq_of_toInt_eq (toInt_ofInt_of_inInt32 (inInt32_toInt n)))

/-- `s7` reads as scalar register 7. -/
theorem strToReg_ok_scalar :
    strToReg "s7".toList = .ok { type := .scalar, registerNumber := 7 } ∧
    ((({ type := .scalar, registerNumber := 7 } : RegisterData).type = .pc ∧
        "s7".toList = ['p', 'c'] ∧
        ({ type := .scalar, registerNumber := 7 } : RegisterData).registerNumber = 0) ∨
    ∃ letter negative ds rest,
      (letter = 'x' ∧ ({ type := .scalar, registerNumber := 7 } : RegisterData).type = .vector ∨
        letter = 's' ∧ ({ type := .scalar, registerNumber := 7 } : RegisterData).type = .scalar) ∧
      "s7".toList = letter :: (signChars negative ++ ds ++ rest) ∧ ds ≠ [] ∧
      (∀ d ∈ ds, d.isDigit) ∧ (∀ c ∈ rest.head?, c.isDigit = false) ∧
      ({ type := .scalar, registerNumber := 7 } : RegisterData).registerNumber.toInt =
        signed negative (digitsValue 10 ds)) :=
  ⟨rfl, strToReg_ok rfl⟩

/-- `x32` reads as vector register 32, `x-1` as vector register -1 and `x5q` as vector register 5:
no register number is checked against the 32 registers of a kind, and the rest of the name after
the number is not checked. -/
theorem strToReg_accepts_unchecked_numbers :
    strToReg "x32".toList = .ok { type := .vector, registerNumber := 32 } ∧
    strToReg "x-1".toList = .ok { type := .vector, registerNumber := -1 } ∧
    strToReg "x5q".toList = .ok { type := .vector, registerNumber := 5 } :=
  ⟨rfl, rfl, rfl⟩

end As
end RiscvGpu
