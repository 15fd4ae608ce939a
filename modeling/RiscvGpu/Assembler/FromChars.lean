import Mathlib.Data.BitVec

/-!
# FromChars — digits and `std::from_chars` into an `int32_t`

The assembler reads every number through `std::from_chars` (`src/unnamed/part_000`): `parse_num`
on a run of digits it has scanned itself, `str_to_reg` on whatever follows the register prefix.
This module fixes what a digit of a base is, the value of a run of digits, and `std::from_chars`
for `int32_t` as the C++ standard gives it: an optional `-`, then the longest run of digits of the
base; `invalid_argument` with nothing consumed when there is no digit, `result_out_of_range` when
the value does not fit, and otherwise the value with the end pointer just past the run.

`int32_t` values are `BitVec 32`, read back with `BitVec.toInt`. The decimal text `std::to_string`
writes is read back whole (`toDigits_ten`, `fromChars_signChars_digits`).
-/

namespace RiscvGpu
namespace As

/-! ## Digits -/

/-- Value of a digit character: `0`–`9`, then `a`–`z` and `A`–`Z` from ten on, as
`std::from_chars` reads the digits of bases up to 36. -/
def digitValue (c : Char) : Option Nat :=
  if c.isDigit then some (c.toNat - '0'.toNat)
  else if c.isLower then some (c.toNat - 'a'.toNat + 10)
  else if c.isUpper then some (c.toNat - 'A'.toNat + 10)
  else none

/-- Modelled from the spec: `is_numeric(c, base)` (declared in a header that is not under
src/) holds of the digits of `base`, so that `is_numeric(c, 16)` are the hex digits `0-9`,
`a-f`, `A-F`. -/
def isNumeric (c : Char) (base : Nat) : Bool :=
  match digitValue c with
  | some d => decide (d < base)
  | none => false

/-- Value of a run of digits of `base`, most significant digit first. -/
def digitsValue (base : Nat) (ds : List Char) : Nat :=
  ds.foldl (fun acc c => acc * base + (digitValue c).getD 0) 0

/-- The characters of an optional minus sign. -/
def signChars (negative : Bool) : List Char :=
  if negative then ['-'] else []

/-- A magnitude with an optional minus sign applied. -/
def signed (negative : Bool) (m : Nat) : Int :=
  if negative then -(m : Int) else m

@[simp] theorem signChars_false : signChars false = [] := rfl
@[simp] theorem signChars_true : signChars true = ['-'] := rfl
@[simp] theorem signed_false (m : Nat) : signed false m = m := rfl
@[simp] theorem signed_true (m : Nat) : signed true m = -(m : Int) := rfl

theorem isNumeric_mono {c : Char} {base base' : Nat} (h : isNumeric c base) (hle : base ≤ base') :
    isNumeric c base' := by
  unfold isNumeric at *
  split at h <;> simp_all
  omega

/-- The digits of base ten are the decimal digits. -/
theorem isNumeric_ten (c : Char) : isNumeric c 10 = c.isDigit := by
  unfold isNumeric digitValue
  split_ifs with hd
  · simp only [hd, decide_eq_true_eq]
    simp only [Char.isDigit, Bool.and_eq_true, decide_eq_true_eq] at hd
    have : c.toNat ≤ 57 := hd.2
    show c.toNat - 48 < 10
    omega
  all_goals simp_all

theorem isAlphanum_of_isNumeric {c : Char} {base : Nat} (h : isNumeric c base) : c.isAlphanum := by
  unfold isNumeric digitValue at h
  simp only [Char.isAlphanum, Char.isAlpha, Bool.or_eq_true]
  split_ifs at h with h1 h2 h3 <;> simp_all

theorem not_isNumeric_minus (base : Nat) : isNumeric '-' base = false := rfl

theorem ne_minus_of_isNumeric {c : Char} {base : Nat} (h : isNumeric c base) : c ≠ '-' := by
  rintro rfl
  simp [not_isNumeric_minus] at h

/-! ## Decimal text -/

theorem isNumeric_digitChar {d : Nat} (h : d < 10) :
    isNumeric (Nat.digitChar d) 10 ∧ digitValue (Nat.digitChar d) = some d :=
  (by decide : ∀ d < 10, isNumeric (Nat.digitChar d) 10 ∧ digitValue (Nat.digitChar d) = some d)
    d h

/-- One step of `Nat.toDigitsCore` in base ten: emit the last digit, then the others. -/
theorem toDigitsCore_succ (fuel n : Nat) (ds : List Char) :
    Nat.toDigitsCore 10 (fuel + 1) n ds =
      if n / 10 = 0 then Nat.digitChar (n % 10) :: ds
      else Nat.toDigitsCore 10 fuel (n / 10) (Nat.digitChar (n % 10) :: ds) := rfl

theorem toDigitsCore_append (fuel n : Nat) (ds : List Char) :
    Nat.toDigitsCore 10 fuel n ds = Nat.toDigitsCore 10 fuel n [] ++ ds := by
  induction fuel generalizing n ds with
  | zero => rfl
  | succ fuel ih =>
    rw [toDigitsCore_succ, toDigitsCore_succ]
    split_ifs
    · rfl
    · rw [ih _ (_ :: ds), ih _ [_], List.append_assoc, List.singleton_append]

theorem digitsValue_concat (base : Nat) (ds : List Char) (c : Char) :
    digitsValue base (ds ++ [c]) = digitsValue base ds * base + (digitValue c).getD 0 := by
  simp [digitsValue, List.foldl_append]

theorem toDigitsCore_ten (fuel n : Nat) (hn : n < fuel) :
    Nat.toDigitsCore 10 fuel n [] ≠ [] ∧ (∀ c ∈ Nat.toDigitsCore 10 fuel n [], isNumeric c 10) ∧
      digitsValue 10 (Nat.toDigitsCore 10 fuel n []) = n := by
  induction fuel generalizing n with
  | zero => omega
  | succ fuel ih =>
    have hd := isNumeric_digitChar (Nat.mod_lt n (show 10 > 0 by decide))
    rw [toDigitsCore_succ]
    split_ifs with h0
    · refine ⟨List.cons_ne_nil _ _, by simpa using hd.1, ?_⟩
      simp [digitsValue, hd.2]
      omega
    · obtain ⟨-, hdig, hval⟩ := ih (n / 10) (by omega)
      rw [toDigitsCore_append, digitsValue_concat, hval, hd.2]
      refine ⟨by simp, fun c hc => ?_, by simp; omega⟩
      rcases List.mem_append.1 hc with hc | hc
      · exact hdig c hc
      · simp only [List.mem_singleton] at hc
        exact hc ▸ hd.1

/-- `Nat.repr` writes a nonempty run of decimal digits whose value is the number. -/
theorem toDigits_ten (n : Nat) :
    Nat.toDigits 10 n ≠ [] ∧ (∀ c ∈ Nat.toDigits 10 n, isNumeric c 10) ∧
      digitsValue 10 (Nat.toDigits 10 n) = n :=
  toDigitsCore_ten (n + 1) n (Nat.lt_succ_self n)

/-- `std::to_string` of an `int`: a `-` for a negative value, then the decimal digits of its
magnitude. -/
theorem toString_toList (v : Int) :
    (toString v).toList = signChars (decide (v < 0)) ++ Nat.toDigits 10 v.natAbs := by
  cases v with
  | ofNat m => rfl
  | negSucc m =>
    rw [decide_eq_true (Int.negSucc_lt_zero m)]
    rfl

theorem signed_natAbs (v : Int) : signed (decide (v < 0)) v.natAbs = v := by
  cases v with
  | ofNat m => rfl
  | negSucc m =>
    rw [decide_eq_true (Int.negSucc_lt_zero m), signed_true, Int.negSucc_eq]
    rfl

/-! ## Signed 32-bit values -/

/-- The range of `int32_t`. -/
def InInt32 (v : Int) : Prop := -2^31 ≤ v ∧ v < 2^31

instance (v : Int) : Decidable (InInt32 v) := inferInstanceAs (Decidable (_ ∧ _))

theorem inInt32_toInt (x : BitVec 32) : InInt32 x.toInt := by
  unfold InInt32
  constructor <;> simp only [BitVec.toInt_eq_toNat_cond] <;> split <;> omega

theorem toInt_ofInt_of_inInt32 {v : Int} (h : InInt32 v) : (BitVec.ofInt 32 v).toInt = v := by
  rw [BitVec.toInt_ofInt, Int.bmod_def]
  unfold InInt32 at h
  split <;> omega

/-- Negating a non-negative `int32_t` negates its value: no magnitude below `2^31` overflows. -/
theorem toInt_neg_ofInt {m : Int} (h0 : 0 ≤ m) (h : m < 2^31) :
    (-(BitVec.ofInt 32 m)).toInt = -m := by
  rw [BitVec.toInt_neg, toInt_ofInt_of_inInt32 ⟨by omega, h⟩, Int.bmod_def]
  split <;> omega

/-! ## `std::from_chars` -/

/-- The error codes `std::from_chars` reports. -/
inductive Errc
  | invalidArgument
  | resultOutOfRange
  deriving DecidableEq, Repr

/-- `std::make_error_code(ec).message()`. -/
def Errc.message : Errc → String
  | .invalidArgument => "Invalid argument"
  | .resultOutOfRange => "Numerical result out of range"

/-- The digits part of `std::from_chars`, after an optional `-` (`negative`) has been read. -/
def fromCharsDigits (negative : Bool) (s : List Char) (base : Nat) :
    Nat × Except Errc (BitVec 32) :=
  let ds := s.takeWhile (isNumeric · base)
  if ds = [] then (0, .error .invalidArgument)
  else
    let consumed := (signChars negative).length + ds.length
    let v := signed negative (digitsValue base ds)
    if InInt32 v then (consumed, .ok (BitVec.ofInt 32 v))
    else (consumed, .error .resultOutOfRange)

/-- `std::from_chars(first, last, value, base)` for an `int32_t` `value`: the number of characters
consumed (`ptr - first`) and the value stored or the error code. -/
def fromChars (s : List Char) (base : Nat) : Nat × Except Errc (BitVec 32) :=
  match s with
  | '-' :: rest => fromCharsDigits true rest base
  | _ => fromCharsDigits false s base

/-- On a nonempty run of digits of `base`, `std::from_chars` reads the whole run and fails only
when its value does not fit. -/
theorem fromChars_digits {ds : List Char} {base : Nat} (hne : ds ≠ [])
    (hd : ∀ c ∈ ds, isNumeric c base) :
    fromChars ds base =
      if digitsValue base ds < 2^31 then (ds.length, .ok (BitVec.ofInt 32 (digitsValue base ds)))
      else (ds.length, .error .resultOutOfRange) := by
  have htake : ds.takeWhile (isNumeric · base) = ds := List.takeWhile_eq_self_iff.mpr hd
  have hrange : InInt32 (digitsValue base ds) ↔ digitsValue base ds < 2^31 := by
    unfold InInt32; omega
  obtain ⟨c, cs, rfl⟩ := List.exists_cons_of_ne_nil hne
  have hc : c ≠ '-' := by
    rintro rfl
    simp [not_isNumeric_minus] at hd
  simp only [fromChars, fromCharsDigits, htake, hne, if_false, signChars_false, signed_false,
    List.length_nil, Nat.zero_add]
  split <;> simp_all [hrange]

theorem fromChars_nil (base : Nat) : fromChars [] base = (0, .error .invalidArgument) := rfl

/-- `std::from_chars` reads back an optional `-` and a run of decimal digits whose signed value is
an `int32_t`. -/
theorem fromChars_signChars_digits (negative : Bool) {ds : List Char} (hne : ds ≠ [])
    (hd : ∀ c ∈ ds, isNumeric c 10) (hr : InInt32 (signed negative (digitsValue 10 ds))) :
    fromChars (signChars negative ++ ds) 10 =
      ((signChars negative).length + ds.length,
        .ok (BitVec.ofInt 32 (signed negative (digitsValue 10 ds)))) := by
  have key : fromCharsDigits negative ds 10 =
      ((signChars negative).length + ds.length,
        .ok (BitVec.ofInt 32 (signed negative (digitsValue 10 ds)))) := by
    simp only [fromCharsDigits, List.takeWhile_eq_self_iff.mpr hd, hne, if_false, if_pos hr]
  cases negative
  · obtain ⟨c, cs, rfl⟩ := List.exists_cons_of_ne_nil hne
    have hc : c ≠ '-' := ne_minus_of_isNumeric (hd c (List.mem_cons_self _ _))
    unfold fromChars
    split
    · simp_all
    · exact key
  · exact key

/-- What a successful `std::from_chars` read: an optional `-`, then the longest nonempty run of
digits of `base`, whose signed value fits an `int32_t` and is the value stored. -/
theorem fromChars_ok {s : List Char} {base n : Nat} {v : BitVec 32}
    (h : fromChars s base = (n, .ok v)) :
    ∃ negative ds rest, s = signChars negative ++ ds ++ rest ∧ ds ≠ [] ∧
      (∀ c ∈ ds, isNumeric c base) ∧ (∀ c ∈ rest.head?, isNumeric c base = false) ∧
      n = (signChars negative).length + ds.length ∧
      InInt32 (signed negative (digitsValue base ds)) ∧
      v.toInt = signed negative (digitsValue base ds) := by
  have key : ∀ negative s', fromCharsDigits negative s' base = (n, .ok v) →
      ∃ ds rest, s' = ds ++ rest ∧ ds ≠ [] ∧
        (∀ c ∈ ds, isNumeric c base) ∧ (∀ c ∈ rest.head?, isNumeric c base = false) ∧
        n = (signChars negative).length + ds.length ∧
        InInt32 (signed negative (digitsValue base ds)) ∧
        v.toInt = signed negative (digitsValue base ds) := by
    intro negative s' h'
    unfold fromCharsDigits at h'
    dsimp only at h'
    split_ifs at h' with hne hr <;>
      simp only [Prod.mk.injEq, Except.ok.injEq, reduceCtorEq, and_false] at h'
    obtain ⟨rfl, rfl⟩ := h'
    refine ⟨_, _, (List.takeWhile_append_dropWhile _ s').symm, hne,
      fun _ hc => List.mem_takeWhile_imp (p := (isNumeric · base)) hc, ?_, rfl, hr,
      toInt_ofInt_of_inInt32 hr⟩
    intro c hc
    have := List.head?_dropWhile_not (isNumeric · base) s'
    rw [Option.mem_def] at hc
    simpa [hc] using this
  unfold fromChars at h
  split at h
  · obtain ⟨ds, rest, rfl, hrest⟩ := key true _ h
    exact ⟨true, ds, rest, by simp, hrest⟩
  · obtain ⟨ds, rest, rfl, hrest⟩ := key false _ h
    exact ⟨false, ds, rest, by simp, hrest⟩

end As
end RiscvGpu
