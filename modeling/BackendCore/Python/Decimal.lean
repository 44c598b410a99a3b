import BackendCore.Python.Text

/-!
# `decimal.Decimal` of a text

The constructor as `_decimal` implements it: white space is stripped at both
ends, underscores are ignored wherever they stand, decimals of any script count
as digits, and `NaN`, `sNaN` and `Infinity` are values.  A number whose exponent
does not fit the widest context is refused like a syntax error.
-/

set_option autoImplicit false

namespace BackendCore.Python

inductive Decimal where
  | finite (negative : Bool) (coefficient : Nat) (exponent : Int)
  | infinity (negative : Bool)
  | nan
  deriving DecidableEq, Repr

namespace Decimal

def maxEmax : Int := 999999999999999999

def minEtiny : Int := -1999999999999999997

/-- Plain digits, possibly none. -/
def plainDigits (chars : List Char) : Option (List Nat) :=
  chars.mapM fun c => if 48 ≤ c.toNat ∧ c.toNat ≤ 57 then some (c.toNat - 48) else none

/-- Digits with at most one point: the digits and how many follow the point. -/
def scanCoefficient (chars : List Char) : Option (List Nat × Nat) :=
  let whole := chars.takeWhile (· ≠ '.')
  let fraction := (chars.dropWhile (· ≠ '.')).drop 1
  match plainDigits whole, plainDigits fraction with
  | some left, some right =>
    if (left ++ right).isEmpty then none else some (left ++ right, right.length)
  | _, _ => none

def scanExponent (chars : List Char) : Option Int :=
  let (negative, body) := splitSign chars
  match plainDigits body with
  | some values =>
    if values.isEmpty then none
    else
      let magnitude : Int := ofDigitList 10 values
      some (if negative then -magnitude else magnitude)
  | none => none

/-- A finite number in the widest context: the result has to be exact. -/
def ofParts (negative : Bool) (values : List Nat) (exponent : Int) : Option Decimal :=
  let coefficient := ofDigitList 10 values
  let adjusted := exponent + (Nat.log 10 coefficient : Int)
  if adjusted ≤ maxEmax ∧ minEtiny ≤ exponent then
    some (.finite negative coefficient exponent)
  else none

def scanNumber (negative : Bool) (chars : List Char) : Option Decimal :=
  let isE : Char → Bool := fun c => c = 'e' || c = 'E'
  let mantissa := chars.takeWhile (fun c => !isE c)
  match scanCoefficient mantissa with
  | none => none
  | some (values, places) =>
    match chars.dropWhile (fun c => !isE c) with
    | [] => ofParts negative values (-(places : Int))
    | _ :: exponent =>
      match scanExponent exponent with
      | none => none
      | some shift => ofParts negative values (shift - places)

/-- `Decimal(text)`; `none` is `InvalidOperation`. -/
def parse (text : String) : Option Decimal :=
  let chars := ((stripWhere isSpaceChar text.toList).filter (· ≠ '_')).map toAsciiDecimal
  let (negative, body) := splitSign chars
  let word := body.map lowerChar
  if word = "inf".toList ∨ word = "infinity".toList then some (.infinity negative)
  else if word.take 3 = "nan".toList ∧ (plainDigits (word.drop 3)).isSome then some .nan
  else if word.take 4 = "snan".toList ∧ (plainDigits (word.drop 4)).isSome then some .nan
  else scanNumber negative body

/-- `coefficient * 10 ** exponent` where that is a whole number. -/
def magnitude? (coefficient : Nat) (exponent : Int) : Option Nat :=
  if 0 ≤ exponent then some (coefficient * 10 ^ exponent.toNat)
  else if coefficient % 10 ^ (-exponent).toNat = 0 then
    some (coefficient / 10 ^ (-exponent).toNat)
  else none

/-- The integer a finite number denotes, if it denotes one. -/
def integral? (negative : Bool) (coefficient : Nat) (exponent : Int) : Option Int :=
  (magnitude? coefficient exponent).map fun (magnitude : Nat) =>
    if negative then -(magnitude : Int) else (magnitude : Int)

/-! ## The denoted number -/

def value (negative : Bool) (coefficient : Nat) (exponent : Int) : ℚ :=
  (if negative then -1 else 1) * coefficient * 10 ^ exponent

theorem magnitude?_eq_some_iff (coefficient magnitude : Nat) (exponent : Int) :
    magnitude? coefficient exponent = some magnitude ↔
      (coefficient : ℚ) * 10 ^ exponent = magnitude := by
  unfold magnitude?
  by_cases whole : 0 ≤ exponent
  · obtain ⟨places, rfl⟩ := Int.eq_ofNat_of_zero_le whole
    simp only [whole, if_true, Int.toNat_natCast, Option.some.injEq, zpow_natCast]
    norm_cast
  · obtain ⟨places, rfl⟩ : ∃ places : Nat, exponent = -(places : Int) :=
      ⟨(-exponent).toNat, by omega⟩
    have positive : (0 : ℚ) < 10 ^ places := by positivity
    rw [if_neg whole, neg_neg, Int.toNat_natCast, zpow_neg, zpow_natCast, ← div_eq_mul_inv,
      div_eq_iff positive.ne']
    have scaled : (coefficient : ℚ) = magnitude * 10 ^ places ↔
        coefficient = magnitude * 10 ^ places := by norm_cast
    rw [scaled]
    have nonzero : 0 < 10 ^ places := Nat.pos_of_ne_zero (by positivity)
    constructor
    · intro divides
      split at divides
      · rename_i exact
        rw [← Option.some.inj divides]
        exact (Nat.div_mul_cancel (Nat.dvd_of_mod_eq_zero exact)).symm
      · cases divides
    · intro product
      rw [product, if_pos (Nat.mul_mod_left _ _), Nat.mul_div_cancel _ nonzero]

theorem integral?_eq_some_iff (negative : Bool) (coefficient : Nat) (exponent number : Int) :
    integral? negative coefficient exponent = some number ↔
      value negative coefficient exponent = number := by
  unfold integral? value
  rw [Option.map_eq_some_iff]
  constructor
  · rintro ⟨magnitude, found, rfl⟩
    rw [mul_assoc, (magnitude?_eq_some_iff _ _ _).mp found]
    cases negative <;> simp
  · intro denotes
    have nonneg : (0 : ℚ) ≤ (coefficient : ℚ) * 10 ^ exponent := by positivity
    have absolute : (coefficient : ℚ) * 10 ^ exponent = number.natAbs := by
      rw [Nat.cast_natAbs, Int.cast_abs, ← denotes, mul_assoc, abs_mul, abs_of_nonneg nonneg]
      cases negative <;> simp
    refine ⟨number.natAbs, (magnitude?_eq_some_iff _ _ _).mpr absolute, ?_⟩
    rw [mul_assoc, absolute] at denotes
    cases negative with
    | true =>
      have cast : ((-(number.natAbs : Int) : Int) : ℚ) = number := by simpa using denotes
      simpa using Int.cast_injective cast
    | false =>
      have cast : ((number.natAbs : Int) : ℚ) = number := by simpa using denotes
      simpa using Int.cast_injective cast

theorem nonneg_of_integral? {negative : Bool} {coefficient : Nat} {exponent number : Int}
    (whole : integral? negative coefficient exponent = some number)
    (above : ¬ (negative = true ∧ coefficient ≠ 0)) : 0 ≤ number := by
  obtain ⟨magnitude, found, rfl⟩ := Option.map_eq_some_iff.mp whole
  cases negative with
  | false => simp
  | true =>
    have blank : coefficient = 0 := by simpa using above
    have zero := (magnitude?_eq_some_iff _ _ _).mp found
    rw [blank, Nat.cast_zero, zero_mul] at zero
    have none : magnitude = 0 := by exact_mod_cast zero.symm
    simp [none]

/-! ## The text of a whole number -/

theorem plainDigits_of_digits {chars : List Char}
    (digits : ∀ c ∈ chars, 48 ≤ c.toNat ∧ c.toNat ≤ 57) :
    plainDigits chars = some (chars.map fun c => c.toNat - 48) := by
  induction chars with
  | nil => rfl
  | cons c rest hypothesis =>
    have tail := hypothesis fun d member => digits d (List.mem_cons_of_mem c member)
    unfold plainDigits at tail ⊢
    rw [List.mapM_cons, tail, if_pos (digits c List.mem_cons_self)]
    rfl

theorem scanNumber_of_digits {chars : List Char}
    (digits : ∀ c ∈ chars, 48 ≤ c.toNat ∧ c.toNat ≤ 57) (nonempty : chars ≠ []) (negative : Bool) :
    scanNumber negative chars = ofParts negative (chars.map fun c => c.toNat - 48) 0 := by
  have differs : ∀ c ∈ chars, ∀ other : Char, ¬ (48 ≤ other.toNat ∧ other.toNat ≤ 57) →
      c ≠ other := by
    intro c member other outside same
    rw [same] at member
    exact outside (digits other member)
  have all : ∀ keep : Char → Bool, (∀ c ∈ chars, keep c = true) →
      chars.takeWhile keep = chars ∧ chars.dropWhile keep = [] := by
    intro keep kept
    exact ⟨List.takeWhile_eq_self_iff.mpr kept, List.dropWhile_eq_nil_iff.mpr kept⟩
  obtain ⟨mantissa, noExponent⟩ := all (fun c => !(decide (c = 'e') || decide (c = 'E'))) (by
    intro c member
    simp [differs c member 'e' (by decide), differs c member 'E' (by decide)])
  obtain ⟨whole, noPoint⟩ := all (· ≠ '.') (by
    intro c member
    simp [differs c member '.' (by decide)])
  have values : (chars.map fun c => c.toNat - 48) ≠ [] := by simpa using nonempty
  have coefficient : scanCoefficient chars = some (chars.map (fun c => c.toNat - 48), 0) := by
    simp only [scanCoefficient, whole, noPoint, plainDigits_of_digits digits, List.drop_nil]
    simp [plainDigits, nonempty]
  simp only [scanNumber, mantissa, noExponent, coefficient]
  rfl

theorem parse_of_digits {chars : List Char} (digits : ∀ c ∈ chars, 48 ≤ c.toNat ∧ c.toNat ≤ 57)
    (nonempty : chars ≠ []) :
    parse (String.ofList chars) = ofParts false (chars.map fun c => c.toNat - 48) 0 := by
  have stripped : stripWhere isSpaceChar chars = chars :=
    stripWhere_eq_self fun c member => not_isSpaceChar_of_digit (digits c member)
  have unscored : chars.filter (· ≠ '_') = chars := by
    rw [List.filter_eq_self]
    intro c member
    have range := digits c member
    rw [decide_eq_true_eq]
    rintro rfl
    exact absurd range (by decide)
  have ascii : chars.map toAsciiDecimal = chars :=
    (List.map_congr_left fun c member => toAsciiDecimal_of_digit (digits c member)).trans
      (List.map_id chars)
  have word : chars.map lowerChar = chars :=
    (List.map_congr_left fun c member => lowerChar_of_digit (digits c member)).trans
      (List.map_id chars)
  -- None of the words for special values consists of digits.
  have noWord : ∀ letter : Char, ¬ (48 ≤ letter.toNat ∧ letter.toNat ≤ 57) → letter ∉ chars :=
    fun letter outside member => outside (digits letter member)
  have notInf : ∀ text : List Char, 'n' ∈ text → chars ≠ text := by
    rintro text letter rfl
    exact noWord 'n' (by decide) letter
  have notNan : ∀ count : Nat, ∀ text : List Char, 'n' ∈ text → chars.take count ≠ text := by
    rintro count text letter rfl
    exact noWord 'n' (by decide) (List.mem_of_mem_take letter)
  unfold parse
  simp only [String.toList_ofList, stripped, unscored, ascii, splitSign_of_digits digits, word]
  rw [if_neg (by
      rintro (inf | infinity)
      · exact notInf _ (by decide) inf
      · exact notInf _ (by decide) infinity),
    if_neg (fun nan => notNan 3 _ (by decide) nan.1),
    if_neg (fun nan => notNan 4 _ (by decide) nan.1), scanNumber_of_digits digits nonempty]

/-- `Decimal(str(number))`. -/
theorem parse_toString {number : Nat} (small : (Nat.log 10 number : Int) ≤ maxEmax) :
    parse (toString number) = some (.finite false number 0) := by
  have digits : ∀ c ∈ Nat.toDigits 10 number, 48 ≤ c.toNat ∧ c.toNat ≤ 57 := by
    intro c member
    have digit := Nat.isDigit_of_mem_toDigits (by decide) (by decide) member
    simp only [Char.isDigit, Bool.and_eq_true, decide_eq_true_eq] at digit
    exact digit
  have value : ofDigitList 10 ((Nat.toDigits 10 number).map fun c => c.toNat - 48) = number := by
    rw [ofDigitList, List.foldl_map]
    have reads := Nat.ofDigitChars_ten_toDigits (n := number)
    rw [Nat.ofDigitChars_eq_foldl] at reads
    simpa [Nat.mul_comm] using reads
  rw [Nat.toString_eq_ofList_toDigits, parse_of_digits digits Nat.toDigits_ne_nil]
  simp only [ofParts, value]
  rw [if_pos]
  refine ⟨by omega, by decide⟩

end Decimal

end BackendCore.Python
