import Mathlib

/-!
# Python text

The parts of CPython's `str` and `int` that the payment adapters rely on.
Texts are Lean strings (sequences of Unicode scalar values).  The character
classes are the tables of Unicode 15.0, the version CPython 3.12 ships:
`str.isdigit` also accepts digits that are no decimals (superscripts, circled
digits), which `int()` refuses.
-/

set_option autoImplicit false

namespace BackendCore.Python

/-! ## Character classes -/

/-- Code points of the zeros of the 68 decimal digit blocks (category `Nd`). -/
def decimalZeros : List Nat :=
  [0x30, 0x660, 0x6F0, 0x7C0, 0x966, 0x9E6, 0xA66, 0xAE6, 0xB66, 0xBE6, 0xC66, 0xCE6, 0xD66,
    0xDE6, 0xE50, 0xED0, 0xF20, 0x1040, 0x1090, 0x17E0, 0x1810, 0x1946, 0x19D0, 0x1A80, 0x1A90,
    0x1B50, 0x1BB0, 0x1C40, 0x1C50, 0xA620, 0xA8D0, 0xA900, 0xA9D0, 0xA9F0, 0xAA50, 0xABF0,
    0xFF10, 0x104A0, 0x10D30, 0x11066, 0x110F0, 0x11136, 0x111D0, 0x112F0, 0x11450, 0x114D0,
    0x11650, 0x116C0, 0x11730, 0x118E0, 0x11950, 0x11C50, 0x11D50, 0x11DA0, 0x11F50, 0x16A60,
    0x16AC0, 0x16B50, 0x1D7CE, 0x1D7D8, 0x1D7E2, 0x1D7EC, 0x1D7F6, 0x1E140, 0x1E2F0, 0x1E4F0,
    0x1E950, 0x1FBF0]

/-- The digits that are not decimals, as inclusive ranges of code points. -/
def digitOnlyRanges : List (Nat × Nat) :=
  [(0xB2, 0xB3), (0xB9, 0xB9), (0x1369, 0x1371), (0x19DA, 0x19DA), (0x2070, 0x2070),
    (0x2074, 0x2079), (0x2080, 0x2089), (0x2460, 0x2468), (0x2474, 0x247C), (0x2488, 0x2490),
    (0x24EA, 0x24EA), (0x24F5, 0x24FD), (0x24FF, 0x24FF), (0x2776, 0x277E), (0x2780, 0x2788),
    (0x278A, 0x2792), (0x10A40, 0x10A43), (0x10E60, 0x10E68), (0x11052, 0x1105A),
    (0x1F100, 0x1F10A)]

/-- White space above ASCII. -/
def wideSpaces : List Nat :=
  [0x85, 0xA0, 0x1680, 0x2000, 0x2001, 0x2002, 0x2003, 0x2004, 0x2005, 0x2006, 0x2007, 0x2008,
    0x2009, 0x200A, 0x2028, 0x2029, 0x202F, 0x205F, 0x3000]

def decimalValue (c : Char) : Option Nat :=
  (decimalZeros.find? fun start => start ≤ c.toNat && c.toNat ≤ start + 9).map (c.toNat - ·)

def isDigitChar (c : Char) : Bool :=
  (decimalValue c).isSome ||
    digitOnlyRanges.any fun range => range.1 ≤ c.toNat && c.toNat ≤ range.2

/-- `str.isspace` of one character, and what `str.strip()` removes. -/
def isSpaceChar (c : Char) : Bool :=
  (9 ≤ c.toNat && c.toNat ≤ 13) || (28 ≤ c.toNat && c.toNat ≤ 32) || wideSpaces.contains c.toNat

/-- What `int()` skips around a number: unlike `str.strip()`, the ASCII
separators U+001C..U+001F are not skipped. -/
def isIntSpaceChar (c : Char) : Bool :=
  (9 ≤ c.toNat && c.toNat ≤ 13) || c.toNat == 32 || wideSpaces.contains c.toNat

def isAsciiChar (c : Char) : Bool := c.toNat < 128

/-- Lower case of an ASCII letter.  The only other characters whose lower case
contains an ASCII letter are U+0130 and U+212A, and neither maps to a text over
the letters of the names this is compared with. -/
def lowerChar (c : Char) : Char :=
  if 65 ≤ c.toNat ∧ c.toNat ≤ 90 then Char.ofNat (c.toNat + 32) else c

/-! ## Texts -/

def isdigit (text : String) : Bool :=
  !text.toList.isEmpty && text.toList.all isDigitChar

def isascii (text : String) : Bool := text.toList.all isAsciiChar

def lower (text : String) : String := String.ofList (text.toList.map lowerChar)

def stripWhere (drop : Char → Bool) (text : List Char) : List Char :=
  ((text.dropWhile drop).reverse.dropWhile drop).reverse

def strip (text : String) : String := String.ofList (stripWhere isSpaceChar text.toList)

def startswith (text start : String) : Bool := start.toList.isPrefixOf text.toList

/-- `text.split(separator)` for a one-character separator. -/
def splitChars (separator : Char) : List Char → List (List Char)
  | [] => [[]]
  | c :: rest =>
    match splitChars separator rest with
    | [] => [[c]]
    | part :: parts => if c = separator then [] :: part :: parts else (c :: part) :: parts

def split (text : String) (separator : Char) : List String :=
  (splitChars separator text.toList).map String.ofList

/-- `text.partition(separator)` without its middle component. -/
def partition (text : String) (separator : Char) : String × String :=
  let chars := text.toList
  (String.ofList (chars.takeWhile (· ≠ separator)),
    String.ofList ((chars.dropWhile (· ≠ separator)).drop 1))

/-- `text.replace(pattern, "")`: occurrences are removed from left to right. -/
def removeAll (pattern : List Char) : List Char → Nat → List Char
  | [], _ => []
  | _ :: rest, skip + 1 => removeAll pattern rest skip
  | c :: rest, 0 =>
    if pattern.isPrefixOf (c :: rest) then removeAll pattern rest (pattern.length - 1)
    else c :: removeAll pattern rest 0

/-! ## Integers -/

def hexDigit (value : Nat) : Char :=
  if value < 10 then Char.ofNat (48 + value) else Char.ofNat (87 + value)

/-- The last `width` hexadecimal digits of a number. -/
def hexText : Nat → Nat → List Char
  | 0, _ => []
  | width + 1, value => hexText width (value / 16) ++ [hexDigit (value % 16)]

def digitValue (base : Nat) (c : Char) : Option Nat :=
  match decimalValue c with
  | some value => if value < base then some value else none
  | none =>
    let code := (lowerChar c).toNat
    if base = 16 ∧ 97 ≤ code ∧ code ≤ 102 then some (code - 87) else none

/-- Digits with single underscores between them; at least one digit. -/
def scanDigits (base : Nat) : List Char → Option (List Nat)
  | [] => none
  | c :: rest =>
    match digitValue base c with
    | none => none
    | some value =>
      match rest with
      | [] => some [value]
      | '_' :: more => (scanDigits base more).map (value :: ·)
      | next :: more => (scanDigits base (next :: more)).map (value :: ·)

def ofDigitList (base : Nat) (values : List Nat) : Nat :=
  values.foldl (fun number value => number * base + value) 0

/-- Sign and magnitude text of a number without its surrounding white space. -/
def splitSign : List Char → Bool × List Char
  | '-' :: rest => (true, rest)
  | '+' :: rest => (false, rest)
  | rest => (false, rest)

/-- Largest number of decimal digits `int()` converts. -/
def maxStrDigits : Nat := 4300

/-- `int(text)`; `none` is `ValueError`. -/
def int (text : String) : Option Int :=
  let (negative, body) := splitSign (stripWhere isIntSpaceChar text.toList)
  match scanDigits 10 body with
  | none => none
  | some values =>
    if values.length ≤ maxStrDigits then
      let magnitude : Int := ofDigitList 10 values
      some (if negative then -magnitude else magnitude)
    else none

/-- Decimals of any script are read as the ASCII digit of their value. -/
def toAsciiDecimal (c : Char) : Char :=
  match decimalValue c with
  | some value => Char.ofNat (48 + value)
  | none => c

/-- `int(text, 16)`, with the optional `0x` and one underscore after it. -/
def intHex (text : List Char) : Option Int :=
  let (negative, body) := splitSign ((stripWhere isIntSpaceChar text).map toAsciiDecimal)
  let digits :=
    match body with
    | '0' :: 'x' :: '_' :: rest => rest
    | '0' :: 'X' :: '_' :: rest => rest
    | '0' :: 'x' :: rest => rest
    | '0' :: 'X' :: rest => rest
    | rest => rest
  (scanDigits 16 digits).map fun values =>
    let magnitude : Int := ofDigitList 16 values
    if negative then -magnitude else magnitude

/-! ## ASCII digits -/

theorem stripWhere_eq_self {drop : Char → Bool} {text : List Char}
    (kept : ∀ c ∈ text, drop c = false) : stripWhere drop text = text := by
  have front : ∀ chars : List Char, (∀ c ∈ chars, drop c = false) →
      chars.dropWhile drop = chars := by
    intro chars none
    cases chars with
    | nil => rfl
    | cons c rest => rw [List.dropWhile_cons_of_neg (by simp [none c List.mem_cons_self])]
  unfold stripWhere
  rw [front text kept, front text.reverse (by simpa using kept), List.reverse_reverse]

theorem not_isSpaceChar_of_visible {c : Char} (visible : 33 ≤ c.toNat ∧ c.toNat ≤ 126) :
    isSpaceChar c = false := by
  have narrow : c.toNat ∉ wideSpaces := by
    intro member
    have wide : ∀ code ∈ wideSpaces, 126 < code := by decide
    have := wide _ member
    omega
  simp [isSpaceChar, narrow]
  omega

theorem not_isSpaceChar_of_digit {c : Char} (digit : 48 ≤ c.toNat ∧ c.toNat ≤ 57) :
    isSpaceChar c = false :=
  not_isSpaceChar_of_visible (by omega)

theorem toAsciiDecimal_of_digit {c : Char} (digit : 48 ≤ c.toNat ∧ c.toNat ≤ 57) :
    toAsciiDecimal c = c := by
  have first : (decide (48 ≤ c.toNat) && decide (c.toNat ≤ 48 + 9)) = true := by
    simp only [Bool.and_eq_true, decide_eq_true_eq]
    omega
  have value : decimalValue c = some (c.toNat - 48) := by
    simp only [decimalValue, decimalZeros, List.find?_cons, first, Option.map_some]
  have back : 48 + (c.toNat - 48) = c.toNat := by omega
  simp only [toAsciiDecimal, value, back]
  exact Char.ofNat_toNat c

theorem lowerChar_of_digit {c : Char} (digit : 48 ≤ c.toNat ∧ c.toNat ≤ 57) :
    lowerChar c = c := by
  unfold lowerChar
  rw [if_neg (by omega)]

theorem splitSign_of_digits {chars : List Char}
    (digits : ∀ c ∈ chars, 48 ≤ c.toNat ∧ c.toNat ≤ 57) : splitSign chars = (false, chars) := by
  unfold splitSign
  split
  · have range := digits '-' List.mem_cons_self
    exact absurd range (by decide)
  · have range := digits '+' List.mem_cons_self
    exact absurd range (by decide)
  · rfl

/-! ## Digits of every script -/

theorem not_isIntSpaceChar_of_isDigitChar {c : Char} (digit : isDigitChar c = true) :
    isIntSpaceChar c = false := by
  have space : isIntSpaceChar c = true →
      c.toNat ∈ [9, 10, 11, 12, 13, 32] ++ wideSpaces := by
    simp only [isIntSpaceChar, Bool.or_eq_true, Bool.and_eq_true, decide_eq_true_eq, beq_iff_eq,
      List.contains_eq_mem, List.mem_append]
    rintro ((range | blank) | wide)
    · left
      simp only [List.mem_cons, List.not_mem_nil, or_false]
      omega
    · left
      simp [blank]
    · right
      exact wide
  have decimal : ∀ code ∈ [9, 10, 11, 12, 13, 32] ++ wideSpaces,
      ∀ start ∈ decimalZeros, ¬(start ≤ code ∧ code ≤ start + 9) := by decide +kernel
  have other : ∀ code ∈ [9, 10, 11, 12, 13, 32] ++ wideSpaces,
      ∀ range ∈ digitOnlyRanges, ¬(range.1 ≤ code ∧ code ≤ range.2) := by decide +kernel
  by_contra isSpace
  have member := space (by simpa using isSpace)
  rw [isDigitChar, Bool.or_eq_true, decimalValue, Option.isSome_map, List.find?_isSome,
    List.any_eq_true] at digit
  rcases digit with ⟨start, listed, within⟩ | ⟨range, listed, within⟩
  · exact decimal _ member start listed (by simpa using within)
  · exact other _ member range listed (by simpa using within)

theorem decimalValue_le {c : Char} {value : Nat} (known : decimalValue c = some value) :
    value ≤ 9 := by
  unfold decimalValue at known
  obtain ⟨start, found, rfl⟩ := Option.map_eq_some_iff.mp known
  have within := List.find?_some found
  simp only [Bool.and_eq_true, decide_eq_true_eq] at within
  omega

theorem digitValue_ten (c : Char) : digitValue 10 c = decimalValue c := by
  unfold digitValue
  cases known : decimalValue c with
  | none => simp
  | some value =>
    have small := decimalValue_le known
    simp only
    rw [if_pos (by omega)]

theorem scanDigits_cons_digit {c next : Char} {rest : List Char}
    (digit : isDigitChar next = true) :
    scanDigits 10 (c :: next :: rest) =
      (decimalValue c).bind fun value => (scanDigits 10 (next :: rest)).map (value :: ·) := by
  have plain : next ≠ '_' := by
    rintro rfl
    revert digit
    decide
  rw [scanDigits, digitValue_ten]
  · cases decimalValue c with
    | none => rfl
    | some value =>
      simp only [Option.bind_some]

theorem scanDigits_digits : ∀ {digits : List Char}, digits ≠ [] →
    (∀ c ∈ digits, isDigitChar c = true) →
    scanDigits 10 digits =
      if ∀ c ∈ digits, (decimalValue c).isSome then
        some (digits.map fun c => (decimalValue c).getD 0)
      else none := by
  intro digits
  induction digits with
  | nil => intro none; exact absurd rfl none
  | cons c rest hypothesis =>
    intro _ all
    cases rest with
    | nil =>
      rw [scanDigits, digitValue_ten]
      cases known : decimalValue c <;> simp [known]
    | cons next more =>
      have tail : ∀ d ∈ next :: more, isDigitChar d = true :=
        fun d member => all d (List.mem_cons_of_mem _ member)
      rw [scanDigits_cons_digit (tail next List.mem_cons_self),
        hypothesis (List.cons_ne_nil _ _) tail]
      cases known : decimalValue c with
      | none => simp [known]
      | some value =>
        by_cases decimals : ∀ d ∈ next :: more, (decimalValue d).isSome = true
        · rw [if_pos decimals, if_pos]
          · simp [known]
          · intro d member
            rcases List.mem_cons.mp member with rfl | later
            · rw [known]
              rfl
            · exact decimals d later
        · rw [if_neg decimals, if_neg]
          · rfl
          · intro both
            exact decimals fun d member => both d (List.mem_cons_of_mem _ member)

/-- Minus signs and digits that `int()` does not read. -/
def Unreadable (text : String) : Prop :=
  let signs := text.toList.takeWhile (· = '-')
  let digits := text.toList.dropWhile (· = '-')
  2 ≤ signs.length ∨ (∃ c ∈ digits, decimalValue c = none) ∨ maxStrDigits < digits.length

theorem int_eq_none_of_splitSign {text : String} {negative : Bool} {body : List Char}
    (signed : splitSign (stripWhere isIntSpaceChar text.toList) = (negative, body)) :
    Python.int text = none ↔
      ∀ values, scanDigits 10 body = some values → maxStrDigits < values.length := by
  unfold Python.int
  rw [signed]
  simp only
  cases scanDigits 10 body with
  | none => simp
  | some values =>
    by_cases short : values.length ≤ maxStrDigits
    · simp [short]
    · simp [short]
      omega

theorem int_eq_none_iff {text : String}
    (digit : isdigit (String.ofList (text.toList.dropWhile (· = '-'))) = true) :
    Python.int text = none ↔ Unreadable text := by
  have apart := List.takeWhile_append_dropWhile (p := fun c => decide (c = '-')) (l := text.toList)
  have minus : ∀ c ∈ text.toList.takeWhile (· = '-'), c = '-' := by
    intro c member
    simpa using List.mem_takeWhile_imp member
  rw [isdigit, String.toList_ofList, Bool.and_eq_true, Bool.not_eq_true', List.all_eq_true]
    at digit
  unfold Unreadable
  simp only
  generalize text.toList.takeWhile (· = '-') = signs at *
  generalize text.toList.dropWhile (· = '-') = digits at *
  obtain ⟨filled, all⟩ := digit
  have nonempty : digits ≠ [] := by
    rintro rfl
    cases filled
  have kept : stripWhere isIntSpaceChar text.toList = signs ++ digits := by
    rw [← apart]
    refine stripWhere_eq_self ?_
    intro c member
    rcases List.mem_append.mp member with sign | figure
    · rw [minus c sign]
      decide
    · exact not_isIntSpaceChar_of_isDigitChar (all c figure)
  have refused : (∀ values, scanDigits 10 digits = some values → maxStrDigits < values.length) ↔
      (∃ c ∈ digits, decimalValue c = none) ∨ maxStrDigits < digits.length := by
    rw [scanDigits_digits nonempty all]
    by_cases decimals : ∀ c ∈ digits, (decimalValue c).isSome = true
    · have known : ¬∃ c ∈ digits, decimalValue c = none := by
        rintro ⟨c, member, unknown⟩
        have known := decimals c member
        rw [unknown] at known
        cases known
      simp [if_pos decimals, known]
    · have unknown : ∃ c ∈ digits, decimalValue c = none := by
        push Not at decimals
        obtain ⟨c, member, unknown⟩ := decimals
        exact ⟨c, member, by simpa using unknown⟩
      simp [if_neg decimals, unknown]
  have notSign : ∀ c ∈ digits, c ≠ '-' ∧ c ≠ '+' := by
    intro c member
    have figure := all c member
    constructor
    · rintro rfl
      revert figure
      decide
    · rintro rfl
      revert figure
      decide
  cases signs with
  | nil =>
    have unsigned : splitSign digits = (false, digits) := by
      unfold splitSign
      split
      · exact absurd rfl (notSign '-' List.mem_cons_self).1
      · exact absurd rfl (notSign '+' List.mem_cons_self).2
      · rfl
    rw [int_eq_none_of_splitSign (by rw [kept, List.nil_append, unsigned]), refused]
    simp
  | cons first others =>
    obtain rfl := minus first List.mem_cons_self
    have signed : splitSign (stripWhere isIntSpaceChar text.toList) = (true, others ++ digits) := by
      rw [kept]
      rfl
    rw [int_eq_none_of_splitSign signed]
    cases others with
    | nil =>
      rw [List.nil_append, refused]
      simp
    | cons second more =>
      obtain rfl := minus second (by simp)
      have unread : scanDigits 10 ('-' :: (more ++ digits)) = none := by
        unfold scanDigits
        rfl
      simp [unread]

/-! ## Case and letters

Above ASCII these follow the Unicode character database, which stays a
parameter; on ASCII they are fixed. -/

structure UnicodeData where
  alpha : Char → Bool
  upperCase : Char → Bool
  lowerOrTitleCase : Char → Bool
  toUpper : Char → List Char
  printable : Char → Bool
  /-- A lone surrogate is no `Char`: the characters that stand for one. -/
  surrogate : Char → Bool

namespace UnicodeData

variable (data : UnicodeData)

def isUpperChar (c : Char) : Bool :=
  if isAsciiChar c then 65 ≤ c.toNat && c.toNat ≤ 90 else data.upperCase c

def isLowerChar (c : Char) : Bool :=
  if isAsciiChar c then 97 ≤ c.toNat && c.toNat ≤ 122 else data.lowerOrTitleCase c

def isAlphaChar (c : Char) : Bool :=
  if isAsciiChar c then data.isUpperChar c || data.isLowerChar c else data.alpha c

def isPrintableChar (c : Char) : Bool :=
  if isAsciiChar c then 32 ≤ c.toNat && c.toNat ≤ 126
  else data.printable c && !data.surrogate c

def upperChar (c : Char) : List Char :=
  if isAsciiChar c then
    (if data.isLowerChar c then [Char.ofNat (c.toNat - 32)] else [c])
  else data.toUpper c

/-- The text has a UTF-8 form. -/
def encodes (text : String) : Bool :=
  text.toList.all fun c => !data.surrogate c || isAsciiChar c

def isalpha (text : String) : Bool :=
  !text.toList.isEmpty && text.toList.all data.isAlphaChar

/-- No lower case or title case character, and at least one upper case one. -/
def isupper (text : String) : Bool :=
  text.toList.all (fun c => !data.isLowerChar c) && text.toList.any data.isUpperChar

def upper (text : String) : String := String.ofList (text.toList.flatMap data.upperChar)

theorem upper_letter {text : String} (ascii : isascii text = true)
    (letters : data.isalpha text = true) (upper : data.isupper text = true) {c : Char}
    (member : c ∈ text.toList) : 65 ≤ c.toNat ∧ c.toNat ≤ 90 := by
  have plain : isAsciiChar c = true := List.all_eq_true.mp ascii c member
  rw [isupper, Bool.and_eq_true, List.all_eq_true] at upper
  rw [isalpha, Bool.and_eq_true, List.all_eq_true] at letters
  have notLower : data.isLowerChar c = false := by simpa using upper.1 c member
  have letter := letters.2 c member
  simpa [isAlphaChar, plain, notLower, isUpperChar] using letter

end UnicodeData

/-- `str.lower()`, which above ASCII depends on the Unicode tables and on the
neighbouring characters. -/
structure LowerCase where
  lower : String → String
  ascii : ∀ text, isascii text = true → lower text = Python.lower text

/-- ASCII capitals survive `lower()` followed by `upper()`. -/
theorem upper_lower {data : UnicodeData} {text : String}
    (capitals : ∀ c ∈ text.toList, 65 ≤ c.toNat ∧ c.toNat ≤ 90) :
    data.upper (lower text) = text := by
  have back : ∀ c ∈ text.toList, data.upperChar (lowerChar c) = [c] := by
    intro c member
    have range := capitals c member
    have code : (Char.ofNat (c.toNat + 32)).toNat = c.toNat + 32 := by
      rw [Char.toNat_ofNat, if_pos (Or.inl (by omega))]
    have plain : isAsciiChar (Char.ofNat (c.toNat + 32)) = true := by
      simp only [isAsciiChar, code, decide_eq_true_eq]
      omega
    have small : data.isLowerChar (Char.ofNat (c.toNat + 32)) = true := by
      simp only [UnicodeData.isLowerChar, plain, if_true, code, Bool.and_eq_true,
        decide_eq_true_eq]
      omega
    simp only [lowerChar, if_pos range, UnicodeData.upperChar, plain, small, if_true, code]
    rw [Nat.add_sub_cancel, Char.ofNat_toNat]
  have each : text.toList.flatMap (fun c => data.upperChar (lowerChar c)) =
      text.toList.flatMap fun c => [c] := List.flatMap_congr back
  apply String.ext
  rw [UnicodeData.upper, lower, String.toList_ofList, String.toList_ofList, List.flatMap_map, each,
    List.flatMap_singleton']

end BackendCore.Python
