import BackendCore.Python.Text

/-!
# `base64.b64decode(text, validate=True).decode()`

The strict decoder of `binascii` as a state machine over the characters, and
UTF-8 decoding of the bytes.  The outer function distinguishes the exceptions:
a text outside ASCII is a bare `ValueError`, every other malformed input is a
`binascii.Error` or a `UnicodeDecodeError`.
-/

set_option autoImplicit false

namespace BackendCore.Python

def base64Value (c : Char) : Option Nat :=
  let code := c.toNat
  if 65 ≤ code ∧ code ≤ 90 then some (code - 65)
  else if 97 ≤ code ∧ code ≤ 122 then some (code - 71)
  else if 48 ≤ code ∧ code ≤ 57 then some (code + 4)
  else if c = '+' then some 62
  else if c = '/' then some 63
  else none

/-- The loop of `binascii.a2b_base64` in strict mode.  `quad` is the position in
the current group of four, `left` the bits carried over, `pads` the padding
characters counted so far and `padded` whether padding has started. -/
def a2bLoop : List Char → Nat → Nat → Nat → Bool → Option (List Nat)
  | [], quad, _, _, _ => if quad = 0 then some [] else none
  | c :: rest, quad, left, pads, padded =>
    if c = '=' then
      if 2 ≤ quad ∧ 4 ≤ quad + (pads + 1) then
        if rest.isEmpty then some [] else none
      else a2bLoop rest quad left (if 2 ≤ quad then pads + 1 else pads) true
    else
      match base64Value c with
      | none => none
      | some value =>
        if padded then none
        else
          match quad with
          | 0 => a2bLoop rest 1 value 0 false
          | 1 => (a2bLoop rest 2 (value % 16) 0 false).map ((left * 4 + value / 16) :: ·)
          | 2 => (a2bLoop rest 3 (value % 4) 0 false).map ((left * 16 + value / 4) :: ·)
          | _ => (a2bLoop rest 0 0 0 false).map ((left * 64 + value) :: ·)

def a2bBase64 (chars : List Char) : Option (List Nat) :=
  if chars.head? = some '=' then none else a2bLoop chars 0 0 0 false

/-! ## UTF-8 -/

def continuation (byte : Nat) : Bool := 128 ≤ byte && byte < 192

/-- `bytes.decode()`: shortest forms only, no surrogates, at most U+10FFFF. -/
def utf8Decode : List Nat → Option (List Char)
  | [] => some []
  | a :: rest =>
    if a < 0x80 then (utf8Decode rest).map (Char.ofNat a :: ·)
    else
      match rest with
      | b :: more =>
        if 0xC2 ≤ a ∧ a < 0xE0 ∧ continuation b then
          (utf8Decode more).map (Char.ofNat ((a - 0xC0) * 64 + (b - 128)) :: ·)
        else
          match more with
          | c :: more =>
            let code := (a - 0xE0) * 4096 + (b - 128) * 64 + (c - 128)
            if 0xE0 ≤ a ∧ a < 0xF0 ∧ continuation b ∧ continuation c ∧ 0x800 ≤ code ∧
                ¬ (0xD800 ≤ code ∧ code < 0xE000) then
              (utf8Decode more).map (Char.ofNat code :: ·)
            else
              match more with
              | d :: more =>
                let code := (a - 0xF0) * 262144 + (b - 128) * 4096 + (c - 128) * 64 +
                  (d - 128)
                if 0xF0 ≤ a ∧ a < 0xF5 ∧ continuation b ∧ continuation c ∧
                    continuation d ∧ 0x10000 ≤ code ∧ code < 0x110000 then
                  (utf8Decode more).map (Char.ofNat code :: ·)
                else none
              | [] => none
          | [] => none
      | [] => none

inductive DecodeError where
  | notAscii
  | malformed
  deriving DecidableEq, Repr

def b64decodeText (text : String) : Except DecodeError String :=
  if isascii text then
    match (a2bBase64 text.toList).bind utf8Decode with
    | some chars => .ok (String.ofList chars)
    | none => .error .malformed
  else .error .notAscii

theorem b64decodeText_notAscii_iff (text : String) :
    b64decodeText text = .error .notAscii ↔ isascii text = false := by
  unfold b64decodeText
  by_cases ascii : isascii text = true
  · rw [if_pos ascii]
    refine iff_of_false ?_ (by simp [ascii])
    split
    · intro impossible
      cases impossible
    · intro impossible
      cases impossible
  · rw [if_neg ascii]
    simpa using ascii

/-! ## Encoding -/

def base64Digit (value : Nat) : Char :=
  if value < 26 then Char.ofNat (value + 65)
  else if value < 52 then Char.ofNat (value + 71)
  else if value < 62 then Char.ofNat (value - 4)
  else if value = 62 then '+'
  else '/'

/-- `binascii.b2a_base64` without its newline. -/
def b2aBase64 : List Nat → List Char
  | [] => []
  | [a] => [base64Digit (a / 4), base64Digit (a % 4 * 16), '=', '=']
  | [a, b] =>
    [base64Digit (a / 4), base64Digit (a % 4 * 16 + b / 16), base64Digit (b % 16 * 4), '=']
  | a :: b :: c :: rest =>
    base64Digit (a / 4) :: base64Digit (a % 4 * 16 + b / 16) ::
      base64Digit (b % 16 * 4 + c / 64) :: base64Digit (c % 64) :: b2aBase64 rest

def utf8EncodeChar (c : Char) : List Nat :=
  let code := c.toNat
  if code < 0x80 then [code]
  else if code < 0x800 then [0xC0 + code / 64, 128 + code % 64]
  else if code < 0x10000 then [0xE0 + code / 4096, 128 + code / 64 % 64, 128 + code % 64]
  else [0xF0 + code / 262144, 128 + code / 4096 % 64, 128 + code / 64 % 64, 128 + code % 64]

/-- `text.encode()`. -/
def utf8Encode (chars : List Char) : List Nat := chars.flatMap utf8EncodeChar

/-- `base64.b64encode(text.encode()).decode()`. -/
def b64encodeText (text : String) : String :=
  String.ofList (b2aBase64 (utf8Encode text.toList))

theorem base64Digit_facts : ∀ value, value < 64 →
    base64Value (base64Digit value) = some value ∧ base64Digit value ≠ '=' ∧
      base64Digit value ≠ '?' ∧ base64Digit value ≠ '#' ∧
      isAsciiChar (base64Digit value) = true := by
  decide

/-! ## The encoded bytes decode back -/

theorem a2bLoop_digit {value : Nat} (small : value < 64) (rest : List Char)
    (quad left pads : Nat) :
    a2bLoop (base64Digit value :: rest) quad left pads false =
      match quad with
      | 0 => a2bLoop rest 1 value 0 false
      | 1 => (a2bLoop rest 2 (value % 16) 0 false).map ((left * 4 + value / 16) :: ·)
      | 2 => (a2bLoop rest 3 (value % 4) 0 false).map ((left * 16 + value / 4) :: ·)
      | _ => (a2bLoop rest 0 0 0 false).map ((left * 64 + value) :: ·) := by
  obtain ⟨known, notPad, -⟩ := base64Digit_facts value small
  rw [a2bLoop, if_neg notPad, known]
  rfl

theorem a2bLoop_first {value : Nat} (small : value < 64) (rest : List Char) (left pads : Nat) :
    a2bLoop (base64Digit value :: rest) 0 left pads false = a2bLoop rest 1 value 0 false :=
  a2bLoop_digit small rest 0 left pads

theorem a2bLoop_second {value : Nat} (small : value < 64) (rest : List Char) (left pads : Nat) :
    a2bLoop (base64Digit value :: rest) 1 left pads false =
      (a2bLoop rest 2 (value % 16) 0 false).map ((left * 4 + value / 16) :: ·) :=
  a2bLoop_digit small rest 1 left pads

theorem a2bLoop_third {value : Nat} (small : value < 64) (rest : List Char) (left pads : Nat) :
    a2bLoop (base64Digit value :: rest) 2 left pads false =
      (a2bLoop rest 3 (value % 4) 0 false).map ((left * 16 + value / 4) :: ·) :=
  a2bLoop_digit small rest 2 left pads

theorem a2bLoop_fourth {value : Nat} (small : value < 64) (rest : List Char) (left pads : Nat) :
    a2bLoop (base64Digit value :: rest) 3 left pads false =
      (a2bLoop rest 0 0 0 false).map ((left * 64 + value) :: ·) :=
  a2bLoop_digit small rest 3 left pads

theorem a2bLoop_b2aBase64 (bytes : List Nat) (small : ∀ byte ∈ bytes, byte < 256) :
    a2bLoop (b2aBase64 bytes) 0 0 0 false = some bytes := by
  induction bytes using b2aBase64.induct with
  | case1 => rfl
  | case2 a =>
    have aSmall : a < 256 := small a (by simp)
    have first : a / 4 * 4 + a % 4 * 16 / 16 = a := by omega
    rw [b2aBase64, a2bLoop_first (by omega), a2bLoop_second (by omega), first]
    rfl
  | case3 a b =>
    have aSmall : a < 256 := small a (by simp)
    have bSmall : b < 256 := small b (by simp)
    have first : a / 4 * 4 + (a % 4 * 16 + b / 16) / 16 = a := by omega
    have second : (a % 4 * 16 + b / 16) % 16 * 16 + b % 16 * 4 / 4 = b := by omega
    rw [b2aBase64, a2bLoop_first (by omega), a2bLoop_second (by omega),
      a2bLoop_third (by omega), first, second]
    rfl
  | case4 a b c rest hypothesis =>
    have aSmall : a < 256 := small a (by simp)
    have bSmall : b < 256 := small b (by simp)
    have cSmall : c < 256 := small c (by simp)
    have first : a / 4 * 4 + (a % 4 * 16 + b / 16) / 16 = a := by omega
    have second : (a % 4 * 16 + b / 16) % 16 * 16 + (b % 16 * 4 + c / 64) / 4 = b := by omega
    have third : (b % 16 * 4 + c / 64) % 4 * 64 + c % 64 = c := by omega
    have restSmall : ∀ byte ∈ rest, byte < 256 := fun byte member =>
      small byte (by simp [member])
    rw [b2aBase64, a2bLoop_first (by omega), a2bLoop_second (by omega),
      a2bLoop_third (by omega), a2bLoop_fourth (by omega), hypothesis restSmall, first, second,
      third]
    rfl

theorem mem_b2aBase64 {bytes : List Nat} (small : ∀ byte ∈ bytes, byte < 256) {c : Char}
    (member : c ∈ b2aBase64 bytes) : c = '=' ∨ ∃ value, value < 64 ∧ c = base64Digit value := by
  induction bytes using b2aBase64.induct with
  | case1 => exact nomatch member
  | case2 a =>
    have aSmall : a < 256 := small a (by simp)
    simp only [b2aBase64, List.mem_cons, List.not_mem_nil, or_false] at member
    rcases member with digit | digit | pad | pad
    · exact .inr ⟨_, by omega, digit⟩
    · exact .inr ⟨_, by omega, digit⟩
    · exact .inl pad
    · exact .inl pad
  | case3 a b =>
    have aSmall : a < 256 := small a (by simp)
    have bSmall : b < 256 := small b (by simp)
    simp only [b2aBase64, List.mem_cons, List.not_mem_nil, or_false] at member
    rcases member with digit | digit | digit | pad
    · exact .inr ⟨_, by omega, digit⟩
    · exact .inr ⟨_, by omega, digit⟩
    · exact .inr ⟨_, by omega, digit⟩
    · exact .inl pad
  | case4 a b c rest hypothesis =>
    have aSmall : a < 256 := small a (by simp)
    have bSmall : b < 256 := small b (by simp)
    have cSmall : c < 256 := small c (by simp)
    simp only [b2aBase64, List.mem_cons] at member
    rcases member with digit | digit | digit | digit | later
    · exact .inr ⟨_, by omega, digit⟩
    · exact .inr ⟨_, by omega, digit⟩
    · exact .inr ⟨_, by omega, digit⟩
    · exact .inr ⟨_, by omega, digit⟩
    · exact hypothesis (fun byte inRest => small byte (by simp [inRest])) later

theorem b2aBase64_head {bytes : List Nat} (small : ∀ byte ∈ bytes, byte < 256) :
    (b2aBase64 bytes).head? ≠ some '=' := by
  have unpadded : ∀ a, a < 256 → some (base64Digit (a / 4)) ≠ some '=' := by
    intro a aSmall same
    exact (base64Digit_facts (a / 4) (by omega)).2.1 (Option.some.inj same)
  match bytes with
  | [] => exact nofun
  | [a] => exact unpadded a (small a (by simp))
  | [a, _] => exact unpadded a (small a (by simp))
  | a :: _ :: _ :: _ => exact unpadded a (small a (by simp))

theorem a2bBase64_b2aBase64 (bytes : List Nat) (small : ∀ byte ∈ bytes, byte < 256) :
    a2bBase64 (b2aBase64 bytes) = some bytes := by
  rw [a2bBase64, if_neg (b2aBase64_head small), a2bLoop_b2aBase64 bytes small]

/-! ## Encoded characters decode back -/

theorem char_code (c : Char) :
    c.toNat < 0xD800 ∨ (0xE000 ≤ c.toNat ∧ c.toNat < 0x110000) := by
  rcases c.valid with low | ⟨above, below⟩
  · exact .inl low
  · exact .inr ⟨above, below⟩

theorem utf8EncodeChar_small {c : Char} {byte : Nat} (member : byte ∈ utf8EncodeChar c) :
    byte < 256 := by
  have code := char_code c
  unfold utf8EncodeChar at member
  dsimp only at member
  split at member
  · simp only [List.mem_singleton] at member
    omega
  · split at member
    · simp only [List.mem_cons, List.not_mem_nil, or_false] at member
      omega
    · split at member
      · simp only [List.mem_cons, List.not_mem_nil, or_false] at member
        omega
      · simp only [List.mem_cons, List.not_mem_nil, or_false] at member
        omega

theorem utf8Encode_small {chars : List Char} :
    ∀ byte ∈ utf8Encode chars, byte < 256 := by
  intro byte member
  obtain ⟨c, _, inChar⟩ := List.mem_flatMap.mp member
  exact utf8EncodeChar_small inChar

theorem continuation_low (code : Nat) : continuation (128 + code % 64) = true := by
  simp only [continuation, Bool.and_eq_true, decide_eq_true_eq]
  omega

-- one case per length of the encoding; the bytes put together again are the code point
theorem utf8Decode_utf8EncodeChar (c : Char) (rest : List Nat) :
    utf8Decode (utf8EncodeChar c ++ rest) = (utf8Decode rest).map (c :: ·) := by
  have code := char_code c
  unfold utf8EncodeChar
  dsimp only
  by_cases one : c.toNat < 0x80
  · rw [if_pos one, List.singleton_append, utf8Decode.eq_def]
    dsimp only
    rw [if_pos one, Char.ofNat_toNat]
  rw [if_neg one]
  by_cases two : c.toNat < 0x800
  · have lead : ¬0xC0 + c.toNat / 64 < 0x80 := by omega
    have fits : 0xC2 ≤ 0xC0 + c.toNat / 64 ∧ 0xC0 + c.toNat / 64 < 0xE0 ∧
        continuation (128 + c.toNat % 64) :=
      ⟨by omega, by omega, continuation_low _⟩
    have joined : (0xC0 + c.toNat / 64 - 0xC0) * 64 + (128 + c.toNat % 64 - 128) = c.toNat := by
      omega
    rw [if_pos two, List.cons_append, List.singleton_append, utf8Decode.eq_def]
    dsimp only
    rw [if_neg lead, if_pos fits, joined, Char.ofNat_toNat]
  rw [if_neg two]
  by_cases three : c.toNat < 0x10000
  · have lead : ¬0xE0 + c.toNat / 4096 < 0x80 := by omega
    have longer : ¬(0xC2 ≤ 0xE0 + c.toNat / 4096 ∧ 0xE0 + c.toNat / 4096 < 0xE0 ∧
        continuation (128 + c.toNat / 64 % 64)) := by omega
    have joined : (0xE0 + c.toNat / 4096 - 0xE0) * 4096 + (128 + c.toNat / 64 % 64 - 128) * 64 +
        (128 + c.toNat % 64 - 128) = c.toNat := by omega
    have fits : 0xE0 ≤ 0xE0 + c.toNat / 4096 ∧ 0xE0 + c.toNat / 4096 < 0xF0 ∧
        continuation (128 + c.toNat / 64 % 64) ∧ continuation (128 + c.toNat % 64) ∧
        0x800 ≤ c.toNat ∧ ¬(0xD800 ≤ c.toNat ∧ c.toNat < 0xE000) :=
      ⟨by omega, by omega, continuation_low _, continuation_low _, by omega, by omega⟩
    rw [if_pos three]
    simp only [List.cons_append, List.nil_append]
    rw [utf8Decode.eq_def]
    dsimp only
    rw [if_neg lead, if_neg longer, joined, if_pos fits, Char.ofNat_toNat]
  rw [if_neg three]
  have lead : ¬0xF0 + c.toNat / 262144 < 0x80 := by omega
  have longer : ¬(0xC2 ≤ 0xF0 + c.toNat / 262144 ∧ 0xF0 + c.toNat / 262144 < 0xE0 ∧
      continuation (128 + c.toNat / 4096 % 64)) := by omega
  have notThree : ∀ code : Nat, ¬(0xE0 ≤ 0xF0 + c.toNat / 262144 ∧
      0xF0 + c.toNat / 262144 < 0xF0 ∧ continuation (128 + c.toNat / 4096 % 64) ∧
      continuation (128 + c.toNat / 64 % 64) ∧ 0x800 ≤ code ∧
      ¬(0xD800 ≤ code ∧ code < 0xE000)) := by
    intro code
    omega
  have joined : (0xF0 + c.toNat / 262144 - 0xF0) * 262144 +
      (128 + c.toNat / 4096 % 64 - 128) * 4096 + (128 + c.toNat / 64 % 64 - 128) * 64 +
      (128 + c.toNat % 64 - 128) = c.toNat := by omega
  have fits : 0xF0 ≤ 0xF0 + c.toNat / 262144 ∧ 0xF0 + c.toNat / 262144 < 0xF5 ∧
      continuation (128 + c.toNat / 4096 % 64) ∧ continuation (128 + c.toNat / 64 % 64) ∧
      continuation (128 + c.toNat % 64) ∧ 0x10000 ≤ c.toNat ∧ c.toNat < 0x110000 :=
    ⟨by omega, by omega, continuation_low _, continuation_low _, continuation_low _, by omega,
      by omega⟩
  simp only [List.cons_append, List.nil_append]
  rw [utf8Decode.eq_def]
  dsimp only
  rw [if_neg lead, if_neg longer, if_neg (notThree _), joined, if_pos fits, Char.ofNat_toNat]

theorem utf8Decode_utf8Encode (chars : List Char) : utf8Decode (utf8Encode chars) = some chars := by
  induction chars with
  | nil => rfl
  | cons c rest hypothesis =>
    rw [utf8Encode, List.flatMap_cons, utf8Decode_utf8EncodeChar]
    change (utf8Decode (utf8Encode rest)).map (c :: ·) = some (c :: rest)
    rw [hypothesis]
    rfl

theorem mem_b64encodeText {text : String} {c : Char} (member : c ∈ (b64encodeText text).toList) :
    c = '=' ∨ ∃ value, value < 64 ∧ c = base64Digit value := by
  rw [b64encodeText, String.toList_ofList] at member
  exact mem_b2aBase64 utf8Encode_small member

theorem b64decodeText_b64encodeText (text : String) :
    b64decodeText (b64encodeText text) = .ok text := by
  have ascii : isascii (b64encodeText text) = true := by
    rw [isascii, List.all_eq_true]
    intro c member
    rcases mem_b64encodeText member with rfl | ⟨value, small, rfl⟩
    · rfl
    · exact (base64Digit_facts value small).2.2.2.2
  rw [b64decodeText, if_pos ascii, b64encodeText, String.toList_ofList,
    a2bBase64_b2aBase64 _ utf8Encode_small, Option.bind_some, utf8Decode_utf8Encode]
  exact congrArg Except.ok String.ofList_toList

end BackendCore.Python
