import BackendCore.Python.Text

/-!
# UUIDs

`uuid.UUID` as a 128-bit number, its canonical text and the lenient constructor
from a text.  The canonical text of a UUID parses back to it, hence two UUIDs
with one text are equal.
-/

set_option autoImplicit false

namespace BackendCore.Python

abbrev Uuid := BitVec 128

instance : LawfulBEq Uuid := inferInstance

namespace Uuid

def dashed (digits : List Char) : List Char :=
  digits.take 8 ++ '-' :: ((digits.drop 8).take 4 ++ '-' :: ((digits.drop 12).take 4 ++
    '-' :: ((digits.drop 16).take 4 ++ '-' :: digits.drop 20)))

/-- `str(id)`. -/
def toStr (id : Uuid) : String := String.ofList (dashed (hexText 32 id.toNat))

def isBrace (c : Char) : Bool := c.toNat = 123 || c.toNat = 125

/-- The text without its decorations, as the constructor reads it. -/
def bareDigits (text : List Char) : List Char :=
  removeAll ['-']
    (stripWhere isBrace (removeAll "uuid:".toList (removeAll "urn:".toList text 0) 0)) 0

/-- `UUID(text)`; `none` is `ValueError`. -/
def ofStr? (text : String) : Option Uuid :=
  let digits := bareDigits text.toList
  if digits.length = 32 then (intHex digits).map fun value => BitVec.ofInt 128 value else none

/-! ## The canonical text parses back -/

private theorem hexDigit_facts : ∀ value, value < 16 →
    digitValue 16 (hexDigit value) = some value ∧ toAsciiDecimal (hexDigit value) = hexDigit value ∧
      isIntSpaceChar (hexDigit value) = false ∧ isBrace (hexDigit value) = false ∧
      hexDigit value ≠ '-' ∧ hexDigit value ≠ '+' ∧ hexDigit value ≠ '_' ∧
      hexDigit value ≠ 'x' ∧ hexDigit value ≠ 'X' ∧ hexDigit value ≠ 'u' := by
  decide

private theorem hexText_mem : ∀ (width value : Nat) (c : Char), c ∈ hexText width value →
    ∃ digit, digit < 16 ∧ c = hexDigit digit := by
  intro width
  induction width with
  | zero =>
    intro value c member
    simp [hexText] at member
  | succ width ih =>
    intro value c member
    simp only [hexText, List.mem_append, List.mem_singleton] at member
    rcases member with member | member
    · exact ih (value / 16) c member
    · exact ⟨value % 16, Nat.mod_lt _ (by decide), member⟩

private theorem hexText_length (width value : Nat) : (hexText width value).length = width := by
  induction width generalizing value with
  | zero => rfl
  | succ width ih => simp [hexText, ih]

private theorem removeAll_of_absent (first : Char) (pattern chars : List Char)
    (absent : first ∉ chars) : removeAll (first :: pattern) chars 0 = chars := by
  induction chars with
  | nil => rfl
  | cons c rest ih =>
    have differs : first ≠ c := fun equal => absent (by simp [equal])
    have later : first ∉ rest := fun member => absent (by simp [member])
    simp [removeAll, List.isPrefixOf, differs, ih later]

private theorem removeAll_single (dropped : Char) (chars : List Char) :
    removeAll [dropped] chars 0 = chars.filter (· ≠ dropped) := by
  induction chars with
  | nil => rfl
  | cons c rest ih =>
    by_cases same : dropped = c
    · subst same
      simp [removeAll, List.isPrefixOf, ih]
    · have differs : c ≠ dropped := fun equal => same equal.symm
      simp [removeAll, List.isPrefixOf, same, differs, ih]

private theorem scanDigits_hexText (width value : Nat) (positive : 0 < width)
    (small : value < 16 ^ width) :
    ∃ values, scanDigits 16 (hexText width value) = some values ∧
      ofDigitList 16 values = value := by
  -- `scanDigits` reads from the left while `hexText` grows on the right, so the
  -- digit values are first named as a map over the text.
  have scan : ∀ (chars : List Char) (read : Char → Nat), chars ≠ [] →
      (∀ c ∈ chars, digitValue 16 c = some (read c) ∧ c ≠ '_') →
      scanDigits 16 chars = some (chars.map read) := by
    intro chars read
    induction chars with
    | nil => intro nonempty; exact absurd rfl nonempty
    | cons c rest ih =>
      intro _ readable
      obtain ⟨head, _⟩ := readable c (by simp)
      cases rest with
      | nil => simp [scanDigits, head]
      | cons next more =>
        have tail := ih (by simp) (fun d member => readable d (by simp [member]))
        have plain : next ≠ '_' := (readable next (by simp)).2
        rw [scanDigits.eq_def]
        simp only [head]
        rw [tail]
        rfl
  refine ⟨(hexText width value).map fun c => (digitValue 16 c).getD 0, ?_, ?_⟩
  · apply scan
    · intro empty
      have length := hexText_length width value
      rw [empty] at length
      simp at length
      omega
    · intro c member
      obtain ⟨digit, bound, rfl⟩ := hexText_mem width value c member
      have facts := hexDigit_facts digit bound
      exact ⟨by simp [facts.1], facts.2.2.2.2.2.2.1⟩
  · clear positive scan
    induction width generalizing value with
    | zero =>
      simp only [Nat.pow_zero] at small
      have zero : value = 0 := by omega
      simp [hexText, ofDigitList, zero]
    | succ width ih =>
      have shorter : value / 16 < 16 ^ width := by
        rw [Nat.div_lt_iff_lt_mul (by decide)]
        simpa [Nat.pow_succ] using small
      have digit := (hexDigit_facts (value % 16) (Nat.mod_lt _ (by decide))).1
      have previous := ih (value / 16) shorter
      simp only [ofDigitList] at previous
      simp only [hexText, List.map_append, ofDigitList, List.foldl_append, previous,
        List.map_cons, List.map_nil, digit, Option.getD_some, List.foldl_cons, List.foldl_nil]
      omega

private theorem filter_dashed (digits : List Char) (bare : ∀ c ∈ digits, c ≠ '-') :
    (dashed digits).filter (· ≠ '-') = digits := by
  have keep : ∀ list : List Char, (∀ c ∈ list, c ∈ digits) →
      list.filter (· ≠ '-') = list := by
    intro list inside
    apply List.filter_eq_self.mpr
    intro c member
    simpa using bare c (inside c member)
  have pieces : digits = digits.take 8 ++ ((digits.drop 8).take 4 ++ ((digits.drop 12).take 4 ++
      ((digits.drop 16).take 4 ++ digits.drop 20))) := by
    rw [← List.drop_drop (i := 4) (j := 16), List.take_append_drop,
      ← List.drop_drop (i := 4) (j := 12), List.take_append_drop,
      ← List.drop_drop (i := 4) (j := 8), List.take_append_drop, List.take_append_drop]
  simp only [dashed, List.filter_append, List.filter_cons]
  rw [keep _ fun c member => List.mem_of_mem_take member,
    keep _ fun c member => List.mem_of_mem_drop (List.mem_of_mem_take member),
    keep _ fun c member => List.mem_of_mem_drop (List.mem_of_mem_take member),
    keep _ fun c member => List.mem_of_mem_drop (List.mem_of_mem_take member),
    keep _ fun c member => List.mem_of_mem_drop member]
  simpa using pieces.symm

private theorem mem_dashed (digits : List Char) (c : Char) (member : c ∈ dashed digits) :
    c = '-' ∨ c ∈ digits := by
  simp only [dashed, List.mem_append, List.mem_cons] at member
  rcases member with a | a | a | a | a | a | a | a | a
  · exact Or.inr (List.mem_of_mem_take a)
  · exact Or.inl a
  · exact Or.inr (List.mem_of_mem_drop (List.mem_of_mem_take a))
  · exact Or.inl a
  · exact Or.inr (List.mem_of_mem_drop (List.mem_of_mem_take a))
  · exact Or.inl a
  · exact Or.inr (List.mem_of_mem_drop (List.mem_of_mem_take a))
  · exact Or.inl a
  · exact Or.inr (List.mem_of_mem_drop a)

private theorem bareDigits_toStr (id : Uuid) :
    bareDigits (toStr id).toList = hexText 32 id.toNat := by
  have plain : ∀ c ∈ dashed (hexText 32 id.toNat), c ≠ 'u' ∧ isBrace c = false := by
    intro c member
    rcases mem_dashed _ c member with rfl | member
    · exact ⟨by decide, by decide⟩
    · obtain ⟨digit, bound, rfl⟩ := hexText_mem 32 id.toNat c member
      have facts := hexDigit_facts digit bound
      exact ⟨facts.2.2.2.2.2.2.2.2.2, facts.2.2.2.1⟩
  have noU : 'u' ∉ dashed (hexText 32 id.toNat) := fun member => (plain 'u' member).1 rfl
  rw [toStr, String.toList_ofList, bareDigits,
    show "urn:".toList = 'u' :: "rn:".toList from rfl,
    show "uuid:".toList = 'u' :: "uid:".toList from rfl,
    removeAll_of_absent 'u' _ _ noU, removeAll_of_absent 'u' _ _ noU,
    stripWhere_eq_self fun c member => (plain c member).2, removeAll_single]
  apply filter_dashed
  intro c member
  obtain ⟨digit, bound, rfl⟩ := hexText_mem 32 id.toNat c member
  exact (hexDigit_facts digit bound).2.2.2.2.1

private theorem intHex_hexText (id : Uuid) :
    intHex (hexText 32 id.toNat) = some (id.toNat : Int) := by
  obtain ⟨values, scanned, value⟩ := scanDigits_hexText 32 id.toNat (by decide) (by
    calc id.toNat < 2 ^ 128 := id.isLt
      _ = 16 ^ 32 := by norm_num)
  have digitOf := hexText_mem 32 id.toNat
  have stripped : stripWhere isIntSpaceChar (hexText 32 id.toNat) = hexText 32 id.toNat := by
    apply stripWhere_eq_self
    intro c member
    obtain ⟨digit, bound, rfl⟩ := digitOf c member
    exact (hexDigit_facts digit bound).2.2.1
  have ascii : (hexText 32 id.toNat).map toAsciiDecimal = hexText 32 id.toNat := by
    rw [List.map_congr_left (g := fun c => c), List.map_id']
    intro c member
    obtain ⟨digit, bound, rfl⟩ := digitOf c member
    exact (hexDigit_facts digit bound).2.1
  unfold intHex
  rw [stripped, ascii]
  have length := hexText_length 32 id.toNat
  generalize hexText 32 id.toNat = text at scanned digitOf length
  match text, length with
  | first :: second :: rest, _ =>
    obtain ⟨a, aBound, rfl⟩ := digitOf first (by simp)
    obtain ⟨b, bBound, rfl⟩ := digitOf second (by simp)
    obtain ⟨-, -, -, -, notMinus, notPlus, -⟩ := hexDigit_facts a aBound
    obtain ⟨-, -, -, -, -, -, -, notX, notUpperX, -⟩ := hexDigit_facts b bBound
    have unsigned : splitSign (hexDigit a :: hexDigit b :: rest) =
        (false, hexDigit a :: hexDigit b :: rest) := by
      unfold splitSign
      split <;> simp_all
    rw [unsigned]
    dsimp only
    split <;> simp_all

theorem ofStr?_toStr (id : Uuid) : ofStr? (toStr id) = some id := by
  unfold ofStr?
  dsimp only
  rw [bareDigits_toStr, if_pos (hexText_length 32 id.toNat), intHex_hexText]
  simp

theorem toStr_length (id : Uuid) : (toStr id).toList.length = 36 := by
  have digits := hexText_length 32 id.toNat
  simp [toStr, dashed, digits]

theorem mem_toStr {id : Uuid} {c : Char} (member : c ∈ (toStr id).toList) :
    c = '-' ∨ ∃ digit, digit < 16 ∧ c = hexDigit digit := by
  rw [toStr, String.toList_ofList] at member
  rcases mem_dashed _ c member with isDash | inDigits
  · exact Or.inl isDash
  · exact Or.inr (hexText_mem 32 id.toNat c inDigits)

theorem toStr_injective (left right : Uuid) (same : toStr left = toStr right) : left = right := by
  have parsed := ofStr?_toStr left
  rw [same, ofStr?_toStr right] at parsed
  exact (Option.some.inj parsed).symm

end Uuid

end BackendCore.Python
