import BackendCore.Python.Splitting

/-!
# `parse_accept_language`

The header is cut at commas, each part at its first semicolon, and the parts are sorted by their
weight.  The weight is looked for directly after the semicolon and in lower case, so one written
`; q=0.1` or `;Q=0.1`, as HTTP allows, is not seen and counts as 1.

Headers are given by their grammar: entries with optional whitespace, rendered to text.
-/

set_option autoImplicit false

namespace BackendCore.I18n

open BackendCore.Python

def supportedLocales : List String := ["ru", "uz"]

/-! ## Weights -/

def fractionValue : List (Fin 10) → ℚ
  | [] => 0
  | digit :: rest => ((digit.val : ℚ) + fractionValue rest) / 10

/-- The `qvalue` of HTTP: `0` or `1` with an optional fraction, which for `1` is zero. -/
structure QValue where
  one : Bool
  fraction : Option (List (Fin 10))
  atMostOne : one = true → ∀ digits, fraction = some digits → ∀ digit ∈ digits, digit = 0

def digitChar (digit : Fin 10) : Char := Char.ofNat (48 + digit.val)

def QValue.text (value : QValue) : List Char :=
  (if value.one then '1' else '0') ::
    match value.fraction with
    | none => []
    | some digits => '.' :: digits.map digitChar

def QValue.value (value : QValue) : ℚ :=
  (if value.one then 1 else 0) + fractionValue (value.fraction.getD [])

/-- `float(text)`, `none` for `ValueError`; a `qvalue` is read as an exact decimal. -/
structure FloatReader where
  float : String → Option ℚ
  exact : ∀ value : QValue, float (String.ofList value.text) = some value.value

/-! ## The parser -/

structure Ranked where
  quality : ℚ
  index : Nat
  tag : String

/-- `a` stands no later than `b` in the descending order of `(quality, -index, tag)`; the
indexes are distinct, so tags are not compared. -/
def Ranked.Ahead (a b : Ranked) : Prop :=
  b.quality < a.quality ∨ (b.quality = a.quality ∧ a.index ≤ b.index)

instance : DecidableRel Ranked.Ahead :=
  fun a b => inferInstanceAs
    (Decidable (b.quality < a.quality ∨ (b.quality = a.quality ∧ a.index ≤ b.index)))

/-- The weight among the parameters of a part. -/
def qualityOf (reader : FloatReader) (params : String) : ℚ :=
  if startswith params "q=" then (reader.float (String.ofList (params.toList.drop 2))).getD 1
  else 1

def rank (reader : FloatReader) (part : String) (index : Nat) : Option Ranked :=
  let (token, params) := partition (strip part) ';'
  -- `token.split("-", 1)[0]` is the text before the first dash
  let tag := lower (strip (partition token '-').1)
  if tag = "" then none else some ⟨qualityOf reader params, index, tag⟩

def rankAll (reader : FloatReader) (parts : List String) : List Ranked :=
  parts.zipIdx.filterMap fun part => rank reader part.1 part.2

def parseAcceptLanguage (reader : FloatReader) (header : Option String) : Option String :=
  match header with
  | none => none
  | some header =>
    if header = "" then none
    else
      let ranked := rankAll reader (split header ',')
      ((ranked.insertionSort Ranked.Ahead).find? fun entry =>
        supportedLocales.contains entry.tag).map Ranked.tag

/-! ## Headers -/

/-- Optional whitespace. -/
structure Ows where
  chars : List Char
  blank : ∀ c ∈ chars, c = ' ' ∨ c = '\t'

def isTagChar (c : Char) : Bool :=
  (48 ≤ c.toNat && c.toNat ≤ 57) || (65 ≤ c.toNat && c.toNat ≤ 90) ||
    (97 ≤ c.toNat && c.toNat ≤ 122) || c == '*'

structure LanguageRange where
  primary : List Char
  subtags : List (List Char)
  primary_ne : primary ≠ []
  primary_chars : ∀ c ∈ primary, isTagChar c = true
  subtags_chars : ∀ subtag ∈ subtags, ∀ c ∈ subtag, isTagChar c = true

def LanguageRange.text (range : LanguageRange) : List Char :=
  range.primary ++ range.subtags.flatMap ('-' :: ·)

structure Weight where
  before : Ows
  after : Ows
  capital : Bool
  value : QValue

def Weight.params (weight : Weight) : List Char :=
  weight.after.chars ++ (if weight.capital then 'Q' else 'q') :: '=' :: weight.value.text

structure Entry where
  lead : Ows
  range : LanguageRange
  weight : Option Weight
  trail : Ows

def Entry.body (entry : Entry) : List Char :=
  match entry.weight with
  | none => entry.range.text
  | some weight => entry.range.text ++ weight.before.chars ++ ';' :: weight.params

def Entry.text (entry : Entry) : List Char :=
  entry.lead.chars ++ entry.body ++ entry.trail.chars

def headerOf (entries : List Entry) : String :=
  ",".intercalate (entries.map fun entry => String.ofList entry.text)

/-! ## What a header asks for -/

def Entry.tag (entry : Entry) : String := lower (String.ofList entry.range.primary)

def Entry.Supported (entry : Entry) : Prop := entry.tag ∈ supportedLocales

def Entry.quality (entry : Entry) : ℚ :=
  match entry.weight with
  | none => 1
  | some weight => weight.value.value

/-- The entry at `index` is supported, and no supported entry has a higher quality, or the same
at an earlier place. -/
structure Best (quality : Entry → ℚ) (entries : List Entry) (index : Nat) (entry : Entry) :
    Prop where
  here : entries[index]? = some entry
  supported : entry.Supported
  highest : ∀ place other, entries[place]? = some other → other.Supported →
    quality other < quality entry ∨ (quality other = quality entry ∧ index ≤ place)

/-- The best entry's tag, and nothing when no entry is supported. -/
def Negotiated (entries : List Entry) (result : Option String) : Prop :=
  (∀ index entry, Best Entry.quality entries index entry → result = some entry.tag) ∧
  (result = none ↔ ∀ entry ∈ entries, ¬entry.Supported)

/-- A weight is not seen behind whitespace or a capital `Q`. -/
def Entry.Misread (entry : Entry) : Prop :=
  ∃ weight, entry.weight = some weight ∧ (weight.after.chars ≠ [] ∨ weight.capital = true)

instance (entry : Entry) : Decidable entry.Misread :=
  match known : entry.weight with
  | none => isFalse (by
      rintro ⟨weight, same, _⟩
      rw [known] at same
      cases same)
  | some weight => decidable_of_iff (weight.after.chars ≠ [] ∨ weight.capital = true) (by
      constructor
      · intro unseen
        exact ⟨weight, known, unseen⟩
      · rintro ⟨other, same, unseen⟩
        rw [known] at same
        cases same
        exact unseen)

/-- The quality the parser gives an entry. -/
def Entry.read (entry : Entry) : ℚ := if entry.Misread then 1 else entry.quality

/-! ## Qualities -/

theorem fractionValue_le_one (digits : List (Fin 10)) : fractionValue digits ≤ 1 := by
  induction digits with
  | nil => exact zero_le_one
  | cons digit rest hypothesis =>
    have small : (digit.val : ℚ) ≤ 9 := by
      have bound : digit.val ≤ 9 := Nat.lt_succ_iff.mp digit.isLt
      exact_mod_cast bound
    rw [fractionValue]
    linarith

theorem fractionValue_zeros {digits : List (Fin 10)} (zeros : ∀ digit ∈ digits, digit = 0) :
    fractionValue digits = 0 := by
  induction digits with
  | nil => rfl
  | cons digit rest hypothesis =>
    rw [fractionValue, hypothesis (fun other member => zeros other (List.mem_cons_of_mem _ member)),
      zeros digit List.mem_cons_self]
    norm_num

theorem QValue.value_le_one (value : QValue) : value.value ≤ 1 := by
  rw [QValue.value]
  cases one : value.one with
  | false =>
    have bound := fractionValue_le_one (value.fraction.getD [])
    simpa using bound
  | true =>
    have zeros : fractionValue (value.fraction.getD []) = 0 := by
      cases known : value.fraction with
      | none => rfl
      | some digits => exact fractionValue_zeros (value.atMostOne one digits known)
    rw [zeros]
    norm_num

theorem Entry.quality_le_one (entry : Entry) : entry.quality ≤ 1 := by
  unfold Entry.quality
  cases entry.weight with
  | none => exact le_refl 1
  | some weight => exact weight.value.value_le_one

theorem Entry.read_le_one (entry : Entry) : entry.read ≤ 1 := by
  unfold Entry.read
  split
  · exact le_refl 1
  · exact entry.quality_le_one

theorem Entry.quality_le_read (entry : Entry) : entry.quality ≤ entry.read := by
  unfold Entry.read
  split
  · exact entry.quality_le_one
  · exact le_refl entry.quality

/-! ## Characters -/

theorem isTagChar_facts {c : Char} (tagChar : isTagChar c = true) :
    isSpaceChar c = false ∧ c ≠ ',' ∧ c ≠ ';' ∧ c ≠ '-' := by
  have codes : 42 ≤ c.toNat ∧ c.toNat ≤ 122 := by
    simp only [isTagChar, Bool.or_eq_true, Bool.and_eq_true, decide_eq_true_eq, beq_iff_eq]
      at tagChar
    rcases tagChar with ((digit | capital) | small) | rfl
    · omega
    · omega
    · omega
    · decide
  refine ⟨not_isSpaceChar_of_visible (by omega), ?_, ?_, ?_⟩
  · rintro rfl
    exact absurd tagChar (by decide)
  · rintro rfl
    exact absurd tagChar (by decide)
  · rintro rfl
    exact absurd tagChar (by decide)

theorem Ows.facts (ows : Ows) {c : Char} (member : c ∈ ows.chars) :
    isSpaceChar c = true ∧ c ≠ ',' ∧ c ≠ ';' ∧ c ≠ '-' ∧ c ≠ 'q' := by
  rcases ows.blank c member with rfl | rfl
  · decide
  · decide

theorem LanguageRange.facts (range : LanguageRange) {c : Char} (member : c ∈ range.text) :
    isSpaceChar c = false ∧ c ≠ ',' ∧ c ≠ ';' := by
  rw [LanguageRange.text, List.mem_append] at member
  rcases member with inPrimary | inSubtags
  · obtain ⟨visible, notComma, notSemicolon, -⟩ := isTagChar_facts (range.primary_chars c inPrimary)
    exact ⟨visible, notComma, notSemicolon⟩
  · obtain ⟨subtag, known, inSubtag⟩ := List.mem_flatMap.mp inSubtags
    rcases List.mem_cons.mp inSubtag with rfl | inside
    · decide
    · obtain ⟨visible, notComma, notSemicolon, -⟩ :=
        isTagChar_facts (range.subtags_chars subtag known c inside)
      exact ⟨visible, notComma, notSemicolon⟩

theorem QValue.facts (value : QValue) {c : Char} (member : c ∈ value.text) :
    isSpaceChar c = false ∧ c ≠ ',' ∧ c ≠ ';' := by
  have digits : ∀ digit : Fin 10, isSpaceChar (digitChar digit) = false ∧
      digitChar digit ≠ ',' ∧ digitChar digit ≠ ';' := by decide
  rw [QValue.text] at member
  rcases List.mem_cons.mp member with whole | later
  · cases one : value.one with
    | true =>
      rw [one] at whole
      rw [whole]
      decide
    | false =>
      rw [one] at whole
      rw [whole]
      decide
  · cases fraction : value.fraction with
    | none =>
      rw [fraction] at later
      exact nomatch later
    | some shown =>
      rw [fraction] at later
      rcases List.mem_cons.mp later with rfl | inDigits
      · decide
      · obtain ⟨digit, -, rfl⟩ := List.mem_map.mp inDigits
        exact digits digit

/-! ## Reading one entry -/

theorem Entry.body_ne_nil (entry : Entry) : entry.body ≠ [] := by
  have primary : entry.range.text ≠ [] :=
    List.append_ne_nil_of_left_ne_nil entry.range.primary_ne _
  unfold Entry.body
  cases entry.weight with
  | none => exact primary
  | some weight => exact List.append_ne_nil_of_right_ne_nil _ (List.cons_ne_nil _ _)

theorem Entry.body_head (entry : Entry) (c : Char) (isHead : entry.body.head? = some c) :
    isSpaceChar c = false := by
  have inPrimary : c ∈ entry.range.primary := by
    have known : entry.body.head? = entry.range.primary.head? := by
      unfold Entry.body
      cases entry.weight with
      | none => exact List.head?_append_of_ne_nil _ entry.range.primary_ne
      | some weight =>
        dsimp only
        rw [LanguageRange.text, List.append_assoc, List.append_assoc]
        exact List.head?_append_of_ne_nil _ entry.range.primary_ne
    rw [known] at isHead
    exact List.mem_of_mem_head? isHead
  exact (isTagChar_facts (entry.range.primary_chars c inPrimary)).1

theorem Entry.body_last (entry : Entry) (c : Char) (isLast : entry.body.getLast? = some c) :
    isSpaceChar c = false := by
  unfold Entry.body at isLast
  cases weighed : entry.weight with
  | none =>
    rw [weighed] at isLast
    exact (entry.range.facts (List.mem_of_getLast? isLast)).1
  | some weight =>
    have split : entry.range.text ++ weight.before.chars ++ ';' :: weight.params =
        (entry.range.text ++ weight.before.chars ++ ';' :: weight.after.chars ++
          [if weight.capital then 'Q' else 'q', '=']) ++ weight.value.text := by
      simp only [Weight.params, List.append_assoc, List.cons_append, List.nil_append]
    have shown : weight.value.text ≠ [] := List.cons_ne_nil _ _
    rw [weighed] at isLast
    dsimp only at isLast
    rw [split, List.getLast?_append_of_ne_nil _ shown] at isLast
    exact (weight.value.facts (List.mem_of_getLast? isLast)).1

theorem Entry.strip_text (entry : Entry) :
    strip (String.ofList entry.text) = String.ofList entry.body := by
  rw [strip, String.toList_ofList, Entry.text]
  exact congrArg String.ofList (stripWhere_padded (fun c member => (entry.lead.facts member).1)
    (fun c member => (entry.trail.facts member).1) entry.body_head entry.body_last
    entry.body_ne_nil)

theorem LanguageRange.primary_found (range : LanguageRange) (padding : List Char)
    (blank : ∀ c ∈ padding, isSpaceChar c = true ∧ c ≠ '-') :
    strip (partition (String.ofList (range.text ++ padding)) '-').1 =
      String.ofList range.primary := by
  have noDash : '-' ∉ range.primary := by
    intro member
    exact (isTagChar_facts (range.primary_chars '-' member)).2.2.2 rfl
  have visible : ∀ c ∈ range.primary, isSpaceChar c = false := by
    intro c member
    exact (isTagChar_facts (range.primary_chars c member)).1
  rw [LanguageRange.text]
  cases subtags : range.subtags with
  | nil =>
    have plain : '-' ∉ range.primary ++ padding := by
      intro member
      rcases List.mem_append.mp member with inPrimary | inPadding
      · exact noDash inPrimary
      · exact (blank '-' inPadding).2 rfl
    rw [List.flatMap_nil, List.append_nil, partition_none plain, strip, String.toList_ofList]
    have stripped : stripWhere isSpaceChar ([] ++ range.primary ++ padding) = range.primary :=
      stripWhere_padded (fun c member => nomatch member) (fun c member => (blank c member).1)
        (fun c isHead => visible c (List.mem_of_mem_head? isHead))
        (fun c isLast => visible c (List.mem_of_getLast? isLast)) range.primary_ne
    exact congrArg String.ofList stripped
  | cons first rest =>
    have dashed : range.primary ++ (first :: rest).flatMap ('-' :: ·) ++ padding =
        range.primary ++ '-' :: (first ++ rest.flatMap ('-' :: ·) ++ padding) := by
      simp only [List.flatMap_cons, List.append_assoc, List.cons_append]
    rw [dashed, partition_at noDash, strip, String.toList_ofList]
    exact congrArg String.ofList (stripWhere_eq_self visible)

theorem Entry.tag_ne_empty (entry : Entry) : entry.tag ≠ "" := by
  intro isEmpty
  have chars := congrArg String.toList isEmpty
  rw [Entry.tag, lower, String.toList_ofList, String.toList_ofList] at chars
  exact entry.range.primary_ne (List.map_eq_nil_iff.mp chars)

theorem Weight.quality_read (reader : FloatReader) (weight : Weight) :
    qualityOf reader (String.ofList weight.params) =
      if weight.after.chars ≠ [] ∨ weight.capital = true then 1 else weight.value.value := by
  have chars : (String.ofList weight.params).toList = weight.params := String.toList_ofList
  unfold qualityOf startswith
  rw [chars]
  by_cases unseen : weight.after.chars ≠ [] ∨ weight.capital = true
  · have missed : ("q=" : String).toList.isPrefixOf weight.params = false := by
      unfold Weight.params
      cases padding : weight.after.chars with
      | nil =>
        rw [padding] at unseen
        have capital : weight.capital = true := unseen.resolve_left (fun differs => differs rfl)
        rw [capital]
        rfl
      | cons c rest =>
        have notQ : c ≠ 'q' :=
          (weight.after.facts (padding ▸ List.mem_cons_self)).2.2.2.2
        have differs : ('q' == c) = false := beq_false_of_ne (Ne.symm notQ)
        change (('q' == c) && _) = false
        rw [differs]
        rfl
    rw [missed, if_pos unseen]
    rfl
  · rw [if_neg unseen]
    push Not at unseen
    obtain ⟨noPadding, small⟩ := unseen
    have params : weight.params = 'q' :: '=' :: weight.value.text := by
      rw [Weight.params, noPadding, Bool.eq_false_iff.mpr small]
      rfl
    have seen : ("q=" : String).toList.isPrefixOf ('q' :: '=' :: weight.value.text) = true := rfl
    rw [params, seen, if_pos rfl]
    change (reader.float (String.ofList weight.value.text)).getD 1 = weight.value.value
    rw [reader.exact]
    rfl

theorem Entry.rank_text (reader : FloatReader) (entry : Entry) (index : Nat) :
    rank reader (String.ofList entry.text) index = some ⟨entry.read, index, entry.tag⟩ := by
  have noSemicolon : ';' ∉ entry.range.text := fun member => (entry.range.facts member).2.2 rfl
  unfold rank
  rw [entry.strip_text]
  unfold Entry.body Entry.read Entry.quality
  cases weighed : entry.weight with
  | none =>
    have seen : ¬entry.Misread := by
      rintro ⟨weight, known, -⟩
      rw [weighed] at known
      cases known
    have found := entry.range.primary_found [] (fun c member => nomatch member)
    rw [List.append_nil] at found
    dsimp only
    rw [partition_none noSemicolon]
    dsimp only
    rw [found, if_neg seen]
    exact if_neg entry.tag_ne_empty
  | some weight =>
    have plain : ';' ∉ entry.range.text ++ weight.before.chars := by
      intro member
      rcases List.mem_append.mp member with inRange | inPadding
      · exact noSemicolon inRange
      · exact (weight.before.facts inPadding).2.2.1 rfl
    have found := entry.range.primary_found weight.before.chars
      (fun c member => ⟨(weight.before.facts member).1, (weight.before.facts member).2.2.2.1⟩)
    have misread : entry.Misread ↔ weight.after.chars ≠ [] ∨ weight.capital = true := by
      constructor
      · rintro ⟨other, known, unseen⟩
        cases weighed.symm.trans known
        exact unseen
      · intro unseen
        exact ⟨weight, weighed, unseen⟩
    dsimp only
    rw [partition_at plain]
    dsimp only
    rw [found, weight.quality_read reader]
    simp only [misread]
    exact if_neg entry.tag_ne_empty

/-! ## Reading the header -/

theorem Entry.text_plain (entry : Entry) : ',' ∉ entry.text := by
  intro member
  rw [Entry.text, List.mem_append, List.mem_append] at member
  rcases member with (inLead | inBody) | inTrail
  · exact (entry.lead.facts inLead).2.1 rfl
  · unfold Entry.body at inBody
    cases weighed : entry.weight with
    | none =>
      rw [weighed] at inBody
      exact (entry.range.facts inBody).2.1 rfl
    | some weight =>
      rw [weighed] at inBody
      dsimp only at inBody
      rw [Weight.params, List.mem_append, List.mem_append, List.mem_cons, List.mem_append,
        List.mem_cons, List.mem_cons] at inBody
      rcases inBody with (inRange | inBefore) | isSemicolon | inAfter | isQ | isEquals | inValue
      · exact (entry.range.facts inRange).2.1 rfl
      · exact (weight.before.facts inBefore).2.1 rfl
      · exact absurd isSemicolon (by decide)
      · exact (weight.after.facts inAfter).2.1 rfl
      · cases capital : weight.capital with
        | true =>
          rw [capital] at isQ
          exact absurd isQ (by decide)
        | false =>
          rw [capital] at isQ
          exact absurd isQ (by decide)
      · exact absurd isEquals (by decide)
      · exact (weight.value.facts inValue).2.1 rfl
  · exact (entry.trail.facts inTrail).2.1 rfl

theorem split_headerOf {entries : List Entry} (nonempty : entries ≠ []) :
    split (headerOf entries) ',' = entries.map fun entry => String.ofList entry.text := by
  apply split_intercalate
  · intro none
    exact nonempty (List.map_eq_nil_iff.mp none)
  · intro part member
    obtain ⟨entry, -, rfl⟩ := List.mem_map.mp member
    rw [String.toList_ofList]
    exact entry.text_plain

theorem headerOf_ne_empty {entries : List Entry} (nonempty : entries ≠ []) :
    headerOf entries ≠ "" := by
  intro isEmpty
  have parts := split_headerOf nonempty
  rw [isEmpty] at parts
  cases entries with
  | nil => exact nonempty rfl
  | cons entry rest =>
    have blank : "" = String.ofList entry.text := (List.cons.inj parts).1
    have chars : [] = entry.text := by
      have toList := congrArg String.toList blank
      exact toList.trans String.toList_ofList
    rw [Entry.text] at chars
    exact entry.body_ne_nil (List.append_eq_nil_iff.mp
      (List.append_eq_nil_iff.mp chars.symm).1).2

/-- The entries in header order, with the qualities the parser gives them. -/
def rankedEntries (entries : List Entry) : List Ranked :=
  entries.zipIdx.map fun entry => ⟨entry.1.read, entry.2, entry.1.tag⟩

theorem rankAll_texts (reader : FloatReader) (entries : List Entry) (start : Nat) :
    ((entries.map fun entry => String.ofList entry.text).zipIdx start).filterMap
        (fun part => rank reader part.1 part.2) =
      (entries.zipIdx start).map fun entry => ⟨entry.1.read, entry.2, entry.1.tag⟩ := by
  induction entries generalizing start with
  | nil => rfl
  | cons entry rest hypothesis =>
    rw [List.map_cons, List.zipIdx_cons, List.zipIdx_cons, List.map_cons, List.filterMap_cons,
      entry.rank_text reader start, hypothesis]

theorem rankAll_headerOf (reader : FloatReader) {entries : List Entry}
    (nonempty : entries ≠ []) :
    rankAll reader (split (headerOf entries) ',') = rankedEntries entries := by
  rw [split_headerOf nonempty]
  exact rankAll_texts reader entries 0

theorem mem_rankedEntries {entries : List Entry} {ranked : Ranked} :
    ranked ∈ rankedEntries entries ↔
      ∃ entry, entries[ranked.index]? = some entry ∧ ranked.quality = entry.read ∧
        ranked.tag = entry.tag := by
  rw [rankedEntries, List.mem_map]
  constructor
  · rintro ⟨⟨entry, index⟩, member, rfl⟩
    exact ⟨entry, List.mem_zipIdx_iff_getElem?.mp member, rfl, rfl⟩
  · rintro ⟨entry, here, quality, tag⟩
    refine ⟨(entry, ranked.index), List.mem_zipIdx_iff_getElem?.mpr here, ?_⟩
    rw [← quality, ← tag]

/-! ## The first supported entry -/

instance : IsTrans Ranked Ranked.Ahead where
  trans := by
    intro a b c ab bc
    rcases ab with lower | ⟨same, earlier⟩
    · rcases bc with lower' | ⟨same', _⟩
      · exact .inl (lt_trans lower' lower)
      · exact .inl (same' ▸ lower)
    · rcases bc with lower' | ⟨same', earlier'⟩
      · exact .inl (same ▸ lower')
      · exact .inr ⟨same'.trans same, le_trans earlier earlier'⟩

instance : Std.Total Ranked.Ahead where
  total := by
    intro a b
    rcases lt_trichotomy a.quality b.quality with lower | same | higher
    · exact .inr (.inl lower)
    · rcases le_total a.index b.index with earlier | later
      · exact .inl (.inr ⟨same.symm, earlier⟩)
      · exact .inr (.inr ⟨same, later⟩)
    · exact .inl (.inl higher)

theorem first_match {keep : Ranked → Bool} {ranked : List Ranked} {found : Ranked}
    (first : (ranked.insertionSort Ranked.Ahead).find? keep = some found) :
    found ∈ ranked ∧ keep found = true ∧
      ∀ other ∈ ranked, keep other = true → found.Ahead other := by
  obtain ⟨kept, before, after, split, skipped⟩ := List.find?_eq_some_iff_append.mp first
  have member : ∀ entry, entry ∈ ranked ↔ entry ∈ before ++ found :: after := by
    intro entry
    rw [← split]
    exact (List.mem_insertionSort Ranked.Ahead).symm
  have sorted : (before ++ found :: after).Pairwise Ranked.Ahead :=
    split ▸ List.pairwise_insertionSort Ranked.Ahead ranked
  refine ⟨(member found).mpr (List.mem_append_right _ List.mem_cons_self), kept, ?_⟩
  intro other isRanked isKept
  rcases List.mem_append.mp ((member other).mp isRanked) with inBefore | inRest
  · have passed := skipped other inBefore
    rw [isKept] at passed
    exact absurd passed (by decide)
  · rcases List.mem_cons.mp inRest with rfl | inAfter
    · exact .inr ⟨rfl, le_refl _⟩
    · exact List.rel_of_pairwise_cons (List.pairwise_append.mp sorted).2.1 inAfter

theorem supported_iff (entry : Entry) :
    supportedLocales.contains entry.tag = true ↔ entry.Supported :=
  List.contains_iff_mem

theorem parsed_best (reader : FloatReader) {entries : List Entry} {tag : String}
    (parsed : parseAcceptLanguage reader (some (headerOf entries)) = some tag) :
    ∃ index entry, Best Entry.read entries index entry ∧ entry.tag = tag := by
  have nonempty : entries ≠ [] := by
    rintro rfl
    exact nomatch parsed
  unfold parseAcceptLanguage at parsed
  dsimp only at parsed
  rw [if_neg (headerOf_ne_empty nonempty), rankAll_headerOf reader nonempty] at parsed
  obtain ⟨found, first, sameTag⟩ := Option.map_eq_some_iff.mp parsed
  obtain ⟨member, kept, ahead⟩ := first_match first
  obtain ⟨entry, here, quality, itsTag⟩ := mem_rankedEntries.mp member
  rw [itsTag] at kept sameTag
  refine ⟨found.index, entry, ⟨here, (supported_iff entry).mp kept, ?_⟩, sameTag⟩
  intro place other there supported
  have ranked : (⟨other.read, place, other.tag⟩ : Ranked) ∈ rankedEntries entries :=
    mem_rankedEntries.mpr ⟨other, there, rfl, rfl⟩
  have behind := ahead _ ranked ((supported_iff other).mpr supported)
  rw [Ranked.Ahead, quality] at behind
  exact behind

theorem parsed_none_iff (reader : FloatReader) (entries : List Entry) :
    parseAcceptLanguage reader (some (headerOf entries)) = none ↔
      ∀ entry ∈ entries, ¬entry.Supported := by
  by_cases isEmpty : entries = []
  · subst isEmpty
    exact iff_of_true rfl (fun entry member => nomatch member)
  · unfold parseAcceptLanguage
    dsimp only
    rw [if_neg (headerOf_ne_empty isEmpty), rankAll_headerOf reader isEmpty,
      Option.map_eq_none_iff, List.find?_eq_none]
    constructor
    · intro none entry member supported
      obtain ⟨index, here⟩ := List.mem_iff_getElem?.mp member
      have ranked : (⟨entry.read, index, entry.tag⟩ : Ranked) ∈ rankedEntries entries :=
        mem_rankedEntries.mpr ⟨entry, here, rfl, rfl⟩
      exact none _ ((List.mem_insertionSort Ranked.Ahead).mpr ranked)
        ((supported_iff entry).mpr supported)
    · intro none ranked member kept
      obtain ⟨entry, here, -, tag⟩ :=
        mem_rankedEntries.mp ((List.mem_insertionSort Ranked.Ahead).mp member)
      rw [tag] at kept
      exact none entry (List.mem_of_getElem? here) ((supported_iff entry).mp kept)

/-! ## When the result is the right one -/

/-- An entry that counts as 1: its weight is 1, left out, or not seen. -/
def Entry.CountsFull (entry : Entry) : Prop := entry.Misread ∨ entry.quality = 1

/-- Every supported entry of another tag than the best one's whose weight is not seen stands
behind an entry with the best one's tag that counts as 1. -/
def Undisturbed (entries : List Entry) : Prop :=
  ∀ index best, Best Entry.quality entries index best →
    ∀ (place : Nat) (other : Entry), entries[place]? = some other → other.Supported →
      other.Misread → other.tag ≠ best.tag →
      ∃ (earlier : Nat) (fellow : Entry), earlier < place ∧ entries[earlier]? = some fellow ∧
        fellow.tag = best.tag ∧ fellow.CountsFull

theorem Entry.read_eq_one_iff (entry : Entry) : entry.read = 1 ↔ entry.CountsFull := by
  unfold Entry.read Entry.CountsFull
  by_cases misread : entry.Misread
  · rw [if_pos misread]
    exact iff_of_true rfl (.inl misread)
  · rw [if_neg misread]
    exact (or_iff_right misread).symm

theorem Undisturbed.same_tag {entries : List Entry} (undisturbed : Undisturbed entries)
    {index found : Nat} {best winner : Entry} (isBest : Best Entry.quality entries index best)
    (wins : Best Entry.read entries found winner) : winner.tag = best.tag := by
  by_contra differs
  by_cases misread : winner.Misread
  · obtain ⟨earlier, fellow, before, there, sameTag, full⟩ :=
      undisturbed index best isBest found winner wins.here wins.supported misread differs
    have supported : fellow.Supported := by
      have known := isBest.supported
      rw [Entry.Supported, ← sameTag] at known
      exact known
    have fellowFull : fellow.read = 1 := fellow.read_eq_one_iff.mpr full
    have winnerFull : winner.read = 1 := winner.read_eq_one_iff.mpr (.inl misread)
    rcases wins.highest earlier fellow there supported with lower | ⟨_, notBefore⟩
    · rw [fellowFull, winnerFull] at lower
      exact lt_irrefl 1 lower
    · omega
  · have seen : winner.read = winner.quality := if_neg misread
    -- the best entry's quality is not lowered by the reading, so it is still ahead
    have raised : best.quality ≤ best.read := best.quality_le_read
    rcases isBest.highest found winner wins.here wins.supported with lower | ⟨same, before⟩
    · rcases wins.highest index best isBest.here isBest.supported with lower' | ⟨same', _⟩
      · rw [seen] at lower'
        linarith
      · rw [seen] at same'
        linarith
    · rcases wins.highest index best isBest.here isBest.supported with lower' | ⟨same', behind⟩
      · rw [seen] at lower'
        linarith
      · have samePlace : index = found := le_antisymm before behind
        have sameEntry : best = winner := by
          have here := isBest.here
          rw [samePlace, wins.here] at here
          exact (Option.some.inj here).symm
        exact differs (congrArg Entry.tag sameEntry.symm)

/-- The parser returns what the header asks for exactly when no unseen weight disturbs the
order. -/
theorem accept_language_negotiated_iff (reader : FloatReader) (entries : List Entry) :
    Negotiated entries (parseAcceptLanguage reader (some (headerOf entries))) ↔
      Undisturbed entries := by
  constructor
  · intro negotiated index best isBest place other there supported misread differs
    have result := negotiated.1 index best isBest
    obtain ⟨found, winner, wins, sameTag⟩ := parsed_best reader result
    have otherFull : other.read = 1 := other.read_eq_one_iff.mpr (.inl misread)
    rcases wins.highest place other there supported with lower | ⟨same, notLater⟩
    · rw [otherFull] at lower
      exact absurd winner.read_le_one (not_le_of_gt lower)
    · rw [otherFull] at same
      have distinct : found ≠ place := by
        intro samePlace
        rw [← samePlace, wins.here] at there
        cases there
        exact differs sameTag
      exact ⟨found, winner, lt_of_le_of_ne notLater distinct, wins.here, sameTag,
        winner.read_eq_one_iff.mp same.symm⟩
  · intro undisturbed
    refine ⟨?_, parsed_none_iff reader entries⟩
    intro index best isBest
    cases parsed : parseAcceptLanguage reader (some (headerOf entries)) with
    | none =>
      have none := (parsed_none_iff reader entries).mp parsed
      exact absurd isBest.supported (none best (List.mem_of_getElem? isBest.here))
    | some tag =>
      obtain ⟨found, winner, wins, sameTag⟩ := parsed_best reader parsed
      rw [← sameTag, undisturbed.same_tag isBest wins]

namespace Sample

def readDigit (c : Char) : Option (Fin 10) :=
  (List.finRange 10).find? fun digit => digitChar digit == c

def readDecimal (chars : List Char) : Option ℚ :=
  match chars with
  | whole :: rest => do
    let units ← readDigit whole
    match rest with
    | [] => some units.val
    | point :: digits =>
      if point = '.' then
        (digits.mapM readDigit).map fun fraction => units.val + fractionValue fraction
      else none
  | [] => none

theorem readDigit_digitChar : ∀ digit : Fin 10, readDigit (digitChar digit) = some digit := by
  decide

theorem mapM_readDigit (digits : List (Fin 10)) :
    (digits.map digitChar).mapM readDigit = some digits := by
  induction digits with
  | nil => rfl
  | cons digit rest hypothesis =>
    rw [List.map_cons, List.mapM_cons, readDigit_digitChar, hypothesis]
    rfl

theorem readDecimal_text (value : QValue) : readDecimal value.text = some value.value := by
  have whole : readDigit (if value.one then '1' else '0') =
      some (if value.one then (1 : Fin 10) else 0) := by
    cases value.one with
    | true => decide
    | false => decide
  have units : (((if value.one then (1 : Fin 10) else 0).val : Nat) : ℚ) =
      if value.one then 1 else 0 := by
    cases value.one with
    | true => rfl
    | false => rfl
  rw [QValue.text, QValue.value, readDecimal, whole]
  cases value.fraction with
  | none =>
    change some _ = some (_ + (0 : ℚ))
    rw [units, add_zero]
  | some digits =>
    change ((digits.map digitChar).mapM readDigit).map _ = some _
    rw [mapM_readDigit]
    change some (_ + fractionValue digits) = some (_ + fractionValue digits)
    rw [units]

def reader : FloatReader where
  float := fun text => readDecimal text.toList
  exact := by
    intro value
    rw [String.toList_ofList]
    exact readDecimal_text value

def noSpace : Ows := ⟨[], nofun⟩

def space : Ows := ⟨[' '], fun _ member => .inl (List.mem_singleton.mp member)⟩

def russian : LanguageRange :=
  ⟨['r', 'u'], [], List.cons_ne_nil _ _, List.all_eq_true.mp (by decide), nofun⟩

def uzbek : LanguageRange :=
  ⟨['u', 'z'], [], List.cons_ne_nil _ _, List.all_eq_true.mp (by decide), nofun⟩

def tenths (digit : Fin 10) : QValue := ⟨false, some [digit], nofun⟩

def mostlyRussian : Entry := ⟨noSpace, russian, some ⟨noSpace, noSpace, false, tenths 9⟩, noSpace⟩

def slightlyUzbek : Entry := ⟨space, uzbek, some ⟨noSpace, space, false, tenths 1⟩, noSpace⟩

theorem mostlyRussian_best : Best Entry.quality [mostlyRussian, slightlyUzbek] 0 mostlyRussian where
  here := rfl
  supported := (supported_iff mostlyRussian).mp (by decide)
  highest := by
    intro place other there _
    match place with
    | 0 =>
      cases there
      exact .inr ⟨rfl, le_refl 0⟩
    | 1 =>
      cases there
      exact .inl (by decide +kernel)
    | _ + 2 => exact nomatch there

theorem spaced_weight_is_missed :
    headerOf [mostlyRussian, slightlyUzbek] = "ru;q=0.9, uz; q=0.1" ∧
    parseAcceptLanguage reader (some "ru;q=0.9, uz; q=0.1") = some "uz" ∧
    ¬Negotiated [mostlyRussian, slightlyUzbek]
      (parseAcceptLanguage reader (some "ru;q=0.9, uz; q=0.1")) := by
  have parsed : parseAcceptLanguage reader (some "ru;q=0.9, uz; q=0.1") = some "uz" := by
    decide +kernel
  refine ⟨by decide +kernel, parsed, ?_⟩
  intro negotiated
  have asked := negotiated.1 0 mostlyRussian mostlyRussian_best
  rw [parsed] at asked
  exact absurd asked (by decide +kernel)

end Sample

end BackendCore.I18n
