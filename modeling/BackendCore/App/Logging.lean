import BackendCore.Python.Text

/-!
# Masking of log events

`app/logging_setup.py`: `mask_sensitive_data` replaces the value of every key of
a log event whose text contains a marker, and walks into mappings, lists and
tuples up to `_MAX_MASK_DEPTH` levels.  A logged value is a tree whose leaves are
texts and opaque objects; the text of a key, `str(key)`, and the lower-casing of
texts are parameters.
-/

set_option autoImplicit false

namespace BackendCore.Logging

/-! ## Logged values -/

inductive Value (Key Leaf : Type) where
  | text (text : String)
  | leaf (object : Leaf)
  | mapping (entries : List (Key × Value Key Leaf))
  | list (items : List (Value Key Leaf))
  | tuple (items : List (Value Key Leaf))

variable {Key Leaf : Type}

/-- An event dictionary; `structlog` builds it from keyword arguments. -/
abbrev Event (Key Leaf : Type) := List (String × Value Key Leaf)

def Value.isLeaf : Value Key Leaf → Prop
  | .text _ => True
  | .leaf _ => True
  | .mapping _ => False
  | .list _ => False
  | .tuple _ => False

def redacted : String := "[redacted]"

def sensitiveKeyMarkers : List String :=
  ["password", "token", "secret", "authorization", "api_key", "apikey", "totp",
    "card_number", "cookie", "credential"]

def maxMaskDepth : Nat := 8

section Masking

variable (lower : String → String) (str : Key → String)

def isSensitiveKey (key : String) : Bool :=
  sensitiveKeyMarkers.any fun marker => decide (marker.toList <:+: (lower key).toList)

/-- The comprehension over the items of a mapping. -/
def maskEntries {K : Type} (sensitive : K → Bool) (mask : Value Key Leaf → Value Key Leaf)
    (entries : List (K × Value Key Leaf)) : List (K × Value Key Leaf) :=
  entries.map fun entry =>
    (entry.1, if sensitive entry.1 then .text redacted else mask entry.2)

def maskRecursive (value : Value Key Leaf) (depth : Nat) : Value Key Leaf :=
  if maxMaskDepth ≤ depth then value
  else match value with
    | .mapping entries =>
      .mapping (maskEntries (fun key => isSensitiveKey lower (str key))
        (fun item => maskRecursive item (depth + 1)) entries)
    | .list items => .list (items.map fun item => maskRecursive item (depth + 1))
    | .tuple items => .list (items.map fun item => maskRecursive item (depth + 1))
    | .text text => .text text
    | .leaf object => .leaf object
termination_by maxMaskDepth - depth

def maskSensitiveData (event : Event Key Leaf) : Event Key Leaf :=
  maskEntries (isSensitiveKey lower) (fun item => maskRecursive lower str item 1) event

end Masking

/-! ## Paths -/

inductive Step (Key : Type) where
  | key (key : Key)
  | index (index : Nat)

/-- The value found under a path of keys and positions. -/
inductive Value.At : Value Key Leaf → List (Step Key) → Value Key Leaf → Prop
  | here (value : Value Key Leaf) : At value [] value
  | entry {entries : List (Key × Value Key Leaf)} {key : Key} {item found : Value Key Leaf}
      {path : List (Step Key)} (mem : (key, item) ∈ entries) (rest : At item path found) :
      At (.mapping entries) (.key key :: path) found
  | listItem {items : List (Value Key Leaf)} {i : Nat} {item found : Value Key Leaf}
      {path : List (Step Key)} (get : items[i]? = some item) (rest : At item path found) :
      At (.list items) (.index i :: path) found
  | tupleItem {items : List (Value Key Leaf)} {i : Nat} {item found : Value Key Leaf}
      {path : List (Step Key)} (get : items[i]? = some item) (rest : At item path found) :
      At (.tuple items) (.index i :: path) found

/-- A path of an event: the key of the event, then the steps below its value. -/
structure EventPath (Key : Type) where
  key : String
  steps : List (Step Key)

def EventAt (event : Event Key Leaf) (path : EventPath Key) (found : Value Key Leaf) : Prop :=
  ∃ item, (path.key, item) ∈ event ∧ item.At path.steps found

theorem Value.at_nil {value found : Value Key Leaf} : value.At [] found ↔ found = value := by
  constructor
  · intro reached
    cases reached
    rfl
  · rintro rfl
    exact .here found

theorem Value.at_key {value found : Value Key Leaf} {key : Key} {path : List (Step Key)} :
    value.At (.key key :: path) found ↔
      ∃ entries item, value = .mapping entries ∧ (key, item) ∈ entries ∧
        item.At path found := by
  constructor
  · intro reached
    cases reached with
    | entry mem rest => exact ⟨_, _, rfl, mem, rest⟩
  · rintro ⟨entries, item, rfl, mem, rest⟩
    exact .entry mem rest

theorem Value.at_index {value found : Value Key Leaf} {i : Nat} {path : List (Step Key)} :
    value.At (.index i :: path) found ↔
      ∃ items item, (value = .list items ∨ value = .tuple items) ∧ items[i]? = some item ∧
        item.At path found := by
  constructor
  · intro reached
    cases reached with
    | listItem get rest => exact ⟨_, _, .inl rfl, get, rest⟩
    | tupleItem get rest => exact ⟨_, _, .inr rfl, get, rest⟩
  · rintro ⟨items, item, rfl | rfl, get, rest⟩
    · exact .listItem get rest
    · exact .tupleItem get rest

section Secrets

variable (lower : String → String) (str : Key → String)

def Step.sensitive : Step Key → Bool
  | .key name => isSensitiveKey lower (str name)
  | .index _ => false

/-- No step of the path goes under a sensitive key. -/
def Open (path : List (Step Key)) : Prop :=
  ∀ step ∈ path, step.sensitive lower str = false

def EventPath.Open (path : EventPath Key) : Prop :=
  isSensitiveKey lower path.key = false ∧ Logging.Open lower str path.steps

/-! ## Events that differ only in secrets -/

/-- The same tree but for the values stored under sensitive keys. -/
inductive SameButSecrets : Value Key Leaf → Value Key Leaf → Prop
  | text (text : String) : SameButSecrets (.text text) (.text text)
  | leaf (object : Leaf) : SameButSecrets (.leaf object) (.leaf object)
  | mapping {left right : List (Key × Value Key Leaf)}
      (keys : left.map Prod.fst = right.map Prod.fst)
      (values : ∀ (i : Nat) (key : Key) (a b : Value Key Leaf), left[i]? = some (key, a) →
        right[i]? = some (key, b) → isSensitiveKey lower (str key) = false →
        SameButSecrets a b) :
      SameButSecrets (.mapping left) (.mapping right)
  | list {left right : List (Value Key Leaf)} (length : left.length = right.length)
      (items : ∀ (i : Nat) (a b : Value Key Leaf), left[i]? = some a → right[i]? = some b →
        SameButSecrets a b) :
      SameButSecrets (.list left) (.list right)
  | tuple {left right : List (Value Key Leaf)} (length : left.length = right.length)
      (items : ∀ (i : Nat) (a b : Value Key Leaf), left[i]? = some a → right[i]? = some b →
        SameButSecrets a b) :
      SameButSecrets (.tuple left) (.tuple right)

structure DifferOnlyInSecrets (left right : Event Key Leaf) : Prop where
  keys : left.map Prod.fst = right.map Prod.fst
  values : ∀ (i : Nat) (key : String) (a b : Value Key Leaf), left[i]? = some (key, a) →
    right[i]? = some (key, b) → isSensitiveKey lower key = false → SameButSecrets lower str a b

/-- Every sensitive key that is not itself under a sensitive key sits in a mapping
that a walk from `depth` on still reaches. -/
def Value.SecretsWithin (value : Value Key Leaf) (depth : Nat) : Prop :=
  ∀ path entries key item, value.At path (.mapping entries) → (key, item) ∈ entries →
    isSensitiveKey lower (str key) = true → Open lower str path →
    depth + path.length < maxMaskDepth

/-- No sensitive key is stored inside `_MAX_MASK_DEPTH` or more levels of nesting. -/
def SecretsShallow (event : Event Key Leaf) : Prop :=
  ∀ key value, (key, value) ∈ event → isSensitiveKey lower key = false →
    value.SecretsWithin lower str 1

end Secrets

variable {lower : String → String} {str : Key → String}

/-! ## One level of the walk -/

theorem maskRecursive_deep (value : Value Key Leaf) {depth : Nat}
    (deep : maxMaskDepth ≤ depth) : maskRecursive lower str value depth = value := by
  rw [maskRecursive.eq_def, if_pos deep]

theorem maskRecursive_mapping (entries : List (Key × Value Key Leaf)) {depth : Nat}
    (near : ¬maxMaskDepth ≤ depth) :
    maskRecursive lower str (.mapping entries) depth =
      .mapping (maskEntries (fun key => isSensitiveKey lower (str key))
        (fun item => maskRecursive lower str item (depth + 1)) entries) := by
  rw [maskRecursive, if_neg near]

theorem maskRecursive_list (items : List (Value Key Leaf)) {depth : Nat}
    (near : ¬maxMaskDepth ≤ depth) :
    maskRecursive lower str (.list items) depth =
      .list (items.map fun item => maskRecursive lower str item (depth + 1)) := by
  rw [maskRecursive, if_neg near]

theorem maskRecursive_tuple (items : List (Value Key Leaf)) {depth : Nat}
    (near : ¬maxMaskDepth ≤ depth) :
    maskRecursive lower str (.tuple items) depth =
      .list (items.map fun item => maskRecursive lower str item (depth + 1)) := by
  rw [maskRecursive, if_neg near]

theorem maskRecursive_isLeaf (value : Value Key Leaf) (atom : value.isLeaf) (depth : Nat) :
    maskRecursive lower str value depth = value := by
  rw [maskRecursive.eq_def]
  split
  · rfl
  · cases value with
    | text text => rfl
    | leaf object => rfl
    | mapping entries => exact atom.elim
    | list items => exact atom.elim
    | tuple items => exact atom.elim

theorem Open.head {step : Step Key} {path : List (Step Key)}
    (shown : Open lower str (step :: path)) : step.sensitive lower str = false :=
  shown step List.mem_cons_self

theorem Open.tail {step : Step Key} {path : List (Step Key)}
    (shown : Open lower str (step :: path)) : Open lower str path :=
  fun later mem => shown later (List.mem_cons_of_mem step mem)

theorem Open.cons {step : Step Key} {path : List (Step Key)}
    (first : step.sensitive lower str = false) (rest : Open lower str path) :
    Open lower str (step :: path) :=
  List.forall_mem_cons.mpr ⟨first, rest⟩

/-! ## What masking keeps -/

theorem maskRecursive_eq_leaf_iff {value found : Value Key Leaf} (atom : found.isLeaf)
    (depth : Nat) : found = maskRecursive lower str value depth ↔ found = value := by
  by_cases deep : maxMaskDepth ≤ depth
  · rw [maskRecursive_deep value deep]
  · cases value with
    | text text => rw [maskRecursive_isLeaf (.text text) trivial]
    | leaf object => rw [maskRecursive_isLeaf (.leaf object) trivial]
    | mapping entries =>
      rw [maskRecursive_mapping entries deep]
      constructor <;> (rintro rfl; exact atom.elim)
    | list items =>
      rw [maskRecursive_list items deep]
      constructor <;> (rintro rfl; exact atom.elim)
    | tuple items =>
      rw [maskRecursive_tuple items deep]
      constructor <;> (rintro rfl; exact atom.elim)

theorem mem_maskEntries {K : Type} (sensitive : K → Bool)
    (mask : Value Key Leaf → Value Key Leaf) (entries : List (K × Value Key Leaf)) (key : K)
    (masked : Value Key Leaf) (shown : sensitive key = false) :
    (key, masked) ∈ maskEntries sensitive mask entries ↔
      ∃ item, (key, item) ∈ entries ∧ masked = mask item := by
  rw [maskEntries, List.mem_map]
  constructor
  · rintro ⟨⟨name, item⟩, mem, equal⟩
    obtain ⟨rfl, value⟩ := Prod.mk.inj equal
    rw [if_neg (by simp [shown])] at value
    exact ⟨item, mem, value.symm⟩
  · rintro ⟨item, mem, rfl⟩
    exact ⟨(key, item), mem, by simp [shown]⟩

theorem at_maskRecursive_iff {found : Value Key Leaf} (atom : found.isLeaf)
    {path : List (Step Key)} (shown : Open lower str path) (value : Value Key Leaf)
    (depth : Nat) :
    (maskRecursive lower str value depth).At path found ↔ value.At path found := by
  induction path generalizing value depth with
  | nil => rw [Value.at_nil, Value.at_nil, maskRecursive_eq_leaf_iff atom]
  | cons step path ih =>
    by_cases deep : maxMaskDepth ≤ depth
    · rw [maskRecursive_deep value deep]
    · have rest := fun item => ih shown.tail item (depth + 1)
      cases step with
      | key key =>
        rw [Value.at_key, Value.at_key]
        cases value with
        | mapping entries =>
          rw [maskRecursive_mapping entries deep]
          have masks := fun masked => mem_maskEntries (fun key => isSensitiveKey lower (str key))
            (fun item => maskRecursive lower str item (depth + 1)) entries key masked shown.head
          constructor
          · rintro ⟨_, masked, ⟨⟩, mem, reached⟩
            obtain ⟨item, inside, rfl⟩ := (masks _).mp mem
            exact ⟨entries, item, rfl, inside, (rest item).mp reached⟩
          · rintro ⟨_, item, ⟨⟩, mem, reached⟩
            exact ⟨_, _, rfl, (masks _).mpr ⟨item, mem, rfl⟩, (rest item).mpr reached⟩
        | text text => rw [maskRecursive_isLeaf (.text text) trivial]
        | leaf object => rw [maskRecursive_isLeaf (.leaf object) trivial]
        | list items => rw [maskRecursive_list items deep]; simp
        | tuple items => rw [maskRecursive_tuple items deep]; simp
      | index i =>
        rw [Value.at_index, Value.at_index]
        cases value with
        | mapping entries => rw [maskRecursive_mapping entries deep]; simp
        | text text => rw [maskRecursive_isLeaf (.text text) trivial]
        | leaf object => rw [maskRecursive_isLeaf (.leaf object) trivial]
        | list items => rw [maskRecursive_list items deep]; simp [rest]
        | tuple items => rw [maskRecursive_tuple items deep]; simp [rest]

theorem eventAt_maskSensitiveData_iff {found : Value Key Leaf} (atom : found.isLeaf)
    {path : EventPath Key} (shown : path.Open lower str) (event : Event Key Leaf) :
    EventAt (maskSensitiveData lower str event) path found ↔ EventAt event path found := by
  have masks := fun masked => mem_maskEntries (isSensitiveKey lower)
    (fun item => maskRecursive lower str item 1) event path.key masked shown.1
  constructor
  · rintro ⟨masked, mem, reached⟩
    obtain ⟨item, inside, rfl⟩ := (masks masked).mp mem
    exact ⟨item, inside, (at_maskRecursive_iff atom shown.2 item 1).mp reached⟩
  · rintro ⟨item, mem, reached⟩
    exact ⟨_, (masks _).mpr ⟨item, mem, rfl⟩,
      (at_maskRecursive_iff atom shown.2 item 1).mpr reached⟩

/-! ## What masking hides -/

theorem getElem?_maskEntries {K : Type} (sensitive : K → Bool)
    (mask : Value Key Leaf → Value Key Leaf) (entries : List (K × Value Key Leaf)) (i : Nat) :
    (maskEntries sensitive mask entries)[i]? = entries[i]?.map fun entry =>
      (entry.1, if sensitive entry.1 then .text redacted else mask entry.2) := by
  rw [maskEntries, List.getElem?_map]

theorem entries_eq {K V : Type} {left right : List (K × V)}
    (keys : left.map Prod.fst = right.map Prod.fst)
    (values : ∀ (i : Nat) (key : K) (a b : V), left[i]? = some (key, a) →
      right[i]? = some (key, b) → a = b) : left = right := by
  apply List.ext_getElem?
  intro i
  have named : left[i]?.map Prod.fst = right[i]?.map Prod.fst := by
    rw [← List.getElem?_map, ← List.getElem?_map, keys]
  cases first : left[i]? with
  | none =>
    rw [first] at named
    exact (Option.map_eq_none_iff.mp named.symm).symm
  | some entry =>
    cases second : right[i]? with
    | none => rw [first, second] at named; nomatch named
    | some other =>
      rw [first, second] at named
      obtain ⟨key, a⟩ := entry
      obtain ⟨name, b⟩ := other
      obtain rfl : key = name := Option.some.inj named
      rw [values i key a b first second]

theorem maskEntries_eq {K : Type} {sensitive : K → Bool}
    {mask : Value Key Leaf → Value Key Leaf} {left right : List (K × Value Key Leaf)}
    (keys : left.map Prod.fst = right.map Prod.fst)
    (values : ∀ (i : Nat) (key : K) (a b : Value Key Leaf), left[i]? = some (key, a) →
      right[i]? = some (key, b) → sensitive key = false → mask a = mask b) :
    maskEntries sensitive mask left = maskEntries sensitive mask right := by
  have names : ∀ entries : List (K × Value Key Leaf),
      (maskEntries sensitive mask entries).map Prod.fst = entries.map Prod.fst := by
    intro entries
    simp [maskEntries]
  apply entries_eq
  · rw [names, names, keys]
  · intro i key a b first second
    rw [getElem?_maskEntries, Option.map_eq_some_iff] at first second
    obtain ⟨⟨_, x⟩, first, ⟨⟩⟩ := first
    obtain ⟨⟨name, y⟩, second, equal⟩ := second
    obtain ⟨rfl, rfl⟩ := Prod.mk.inj equal
    dsimp only
    split
    · rfl
    · next shown => exact values i _ x y first second (Bool.eq_false_iff.mpr shown)

theorem map_eq_map_of_items {A B : Type} {f : A → B} {left right : List A}
    (length : left.length = right.length)
    (items : ∀ (i : Nat) (a b : A), left[i]? = some a → right[i]? = some b → f a = f b) :
    left.map f = right.map f := by
  apply List.ext_getElem (by simp [length])
  intro i inLeft inRight
  rw [List.getElem_map, List.getElem_map]
  exact items i _ _ (List.getElem?_eq_getElem _) (List.getElem?_eq_getElem _)

section Within

variable {depth : Nat}

theorem Value.SecretsWithin.here {entries : List (Key × Value Key Leaf)} {key : Key}
    {item : Value Key Leaf} (within : (Value.mapping entries).SecretsWithin lower str depth)
    (mem : (key, item) ∈ entries) (hidden : isSensitiveKey lower (str key) = true) :
    depth < maxMaskDepth :=
  within [] entries key item (.here _) mem hidden (List.forall_mem_nil _)

theorem Value.SecretsWithin.entry {entries : List (Key × Value Key Leaf)} {key : Key}
    {item : Value Key Leaf} (within : (Value.mapping entries).SecretsWithin lower str depth)
    (mem : (key, item) ∈ entries) (shown : isSensitiveKey lower (str key) = false) :
    item.SecretsWithin lower str (depth + 1) := by
  intro path inner name secret reached inside hidden clear
  have bound := within (.key key :: path) inner name secret (.entry mem reached) inside hidden
    (.cons shown clear)
  rw [List.length_cons] at bound
  omega

theorem Value.SecretsWithin.listItem {items : List (Value Key Leaf)} {i : Nat}
    {item : Value Key Leaf} (within : (Value.list items).SecretsWithin lower str depth)
    (get : items[i]? = some item) : item.SecretsWithin lower str (depth + 1) := by
  intro path inner name secret reached inside hidden clear
  have bound := within (.index i :: path) inner name secret (.listItem get reached) inside hidden
    (.cons rfl clear)
  rw [List.length_cons] at bound
  omega

theorem Value.SecretsWithin.tupleItem {items : List (Value Key Leaf)} {i : Nat}
    {item : Value Key Leaf} (within : (Value.tuple items).SecretsWithin lower str depth)
    (get : items[i]? = some item) : item.SecretsWithin lower str (depth + 1) := by
  intro path inner name secret reached inside hidden clear
  have bound := within (.index i :: path) inner name secret (.tupleItem get reached) inside hidden
    (.cons rfl clear)
  rw [List.length_cons] at bound
  omega

end Within

theorem map_maskRecursive_deep (items : List (Value Key Leaf)) {depth : Nat}
    (deep : maxMaskDepth ≤ depth) :
    items.map (fun item => maskRecursive lower str item (depth + 1)) = items := by
  simp [maskRecursive_deep _ (Nat.le_succ_of_le deep)]

theorem SameButSecrets.maskRecursive_eq {left right : Value Key Leaf} {depth : Nat}
    (same : SameButSecrets lower str left right)
    (within : left.SecretsWithin lower str depth) :
    maskRecursive lower str left depth = maskRecursive lower str right depth := by
  induction same generalizing depth with
  | text text => rfl
  | leaf object => rfl
  | @mapping left right keys values ih =>
    have masked : ∀ (i : Nat) (key : Key) (a b : Value Key Leaf), left[i]? = some (key, a) →
        right[i]? = some (key, b) → isSensitiveKey lower (str key) = false →
        maskRecursive lower str a (depth + 1) = maskRecursive lower str b (depth + 1) :=
      fun i key a b first second shown =>
        ih i key a b first second shown (within.entry (List.mem_of_getElem? first) shown)
    by_cases deep : maxMaskDepth ≤ depth
    · rw [maskRecursive_deep _ deep, maskRecursive_deep _ deep]
      congr 1
      apply entries_eq keys
      intro i key a b first second
      have shown : isSensitiveKey lower (str key) = false := by
        rw [Bool.eq_false_iff]
        intro hidden
        exact absurd deep (Nat.not_le.mpr (within.here (List.mem_of_getElem? first) hidden))
      have equal := masked i key a b first second shown
      rwa [maskRecursive_deep _ (Nat.le_succ_of_le deep),
        maskRecursive_deep _ (Nat.le_succ_of_le deep)] at equal
    · rw [maskRecursive_mapping _ deep, maskRecursive_mapping _ deep,
        maskEntries_eq keys masked]
  | @list left right length items ih =>
    have masked := map_eq_map_of_items length fun i a b first second =>
      ih i a b first second (within.listItem first)
    by_cases deep : maxMaskDepth ≤ depth
    · rw [map_maskRecursive_deep _ deep, map_maskRecursive_deep _ deep] at masked
      rw [masked]
    · rw [maskRecursive_list _ deep, maskRecursive_list _ deep, masked]
  | @tuple left right length items ih =>
    have masked := map_eq_map_of_items length fun i a b first second =>
      ih i a b first second (within.tupleItem first)
    by_cases deep : maxMaskDepth ≤ depth
    · rw [map_maskRecursive_deep _ deep, map_maskRecursive_deep _ deep] at masked
      rw [masked]
    · rw [maskRecursive_tuple _ deep, maskRecursive_tuple _ deep, masked]

theorem DifferOnlyInSecrets.maskSensitiveData_eq {left right : Event Key Leaf}
    (same : DifferOnlyInSecrets lower str left right)
    (shallow : SecretsShallow lower str left) :
    maskSensitiveData lower str left = maskSensitiveData lower str right :=
  maskEntries_eq same.keys fun i key a b first second shown =>
    (same.values i key a b first second shown).maskRecursive_eq
      (shallow key a (List.mem_of_getElem? first) shown)

/-! ## What stays visible below the last level -/

theorem sizeOf_entry_lt {entries : List (Key × Value Key Leaf)} {key : Key}
    {item : Value Key Leaf} (mem : (key, item) ∈ entries) :
    sizeOf item < sizeOf (Value.mapping entries) := by
  have bound := List.sizeOf_lt_of_mem mem
  simp only [Prod.mk.sizeOf_spec, Value.mapping.sizeOf_spec] at bound ⊢
  omega

theorem sameButSecrets_refl : ∀ value : Value Key Leaf, SameButSecrets lower str value value
  | .text text => .text text
  | .leaf object => .leaf object
  | .mapping entries => .mapping rfl fun i key a b first second _ => by
      obtain ⟨_, rfl⟩ := Prod.mk.inj (Option.some.inj (first.symm.trans second))
      have smaller := sizeOf_entry_lt (List.mem_of_getElem? first)
      exact sameButSecrets_refl a
  | .list items => .list rfl fun i a b first second => by
      obtain rfl := Option.some.inj (first.symm.trans second)
      have smaller := List.sizeOf_lt_of_mem (List.mem_of_getElem? first)
      exact sameButSecrets_refl a
  | .tuple items => .tuple rfl fun i a b first second => by
      obtain rfl := Option.some.inj (first.symm.trans second)
      have smaller := List.sizeOf_lt_of_mem (List.mem_of_getElem? first)
      exact sameButSecrets_refl a
termination_by value => sizeOf value
decreasing_by
  · exact smaller
  · simp only [Value.list.sizeOf_spec]; omega
  · simp only [Value.tuple.sizeOf_spec]; omega

theorem map_fst_set {K V : Type} {entries : List (K × V)} {i : Nat} {key : K} {a : V} (b : V)
    (get : entries[i]? = some (key, a)) :
    (entries.set i (key, b)).map Prod.fst = entries.map Prod.fst := by
  rw [List.map_set]
  apply List.ext_getElem?
  intro j
  rw [List.getElem?_set]
  split
  · next same =>
    subst same
    split
    · rw [List.getElem?_map, get]
      rfl
    · next outside => rw [List.getElem?_eq_none (Nat.not_lt.mp outside)]
  · rfl

theorem getElem?_set_cases {A : Type} {items : List A} {i j : Nat} {a b x y : A}
    (get : items[i]? = some a) (before : items[j]? = some x)
    (after : (items.set i b)[j]? = some y) : (x = a ∧ y = b) ∨ x = y := by
  rw [List.getElem?_set] at after
  split at after
  · next same =>
    subst same
    split at after
    · exact .inl ⟨Option.some.inj (before.symm.trans get), (Option.some.inj after).symm⟩
    · nomatch after
  · exact .inr (Option.some.inj (before.symm.trans after))

theorem sameButSecrets_set {entries : List (Key × Value Key Leaf)} {i : Nat} {key : Key}
    {a b : Value Key Leaf} (get : entries[i]? = some (key, a))
    (same : isSensitiveKey lower (str key) = false → SameButSecrets lower str a b) :
    SameButSecrets lower str (.mapping entries) (.mapping (entries.set i (key, b))) := by
  refine .mapping (map_fst_set b get).symm ?_
  intro j name x y before after shown
  rcases getElem?_set_cases get before after with ⟨first, second⟩ | equal
  · obtain ⟨rfl, rfl⟩ := Prod.mk.inj first
    obtain ⟨_, rfl⟩ := Prod.mk.inj second
    exact same shown
  · obtain ⟨_, rfl⟩ := Prod.mk.inj equal
    exact sameButSecrets_refl x

theorem sameItems_set {items : List (Value Key Leaf)} {i : Nat} {a b : Value Key Leaf}
    (get : items[i]? = some a) (same : SameButSecrets lower str a b) (j : Nat)
    (x y : Value Key Leaf) (before : items[j]? = some x)
    (after : (items.set i b)[j]? = some y) : SameButSecrets lower str x y := by
  rcases getElem?_set_cases get before after with ⟨rfl, rfl⟩ | rfl
  · exact same
  · exact sameButSecrets_refl x

theorem maskEntries_inj {K : Type} {sensitive : K → Bool}
    {mask : Value Key Leaf → Value Key Leaf} {left right : List (K × Value Key Leaf)} {i : Nat}
    {key : K} {a b : Value Key Leaf}
    (equal : maskEntries sensitive mask left = maskEntries sensitive mask right)
    (first : left[i]? = some (key, a)) (second : right[i]? = some (key, b))
    (shown : sensitive key = false) : mask a = mask b := by
  have entry := congrArg (fun entries => entries[i]?) equal
  simp only [getElem?_maskEntries, first, second, Option.map_some, shown] at entry
  exact (Prod.mk.inj (Option.some.inj entry)).2

theorem maskRecursive_entry_inj {left right : List (Key × Value Key Leaf)} {i depth : Nat}
    {key : Key} {a b : Value Key Leaf}
    (equal : maskRecursive lower str (.mapping left) depth =
      maskRecursive lower str (.mapping right) depth)
    (first : left[i]? = some (key, a)) (second : right[i]? = some (key, b))
    (shown : isSensitiveKey lower (str key) = false) :
    maskRecursive lower str a (depth + 1) = maskRecursive lower str b (depth + 1) := by
  by_cases deep : maxMaskDepth ≤ depth
  · rw [maskRecursive_deep _ deep, maskRecursive_deep _ deep] at equal
    obtain rfl := Value.mapping.inj equal
    obtain ⟨_, rfl⟩ := Prod.mk.inj (Option.some.inj (first.symm.trans second))
    rfl
  · rw [maskRecursive_mapping _ deep, maskRecursive_mapping _ deep] at equal
    exact maskEntries_inj (Value.mapping.inj equal) first second shown

theorem masked_item_eq {left right : List (Value Key Leaf)} {i depth : Nat}
    {a b : Value Key Leaf}
    (equal : left.map (fun item => maskRecursive lower str item (depth + 1)) =
      right.map fun item => maskRecursive lower str item (depth + 1))
    (first : left[i]? = some a) (second : right[i]? = some b) :
    maskRecursive lower str a (depth + 1) = maskRecursive lower str b (depth + 1) := by
  have item := congrArg (fun items => items[i]?) equal
  simp only [List.getElem?_map, first, second, Option.map_some] at item
  exact Option.some.inj item

theorem masked_items_eq {left right : List (Value Key Leaf)} {depth : Nat}
    {wrap : List (Value Key Leaf) → Value Key Leaf} (wraps : wrap = .list ∨ wrap = .tuple)
    (equal : maskRecursive lower str (wrap left) depth =
      maskRecursive lower str (wrap right) depth) :
    left.map (fun item => maskRecursive lower str item (depth + 1)) =
      right.map fun item => maskRecursive lower str item (depth + 1) := by
  by_cases deep : maxMaskDepth ≤ depth
  · rw [maskRecursive_deep _ deep, maskRecursive_deep _ deep] at equal
    rcases wraps with rfl | rfl
    · rw [Value.list.inj equal]
    · rw [Value.tuple.inj equal]
  · rcases wraps with rfl | rfl
    · rw [maskRecursive_list _ deep, maskRecursive_list _ deep] at equal
      exact Value.list.inj equal
    · rw [maskRecursive_tuple _ deep, maskRecursive_tuple _ deep] at equal
      exact Value.list.inj equal

theorem secret_visible {value : Value Key Leaf} {path : List (Step Key)}
    {entries : List (Key × Value Key Leaf)} {key : Key} {item : Value Key Leaf}
    (reached : value.At path (.mapping entries)) (mem : (key, item) ∈ entries)
    (hidden : isSensitiveKey lower (str key) = true) (shown : Open lower str path) :
    ∃ other, SameButSecrets lower str value other ∧ ∀ depth,
      maxMaskDepth ≤ depth + path.length →
        maskRecursive lower str value depth ≠ maskRecursive lower str other depth := by
  induction path generalizing value with
  | nil =>
    obtain rfl := Value.at_nil.mp reached
    obtain ⟨i, get⟩ := List.mem_iff_getElem?.mp mem
    refine ⟨.mapping (entries.set i (key, .list [item])), sameButSecrets_set get ?_, ?_⟩
    · intro notHidden
      rw [hidden] at notHidden
      nomatch notHidden
    · intro depth deep equal
      rw [List.length_nil, Nat.add_zero] at deep
      rw [maskRecursive_deep _ deep, maskRecursive_deep _ deep] at equal
      have entry := congrArg (fun inner => inner[i]?) (Value.mapping.inj equal)
      simp only [get, List.getElem?_set_self (List.getElem?_eq_some_iff.mp get).1] at entry
      have size := congrArg sizeOf (Prod.mk.inj (Option.some.inj entry)).2
      simp only [Value.list.sizeOf_spec, List.cons.sizeOf_spec, List.nil.sizeOf_spec] at size
      omega
  | cons step path ih =>
    cases step with
    | key name =>
      obtain ⟨outer, below, rfl, inside, rest⟩ := Value.at_key.mp reached
      obtain ⟨other, same, differs⟩ := ih rest shown.tail
      obtain ⟨i, get⟩ := List.mem_iff_getElem?.mp inside
      refine ⟨.mapping (outer.set i (name, other)), sameButSecrets_set get fun _ => same, ?_⟩
      intro depth deep equal
      rw [List.length_cons] at deep
      exact differs (depth + 1) (by omega)
        (maskRecursive_entry_inj equal get
          (List.getElem?_set_self (List.getElem?_eq_some_iff.mp get).1) shown.head)
    | index i =>
      obtain ⟨items, below, kind, get, rest⟩ := Value.at_index.mp reached
      obtain ⟨other, same, differs⟩ := ih rest shown.tail
      have visible : ∀ depth, maxMaskDepth ≤ depth + (path.length + 1) →
          items.map (fun item => maskRecursive lower str item (depth + 1)) ≠
            (items.set i other).map fun item => maskRecursive lower str item (depth + 1) := by
        intro depth deep equal
        exact differs (depth + 1) (by omega)
          (masked_item_eq equal get (List.getElem?_set_self (List.getElem?_eq_some_iff.mp get).1))
      have length : items.length = (items.set i other).length := (List.length_set).symm
      rcases kind with rfl | rfl
      · refine ⟨.list (items.set i other), .list length (sameItems_set get same), ?_⟩
        intro depth deep equal
        exact visible depth deep (masked_items_eq (.inl rfl) equal)
      · refine ⟨.tuple (items.set i other), .tuple length (sameItems_set get same), ?_⟩
        intro depth deep equal
        exact visible depth deep (masked_items_eq (.inr rfl) equal)

theorem secretsShallow_of_hidden {event : Event Key Leaf}
    (hides : ∀ other, DifferOnlyInSecrets lower str event other →
      maskSensitiveData lower str event = maskSensitiveData lower str other) :
    SecretsShallow lower str event := by
  intro name value mem shown path entries key item reached inside hidden clear
  rw [← Nat.not_le]
  intro deep
  obtain ⟨other, same, differs⟩ := secret_visible reached inside hidden clear
  obtain ⟨i, get⟩ := List.mem_iff_getElem?.mp mem
  have differing : DifferOnlyInSecrets lower str event (event.set i (name, other)) := by
    refine ⟨(map_fst_set other get).symm, ?_⟩
    intro j label x y before after _
    rcases getElem?_set_cases get before after with ⟨first, second⟩ | equal
    · obtain ⟨rfl, rfl⟩ := Prod.mk.inj first
      obtain ⟨_, rfl⟩ := Prod.mk.inj second
      exact same
    · obtain ⟨_, rfl⟩ := Prod.mk.inj equal
      exact sameButSecrets_refl x
  exact differs 1 deep
    (maskEntries_inj (hides _ differing) get
      (List.getElem?_set_self (List.getElem?_eq_some_iff.mp get).1) shown)

/-- `mask_sensitive_data` hides the secrets of an event exactly when none lies
below the last level it walks, and whatever the event it keeps every other leaf
where it is. -/
theorem masking_hides_shallow_secrets (lower : String → String) (str : Key → String)
    (event : Event Key Leaf) :
    ((∀ other, DifferOnlyInSecrets lower str event other →
        maskSensitiveData lower str event = maskSensitiveData lower str other) ↔
      SecretsShallow lower str event) ∧
    ∀ (path : EventPath Key) (found : Value Key Leaf), path.Open lower str → found.isLeaf →
      (EventAt (maskSensitiveData lower str event) path found ↔ EventAt event path found) := by
  refine ⟨⟨secretsShallow_of_hidden, ?_⟩, ?_⟩
  · intro shallow other same
    exact same.maskSensitiveData_eq shallow
  · intro path found shown atom
    exact eventAt_maskSensitiveData_iff atom shown event

namespace Sample

/-- Lists within lists, then a mapping that stores a password. -/
def nested : Nat → String → Value String Unit
  | 0, secret => .mapping [("password", .text secret)]
  | levels + 1, secret => .list [nested levels secret]

def loginEvent (levels : Nat) (secret : String) : Event String Unit :=
  [("event", .text "login"), ("payload", nested levels secret)]

theorem password_sensitive : isSensitiveKey Python.lower (id "password") = true := by
  decide +kernel

theorem event_shown : isSensitiveKey Python.lower "event" = false := by
  decide +kernel

theorem payload_shown : isSensitiveKey Python.lower "payload" = false := by
  decide +kernel

theorem nested_same (levels : Nat) (first second : String) :
    SameButSecrets Python.lower id (nested levels first) (nested levels second) := by
  induction levels with
  | zero =>
    refine .mapping rfl ?_
    intro i key a b left right shown
    obtain rfl : key = "password" :=
      congrArg Prod.fst (List.mem_singleton.mp (List.mem_of_getElem? left))
    rw [password_sensitive] at shown
    nomatch shown
  | succ levels ih =>
    have get : [nested levels first][0]? = some (nested levels first) := rfl
    exact .list rfl (sameItems_set get ih)

theorem loginEvent_differs (levels : Nat) (first second : String) :
    DifferOnlyInSecrets Python.lower id (loginEvent levels first) (loginEvent levels second) where
  keys := rfl
  values := by
    intro i key a b left right _
    match i with
    | 0 =>
      obtain ⟨_, rfl⟩ := Prod.mk.inj (Option.some.inj left)
      obtain ⟨_, rfl⟩ := Prod.mk.inj (Option.some.inj right)
      exact .text "login"
    | 1 =>
      obtain ⟨_, rfl⟩ := Prod.mk.inj (Option.some.inj left)
      obtain ⟨_, rfl⟩ := Prod.mk.inj (Option.some.inj right)
      exact nested_same levels first second

/-- Below seven lists the password is logged as it is. -/
theorem deep_password_logged :
    DifferOnlyInSecrets Python.lower id (loginEvent 7 "hunter2") (loginEvent 7 "swordfish") ∧
    maskSensitiveData Python.lower id (loginEvent 7 "hunter2") = loginEvent 7 "hunter2" ∧
    maskSensitiveData Python.lower id (loginEvent 7 "hunter2") ≠
      maskSensitiveData Python.lower id (loginEvent 7 "swordfish") := by
  have unmasked : ∀ secret, maskSensitiveData Python.lower id (loginEvent 7 secret) =
      loginEvent 7 secret := by
    intro secret
    simp [maskSensitiveData, maskEntries, loginEvent, nested, event_shown, payload_shown,
      maskRecursive, maxMaskDepth]
  refine ⟨loginEvent_differs 7 "hunter2" "swordfish", unmasked "hunter2", ?_⟩
  rw [unmasked, unmasked]
  simp [loginEvent, nested]

theorem nested_within (levels depth : Nat) (secret : String)
    (near : depth + levels < maxMaskDepth) :
    (nested levels secret).SecretsWithin Python.lower id depth := by
  induction levels generalizing depth with
  | zero =>
    intro path entries key item reached mem hidden shown
    cases reached with
    | here => exact near
    | entry inside rest =>
      obtain ⟨_, rfl⟩ := Prod.mk.inj (List.mem_singleton.mp inside)
      nomatch rest
  | succ levels ih =>
    intro path entries key item reached mem hidden shown
    cases reached with
    | @listItem _ i _ _ rest get below =>
      match i with
      | 0 =>
        obtain rfl := Option.some.inj get
        have bound := ih (depth + 1) (by omega) rest entries key item below mem hidden shown.tail
        rw [List.length_cons]
        omega

/-- Below six lists it is hidden, and the name of the event stays. -/
theorem shallow_password_hidden :
    maskSensitiveData Python.lower id (loginEvent 6 "hunter2") =
      maskSensitiveData Python.lower id (loginEvent 6 "swordfish") ∧
    EventAt (maskSensitiveData Python.lower id (loginEvent 6 "hunter2")) ⟨"event", []⟩
      (.text "login") := by
  have shallow : SecretsShallow Python.lower id (loginEvent 6 "hunter2") := by
    intro key value mem shown
    rcases List.mem_cons.mp mem with equal | mem
    · obtain ⟨_, rfl⟩ := Prod.mk.inj equal
      intro path entries key item reached
      nomatch reached
    · obtain ⟨_, rfl⟩ := Prod.mk.inj (List.mem_singleton.mp mem)
      exact nested_within 6 1 "hunter2" (by decide)
  have masking := masking_hides_shallow_secrets Python.lower id (loginEvent 6 "hunter2")
  refine ⟨masking.1.mpr shallow _ (loginEvent_differs 6 "hunter2" "swordfish"), ?_⟩
  refine (masking.2 ⟨"event", []⟩ (.text "login") ⟨event_shown, ?_⟩ trivial).mpr ?_
  · exact List.forall_mem_nil _
  · exact ⟨.text "login", List.mem_cons_self, .here _⟩

end Sample

end BackendCore.Logging
