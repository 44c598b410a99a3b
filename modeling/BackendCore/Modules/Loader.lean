import BackendCore.Lib.Cycles
import BackendCore.Lib.Table
import BackendCore.Python.Json

/-!
# The feature loader

`modules/loader.py`: `validate_dependencies` and `installation_order` over the
manifests of the discovered features.  A mapping of manifests is a table keyed by
the feature's name, in insertion order; of a manifest the name and the two
`requires` lists are kept.  The order is built layer by layer: a round takes out
every feature none of whose requirements is left.
-/

set_option autoImplicit false

namespace BackendCore.Modules

open BackendCore.Python Relation

structure FeatureManifest where
  name : String
  requiresFeatures : List String
  requiresCore : List String
  deriving DecidableEq

abbrev Manifests := Table FeatureManifest.name

structure FeatureError where
  message : String
  deriving DecidableEq

def coreModules : List String :=
  ["auth", "tenants", "billing", "notifications", "audit", "admin", "files"]

def Manifests.names (manifests : Manifests) : List String :=
  manifests.rows.map FeatureManifest.name

/-! ## Validation -/

section Validation

variable (isPrintable : Char → Bool)

def featureProblems (manifests : Manifests) (manifest : FeatureManifest) : List String :=
  (manifest.requiresFeatures.filter fun required => required ∉ manifests.names).map
    fun required => manifest.name ++ " requires feature " ++ Json.reprStr isPrintable required ++
      ", which is not installed"

def coreProblems (manifest : FeatureManifest) : List String :=
  (manifest.requiresCore.filter fun required => required ∉ coreModules).map
    fun required => manifest.name ++ " requires core " ++ Json.reprStr isPrintable required ++
      ", which is not a core module"

def validateDependencies (manifests : Manifests) : Except FeatureError Unit :=
  let problems := manifests.rows.flatMap fun manifest =>
    featureProblems isPrintable manifests manifest ++ coreProblems isPrintable manifest
  if problems = [] then .ok ()
  else .error ⟨"Unsatisfied feature dependencies:\n- " ++ "\n- ".intercalate problems⟩

end Validation

/-! ## Installation order -/

/-- `sorted` over texts. -/
def sorted (names : List String) : List String := names.insertionSort (· ≤ ·)

def isReady (remaining : List FeatureManifest) (manifest : FeatureManifest) : Bool :=
  manifest.requiresFeatures.all fun dep => dep ∉ remaining.map FeatureManifest.name

def ready (remaining : List FeatureManifest) : List String :=
  sorted ((remaining.filter (isReady remaining)).map FeatureManifest.name)

def cyclicError (remaining : List FeatureManifest) : FeatureError :=
  ⟨"cyclic feature dependencies among: " ++
    ", ".intercalate (sorted (remaining.map FeatureManifest.name))⟩

theorem mem_sorted {names : List String} {name : String} :
    name ∈ sorted names ↔ name ∈ names := List.mem_insertionSort _

theorem mem_ready {remaining : List FeatureManifest} {name : String} :
    name ∈ ready remaining ↔
      ∃ manifest ∈ remaining, isReady remaining manifest = true ∧ manifest.name = name := by
  rw [ready, mem_sorted, List.mem_map]
  simp only [List.mem_filter, and_assoc]

/-- What is left once the ready features are taken out. -/
def leftOver (remaining : List FeatureManifest) : List FeatureManifest :=
  remaining.filter fun manifest => manifest.name ∉ ready remaining

theorem length_leftOver_lt {remaining : List FeatureManifest} (some : ready remaining ≠ []) :
    (leftOver remaining).length < remaining.length := by
  obtain ⟨name, mem⟩ := List.exists_mem_of_ne_nil _ some
  obtain ⟨manifest, member, _, named⟩ := mem_ready.mp mem
  refine List.length_filter_lt_length_iff_exists.mpr ⟨manifest, member, ?_⟩
  simpa [named] using mem

/-- The loop `while remaining`. -/
def installFrom (remaining : List FeatureManifest) (ordered : List String) :
    Except FeatureError (List String) :=
  if remaining = [] then .ok ordered
  else if ready remaining = [] then .error (cyclicError remaining)
  else installFrom (leftOver remaining) (ordered ++ ready remaining)
termination_by remaining.length
decreasing_by
  next _ some => exact length_leftOver_lt some

def installationOrder (manifests : Manifests) : Except FeatureError (List String) :=
  installFrom manifests.rows []

/-! ## The requires relation -/

def Requires (manifests : Manifests) (name dep : String) : Prop :=
  ∃ manifest, manifests.get name = some manifest ∧ dep ∈ manifest.requiresFeatures

theorem mem_names_iff {manifests : Manifests} {name : String} :
    name ∈ manifests.names ↔ ∃ manifest, manifests.get name = some manifest := by
  rw [Manifests.names, List.mem_map]
  constructor
  · rintro ⟨manifest, mem, rfl⟩
    exact ⟨manifest, manifests.get_of_mem manifest mem⟩
  · rintro ⟨manifest, found⟩
    exact ⟨manifest, Table.mem_of_get found, Table.key_of_get found⟩

theorem requires_of_mem {manifests : Manifests} {manifest : FeatureManifest} {dep : String}
    (mem : manifest ∈ manifests.rows) :
    Requires manifests manifest.name dep ↔ dep ∈ manifest.requiresFeatures := by
  constructor
  · rintro ⟨other, found, needed⟩
    rw [manifests.get_of_mem manifest mem] at found
    obtain rfl := Option.some.inj found
    exact needed
  · intro needed
    exact ⟨manifest, manifests.get_of_mem manifest mem, needed⟩

theorem Requires.left_mem {manifests : Manifests} {name dep : String}
    (needs : Requires manifests name dep) : name ∈ manifests.names := by
  obtain ⟨manifest, found, _⟩ := needs
  exact mem_names_iff.mpr ⟨manifest, found⟩

theorem requires_mem_of_valid {isPrintable : Char → Bool} {manifests : Manifests}
    (valid : validateDependencies isPrintable manifests = .ok ()) {name dep : String}
    (needs : Requires manifests name dep) : dep ∈ manifests.names := by
  obtain ⟨manifest, found, needed⟩ := needs
  by_contra missing
  unfold validateDependencies at valid
  dsimp only at valid
  split at valid
  · next none =>
    have problems := List.flatMap_eq_nil_iff.mp none manifest (Table.mem_of_get found)
    have listed := List.map_eq_nil_iff.mp (List.append_eq_nil_iff.mp problems).1
    have kept := List.filter_eq_nil_iff.mp listed dep needed
    simp only [decide_eq_true_eq, not_not] at kept
    exact missing kept
  · nomatch valid

/-! ## The loop invariant -/

/-- Every feature of the list comes after what it requires. -/
def AfterRequired (manifests : Manifests) (order : List String) : Prop :=
  ∀ before name after, order = before ++ name :: after →
    ∀ dep, Requires manifests name dep → dep ∈ before

structure Layered (manifests : Manifests) (remaining : List FeatureManifest)
    (ordered : List String) : Prop where
  split : (ordered ++ remaining.map FeatureManifest.name).Perm manifests.names
  members : ∀ manifest ∈ remaining, manifest ∈ manifests.rows
  after : AfterRequired manifests ordered
  acyclic : ∀ name ∈ ordered, ¬ReachesCycle (Requires manifests) name

section Step

variable {manifests : Manifests} {remaining : List FeatureManifest} {ordered : List String}

theorem Layered.start (manifests : Manifests) : Layered manifests manifests.rows [] where
  split := List.Perm.refl _
  members := fun _ mem => mem
  after := by
    intro before name after equal
    simp at equal
  acyclic := List.forall_mem_nil _

theorem Layered.name_unique (layered : Layered manifests remaining ordered)
    {left right : FeatureManifest} (first : left ∈ remaining) (second : right ∈ remaining)
    (same : left.name = right.name) : left = right := by
  have found := manifests.get_of_mem left (layered.members left first)
  rw [same, manifests.get_of_mem right (layered.members right second)] at found
  exact (Option.some.inj found).symm

theorem Layered.mem_ready_iff (layered : Layered manifests remaining ordered)
    {manifest : FeatureManifest} (mem : manifest ∈ remaining) :
    manifest.name ∈ ready remaining ↔ isReady remaining manifest = true := by
  rw [mem_ready]
  constructor
  · rintro ⟨other, member, isReady, same⟩
    rwa [layered.name_unique member mem same] at isReady
  · intro isReady
    exact ⟨manifest, mem, isReady, rfl⟩

theorem Layered.ready_perm (layered : Layered manifests remaining ordered) :
    (ready remaining ++ (leftOver remaining).map FeatureManifest.name).Perm
      (remaining.map FeatureManifest.name) := by
  have left : leftOver remaining =
      remaining.filter fun manifest => !isReady remaining manifest := by
    apply List.filter_congr
    intro manifest mem
    simp [layered.mem_ready_iff mem]
  rw [left]
  refine ((List.perm_insertionSort _ _).append_right _).trans ?_
  rw [← List.map_append]
  exact (List.filter_append_perm (isReady remaining) remaining).map _

theorem Layered.required_ordered (layered : Layered manifests remaining ordered)
    (closed : ∀ name dep, Requires manifests name dep → dep ∈ manifests.names)
    {name dep : String} (isNext : name ∈ ready remaining) (needs : Requires manifests name dep) :
    dep ∈ ordered := by
  obtain ⟨manifest, mem, isReady, rfl⟩ := mem_ready.mp isNext
  have needed := (requires_of_mem (layered.members manifest mem)).mp needs
  have gone : dep ∉ remaining.map FeatureManifest.name := by
    simpa using List.all_eq_true.mp isReady dep needed
  have somewhere := layered.split.mem_iff.mpr (closed _ _ needs)
  exact (List.mem_append.mp somewhere).resolve_right gone

theorem Layered.next (layered : Layered manifests remaining ordered)
    (closed : ∀ name dep, Requires manifests name dep → dep ∈ manifests.names) :
    Layered manifests (leftOver remaining) (ordered ++ ready remaining) where
  split := by
    rw [List.append_assoc]
    exact (layered.ready_perm.append_left ordered).trans layered.split
  members := fun manifest mem => layered.members manifest (List.mem_of_mem_filter mem)
  after := by
    intro before name after equal dep needs
    rcases append_eq_append_cons equal with ⟨rest, early⟩ | ⟨more, rfl, here⟩
    · exact layered.after before name rest early dep needs
    · have isNext : name ∈ ready remaining := by
        rw [here]
        exact List.mem_append_right _ List.mem_cons_self
      exact List.mem_append_left _ (layered.required_ordered closed isNext needs)
  acyclic := by
    intro name mem reaches
    rcases List.mem_append.mp mem with old | isNext
    · exact layered.acyclic name old reaches
    · obtain ⟨dep, needs, further⟩ := reaches.step
      exact layered.acyclic dep (layered.required_ordered closed isNext needs) further

theorem Layered.nodup_remaining (layered : Layered manifests remaining ordered) :
    (remaining.map FeatureManifest.name).Nodup :=
  (List.nodup_append.mp (layered.split.nodup_iff.mpr manifests.nodup)).2.1

theorem Layered.stuck (layered : Layered manifests remaining ordered)
    (none : ready remaining = []) {name : String} :
    name ∈ remaining.map FeatureManifest.name ↔
      name ∈ manifests.names ∧ ReachesCycle (Requires manifests) name := by
  constructor
  · intro left
    refine ⟨layered.split.mem_iff.mp (List.mem_append_right _ left), ?_⟩
    refine reachesCycle_of_closed (remaining.map FeatureManifest.name) ?_ left
    intro other mem
    obtain ⟨manifest, member, rfl⟩ := List.mem_map.mp mem
    have notReady : isReady remaining manifest ≠ true := by
      intro isReady
      have isNext := (layered.mem_ready_iff member).mpr isReady
      rw [none] at isNext
      nomatch isNext
    rw [isReady, ne_eq, List.all_eq_true] at notReady
    push Not at notReady
    obtain ⟨dep, needed, there⟩ := notReady
    refine ⟨dep, by simpa using there, ?_⟩
    exact (requires_of_mem (layered.members manifest member)).mpr needed
  · rintro ⟨mem, reaches⟩
    rcases List.mem_append.mp (layered.split.mem_iff.mpr mem) with old | left
    · exact absurd reaches (layered.acyclic name old)
    · exact left

end Step

theorem installFrom_ends {manifests : Manifests} {remaining : List FeatureManifest}
    {ordered : List String} (layered : Layered manifests remaining ordered)
    (closed : ∀ name dep, Requires manifests name dep → dep ∈ manifests.names) :
    (∃ order, installFrom remaining ordered = .ok order ∧ order.Perm manifests.names ∧
      AfterRequired manifests order ∧
      ∀ name ∈ manifests.names, ¬ReachesCycle (Requires manifests) name) ∨
    ∃ stuck, stuck ≠ [] ∧ installFrom remaining ordered = .error (cyclicError stuck) ∧
      (stuck.map FeatureManifest.name).Nodup ∧
      ∀ name, name ∈ stuck.map FeatureManifest.name ↔
        name ∈ manifests.names ∧ ReachesCycle (Requires manifests) name := by
  induction remaining, ordered using installFrom.induct with
  | case1 ordered =>
    left
    have full := layered.split
    rw [List.map_nil, List.append_nil] at full
    refine ⟨ordered, ?_, full, layered.after, ?_⟩
    · rw [installFrom, if_pos rfl]
    · intro name mem
      exact layered.acyclic name (full.mem_iff.mpr mem)
  | case2 remaining ordered some none =>
    right
    refine ⟨remaining, some, ?_, layered.nodup_remaining, fun name => layered.stuck none⟩
    rw [installFrom, if_neg some, if_pos none]
  | case3 remaining ordered some progress hypothesis =>
    rw [installFrom, if_neg some, if_neg progress]
    exact hypothesis (layered.next closed)

/-- `installation_order` on validated manifests: an order in which every feature comes
after its requirements when `requires` has no cycle, and otherwise an error that names
the features that reach one. -/
theorem installation_order_exact (isPrintable : Char → Bool) (manifests : Manifests)
    (valid : validateDependencies isPrintable manifests = .ok ()) :
    ((∃ order, installationOrder manifests = .ok order ∧ order.Perm manifests.names ∧
        AfterRequired manifests order) ↔
      ∀ name, ¬TransGen (Requires manifests) name name) ∧
    ((∃ error, installationOrder manifests = .error error) ↔
      ∃ name, TransGen (Requires manifests) name name) ∧
    ∀ error, installationOrder manifests = .error error →
      ∃ named : List String, named.Nodup ∧
        error.message = "cyclic feature dependencies among: " ++ ", ".intercalate named ∧
        ∀ name, name ∈ named ↔
          name ∈ manifests.names ∧ ReachesCycle (Requires manifests) name := by
  have closed : ∀ name dep, Requires manifests name dep → dep ∈ manifests.names :=
    fun _ _ needs => requires_mem_of_valid valid needs
  have onCycle : ∀ {name}, TransGen (Requires manifests) name name →
      name ∈ manifests.names ∧ ReachesCycle (Requires manifests) name := by
    intro name cycle
    obtain ⟨_, needs, _⟩ := TransGen.head'_iff.mp cycle
    exact ⟨needs.left_mem, name, .refl, cycle⟩
  rcases installFrom_ends (Layered.start manifests) closed with
    ⟨order, ok, perm, after, acyclic⟩ | ⟨stuck, some, failed, distinct, exact⟩
  · have ok : installationOrder manifests = .ok order := ok
    have free : ∀ name, ¬TransGen (Requires manifests) name name :=
      fun name cycle => acyclic name (onCycle cycle).1 (onCycle cycle).2
    refine ⟨⟨fun _ => free, fun _ => ⟨order, ok, perm, after⟩⟩, ⟨?_, ?_⟩, ?_⟩
    · rintro ⟨error, failed⟩
      rw [ok] at failed
      nomatch failed
    · rintro ⟨name, cycle⟩
      exact absurd cycle (free name)
    · intro error failed
      rw [ok] at failed
      nomatch failed
  · have failed : installationOrder manifests = .error (cyclicError stuck) := failed
    obtain ⟨first, mem⟩ := List.exists_mem_of_ne_nil stuck some
    have reaches := ((exact first.name).mp (List.mem_map_of_mem mem)).2
    obtain ⟨name, cycle⟩ := exists_reachesCycle_iff.mp ⟨first.name, reaches⟩
    refine ⟨⟨?_, fun free => absurd cycle (free name)⟩,
      ⟨fun _ => ⟨name, cycle⟩, fun _ => ⟨_, failed⟩⟩, ?_⟩
    · rintro ⟨order, ok, _⟩
      rw [failed] at ok
      nomatch ok
    · intro error raised
      rw [failed] at raised
      obtain rfl := Except.error.inj raised
      refine ⟨sorted (stuck.map FeatureManifest.name), ?_, rfl, ?_⟩
      · exact (List.perm_insertionSort _ _).nodup_iff.mpr distinct
      · intro name
        rw [mem_sorted, exact]

namespace Sample

def printable (c : Char) : Bool := 32 ≤ c.toNat && c.toNat < 127

/-- Orders and the cart require the products. -/
def shop : Manifests where
  rows := [⟨"commerce.orders", ["commerce.cart", "commerce.products"], ["billing"]⟩,
    ⟨"commerce.cart", ["commerce.products"], []⟩, ⟨"commerce.products", [], ["files"]⟩]
  nodup := by decide

example : installationOrder shop =
    .ok ["commerce.products", "commerce.cart", "commerce.orders"] := by decide +kernel

/-- Deals and contacts require each other, activities require the deals. -/
def entangled : Manifests where
  rows := [⟨"crm.activities", ["crm.deals"], []⟩, ⟨"crm.contacts", ["crm.deals"], []⟩,
    ⟨"crm.deals", ["crm.contacts"], []⟩]
  nodup := by decide

theorem entangled_features_refused :
    validateDependencies printable entangled = .ok () ∧
      ∃ error, installationOrder entangled = .error error := by
  have valid : validateDependencies printable entangled = .ok () := by decide +kernel
  have forth : Requires entangled "crm.deals" "crm.contacts" :=
    ⟨⟨"crm.deals", ["crm.contacts"], []⟩, by decide +kernel, by decide⟩
  have back : Requires entangled "crm.contacts" "crm.deals" :=
    ⟨⟨"crm.contacts", ["crm.deals"], []⟩, by decide +kernel, by decide⟩
  exact ⟨valid, (installation_order_exact printable entangled valid).2.1.mpr
    ⟨"crm.deals", .head forth (.single back)⟩⟩

end Sample

end BackendCore.Modules
