import BackendCore.Modules.Loader

/-!
# The requires chain of a feature

`tools/add_feature.py`: `_resolve_chain` walks the requirements of a feature depth
first, with one set of names already seen for the whole walk, and appends a name
once all its requirements have been visited.  The recursion is on fuel; one unit
for every manifest is enough, so that running out of it is no outcome of the search.
-/

set_option autoImplicit false

namespace BackendCore.Tools

open BackendCore.Python BackendCore.Modules Relation

structure Walk where
  seen : List String
  order : List String

inductive Stop where
  | featureError (error : FeatureError)
  | keyError (name : String)
  | outOfFuel
  deriving DecidableEq

section Search

variable (isPrintable : Char → Bool) (manifests : Manifests)

def missingError (name dep : String) : FeatureError :=
  ⟨name ++ " requires " ++ Json.reprStr isPrintable dep ++
    ", which is missing from the source"⟩

/-- The loop over `requires_features`, for the visit of one requirement. -/
def visitEach (name : String) (visit : String → Walk → Except Stop Walk) :
    List String → Walk → Except Stop Walk
  | [], walk => .ok walk
  | dep :: deps, walk =>
    if dep ∉ manifests.names then .error (.featureError (missingError isPrintable name dep))
    else
      match visit dep walk with
      | .error stop => .error stop
      | .ok walk => visitEach name visit deps walk

def visit : Nat → String → Walk → Except Stop Walk
  | 0, _, _ => .error .outOfFuel
  | fuel + 1, name, walk =>
    if name ∈ walk.seen then .ok walk
    else
      match manifests.get name with
      | none => .error (.keyError name)
      | some manifest =>
        match visitEach isPrintable manifests name (visit fuel) manifest.requiresFeatures
            { walk with seen := name :: walk.seen } with
        | .error stop => .error stop
        | .ok walk => .ok { walk with order := walk.order ++ [name] }

def resolveChain (feature : String) : Except Stop (List String) :=
  if feature ∉ manifests.names then
    .error (.featureError
      ⟨"unknown feature " ++ Json.reprStr isPrintable feature ++ " in the source project"⟩)
  else
    (visit isPrintable manifests (manifests.names.length + 1) feature ⟨[], []⟩).map Walk.order

end Search

/-! ## What a walk keeps -/

/-- Every requirement of a listed name stands before it, unless it leads back to it. -/
def AfterOrAround (manifests : Manifests) (order : List String) : Prop :=
  ∀ before name after, order = before ++ name :: after →
    ∀ dep, Requires manifests name dep → dep ∈ before ∨ TransGen (Requires manifests) dep name

structure Sound (manifests : Manifests) (walk : Walk) : Prop where
  nodup : walk.order.Nodup
  listed : ∀ name ∈ walk.order, name ∈ walk.seen
  present : ∀ name ∈ walk.seen, name ∈ manifests.names
  closed : ∀ name ∈ walk.order, ∀ dep, Requires manifests name dep → dep ∈ walk.seen
  after : AfterOrAround manifests walk.order

/-- A name whose visit has begun and not ended. -/
def Walk.Open (walk : Walk) (name : String) : Prop := name ∈ walk.seen ∧ name ∉ walk.order

/-- What a visit below `name` adds to a walk: finished names that `name` reaches. -/
structure Extends (manifests : Manifests) (name : String) (walk final : Walk) : Prop where
  sound : Sound manifests final
  seen : ∀ other ∈ walk.seen, other ∈ final.seen
  opens : ∀ other, final.Open other ↔ walk.Open other
  reached : ∀ other ∈ final.seen, other ∈ walk.seen ∨
    ReflTransGen (Requires manifests) name other

def unseen (manifests : Manifests) (walk : Walk) : Nat :=
  (manifests.names.filter fun name => name ∉ walk.seen).length

section Extension

variable {manifests : Manifests} {name : String} {walk middle final : Walk}

theorem Extends.refl (sound : Sound manifests walk) : Extends manifests name walk walk where
  sound := sound
  seen := fun _ mem => mem
  opens := fun _ => Iff.rfl
  reached := fun _ mem => .inl mem

theorem Extends.trans (first : Extends manifests name walk middle)
    (second : Extends manifests name middle final) : Extends manifests name walk final where
  sound := second.sound
  seen := fun other mem => second.seen other (first.seen other mem)
  opens := fun other => (second.opens other).trans (first.opens other)
  reached := by
    intro other mem
    rcases second.reached other mem with early | reached
    · exact first.reached other early
    · exact .inr reached

theorem Extends.above {dep : String} (needs : Requires manifests name dep)
    (extends_ : Extends manifests dep walk final) : Extends manifests name walk final where
  sound := extends_.sound
  seen := extends_.seen
  opens := extends_.opens
  reached := fun other mem => (extends_.reached other mem).imp_right (.head needs)

theorem unseen_le (grows : ∀ other ∈ walk.seen, other ∈ final.seen) :
    unseen manifests final ≤ unseen manifests walk := by
  refine (List.monotone_filter_right _ ?_).length_le
  intro other fresh
  simp only [decide_eq_true_eq] at fresh ⊢
  exact fun mem => fresh (grows other mem)

theorem unseen_lt (present : name ∈ manifests.names) (fresh : name ∉ walk.seen) :
    unseen manifests { walk with seen := name :: walk.seen } < unseen manifests walk := by
  unfold unseen
  have fewer : manifests.names.filter (fun other => other ∉ name :: walk.seen) =
      (manifests.names.filter fun other => other ∉ walk.seen).filter (· ≠ name) := by
    rw [List.filter_filter]
    apply List.filter_congr
    intro other _
    simp
  rw [fewer]
  refine List.length_filter_lt_length_iff_exists.mpr ⟨name, ?_, by simp⟩
  exact List.mem_filter.mpr ⟨present, by simpa using fresh⟩

theorem Sound.enter (sound : Sound manifests walk) (present : name ∈ manifests.names) :
    Sound manifests { walk with seen := name :: walk.seen } where
  nodup := sound.nodup
  listed := fun other mem => List.mem_cons_of_mem _ (sound.listed other mem)
  present := List.forall_mem_cons.mpr ⟨present, sound.present⟩
  closed := fun other mem dep needs => List.mem_cons_of_mem _ (sound.closed other mem dep needs)
  after := sound.after

theorem Sound.leave (sound : Sound manifests final) (isOpen : final.Open name)
    (required : ∀ dep, Requires manifests name dep → dep ∈ final.seen)
    (leads : ∀ other, final.Open other → other = name ∨
      TransGen (Requires manifests) other name) :
    Sound manifests { final with order := final.order ++ [name] } where
  nodup := by
    rw [← List.concat_eq_append]
    exact sound.nodup.concat isOpen.2
  listed := by
    intro other mem
    rcases List.mem_append.mp mem with old | new
    · exact sound.listed other old
    · rw [List.mem_singleton.mp new]
      exact isOpen.1
  present := sound.present
  closed := by
    intro other mem dep needs
    rcases List.mem_append.mp mem with old | new
    · exact sound.closed other old dep needs
    · rw [List.mem_singleton.mp new] at needs
      exact required dep needs
  after := by
    intro before other after equal dep needs
    rcases append_eq_append_cons equal with ⟨rest, early⟩ | ⟨more, rfl, here⟩
    · exact sound.after before other rest early dep needs
    · obtain ⟨rfl, rfl⟩ : more = [] ∧ name = other := by
        cases more with
        | nil => exact ⟨rfl, (List.cons.inj here).1⟩
        | cons head tail => simp at here
      rw [List.append_nil]
      by_cases done : dep ∈ final.order
      · exact .inl done
      · right
        rcases leads dep ⟨required dep needs, done⟩ with rfl | path
        · exact .single needs
        · exact path

end Extension

/-! ## The search -/

section Outcomes

variable (isPrintable : Char → Bool) (manifests : Manifests)

/-- A search fails only at a requirement that is missing. -/
def Misses (name : String) (stop : Stop) : Prop :=
  ∃ other dep, ReflTransGen (Requires manifests) name other ∧ Requires manifests other dep ∧
    dep ∉ manifests.names ∧ stop = .featureError (missingError isPrintable other dep)

def Visits (name : String) (walk : Walk) : Except Stop Walk → Prop
  | .ok final => Extends manifests name walk final ∧ name ∈ final.seen ∧
      (name ∉ walk.seen → ∃ before, final.order = before ++ [name])
  | .error stop => Misses isPrintable manifests name stop

def VisitsEach (name : String) (deps : List String) (walk : Walk) : Except Stop Walk → Prop
  | .ok final => Extends manifests name walk final ∧ ∀ dep ∈ deps, dep ∈ final.seen
  | .error stop => Misses isPrintable manifests name stop

end Outcomes

variable {isPrintable : Char → Bool} {manifests : Manifests}

theorem Misses.above {name dep : String} {stop : Stop} (needs : Requires manifests name dep)
    (misses : Misses isPrintable manifests dep stop) : Misses isPrintable manifests name stop := by
  obtain ⟨other, absent, path, further, missing, text⟩ := misses
  exact ⟨other, absent, .head needs path, further, missing, text⟩

theorem visitEach_visits {fuel : Nat} {name : String}
    (visits : ∀ dep walk, dep ∈ manifests.names → unseen manifests walk < fuel →
      Sound manifests walk →
      (∀ other, walk.Open other → TransGen (Requires manifests) other dep) →
      Visits isPrintable manifests dep walk (visit isPrintable manifests fuel dep walk))
    (deps : List String) (walk : Walk) (needs : ∀ dep ∈ deps, Requires manifests name dep)
    (enough : unseen manifests walk < fuel) (sound : Sound manifests walk)
    (leads : ∀ other, walk.Open other → other = name ∨
      TransGen (Requires manifests) other name) :
    VisitsEach isPrintable manifests name deps walk
      (visitEach isPrintable manifests name (visit isPrintable manifests fuel) deps walk) := by
  induction deps generalizing walk with
  | nil => exact ⟨.refl sound, List.forall_mem_nil _⟩
  | cons dep deps ih =>
    have needed := needs dep List.mem_cons_self
    rw [visitEach]
    by_cases missing : dep ∉ manifests.names
    · rw [if_pos missing]
      exact ⟨name, dep, .refl, needed, missing, rfl⟩
    · rw [if_neg missing]
      have onward : ∀ other, walk.Open other → TransGen (Requires manifests) other dep := by
        intro other isOpen
        rcases leads other isOpen with rfl | path
        · exact .single needed
        · exact path.tail needed
      have visited := visits dep walk (not_not.mp missing) enough sound onward
      cases result : visit isPrintable manifests fuel dep walk with
      | error stop =>
        rw [result] at visited
        exact Misses.above needed visited
      | ok middle =>
        rw [result] at visited
        obtain ⟨first, seen, _⟩ := visited
        have later := ih middle (fun other mem => needs other (List.mem_cons_of_mem _ mem))
          (Nat.lt_of_le_of_lt (unseen_le first.seen) enough) first.sound
          (fun other isOpen => leads other ((first.opens other).mp isOpen))
        dsimp only
        cases rest : visitEach isPrintable manifests name (visit isPrintable manifests fuel) deps
            middle with
        | error stop =>
          rw [rest] at later
          exact later
        | ok final =>
          rw [rest] at later
          refine ⟨(first.above needed).trans later.1, ?_⟩
          exact List.forall_mem_cons.mpr ⟨later.1.seen dep seen, later.2⟩

theorem Extends.leave {name : String} {walk final : Walk} (sound : Sound manifests walk)
    (fresh : name ∉ walk.seen)
    (leads : ∀ other, walk.Open other → TransGen (Requires manifests) other name)
    (below : Extends manifests name { walk with seen := name :: walk.seen } final)
    (required : ∀ dep, Requires manifests name dep → dep ∈ final.seen) :
    Extends manifests name walk { final with order := final.order ++ [name] } := by
  have unlisted : name ∉ walk.order := fun mem => fresh (sound.listed name mem)
  have isOpen : final.Open name := (below.opens name).mpr ⟨List.mem_cons_self, unlisted⟩
  refine ⟨below.sound.leave isOpen required ?_, ?_, ?_, ?_⟩
  · intro other stillOpen
    obtain ⟨mem, out⟩ := (below.opens other).mp stillOpen
    rcases List.mem_cons.mp mem with here | early
    · exact .inl here
    · exact .inr (leads other ⟨early, out⟩)
  · intro other mem
    exact below.seen other (List.mem_cons_of_mem _ mem)
  · intro other
    have before := below.opens other
    simp only [Walk.Open, List.mem_cons, List.mem_append, List.not_mem_nil, or_false]
      at before ⊢
    constructor
    · rintro ⟨mem, out⟩
      push Not at out
      obtain ⟨early, unlisted⟩ := before.mp ⟨mem, out.1⟩
      exact ⟨early.resolve_left out.2, unlisted⟩
    · rintro ⟨mem, out⟩
      obtain ⟨later, unlisted⟩ := before.mpr ⟨.inr mem, out⟩
      refine ⟨later, ?_⟩
      rintro (inOrder | rfl)
      · exact unlisted inOrder
      · exact fresh mem
  · intro other mem
    rcases below.reached other mem with here | path
    · rcases List.mem_cons.mp here with rfl | early
      · exact .inr .refl
      · exact .inl early
    · exact .inr path

theorem visit_visits (fuel : Nat) (name : String) (walk : Walk)
    (present : name ∈ manifests.names) (enough : unseen manifests walk < fuel)
    (sound : Sound manifests walk)
    (leads : ∀ other, walk.Open other → TransGen (Requires manifests) other name) :
    Visits isPrintable manifests name walk (visit isPrintable manifests fuel name walk) := by
  induction fuel generalizing name walk with
  | zero => exact absurd enough (Nat.not_lt_zero _)
  | succ fuel ih =>
    rw [visit]
    by_cases seen : name ∈ walk.seen
    · rw [if_pos seen]
      exact ⟨.refl sound, seen, fun fresh => absurd seen fresh⟩
    · rw [if_neg seen]
      obtain ⟨manifest, found⟩ := mem_names_iff.mp present
      have inside : ∀ other, Walk.Open { walk with seen := name :: walk.seen } other →
          other = name ∨ TransGen (Requires manifests) other name := by
        rintro other ⟨mem, out⟩
        rcases List.mem_cons.mp mem with here | early
        · exact .inl here
        · exact .inr (leads other ⟨early, out⟩)
      have fewer := unseen_lt present seen
      have each := visitEach_visits ih manifest.requiresFeatures
        { walk with seen := name :: walk.seen } (fun dep mem => ⟨manifest, found, mem⟩)
        (by omega) (sound.enter present) inside
      rw [found]
      dsimp only
      cases result : visitEach isPrintable manifests name (visit isPrintable manifests fuel)
          manifest.requiresFeatures { walk with seen := name :: walk.seen } with
      | error stop =>
        rw [result] at each
        exact each
      | ok final =>
        rw [result] at each
        obtain ⟨below, all⟩ := each
        refine ⟨below.leave sound seen leads ?_, below.seen name List.mem_cons_self,
          fun _ => ⟨final.order, rfl⟩⟩
        rintro dep ⟨other, there, needed⟩
        rw [found] at there
        obtain rfl := Option.some.inj there
        exact all dep needed

/-! ## The chain -/

theorem Sound.start (manifests : Manifests) : Sound manifests ⟨[], []⟩ where
  nodup := List.nodup_nil
  listed := List.forall_mem_nil _
  present := List.forall_mem_nil _
  closed := List.forall_mem_nil _
  after := by
    intro before name after equal
    simp at equal

theorem Extends.listed_iff {feature : String} {final : Walk}
    (walked : Extends manifests feature ⟨[], []⟩ final) {name : String} :
    name ∈ final.order ↔ name ∈ final.seen := by
  refine ⟨walked.sound.listed name, ?_⟩
  intro mem
  by_contra unlisted
  exact List.not_mem_nil ((walked.opens name).mp ⟨mem, unlisted⟩).1

theorem Extends.mem_iff {feature : String} {final : Walk}
    (walked : Extends manifests feature ⟨[], []⟩ final) (start : feature ∈ final.seen)
    {name : String} : name ∈ final.seen ↔ ReflTransGen (Requires manifests) feature name := by
  constructor
  · intro mem
    exact (walked.reached name mem).resolve_left List.not_mem_nil
  · intro path
    induction path with
    | refl => exact start
    | tail _ needs ih => exact walked.sound.closed _ (walked.listed_iff.mpr ih) _ needs

/-- What `_resolve_chain` gives: the names the feature reaches, itself last, or the error
for one that is missing. -/
def Resolves (manifests : Manifests) (feature : String) : Except Stop (List String) → Prop
  | .ok chain => chain.Nodup ∧
      (∀ other, other ∈ chain ↔ ReflTransGen (Requires manifests) feature other) ∧
      (∀ other ∈ chain, other ∈ manifests.names) ∧ (∃ before, chain = before ++ [feature]) ∧
      AfterOrAround manifests chain
  | .error stop => (∃ error, stop = .featureError error) ∧
      ∃ other, ReflTransGen (Requires manifests) feature other ∧ other ∉ manifests.names

theorem resolveChain_resolves (isPrintable : Char → Bool) (manifests : Manifests)
    (feature : String) :
    Resolves manifests feature (resolveChain isPrintable manifests feature) := by
  unfold resolveChain
  by_cases present : feature ∈ manifests.names
  · have enough : unseen manifests ⟨[], []⟩ < manifests.names.length + 1 :=
      Nat.lt_succ_of_le (List.length_filter_le _ _)
    have visited : Visits isPrintable manifests feature ⟨[], []⟩ _ :=
      visit_visits _ feature ⟨[], []⟩ present enough (Sound.start manifests)
        fun other isOpen => absurd isOpen.1 List.not_mem_nil
    rw [if_neg (not_not.mpr present)]
    cases result : visit isPrintable manifests (manifests.names.length + 1) feature ⟨[], []⟩ with
    | error stop =>
      rw [result] at visited
      obtain ⟨other, dep, path, needs, missing, rfl⟩ := visited
      exact ⟨⟨_, rfl⟩, dep, path.tail needs, missing⟩
    | ok final =>
      rw [result] at visited
      obtain ⟨walked, start, last⟩ := visited
      refine ⟨walked.sound.nodup, ?_, ?_, last List.not_mem_nil, walked.sound.after⟩
      · intro other
        rw [walked.listed_iff, walked.mem_iff start]
      · exact fun other mem => walked.sound.present other (walked.sound.listed other mem)
  · rw [if_pos present]
    exact ⟨⟨_, rfl⟩, feature, .refl, present⟩

/-- `_resolve_chain` fails exactly when something it reaches is missing; otherwise its
chain lists what the feature reaches, the feature last, and without a cycle in it every
name comes after its requirements. -/
theorem resolve_chain_exact (isPrintable : Char → Bool) (manifests : Manifests)
    (feature : String) :
    ((∃ error, resolveChain isPrintable manifests feature = .error (.featureError error)) ↔
      ∃ other, ReflTransGen (Requires manifests) feature other ∧ other ∉ manifests.names) ∧
    ((∀ other, ReflTransGen (Requires manifests) feature other → other ∈ manifests.names) →
      ∃ chain, resolveChain isPrintable manifests feature = .ok chain ∧ chain.Nodup ∧
        (∀ other, other ∈ chain ↔ ReflTransGen (Requires manifests) feature other) ∧
        (∃ before, chain = before ++ [feature]) ∧
        ((∀ other ∈ chain, ¬TransGen (Requires manifests) other other) →
          AfterRequired manifests chain)) := by
  have resolves := resolveChain_resolves isPrintable manifests feature
  cases result : resolveChain isPrintable manifests feature with
  | error stop =>
    rw [result] at resolves
    obtain ⟨⟨error, rfl⟩, other, reached, missing⟩ := resolves
    refine ⟨⟨fun _ => ⟨other, reached, missing⟩, fun _ => ⟨error, rfl⟩⟩, ?_⟩
    intro all
    exact absurd (all other reached) missing
  | ok chain =>
    rw [result] at resolves
    obtain ⟨distinct, listed, present, last, ordered⟩ := resolves
    refine ⟨⟨?_, ?_⟩, ?_⟩
    · rintro ⟨error, failed⟩
      nomatch failed
    · rintro ⟨other, path, missing⟩
      exact absurd (present other ((listed other).mpr path)) missing
    · intro _
      refine ⟨chain, rfl, distinct, listed, last, ?_⟩
      intro acyclic before name after equal dep needs
      refine (ordered before name after equal dep needs).resolve_right ?_
      intro back
      refine acyclic name ?_ (.head needs back)
      rw [equal]
      exact List.mem_append_right _ List.mem_cons_self

namespace Sample

open BackendCore.Modules.Sample

example : resolveChain printable shop "commerce.orders" =
    .ok ["commerce.products", "commerce.cart", "commerce.orders"] := by decide +kernel

example : resolveChain printable entangled "crm.activities" =
    .ok ["crm.contacts", "crm.deals", "crm.activities"] := by decide +kernel

def rank (name : String) : Nat :=
  if name = "commerce.products" then 0 else if name = "commerce.cart" then 1 else 2

theorem shop_requires {name dep : String} (needs : Requires shop name dep) :
    dep ∈ shop.names ∧ rank dep < rank name := by
  obtain ⟨manifest, found, needed⟩ := needs
  obtain rfl := Table.key_of_get found
  have each : ∀ manifest ∈ shop.rows, ∀ dep ∈ manifest.requiresFeatures,
      dep ∈ shop.names ∧ rank dep < rank manifest.name := by decide
  exact each manifest (Table.mem_of_get found) dep needed

theorem cart_chain_ordered :
    ∃ chain, resolveChain printable shop "commerce.cart" = .ok chain ∧ chain.Nodup ∧
      AfterRequired shop chain := by
  have present : ∀ other, ReflTransGen (Requires shop) "commerce.cart" other →
      other ∈ shop.names := by
    intro other path
    cases path with
    | refl => decide
    | tail _ needs => exact (shop_requires needs).1
  have falls : ∀ {name dep}, TransGen (Requires shop) name dep → rank dep < rank name := by
    intro name dep path
    induction path with
    | single needs => exact (shop_requires needs).2
    | tail _ needs ih => exact Nat.lt_trans (shop_requires needs).2 ih
  obtain ⟨chain, ok, distinct, _, _, ordered⟩ :=
    (resolve_chain_exact printable shop "commerce.cart").2 present
  exact ⟨chain, ok, distinct, ordered fun other _ cycle => Nat.lt_irrefl _ (falls cycle)⟩

end Sample

end BackendCore.Tools
