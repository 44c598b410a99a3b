import Mathlib

/-!
# Pages of a sorted listing

A query with an ordering may list rows with equal keys in any order, and another one each time
it is made.  Pages are cut from such listings at multiples of a limit.  When no cut separates two
rows with equal keys every listing has the same rows on the same page, so the pages together are
the rows; and when one does, two listings disagree about the page of some row.
-/

set_option autoImplicit false

namespace BackendCore.Paging

variable {α K : Type} [LinearOrder K]

/-- An order in which `rows` may be listed by their keys. -/
structure Listed (key : α → K) (rows listing : List α) : Prop where
  perm : listing.Perm rows
  sorted : listing.Pairwise fun left right => key left ≤ key right

/-- The keys in ascending order. -/
def sortedKeys (key : α → K) (rows : List α) : List K :=
  (rows.map key).insertionSort (· ≤ ·)

/-- The rows before and after the position have the same key. -/
def CutsTie (key : α → K) (rows : List α) (position : Nat) : Prop :=
  0 < position ∧ position < rows.length ∧
    (sortedKeys key rows)[position - 1]? = (sortedKeys key rows)[position]?

def page (limit number : Nat) (listing : List α) : List α :=
  (listing.drop (number * limit)).take limit

/-- The first `count` pages, each of its own listing. -/
def pages (limit count : Nat) (listings : Nat → List α) : List α :=
  (List.range count).flatMap fun number => page limit number (listings number)

def pageCount (limit total : Nat) : Nat := (total + limit - 1) / limit

theorem lt_pageCount_iff {limit total number : Nat} (limit_pos : 0 < limit) :
    number < pageCount limit total ↔ number * limit < total := by
  rw [pageCount, Nat.lt_div_iff_mul_lt limit_pos]
  omega

theorem le_pageCount_mul {limit total : Nat} (limit_pos : 0 < limit) :
    total ≤ pageCount limit total * limit := by
  by_contra short
  have smaller : pageCount limit total < pageCount limit total :=
    (lt_pageCount_iff limit_pos).mpr (not_le.mp short)
  exact lt_irrefl _ smaller

variable {key : α → K} {rows : List α}

/-! ## Listings -/

theorem sortedKeys_sorted (key : α → K) (rows : List α) :
    (sortedKeys key rows).Pairwise (· ≤ ·) :=
  List.pairwise_insertionSort (· ≤ ·) (rows.map key)

theorem Listed.keys {listing : List α} (listed : Listed key rows listing) :
    listing.map key = sortedKeys key rows := by
  have perm : (listing.map key).Perm (sortedKeys key rows) :=
    (listed.perm.map key).trans (List.perm_insertionSort (· ≤ ·) (rows.map key)).symm
  exact List.Perm.eq_of_pairwise (fun left right _ _ => le_antisymm)
    (List.pairwise_map.mpr listed.sorted) (sortedKeys_sorted key rows) perm

theorem listed_insertionSort (key : α → K) (rows : List α) :
    Listed key rows (rows.insertionSort fun left right => key left ≤ key right) where
  perm := List.perm_insertionSort _ rows
  sorted := by
    have total : Std.Total fun left right : α => key left ≤ key right :=
      ⟨fun left right => le_total (key left) (key right)⟩
    have trans : IsTrans α fun left right => key left ≤ key right :=
      ⟨fun _ _ _ => le_trans⟩
    exact List.pairwise_insertionSort _ rows

theorem exists_around {listing : List α} {position : Nat} (pos : 0 < position)
    (inside : position < listing.length) :
    ∃ front left right back, listing = front ++ left :: right :: back ∧
      front.length + 1 = position := by
  have before : position - 1 < listing.length := by omega
  have next : position - 1 + 1 = position := by omega
  refine ⟨listing.take (position - 1), listing[position - 1], listing[position],
    listing.drop (position + 1), ?_, ?_⟩
  · rw [← List.drop_eq_getElem_cons inside]
    conv_lhs => rw [← List.take_append_drop (position - 1) listing,
      List.drop_eq_getElem_cons before, next]
  · rw [List.length_take]
    omega

theorem Listed.keys_around {front back : List α} {left right : α}
    (listed : Listed key rows (front ++ left :: right :: back)) :
    (sortedKeys key rows)[front.length]? = some (key left) ∧
      (sortedKeys key rows)[front.length + 1]? = some (key right) := by
  rw [← listed.keys, List.getElem?_map, List.getElem?_map, List.getElem?_append_right le_rfl,
    List.getElem?_append_right (Nat.le_add_right _ 1), Nat.sub_self, Nat.add_sub_cancel_left]
  exact ⟨rfl, rfl⟩

theorem Listed.cutsTie_iff {front back : List α} {left right : α}
    (listed : Listed key rows (front ++ left :: right :: back)) :
    CutsTie key rows (front.length + 1) ↔ key left = key right := by
  have length : rows.length = front.length + (back.length + 2) := by
    rw [← listed.perm.length_eq, List.length_append, List.length_cons, List.length_cons]
  obtain ⟨before, behind⟩ := listed.keys_around
  rw [CutsTie, Nat.add_sub_cancel, before, behind, Option.some_inj]
  constructor
  · exact fun cut => cut.2.2
  · intro same
    exact ⟨Nat.succ_pos _, by omega, same⟩

theorem Listed.take_eq_filter {listing : List α} {position : Nat} {last : K}
    (listed : Listed key rows listing) (pos : 0 < position) (inside : position < rows.length)
    (clean : ¬CutsTie key rows position)
    (isLast : (sortedKeys key rows)[position - 1]? = some last) :
    listing.take position = listing.filter fun row => key row ≤ last := by
  obtain ⟨front, left, right, back, rfl, rfl⟩ :=
    exists_around pos (listed.perm.length_eq.symm ▸ inside)
  have differ : key left ≠ key right := fun same => clean (listed.cutsTie_iff.mpr same)
  have sameLast : key left = last := by
    rw [Nat.add_sub_cancel, listed.keys_around.1] at isLast
    exact Option.some.inj isLast
  obtain ⟨_, later, across⟩ := List.pairwise_append.mp listed.sorted
  obtain ⟨fromLeft, afterLeft⟩ := List.pairwise_cons.mp later
  obtain ⟨fromRight, _⟩ := List.pairwise_cons.mp afterLeft
  have above : last < key right :=
    sameLast ▸ lt_of_le_of_ne (fromLeft right List.mem_cons_self) differ
  have kept : ∀ row ∈ front ++ [left], decide (key row ≤ last) = true := by
    intro row member
    rcases List.mem_append.mp member with inFront | isLeft
    · exact decide_eq_true (sameLast ▸ across row inFront left List.mem_cons_self)
    · rw [List.mem_singleton.mp isLeft]
      exact decide_eq_true sameLast.le
  have dropped : ∀ row ∈ right :: back, ¬decide (key row ≤ last) = true := by
    intro row member
    rw [decide_eq_true_eq, not_le]
    rcases List.mem_cons.mp member with rfl | inBack
    · exact above
    · exact lt_of_lt_of_le above (fromRight row inBack)
  have split : front ++ left :: right :: back = (front ++ [left]) ++ right :: back := by
    rw [List.append_assoc, List.singleton_append]
  have length : front.length + 1 = (front ++ [left]).length := by
    rw [List.length_append, List.length_singleton]
  rw [split, List.filter_append, List.filter_eq_self.mpr kept, List.filter_eq_nil_iff.mpr dropped,
    List.append_nil, length, List.take_left]

theorem Listed.take_perm {listing other : List α} {position : Nat}
    (listed : Listed key rows listing) (otherListed : Listed key rows other)
    (clean : ¬CutsTie key rows position) :
    (listing.take position).Perm (other.take position) := by
  have both : listing.Perm other := listed.perm.trans otherListed.perm.symm
  by_cases pos : 0 < position
  · by_cases inside : position < rows.length
    · have before : position - 1 < (sortedKeys key rows).length := by
        rw [← listed.keys, List.length_map, listed.perm.length_eq]
        omega
      have isLast := List.getElem?_eq_getElem before
      rw [listed.take_eq_filter pos inside clean isLast,
        otherListed.take_eq_filter pos inside clean isLast]
      exact both.filter _
    · have short : rows.length ≤ position := not_lt.mp inside
      rw [List.take_of_length_le (listed.perm.length_eq.symm ▸ short),
        List.take_of_length_le (otherListed.perm.length_eq.symm ▸ short)]
      exact both
  · have zero : position = 0 := Nat.eq_zero_of_not_pos pos
    rw [zero, List.take_zero, List.take_zero]

/-! ## Pages -/

omit [LinearOrder K] in
theorem take_succ_page (limit number : Nat) (listing : List α) :
    listing.take ((number + 1) * limit) =
      listing.take (number * limit) ++ page limit number listing := by
  rw [Nat.succ_mul, List.take_add, page]

theorem pages_same (limit count : Nat) (listing : List α) :
    pages limit count (fun _ => listing) = listing.take (count * limit) := by
  induction count with
  | zero => rw [Nat.zero_mul, List.take_zero]; rfl
  | succ count hypothesis =>
    rw [take_succ_page, ← hypothesis, pages, pages, List.range_succ, List.flatMap_append,
      List.flatMap_singleton]

theorem Listed.page_perm {listing other : List α} {limit number : Nat}
    (listed : Listed key rows listing) (otherListed : Listed key rows other)
    (clean : ¬CutsTie key rows (number * limit))
    (cleanNext : ¬CutsTie key rows ((number + 1) * limit)) :
    (page limit number listing).Perm (page limit number other) := by
  have before := listed.take_perm otherListed clean
  have upTo := listed.take_perm otherListed cleanNext
  rw [take_succ_page, take_succ_page] at upTo
  have aligned : (other.take (number * limit) ++ page limit number listing).Perm
      (other.take (number * limit) ++ page limit number other) :=
    (before.symm.append_right _).trans upTo
  exact (List.perm_append_left_iff _).mp aligned

theorem mem_page {limit number place : Nat} {listing : List α} {row : α}
    (here : listing[place]? = some row) (from_start : number * limit ≤ place)
    (to_end : place < (number + 1) * limit) : row ∈ page limit number listing := by
  rw [Nat.succ_mul] at to_end
  have offset : place = number * limit + (place - number * limit) := by omega
  apply List.mem_of_getElem? (i := place - number * limit)
  rw [page, List.getElem?_take, if_pos (by omega), List.getElem?_drop, ← offset]
  exact here

theorem Listed.exchanged {front back : List α} {left right : α}
    (listed : Listed key rows (front ++ left :: right :: back)) (same : key left = key right) :
    Listed key rows (front ++ right :: left :: back) where
  perm := ((List.Perm.swap left right back).append_left front).trans listed.perm
  sorted := by
    obtain ⟨sortedFront, later, across⟩ := List.pairwise_append.mp listed.sorted
    obtain ⟨fromLeft, afterLeft⟩ := List.pairwise_cons.mp later
    obtain ⟨fromRight, sortedBack⟩ := List.pairwise_cons.mp afterLeft
    refine List.pairwise_append.mpr ⟨sortedFront, ?_, ?_⟩
    · refine List.pairwise_cons.mpr ⟨?_, List.pairwise_cons.mpr ⟨?_, sortedBack⟩⟩
      · intro row member
        rcases List.mem_cons.mp member with rfl | inBack
        · exact same.ge
        · exact fromRight row inBack
      · intro row inBack
        exact fromLeft row (List.mem_cons_of_mem right inBack)
    · intro row inFront other member
      apply across row inFront other
      rcases List.mem_cons.mp member with rfl | inRest
      · exact List.mem_cons_of_mem left List.mem_cons_self
      · rcases List.mem_cons.mp inRest with rfl | inBack
        · exact List.mem_cons_self
        · exact List.mem_cons_of_mem left (List.mem_cons_of_mem right inBack)

/-- A tie across the start of a page, listed the other way for that page only: the row at the end
of the page before is shown again. -/
theorem repeated_at_cut {limit number : Nat} (limit_pos : 0 < limit) (front back : List α)
    (left right : α) (number_pos : 0 < number) (place : front.length + 1 = number * limit) :
    left ∈ page limit (number - 1) (front ++ left :: right :: back) ∧
      left ∈ page limit number (front ++ right :: left :: back) := by
  have previous : number - 1 + 1 = number := Nat.succ_pred_eq_of_pos number_pos
  have width : (number - 1) * limit + limit = number * limit := by
    rw [← Nat.succ_mul, Nat.succ_eq_add_one, previous]
  constructor
  · have here : (front ++ left :: right :: back)[front.length]? = some left := by
      rw [List.getElem?_append_right le_rfl, Nat.sub_self]
      rfl
    refine mem_page here (by omega) ?_
    rw [previous]
    omega
  · have here : (front ++ right :: left :: back)[front.length + 1]? = some left := by
      rw [List.getElem?_append_right (Nat.le_add_right _ 1), Nat.add_sub_cancel_left]
      rfl
    refine mem_page here (by omega) ?_
    rw [Nat.succ_mul]
    omega

/-! ## All pages together -/

/-- However the listings break ties, the pages together are the rows, exactly when no page ends
inside a tie. -/
theorem pages_perm_iff {limit : Nat} (limit_pos : 0 < limit) (nodup : rows.Nodup) :
    (∀ listings : Nat → List α, (∀ number, Listed key rows (listings number)) →
      (pages limit (pageCount limit rows.length) listings).Perm rows) ↔
    ∀ number, ¬CutsTie key rows (number * limit) := by
  have listed := listed_insertionSort key rows
  generalize rows.insertionSort (fun left right => key left ≤ key right) = shown at listed
  constructor
  · intro complete number cut
    obtain ⟨pos, inside, _⟩ := id cut
    obtain ⟨front, left, right, back, rfl, place⟩ :=
      exists_around pos (listed.perm.length_eq.symm ▸ inside)
    rw [← place] at cut
    have same : key left = key right := listed.cutsTie_iff.mp cut
    have number_pos : 0 < number := Nat.pos_of_mul_pos_right pos
    have behind : number < pageCount limit rows.length := (lt_pageCount_iff limit_pos).mpr inside
    -- the page behind the cut comes from a listing with the tie the other way
    have permuted := complete
      (Function.update (fun _ => front ++ left :: right :: back) number
        (front ++ right :: left :: back))
      (fun other => by
        by_cases isNumber : other = number
        · rw [isNumber, Function.update_self]
          exact listed.exchanged same
        · rw [Function.update_of_ne isNumber]
          exact listed)
    obtain ⟨before, again⟩ :=
      repeated_at_cut limit_pos front back left right number_pos place
    have disjoint := List.pairwise_iff_getElem.mp
      (List.nodup_flatMap.mp (permuted.nodup_iff.mpr nodup)).2 (number - 1) number
      (by rw [List.length_range]; omega) (by rw [List.length_range]; exact behind) (by omega)
    rw [List.getElem_range, List.getElem_range, Function.onFun, Function.update_self,
      Function.update_of_ne (by omega)] at disjoint
    exact disjoint before again
  · intro clean listings allListed
    have enough : rows.length ≤ pageCount limit rows.length * limit := le_pageCount_mul limit_pos
    have same : (pages limit (pageCount limit rows.length) listings).Perm
        (pages limit (pageCount limit rows.length) fun _ => shown) :=
      List.Perm.flatMap_left _ fun number _ =>
        (allListed number).page_perm listed (clean number) (clean (number + 1))
    rw [pages_same, List.take_of_length_le (listed.perm.length_eq.symm ▸ enough)] at same
    exact same.trans listed.perm

end BackendCore.Paging
