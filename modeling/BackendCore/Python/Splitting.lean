import BackendCore.Python.Text

/-!
# Splitting a joined text

`text.split(separator)` undoes `separator.join(parts)` when no part holds the separator, and
`text.partition(separator)` finds the first one.
-/

set_option autoImplicit false

namespace BackendCore.Python

theorem splitChars_of_absent {separator : Char} {chars : List Char}
    (absent : separator ∉ chars) : splitChars separator chars = [chars] := by
  induction chars with
  | nil => rfl
  | cons c rest hypothesis =>
    obtain ⟨notHead, notRest⟩ := List.ne_and_not_mem_of_not_mem_cons absent
    rw [splitChars, hypothesis notRest]
    exact if_neg (Ne.symm notHead)

theorem splitChars_append {separator : Char} {part rest : List Char}
    (absent : separator ∉ part) :
    splitChars separator (part ++ separator :: rest) = part :: splitChars separator rest := by
  have some_part : ∀ chars : List Char, splitChars separator chars ≠ [] := by
    intro chars
    cases chars with
    | nil => exact List.cons_ne_nil _ _
    | cons c more =>
      rw [splitChars]
      split
      · exact List.cons_ne_nil _ _
      · split
        · exact List.cons_ne_nil _ _
        · exact List.cons_ne_nil _ _
  induction part with
  | nil =>
    obtain ⟨first, others, known⟩ := List.exists_cons_of_ne_nil (some_part rest)
    rw [List.nil_append, splitChars, known]
    exact if_pos rfl
  | cons c part hypothesis =>
    obtain ⟨notHead, notPart⟩ := List.ne_and_not_mem_of_not_mem_cons absent
    rw [List.cons_append, splitChars, hypothesis notPart]
    exact if_neg (Ne.symm notHead)

theorem splitChars_intercalate {separator : Char} :
    ∀ {parts : List (List Char)}, parts ≠ [] → (∀ part ∈ parts, separator ∉ part) →
      splitChars separator ([separator].intercalate parts) = parts
  | [], nonempty, _ => absurd rfl nonempty
  | [part], _, plain => by
    rw [List.intercalate_singleton]
    exact splitChars_of_absent (plain part (List.mem_singleton_self part))
  | part :: next :: rest, _, plain => by
    have later := splitChars_intercalate (List.cons_ne_nil next rest)
      (fun other member => plain other (List.mem_cons_of_mem part member))
    rw [List.intercalate_cons_cons, List.append_assoc, List.singleton_append,
      splitChars_append (plain part List.mem_cons_self), later]

/-- `separator.join(parts).split(separator)`. -/
theorem split_intercalate {separator : Char} {parts : List String} (nonempty : parts ≠ [])
    (plain : ∀ part ∈ parts, separator ∉ part.toList) :
    split ((String.ofList [separator]).intercalate parts) separator = parts := by
  have plainChars : ∀ part ∈ parts.map String.toList, separator ∉ part := by
    intro part member
    obtain ⟨text, inParts, rfl⟩ := List.mem_map.mp member
    exact plain text inParts
  have someChars : parts.map String.toList ≠ [] := by
    intro none
    exact nonempty (List.map_eq_nil_iff.mp none)
  rw [split, String.toList_intercalate, String.toList_ofList,
    splitChars_intercalate someChars plainChars, List.map_map]
  exact List.map_id'' (fun text => String.ofList_toList) parts

/-- `text.partition(separator)` at the first separator. -/
theorem partition_at {separator : Char} {name value : List Char} (absent : separator ∉ name) :
    partition (String.ofList (name ++ separator :: value)) separator =
      (String.ofList name, String.ofList value) := by
  have kept : ∀ c ∈ name, decide (c ≠ separator) = true := by
    intro c member
    exact decide_eq_true (fun same => absent (same ▸ member))
  have stops : decide (separator ≠ separator) = false :=
    decide_eq_false (fun differs => differs rfl)
  rw [partition, String.toList_ofList, List.takeWhile_append_of_pos kept,
    List.dropWhile_append_of_pos kept, List.takeWhile_cons, List.dropWhile_cons, stops]
  simp only [Bool.false_eq_true, if_false, List.append_nil, List.drop_one, List.tail_cons]

theorem partition_none {separator : Char} {chars : List Char} (absent : separator ∉ chars) :
    partition (String.ofList chars) separator = (String.ofList chars, "") := by
  have kept : ∀ c ∈ chars, decide (c ≠ separator) = true := by
    intro c member
    exact decide_eq_true (fun same => absent (same ▸ member))
  rw [partition, String.toList_ofList, List.takeWhile_eq_self_iff.mpr kept,
    List.dropWhile_eq_nil_iff.mpr kept]
  rfl

theorem partition_of_absent {separator : Char} {name value : String}
    (absent : separator ∉ name.toList) :
    partition (name ++ (String.ofList [separator] ++ value)) separator = (name, value) := by
  have joined : name ++ (String.ofList [separator] ++ value) =
      String.ofList (name.toList ++ separator :: value.toList) := by
    have cell : separator :: value.toList = [separator] ++ value.toList := rfl
    rw [cell, String.ofList_append, String.ofList_append, String.ofList_toList,
      String.ofList_toList]
  rw [joined, partition_at absent, String.ofList_toList, String.ofList_toList]

/-! ## Stripping -/

theorem dropWhile_padded {drop : Char → Bool} {lead core : List Char}
    (leads : ∀ c ∈ lead, drop c = true) (kept : ∀ c, core.head? = some c → drop c = false) :
    (lead ++ core).dropWhile drop = core := by
  rw [List.dropWhile_append_of_pos leads]
  cases core with
  | nil => rfl
  | cons c rest =>
    have stops : drop c = false := kept c rfl
    exact List.dropWhile_cons_of_neg (by rw [stops]; exact Bool.false_ne_true)

theorem stripWhere_padded {drop : Char → Bool} {lead core trail : List Char}
    (leads : ∀ c ∈ lead, drop c = true) (trails : ∀ c ∈ trail, drop c = true)
    (first : ∀ c, core.head? = some c → drop c = false)
    (last : ∀ c, core.getLast? = some c → drop c = false) (nonempty : core ≠ []) :
    stripWhere drop (lead ++ core ++ trail) = core := by
  have front : (lead ++ (core ++ trail)).dropWhile drop = core ++ trail := by
    apply dropWhile_padded leads
    intro c isHead
    rw [List.head?_append_of_ne_nil core nonempty] at isHead
    exact first c isHead
  have back : (trail.reverse ++ core.reverse).dropWhile drop = core.reverse := by
    apply dropWhile_padded
    · intro c member
      exact trails c (List.mem_reverse.mp member)
    · intro c isLast
      rw [List.head?_reverse] at isLast
      exact last c isLast
  rw [stripWhere, List.append_assoc, front, List.reverse_append, back, List.reverse_reverse]

end BackendCore.Python
