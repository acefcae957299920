import ListQuery.Proofs.Filter.Pieces
import ListQuery.Proofs.Plan.Build

/-!
# Sort lists part by part

A sort list is resolved part by part, and the sort lists of a request one after the other.  Blanks,
empty parts and parts that name no field to sort by are left out, wherever they stand, and a sort
list never keeps a request from being planned.

* `Metadata.SortsBy` : a part names a field to sort by;
* `Metadata.Keys`, `Metadata.resolveSort_eq_iff` : the keys of the parts are those of the list;
* `Metadata.resolveSort_append` : lists with a comma between them;
* `Plan.build_ofPairs` : the sort lists of a request;
* `Plan.sortsPartByPart` : all of this of an entity.
-/

namespace ListQuery

variable {m : Metadata} {r : Parameters}

/-! ### Parts -/

namespace Metadata

variable {part list : String} {parts : List String} {k : SortKey} {keys : List SortKey}

/-- The part of a sort list names a field to sort by, with its direction. -/
structure SortsBy (m : Metadata) (part : String) (k : SortKey) : Prop where
  /-- The part is not blank. -/
  not_blank : Text.trim part ≠ ""
  /-- The path that its name stands for is allowed. -/
  allowed : m.resolveAlias (SortKey.split (Text.trim part)).1 ∈ m.sortFields
  /-- The path denotes the field. -/
  resolves : m.resolve (m.resolveAlias (SortKey.split (Text.trim part)).1) = .ok k.field
  /-- The field is one of the base table. -/
  base : k.field.collection = none
  /-- The direction is the one of the part. -/
  direction : k.direction = (SortKey.split (Text.trim part)).2

theorem sortKey?_eq_some_iff {segment : String} :
    m.sortKey? segment = some k ↔
      m.resolveAlias (SortKey.split segment).1 ∈ m.sortFields ∧
        m.resolve (m.resolveAlias (SortKey.split segment).1) = .ok k.field ∧
        k.field.collection = none ∧ k.direction = (SortKey.split segment).2 := by
  unfold sortKey?
  dsimp only
  split
  case isFalse h =>
    rw [List.contains_iff_mem] at h
    simp [h]
  case isTrue h =>
    rw [List.contains_iff_mem] at h
    cases hfield : m.resolve (m.resolveAlias (SortKey.split segment).1) with
    | error e => simp
    | ok field =>
      dsimp only
      split
      case isTrue hbase =>
        rw [Option.isNone_iff_eq_none] at hbase
        constructor
        · rintro ⟨⟩
          exact ⟨h, rfl, hbase, rfl⟩
        · rintro ⟨-, heq, -, hdirection⟩
          rw [Except.ok.inj heq, ← hdirection]
      case isFalse hbase =>
        rw [Option.isNone_iff_eq_none] at hbase
        simp only [reduceCtorEq, false_iff, not_and]
        rintro - heq hnone -
        exact hbase (Except.ok.inj heq ▸ hnone)

theorem mem_sortKeys_iff :
    k ∈ (Text.nonBlank? part).bind m.sortKey? ↔ m.SortsBy part k := by
  rw [Option.mem_def, Option.bind_eq_some_iff]
  constructor
  · rintro ⟨segment, hsegment, hk⟩
    obtain ⟨rfl, hne⟩ := Text.nonBlank?_eq_some_iff.1 hsegment
    obtain ⟨hallowed, hresolves, hbase, hdirection⟩ := sortKey?_eq_some_iff.1 hk
    exact ⟨hne, hallowed, hresolves, hbase, hdirection⟩
  · intro h
    exact ⟨_, Text.nonBlank?_eq_some_iff.2 ⟨rfl, h.not_blank⟩,
      sortKey?_eq_some_iff.2 ⟨h.allowed, h.resolves, h.base, h.direction⟩⟩

/-- The keys of the parts of a sort list.  A part that names no field to sort by has none. -/
inductive Keys (m : Metadata) : List String → List SortKey → Prop
  | nil : Keys m [] []
  | key {part : String} {parts : List String} {k : SortKey} {keys : List SortKey}
      (h : m.SortsBy part k) (hrest : Keys m parts keys) : Keys m (part :: parts) (k :: keys)
  | skip {part : String} {parts : List String} {keys : List SortKey}
      (h : ∀ k, ¬m.SortsBy part k) (hrest : Keys m parts keys) : Keys m (part :: parts) keys

/-! ### Lists -/

/-- **The keys of two lists with a comma between them** are those of the one and those of the
other. -/
theorem resolveSort_append (a b : String) :
    m.resolveSort (a ++ "," ++ b) = m.resolveSort a ++ m.resolveSort b := by
  rw [resolveSort, Clause.pieces_append, List.filterMap_append]
  rfl

theorem resolveSort_joinWith (lists : List String) :
    m.resolveSort (Text.joinWith "," lists) = lists.flatMap m.resolveSort := by
  rw [resolveSort, Clause.pieces_joinWith, List.filterMap_flatMap]
  rfl

theorem resolveSort_trim (list : String) : m.resolveSort (Text.trim list) = m.resolveSort list := by
  rw [resolveSort, Clause.pieces_trim]
  rfl

theorem resolveSort_of_not_mem (h : ',' ∉ part.toList) :
    m.resolveSort part = ((Text.nonBlank? part).bind m.sortKey?).toList := by
  rw [resolveSort, Clause.pieces_of_not_mem h]
  cases Text.nonBlank? part with
  | none => rfl
  | some segment =>
    rw [Option.toList_some, Option.bind_some]
    cases hk : m.sortKey? segment <;> simp [hk]

theorem keys_iff (h : ∀ part ∈ parts, ',' ∉ part.toList) :
    m.Keys parts keys ↔ parts.flatMap m.resolveSort = keys := by
  induction parts generalizing keys with
  | nil =>
    constructor
    · rintro ⟨⟩
      rfl
    · rintro rfl
      exact .nil
  | cons part parts ih =>
    rw [List.forall_mem_cons] at h
    rw [List.flatMap_cons, resolveSort_of_not_mem h.1]
    cases hkey : (Text.nonBlank? part).bind m.sortKey? with
    | none =>
      have hskip : ∀ k, ¬m.SortsBy part k := fun k hk => by
        rw [← mem_sortKeys_iff, hkey] at hk
        cases hk
      rw [Option.toList_none, List.nil_append, ← ih h.2]
      constructor
      · rintro (_ | ⟨hk, -⟩ | ⟨-, hrest⟩)
        · exact absurd hk (hskip _)
        · exact hrest
      · exact .skip hskip
    | some k =>
      have hnames : m.SortsBy part k := mem_sortKeys_iff.1 hkey
      rw [Option.toList_some, List.singleton_append]
      constructor
      · rintro (_ | ⟨hk, hrest⟩ | ⟨hnone, -⟩)
        · rw [← mem_sortKeys_iff, hkey, Option.mem_some_iff] at hk
          rw [hk, (ih h.2).1 hrest]
        · exact absurd hnames (hnone k)
      · rintro rfl
        exact .key hnames ((ih h.2).2 rfl)

/-- **The keys of a list are those of its parts.** -/
theorem resolveSort_eq_iff (h : Text.IsJoined ',' list parts) :
    m.resolveSort list = keys ↔ m.Keys parts keys := by
  rw [keys_iff h.parts, ← resolveSort_joinWith, h.text]
  rfl

end Metadata

/-! ### Requests -/

/-- Names and values of a request for products whose sort lists have blank parts, parts that name no
field to sort by, and a part that names a collection. -/
def Sample.sortPairs : List (String × String) :=
  [("sort", " , "), ("page", "2"), ("sort", "price : ASC, sku:asc,"), ("filter", "tags:eq:sale"),
    ("sort", ""), ("sort", "categories.name,createdAt:down , secret"), ("sort", "name ")]

namespace Parameters

variable {pairs : List (String × String)}

theorem elim_bind_nonBlank? (list : Option String) :
    (list.bind Text.nonBlank?).elim [] m.resolveSort = list.elim [] m.resolveSort := by
  cases list with
  | none => rfl
  | some list =>
    rw [Option.bind_some, Option.elim_some, ← m.resolveSort_trim list]
    cases hblank : Text.nonBlank? list with
    | none =>
      have hempty : Text.trim list = "" := by
        by_contra hne
        cases hblank.symm.trans (Text.nonBlank?_eq_some_iff.2 ⟨rfl, hne⟩)
      rw [hempty]
      rfl
    | some segment =>
      rw [(Text.nonBlank?_eq_some_iff.1 hblank).1, Option.elim_some]

theorem elim_sort_ofPairs (pairs : List (String × String)) :
    (ofPairs pairs).sort.elim [] m.resolveSort =
      (valuesOf (· == "sort") pairs).flatMap m.resolveSort := by
  have hsort : (ofPairs pairs).sort = (if (valuesOf (· == "sort") pairs).isEmpty then none
      else some (Text.joinWith "," (valuesOf (· == "sort") pairs))).bind Text.nonBlank? :=
    rfl
  rw [hsort, elim_bind_nonBlank?]
  split
  case isTrue h =>
    rw [List.isEmpty_iff.1 h]
    rfl
  case isFalse => exact m.resolveSort_joinWith _

theorem ofPairs_filter_ne_sort (pairs : List (String × String)) :
    ofPairs (pairs.filter (·.1 != "sort")) = (ofPairs pairs).unsorted := by
  have hother {isName : String → Bool} (h : isName "sort" = false) :
      valuesOf isName (pairs.filter (·.1 != "sort")) = valuesOf isName pairs := by
    rw [valuesOf, List.filter_filter, valuesOf]
    refine congrArg (List.map Prod.snd) (List.filter_congr fun p _ => ?_)
    by_cases hp : p.1 = "sort"
    · simp [hp, h]
    · simp [hp]
  have hnone : valuesOf (· == "sort") (pairs.filter (·.1 != "sort")) = [] := by
    rw [valuesOf, List.filter_filter, List.map_eq_nil_iff, List.filter_eq_nil_iff]
    simp
  rw [ofPairs, hnone, hother (by decide), hother (by decide), hother (by decide),
    hother (by decide)]
  rfl

end Parameters

namespace Plan

/-- **The sort lists of a request are resolved one after the other**, and have no part in the rest
of its plan. -/
theorem build_ofPairs (m : Metadata) (pairs : List (String × String)) :
    build m (.ofPairs pairs) = (build m (.ofPairs (pairs.filter (·.1 != "sort")))).map
      (·.sortedBy ((Parameters.valuesOf (· == "sort") pairs).flatMap m.resolveSort)) := by
  rw [build_eq_map_unsorted, Parameters.elim_sort_ofPairs, Parameters.ofPairs_filter_ne_sort]

theorem sort_of_build_ofPairs {pairs : List (String × String)} {plan : Plan}
    (h : build m (.ofPairs pairs) = .ok plan) :
    plan.sort = (Parameters.valuesOf (· == "sort") pairs).flatMap m.resolveSort := by
  rw [build_ofPairs, map_eq_ok_iff] at h
  obtain ⟨plan, -, rfl⟩ := h
  rfl

/-- **Sort lists are resolved part by part**: at every comma, in the order of the request, parts
that name no field to sort by being left out; and with or without them a request is planned
alike. -/
theorem sortsPartByPart (m : Metadata) :
    (∀ a b, m.resolveSort (a ++ "," ++ b) = m.resolveSort a ++ m.resolveSort b) ∧
      (∀ list parts keys, Text.IsJoined ',' list parts →
        (m.resolveSort list = keys ↔ m.Keys parts keys)) ∧
      (∀ pairs plan, build m (.ofPairs pairs) = .ok plan →
        plan.sort = (Parameters.valuesOf (· == "sort") pairs).flatMap m.resolveSort) ∧
      ∀ pairs, build m (.ofPairs pairs) =
        (build m (.ofPairs (pairs.filter (·.1 != "sort")))).map
          (·.sortedBy ((Parameters.valuesOf (· == "sort") pairs).flatMap m.resolveSort)) :=
  ⟨m.resolveSort_append, fun _ _ _ => m.resolveSort_eq_iff, fun _ _ => sort_of_build_ofPairs,
    build_ofPairs m⟩

/-- What is left out of them changes neither the other keys nor their order. -/
theorem sortsPartByPart_products :
    ∃ plan, build Sample.product (.ofPairs Sample.sortPairs) = .ok plan ∧
      plan.sort =
        [⟨⟨"price", none, "price", .numeric⟩, .ascending⟩,
          ⟨⟨"created_at", none, "created_at", .timestamp⟩, .descending⟩,
          ⟨⟨"name", none, "name", .text⟩, .descending⟩] := by
  have hplan : ∃ plan, build Sample.product (.ofPairs Sample.sortPairs) = .ok plan := ⟨_, rfl⟩
  obtain ⟨plan, h⟩ := hplan
  obtain ⟨-, -, hsort, -⟩ := sortsPartByPart Sample.product
  refine ⟨plan, h, ?_⟩
  rw [hsort _ _ h]
  decide

end Plan

end ListQuery
