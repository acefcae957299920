import ListQuery.Proofs.Plan.Ranges
import ListQuery.Proofs.Sorting.Ranks
import ListQuery.Proofs.Store.AnswerOrder
import Mathlib.Logic.Relation
import Mathlib.Order.BooleanAlgebra.Basic

/-!
# Sort lists and ranges

A filter compares a stored value with its own as the type of the field says, while rows are sorted
by stored values as they are.

* `Metadata.Keeps` : a row that a filter keeps;
* `Metadata.SortsRanges` : sorted, rows below a value are not mixed with rows from it on;
* `Row.Beyond` : a value that sorting may put behind one from another value on;
* `Metadata.sortsRanges_integers`, `Metadata.sortsRanges_numbers` : numbers are not mixed;
* `Metadata.sortsRanges_iff` : what it takes for ranges not to be mixed;
* `Metadata.not_neverBefore_createdAt` : times are, as they are sorted by their texts.
-/

namespace ListQuery

/-! ### Values of filters -/

theorem Value.exists_integer_of_read {raw : String} {x : Value} (h : read .integer raw = .ok x) :
    ∃ k, x = .integer k := by
  rw [read] at h
  cases hread : Integer.read? raw.toList with
  | none => rw [hread] at h; cases h
  | some k => rw [hread] at h; cases h; exact ⟨k, rfl⟩

theorem Value.exists_numeric_of_read {raw : String} {x : Value} (h : read .numeric raw = .ok x) :
    ∃ y, x = .numeric y := by
  rw [read] at h
  cases hread : (Decimal.read? raw.toList).bind Decimal.toBinary64? with
  | none => rw [hread] at h; cases h
  | some y => rw [hread] at h; cases h; exact ⟨y, rfl⟩

namespace Row

/-- A stored value stands to the value of a filter as a comparison asks. -/
def InRange (comparison : Comparison) (v : Value) (stored : Json) : Prop :=
  (compareTo? stored v).any comparison.accepts = true

theorem not_inRange_both {v : Value} {stored : Json} (h : InRange .greaterOrEqual v stored) :
    ¬ InRange .lessThan v stored := by
  unfold InRange at *
  cases hcompare : compareTo? stored v with
  | none => simp
  | some o =>
    rw [hcompare] at h
    cases o <;> simp_all [Comparison.accepts]

theorem inRange_integer_iff {n : Number} {i k : Int} (h : n.toInteger? = some i) :
    InRange .greaterOrEqual (.integer k) (.number n) ↔ k ≤ i := by
  simp [InRange, compareTo?, compareInteger, h, Comparison.accepts, compare_ge_iff_ge]

theorem inRange_numeric_iff {n : Number} {x : Binary64} :
    InRange .greaterOrEqual (.numeric x) (.number n) ↔ x.units ≤ n.units := by
  simp [InRange, compareTo?, Comparison.accepts, compare_ge_iff_ge]

/-- Sorting may put the value behind one from `x` on, at once or with others between them. -/
def Beyond (stored : Json → Prop) (x : Value) (v : Json) : Prop :=
  ∃ u, stored u ∧ InRange .greaterOrEqual x u ∧ Relation.ReflTransGen (Follows stored) u v

/-- What comes behind a value beyond `x` is beyond it; missing values come last in any case. -/
theorem beyond_of_compareForSort {stored : Json → Prop} {x : Value} {a b : Option Json}
    (ha : ∀ v ∈ a, stored v ∧ v.isNull = false) (hb : ∀ w ∈ b, stored w ∧ w.isNull = false)
    (hne : compareForSort a b ≠ .gt) (hbeyond : ∀ v ∈ a, Beyond stored x v) :
    ∀ w ∈ b, Beyond stored x w := by
  intro w hw
  cases hw
  cases a with
  | none => exact absurd rfl hne
  | some v =>
    obtain ⟨u, hu, hrange, hreach⟩ := hbeyond v rfl
    exact ⟨u, hu, hrange, hreach.tail ⟨ha v rfl, hb w rfl, hne⟩⟩

theorem stored_of_isChain_follows {stored : Json → Prop} {u v : Json} {values : List Json}
    (h : (u :: v :: values).IsChain (Follows stored)) :
    ∀ w ∈ u :: v :: values, stored w ∧ w.isNull = false := by
  induction values generalizing u v with
  | nil =>
    obtain ⟨huv, -⟩ := List.isChain_cons_cons.1 h
    exact List.forall_mem_cons.2 ⟨huv.1, List.forall_mem_singleton.2 huv.2.1⟩
  | cons w values ih =>
    obtain ⟨huv, hrest⟩ := List.isChain_cons_cons.1 h
    exact List.forall_mem_cons.2 ⟨huv.1, ih hrest⟩

end Row

/-! ### Ranges -/

theorem Plan.selects_ofFilter {m : Metadata} {p : Predicate} {field : Field}
    (hfields : p.fields = [field]) (hbase : field.collection = none) (row : Json) :
    (ofFilter m p).selects row = p.holds row [] := by
  have hjoins : (ofFilter m p).joins = [] := by
    simp [ofFilter, Predicate.collections, hfields, hbase, Builder.register]
  rw [selects, hjoins]
  simp [ofFilter, Row.bindings]

namespace Metadata

/-- A request with the filter alone keeps the row. -/
def Keeps (m : Metadata) (raw : String) (row : Json) : Prop :=
  ∃ plan, Plan.build m (Parameters.default.withFilters [raw]) = .ok plan ∧ plan.selects row = true

/-- No row that the first filter keeps stands in front of one that the second keeps. -/
def NeverBefore (m : Metadata) (first second : String) (entries : List Entry) : Prop :=
  entries.Pairwise fun front back => m.Keeps first front.row → ¬ m.Keeps second back.row

/-- Sorted by a field, rows below a value are not mixed with rows from it on, if the values of the
field are as `stored` says. -/
structure SortsRanges (m : Metadata) (name : String) (field : Field) (stored : Json → Prop) :
    Prop where
  /-- In ascending order no row from a value on stands in front of one below it. -/
  ascending {r : Parameters} {plan : Plan} {rows : List Json} (raw : String) :
    r.sort = some (name ++ ":asc") → Plan.build m r = .ok plan →
      (∀ row ∈ rows, ∀ v ∈ Row.base? row field, stored v) →
        ∀ found, plan.matching? rows = some found →
          m.NeverBefore (name ++ ":gte:" ++ raw) (name ++ ":lt:" ++ raw) found
  /-- In descending order no row below a value stands in front of one from it on. -/
  descending {r : Parameters} {plan : Plan} {rows : List Json} (raw : String) :
    r.sort = some (name ++ ":desc") → Plan.build m r = .ok plan →
      (∀ row ∈ rows, ∀ v ∈ Row.base? row field, stored v) →
        ∀ found, plan.matching? rows = some found →
          m.NeverBefore (name ++ ":lt:" ++ raw) (name ++ ":gte:" ++ raw) found

variable {m : Metadata} {name : String} {field : Field}

namespace IsRangeName

variable (h : m.IsRangeName name field)
include h

theorem keeps_iff {token raw : String} {comparison : Comparison} (htoken : ':' ∉ token.toList)
    (hcomparison : Operation.ofToken? token = some (.compare comparison)) {row : Json} :
    m.Keeps (name ++ ":" ++ token ++ ":" ++ raw) row ↔
      ∃ x, Value.read field.type raw = .ok x ∧
        ∃ v ∈ Row.base? row field, Row.InRange comparison x v := by
  have hselects (x : Value) : (Plan.ofFilter m (.compare field comparison x)).selects row =
      ((Row.base? row field).bind (Row.compareTo? · x)).any comparison.accepts := by
    rw [Plan.selects_ofFilter rfl h.collection, Predicate.holds, Row.compareField?, Row.value?,
      h.collection]
  constructor
  · rintro ⟨plan, hbuild, hkeeps⟩
    obtain ⟨p, hp, rfl⟩ := Plan.build_filter_eq_ok_iff.1 hbuild
    obtain ⟨x, hx, rfl⟩ := (h.lowers_iff htoken hcomparison).1 hp
    refine ⟨x, hx, ?_⟩
    rw [hselects] at hkeeps
    cases hv : Row.base? row field with
    | none => rw [hv] at hkeeps; cases hkeeps
    | some v => rw [hv] at hkeeps; exact ⟨v, rfl, hkeeps⟩
  · rintro ⟨x, hx, v, hv, hrange⟩
    refine ⟨_, Plan.build_filter_eq_ok_iff.2 ⟨_, (h.lowers_iff htoken hcomparison).2 ⟨x, hx, rfl⟩,
      rfl⟩, ?_⟩
    rw [hselects, hv]
    exact hrange

theorem keeps_lt_iff (raw : String) {row : Json} :
    m.Keeps (name ++ ":lt:" ++ raw) row ↔
      ∃ x, Value.read field.type raw = .ok x ∧
        ∃ v ∈ Row.base? row field, Row.InRange .lessThan x v := by
  have htoken : ":lt:" = ":" ++ "lt" ++ ":" := rfl
  have htext : name ++ ":lt:" ++ raw = name ++ ":" ++ "lt" ++ ":" ++ raw := by
    simp only [htoken, String.append_assoc]
  have hoperation : Operation.ofToken? "lt" = some (.compare .lessThan) := by decide
  rw [htext, h.keeps_iff (by decide) hoperation]

theorem keeps_gte_iff (raw : String) {row : Json} :
    m.Keeps (name ++ ":gte:" ++ raw) row ↔
      ∃ x, Value.read field.type raw = .ok x ∧
        ∃ v ∈ Row.base? row field, Row.InRange .greaterOrEqual x v := by
  have htoken : ":gte:" = ":" ++ "gte" ++ ":" := rfl
  have htext : name ++ ":gte:" ++ raw = name ++ ":" ++ "gte" ++ ":" ++ raw := by
    simp only [htoken, String.append_assoc]
  have hoperation : Operation.ofToken? "gte" = some (.compare .greaterOrEqual) := by decide
  rw [htext, h.keeps_iff (by decide) hoperation]

end IsRangeName

end Metadata

/-! ### Rows in order -/

namespace Plan

variable {m : Metadata} {r : Parameters} {plan : Plan} {field : Field} {stored : Json → Prop}
  {rows : List Json} {found : List Entry}

theorem stored_of_mem_kept (hstored : ∀ row ∈ rows, ∀ v ∈ Row.base? row field, stored v)
    {e : Entry} (he : e ∈ plan.kept rows) :
    ∀ v ∈ Row.base? e.row field, stored v ∧ v.isNull = false := by
  intro v hv
  obtain ⟨w, -, hw⟩ := Option.bind_eq_some_iff.1 hv
  exact ⟨hstored e.row (row_mem_of_mem_kept he).1 v hv, Row.isNull_of_present hw⟩

theorem matching?_descending (hsort : plan.sort = [⟨field, .descending⟩]) (rows : List Json) :
    plan.matching? rows = Sorting.sort? (fun a b =>
      Row.compareForSort (Row.base? b.row field) (Row.base? a.row field) == .lt)
        (plan.kept rows) := by
  rw [matching?, hsort]
  simp only [SortKey.compareBy, SortKey.compareRows, Ordering.then_eq, ← Row.compareForSort_eq_swap]

/-- In ascending order what is beyond a value has all behind it beyond that value. -/
theorem pairwise_beyond_ascending (hsort : plan.sort = [⟨field, .ascending⟩])
    (hstored : ∀ row ∈ rows, ∀ v ∈ Row.base? row field, stored v)
    (hfound : plan.matching? rows = some found) :
    found.Pairwise fun a b => ∀ x,
      (∀ v ∈ Row.base? a.row field, Row.Beyond stored x v) →
        ∀ v ∈ Row.base? b.row field, Row.Beyond stored x v := by
  rw [matching?_ascending hsort] at hfound
  -- The rank of a row is the set of the values that it is beyond.
  refine Sorting.ranked_sort?_of_mem (fun (e : Entry) x =>
    ∀ v ∈ Row.base? e.row field, Row.Beyond stored x v) (fun a ha b hb hless x => ?_)
    (fun a ha b hb hnot x => ?_) hfound
  · rw [beq_iff_eq] at hless
    exact Row.beyond_of_compareForSort (stored_of_mem_kept hstored ha)
      (stored_of_mem_kept hstored hb) (by simp [hless])
  · rw [beq_eq_false_iff_ne, ← Row.compareForSort_ne_gt_iff] at hnot
    exact Row.beyond_of_compareForSort (stored_of_mem_kept hstored hb)
      (stored_of_mem_kept hstored ha) hnot

theorem pairwise_beyond_descending (hsort : plan.sort = [⟨field, .descending⟩])
    (hstored : ∀ row ∈ rows, ∀ v ∈ Row.base? row field, stored v)
    (hfound : plan.matching? rows = some found) :
    found.Pairwise fun a b => ∀ x,
      (∀ v ∈ Row.base? b.row field, Row.Beyond stored x v) →
        ∀ v ∈ Row.base? a.row field, Row.Beyond stored x v := by
  rw [matching?_descending hsort] at hfound
  -- The rank of a row is the set of the values that it is not beyond.
  refine List.Pairwise.imp (fun hab x => not_imp_not.1 (hab x))
    (Sorting.ranked_sort?_of_mem (fun (e : Entry) x =>
      ¬ ∀ v ∈ Row.base? e.row field, Row.Beyond stored x v) (fun a ha b hb hless x => mt ?_)
      (fun a ha b hb hnot x => mt ?_) hfound)
  · rw [beq_iff_eq] at hless
    exact Row.beyond_of_compareForSort (stored_of_mem_kept hstored hb)
      (stored_of_mem_kept hstored ha) (by simp [hless])
  · rw [beq_eq_false_iff_ne, ← Row.compareForSort_ne_gt_iff] at hnot
    exact Row.beyond_of_compareForSort (stored_of_mem_kept hstored ha)
      (stored_of_mem_kept hstored hb) hnot

theorem stored_of_mem_found (hstored : ∀ row ∈ rows, ∀ v ∈ Row.base? row field, stored v)
    (hfound : plan.matching? rows = some found) {e : Entry} (he : e ∈ found) :
    ∀ v ∈ Row.base? e.row field, stored v :=
  fun v hv => (stored_of_mem_kept hstored ((matching?_perm hfound).mem_iff.1 he) v hv).1

end Plan

namespace Metadata

variable {m : Metadata} {name : String} {field : Field} {stored : Json → Prop}

theorem neverBefore_ofRows_iff {first second : String} {rows : List Json} :
    m.NeverBefore first second (Entry.ofRows rows) ↔
      rows.Pairwise fun front back => m.Keeps first front → ¬ m.Keeps second back :=
  Entry.pairwise_ofRows_iff fun front back => m.Keeps first front → ¬ m.Keeps second back

theorem sortsRanges_of_beyond (h : m.IsRangeName name field)
    (hbeyond : ∀ raw x, Value.read field.type raw = .ok x →
      ∀ v, Row.Beyond stored x v → ¬ Row.InRange .lessThan x v) :
    m.SortsRanges name field stored := by
  have hranges {raw : String} {front back : Json} (hstored : ∀ v ∈ Row.base? front field, stored v)
      (hall : ∀ x, (∀ v ∈ Row.base? front field, Row.Beyond stored x v) →
        ∀ v ∈ Row.base? back field, Row.Beyond stored x v)
      (hgte : m.Keeps (name ++ ":gte:" ++ raw) front) : ¬ m.Keeps (name ++ ":lt:" ++ raw) back := by
    intro hlt
    obtain ⟨x, hx, v, hv, hfrom⟩ := (h.keeps_gte_iff raw).1 hgte
    obtain ⟨x', hx', w, hw, hbelow⟩ := (h.keeps_lt_iff raw).1 hlt
    cases hx.symm.trans hx'
    refine hbeyond raw x hx w (hall x (fun v' hv' => ?_) w hw) hbelow
    cases hv.symm.trans hv'
    exact ⟨v, hstored v hv, hfrom, .refl⟩
  constructor
  · intro r plan rows raw hsort hbuild hstored found hfound
    have hkey : plan.sort = [⟨field, .ascending⟩] := by
      rw [Plan.sort_of_build hbuild, hsort, Option.elim_some, h.resolveSort_asc]
    refine (Plan.pairwise_beyond_ascending hkey hstored hfound).imp_of_mem fun ha _ hall => ?_
    exact hranges (Plan.stored_of_mem_found hstored hfound ha) hall
  · intro r plan rows raw hsort hbuild hstored found hfound
    have hkey : plan.sort = [⟨field, .descending⟩] := by
      rw [Plan.sort_of_build hbuild, hsort, Option.elim_some, h.resolveSort_desc]
    refine (Plan.pairwise_beyond_descending hkey hstored hfound).imp_of_mem
      fun _ hb hall hlt hgte => ?_
    exact hranges (Plan.stored_of_mem_found hstored hfound hb) hall hgte hlt

/-- Ranges are not mixed if what follows a value from `x` on is from `x` on. -/
theorem sortsRanges_of_follows (h : m.IsRangeName name field)
    (hfollows : ∀ raw x, Value.read field.type raw = .ok x → ∀ v w, Row.Follows stored v w →
      Row.InRange .greaterOrEqual x v → Row.InRange .greaterOrEqual x w) :
    m.SortsRanges name field stored := by
  refine sortsRanges_of_beyond h fun raw x hx v hbeyond => Row.not_inRange_both ?_
  obtain ⟨u, -, hfrom, hreach⟩ := hbeyond
  induction hreach with
  | refl => exact hfrom
  | tail _ hlast ih => exact hfollows raw x hx _ _ hlast ih

/-- **Integers of 64 bits are sorted as ranges ask.** -/
theorem sortsRanges_integers (h : m.IsRangeName name field) (htype : field.type = .integer) :
    m.SortsRanges name field fun v => ∃ n i, v = .number n ∧ n.toInteger? = some i := by
  refine sortsRanges_of_follows h fun raw x hx v w hfollows hfrom => ?_
  obtain ⟨⟨⟨n, i, rfl, hi⟩, -⟩, ⟨⟨n', j, rfl, hj⟩, -⟩, hle⟩ := hfollows
  rw [htype] at hx
  obtain ⟨k, rfl⟩ := Value.exists_integer_of_read hx
  rw [Row.compareValues, Row.compareNumbers, hi, hj] at hle
  have hle : i ≤ j := compare_le_iff_le.1 hle
  rw [Row.inRange_integer_iff hi] at hfrom
  rw [Row.inRange_integer_iff hj]
  exact hfrom.trans hle

/-- **Numbers are sorted as ranges ask** of a numeric field. -/
theorem sortsRanges_numbers (h : m.IsRangeName name field) (htype : field.type = .numeric) :
    m.SortsRanges name field fun v => ∃ n, v = .number n := by
  refine sortsRanges_of_follows h fun raw x hx v w hfollows hfrom => ?_
  obtain ⟨⟨⟨n, rfl⟩, -⟩, ⟨⟨n', rfl⟩, -⟩, hle⟩ := hfollows
  rw [htype] at hx
  obtain ⟨y, rfl⟩ := Value.exists_numeric_of_read hx
  rw [Row.inRange_numeric_iff] at hfrom ⊢
  exact hfrom.trans (Row.units_le_of_compareNumbers hle)

/-- Rows with the values that lie between one from `x` on and one beyond it show that the latter is
not below `x`. -/
theorem not_inRange_of_sortsRanges (h : m.IsRangeName name field)
    (hsorts : m.SortsRanges name field stored) {raw : String} {x : Value}
    (hx : Value.read field.type raw = .ok x) {v : Json} (hbeyond : Row.Beyond stored x v) :
    ¬ Row.InRange .lessThan x v := by
  obtain ⟨u, hu, hfrom, hreach⟩ := hbeyond
  obtain ⟨values, hchain, hlast⟩ := List.exists_isChain_cons_of_relationReflTransGen hreach
  intro hbelow
  cases values with
  | nil =>
    cases hlast
    exact Row.not_inRange_both hfrom hbelow
  | cons w values =>
    have hall := Row.stored_of_isChain_follows hchain
    have hmem : v ∈ w :: values := hlast ▸ List.getLast_mem (List.cons_ne_nil w values)
    -- The rows are in order as they are stored, the one with the value from `x` on first.
    have hnever := hsorts.ascending raw rfl (Plan.build_sort m _)
      (Row.stored_of_mem_map_single hall) _ (Plan.matching?_singles h.resolveSort_asc rfl hchain)
    rw [neverBefore_ofRows_iff] at hnever
    refine (List.pairwise_cons.1 hnever).1 (Row.single field v) (List.mem_map_of_mem hmem) ?_ ?_
    · exact (h.keeps_gte_iff raw).2
        ⟨x, hx, u, Row.base?_single field (hall u List.mem_cons_self).2, hfrom⟩
    · exact (h.keeps_lt_iff raw).2
        ⟨x, hx, v, Row.base?_single field (hall v (List.mem_cons_of_mem u hmem)).2, hbelow⟩

/-- **Ranges are not mixed just if nothing that is beyond a value is below it.** -/
theorem sortsRanges_iff (h : m.IsRangeName name field) :
    m.SortsRanges name field stored ↔
      ∀ raw x, Value.read field.type raw = .ok x →
        ∀ v, Row.Beyond stored x v → ¬ Row.InRange .lessThan x v :=
  ⟨fun hsorts _ _ hx _ => not_inRange_of_sortsRanges h hsorts hx, sortsRanges_of_beyond h⟩

end Metadata

namespace Sample

/-- The time at which a product was entered. -/
def createdAt : Field :=
  ⟨"created_at", none, "created_at", .timestamp⟩

theorem isRangeName_createdAt : product.IsRangeName "created_at" createdAt := by
  constructor <;> decide

/-- Eight o'clock, written with an offset. -/
def eight : Json :=
  Row.single createdAt (.string "2024-03-01T10:00:00+02:00")

/-- Nine o'clock. -/
def nine : Json :=
  Row.single createdAt (.string "2024-03-01T09:00:00Z")

theorem matching?_times : (Plan.ofSort product "created_at:asc").matching? [eight, nine] =
    some [⟨1, nine⟩, ⟨0, eight⟩] :=
  rfl

end Sample

namespace Metadata

/-- The times at which products were entered. -/
theorem sortsRanges_iff_products :
    Sample.product.IsRangeName "created_at" Sample.createdAt ∧
      (Sample.product.SortsRanges "created_at" Sample.createdAt (fun _ => True) ↔
        ∀ raw x, Value.read .timestamp raw = .ok x →
          ∀ v, Row.Beyond (fun _ => True) x v → ¬ Row.InRange .lessThan x v) :=
  ⟨Sample.isRangeName_createdAt, sortsRanges_iff Sample.isRangeName_createdAt⟩

/-- **Of two times the later one comes first in ascending order**, since rows are sorted by the
texts of times and the earlier one is written with an offset. -/
theorem not_neverBefore_createdAt :
    Sample.product.IsRangeName "created_at" Sample.createdAt ∧
      ∃ plan, Plan.build Sample.product
          { Parameters.default with sort := some "created_at:asc" } = .ok plan ∧
        ∃ found, plan.matching? [Sample.eight, Sample.nine] = some found ∧
          ¬ Sample.product.NeverBefore "created_at:gte:2024-03-01T08:30:00Z"
            "created_at:lt:2024-03-01T08:30:00Z" found := by
  have h := Sample.isRangeName_createdAt
  have hraw : Value.read .timestamp "2024-03-01T08:30:00Z" = .ok (.timestamp ⟨1709281800, 0⟩) := by
    decide
  have hnine : Sample.product.Keeps "created_at:gte:2024-03-01T08:30:00Z" Sample.nine :=
    (h.keeps_gte_iff "2024-03-01T08:30:00Z").2 ⟨_, hraw, _, rfl, rfl⟩
  have height : Sample.product.Keeps "created_at:lt:2024-03-01T08:30:00Z" Sample.eight :=
    (h.keeps_lt_iff "2024-03-01T08:30:00Z").2 ⟨_, hraw, _, rfl, rfl⟩
  refine ⟨h, _, Plan.build_sort _ _, _, Sample.matching?_times, fun hnever => ?_⟩
  exact (List.pairwise_cons.1 hnever).1 ⟨0, Sample.eight⟩ (List.mem_singleton_self _) hnine height

end Metadata

end ListQuery
