import ListQuery.Proofs.Request.Encoding
import ListQuery.Proofs.Request.RoundTrip
import Mathlib.Data.List.Induction

/-!
# Requests pair by pair

A request is gathered from its names and values one pair after the other.  What a pair adds depends
on nothing but the key that its name stands for, so that pairs under different keys may change
places, and pairs under no key may stand anywhere.

* `Parameters.Key` : the keys, one of which has two names;
* `Parameters.Gathered`, `Parameters.Gathered.add` : what has been gathered, and what a pair adds;
* `Parameters.Gathered.foldl_add_eq` : it is determined by the values under each key;
* `Parameters.IsGathered` : what comes of the pairs;
* `Parameters.gathersByKey` : all of this of names and values, and of query strings.
-/

namespace ListQuery

namespace Parameters

variable {pairs ps qs : List (String × String)} {query : String}

/-! ### Keys -/

/-- What a name in a request stands for. -/
inductive Key where
  | page
  | pageSize
  | sort
  | search
  | filter
deriving DecidableEq, Repr

namespace Key

/-- The names of a key. -/
def names : Key → List String
  | page => ["page"]
  | pageSize => ["pageSize", "page_size"]
  | sort => ["sort"]
  | search => ["search"]
  | filter => ["filter"]

/-- The key that a name stands for, if any. -/
def ofName? : String → Option Key
  | "page" => some page
  | "pageSize" | "page_size" => some pageSize
  | "sort" => some sort
  | "search" => some search
  | "filter" => some filter
  | _ => none

theorem ofName?_eq_some_iff {name : String} {key : Key} :
    ofName? name = some key ↔ name ∈ key.names := by
  unfold ofName?
  split <;> cases key <;> simp_all [names]

/-- The values that pairs give under a key, in their order. -/
def values (key : Key) (pairs : List (String × String)) : List String :=
  valuesOf (key.names.contains ·) pairs

theorem values_concat (key : Key) (pairs : List (String × String)) (p : String × String) :
    key.values (pairs ++ [p]) =
      key.values pairs ++ if ofName? p.1 = some key then [p.2] else [] := by
  rw [values, valuesOf_append]
  refine congrArg _ ?_
  rw [valuesOf, List.filter_cons, List.filter_nil]
  simp only [List.contains_iff_mem, ofName?_eq_some_iff]
  split <;> rfl

end Key

/-! ### One pair after the other -/

/-- What has been gathered of a request. -/
structure Gathered where
  /-- The page, if the last text for it was a number. -/
  page : Option Int := none
  /-- The page size, if the last text for it was a number. -/
  pageSize : Option Int := none
  /-- The sort lists. -/
  sorts : List String := []
  /-- The last text to search for. -/
  search : Option String := none
  /-- The filters. -/
  filters : List String := []
deriving DecidableEq, Repr

namespace Gathered

/-- The number that a text writes, blanks around it aside. -/
def number? (value : String) : Option Int :=
  Integer.read? (Text.trimChars value.toList)

/-- What has been gathered with one more pair. -/
def add (g : Gathered) (p : String × String) : Gathered :=
  match Key.ofName? p.1 with
  | some .page => { g with page := number? p.2 }
  | some .pageSize => { g with pageSize := number? p.2 }
  | some .sort => { g with sorts := g.sorts ++ [p.2] }
  | some .search => { g with search := some p.2 }
  | some .filter => { g with filters := g.filters ++ [p.2] }
  | none => g

/-- The request that has been gathered. -/
def parameters (g : Gathered) : Parameters :=
  make g.page g.pageSize (if g.sorts.isEmpty then none else some (Text.joinWith "," g.sorts))
    g.search g.filters

/-- What values under the keys add up to. -/
def ofValues (values : Key → List String) : Gathered where
  page := lastNumber? (values .page)
  pageSize := lastNumber? (values .pageSize)
  sorts := values .sort
  search := (values .search).getLast?
  filters := values .filter

theorem lastNumber?_concat (values : List String) (value : String) :
    lastNumber? (values ++ [value]) = number? value := by
  rw [lastNumber?, List.getLast?_concat]
  rfl

theorem add_ofValues (pairs : List (String × String)) (p : String × String) :
    (ofValues fun key => key.values pairs).add p =
      ofValues fun key => key.values (pairs ++ [p]) := by
  simp only [ofValues, Key.values_concat, add]
  cases hkey : Key.ofName? p.1 with
  | none => simp
  | some key => cases key <;> simp [lastNumber?_concat]

/-- **What has been gathered is determined by the values under each key.** -/
theorem foldl_add_eq (pairs : List (String × String)) :
    pairs.foldl add {} = ofValues fun key => key.values pairs := by
  induction pairs using List.reverseRecOn with
  | nil => rfl
  | append_singleton pairs p ih => rw [List.foldl_concat, ih, add_ofValues]

theorem parameters_foldl_add (pairs : List (String × String)) :
    (pairs.foldl add {}).parameters = ofPairs pairs := by
  rw [foldl_add_eq, ofPairs, parameters, ofValues]
  simp only [Key.values, Key.names, List.contains_cons, List.contains_nil, Bool.or_false]

end Gathered

/-! ### What comes of the pairs -/

/-- The last value under the key. -/
def Key.LastIs (key : Key) (pairs : List (String × String)) (value : String) : Prop :=
  ∃ front name back, pairs = front ++ (name, value) :: back ∧ name ∈ key.names ∧
    ∀ p ∈ back, p.1 ∉ key.names

theorem Key.LastIs.getLast?_values {key : Key} {value : String} (h : key.LastIs pairs value) :
    (key.values pairs).getLast? = some value := by
  obtain ⟨front, name, back, rfl, hname, hback⟩ := h
  have hnone : (back.filter fun p => key.names.contains p.1) = [] := by
    rw [List.filter_eq_nil_iff]
    simpa using hback
  have hvalue : valuesOf (key.names.contains ·) ((name, value) :: back) = [value] := by
    rw [valuesOf, List.filter_cons_of_pos (by simpa using hname), hnone, List.map_singleton]
  rw [values, valuesOf_append, hvalue, List.getLast?_concat]

/-- The request is what comes of the pairs. -/
structure IsGathered (pairs : List (String × String)) (r : Parameters) : Prop where
  /-- It is gathered one pair after the other. -/
  gathered : r = (pairs.foldl Gathered.add {}).parameters
  /-- All filters are kept, in their order. -/
  filters : r.filters = Key.filter.values pairs
  /-- The last page counts.  If it is no number, there is none. -/
  page : ∀ value, Key.page.LastIs pairs value →
    r.page = (Gathered.number? value).elim defaultPage (clamp maxPage)
  /-- So does the last page size, under either name. -/
  pageSize : ∀ value, Key.pageSize.LastIs pairs value →
    r.pageSize = (Gathered.number? value).elim defaultPageSize (clamp maxPageSize)
  /-- So does the last text to search for.  If it is blank, there is none. -/
  search : ∀ value, Key.search.LastIs pairs value → r.search = Text.nonBlank? value

theorem isGathered_ofPairs (pairs : List (String × String)) : IsGathered pairs (ofPairs pairs) := by
  have hgathered : ofPairs pairs = (Gathered.ofValues fun key => key.values pairs).parameters := by
    rw [← Gathered.foldl_add_eq, Gathered.parameters_foldl_add]
  have hlast {key : Key} {value : String} (h : key.LastIs pairs value) :
      lastNumber? (key.values pairs) = Gathered.number? value := by
    rw [lastNumber?, h.getLast?_values]
    rfl
  refine ⟨(Gathered.parameters_foldl_add pairs).symm, ?_, fun value h => ?_, fun value h => ?_,
    fun value h => ?_⟩
  · rw [hgathered]
    rfl
  · rw [hgathered, ← hlast h]
    rfl
  · rw [hgathered, ← hlast h]
    rfl
  · have hsearch : (ofPairs pairs).search =
        (Key.search.values pairs).getLast?.bind Text.nonBlank? := by
      rw [hgathered]
      rfl
    rw [hsearch, h.getLast?_values, Option.bind_some]

/-- Pairs with the same values under each key give the same request. -/
theorem ofPairs_congr (h : ∀ key : Key, key.values ps = key.values qs) :
    ofPairs ps = ofPairs qs := by
  have hvalues : (fun key : Key => key.values ps) = fun key => key.values qs := funext h
  rw [← Gathered.parameters_foldl_add, ← Gathered.parameters_foldl_add, Gathered.foldl_add_eq,
    Gathered.foldl_add_eq, hvalues]

theorem ofQueryString_of_encodesQuery (h : Form.EncodesQuery ps query) :
    ofQueryString query = ofPairs ps := by
  rw [ofQueryString, h.pairs_eq]

/-- **A request depends on nothing but the values under each of its keys**, in their order; and so
it does when the pairs are encoded in a query string, in whatever way. -/
theorem gathersByKey :
    (∀ pairs, IsGathered pairs (ofPairs pairs)) ∧
      (∀ ps qs, (∀ key : Key, key.values ps = key.values qs) → ofPairs ps = ofPairs qs) ∧
      (∀ ps, ∃ query, Form.EncodesQuery ps query) ∧
      (∀ ps query, Form.EncodesQuery ps query → IsGathered ps (ofQueryString query)) ∧
      ∀ ps qs query query', Form.EncodesQuery ps query → Form.EncodesQuery qs query' →
        (∀ key : Key, key.values ps = key.values qs) →
          ofQueryString query = ofQueryString query' := by
  refine ⟨isGathered_ofPairs, fun ps qs => ofPairs_congr, Form.exists_encodesQuery,
    fun ps query h => ?_, fun ps qs query query' hps hqs h => ?_⟩
  · rw [ofQueryString_of_encodesQuery h]
    exact isGathered_ofPairs ps
  · rw [ofQueryString_of_encodesQuery hps, ofQueryString_of_encodesQuery hqs, ofPairs_congr h]

end Parameters

namespace Sample

/-- A request for the second page, for a text, and for a page that is no number. -/
def pagePairs : List (String × String) :=
  [("page", "2"), ("search", "50% & up"), ("page", "two")]

/-- The same in another order, with a name that is no key. -/
def mixedPairs : List (String × String) :=
  [("search", "50% & up"), ("utm", "x"), ("page", "2"), ("page", "two")]

theorem encodesPair_search :
    Form.EncodesPair "search=50%25+%26 up".toList ("search", "50% & up") := by
  have hpercent : Percent.Writes ['%', '2', '5'] (Utf8.encodeChar '%') :=
    .byte (a := 2) (b := 5) rfl rfl .nil
  have hampersand : Percent.Writes ['%', '2', '6'] (Utf8.encodeChar '&') :=
    .byte (a := 2) (b := 6) rfl rfl .nil
  have hup : Form.Encodes " up".toList " up".toList := Form.encodes_self (by decide)
  have hvalue : Form.Encodes "50%25+%26 up".toList "50% & up".toList :=
    .plain (by decide) (.plain (by decide) (.bytes hpercent (.space (.bytes hampersand hup))))
  have hname : Form.Encodes "search".toList "search".toList := Form.encodes_self (by decide)
  exact .both hname (by decide) hvalue

theorem encodesQuery_pagePairs :
    Form.EncodesQuery pagePairs "page=2&&search=50%25+%26 up&page=two" := by
  have hsecond : Form.EncodesPair "page=2".toList ("page", "2") :=
    Form.encodesPair_self rfl (by decide) (by decide)
  have hlast : Form.EncodesPair "page=two".toList ("page", "two") :=
    Form.encodesPair_self rfl (by decide) (by decide)
  have hall : Form.EncodesAll
      ["page=2".toList, [], "search=50%25+%26 up".toList, "page=two".toList] pagePairs :=
    .full hsecond (.empty (.full encodesPair_search (.full hlast .nil)))
  exact .unmarked hall (by decide)

theorem encodesQuery_mixedPairs :
    Form.EncodesQuery mixedPairs "?search=50%25+%26 up&utm=x&page=2&page=two&&" := by
  have hother : Form.EncodesPair "utm=x".toList ("utm", "x") :=
    Form.encodesPair_self rfl (by decide) (by decide)
  have hsecond : Form.EncodesPair "page=2".toList ("page", "2") :=
    Form.encodesPair_self rfl (by decide) (by decide)
  have hlast : Form.EncodesPair "page=two".toList ("page", "two") :=
    Form.encodesPair_self rfl (by decide) (by decide)
  have hall : Form.EncodesAll
      ["search=50%25+%26 up".toList, "utm=x".toList, "page=2".toList, "page=two".toList, [], []]
      mixedPairs :=
    .full encodesPair_search
      (.full hother (.full hsecond (.full hlast (.empty (.empty .nil)))))
  exact .marked hall

end Sample

namespace Parameters

/-- Two query strings for one request.  The last page is no number, so that the first is shown. -/
theorem gathersByKey_pagePairs :
    Form.EncodesQuery Sample.pagePairs "page=2&&search=50%25+%26 up&page=two" ∧
      Form.EncodesQuery Sample.mixedPairs "?search=50%25+%26 up&utm=x&page=2&page=two&&" ∧
      (∀ key : Key, key.values Sample.pagePairs = key.values Sample.mixedPairs) ∧
      Key.page.LastIs Sample.pagePairs "two" ∧
      ofQueryString "page=2&&search=50%25+%26 up&page=two" =
        ofQueryString "?search=50%25+%26 up&utm=x&page=2&page=two&&" ∧
      (ofQueryString "page=2&&search=50%25+%26 up&page=two").page = 1 := by
  obtain ⟨-, -, -, hgathered, hsame⟩ := gathersByKey
  have hvalues : ∀ key : Key, key.values Sample.pagePairs = key.values Sample.mixedPairs := by
    rintro (- | - | - | - | -) <;> decide
  have hlast : Key.page.LastIs Sample.pagePairs "two" :=
    ⟨[("page", "2"), ("search", "50% & up")], "page", [], rfl, by decide, nofun⟩
  refine ⟨Sample.encodesQuery_pagePairs, Sample.encodesQuery_mixedPairs, hvalues, hlast,
    hsame _ _ _ _ Sample.encodesQuery_pagePairs Sample.encodesQuery_mixedPairs hvalues, ?_⟩
  rw [(hgathered _ _ Sample.encodesQuery_pagePairs).page _ hlast]
  decide

end Parameters

end ListQuery
