import ListQuery.Proofs.Number.Integer
import ListQuery.Proofs.Request.Form
import ListQuery.Request.Body

/-!
# Requests in normal form

However a request comes about, its paging is in range and its texts are trimmed; and written out in
names and values, as a query string or as the body of a message, it is read back as it was.

* `Parameters.IsMade` : the ways in which requests come about;
* `Parameters.IsNormal` : paging in range, texts trimmed and not blank;
* `Parameters.isMade_iff` : these are the requests that come about;
* `Parameters.toNat_wordOffset` : the rows in front of the page can be counted in machine words;
* `Parameters.ofPairs_toPairs`, `Parameters.ofQueryString_write` : a request in normal form is read
  back;
* `Parameters.readsBack` : all of this of every request.
-/

namespace ListQuery

namespace Parameters

variable {p : Parameters}

/-! ### How requests come about -/

/-- The ways in which requests come about. -/
inductive IsMade : Parameters → Prop where
  /-- From numbers and texts, each of which may be missing. -/
  | make (page pageSize : Option Int) (sort search : Option String) (filters : List String) :
    IsMade (make page pageSize sort search filters)
  /-- From names and values. -/
  | ofPairs (pairs : List (String × String)) : IsMade (ofPairs pairs)
  /-- From a query string. -/
  | ofQueryString (query : String) : IsMade (ofQueryString query)
  /-- From the body of a message. -/
  | ofListRequest (request : ListRequest) : IsMade (ofListRequest request)
  /-- From nothing. -/
  | default : IsMade default
  /-- From another request, by a change of its filters. -/
  | withFilters {p : Parameters} (filters : List String) : IsMade p → IsMade (p.withFilters filters)

/-- A text that is there is not empty and has no blanks at its ends. -/
def IsTidy (text : Option String) : Prop :=
  ∀ s ∈ text, s ≠ "" ∧ Text.IsTrimmed s.toList

/-- Paging is in range, and the texts are tidy. -/
structure IsNormal (p : Parameters) : Prop where
  /-- Pages are counted from 1. -/
  page_pos : 1 ≤ p.page
  /-- There is a greatest page. -/
  page_le : p.page ≤ maxPage
  /-- There is a row on a page. -/
  pageSize_pos : 1 ≤ p.pageSize
  /-- There is a greatest page size. -/
  pageSize_le : p.pageSize ≤ maxPageSize
  /-- The sort list. -/
  sort : IsTidy p.sort
  /-- The text to search for. -/
  search : IsTidy p.search

theorem elim_clamp_mem {fallback greatest : Nat} (h : 1 ≤ fallback ∧ fallback ≤ greatest)
    (number : Option Int) :
    1 ≤ number.elim fallback (clamp greatest) ∧
      number.elim fallback (clamp greatest) ≤ greatest := by
  cases number with
  | none => exact h
  | some i =>
    rw [Option.elim_some, clamp]
    omega

theorem isTidy_bind_nonBlank? (text : Option String) : IsTidy (text.bind Text.nonBlank?) := by
  intro s hs
  obtain ⟨t, -, ht⟩ := Option.bind_eq_some_iff.1 hs
  obtain ⟨rfl, hne⟩ := Text.nonBlank?_eq_some_iff.1 ht
  exact ⟨hne, Text.isTrimmed_trim t⟩

/-- **What is made of numbers and texts is normal**, whatever they are. -/
theorem isNormal_make (page pageSize : Option Int) (sort search : Option String)
    (filters : List String) : IsNormal (make page pageSize sort search filters) := by
  obtain ⟨hpage, hpage'⟩ := elim_clamp_mem
    (by decide : 1 ≤ defaultPage ∧ defaultPage ≤ maxPage) page
  obtain ⟨hpageSize, hpageSize'⟩ := elim_clamp_mem
    (by decide : 1 ≤ defaultPageSize ∧ defaultPageSize ≤ maxPageSize) pageSize
  exact ⟨hpage, hpage', hpageSize, hpageSize', isTidy_bind_nonBlank? sort,
    isTidy_bind_nonBlank? search⟩

theorem isNormal_of_isMade (h : p.IsMade) : p.IsNormal := by
  induction h with
  | make page pageSize sort search filters => exact isNormal_make ..
  | ofPairs pairs => exact isNormal_make ..
  | ofQueryString query => exact isNormal_make ..
  | ofListRequest request => exact isNormal_make ..
  | default => exact isNormal_make none none none none []
  | withFilters filters _ ih =>
    exact ⟨ih.page_pos, ih.page_le, ih.pageSize_pos, ih.pageSize_le, ih.sort, ih.search⟩

/-! ### Rows in front of the page -/

/-- The number of rows in front of the page in machine words: page and page size have 32 bits, and
their product has 64. -/
def wordOffset (p : Parameters) : UInt64 :=
  (UInt32.ofNat p.page - 1).toUInt64 * (UInt32.ofNat p.pageSize).toUInt64

/-- The number of rows in front of the page is what it should be. -/
structure IsExact (p : Parameters) : Prop where
  /-- It is the product of integers. -/
  offset_eq : (p.offset : Int) = ((p.page : Int) - 1) * p.pageSize
  /-- It fits a signed integer of 64 bits. -/
  offset_le : (p.offset : Int) ≤ Integer.max64
  /-- It comes out the same in machine words. -/
  toNat_wordOffset : p.wordOffset.toNat = p.offset

theorem offset_lt (h : p.IsNormal) : p.offset < 4294967295 * 1000 := by
  have hpage : p.page - 1 < 4294967295 := by
    have := h.page_le
    rw [maxPage] at this
    omega
  calc p.offset = (p.page - 1) * p.pageSize := rfl
    _ ≤ (p.page - 1) * 1000 := Nat.mul_le_mul_left _ h.pageSize_le
    _ < 4294967295 * 1000 := Nat.mul_lt_mul_of_pos_right hpage (by decide)

/-- Nothing runs over in machine words. -/
theorem toNat_wordOffset (h : p.IsNormal) : p.wordOffset.toNat = p.offset := by
  have hpos := h.page_pos
  have hpage : (UInt32.ofNat p.page).toNat = p.page :=
    UInt32.toNat_ofNat_of_lt' (Nat.lt_of_le_of_lt h.page_le (by decide))
  have hpageSize : (UInt32.ofNat p.pageSize).toNat = p.pageSize :=
    UInt32.toNat_ofNat_of_lt' (Nat.lt_of_le_of_lt h.pageSize_le (by decide))
  have hone : (1 : UInt32) ≤ UInt32.ofNat p.page := by
    rw [UInt32.le_iff_toNat_le, hpage]
    exact hpos
  have hproduct : (p.page - 1) * p.pageSize < 18446744073709551616 :=
    Nat.lt_trans (offset_lt h) (by decide)
  rw [wordOffset, UInt64.toNat_mul, UInt32.toNat_toUInt64, UInt32.toNat_toUInt64,
    UInt32.toNat_sub_of_le _ _ hone, hpage, hpageSize]
  exact Nat.mod_eq_of_lt hproduct

theorem isExact (h : p.IsNormal) : p.IsExact where
  offset_eq := by
    rw [offset, Int.natCast_mul, Int.natCast_sub h.page_pos]
    rfl
  offset_le := by
    have hlt := offset_lt h
    rw [Integer.max64]
    omega
  toNat_wordOffset := toNat_wordOffset h

/-! ### Writing requests -/

/-- A pair of the name with each of the values. -/
def named (name : String) (values : List String) : List (String × String) :=
  values.map fun value => (name, value)

/-- A request in names and values, what is missing left out. -/
def toPairs (p : Parameters) : List (String × String) :=
  named "page" [toString p.page] ++ named "pageSize" [toString p.pageSize] ++
    named "sort" p.sort.toList ++ named "search" p.search.toList ++ named "filter" p.filters

/-- A request as a query string, with percent signs for all bytes of the values. -/
def toQueryString (digit : Fin 16 → Char) (p : Parameters) : String :=
  String.ofList (Form.write digit p.toPairs)

/-- A request as the body of a message. -/
def toListRequest (p : Parameters) : ListRequest where
  page := some p.page
  pageSize := some p.pageSize
  sort := p.sort
  search := p.search
  filter := p.filters

theorem isPlain_of_mem_toPairs {pair : String × String} (h : pair ∈ p.toPairs) :
    Form.IsPlain pair.1 := by
  have hnames : ∀ name ∈ ["page", "pageSize", "sort", "search", "filter"], Form.IsPlain name := by
    decide
  refine hnames pair.1 ?_
  simp only [toPairs, named, List.mem_append, List.mem_map] at h
  obtain (((⟨_, -, rfl⟩ | ⟨_, -, rfl⟩) | ⟨_, -, rfl⟩) | ⟨_, -, rfl⟩) | ⟨_, -, rfl⟩ := h <;> simp

/-! ### Reading them back -/

theorem clamp_natCast {greatest n : Nat} (hpos : 1 ≤ n) (hle : n ≤ greatest) :
    clamp greatest n = n := by
  rw [clamp]
  omega

theorem IsTidy.bind_nonBlank? {text : Option String} (h : IsTidy text) :
    text.bind Text.nonBlank? = text := by
  cases text with
  | none => rfl
  | some s =>
    obtain ⟨hne, htrimmed⟩ := h s rfl
    rw [Option.bind_some]
    exact Text.nonBlank?_eq_some_iff.2 ⟨Text.trim_eq_self_iff.2 htrimmed, hne⟩

/-- A request in normal form is made of its own parts. -/
theorem make_eq_self (h : p.IsNormal) :
    make (some (p.page : Int)) (some (p.pageSize : Int)) p.sort p.search p.filters = p := by
  simp only [make, Option.elim_some, clamp_natCast h.page_pos h.page_le,
    clamp_natCast h.pageSize_pos h.pageSize_le, h.sort.bind_nonBlank?, h.search.bind_nonBlank?]

theorem valuesOf_append (isName : String → Bool) (front back : List (String × String)) :
    valuesOf isName (front ++ back) = valuesOf isName front ++ valuesOf isName back := by
  rw [valuesOf, List.filter_append, List.map_append]
  rfl

theorem valuesOf_named (isName : String → Bool) (name : String) (values : List String) :
    valuesOf isName (named name values) = if isName name then values else [] := by
  rw [valuesOf, named, List.filter_map, List.map_map]
  split
  case isTrue h => simp [Function.comp_def, h]
  case isFalse h => simp [Function.comp_def, h]

theorem valuesOf_toPairs (isName : String → Bool) (p : Parameters) :
    valuesOf isName p.toPairs =
      (if isName "page" then [toString p.page] else []) ++
        (if isName "pageSize" then [toString p.pageSize] else []) ++
        (if isName "sort" then p.sort.toList else []) ++
        (if isName "search" then p.search.toList else []) ++
        (if isName "filter" then p.filters else []) := by
  simp only [toPairs, valuesOf_append, valuesOf_named]

theorem lastNumber?_toString {n : Nat} (h : (n : Int) ≤ Integer.max64) :
    lastNumber? [toString n] = some (n : Int) := by
  rw [lastNumber?, List.getLast?_singleton, Option.bind_some, Integer.read?_toString h]

/-- **A request in normal form is read back from its names and values.** -/
theorem ofPairs_toPairs (h : p.IsNormal) : ofPairs p.toPairs = p := by
  have hpage : (p.page : Int) ≤ Integer.max64 := by
    have := h.page_le
    rw [maxPage] at this
    rw [Integer.max64]
    omega
  have hpageSize : (p.pageSize : Int) ≤ Integer.max64 := by
    have := h.pageSize_le
    rw [maxPageSize] at this
    rw [Integer.max64]
    omega
  have hsort : (if p.sort.toList.isEmpty then none
      else some (Text.joinWith "," p.sort.toList)) = p.sort := by
    cases p.sort <;> rfl
  have hsearch : p.search.toList.getLast? = p.search := by
    cases p.search <;> rfl
  calc ofPairs p.toPairs
    _ = make (lastNumber? [toString p.page]) (lastNumber? [toString p.pageSize])
          (if p.sort.toList.isEmpty then none else some (Text.joinWith "," p.sort.toList))
          p.search.toList.getLast? p.filters := by
        simp [ofPairs, valuesOf_toPairs]
    _ = make (some p.page) (some p.pageSize) p.sort p.search p.filters := by
        rw [lastNumber?_toString hpage, lastNumber?_toString hpageSize, hsort, hsearch]
    _ = p := make_eq_self h

/-- **So it is from its query string.** -/
theorem ofQueryString_write {digit : Fin 16 → Char} (hdigit : ∀ d, hexDigit? (digit d) = some d)
    (h : p.IsNormal) {query : String}
    (hquery : dropQuestionMark query.toList = Form.write digit p.toPairs) :
    ofQueryString query = p := by
  rw [ofQueryString, hquery, Form.pairs_write hdigit fun _ => isPlain_of_mem_toPairs,
    ofPairs_toPairs h]

theorem dropQuestionMark_write (digit : Fin 16 → Char) (p : Parameters) :
    dropQuestionMark (Form.write digit p.toPairs) = Form.write digit p.toPairs := by
  obtain ⟨rest, hrest⟩ : ∃ rest, Form.write digit p.toPairs = 'p' :: rest := by
    simp [Form.write, Form.writePair, toPairs, named, List.intercalate_cons_cons]
  rw [hrest]
  rfl

/-- **The requests that come about are those in normal form.** -/
theorem isMade_iff : p.IsMade ↔ p.IsNormal := by
  refine ⟨isNormal_of_isMade, fun h => ?_⟩
  rw [← ofPairs_toPairs h]
  exact .ofPairs _

/-- A request is read back however it is written. -/
structure ReadsBack (digit : Fin 16 → Char) (p : Parameters) : Prop where
  /-- From names and values. -/
  pairs : ofPairs p.toPairs = p
  /-- From a query string. -/
  query : ofQueryString (p.toQueryString digit) = p
  /-- From a query string with its question mark. -/
  marked : ofQueryString ("?" ++ p.toQueryString digit) = p
  /-- From the body of a message. -/
  body : ofListRequest p.toListRequest = p

/-- **Requests are in normal form and are read back as they were written**, in whatever way they
come about and whichever characters write the digits of bytes. -/
theorem readsBack {digit : Fin 16 → Char} (hdigit : ∀ d, hexDigit? (digit d) = some d)
    (h : p.IsMade) : p.IsNormal ∧ p.IsExact ∧ p.ReadsBack digit := by
  have hnormal := isMade_iff.1 h
  refine ⟨hnormal, isExact hnormal, ofPairs_toPairs hnormal, ?_, ?_, make_eq_self hnormal⟩
  · refine ofQueryString_write hdigit hnormal ?_
    rw [toQueryString, String.toList_ofList, dropQuestionMark_write]
  · refine ofQueryString_write hdigit hnormal ?_
    rw [String.toList_append, toQueryString, String.toList_ofList, String.toList_ofList]
    rfl

end Parameters

/-- A request whose texts have the characters that mean something in a query string. -/
def Sample.specialRequest : Parameters :=
  Parameters.withFilters
    (.ofQueryString
      "?page=4294967296&page_size=+7&sort=+name%3Aasc&sort=price+&search=50%25+%26+%C3%BC")
    ["name:eq:a+b&c=d%20", "", ":"]

/-- It is written with the digits of lower case. -/
theorem Parameters.readsBack_special :
    (∀ d, hexDigit? (hexChar d) = some d) ∧ Sample.specialRequest.IsMade ∧
      Sample.specialRequest =
        ⟨4294967295, 7, some "name:asc,price", some "50% & ü", ["name:eq:a+b&c=d%20", "", ":"]⟩ ∧
      Sample.specialRequest.IsNormal ∧ Sample.specialRequest.IsExact ∧
      Sample.specialRequest.ReadsBack hexChar := by
  have hmade : Sample.specialRequest.IsMade := .withFilters _ (.ofQueryString _)
  exact ⟨hexDigit?_hexChar, hmade, by decide +kernel, readsBack hexDigit?_hexChar hmade⟩

end ListQuery
