import ListQuery.Metadata.Path
import Mathlib.Data.List.Induction
import Mathlib.Data.List.Nodup
import Mathlib.Data.List.TakeWhile

/-!
# What a path denotes

A path goes through a collection whose name it is, or begins with in front of a dot.  Of several
such names the longest counts, and what follows it says which column of the elements is meant.

* `Metadata.GoesThrough`, `Metadata.IsLongest` : the collections that a path goes through, and the
  one that counts;
* `Metadata.relationFor?_eq_some_iff`, `Metadata.relationFor?_eq_none_iff` : it is the one that is
  found;
* `Metadata.Describes`, `Metadata.GivesColumn`, `Metadata.HasType` : the descriptor that stands under
  a path, and what it says;
* `Metadata.Denotes` : what a path denotes, or why it denotes nothing;
* `Metadata.resolve_eq_iff` : paths are resolved to what they denote;
* `Metadata.collection_of_resolve`, `Metadata.exists_relation_of_resolve` : collections of fields
  are those that their paths go through, and so those of the entity;
* `Metadata.exists_base_iff` : the paths that stay in the base table.
-/

namespace ListQuery

theorem Relation.filter_name_eq_singleton {rs : List Relation} {r : Relation}
    (hnames : (rs.map Relation.name).Nodup) (hr : r ∈ rs) :
    rs.filter (·.name == r.name) = [r] := by
  have hsame : ∀ other ∈ rs, (other.name == r.name) = (other == r) := by
    intro other hother
    rw [Bool.eq_iff_iff, beq_iff_eq, beq_iff_eq]
    exact ⟨List.inj_on_of_nodup_map hnames hother hr, congrArg Relation.name⟩
  rw [List.filter_congr hsame, List.filter_beq, List.count_eq_one_of_mem hnames.of_map hr]
  rfl

namespace Metadata

variable {m : Metadata} {r s : Relation} {rs : List Relation} {name other path : String}
  {field : Field}

/-! ### Going through a collection -/

/-- The name is the whole path, or is followed in it by a dot. -/
def GoesThrough (name path : String) : Prop :=
  path = name ∨ ∃ rest, path = name ++ "." ++ rest

theorem remainder?_eq_some_iff {rest : List Char} :
    remainder? name path = some rest ↔
      path.toList = name.toList ++ rest ∧ (rest = [] ∨ ∃ tail, rest = '.' :: tail) := by
  rw [← Text.dropFront?_eq_some_iff, remainder?]
  split
  case h_1 h =>
    rw [h]
    constructor
    · rintro ⟨⟩
      exact ⟨rfl, .inl rfl⟩
    · rintro ⟨⟨⟩, -⟩
      rfl
  case h_2 tail h =>
    rw [h]
    constructor
    · rintro ⟨⟩
      exact ⟨rfl, .inr ⟨tail, rfl⟩⟩
    · rintro ⟨⟨⟩, -⟩
      rfl
  case h_3 hempty hdot =>
    constructor
    · rintro ⟨⟩
    · rintro ⟨h, rfl | ⟨tail, rfl⟩⟩
      · exact absurd h hempty
      · exact absurd h (hdot tail)

theorem isSome_remainder?_iff : (remainder? name path).isSome = true ↔ GoesThrough name path := by
  simp only [Option.isSome_iff_exists, remainder?_eq_some_iff]
  constructor
  · rintro ⟨rest, hpath, rfl | ⟨tail, rfl⟩⟩
    · exact .inl (String.toList_inj.1 (hpath.trans (List.append_nil _)))
    · refine .inr ⟨String.ofList tail, String.toList_inj.1 ?_⟩
      rw [hpath, String.toList_append, String.toList_append, String.toList_ofList,
        String.toList_ofList, List.append_assoc, List.singleton_append]
  · rintro (rfl | ⟨rest, rfl⟩)
    · exact ⟨[], (List.append_nil _).symm, .inl rfl⟩
    · refine ⟨'.' :: rest.toList, ?_, .inr ⟨rest.toList, rfl⟩⟩
      rw [String.toList_append, String.toList_append, List.append_assoc]
      rfl

theorem GoesThrough.isPrefix (h : GoesThrough name path) : name.toList <+: path.toList := by
  obtain ⟨rest, hrest⟩ := Option.isSome_iff_exists.1 (isSome_remainder?_iff.2 h)
  exact ⟨rest, (remainder?_eq_some_iff.1 hrest).1.symm⟩

/-- Of names that one path goes through, the one with more bytes has more characters. -/
theorem GoesThrough.length_le (h : GoesThrough name path) (hother : GoesThrough other path)
    (hsize : name.utf8ByteSize ≤ other.utf8ByteSize) : name.length ≤ other.length := by
  rw [← String.length_toList, ← String.length_toList]
  obtain hle | ⟨rest, hrest⟩ := List.prefix_or_prefix_of_prefix h.isPrefix hother.isPrefix
  · exact hle.length_le
  · have hname : name = other ++ String.ofList rest := by
      rw [← String.toList_inj, String.toList_append, String.toList_ofList, hrest]
    have hempty : (String.ofList rest).utf8ByteSize = 0 := by
      rw [hname, String.utf8ByteSize_append] at hsize
      omega
    rw [hname, String.utf8ByteSize_eq_zero_iff.1 hempty, String.append_empty]

theorem GoesThrough.eq_of_length_eq (h : GoesThrough name path) (hother : GoesThrough other path)
    (hlength : name.length = other.length) : name = other := by
  rw [← String.length_toList, ← String.length_toList] at hlength
  obtain hfront | hfront := List.prefix_or_prefix_of_prefix h.isPrefix hother.isPrefix
  · exact String.toList_inj.1 (hfront.eq_of_length hlength)
  · exact (String.toList_inj.1 (hfront.eq_of_length hlength.symm)).symm

/-! ### The longest name -/

/-- The relation has the longest name that the path goes through, and is the last of that name. -/
structure IsLongest (m : Metadata) (path : String) (r : Relation) : Prop where
  /-- The path goes through the relation. -/
  through : GoesThrough r.name path
  /-- No relation that it goes through has a longer name. -/
  longest : ∀ other ∈ m.collections, GoesThrough other.name path →
    other.name.length ≤ r.name.length
  /-- The relation is the last that is declared under its name. -/
  last : (m.collections.filter (·.name == r.name)).getLast? = some r

theorem IsLongest.mem (h : m.IsLongest path r) : r ∈ m.collections :=
  List.mem_of_mem_filter (List.mem_of_getLast? h.last)

theorem IsLongest.unique (hr : m.IsLongest path r) (hs : m.IsLongest path s) : r = s := by
  have hlength : r.name.length = s.name.length :=
    Nat.le_antisymm (hs.longest r hr.mem hr.through) (hr.longest s hs.mem hs.through)
  have hname := hr.through.eq_of_length_eq hs.through hlength
  have hlast := hr.last
  rw [hname, hs.last] at hlast
  exact (Option.some.inj hlast).symm

theorem isSome_longerName (best : Option Relation) (r : Relation) :
    (longerName best r).isSome = true := by
  unfold longerName
  split
  · rfl
  · split <;> rfl

theorem foldl_longerName_eq_none_iff : rs.foldl longerName none = none ↔ rs = [] := by
  cases rs using List.reverseRecOn with
  | nil => exact ⟨fun _ => rfl, fun _ => rfl⟩
  | append_singleton rs s =>
    rw [List.foldl_concat]
    refine iff_of_false ?_ (List.concat_ne_nil s rs)
    exact Option.isSome_iff_ne_none.1 (isSome_longerName _ s)

/-- The longer of two names is kept, the second if they are equally long. -/
theorem longerName_some_eq_some {best : Relation} (h : longerName (some best) s = some r) :
    r = best ∧ s.name.utf8ByteSize < best.name.utf8ByteSize ∨
      r = s ∧ best.name.utf8ByteSize ≤ s.name.utf8ByteSize := by
  simp only [longerName] at h
  split at h
  case isTrue hshorter => exact .inl ⟨(Option.some.inj h).symm, hshorter⟩
  case isFalse hlonger => exact .inr ⟨(Option.some.inj h).symm, Nat.le_of_not_lt hlonger⟩

/-- The last of the relations with the longest name is found. -/
theorem foldl_longerName_eq_some (h : rs.foldl longerName none = some r) :
    (∀ other ∈ rs, other.name.utf8ByteSize ≤ r.name.utf8ByteSize) ∧
      (rs.filter (·.name == r.name)).getLast? = some r := by
  -- The longest name so far is compared with one more at the end.
  induction rs using List.reverseRecOn generalizing r with
  | nil => cases h
  | append_singleton rs s ih =>
    rw [List.foldl_concat] at h
    have hkept : [s].filter (·.name == s.name) = [s] := by simp
    have hlast : ((rs ++ [s]).filter (·.name == s.name)).getLast? = some s := by
      rw [List.filter_append, hkept, List.getLast?_concat]
    cases hbest : rs.foldl longerName none with
    | none =>
      rw [hbest] at h
      cases h
      rw [foldl_longerName_eq_none_iff.1 hbest] at hlast ⊢
      exact ⟨by simp, hlast⟩
    | some best =>
      rw [hbest] at h
      obtain ⟨hsizes, hbestLast⟩ := ih hbest
      simp only [List.forall_mem_append, List.forall_mem_singleton]
      obtain ⟨rfl, hshorter⟩ | ⟨rfl, hlonger⟩ := longerName_some_eq_some h
      · have hname : s.name ≠ r.name := by
          intro hname
          rw [hname] at hshorter
          exact lt_irrefl _ hshorter
        have hdropped : [s].filter (·.name == r.name) = [] := by simpa using hname
        refine ⟨⟨hsizes, le_of_lt hshorter⟩, ?_⟩
        rw [List.filter_append, hdropped, List.append_nil]
        exact hbestLast
      · exact ⟨⟨fun other hother => le_trans (hsizes other hother) hlonger, le_rfl⟩, hlast⟩

theorem relationFor?_eq_none_iff :
    m.relationFor? path = none ↔ ∀ r ∈ m.collections, ¬ GoesThrough r.name path := by
  rw [relationFor?, foldl_longerName_eq_none_iff, List.filter_eq_nil_iff]
  simp only [isSome_remainder?_iff]

theorem isLongest_of_relationFor? (h : m.relationFor? path = some r) : m.IsLongest path r := by
  obtain ⟨hsizes, hlast⟩ := foldl_longerName_eq_some h
  have hfound := List.mem_of_mem_filter (List.mem_of_getLast? hlast)
  have hthrough : GoesThrough r.name path := isSome_remainder?_iff.1 (List.mem_filter.1 hfound).2
  refine ⟨hthrough, fun other hmem hother => ?_, ?_⟩
  · exact hother.length_le hthrough
      (hsizes other (List.mem_filter.2 ⟨hmem, isSome_remainder?_iff.2 hother⟩))
  · -- The path goes through all relations of that name, so that none of them is left out.
    rw [List.filter_filter] at hlast
    rw [← hlast]
    refine congrArg _ (List.filter_congr fun other _ => ?_)
    rw [Bool.eq_iff_iff, Bool.and_eq_true, beq_iff_eq]
    refine ⟨fun hname => ⟨hname, ?_⟩, And.left⟩
    rw [hname]
    exact isSome_remainder?_iff.2 hthrough

/-- **A path is found to go through the collection with the longest name.** -/
theorem relationFor?_eq_some_iff : m.relationFor? path = some r ↔ m.IsLongest path r := by
  refine ⟨isLongest_of_relationFor?, fun h => ?_⟩
  cases hfound : m.relationFor? path with
  | none => exact absurd h.through (relationFor?_eq_none_iff.1 hfound r h.mem)
  | some s => rw [h.unique (isLongest_of_relationFor? hfound)]

theorem mem_collections_of_relationFor? (h : m.relationFor? path = some r) : r ∈ m.collections :=
  (relationFor?_eq_some_iff.1 h).mem

/-! ### What follows the name -/

/-- Dots aside, the rest follows the name in the path. -/
def Behind (name path rest : String) : Prop :=
  (∃ n, path = name ++ String.ofList (List.replicate n '.') ++ rest) ∧
    rest.toList.head? ≠ some '.'

theorem exists_behind (h : GoesThrough name path) : ∃ rest, Behind name path rest := by
  obtain ⟨rest, hrest⟩ := h.isPrefix
  have hdots : rest.takeWhile (· == '.') =
      List.replicate (rest.takeWhile (· == '.')).length '.' := by
    refine List.eq_replicate_iff.2 ⟨rfl, fun c hc => ?_⟩
    exact beq_iff_eq.1 (List.mem_takeWhile_imp (p := fun c => c == '.') hc)
  refine ⟨String.ofList (rest.dropWhile (· == '.')), ⟨(rest.takeWhile (· == '.')).length, ?_⟩,
    fun hdot => ?_⟩
  · rw [← String.toList_inj, String.toList_append, String.toList_append, String.toList_ofList,
      String.toList_ofList, ← hdots, List.append_assoc, List.takeWhile_append_dropWhile, hrest]
  · rw [String.toList_ofList] at hdot
    have hother := List.head?_dropWhile_not (· == '.') rest
    rw [hdot] at hother
    cases hother

/-- What follows the name without its dots is what the column of the elements is told from. -/
theorem dropWhile_remainder? {rest : String} (h : GoesThrough name path)
    (hrest : Behind name path rest) :
    ((remainder? name path).getD []).dropWhile (· == '.') = rest.toList := by
  obtain ⟨found, hfound⟩ := Option.isSome_iff_exists.1 (isSome_remainder?_iff.2 h)
  obtain ⟨⟨n, hpath⟩, hhead⟩ := hrest
  have hsplit : name.toList ++ found =
      name.toList ++ (List.replicate n '.' ++ rest.toList) := by
    rw [← (remainder?_eq_some_iff.1 hfound).1, hpath, String.toList_append, String.toList_append,
      String.toList_ofList, List.append_assoc]
  rw [hfound, Option.getD_some, List.append_cancel_left hsplit,
    List.dropWhile_append_of_pos fun c hc => beq_iff_eq.2 (List.eq_of_mem_replicate hc)]
  cases hchars : rest.toList with
  | nil => rfl
  | cons c cs =>
    rw [hchars, List.head?_cons] at hhead
    exact List.dropWhile_cons_of_neg fun hdot => hhead (congrArg some (beq_iff_eq.1 hdot))

theorem elementColumn_eq {rest : String} (h : GoesThrough r.name path)
    (hrest : Behind r.name path rest) :
    elementColumn r path =
      if rest = "" then r.elementColumn.elim (.error (.noElementColumn r.name)) .ok
      else if '.' ∈ rest.toList then .error (.tooDeep path)
      else .ok rest := by
  rw [elementColumn, dropWhile_remainder? h hrest]
  simp only [List.isEmpty_iff, String.toList_eq_nil_iff, List.contains_iff_mem,
    String.ofList_toList]

/-! ### Descriptors -/

/-- The descriptor stands under the path: it is that of the first entry with the path. -/
def Describes (m : Metadata) (path : String) (d : Descriptor) : Prop :=
  ∃ front back, m.fields = front ++ (path, d) :: back ∧ ∀ entry ∈ front, entry.1 ≠ path

/-- The descriptor of the path names the column. -/
def GivesColumn (m : Metadata) (path column : String) : Prop :=
  ∃ d, m.Describes path d ∧ d.column = some column

/-- The type of a path: that of its descriptor, text if it has none. -/
inductive HasType (m : Metadata) (path : String) : FieldType → Prop where
  | described {d : Descriptor} (h : m.Describes path d) : m.HasType path d.type
  | undescribed (h : ∀ d, ¬ m.Describes path d) : m.HasType path .text

theorem find?_fields_eq_some_iff {d : Descriptor} :
    Ordered.find? path m.fields = some d ↔ m.Describes path d := by
  rw [Ordered.find?, List.lookup_eq_some_iff, Describes]
  simp only [bne_iff_ne, ne_comm]

theorem find?_fields_eq_none_iff :
    Ordered.find? path m.fields = none ↔ ∀ d, ¬ m.Describes path d := by
  simp only [Option.eq_none_iff_forall_ne_some, Ne, find?_fields_eq_some_iff]

theorem explicitColumn?_eq_some_iff {column : String} :
    m.explicitColumn? path = some column ↔ m.GivesColumn path column := by
  simp only [explicitColumn?, Option.bind_eq_some_iff, find?_fields_eq_some_iff, GivesColumn]

theorem explicitColumn?_eq_none_iff :
    m.explicitColumn? path = none ↔ ∀ column, ¬ m.GivesColumn path column := by
  simp only [Option.eq_none_iff_forall_ne_some, Ne, explicitColumn?_eq_some_iff]

theorem hasType_fieldType (m : Metadata) (path : String) : m.HasType path (m.fieldType path) := by
  rw [fieldType]
  cases hfind : Ordered.find? path m.fields with
  | none => exact .undescribed (find?_fields_eq_none_iff.1 hfind)
  | some d => exact .described (find?_fields_eq_some_iff.1 hfind)

theorem fieldType_eq_of_hasType {type : FieldType} (h : m.HasType path type) :
    m.fieldType path = type := by
  cases h with
  | described h => rw [fieldType, find?_fields_eq_some_iff.2 h, Option.elim_some]
  | undescribed h => rw [fieldType, find?_fields_eq_none_iff.2 h, Option.elim_none]

/-! ### What a path denotes -/

theorem baseColumn_eq_map (path : String) :
    baseColumn path = path.map fun c => if c = '.' then '_' else c := by
  rw [← String.toList_inj, baseColumn, String.toList_ofList, String.toList_map, Text.replaceChar,
    ← List.flatMap_singleton' (path.toList.map _), List.flatMap_map]
  refine congrArg (path.toList.flatMap ·) (funext fun c => ?_)
  split <;> rfl

/-- What a path denotes: a field of the base table, a column of the elements of a collection, or
nothing, for one of two reasons. -/
inductive Denotes (m : Metadata) (path : String) : Except QueryError Field → Prop where
  /-- Without a collection, the path is given its column. -/
  | given {column : String} {type : FieldType} (htype : m.HasType path type)
      (hbase : ∀ r ∈ m.collections, ¬ GoesThrough r.name path)
      (hcolumn : m.GivesColumn path column) :
      m.Denotes path (.ok ⟨path, none, column, type⟩)
  /-- Without a collection, the path is itself the column, with `_` for the dots. -/
  | base {type : FieldType} (htype : m.HasType path type)
      (hbase : ∀ r ∈ m.collections, ¬ GoesThrough r.name path)
      (hcolumn : ∀ column, ¬ m.GivesColumn path column) :
      m.Denotes path (.ok ⟨path, none, path.map fun c => if c = '.' then '_' else c, type⟩)
  /-- Through a collection, the path is given its column. -/
  | givenElement {r : Relation} {column : String} {type : FieldType} (htype : m.HasType path type)
      (hr : m.IsLongest path r) (hcolumn : m.GivesColumn path column) :
      m.Denotes path (.ok ⟨path, some r.name, column, type⟩)
  /-- The path names a collection, whose elements have a column for themselves. -/
  | element {r : Relation} {column : String} {type : FieldType} (htype : m.HasType path type)
      (hr : m.IsLongest path r) (hcolumn : ∀ column, ¬ m.GivesColumn path column)
      (hrest : Behind r.name path "") (helement : r.elementColumn = some column) :
      m.Denotes path (.ok ⟨path, some r.name, column, type⟩)
  /-- The path names a collection, whose elements have no such column. -/
  | noElementColumn {r : Relation} (hr : m.IsLongest path r)
      (hcolumn : ∀ column, ¬ m.GivesColumn path column) (hrest : Behind r.name path "")
      (helement : r.elementColumn = none) :
      m.Denotes path (.error (.invalidMetadata m.entity (.path (.noElementColumn r.name))))
  /-- One segment follows the name of a collection. -/
  | segment {r : Relation} {rest : String} {type : FieldType} (htype : m.HasType path type)
      (hr : m.IsLongest path r) (hcolumn : ∀ column, ¬ m.GivesColumn path column)
      (hrest : Behind r.name path rest) (hne : rest ≠ "") (hdot : '.' ∉ rest.toList) :
      m.Denotes path (.ok ⟨path, some r.name, rest, type⟩)
  /-- More than one segment follows the name of a collection. -/
  | tooDeep {r : Relation} {rest : String} (hr : m.IsLongest path r)
      (hcolumn : ∀ column, ¬ m.GivesColumn path column) (hrest : Behind r.name path rest)
      (hdot : '.' ∈ rest.toList) :
      m.Denotes path (.error (.invalidMetadata m.entity (.path (.tooDeep path))))

/-- A path without a collection is resolved to its own column, or the one it is given. -/
theorem resolve_of_base (hbase : ∀ r ∈ m.collections, ¬ GoesThrough r.name path) :
    m.resolve path =
      .ok ⟨path, none, (m.explicitColumn? path).getD (baseColumn path), m.fieldType path⟩ := by
  simp only [resolve, column, relationFor?_eq_none_iff.2 hbase]

theorem resolve_of_isLongest_of_given {column : String} (hr : m.IsLongest path r)
    (hcolumn : m.explicitColumn? path = some column) :
    m.resolve path = .ok ⟨path, some r.name, column, m.fieldType path⟩ := by
  simp only [resolve, Metadata.column, relationFor?_eq_some_iff.2 hr, hcolumn]

theorem resolve_of_isLongest {rest : String} (hr : m.IsLongest path r)
    (hcolumn : m.explicitColumn? path = none) (hrest : Behind r.name path rest) :
    m.resolve path =
      if rest = "" then
        r.elementColumn.elim (.error (.invalidMetadata m.entity (.path (.noElementColumn r.name))))
          fun column => .ok ⟨path, some r.name, column, m.fieldType path⟩
      else if '.' ∈ rest.toList then .error (.invalidMetadata m.entity (.path (.tooDeep path)))
      else .ok ⟨path, some r.name, rest, m.fieldType path⟩ := by
  simp only [resolve, column, relationFor?_eq_some_iff.2 hr, hcolumn,
    elementColumn_eq hr.through hrest]
  by_cases hempty : rest = ""
  · simp only [if_pos hempty]
    cases r.elementColumn <;> rfl
  · simp only [if_neg hempty]
    by_cases hdot : '.' ∈ rest.toList
    · simp only [if_pos hdot]
      rfl
    · simp only [if_neg hdot]
      rfl

theorem denotes_resolve (m : Metadata) (path : String) : m.Denotes path (m.resolve path) := by
  have htype := hasType_fieldType m path
  cases hfound : m.relationFor? path with
  | none =>
    have hbase := relationFor?_eq_none_iff.1 hfound
    rw [resolve_of_base hbase]
    cases hcolumn : m.explicitColumn? path with
    | none =>
      rw [Option.getD_none, baseColumn_eq_map]
      exact .base htype hbase (explicitColumn?_eq_none_iff.1 hcolumn)
    | some column => exact .given htype hbase (explicitColumn?_eq_some_iff.1 hcolumn)
  | some r =>
    have hr := relationFor?_eq_some_iff.1 hfound
    cases hcolumn : m.explicitColumn? path with
    | some column =>
      rw [resolve_of_isLongest_of_given hr hcolumn]
      exact .givenElement htype hr (explicitColumn?_eq_some_iff.1 hcolumn)
    | none =>
      have hgiven := explicitColumn?_eq_none_iff.1 hcolumn
      obtain ⟨rest, hrest⟩ := exists_behind hr.through
      rw [resolve_of_isLongest hr hcolumn hrest]
      split
      case isTrue hempty =>
        rw [hempty] at hrest
        cases helement : r.elementColumn with
        | none => exact .noElementColumn hr hgiven hrest helement
        | some column => exact .element htype hr hgiven hrest helement
      case isFalse hne =>
        split
        case isTrue hdot => exact .tooDeep hr hgiven hrest hdot
        case isFalse hdot => exact .segment htype hr hgiven hrest hne hdot

theorem resolve_eq_of_denotes {result : Except QueryError Field} (h : m.Denotes path result) :
    m.resolve path = result := by
  cases h with
  | given htype hbase hcolumn =>
    rw [resolve_of_base hbase, explicitColumn?_eq_some_iff.2 hcolumn, fieldType_eq_of_hasType htype]
    rfl
  | base htype hbase hcolumn =>
    rw [resolve_of_base hbase, explicitColumn?_eq_none_iff.2 hcolumn, Option.getD_none,
      baseColumn_eq_map, fieldType_eq_of_hasType htype]
  | givenElement htype hr hcolumn =>
    rw [resolve_of_isLongest_of_given hr (explicitColumn?_eq_some_iff.2 hcolumn),
      fieldType_eq_of_hasType htype]
  | element htype hr hcolumn hrest helement =>
    rw [resolve_of_isLongest hr (explicitColumn?_eq_none_iff.2 hcolumn) hrest, if_pos rfl, helement,
      fieldType_eq_of_hasType htype]
    rfl
  | noElementColumn hr hcolumn hrest helement =>
    rw [resolve_of_isLongest hr (explicitColumn?_eq_none_iff.2 hcolumn) hrest, if_pos rfl, helement]
    rfl
  | segment htype hr hcolumn hrest hne hdot =>
    rw [resolve_of_isLongest hr (explicitColumn?_eq_none_iff.2 hcolumn) hrest, if_neg hne,
      if_neg hdot, fieldType_eq_of_hasType htype]
  | tooDeep hr hcolumn hrest hdot =>
    have hne : ∀ rest : String, '.' ∈ rest.toList → rest ≠ "" := by
      rintro rest hdot rfl
      cases hdot
    rw [resolve_of_isLongest hr (explicitColumn?_eq_none_iff.2 hcolumn) hrest,
      if_neg (hne _ hdot), if_pos hdot]

/-- **Paths are resolved to what they denote.** -/
theorem resolve_eq_iff {result : Except QueryError Field} :
    m.resolve path = result ↔ m.Denotes path result :=
  ⟨fun h => h ▸ denotes_resolve m path, resolve_eq_of_denotes⟩

theorem path_of_resolve (h : m.resolve path = .ok field) : field.path = path := by
  cases resolve_eq_iff.1 h <;> rfl

theorem collection_of_resolve (h : m.resolve path = .ok field) :
    field.collection = (m.relationFor? path).map Relation.name := by
  cases resolve_eq_iff.1 h with
  | given _ hbase | base _ hbase =>
    rw [relationFor?_eq_none_iff.2 hbase]
    rfl
  | givenElement _ hr | element _ hr | segment _ hr =>
    rw [relationFor?_eq_some_iff.2 hr]
    rfl

theorem exists_relation_of_resolve (h : m.resolve path = .ok field) {name : String}
    (hname : field.collection = some name) : ∃ r ∈ m.collections, r.name = name := by
  rw [collection_of_resolve h, Option.map_eq_some_iff] at hname
  obtain ⟨r, hr, rfl⟩ := hname
  exact ⟨r, mem_collections_of_relationFor? hr, rfl⟩

/-- A path is resolved to a field of the base table just if it goes through no collection. -/
theorem exists_base_iff :
    (∃ field, m.resolve path = .ok field ∧ field.collection = none) ↔
      ∀ r ∈ m.collections, ¬ GoesThrough r.name path := by
  constructor
  · rintro ⟨field, hfield, hnone⟩
    rw [collection_of_resolve hfield, Option.map_eq_none_iff] at hnone
    exact relationFor?_eq_none_iff.1 hnone
  · intro hbase
    exact ⟨_, resolve_of_base hbase, rfl⟩

end Metadata

end ListQuery
