/-!
# Ordered lists without repetitions

Lists kept in ascending order of a text key, each key occurring once.  With the text itself as key
they are sets of names, with the first part of a pair as key they are maps.

* `Ordered.insertBy` : adds an item, in place of one with the same key.
* `Ordered.ofListBy` : the items of a list, later ones in place of earlier ones.
* `Ordered.find?` : the value under a name in a map.
-/

namespace ListQuery

namespace Ordered

variable {α : Type}

/-- `items` with `a` at its place, instead of an item of the same key. -/
def insertBy (key : α → String) (a : α) : List α → List α
  | [] => [a]
  | b :: rest =>
    if key a < key b then a :: b :: rest
    else if key a = key b then a :: rest
    else b :: insertBy key a rest

/-- `items` with each of `added` inserted, one after the other. -/
def insertAllBy (key : α → String) (items added : List α) : List α :=
  added.foldl (fun items a => insertBy key a items) items

/-- The items of a list in order; of those with one key the last remains. -/
def ofListBy (key : α → String) (items : List α) : List α :=
  insertAllBy key [] items

/-- The set of the names in a list. -/
def ofList (names : List String) : List String :=
  ofListBy id names

/-- The map `entries` with `value` under `name`. -/
def put (name : String) (value : α) (entries : List (String × α)) : List (String × α) :=
  insertBy Prod.fst (name, value) entries

/-- The value under `name`. -/
def find? (name : String) (entries : List (String × α)) : Option α :=
  entries.lookup name

theorem mem_insertBy {key : α → String} {a b : α} {items : List α}
    (h : b ∈ insertBy key a items) : b = a ∨ b ∈ items := by
  induction items with
  | nil => simpa [insertBy] using h
  | cons c rest ih =>
    simp only [insertBy] at h
    split at h
    · simpa using h
    · split at h
      · rcases List.mem_cons.1 h with rfl | h
        · exact .inl rfl
        · exact .inr (List.mem_cons_of_mem _ h)
      · rcases List.mem_cons.1 h with rfl | h
        · exact .inr List.mem_cons_self
        · exact (ih h).imp_right (List.mem_cons_of_mem _)

theorem mem_insertBy_self (key : α → String) (a : α) (items : List α) :
    a ∈ insertBy key a items := by
  induction items with
  | nil => simp [insertBy]
  | cons b rest ih =>
    simp only [insertBy]
    split
    · simp
    · split
      · simp
      · exact List.mem_cons_of_mem _ ih

end Ordered

end ListQuery
