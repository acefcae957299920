import ListQuery.Metadata.Validation
import ListQuery.Proofs.Metadata.Path
import ListQuery.Proofs.Ordered

/-!
# The fields that an entity declares

* `Metadata.Lists` : a field that a list of paths has, as these are resolved;
* `Metadata.Declares` : a field that clients may search, filter or sort by;
* `Metadata.ensureValid_eq_ok_iff` : what the check of metadata finds out.
-/

namespace ListQuery

namespace Metadata

variable {m : Metadata} {path : String} {paths : List String} {field : Field}

/-! ### Declared fields -/

/-- The field is what one of the paths is resolved to. -/
def Lists (m : Metadata) (paths : List String) (field : Field) : Prop :=
  field.path ∈ paths ∧ m.resolve field.path = .ok field

theorem Lists.mono {more : List String} (h : m.Lists paths field) (hsub : paths ⊆ more) :
    m.Lists more field :=
  ⟨hsub h.1, h.2⟩

theorem lists_of_resolve (hmem : path ∈ paths) (h : m.resolve path = .ok field) :
    m.Lists paths field := by
  have hpath := path_of_resolve h
  exact ⟨hpath ▸ hmem, hpath ▸ h⟩

/-- The field is one that clients may search, filter or sort by. -/
def Declares (m : Metadata) (field : Field) : Prop :=
  m.Lists (m.searchFields ++ m.filterFields ++ m.sortFields) field

/-! ### Validity -/

theorem ne_empty_of_isIdentifier {name : String} (h : isIdentifier name = true) : name ≠ "" := by
  rintro rfl
  exact Bool.false_ne_true h

theorem ne_empty_of_isIdentifier_baseColumn {name : String}
    (h : isIdentifier (baseColumn name) = true) : name ≠ "" := by
  rintro rfl
  exact Bool.false_ne_true h

theorem mem_declaredPaths :
    path ∈ m.declaredPaths ↔ path ∈ m.searchFields ++ m.filterFields ++ m.sortFields :=
  Ordered.mem_ofList

theorem unlessIdentifier_eq_nil_iff {name : String} {problem : Problem} :
    unlessIdentifier name problem = [] ↔ isIdentifier name = true := by
  rw [unlessIdentifier]
  split <;> simp [*]

theorem relationProblems_eq_nil_iff {r : Relation} :
    relationProblems r = [] ↔
      isIdentifier (baseColumn r.name) = true ∧
        ∀ name ∈ r.identifiers, isIdentifier name = true := by
  simp [relationProblems, unlessIdentifier_eq_nil_iff]

theorem pathProblems_eq_nil_iff :
    m.pathProblems path = [] ↔
      ∃ field, m.resolve path = .ok field ∧ isIdentifier field.column = true := by
  rw [pathProblems, resolve]
  cases hcolumn : m.column path with
  | error fault => simp
  | ok found => simp [unlessIdentifier_eq_nil_iff]

theorem descriptorProblems_eq_nil_iff {d : Descriptor} :
    descriptorProblems path d = [] ↔ d.type ≠ .enumeration [] := by
  rw [descriptorProblems]
  split <;> simp [*]

/-- **What the check of metadata finds out**: tables and columns are identifiers, every declared
path has a column, and every enumeration has names. -/
theorem ensureValid_eq_ok_iff :
    m.ensureValid = .ok () ↔ isIdentifier m.table = true ∧ isIdentifier m.idColumn = true ∧
      (∀ r ∈ m.collections, isIdentifier (baseColumn r.name) = true ∧
        ∀ name ∈ r.identifiers, isIdentifier name = true) ∧
      (∀ path ∈ m.declaredPaths,
        ∃ field, m.resolve path = .ok field ∧ isIdentifier field.column = true) ∧
      ∀ p ∈ m.fields, p.2.type ≠ .enumeration [] := by
  have hproblems : m.ensureValid = .ok () ↔ m.problems = [] := by
    rw [ensureValid, ← List.isEmpty_iff]
    split <;> simp [*]
  rw [hproblems]
  simp only [problems, List.append_eq_nil_iff, List.flatMap_eq_nil_iff, unlessIdentifier_eq_nil_iff,
    relationProblems_eq_nil_iff, pathProblems_eq_nil_iff, descriptorProblems_eq_nil_iff, and_assoc]

end Metadata

end ListQuery
