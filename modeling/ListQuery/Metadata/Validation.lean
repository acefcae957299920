import ListQuery.Metadata.Path

/-!
# Validity of metadata

* `isIdentifier` : the names that may stand for tables and columns.
* `Metadata.problems` : what is wrong with the metadata of an entity.
* `Metadata.ensureValid` : an error if anything is.
-/

namespace ListQuery

/-- An ASCII letter or an underscore. -/
def isIdentifierStart (c : Char) : Bool :=
  c.isAlpha || c == '_'

/-- An ASCII letter, a decimal digit or an underscore. -/
def isIdentifierChar (c : Char) : Bool :=
  c.isAlphanum || c == '_'

/-- The greatest length of an identifier. -/
def maxIdentifierLength : Nat := 63

/-- Letters, digits and underscores, no digit at the start, at least one and at most 63. -/
def isIdentifier (name : String) : Bool :=
  name.utf8ByteSize ≤ maxIdentifierLength && name.toList.all isIdentifierChar &&
    name.toList.head?.any isIdentifierStart

namespace Metadata

/-- A problem if `name` is no identifier. -/
def unlessIdentifier (name : String) (problem : Problem) : List Problem :=
  if isIdentifier name then [] else [problem]

/-- The problems of a collection. -/
def relationProblems (r : Relation) : List Problem :=
  unlessIdentifier (baseColumn r.name) (.collectionName r.name) ++
    r.identifiers.flatMap fun name => unlessIdentifier name (.identifier r.name name)

/-- The paths that clients may use, in order. -/
def declaredPaths (m : Metadata) : List String :=
  Ordered.ofList (m.searchFields ++ m.filterFields ++ m.sortFields)

/-- The problems of a declared path. -/
def pathProblems (m : Metadata) (path : String) : List Problem :=
  match m.column path with
  | .ok (_, column) => unlessIdentifier column (.column path column)
  | .error fault => [.path m.entity fault]

/-- The problem of a descriptor, if it has one. -/
def descriptorProblems (path : String) (d : Descriptor) : List Problem :=
  if d.type = .enumeration [] then [.emptyEnumeration path] else []

/-- What is wrong with the metadata. -/
def problems (m : Metadata) : List Problem :=
  unlessIdentifier m.table (.table m.table) ++
    unlessIdentifier m.idColumn (.idColumn m.idColumn) ++
    m.collections.flatMap relationProblems ++
    m.declaredPaths.flatMap m.pathProblems ++
    m.fields.flatMap fun p => descriptorProblems p.1 p.2

/-- An error that lists the problems, if there are any. -/
def ensureValid (m : Metadata) : Except QueryError Unit :=
  if m.problems.isEmpty then .ok ()
  else .error (.invalidMetadata m.entity (.problems m.problems))

end Metadata

end ListQuery
