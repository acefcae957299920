import ListQuery.FieldType
import ListQuery.Filter.Operation
import ListQuery.Text.Split

/-!
# Errors of a list query

Errors are causes; their wording is in the functions `message`.

* `QueryError` : why a query is not answered.
* `QueryError.isClientError` : whether the request is at fault.
* `QueryError.status`, `QueryError.body` : the response to the client.
-/

namespace ListQuery

/-- Why a raw filter is no clause. -/
inductive ClauseFault where
  /-- A colon is missing. -/
  | missingPart
  /-- The field is blank. -/
  | emptyField
  /-- The operation is not known. -/
  | unknownOperation (token : String)
deriving DecidableEq, Repr

/-- The wording of a fault. -/
def ClauseFault.message : ClauseFault → String
  | missingPart => "expected field:operation:value"
  | emptyField => "field name is empty"
  | unknownOperation token => "unknown operation '" ++ token ++ "'"

/-- Why a raw value is no value of a type. -/
inductive ValueFault where
  | notBoolean
  | notInteger
  | notNumber
  | notUuid
  | notTimestamp
  /-- The value is none of the names. -/
  | notOneOf (names : List String)
  /-- A list has no element. -/
  | emptyList
deriving DecidableEq, Repr

/-- The wording of a fault. -/
def ValueFault.message : ValueFault → String
  | notBoolean => "expected true or false"
  | notInteger => "expected an integer"
  | notNumber => "expected a number"
  | notUuid => "expected a UUID"
  | notTimestamp => "expected an ISO-8601 timestamp"
  | notOneOf names => "expected one of " ++ Text.joinWith ", " names
  | emptyList => "IN needs at least one value"

/-- Why a path has no column. -/
inductive PathFault where
  /-- The path names a collection whose elements have no column to compare. -/
  | noElementColumn (collection : String)
  /-- The path goes on behind the field of an element. -/
  | tooDeep (path : String)
deriving DecidableEq, Repr

/-- The wording of a fault. -/
def PathFault.message : PathFault → String
  | noElementColumn collection =>
    "collection '" ++ collection ++ "' has no element column to compare against"
  | tooDeep path => "path '" ++ path ++ "' goes deeper than one collection hop"

/-- The wording of the error that the metadata of an entity are not valid. -/
def invalidMetadataMessage (entity reason : String) : String :=
  "invalid query metadata for '" ++ entity ++ "': " ++ reason

/-- A problem of the metadata of an entity. -/
inductive Problem where
  /-- The table is no identifier. -/
  | table (name : String)
  /-- The identifying column is no identifier. -/
  | idColumn (name : String)
  /-- The name of a collection is no identifier, dots being allowed. -/
  | collectionName (name : String)
  /-- A table or column of a collection is no identifier. -/
  | identifier (collection name : String)
  /-- The column of a declared path is no identifier. -/
  | column (path name : String)
  /-- A declared path has no column. -/
  | path (entity : String) (fault : PathFault)
  /-- An enumeration has no names. -/
  | emptyEnumeration (path : String)
deriving DecidableEq, Repr

/-- The wording of a problem. -/
def Problem.message : Problem → String
  | table name => "table '" ++ name ++ "' is not a valid identifier"
  | idColumn name => "id column '" ++ name ++ "' is not a valid identifier"
  | collectionName name => "collection name '" ++ name ++ "' contains invalid characters"
  | identifier collection name =>
    "collection '" ++ collection ++ "' references invalid identifier '" ++ name ++ "'"
  | column field name => "field '" ++ field ++ "' maps to invalid column '" ++ name ++ "'"
  | path entity fault => invalidMetadataMessage entity fault.message
  | emptyEnumeration field => "enumeration field '" ++ field ++ "' declares no constants"

/-- What is wrong with the metadata of an entity. -/
inductive MetadataFault where
  /-- A path that a request needs has no column. -/
  | path (fault : PathFault)
  /-- The check of the metadata found problems. -/
  | problems (found : List Problem)
deriving DecidableEq, Repr

/-- The wording of a fault. -/
def MetadataFault.message : MetadataFault → String
  | path fault => fault.message
  | problems found => Text.joinWith "; " (found.map Problem.message)

/-- Why the database gave no answer. -/
inductive DatabaseFault where
  /-- The server refused a statement, for the given reason. -/
  | refused (reason : String)
  /-- The server answered, but not in the expected form. -/
  | unexpected
deriving DecidableEq, Repr

/-- Why a query is not answered. -/
inductive QueryError where
  /-- A raw filter is no clause. -/
  | malformedFilter (raw : String) (fault : ClauseFault)
  /-- The entity does not allow filters on the field. -/
  | disallowedField (field : String)
  /-- The raw value is no value of the field. -/
  | invalidValue (field value : String) (fault : ValueFault)
  /-- The operation does not go with the type of the field. -/
  | unsupportedOperation (field : String) (operation : Operation) (type : FieldType)
  /-- The metadata of the entity are at fault. -/
  | invalidMetadata (entity : String) (fault : MetadataFault)
  /-- The database gave no answer. -/
  | database (fault : DatabaseFault)
deriving DecidableEq, Repr

namespace QueryError

/-- The wording of an error. -/
def message : QueryError → String
  | malformedFilter raw fault => "malformed filter '" ++ raw ++ "': " ++ fault.message
  | disallowedField field => "filtering on field '" ++ field ++ "' is not allowed"
  | invalidValue field value fault =>
    "invalid filter value '" ++ value ++ "' for field '" ++ field ++ "': " ++ fault.message
  | unsupportedOperation field operation type =>
    "operation " ++ operation.name ++ " is not supported on " ++ type.name ++ " field '" ++ field ++
      "'"
  | invalidMetadata entity fault => invalidMetadataMessage entity fault.message
  | database _ => "database error"

/-- The request is at fault, not the server. -/
def isClientError : QueryError → Bool
  | malformedFilter .. | disallowedField .. | invalidValue .. | unsupportedOperation .. => true
  | invalidMetadata .. | database .. => false

/-- The status code of the response. -/
def status (e : QueryError) : Nat :=
  if e.isClientError then 400 else 500

/-- The text of the response.  What is wrong on the server's side is not told. -/
def body (e : QueryError) : String :=
  if e.isClientError then e.message else "internal server error"

end QueryError

end ListQuery
