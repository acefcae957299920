import ListQuery.Command

/-!
# Arguments of the program

* `Invocation` : a command and the file with the metadata that it is about.
* `Invocation.ofArguments?` : what the arguments of the program ask for.

An option is written `--name value` or `--name=value`, a flag `--name`, each at most once.
-/

namespace ListQuery

/-- The values of the options. -/
structure Options where
  /-- The path of the file with the metadata. -/
  metadata : Option String := none
  /-- The query string of a request. -/
  query : Option String := none
  /-- The database is to be checked too. -/
  database : Bool := false
deriving DecidableEq, Repr

namespace Options

/-- The words of an argument: an option with a value is two words. -/
def words (argument : String) : List String :=
  match Text.dropFront? ['-', '-'] argument.toList, Text.cut? '=' argument.toList with
  | some _, some (name, value) => [String.ofList name, String.ofList value]
  | _, _ => [argument]

/-- The options that `words` add to `o`; `none` if one is not known, has no value or is repeated. -/
def add? (o : Options) : List String → Option Options
  | [] => some o
  | "--metadata" :: value :: rest =>
    if o.metadata.isNone then add? { o with metadata := some value } rest else none
  | "--query" :: value :: rest =>
    if o.query.isNone then add? { o with query := some value } rest else none
  | "--database" :: rest => if o.database then none else add? { o with database := true } rest
  | _ => none

/-- The options that arguments give. -/
def read? (arguments : List String) : Option Options :=
  add? {} (arguments.flatMap words)

end Options

/-- What the program is called for. -/
structure Invocation where
  /-- The path of the file with the metadata. -/
  path : String
  /-- What is to be done. -/
  command : Command
deriving DecidableEq, Repr

namespace Invocation

/-- The command with a given name, if it takes the options that are given. -/
def command? (name : String) (o : Options) : Option Command :=
  match name with
  | "explain" => if o.database then none else some (.explain (o.query.getD ""))
  | "run" => if o.database then none else some (.run (o.query.getD ""))
  | "check" => if o.query.isSome then none else some (.check o.database)
  | _ => none

/-- What the arguments of the program ask for. -/
def ofArguments? : List String → Option Invocation
  | [] => none
  | name :: arguments => do
    let o ← Options.read? arguments
    return ⟨← o.metadata, ← command? name o⟩

/-- How the program is called. -/
def usage : String :=
  "usage: explain --metadata FILE [--query QUERY]\n" ++
  "       run --metadata FILE [--query QUERY]\n" ++
  "       check --metadata FILE [--database]\n"

end Invocation

end ListQuery
