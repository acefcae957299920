import ListQuery.Arguments
import ListQuery.Database.Endpoint

/-!
# The program

The program reads the file and the environment, and performs its command.  It has no network of its
own: to a command that needs the database it answers as it does where no server is reached.
-/

namespace ListQuery

/-- The contents of a file, if it can be read. -/
def contents? (path : String) : IO (Option String) := do
  try
    return some (← IO.FS.readFile path)
  catch _ =>
    return none

/-- The environment variables with the given names, as far as they are set. -/
def environmentOf (names : List String) : IO (List (String × String)) :=
  names.filterMapM fun name => return (← IO.getEnv name).map fun value => (name, value)

/-- What surrounds a call of the program. -/
def surroundings (path : String) : IO Surroundings := do
  let entries ← environmentOf Settings.variableNames
  return {
    path := path
    source := ← contents? path
    environment := fun name => entries.lookup name
    connectionFault? := fun url => some (Endpoint.unreachable url) }

/-- Performs a command. -/
def Invocation.perform (i : Invocation) : IO Outcome := do
  let conversation := i.command.perform (← surroundings i.path)
  return (conversation.run fun _ => .done).1

end ListQuery

open ListQuery in
/-- The program. -/
def main (arguments : List String) : IO UInt32 := do
  match Invocation.ofArguments? arguments with
  | none =>
    IO.eprint Invocation.usage
    return 2
  | some i =>
    let outcome ← i.perform
    IO.print outcome.stdout
    IO.eprint outcome.stderr
    return UInt32.ofNat outcome.code
