import ListQuery.Database.Fetch
import ListQuery.Page
import ListQuery.Store.Matching

/-!
# Answers to list requests

* `Engine.execute` : the page that answers a request, from a store that is asked once, and only for
  a plan.
* `Engine.executeInMemory` : the answer from rows in memory.
* `Engine.executeInDatabase` : the answer from a database.
-/

namespace ListQuery

namespace Engine

variable {m : Type → Type} [Monad m] {α : Type}

/-- What a store gives for a plan: the rows of the page and the number of all rows. -/
abbrev Answer (α : Type) := Except QueryError (List α × Nat)

/-- The page that answers a request: the metadata are checked, the request is planned, and the store
is asked for the rows. -/
def execute (fetch : Plan → m (Answer α)) (metadata : Metadata) (request : Parameters) :
    m (Except QueryError (Page α)) :=
  match Plan.ofValid metadata request with
  | .error e => pure (.error e)
  | .ok plan => do
    return (← fetch plan).map fun found => Page.make found.1 found.2 plan.page plan.pageSize

/-- The page that answers a request from rows in memory, if sorting them does not break off. -/
def executeInMemory (rows : List Json) (metadata : Metadata) (request : Parameters) :
    Option (Except QueryError (Page Json)) :=
  execute (fun plan => (plan.fetch? rows).map .ok) metadata request

/-- The page that answers a request from a database. -/
def executeInDatabase (fetch : Plan → Database.Session (List α × Nat)) (metadata : Metadata)
    (request : Parameters) : Conversation (Except QueryError (Page α)) :=
  execute (fun plan => Database.answer (fetch plan)) metadata request

end Engine

end ListQuery
