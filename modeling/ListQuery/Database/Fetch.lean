import ListQuery.Database.Conversation
import ListQuery.Json.Document
import ListQuery.Sql.Rendering

/-!
# Answers from a database

The number of rows and the rows of the page are asked for in one transaction, which is given up as
soon as anything fails.

* `Database.transaction` : a session within a transaction.
* `Database.fetchPage` : the rows of the page of a plan, as texts, and the number of all rows.
* `Database.fetchJson` : the same, the rows as JSON values.
* `Database.answer` : what a session gives, as the answer of a store.
* `Database.version` : the version of the server.
-/

namespace ListQuery

namespace Database

/-- A conversation that may end with a fault. -/
abbrev Session := ExceptT DatabaseFault Conversation

variable {α : Type}

/-- Sends a statement; a refusal is a fault. -/
def ask (s : Statement) : Session Reply :=
  ExceptT.mk do
    match ← Conversation.request s with
    | .refused reason => return .error (.refused reason)
    | r => return .ok r

/-- Sends a statement that gives nothing back. -/
def execute (s : Statement) : Session Unit := do
  let _ ← ask s

/-- Asks for a number, one below zero counting as zero. -/
def askNumber (s : Statement) : Session Nat := do
  match ← ask s with
  | .number n => return n.toNat
  | _ => throw .unexpected

/-- Asks for rows. -/
def askRows (s : Statement) : Session (List String) := do
  match (← ask s).texts? with
  | some texts => return texts
  | none => throw .unexpected

/-- Gives a transaction up after a fault, whatever the server replies. -/
def giveUp (fault : DatabaseFault) : Session α :=
  ExceptT.mk do
    let _ ← Conversation.request .rollback
    return .error fault

/-- A session within a transaction. -/
def transaction (body : Session α) : Session α := do
  execute .startTransaction
  tryCatch (do let a ← body; execute .commit; return a) giveUp

/-- Limits the time of each statement, if there is a limit. -/
def limitTime (timeout : Option Nat) : Session Unit :=
  match timeout with
  | some milliseconds => execute (.setTimeout milliseconds)
  | none => return ()

/-- The rows of the page of a plan, each as `decode` reads its text, and the number of all rows. -/
def fetch (timeout : Option Nat) (rows : Sql.Select → Statement) (decode : String → Option α)
    (plan : Plan) : Session (List α × Nat) :=
  transaction do
    limitTime timeout
    let total ← askNumber (.count plan.count)
    match (← askRows (rows plan.select)).mapM decode with
    | some items => return (items, total)
    | none => throw .unexpected

/-- The rows of the page of a plan as texts, and the number of all rows. -/
def fetchPage (timeout : Option Nat) (plan : Plan) : Session (List String × Nat) :=
  fetch timeout .rows some plan

/-- The rows of the page of a plan as JSON values, and the number of all rows. -/
def fetchJson (timeout : Option Nat) (plan : Plan) : Session (List Json × Nat) :=
  fetch timeout .jsonRows Json.read? plan

/-- What a session gives, as the answer of a store.  Its faults are errors of the database. -/
def answer (x : Session α) : Conversation (Except QueryError α) := do
  return (← x.run).mapError .database

/-- The version of the server. -/
def version : Session String := do
  match ← askRows .showVersion with
  | text :: _ => return text
  | [] => throw .unexpected

end Database

end ListQuery
