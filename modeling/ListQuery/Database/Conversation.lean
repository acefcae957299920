import ListQuery.Error
import ListQuery.Sql.Statement

/-!
# Conversations with a database server

* `Statement` : what is sent to the server.
* `Reply` : what it answers.
* `Conversation` : a computation that sends statements and goes on with the replies.
* `Conversation.run` : the result with a given server, and the statements sent.
-/

namespace ListQuery

/-- What is sent to the server. -/
inductive Statement where
  /-- Opens a transaction. -/
  | startTransaction
  /-- Sets the limit on the time of a statement, for the transaction. -/
  | setTimeout (milliseconds : Nat)
  /-- Asks for the number of rows. -/
  | count (c : Sql.Count)
  /-- Asks for rows. -/
  | rows (s : Sql.Select)
  /-- Asks for rows, each as a JSON text. -/
  | jsonRows (s : Sql.Select)
  /-- Closes a transaction. -/
  | commit
  /-- Gives a transaction up. -/
  | rollback
  /-- Asks for the version of the server. -/
  | showVersion
deriving Repr

/-- The text of a statement. -/
def Statement.write : Statement → String
  | startTransaction => "BEGIN"
  | setTimeout milliseconds => "SET LOCAL statement_timeout = " ++ toString milliseconds
  | count c => c.write
  | rows s => s.write
  | jsonRows s => "SELECT row_to_json(t) FROM (" ++ s.write ++ ") t"
  | commit => "COMMIT"
  | rollback => "ROLLBACK"
  | showVersion => "SHOW server_version"

/-- What the server answers. -/
inductive Reply where
  /-- The statement was carried out. -/
  | done
  /-- A number. -/
  | number (n : Int)
  /-- Rows, as texts. -/
  | rows (texts : List String)
  /-- The statement was refused, for the given reason. -/
  | refused (reason : String)
deriving DecidableEq, Repr

/-- The rows of a reply, as texts.  A statement that was only carried out has none. -/
def Reply.texts? : Reply → Option (List String)
  | rows texts => some texts
  | done => some []
  | _ => none

/-- A computation that sends statements and goes on with the replies. -/
inductive Conversation (α : Type) where
  /-- It is over. -/
  | finish (a : α)
  /-- It sends a statement and goes on. -/
  | send (s : Statement) (next : Reply → Conversation α)

namespace Conversation

variable {α β : Type}

/-- A conversation followed by another one. -/
def bind (c : Conversation α) (f : α → Conversation β) : Conversation β :=
  match c with
  | finish a => f a
  | send s next => send s fun r => (next r).bind f

instance : Monad Conversation where
  pure := finish
  bind := bind

/-- Sends a statement. -/
def request (s : Statement) : Conversation Reply :=
  send s finish

/-- What a server replies, given all that it was sent, the latest first. -/
abbrev Server := List Statement → Reply

/-- The result of a conversation with a server that was sent `sent` before, the latest first, and
all that was sent. -/
def runAfter (server : Server) (sent : List Statement) : Conversation α → α × List Statement
  | finish a => (a, sent)
  | send s next => runAfter server (s :: sent) (next (server (s :: sent)))

/-- The result of a conversation with a server, and the statements sent, in order. -/
def run (server : Server) (c : Conversation α) : α × List Statement :=
  let (a, sent) := c.runAfter server []
  (a, sent.reverse)

end Conversation

end ListQuery
