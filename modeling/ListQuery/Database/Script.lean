import ListQuery.Database.Conversation

/-!
# Scripted servers

* `Script` : a server that answers every statement of a kind in the same way.
* `Script.server` : its replies.
-/

namespace ListQuery

/-- The answers of a server. -/
structure Script where
  /-- The number of rows. -/
  total : Int := 0
  /-- The rows. -/
  rows : List String := []
  /-- The version. -/
  version : String := "16.2"
  /-- How the statements start that are refused. -/
  refused : Option String := none
deriving Repr

namespace Script

/-- The reason of a refusal. -/
def reason : String := "canceling statement due to statement timeout"

/-- The statement is one of those refused. -/
def refuses (script : Script) (s : Statement) : Bool :=
  script.refused.any fun front => front.toList.isPrefixOf s.write.toList

/-- The reply to a statement. -/
def reply (script : Script) (s : Statement) : Reply :=
  if script.refuses s then .refused reason
  else
    match s with
    | .count _ => .number script.total
    | .rows _ | .jsonRows _ => .rows script.rows
    | .showVersion => .rows [script.version]
    | _ => .done

/-- The replies of the server. -/
def server (script : Script) : Conversation.Server
  | s :: _ => script.reply s
  | [] => .done

end Script

end ListQuery
