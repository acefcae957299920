import ListQuery.Database.Fetch

/-!
# How sessions go

What a session gives and sends with a server, step by step.

* `Database.after` : the result of a session, and all that was sent by then;
* `Database.after_bind` : one step after another;
* `Database.after_askNumber`, `Database.after_askRows` : a statement and what its reply counts for;
* `Database.after_transaction_ok`, `Database.after_transaction_error` : a transaction, carried
  through or given up.
-/

namespace ListQuery

variable {α β : Type} {server : Conversation.Server} {sent sent' : List Statement}

theorem Conversation.runAfter_bind (c : Conversation α) (f : α → Conversation β) :
    (c >>= f).runAfter server sent =
      (f (c.runAfter server sent).1).runAfter server (c.runAfter server sent).2 := by
  induction c generalizing sent with
  | finish a => rfl
  | send s next ih => exact ih (server (s :: sent))

namespace Database

/-- The result of a session with a server that was sent `sent` before, the latest first, and all
that was sent by the end of it. -/
def after (server : Conversation.Server) (sent : List Statement) (x : Session α) :
    Except DatabaseFault α × List Statement :=
  Conversation.runAfter server sent x.run

variable {s : Statement} {x : Session α} {f : α → Session β} {a : α} {fault : DatabaseFault}

/-! ### Steps -/

theorem runAfter_answer : (answer x).runAfter server sent =
    ((after server sent x).1.mapError .database, (after server sent x).2) :=
  Conversation.runAfter_bind x.run _

theorem after_bind : after server sent (x >>= f) =
    match after server sent x with
    | (.ok a, sent') => after server sent' (f a)
    | (.error fault, sent') => (.error fault, sent') := by
  refine (Conversation.runAfter_bind x.run _).trans ?_
  unfold after
  rcases Conversation.runAfter server sent x.run with ⟨fault | a, sent'⟩ <;> rfl

theorem after_bind_ok (h : after server sent x = (.ok a, sent')) :
    after server sent (x >>= f) = after server sent' (f a) := by
  rw [after_bind, h]

theorem after_bind_error (h : after server sent x = (.error fault, sent')) :
    after server sent (x >>= f) = (.error fault, sent') := by
  rw [after_bind, h]

theorem after_ask {reply : Reply} (h : server (s :: sent) = reply)
    (hreply : ∀ reason, reply ≠ .refused reason) :
    after server sent (ask s) = (.ok reply, s :: sent) := by
  have hsend : Conversation.runAfter server sent (Conversation.request s) = (reply, s :: sent) := by
    rw [← h]
    rfl
  refine (Conversation.runAfter_bind (Conversation.request s) _).trans ?_
  rw [hsend]
  cases reply with
  | refused reason => exact absurd rfl (hreply reason)
  | _ => rfl

theorem after_ask_refused {reason : String} (h : server (s :: sent) = .refused reason) :
    after server sent (ask s) = (.error (.refused reason), s :: sent) := by
  have hsend : Conversation.runAfter server sent (Conversation.request s) =
      (.refused reason, s :: sent) := by
    rw [← h]
    rfl
  refine (Conversation.runAfter_bind (Conversation.request s) _).trans ?_
  rw [hsend]
  rfl

theorem after_execute (h : server (s :: sent) = .done) :
    after server sent (execute s) = (.ok (), s :: sent) := by
  rw [execute, after_bind_ok (after_ask h nofun)]
  rfl

theorem after_askNumber {n : Int} (h : server (s :: sent) = .number n) :
    after server sent (askNumber s) = (.ok n.toNat, s :: sent) := by
  rw [askNumber, after_bind_ok (after_ask h nofun)]
  rfl

theorem after_askRows_ok {texts : List String} (h : (server (s :: sent)).texts? = some texts) :
    after server sent (askRows s) = (.ok texts, s :: sent) := by
  have hne : ∀ reason, server (s :: sent) ≠ .refused reason := by
    rintro reason hreply
    rw [hreply] at h
    cases h
  rw [askRows, after_bind_ok (after_ask rfl hne), h]
  rfl

theorem after_askRows {texts : List String} (h : server (s :: sent) = .rows texts) :
    after server sent (askRows s) = (.ok texts, s :: sent) :=
  after_askRows_ok (by rw [h]; rfl)

theorem after_askRows_error (h : (server (s :: sent)).texts? = none) :
    ∃ fault, after server sent (askRows s) = (.error fault, s :: sent) := by
  by_cases hreply : ∃ reason, server (s :: sent) = .refused reason
  · obtain ⟨reason, hreply⟩ := hreply
    exact ⟨_, after_bind_error (after_ask_refused hreply)⟩
  · refine ⟨.unexpected, ?_⟩
    rw [askRows, after_bind_ok (after_ask rfl (not_exists.1 hreply)), h]
    rfl

theorem after_limitTime (timeout : Option Nat)
    (h : ∀ milliseconds, server (.setTimeout milliseconds :: sent) = .done) :
    after server sent (limitTime timeout) = (.ok (), timeout.toList.map .setTimeout ++ sent) := by
  cases timeout with
  | none => rfl
  | some milliseconds => exact after_execute (h milliseconds)

/-! ### Transactions -/

variable {body : Session α}

theorem after_tryCatch {handle : DatabaseFault → Session α} :
    after server sent (tryCatch x handle) =
      match after server sent x with
      | (.ok a, sent') => (.ok a, sent')
      | (.error fault, sent') => after server sent' (handle fault) := by
  refine (Conversation.runAfter_bind x.run _).trans ?_
  unfold after
  rcases Conversation.runAfter server sent x.run with ⟨fault | a, sent'⟩ <;> rfl

theorem after_giveUp : after server sent (giveUp fault : Session α) =
    (.error fault, .rollback :: sent) :=
  rfl

theorem after_transaction_ok (hstart : server (.startTransaction :: sent) = .done)
    (hbody : after server (.startTransaction :: sent) body = (.ok a, sent'))
    (hcommit : server (.commit :: sent') = .done) :
    after server sent (transaction body) = (.ok a, .commit :: sent') := by
  rw [transaction, after_bind_ok (after_execute hstart), after_tryCatch, after_bind_ok hbody,
    after_bind_ok (after_execute hcommit)]
  rfl

/-- A transaction whose body fails is given up. -/
theorem after_transaction_error (hstart : server (.startTransaction :: sent) = .done)
    (hbody : after server (.startTransaction :: sent) body = (.error fault, sent')) :
    after server sent (transaction body) = (.error fault, .rollback :: sent') := by
  rw [transaction, after_bind_ok (after_execute hstart), after_tryCatch, after_bind_error hbody]
  exact after_giveUp

end Database

end ListQuery
