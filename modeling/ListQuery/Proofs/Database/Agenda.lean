import ListQuery.Proofs.Database.Session
import Mathlib.Data.List.Forall2

/-!
# What a store sends to its server

A store has an agenda: it opens a transaction, limits the time of its statements, asks for the
number of rows and for the rows, and closes the transaction.  A server may reply with anything, at
any place.

* `Database.agenda` : the statements for a page, in order;
* `Database.Succeeds` : the reply to a statement has what the statement asks for;
* `Database.FirstFailure` : the first statement whose reply has not;
* `Database.Follows` : a session sends an agenda, up to its first failure;
* `Database.Follows.bind` : sessions that follow agendas follow them one after the other;
* `Database.course_fetch` : the two ways in which the transaction for a page can go;
* `Database.KeepsAgenda` : what this means for the statements sent, and for the answer;
* `Database.keepsAgenda` : both stores keep to their agenda, with every server.
-/

namespace ListQuery

namespace Database

variable {α β γ : Type}

/-! ### Agendas -/

/-- The statements in front of the queries. -/
def opening (timeout : Option Nat) : List Statement :=
  .startTransaction :: timeout.toList.map .setTimeout

/-- The statements for a page, in order. -/
def agenda (timeout : Option Nat) (rows : Sql.Select → Statement) (plan : Plan) : List Statement :=
  opening timeout ++ [.count plan.count, rows plan.select, .commit]

/-- The rows that texts stand for, in order. -/
def ReadAs (decode : String → Option α) (texts : List String) (items : List α) : Prop :=
  List.Forall₂ (fun text item => decode text = some item) texts items

/-- The reply to a statement has what the statement asks for: a number, or rows that can be read.
Where it asks for nothing, anything but a refusal will do. -/
def Succeeds (decode : String → Option α) : Statement → Reply → Prop
  | .count _, reply => ∃ n, reply = .number n
  | .rows _, reply | .jsonRows _, reply =>
    ∃ texts items, reply.texts? = some texts ∧ ReadAs decode texts items
  | _, reply => ∀ reason, reply ≠ .refused reason

variable (server : Conversation.Server) (decode : String → Option α)

/-- All statements of an agenda succeed, when they are sent one after the other to a server that was
sent `sent` before, the latest first. -/
def Carried : List Statement → List Statement → Prop
  | _, [] => True
  | sent, s :: rest => Succeeds decode s (server (s :: sent)) ∧ Carried (s :: sent) rest

/-- Of the statements of an agenda, sent one after the other, `s` is the first that does not
succeed, those in front being `before`. -/
structure FirstFailure (sent agenda before : List Statement) (s : Statement) : Prop where
  /-- The agenda begins with these. -/
  begins : before ++ [s] <+: agenda
  /-- Those in front succeed. -/
  carried : Carried server decode sent before
  /-- This one does not. -/
  fails : ¬Succeeds decode s (server (s :: (before.reverse ++ sent)))

/-- A session follows an agenda: it sends the statements in order, up to the first that does not
succeed.  If all do, it has a result, of which `Q` holds. -/
inductive Follows (sent agenda : List Statement) (x : Session β) (Q : β → Prop) : Prop
  /-- All statements succeed. -/
  | carried {b : β} (hcarried : Carried server decode sent agenda)
    (hafter : after server sent x = (.ok b, agenda.reverse ++ sent)) (hresult : Q b)
  /-- One of them does not, and is the last one sent. -/
  | broken {before : List Statement} {s : Statement} {fault : DatabaseFault}
    (hfailure : FirstFailure server decode sent agenda before s)
    (hafter : after server sent x = (.error fault, s :: (before.reverse ++ sent)))

/-- What follows a statement that does not succeed: the transaction is given up, if there is one. -/
def givingUp (before : List Statement) : List Statement :=
  if before.isEmpty then [] else [.rollback]

/-- How a transaction with an agenda can go: what comes of it, and the statements sent. -/
inductive Course (agenda : List Statement) (Q : β → Prop) :
    Except DatabaseFault β → List Statement → Prop
  /-- All statements succeed. -/
  | carried {b : β} (hcarried : Carried server decode [] agenda) (hresult : Q b) :
    Course agenda Q (.ok b) agenda
  /-- One of them does not, and the transaction is given up. -/
  | broken {before : List Statement} {s : Statement} {fault : DatabaseFault}
    (hfailure : FirstFailure server decode [] agenda before s) :
    Course agenda Q (.error fault) (before ++ s :: givingUp before)

variable {server : Conversation.Server} {decode : String → Option α}
  {sent first second before before' : List Statement} {s s' : Statement}

/-! ### Agendas that are carried out, and others -/

theorem carried_append : Carried server decode sent (first ++ second) ↔
    Carried server decode sent first ∧ Carried server decode (first.reverse ++ sent) second := by
  induction first generalizing sent with
  | nil => simp [Carried]
  | cons s rest ih =>
    rw [List.cons_append, Carried, Carried, ih, List.reverse_cons, List.append_assoc, and_assoc]
    rfl

theorem Carried.succeeds (h : Carried server decode sent second)
    (hfront : before ++ [s] <+: second) :
    Succeeds decode s (server (s :: (before.reverse ++ sent))) := by
  obtain ⟨rest, rfl⟩ := hfront
  exact (carried_append.1 (carried_append.1 h).1).2.1

theorem FirstFailure.not_carried (h : FirstFailure server decode sent first before s) :
    ¬Carried server decode sent first :=
  fun hcarried => h.fails (hcarried.succeeds h.begins)

theorem FirstFailure.mono (h : FirstFailure server decode sent first before s)
    (hfront : first <+: second) : FirstFailure server decode sent second before s where
  begins := h.begins.trans hfront
  carried := h.carried
  fails := h.fails

theorem FirstFailure.append_left (hcarried : Carried server decode sent first)
    (h : FirstFailure server decode (first.reverse ++ sent) second before s) :
    FirstFailure server decode sent (first ++ second) (first ++ before) s where
  begins := by
    rw [List.append_assoc]
    exact (List.prefix_append_right_inj first).2 h.begins
  carried := carried_append.2 ⟨hcarried, h.carried⟩
  fails := by
    rw [List.reverse_append, List.append_assoc]
    exact h.fails

theorem FirstFailure.singleton (h : ¬Succeeds decode s (server (s :: sent))) :
    FirstFailure server decode sent [s] [] s where
  begins := List.prefix_rfl
  carried := trivial
  fails := h

theorem FirstFailure.length_le (h : FirstFailure server decode sent second before s)
    (hcarried : Carried server decode sent first) (hfirst : first <+: second) :
    first.length ≤ before.length := by
  by_contra hlength
  have hfront : before ++ [s] <+: first := by
    refine List.prefix_of_prefix_length_le h.begins hfirst ?_
    rw [List.length_append, List.length_singleton]
    omega
  exact h.fails (hcarried.succeeds hfront)

/-- **There is but one first failure.** -/
theorem FirstFailure.unique (h : FirstFailure server decode sent second before s)
    (h' : FirstFailure server decode sent second before' s') : before = before' ∧ s = s' := by
  have hle := h'.length_le h.carried ((List.prefix_append before [s]).trans h.begins)
  have hge := h.length_le h'.carried ((List.prefix_append before' [s']).trans h'.begins)
  have hlength : (before ++ [s]).length = (before' ++ [s']).length := by
    rw [List.length_append, List.length_append, Nat.le_antisymm hle hge]
    rfl
  have heq : before ++ [s] = before' ++ [s'] :=
    (List.prefix_of_prefix_length_le h.begins h'.begins (Nat.le_of_eq hlength)).eq_of_length hlength
  obtain ⟨hbefore, hs⟩ := List.append_inj' heq rfl
  exact ⟨hbefore, (List.cons.inj hs).1⟩

/-! ### Sessions -/

variable {x : Session β} {f : β → Session γ} {P P' : β → Prop} {Q : γ → Prop}

theorem follows_pure {c : γ} (h : Q c) : Follows server decode sent [] (pure c : Session γ) Q :=
  .carried trivial rfl h

theorem Follows.imp (hx : Follows server decode sent first x P) (h : ∀ b, P b → P' b) :
    Follows server decode sent first x P' := by
  cases hx with
  | carried hcarried hafter hresult => exact .carried hcarried hafter (h _ hresult)
  | broken hfailure hafter => exact .broken hfailure hafter

/-- **Agendas are followed one after the other.** -/
theorem Follows.bind (hx : Follows server decode sent first x P)
    (hf : ∀ b, P b → Follows server decode (first.reverse ++ sent) second (f b) Q) :
    Follows server decode sent (first ++ second) (x >>= f) Q := by
  cases hx with
  | broken hfailure hafter =>
    exact .broken (hfailure.mono (List.prefix_append first second)) (after_bind_error hafter)
  | carried hcarried hafter hresult =>
    have hbind := after_bind_ok (f := f) hafter
    cases hf _ hresult with
    | carried hcarried' hafter' hresult' =>
      refine .carried (carried_append.2 ⟨hcarried, hcarried'⟩) ?_ hresult'
      rw [hbind, hafter', List.reverse_append, List.append_assoc]
    | broken hfailure hafter' =>
      rw [← List.append_assoc, ← List.reverse_append] at hafter'
      exact .broken (hfailure.append_left hcarried) (hbind.trans hafter')

theorem follows_ask {f : Reply → Session β}
    (hrefused : ∀ reason, ¬Succeeds decode s (.refused reason))
    (hok : Succeeds decode s (server (s :: sent)) → ∃ b, f (server (s :: sent)) = pure b ∧ P b)
    (hfails : ¬Succeeds decode s (server (s :: sent)) →
      (∀ reason, server (s :: sent) ≠ .refused reason) →
        ∃ fault, f (server (s :: sent)) = throw fault) :
    Follows server decode sent [s] (ask s >>= f) P := by
  by_cases hreply : ∃ reason, server (s :: sent) = .refused reason
  · obtain ⟨reason, hreply⟩ := hreply
    have hfails : ¬Succeeds decode s (server (s :: sent)) := hreply ▸ hrefused reason
    exact .broken (.singleton hfails) (after_bind_error (after_ask_refused hreply))
  · have hne : ∀ reason, server (s :: sent) ≠ .refused reason := not_exists.1 hreply
    have hafter := after_bind_ok (f := f) (after_ask rfl hne)
    by_cases hsucceeds : Succeeds decode s (server (s :: sent))
    · obtain ⟨b, hb, hP⟩ := hok hsucceeds
      exact .carried ⟨hsucceeds, trivial⟩ (by rw [hafter, hb]; rfl) hP
    · obtain ⟨fault, hfault⟩ := hfails hsucceeds hne
      exact .broken (.singleton hsucceeds) (by rw [hafter, hfault]; rfl)

theorem follows_execute
    (h : ∀ reply, Succeeds decode s reply ↔ ∀ reason, reply ≠ .refused reason) :
    Follows server decode sent [s] (execute s) fun _ => True := by
  refine follows_ask (fun reason => ?_) (fun _ => ⟨(), rfl, trivial⟩) fun hfails hne => ?_
  · rw [h]
    exact fun hne => hne reason rfl
  · exact absurd ((h _).2 hne) hfails

theorem follows_askNumber (c : Sql.Count) :
    Follows server decode sent [.count c] (askNumber (.count c)) fun total =>
      ∃ n, server (.count c :: sent) = .number n ∧ total = n.toNat := by
  refine follows_ask (fun reason => nofun) ?_ fun hfails _ => ?_
  · rintro ⟨n, hn⟩
    exact ⟨n.toNat, by rw [hn], n, hn, rfl⟩
  · refine ⟨.unexpected, ?_⟩
    split
    case h_1 n hn => exact absurd ⟨n, hn⟩ hfails
    case h_2 => rfl

theorem follows_limitTime (timeout : Option Nat) :
    Follows server decode sent (timeout.toList.map .setTimeout) (limitTime timeout)
      fun _ => True := by
  cases timeout with
  | none => exact follows_pure trivial
  | some milliseconds => exact follows_execute fun _ => Iff.rfl

theorem mapM_eq_some_iff {texts : List String} {items : List α} :
    texts.mapM decode = some items ↔ ReadAs decode texts items := by
  induction texts generalizing items with
  | nil =>
    rw [List.mapM_nil, ReadAs, List.forall₂_nil_left_iff]
    exact Option.some_inj.trans eq_comm
  | cons text texts ih =>
    rw [List.mapM_cons, ReadAs, List.forall₂_cons_left_iff]
    simp only [Option.bind_eq_bind, Option.bind_eq_some_iff, ih, Option.pure_def,
      Option.some_inj, ReadAs]
    constructor
    · rintro ⟨item, hitem, rest, hrest, rfl⟩
      exact ⟨item, rest, hitem, hrest, rfl⟩
    · rintro ⟨item, rest, hitem, hrest, rfl⟩
      exact ⟨item, hitem, rest, hrest, rfl⟩

/-- Rows that are sent but cannot be read count as a failure of their query. -/
theorem follows_rows {rows : Sql.Select → Statement} (hrows : rows = .rows ∨ rows = .jsonRows)
    (select : Sql.Select) (total : Nat) :
    Follows server decode sent [rows select]
      (do
        match (← askRows (rows select)).mapM decode with
        | some items => return (items, total)
        | none => throw .unexpected)
      fun page => page.2 = total ∧
        ∃ texts, (server (rows select :: sent)).texts? = some texts ∧
          ReadAs decode texts page.1 := by
  have hsucceeds (reply : Reply) : Succeeds decode (rows select) reply ↔
      ∃ texts items, reply.texts? = some texts ∧ ReadAs decode texts items := by
    rcases hrows with rfl | rfl <;> rfl
  cases htexts : (server (rows select :: sent)).texts? with
  | none =>
    have hfails : ¬Succeeds decode (rows select) (server (rows select :: sent)) := by
      simp [hsucceeds, htexts]
    obtain ⟨fault, hafter⟩ := after_askRows_error htexts
    exact .broken (.singleton hfails) (after_bind_error hafter)
  | some texts =>
    have hafter := after_askRows_ok htexts
    cases hitems : texts.mapM decode with
    | none =>
      have hfails : ¬Succeeds decode (rows select) (server (rows select :: sent)) := by
        simp [hsucceeds, htexts, ← mapM_eq_some_iff, hitems]
      exact .broken (.singleton hfails) (by rw [after_bind_ok hafter, hitems]; rfl)
    | some items =>
      have hread := mapM_eq_some_iff.1 hitems
      exact .carried ⟨(hsucceeds _).2 ⟨texts, items, htexts, hread⟩, trivial⟩
        (by rw [after_bind_ok hafter, hitems]; rfl) ⟨rfl, texts, rfl, hread⟩

/-! ### Transactions -/

/-- A transaction that is not opened is not given up. -/
theorem course_of_not_opened {agenda : List Statement} {reason : String}
    (h : server [.startTransaction] = .refused reason) :
    Course server decode (.startTransaction :: agenda) P
      (after server [] (transaction x)).1 (after server [] (transaction x)).2.reverse := by
  have hafter : after server [] (transaction x) =
      (.error (.refused reason), [.startTransaction]) :=
    after_bind_error (after_bind_error (after_ask_refused h))
  have hfails : ¬Succeeds decode .startTransaction (server [.startTransaction]) :=
    fun hsucceeds => hsucceeds reason h
  rw [hafter]
  exact .broken ((FirstFailure.singleton hfails).mono (List.prefix_append _ agenda))

/-- A session within a transaction: with the statements around it, it is an agenda of its own. -/
theorem course_transaction {agenda : List Statement}
    (h : Follows server decode [.startTransaction] agenda x P) :
    Course server decode (.startTransaction :: (agenda ++ [.commit])) P
      (after server [] (transaction x)).1 (after server [] (transaction x)).2.reverse := by
  by_cases hopened : ∃ reason, server [.startTransaction] = .refused reason
  · exact course_of_not_opened hopened.choose_spec
  have hstart : Carried server decode [] [.startTransaction] := ⟨not_exists.1 hopened, trivial⟩
  have hcommit : Follows server decode [.startTransaction] (agenda ++ [.commit])
      (do let b ← x; execute .commit; return b) P :=
    h.bind fun b hb => (follows_execute fun _ => Iff.rfl).bind fun _ _ => follows_pure hb
  have hafter : after server [] (transaction x) = after server [.startTransaction]
      (tryCatch (do let b ← x; execute .commit; return b) giveUp) :=
    after_bind_ok (after_bind_ok (after_ask rfl (not_exists.1 hopened)))
  rw [hafter, after_tryCatch]
  cases hcommit with
  | carried hcarried hafter hresult =>
    rw [hafter]
    dsimp only
    rw [List.reverse_append, List.reverse_reverse, List.reverse_singleton, List.singleton_append]
    exact .carried ⟨hstart.1, hcarried⟩ hresult
  | @broken before s fault hfailure hafter =>
    have hsent : (Statement.rollback :: s :: (before.reverse ++ [.startTransaction])).reverse =
        ([.startTransaction] ++ before) ++ s :: givingUp ([.startTransaction] ++ before) := by
      simp [givingUp]
    rw [hafter]
    dsimp only
    rw [after_giveUp, hsent]
    exact .broken (hfailure.append_left hstart)

/-- What a page shows of the replies to the queries: the number, one below zero counting as zero,
and all of the rows, in order. -/
structure Shows (server : Conversation.Server) (decode : String → Option α) (timeout : Option Nat)
    (rows : Sql.Select → Statement) (plan : Plan) (page : List α × Nat) : Prop where
  /-- The number. -/
  total : ∃ n, server (.count plan.count :: (opening timeout).reverse) = .number n ∧
    page.2 = n.toNat
  /-- The rows. -/
  items : ∃ texts,
    (server (rows plan.select :: .count plan.count :: (opening timeout).reverse)).texts? =
      some texts ∧ ReadAs decode texts page.1

/-- The transaction for a page goes through its agenda, and gives what the replies to the queries
show, or breaks off. -/
theorem course_fetch (server : Conversation.Server) (decode : String → Option α)
    (timeout : Option Nat) {rows : Sql.Select → Statement} (hrows : rows = .rows ∨ rows = .jsonRows)
    (plan : Plan) :
    Course server decode (agenda timeout rows plan) (Shows server decode timeout rows plan)
      (after server [] (fetch timeout rows decode plan)).1
      (after server [] (fetch timeout rows decode plan)).2.reverse := by
  have hopening : (timeout.toList.map Statement.setTimeout).reverse ++ [.startTransaction] =
      (opening timeout).reverse := by
    rw [opening, List.reverse_cons]
  have hagenda : agenda timeout rows plan = .startTransaction ::
      (timeout.toList.map .setTimeout ++ ([.count plan.count] ++ [rows plan.select]) ++
        [.commit]) := by
    simp [agenda, opening]
  rw [hagenda]
  refine course_transaction ((follows_limitTime timeout).bind fun _ _ => ?_)
  rw [hopening]
  refine (follows_askNumber plan.count).bind fun total htotal => ?_
  exact (follows_rows hrows plan.select total).imp fun page hpage => ⟨hpage.1 ▸ htotal, hpage.2⟩

/-! ### Discipline -/

/-- A store that keeps to its agenda with a server, `run` being what it answers, and the statements
that it sends. -/
structure KeepsAgenda (server : Conversation.Server) (decode : String → Option α)
    (timeout : Option Nat) (rows : Sql.Select → Statement) (plan : Plan)
    (run : Except QueryError (List α × Nat) × List Statement) : Prop where
  /-- As long as statements succeed, and with the first one that does not, those sent are the
  beginning of the agenda. -/
  begins : ∀ before s, before ++ [s] <+: run.2 → Carried server decode [] before →
    before ++ [s] <+: agenda timeout rows plan
  /-- After the first failure nothing is sent, but that the transaction is given up. -/
  stops : ∀ before s, FirstFailure server decode [] run.2 before s →
    run.2 = before ++ s :: givingUp before
  /-- It takes a failure to end in front of the end of the agenda. -/
  ends : run.2 = agenda timeout rows plan ∨
    ∃ before s, FirstFailure server decode [] run.2 before s
  /-- Nothing is sent twice. -/
  once : run.2.Nodup
  /-- There is a page just if all statements of the agenda succeed. -/
  ok_iff : (∃ page, run.1 = .ok page) ↔ Carried server decode [] (agenda timeout rows plan)
  /-- The page is what the replies to the queries show. -/
  shows : ∀ page, run.1 = .ok page → Shows server decode timeout rows plan page
  /-- Otherwise there is an error of the database. -/
  error : ¬Carried server decode [] (agenda timeout rows plan) →
    ∃ fault, run.1 = .error (.database fault)

theorem nodup_agenda (timeout : Option Nat) {rows : Sql.Select → Statement}
    (hrows : rows = .rows ∨ rows = .jsonRows) (plan : Plan) :
    (agenda timeout rows plan ++ [Statement.rollback]).Nodup := by
  rcases hrows with rfl | rfl <;> cases timeout <;> simp [agenda, opening]

theorem nodup_givingUp (h : (first ++ [Statement.rollback]).Nodup)
    (hfront : before ++ [s] <+: first) : (before ++ s :: givingUp before).Nodup := by
  obtain ⟨rest, rfl⟩ := hfront
  refine h.sublist ?_
  rw [List.append_cons, List.append_assoc (before ++ [s])]
  refine List.Sublist.append_left ?_ _
  rw [givingUp]
  split
  case isTrue => exact List.nil_sublist _
  case isFalse => exact List.sublist_append_right rest [.rollback]

theorem keepsAgenda_of_course {timeout : Option Nat} {rows : Sql.Select → Statement}
    (hrows : rows = .rows ∨ rows = .jsonRows) {plan : Plan}
    {outcome : Except DatabaseFault (List α × Nat)}
    (h : Course server decode (agenda timeout rows plan) (Shows server decode timeout rows plan)
      outcome sent) :
    KeepsAgenda server decode timeout rows plan (outcome.mapError .database, sent) := by
  have hnodup := nodup_agenda timeout hrows plan
  cases h with
  | @carried page hcarried hresult =>
    exact {
      begins := fun before s hsent _ => hsent
      stops := fun before s hfailure => absurd hcarried hfailure.not_carried
      ends := .inl rfl
      once := (List.nodup_append.1 hnodup).1
      ok_iff := ⟨fun _ => hcarried, fun _ => ⟨page, rfl⟩⟩
      shows := by
        rintro _ ⟨⟩
        exact hresult
      error := fun hnot => absurd hcarried hnot }
  | @broken before s fault hfailure =>
    have hsent : before ++ [s] <+: before ++ s :: givingUp before :=
      ⟨givingUp before, (List.append_cons ..).symm⟩
    have hfailure' : FirstFailure server decode [] (before ++ s :: givingUp before) before s :=
      ⟨hsent, hfailure.carried, hfailure.fails⟩
    exact {
      begins := fun first s' hfirst hcarried => by
        have hle := hfailure'.length_le hcarried ((List.prefix_append first [s']).trans hfirst)
        refine (List.prefix_of_prefix_length_le hfirst hsent ?_).trans hfailure.begins
        simpa using hle
      stops := fun first s' hfailure'' => by
        obtain ⟨rfl, rfl⟩ := hfailure''.unique hfailure'
        rfl
      ends := .inr ⟨before, s, hfailure'⟩
      once := nodup_givingUp hnodup hfailure.begins
      ok_iff := ⟨nofun, fun hcarried => absurd hcarried hfailure.not_carried⟩
      shows := nofun
      error := fun _ => ⟨fault, rfl⟩ }

theorem run_answer (server : Conversation.Server) (x : Session β) :
    (answer x).run server =
      ((after server [] x).1.mapError .database, (after server [] x).2.reverse) := by
  rw [Conversation.run, runAfter_answer]

/-- **Both stores keep to their agenda, whatever the server replies**: a transaction with the limit
of time, if there is one, the query for the number and that for the rows.  They are asked for once,
nothing comes after a failure, and there is all of the page or an error. -/
theorem keepsAgenda (server : Conversation.Server) (timeout : Option Nat) (plan : Plan)
    (decode : String → Option α) :
    (agenda timeout .rows plan).map Statement.write =
      "BEGIN" :: timeout.toList.map ("SET LOCAL statement_timeout = " ++ toString ·) ++
        [plan.count.write, plan.select.write, "COMMIT"] ∧
    (agenda timeout .jsonRows plan).map Statement.write =
      "BEGIN" :: timeout.toList.map ("SET LOCAL statement_timeout = " ++ toString ·) ++
        [plan.count.write, "SELECT row_to_json(t) FROM (" ++ plan.select.write ++ ") t",
          "COMMIT"] ∧
    KeepsAgenda server decode timeout .rows plan
      ((answer (fetch timeout .rows decode plan)).run server) ∧
    KeepsAgenda server Json.read? timeout .jsonRows plan
      ((answer (fetchJson timeout plan)).run server) := by
  refine ⟨?_, ?_, ?_, ?_⟩
  · cases timeout <;> rfl
  · cases timeout <;> rfl
  · rw [run_answer]
    exact keepsAgenda_of_course (.inl rfl) (course_fetch server decode timeout (.inl rfl) plan)
  · rw [run_answer]
    exact keepsAgenda_of_course (.inr rfl) (course_fetch server Json.read? timeout (.inr rfl) plan)

/-- The rows were sent, but the transaction cannot be closed: there is no page. -/
example (plan : Plan) :
    (answer (fetchPage none plan)).run (fun
      | .commit :: _ => .refused "could not serialize access"
      | .count _ :: _ => .number 1
      | .rows _ :: _ => .rows ["(1)"]
      | _ => .done) =
    (.error (.database (.refused "could not serialize access")),
      agenda none .rows plan ++ [.rollback]) :=
  rfl

end Database

end ListQuery
