import ListQuery.Proofs.Database.Session
import ListQuery.Proofs.Plan.Build
import Mathlib

/-!
# What other clients write meanwhile

The number of rows and the rows are asked for by two statements of one transaction.  It is opened
with a plain `BEGIN`, so that each statement sees what others have committed when it starts.

* `Database.readCommitted` : a server that others write to;
* `Database.run_fetch` : what a store gives when it asks such a server;
* `Database.OneVersion` : the number and the rows are answers from one version of the database;
* `Database.oneVersion_iff` : what it takes for this to be so, whatever is written.
-/

namespace ListQuery

namespace Database

variable {State α : Type}

/-! ### A server that others write to -/

/-- What a database answers in its states. -/
structure Answers (State : Type) where
  /-- The answer to a query for a number. -/
  number : State → Sql.Count → Nat
  /-- The answer to a statement that asks for rows. -/
  texts : State → Statement → List String

/-- The reply to a statement that sees a state. -/
def Answers.reply (A : Answers State) (state : State) : Statement → Reply
  | .count c => .number (A.number state c)
  | .rows s => .rows (A.texts state (.rows s))
  | .jsonRows s => .rows (A.texts state (.jsonRows s))
  | _ => .done

/-- The number of transactions that others have committed when the statement at a place starts,
`commits` being the numbers of those committed right in front of each. -/
def committed (commits : Nat → Nat) : Nat → Nat
  | 0 => commits 0
  | place + 1 => committed commits place + commits (place + 1)

/-- A server that others write to.  A statement sees the version of the database that there is when
it starts. -/
def readCommitted (A : Answers State) (versions : Nat → State) (commits : Nat → Nat) :
    Conversation.Server
  | [] => .done
  | s :: before => A.reply (versions (committed commits before.length)) s

/-- The number of statements of a transaction in front of the query for the number. -/
def countPlace (timeout : Option Nat) : Nat :=
  timeout.toList.length + 1

variable (A : Answers State) (versions : Nat → State) (commits : Nat → Nat)

theorem readCommitted_rows {rows : Sql.Select → Statement} (hrows : rows = .rows ∨ rows = .jsonRows)
    (s : Sql.Select) (before : List Statement) :
    readCommitted A versions commits (rows s :: before) =
      .rows (A.texts (versions (committed commits before.length)) (rows s)) := by
  rcases hrows with rfl | rfl <;> rfl

/-- The number is that of the version at its statement, and the rows are those of the version at
theirs. -/
theorem run_fetch (timeout : Option Nat) {rows : Sql.Select → Statement}
    (hrows : rows = .rows ∨ rows = .jsonRows) (decode : String → Option α) (plan : Plan) :
    ((fetch timeout rows decode plan).run.run (readCommitted A versions commits)).1 =
      match (A.texts (versions (committed commits (countPlace timeout + 1)))
        (rows plan.select)).mapM decode with
      | some items =>
        .ok (items, A.number (versions (committed commits (countPlace timeout))) plan.count)
      | none => .error .unexpected := by
  let server := readCommitted A versions commits
  let opened := timeout.toList.map Statement.setTimeout ++ [.startTransaction]
  have hplace : opened.length = countPlace timeout := by
    rw [List.length_append, List.length_map]
    rfl
  have hlimit : after server [.startTransaction] (limitTime timeout) = (.ok (), opened) :=
    after_limitTime timeout fun _ => rfl
  have hcount : after server opened (askNumber (.count plan.count)) =
      (.ok (A.number (versions (committed commits (countPlace timeout))) plan.count),
        .count plan.count :: opened) := by
    rw [← hplace]
    have hreply : server (.count plan.count :: opened) =
        .number (A.number (versions (committed commits opened.length)) plan.count) := rfl
    exact after_askNumber hreply
  have hselect : after server (.count plan.count :: opened) (askRows (rows plan.select)) =
      (.ok (A.texts (versions (committed commits (countPlace timeout + 1))) (rows plan.select)),
        rows plan.select :: .count plan.count :: opened) := by
    rw [← hplace]
    exact after_askRows (readCommitted_rows A versions commits hrows _ _)
  cases hitems : (A.texts (versions (committed commits (countPlace timeout + 1)))
    (rows plan.select)).mapM decode with
  | some items =>
    have hfetch : after server [] (fetch timeout rows decode plan) =
        (.ok (items, A.number (versions (committed commits (countPlace timeout))) plan.count),
          .commit :: rows plan.select :: .count plan.count :: opened) := by
      refine after_transaction_ok rfl ?_ rfl
      rw [after_bind_ok hlimit, after_bind_ok hcount, after_bind_ok hselect, hitems]
      rfl
    exact congrArg Prod.fst hfetch
  | none =>
    have hfetch : after server [] (fetch timeout rows decode plan) =
        (.error .unexpected, .rollback :: rows plan.select :: .count plan.count :: opened) := by
      refine after_transaction_error rfl ?_
      rw [after_bind_ok hlimit, after_bind_ok hcount, after_bind_ok hselect, hitems]
      rfl
    exact congrArg Prod.fst hfetch

/-! ### One version -/

/-- The number and the rows that a store gave are answers from one version of the database. -/
def OneVersion (rows : Sql.Select → Statement) (decode : String → Option α) (plan : Plan)
    (outcome : Except DatabaseFault (List α × Nat)) : Prop :=
  ∀ items total, outcome = .ok (items, total) →
    ∃ n, A.number (versions n) plan.count = total ∧
      (A.texts (versions n) (rows plan.select)).mapM decode = some items

/-- No two states differ both in the number and in the rows. -/
def Answers.NotBoth (rows : Sql.Select → Statement) (decode : String → Option α) (plan : Plan) :
    Prop :=
  ∀ x y items, (A.texts y (rows plan.select)).mapM decode = some items →
    A.number x plan.count = A.number y plan.count ∨
      (A.texts x (rows plan.select)).mapM decode = some items

/-- A store gives answers from one version, whatever the versions are, just if nothing is committed
between its queries, or no two states differ in both answers. -/
theorem fetch_oneVersion_iff (timeout : Option Nat) {rows : Sql.Select → Statement}
    (hrows : rows = .rows ∨ rows = .jsonRows) (decode : String → Option α) (plan : Plan) :
    (∀ versions, OneVersion A versions rows decode plan
      ((fetch timeout rows decode plan).run.run (readCommitted A versions commits)).1) ↔
    commits (countPlace timeout + 1) = 0 ∨ A.NotBoth rows decode plan := by
  have hcommitted : committed commits (countPlace timeout + 1) =
      committed commits (countPlace timeout) + commits (countPlace timeout + 1) := rfl
  constructor
  · intro hall
    by_cases hnone : commits (countPlace timeout + 1) = 0
    · exact .inl hnone
    refine .inr fun x y items hitems => ?_
    -- The database is in the first state until it is counted, and then in the second one.
    let versions (n : Nat) : State := if n ≤ committed commits (countPlace timeout) then x else y
    have hx : versions (committed commits (countPlace timeout)) = x := if_pos (Nat.le_refl _)
    have hy : versions (committed commits (countPlace timeout + 1)) = y := if_neg (by omega)
    have houtcome := run_fetch A versions commits timeout hrows decode plan
    rw [hx, hy, hitems] at houtcome
    obtain ⟨n, hnumber, htexts⟩ := hall versions items _ houtcome
    by_cases hn : n ≤ committed commits (countPlace timeout)
    · rw [show versions n = x from if_pos hn] at htexts
      exact .inr htexts
    · rw [show versions n = y from if_neg hn] at hnumber
      exact .inl hnumber.symm
  · intro h versions items total houtcome
    rw [run_fetch A versions commits timeout hrows] at houtcome
    split at houtcome
    case h_2 => cases houtcome
    case h_1 found hfound =>
      cases houtcome
      rcases h with hnone | hboth
      · rw [hcommitted, hnone, Nat.add_zero] at hfound
        exact ⟨_, rfl, hfound⟩
      · obtain hnumber | htexts := hboth (versions (committed commits (countPlace timeout)))
          (versions (committed commits (countPlace timeout + 1))) _ hfound
        · exact ⟨_, hnumber.symm, hfound⟩
        · exact ⟨_, rfl, htexts⟩

/-- **Both stores give answers from one version, whatever others write, just if nothing is committed
between their queries, or no two states differ in both answers.** -/
theorem oneVersion_iff (timeout : Option Nat) (plan : Plan) :
    ((∀ versions, OneVersion A versions .rows some plan
        ((fetchPage timeout plan).run.run (readCommitted A versions commits)).1) ↔
      commits (countPlace timeout + 1) = 0 ∨ A.NotBoth .rows some plan) ∧
    ((∀ versions, OneVersion A versions .jsonRows Json.read? plan
        ((fetchJson timeout plan).run.run (readCommitted A versions commits)).1) ↔
      commits (countPlace timeout + 1) = 0 ∨ A.NotBoth .jsonRows Json.read? plan) :=
  ⟨fetch_oneVersion_iff A commits timeout (.inl rfl) some plan,
    fetch_oneVersion_iff A commits timeout (.inr rfl) Json.read? plan⟩

/-- A database whose states are the rows of its only table. -/
def oneTable : Answers (List String) where
  number rows _ := rows.length
  texts rows _ := rows

/-- A table that has no rows at first, and one from then on. -/
def firstRow (version : Nat) : List String :=
  if version = 0 then [] else ["\x7b\x7d"]

/-- One transaction, committed in front of the statement at the place `place`. -/
def commitAt (place other : Nat) : Nat :=
  if other = place then 1 else 0

/-- **A row comes in between the queries**: both stores give it, out of none. -/
theorem not_oneVersion_firstRow :
    ((fetchPage none Sample.invoicePlan).run.run
        (readCommitted oneTable firstRow (commitAt 2))).1 = .ok (["\x7b\x7d"], 0) ∧
      ((fetchJson none Sample.invoicePlan).run.run
        (readCommitted oneTable firstRow (commitAt 2))).1 = .ok ([.object []], 0) ∧
      ∀ rows : List String, ∀ c s, oneTable.number rows c = 0 →
        oneTable.texts rows s ≠ ["\x7b\x7d"] := by
  have hread : Json.read? "\x7b\x7d" = some (.object []) := by cbv
  refine ⟨rfl, ?_, fun rows c s hnumber htexts => ?_⟩
  · have hitems : (oneTable.texts (firstRow (committed (commitAt 2) (countPlace none + 1)))
        (.jsonRows Sample.invoicePlan.select)).mapM Json.read? = some [.object []] := by
      have htexts : oneTable.texts (firstRow (committed (commitAt 2) (countPlace none + 1)))
          (.jsonRows Sample.invoicePlan.select) = ["\x7b\x7d"] := rfl
      rw [htexts, List.mapM_cons, hread]
      rfl
    rw [fetchJson, run_fetch oneTable firstRow (commitAt 2) none (.inr rfl), hitems]
    rfl
  have hrows : rows = [] := List.length_eq_zero_iff.1 hnumber
  rw [hrows] at htexts
  cases htexts

end Database

end ListQuery
