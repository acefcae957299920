import ListQuery.Engine
import ListQuery.Proofs.Database.Session
import ListQuery.Proofs.Plan.Failure
import ListQuery.Sample

/-!
# Who is to blame for a request that is not answered

A store answers from a state of its own, may fail in any way, and may not answer at all.

* `Engine.observe` : the answer to a request, with the plans that the store is asked for;
* `Engine.inMemory`, `Engine.inDatabase` : rows in memory and a database as stores;
* `Engine.ways` : the three ways in which a request can go;
* `Engine.Accounts` : what answer and plans tell about metadata, request and store;
* `Engine.BlamesRightly` : the blame is where the fault is;
* `Engine.accounts_observe` : answer and plans tell this of every request, and the blame is where
  the fault is unless the store puts it on the client.
-/

namespace ListQuery

namespace Engine

variable {σ α : Type}

/-! ### Stores -/

/-- A store that answers from a state of its own, if it answers. -/
abbrev Store (σ α : Type) := Plan → OptionT (StateM σ) (Answer α)

/-- What a store in the state `s` gives for a plan, if it gives anything. -/
def given? (fetch : Store σ α) (plan : Plan) (s : σ) : Option (Answer α) :=
  ((fetch plan).run.run s).1

/-- The store, with a record of the plans that it is asked for, in order. -/
def recorded (fetch : Store σ α) (plan : Plan) :
    OptionT (StateT (List Plan) (StateM σ)) (Answer α) :=
  OptionT.mk do
    modify (· ++ [plan])
    (fetch plan).run

/-- The answer to a request from a store in the state `s`, if there is one, and the plans that the
store is asked for. -/
def observe (fetch : Store σ α) (m : Metadata) (r : Parameters) (s : σ) :
    Option (Except QueryError (Page α)) × List Plan :=
  (((execute (recorded fetch) m r).run.run []).run s).1

/-- Rows in memory as a store. -/
def inMemory (rows : List Json) : Store σ Json :=
  fun plan => OptionT.mk (pure ((plan.fetch? rows).map .ok))

/-- A database as a store.  Its state is what its server was sent, the latest first. -/
def inDatabase (server : Conversation.Server) (sessions : Plan → Database.Session (List α × Nat)) :
    Store (List Statement) α :=
  fun plan => OptionT.mk fun sent =>
    let (answer, sent') := (Database.answer (sessions plan)).runAfter server sent
    (some answer, sent')

/-- A store that fails whatever it is asked for. -/
def failing (e : QueryError) : Store σ α :=
  fun _ => pure (.error e)

variable {fetch : Store σ α} {m : Metadata} {r : Parameters} {s : σ}

/-! ### Ways of a request -/

theorem observe_of_error {e : QueryError} (h : Plan.ofValid m r = .error e) :
    observe fetch m r s = (some (.error e), []) := by
  rw [observe, execute, h]
  rfl

theorem run_recorded (fetch : Store σ α) (plan : Plan) (asked : List Plan) :
    (recorded fetch plan).run.run asked =
      (fetch plan).run >>= fun answer => pure (answer, asked ++ [plan]) := by
  simp only [recorded, OptionT.run_mk, StateT.run_bind, StateT.run_modify, pure_bind,
    StateT.run_monadLift, monadLift_self]

/-- A request that is planned is put to the store once, and the store decides the answer. -/
theorem observe_of_ok {plan : Plan} (h : Plan.ofValid m r = .ok plan) :
    observe fetch m r s =
      ((given? fetch plan s).map fun answer =>
        answer.map fun found => Page.make found.1 found.2 plan.page plan.pageSize, [plan]) := by
  rw [observe, execute, h, given?]
  dsimp only
  rw [bind_pure_comp, OptionT.run_map, StateT.run_map, run_recorded]
  rfl

theorem observe_inMemory (rows : List Json) (m : Metadata) (r : Parameters) (s : σ) :
    (observe (inMemory rows) m r s).1 = executeInMemory rows m r := by
  cases hplan : Plan.ofValid m r with
  | error e =>
    rw [observe_of_error hplan, executeInMemory, execute, hplan]
    rfl
  | ok plan =>
    rw [observe_of_ok hplan, executeInMemory, execute, hplan]
    exact Option.map_eq_bind

theorem observe_inDatabase (server : Conversation.Server)
    (sessions : Plan → Database.Session (List α × Nat)) (m : Metadata) (r : Parameters) :
    (observe (inDatabase server sessions) m r []).1 =
      some ((executeInDatabase sessions m r).run server).1 := by
  cases hplan : Plan.ofValid m r with
  | error e =>
    rw [observe_of_error hplan, executeInDatabase, execute, hplan]
    rfl
  | ok plan =>
    rw [observe_of_ok hplan, executeInDatabase, execute, hplan, Conversation.run,
      Conversation.runAfter_bind]
    rfl

/-- **A request goes one of three ways.**  The metadata are not valid; or they are, and the request
is at fault; or it is planned, and the store is asked once. -/
theorem ways (fetch : Store σ α) (m : Metadata) (r : Parameters) (s : σ) :
    (m.ensureValid ≠ .ok () ∧
      ∃ fault, observe fetch m r s = (some (.error (.invalidMetadata m.entity fault)), [])) ∨
    (m.ensureValid = .ok () ∧ ∃ e, Plan.build m r = .error e ∧ e.isClientError = true ∧
      observe fetch m r s = (some (.error e), [])) ∨
    (m.ensureValid = .ok () ∧ ∃ plan, Plan.build m r = .ok plan ∧ observe fetch m r s =
      ((given? fetch plan s).map fun answer =>
        answer.map fun found => Page.make found.1 found.2 plan.page plan.pageSize, [plan])) := by
  by_cases hproblems : m.problems.isEmpty = true
  · have hvalid : m.ensureValid = .ok () := if_pos hproblems
    have hplan : Plan.ofValid m r = Plan.build m r := by
      rw [Plan.ofValid, hvalid]
      rfl
    cases hbuild : Plan.build m r with
    | error e =>
      have hblame := Plan.build_blamesRequest hvalid r e hbuild
      exact .inr (.inl ⟨hvalid, e, rfl, hblame, observe_of_error (hplan.trans hbuild)⟩)
    | ok plan => exact .inr (.inr ⟨hvalid, plan, rfl, observe_of_ok (hplan.trans hbuild)⟩)
  · have hinvalid : m.ensureValid = .error (.invalidMetadata m.entity (.problems m.problems)) :=
      if_neg hproblems
    have hplan : Plan.ofValid m r = .error (.invalidMetadata m.entity (.problems m.problems)) := by
      rw [Plan.ofValid, hinvalid]
      rfl
    exact .inl ⟨by rw [hinvalid]; nofun, _, observe_of_error hplan⟩

/-! ### Blame -/

theorem status_eq_400_iff {e : QueryError} : e.status = 400 ↔ e.isClientError = true := by
  rw [QueryError.status]
  split <;> simp [*]

theorem status_eq_500_iff {e : QueryError} : e.status = 500 ↔ e.isClientError = false := by
  rw [QueryError.status]
  split <;> simp [*]

/-- The request is answered by an error of the given status. -/
def Refused (fetch : Store σ α) (m : Metadata) (r : Parameters) (s : σ) (status : Nat) : Prop :=
  ∃ e, (observe fetch m r s).1 = some (.error e) ∧ e.status = status

/-- The store is asked, and fails with `e`. -/
def StoreFails (fetch : Store σ α) (m : Metadata) (r : Parameters) (s : σ) (e : QueryError) :
    Prop :=
  m.ensureValid = .ok () ∧ ∃ plan, Plan.build m r = .ok plan ∧ given? fetch plan s = some (.error e)

/-- No failure of a store puts the blame on the request. -/
def IsServerSide (fetch : Store σ α) : Prop :=
  ∀ plan s e, given? fetch plan s = some (.error e) → e.isClientError = false

/-- Rows in memory never fail, though they may not be answered. -/
theorem given?_inMemory_ne_error (rows : List Json) (plan : Plan) (s : σ) (e : QueryError) :
    given? (inMemory rows) plan s ≠ some (.error e) := by
  intro h
  obtain ⟨found, -, hfound⟩ := Option.map_eq_some_iff.1 h
  cases hfound

theorem isServerSide_inMemory (rows : List Json) : IsServerSide (inMemory (σ := σ) rows) :=
  fun plan s e h => absurd h (given?_inMemory_ne_error rows plan s e)

/-- The failures of a database are its own, however it comes to them. -/
theorem isServerSide_inDatabase (server : Conversation.Server)
    (sessions : Plan → Database.Session (List α × Nat)) :
    IsServerSide (inDatabase server sessions) := by
  intro plan sent e h
  have hanswer : ((Database.answer (sessions plan)).runAfter server sent).1 = .error e :=
    Option.some.inj h
  rw [Database.runAfter_answer] at hanswer
  cases hfound : (Database.after server sent (sessions plan)).1 with
  | ok found => rw [hfound] at hanswer; cases hanswer
  | error fault => rw [hfound] at hanswer; cases hanswer; rfl

theorem refused_400_iff :
    Refused fetch m r s 400 ↔ (m.ensureValid = .ok () ∧ ∃ e, Plan.build m r = .error e) ∨
      ∃ e, StoreFails fetch m r s e ∧ e.isClientError = true := by
  rcases ways fetch m r s with ⟨hinvalid, fault, h⟩ | ⟨hvalid, e, hbuild, hblame, h⟩ |
    ⟨hvalid, plan, hbuild, h⟩
  · simp [Refused, StoreFails, h, hinvalid, status_eq_400_iff, QueryError.isClientError]
  · simp [Refused, StoreFails, h, hvalid, hbuild, hblame, status_eq_400_iff]
  · simp only [Refused, StoreFails, h, hvalid, hbuild, status_eq_400_iff, Option.map_eq_some_iff,
      map_eq_error_iff]
    simp

theorem refused_500_iff :
    Refused fetch m r s 500 ↔ m.ensureValid ≠ .ok () ∨
      ∃ e, StoreFails fetch m r s e ∧ e.isClientError = false := by
  rcases ways fetch m r s with ⟨hinvalid, fault, h⟩ | ⟨hvalid, e, hbuild, hblame, h⟩ |
    ⟨hvalid, plan, hbuild, h⟩
  · simp [Refused, StoreFails, h, hinvalid, status_eq_500_iff, QueryError.isClientError]
  · simp [Refused, StoreFails, h, hvalid, hbuild, hblame, status_eq_500_iff]
  · simp only [Refused, StoreFails, h, hvalid, hbuild, status_eq_500_iff, Option.map_eq_some_iff,
      map_eq_error_iff]
    simp

/-- The blame is where the fault is: on the client if the request is at fault, on the server if the
metadata are not valid or the store fails. -/
structure BlamesRightly (fetch : Store σ α) (m : Metadata) (r : Parameters) (s : σ) : Prop where
  client : Refused fetch m r s 400 ↔ m.ensureValid = .ok () ∧ ∃ e, Plan.build m r = .error e
  server : Refused fetch m r s 500 ↔ m.ensureValid ≠ .ok () ∨ ∃ e, StoreFails fetch m r s e

theorem IsServerSide.blamesRightly (h : IsServerSide fetch) (m : Metadata) (r : Parameters)
    (s : σ) : BlamesRightly fetch m r s := by
  have hclass {e : QueryError} (hfails : StoreFails fetch m r s e) : e.isClientError = false := by
    obtain ⟨-, plan, -, hgiven⟩ := hfails
    exact h plan s e hgiven
  constructor
  case client =>
    refine refused_400_iff.trans (or_iff_left ?_)
    rintro ⟨e, hfails, hblame⟩
    rw [hclass hfails] at hblame
    cases hblame
  case server =>
    refine refused_500_iff.trans (or_congr_right ?_)
    exact exists_congr fun e => and_iff_left_of_imp hclass

/-- What the answer to a request, and the plans that the store is asked for, tell. -/
structure Accounts (fetch : Store σ α) (m : Metadata) (r : Parameters) (s : σ) : Prop where
  /-- Where the metadata are valid, the request is planned or is at fault. -/
  planned : m.ensureValid = .ok () → (∃ plan, Plan.build m r = .ok plan) ∨
    ∃ e, Plan.build m r = .error e ∧ e.isClientError = true
  /-- The store is asked once, where there is a plan. -/
  asked : ∀ plan, m.ensureValid = .ok () → Plan.build m r = .ok plan →
    (observe fetch m r s).2 = [plan]
  /-- Where there is none, the store is not asked. -/
  notAsked : (¬∃ plan, m.ensureValid = .ok () ∧ Plan.build m r = .ok plan) →
    (observe fetch m r s).2 = []
  /-- The client is blamed where the request is at fault, or where the store blames it. -/
  blamesClient : Refused fetch m r s 400 ↔ (m.ensureValid = .ok () ∧ ∃ e, Plan.build m r = .error e) ∨
    ∃ e, StoreFails fetch m r s e ∧ e.isClientError = true
  /-- The server is blamed where the metadata are not valid, or where the store fails otherwise. -/
  blamesServer : Refused fetch m r s 500 ↔ m.ensureValid ≠ .ok () ∨
    ∃ e, StoreFails fetch m r s e ∧ e.isClientError = false
  /-- A store whose failures are its own leaves the blame where it is. -/
  ofServerSide : IsServerSide fetch → BlamesRightly fetch m r s
  /-- There is no answer only where the store is asked and does not answer. -/
  notAnswered : (observe fetch m r s).1 = none ↔
    m.ensureValid = .ok () ∧ ∃ plan, Plan.build m r = .ok plan ∧ given? fetch plan s = none
  /-- What is wrong on the server's side is not told. -/
  body : ∀ e, (observe fetch m r s).1 = some (.error e) → e.status = 500 →
    e.body = "internal server error"

theorem accounts (fetch : Store σ α) (m : Metadata) (r : Parameters) (s : σ) :
    Accounts fetch m r s where
  planned hvalid := by
    cases hbuild : Plan.build m r with
    | error e => exact .inr ⟨e, rfl, Plan.build_blamesRequest hvalid r e hbuild⟩
    | ok plan => exact .inl ⟨plan, rfl⟩
  asked plan hvalid hbuild := by
    have hplan : Plan.ofValid m r = .ok plan := by
      rw [Plan.ofValid, hvalid]
      exact hbuild
    rw [observe_of_ok hplan]
  notAsked hnone := by
    rcases ways fetch m r s with ⟨-, fault, h⟩ | ⟨-, e, -, -, h⟩ | ⟨hvalid, plan, hbuild, -⟩
    · rw [h]
    · rw [h]
    · exact absurd ⟨plan, hvalid, hbuild⟩ hnone
  blamesClient := refused_400_iff
  blamesServer := refused_500_iff
  ofServerSide hstore := hstore.blamesRightly m r s
  notAnswered := by
    rcases ways fetch m r s with ⟨hinvalid, fault, h⟩ | ⟨hvalid, e, hbuild, -, h⟩ |
      ⟨hvalid, plan, hbuild, h⟩
    · simp [h, hinvalid]
    · simp [h, hbuild]
    · simp [h, hvalid, hbuild]
  body e _ hstatus := by
    rw [QueryError.body, status_eq_500_iff.1 hstatus]
    rfl

/-- **The answer to a request tells who is to blame**, and the store is asked once for a plan, or
not at all.  With rows in memory and with a database the blame is where the fault is. -/
theorem accounts_observe (m : Metadata) (r : Parameters) :
    (∀ (fetch : Store σ α) (s : σ), Accounts fetch m r s) ∧
      (∀ (rows : List Json) (s : σ), BlamesRightly (inMemory rows) m r s ∧
        (observe (inMemory rows) m r s).1 = executeInMemory rows m r) ∧
      ∀ (server : Conversation.Server) (sessions : Plan → Database.Session (List α × Nat)),
        BlamesRightly (inDatabase server sessions) m r [] ∧
          (observe (inDatabase server sessions) m r []).1 =
            some ((executeInDatabase sessions m r).run server).1 := by
  refine ⟨fun fetch s => accounts fetch m r s, fun rows s => ⟨?_, observe_inMemory rows m r s⟩,
    fun server sessions => ⟨?_, observe_inDatabase server sessions m r⟩⟩
  · exact (isServerSide_inMemory rows).blamesRightly m r s
  · exact (isServerSide_inDatabase server sessions).blamesRightly m r []

/-- A server that refuses everything. -/
theorem accounts_observe_refusing :
    IsServerSide (inDatabase (fun _ => .refused "gone") (Database.fetchJson none)) ∧
      BlamesRightly (inDatabase (fun _ => .refused "gone") (Database.fetchJson none))
        Sample.product Parameters.default [] ∧
      Refused (inDatabase (fun _ => .refused "gone") (Database.fetchJson none))
        Sample.product Parameters.default [] 500 := by
  have hserver := isServerSide_inDatabase (fun _ => .refused "gone") (Database.fetchJson none)
  have haccounts := (accounts_observe Sample.product Parameters.default).1
    (inDatabase (fun _ => .refused "gone") (Database.fetchJson none)) []
  exact ⟨hserver, haccounts.ofServerSide hserver, _, rfl, rfl⟩

/-- **A store may put the blame on the client** for a request that is not at fault.  And a store that
would fail is not asked for a request that is: the client is to blame. -/
theorem not_blamesRightly_failing :
    (¬ ∀ (fetch : Store Unit Json) (m : Metadata) (r : Parameters), BlamesRightly fetch m r ()) ∧
      (∃ plan, Plan.build Sample.product Parameters.default = .ok plan) ∧
      Refused (failing (.disallowedField "name") : Store Unit Json) Sample.product
        Parameters.default () 400 ∧
      observe (failing (.database .unexpected) : Store Unit Json) Sample.product
        (Parameters.default.withFilters ["nope"]) () =
          (some (.error (.malformedFilter "nope" .missingPart)), []) := by
  have hplan : ∃ plan, Plan.build Sample.product Parameters.default = .ok plan := ⟨_, rfl⟩
  have hrefused : Refused (failing (.disallowedField "name") : Store Unit Json) Sample.product
      Parameters.default () 400 := ⟨_, rfl, rfl⟩
  refine ⟨fun h => ?_, hplan, hrefused, rfl⟩
  obtain ⟨-, e, he⟩ := (h _ _ _).client.1 hrefused
  obtain ⟨plan, hbuild⟩ := hplan
  cases hbuild.symm.trans he

end Engine

end ListQuery
