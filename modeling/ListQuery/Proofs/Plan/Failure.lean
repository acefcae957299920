import ListQuery.Proofs.Metadata.Contract
import ListQuery.Proofs.Plan.Build

/-!
# When a request is not planned

* `BlamesRequest` : a computation that fails only where the request is at fault;
* `BlamesRequest.bind`, `BlamesRequest.mapM`, `BlamesRequest.foldlM` : it is made of such parts;
* `Plan.build_blamesRequest` : planning is one, if the metadata are valid.
-/

namespace ListQuery

variable {α β : Type}

/-- A computation that fails only where the request is at fault. -/
def BlamesRequest (x : Except QueryError α) : Prop :=
  ∀ e, x = .error e → e.isClientError = true

namespace BlamesRequest

variable {x : Except QueryError α} {f : α → Except QueryError β}

theorem ok (a : α) : BlamesRequest (.ok a : Except QueryError α) :=
  nofun

theorem error {e : QueryError} (h : e.isClientError = true) :
    BlamesRequest (.error e : Except QueryError α) := by
  intro e' he
  cases he
  exact h

theorem bind (hx : BlamesRequest x) (hf : ∀ a, BlamesRequest (f a)) : BlamesRequest (x >>= f) := by
  cases x with
  | error e => exact error (hx e rfl)
  | ok a => exact hf a

theorem map (hx : BlamesRequest x) (f : α → β) : BlamesRequest (x.map f) := by
  cases x with
  | error e => exact error (hx e rfl)
  | ok a => exact ok (f a)

theorem mapM {items : List α} (h : ∀ a ∈ items, BlamesRequest (f a)) :
    BlamesRequest (items.mapM f) := by
  induction items with
  | nil => exact ok []
  | cons a items ih =>
    rw [List.mapM_cons]
    refine (h a List.mem_cons_self).bind fun b => ?_
    exact (ih fun c hc => h c (List.mem_cons_of_mem _ hc)).bind fun bs => ok (b :: bs)

theorem foldlM {step : β → α → Except QueryError β} (h : ∀ b a, BlamesRequest (step b a))
    (items : List α) (b : β) : BlamesRequest (items.foldlM step b) := by
  induction items generalizing b with
  | nil => exact ok b
  | cons a items ih =>
    rw [List.foldlM_cons]
    exact (h b a).bind ih

end BlamesRequest

/-! ### Filters -/

namespace Clause

theorem parse_blamesRequest (raw : String) : BlamesRequest (parse raw) := by
  have hmalformed (fault : ClauseFault) :
      BlamesRequest (.error (.malformedFilter raw fault) : Except QueryError Clause) :=
    .error rfl
  unfold parse
  dsimp only
  split
  · exact hmalformed _
  · split
    · exact hmalformed _
    · split
      · exact hmalformed _
      · split
        · exact hmalformed _
        · exact .ok _

theorem cast_blamesRequest (name : String) (type : FieldType) (raw : String) :
    BlamesRequest (Value.cast name type raw) := by
  rw [Value.cast]
  cases Value.read type raw with
  | error fault => exact .error rfl
  | ok v => exact .ok v

theorem lower_blamesRequest (c : Clause) (field : Field) : BlamesRequest (c.lower field) := by
  have hcast : BlamesRequest (c.castValue field) := cast_blamesRequest _ _ _
  have hunsupported : BlamesRequest (.error (c.unsupported field) : Except QueryError Predicate) :=
    .error rfl
  have hmatches : BlamesRequest (c.lowerMatches field) := by
    rw [lowerMatches]
    split
    · exact .ok _
    · exact hunsupported
  rw [lower]
  split
  case h_1 =>
    split
    · exact hcast.map _
    · exact hunsupported
  case h_2 => exact hcast.map _
  case h_3 => exact hcast.map _
  case h_4 =>
    split
    · exact hcast.map _
    · exact hmatches
  case h_5 => exact hmatches
  case h_6 =>
    split
    · exact .error rfl
    · exact (BlamesRequest.mapM fun raw _ => cast_blamesRequest _ _ _).map _

end Clause

/-! ### Requests -/

variable {m : Metadata}

namespace Metadata

/-- In valid metadata every path that a request may name is a field. -/
theorem exists_resolve (h : m.ensureValid = .ok ()) (path : String)
    (hpath : path ∈ m.searchFields ++ m.filterFields ++ m.sortFields) :
    ∃ field, m.resolve path = .ok field := by
  obtain ⟨-, -, -, hpaths, -⟩ := ensureValid_eq_ok_iff.1 h
  obtain ⟨field, hfield, -⟩ := hpaths path (mem_declaredPaths.2 hpath)
  exact ⟨field, hfield⟩

end Metadata

namespace Builder

theorem addRaw_blamesRequest (h : m.ensureValid = .ok ()) (b : Builder) (raw : String) :
    BlamesRequest (addRaw m b raw) := by
  refine (Clause.parse_blamesRequest raw).bind fun c => ?_
  rw [addFilter]
  split
  case isTrue hmem =>
    -- The path is the one that was checked to be allowed, not the name in the filter.
    rw [List.contains_iff_mem] at hmem
    obtain ⟨field, hfield⟩ := m.exists_resolve h (m.resolveAlias c.field) (by simp [hmem])
    rw [hfield]
    exact (BlamesRequest.ok field).bind fun field =>
      (c.lower_blamesRequest field).bind fun p => .ok _
  case isFalse => exact .error rfl

theorem addSearch_blamesRequest (h : m.ensureValid = .ok ()) (b : Builder) (term : String) :
    BlamesRequest (addSearch m b term) := by
  rw [addSearch]
  split
  · exact .ok b
  case h_2 needle _ =>
    have hmatches : BlamesRequest (searchMatches m needle) := by
      refine .mapM fun path hpath => ?_
      obtain ⟨field, hfield⟩ := m.exists_resolve h path (by simp [hpath])
      rw [hfield]
      exact .ok _
    refine hmatches.bind fun ps => ?_
    split
    · exact .ok b
    · exact .ok _

end Builder

/-- **Where the metadata are valid, a request that is not planned is at fault itself.** -/
theorem Plan.build_blamesRequest (h : m.ensureValid = .ok ()) (r : Parameters) :
    BlamesRequest (build m r) := by
  have hbuilder : BlamesRequest (builder m r) := by
    refine (BlamesRequest.foldlM (Builder.addRaw_blamesRequest h) r.filters _).bind fun b => ?_
    cases r.search with
    | none => exact .ok b
    | some term => exact Builder.addSearch_blamesRequest h b term
  exact hbuilder.bind fun b => .ok _

end ListQuery
