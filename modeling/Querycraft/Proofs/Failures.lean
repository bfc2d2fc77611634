/-
  Querycraft.Proofs.Failures — what a request that fails leaves behind.

  A step that fails keeps what it had done to the draft by then. Most requests first find
  out all they need, on the draft as it is or on an offshoot, and only then change the
  draft; these leave no trace when they fail. Three go on bit by bit: a predicate pushes
  its fragments up to the fault, a template takes over the parameters of the arguments
  before the one that fails, and an UPDATE keeps the assignments before the one that
  fails. Proved, for every draft and all arguments:
  (1) a step that reads and then changes leaves no trace (`Intact.then_modify`,
      `Reads.chain`), and so does every request of the first kind;
  (2) binding only ever adds entries to the parameters (`Parameters.extend_eq_append`), so
      the others leave a draft that goes on from the earlier one in the clause they write
      and in nothing else (`extends_of_predicate`, `extends_of_templated`,
      `extends_of_update`);
  (3) both as one law about requests (`failed_request_only_adds`).
-/

import Querycraft.Proofs.Numbering

namespace Querycraft

/-! ## (1) Steps that leave no trace -/

namespace Drafting

def Fails (step : Drafting α) (d : Draft) (e : Error) (d' : Draft) : Prop :=
  step.run d = (.error e, d')

theorem fails_bind {step : Drafting α} {next : α → Drafting β} {e : Error} {d d'' : Draft} :
    Fails (step >>= next) d e d'' ↔
      Fails step d e d'' ∨ ∃ a d', Gives step d a d' ∧ Fails (next a) d' e d'' := by
  simp only [Fails, Gives, run_bind]
  rcases step.run d with ⟨result, d'⟩
  cases result with
  | ok a =>
    constructor
    · intro h
      exact .inr ⟨a, d', rfl, h⟩
    · rintro (h | ⟨b, d₁, first, second⟩)
      · cases h
      · cases first
        exact second
  | error e' =>
    constructor
    · intro h
      cases h
      exact .inl rfl
    · rintro (h | ⟨b, d₁, first, -⟩)
      · cases h
        rfl
      · cases first

theorem not_fails_pure {a : α} {e : Error} {d d' : Draft} : ¬ Fails (pure a) d e d' := by
  intro h
  cases h

theorem not_fails_modify {f : Draft → Draft} {e : Error} {d d' : Draft} :
    ¬ Fails (modify f : Drafting Unit) d e d' := by
  intro h
  cases h

theorem fails_modify_then {f : Draft → Draft} {next : Drafting α} {e : Error} {d d' : Draft}
    (h : Fails (do modify f; next) d e d') : Fails next (f d) e d' := by
  rcases fails_bind.mp h with first | ⟨_, d₁, first, second⟩
  · exact absurd first not_fails_modify
  · obtain rfl := gives_modify.mp first
    exact second

def Reads (step : Drafting α) : Prop := ∀ d, (step.run d).2 = d

/-- The step changes nothing if it fails. -/
def Intact (step : Drafting α) : Prop := ∀ d e d', Fails step d e d' → d' = d

theorem Reads.intact {step : Drafting α} (h : Reads step) : Intact step := by
  intro d e d' failed
  have same := h d
  rw [show step.run d = (.error e, d') from failed] at same
  exact same

/-- After a step that only reads, the rest starts from the draft as it was. -/
theorem Reads.chain {step : Drafting α} {next : α → Drafting β} (h : Reads step) (rest : ∀ a, Intact (next a)) :
    Intact (step >>= next) := by
  intro d e d'' failed
  rcases fails_bind.mp failed with first | ⟨a, d', first, second⟩
  · exact h.intact d e d'' first
  · have same := h d
    rw [show step.run d = (.ok a, d') from first] at same
    obtain rfl : d' = d := same
    exact rest a d' e d'' second

/-- A change at the end does not fail any more. -/
theorem Intact.then_modify {step : Drafting α} (h : Intact step) (change : α → Draft → Draft) :
    Intact (do let a ← step; modify (change a)) := by
  intro d e d' failed
  rcases fails_bind.mp failed with first | ⟨a, d₁, -, second⟩
  · exact h d e d' first
  · exact absurd second not_fails_modify

theorem reads_throw (e : Error) : Reads (throw e : Drafting α) := fun _ => rfl

theorem reads_get : Reads (get : Drafting Draft) := fun _ => rfl

theorem intact_modify (f : Draft → Draft) : Intact (modify f : Drafting Unit) :=
  fun _ _ _ failed => absurd failed not_fails_modify

end Drafting

namespace Projected

theorem columns_of_ofEntries {fields : List (String × Expr)} {entries : List Projected}
    (h : ofEntries fields = .ok entries) : ∀ entry ∈ entries, ∃ c label, entry = .column c label := by
  induction fields generalizing entries with
  | nil =>
    obtain rfl := Except.ok.inj h
    simp
  | cons field rest ih =>
    obtain ⟨name, e⟩ := field
    simp only [ofEntries] at h
    cases column : Column.ofExpr e with
    | error error =>
      rw [column] at h
      cases h
    | ok c =>
      cases others : ofEntries rest with
      | error error =>
        rw [column, others] at h
        cases h
      | ok more =>
        rw [column, others] at h
        obtain rfl := Except.ok.inj h
        intro entry member
        rcases List.mem_cons.mp member with rfl | later
        · exact ⟨c, _, rfl⟩
        · exact ih others entry later

/-- A projection is one whole row, or columns. -/
theorem ofExpr_cases {e : Expr} {entries : List Projected} (h : ofExpr e = .ok entries) :
    (∃ table, entries = [.table table]) ∨ ∀ entry ∈ entries, ∃ c label, entry = .column c label := by
  unfold ofExpr at h
  split at h
  · exact .inl ⟨_, (Except.ok.inj h).symm⟩
  · exact .inr (columns_of_ofEntries h)
  · right
    cases column : Column.ofExpr e with
    | error error =>
      rw [column] at h
      cases h
    | ok c =>
      rw [column] at h
      obtain rfl := Except.ok.inj h
      intro entry member
      exact ⟨c, none, List.mem_singleton.mp member⟩

end Projected

namespace Draft

open Drafting

theorem reads_given (result : Except Error α) : Reads (given result) := by
  intro d
  cases result with
  | ok a => rfl
  | error e => rfl

theorem reads_columnOf (e : Expr) : Reads (columnOf e) := by
  rw [columnOf_eq]
  exact reads_given _

theorem reads_projectionOf (e : Expr) : Reads (projectionOf e) := by
  rw [projectionOf_eq]
  exact reads_given _

/-- What is drafted on the side does not touch the draft. -/
theorem reads_onOffshoot (table : String) (operation : Operation) (step : Drafting Unit) :
    Reads (onOffshoot table operation step) := by
  intro d
  unfold onOffshoot
  rw [run_bind, show (get : Drafting Draft).run d = (.ok d, d) from rfl]
  dsimp only
  split
  · rfl
  · rfl

/-- Another draft is taken over as a whole or not at all. -/
theorem intact_adopt (sub : Draft) : Intact (adopt sub) := by
  refine reads_get.chain fun d => ?_
  split
  · exact (reads_throw _).intact
  · exact intact_modify fun _ => _

theorem intact_join (kind : JoinKind) (table : String) (on : Draft) : Intact (join kind table on) :=
  (intact_adopt on).then_modify _

theorem intact_inQuery (column : Column) (negated : Bool) (query : Draft) : Intact (inQuery column negated query) := by
  unfold inQuery
  split
  · exact (reads_throw _).intact
  · exact (intact_adopt query).then_modify _

/-- A row is checked before any of its values is bound. -/
theorem intact_insertRow (row : List (String × Value)) : Intact (insertRow row) := by
  refine reads_get.chain fun d => ?_
  split
  · exact (reads_throw _).intact
  · split
    · exact (reads_throw _).intact
    · exact intact_modify fun _ => _

theorem intact_insert (entity : Entity) (record : Expr) : Intact (insert entity record) := by
  by_cases shape : record.shape = .record
  · cases record with
    | record entries => exact (reads_given _).chain fun row => intact_insertRow row
    | _ => cases shape
  · rw [insert_of_no_record shape]
    exact (reads_throw _).intact

theorem intact_insertValue (entity : Entity) (value : Value) : Intact (insertValue entity value) := by
  unfold insertValue
  split
  · exact intact_insertRow _
  · exact (reads_throw _).intact

theorem intact_having (function : String) (key : Expr) (op : Operator) (value : Value) :
    Intact (having function key op value) := by
  unfold having
  split
  · exact (reads_throw _).intact
  · exact (reads_columnOf key).intact.then_modify _

/-- Columns only: their functions are added without a failure. -/
theorem not_fails_selectFunctionOf (function : String) {entries : List Projected}
    (columns : ∀ entry ∈ entries, ∃ c label, entry = .column c label) {d d' : Draft} {e : Error} :
    ¬ Fails (selectFunctionOf function entries) d e d' := by
  induction entries generalizing d with
  | nil => exact not_fails_pure
  | cons entry rest ih =>
    obtain ⟨c, label, rfl⟩ := columns entry (by simp)
    intro failed
    rcases fails_bind.mp failed with first | ⟨_, d₁, -, second⟩
    · exact not_fails_modify first
    · exact ih (fun other member => columns other (by simp [member])) second

/-- A whole row is refused before any function is added: it is projected alone. -/
theorem intact_selectFunction (function : String) (e : Expr) : Intact (selectFunction function e) := by
  intro d error d' failed
  rcases fails_bind.mp failed with first | ⟨entries, d₁, first, second⟩
  · exact (reads_projectionOf e).intact d error d' first
  · obtain ⟨projected, rfl⟩ := gives_projectionOf.mp first
    rcases Projected.ofExpr_cases projected with ⟨table, rfl⟩ | columns
    · exact (reads_throw _).intact d error d' second
    · exact absurd second (not_fails_selectFunctionOf function columns)

end Draft

/-! ## (2) Steps that go on bit by bit -/

/-- Whatever a map is extended by comes behind its own entries. -/
theorem Parameters.extend_eq_append (p other : Parameters) : ∃ more, p.extend other = ⟨p.entries ++ more⟩ := by
  obtain ⟨entries⟩ := other
  induction entries generalizing p with
  | nil => exact ⟨[], by simp [extend]⟩
  | cons entry rest ih =>
    obtain ⟨name, value⟩ := entry
    rw [extend_cons]
    obtain ⟨more, extended⟩ := ih (p.add name value).1
    rw [extended]
    by_cases held : p.contains name = true
    · exact ⟨more, by simp [add, held]⟩
    · exact ⟨(name, value) :: more, by simp [add, held]⟩

namespace Draft

open Drafting

def extendedBy (d : Draft) (fragments : List (Fragment Placeholder)) (assignments : List Assignment)
    (entries : List (String × Value)) (count : Nat) : Draft :=
  { d with
    conditions := d.conditions ++ fragments
    assignments := d.assignments ++ assignments
    parameters := ⟨d.parameters.entries ++ entries⟩
    counter := d.counter + count }

theorem extendedBy_nothing (d : Draft) : d.extendedBy [] [] [] 0 = d := by
  simp [extendedBy]

theorem extendedBy_extendedBy (d : Draft) (fs fs' : List (Fragment Placeholder)) (as as' : List Assignment)
    (es es' : List (String × Value)) (n n' : Nat) :
    (d.extendedBy fs as es n).extendedBy fs' as' es' n' =
      d.extendedBy (fs ++ fs') (as ++ as') (es ++ es') (n + n') := by
  simp [extendedBy, Nat.add_assoc]

theorem bindValues_eq_extendedBy (d : Draft) (values : List Value) :
    ∃ entries, d.bindValues values = d.extendedBy [] [] entries values.length := by
  obtain ⟨entries, extended⟩ :=
    d.parameters.extend_eq_append ⟨d.numberedEntries (d.counter + 1) values⟩
  exact ⟨entries, by simp [bindValues, extendedBy, extended]⟩

theorem pushAll_of_fails_emit {emission : Emission} {e : Error} {d d' : Draft} (h : Fails (emit emission) d e d') :
    d' = d.pushAll emission.fragments := by
  have second := fails_modify_then h
  cases failure : emission.failure with
  | none =>
    rw [failure] at second
    exact absurd second not_fails_pure
  | some error =>
    rw [failure] at second
    exact (reads_throw error).intact _ _ _ second

/-- A predicate that fails has written some of its fragments. -/
theorem pushAll_of_fails_predicate {e : Expr} {error : Error} {d d' : Draft} (h : Fails (predicate e) d error d') :
    ∃ fragments, d' = d.pushAll fragments := by
  unfold predicate at h
  split at h
  · exact ⟨[], (reads_throw _).intact _ _ _ h⟩
  · exact ⟨_, pushAll_of_fails_emit h⟩

/-- A predicate that fails has added to the condition only. -/
theorem extends_of_predicate {e : Expr} {error : Error} {d d' : Draft} (h : Fails (predicate e) d error d') :
    ∃ fragments entries n, d' = d.extendedBy fragments [] entries n := by
  obtain ⟨fragments, rfl⟩ := pushAll_of_fails_predicate h
  obtain ⟨entries, bound⟩ := d.bindValues_eq_extendedBy (fragments.flatMap Fragment.operands)
  refine ⟨Fragment.numberedAll d.issued (d.counter + 1) fragments, entries,
    (fragments.flatMap Fragment.operands).length, ?_⟩
  rw [pushAll_eq, bound]
  simp [extendedBy]

theorem intact_renderArgument (e : Expr) : Intact (renderArgument e) := by
  refine reads_get.chain fun d => (reads_onOffshoot _ _ _).chain fun part => ?_
  intro d error d' failed
  rcases fails_bind.mp failed with first | ⟨_, d₁, -, second⟩
  · exact intact_adopt part d error d' first
  · exact absurd second not_fails_pure

/-- Of the arguments of a template, those before the one that fails have left their
    parameters. -/
theorem bindValues_of_fails_renderArguments {arguments : List Expr} {error : Error} {d d' : Draft}
    (h : Fails (renderArguments arguments) d error d') : ∃ values, d' = d.bindValues values := by
  induction arguments generalizing d with
  | nil => exact absurd h not_fails_pure
  | cons e rest ih =>
    rcases fails_bind.mp h with first | ⟨sql, d₁, first, second⟩
    · exact ⟨[], intact_renderArgument e d error d' first⟩
    · rcases fails_bind.mp second with others | ⟨sqls, d₂, -, last⟩
      · obtain ⟨rfl, -⟩ := adds_renderArgument first
        obtain ⟨values, rfl⟩ := ih others
        exact ⟨e.carried ++ values, (bindValues_append d e.carried values).symm⟩
      · exact absurd last not_fails_pure

theorem bindValues_of_fails_templated {template : String} {arguments : List Expr} {error : Error} {d d' : Draft}
    (h : Fails (templated template arguments) d error d') : ∃ values, d' = d.bindValues values := by
  unfold templated at h
  dsimp only at h
  split at h
  · exact ⟨[], (reads_throw _).intact _ _ _ h⟩
  · rcases fails_bind.mp h with first | ⟨rendered, d₁, -, second⟩
    · exact bindValues_of_fails_renderArguments first
    · exact absurd second not_fails_modify

/-- A template that fails has not touched the condition. -/
theorem extends_of_templated {template : String} {arguments : List Expr} {error : Error} {d d' : Draft}
    (h : Fails (templated template arguments) d error d') : ∃ entries n, d' = d.extendedBy [] [] entries n := by
  obtain ⟨values, rfl⟩ := bindValues_of_fails_templated h
  obtain ⟨entries, bound⟩ := d.bindValues_eq_extendedBy values
  exact ⟨entries, values.length, bound⟩

theorem intact_assignValue (entity : Entity) (member : String) (e : Expr) : Intact (assignValue entity member e) :=
  (reads_given _).intact.then_modify _

theorem intact_assignMethod (receiver : Expr) (method : String) (arguments : List Expr) :
    Intact (assignMethod receiver method arguments) := by
  refine (reads_columnOf receiver).chain fun column => ?_
  split
  · refine (reads_given _).chain fun values => ?_
    split
    · exact intact_modify _
    · exact (reads_throw _).intact
  · exact (reads_throw _).intact

theorem intact_assignEntry (entity : Entity) (member : String) (e : Expr) : Intact (assignEntry entity member e) := by
  unfold assignEntry
  split
  · split
    · exact intact_assignMethod _ _ _
    · exact intact_assignValue _ _ _
  · exact intact_assignValue _ _ _

/-- Of the assignments of an UPDATE, those before the one that fails are kept. -/
theorem assigns_of_fails_assignEntries {entity : Entity} {entries : List (String × Expr)} {error : Error}
    {d d' : Draft} (h : Fails (assignEntries entity entries) d error d') : ∃ values, Assigns values d d' := by
  induction entries generalizing d with
  | nil => exact absurd h not_fails_pure
  | cons entry rest ih =>
    obtain ⟨member, e⟩ := entry
    rcases fails_bind.mp h with first | ⟨_, d₁, first, second⟩
    · obtain rfl := intact_assignEntry entity member e d error d' first
      exact ⟨[], [], by simp, rfl⟩
    · obtain ⟨values, others⟩ := ih second
      exact ⟨e.assigned ++ values, (assigns_assignEntry first).trans others⟩

theorem assigns_of_fails_update {entity : Entity} {assignments : Expr} {error : Error} {d d' : Draft}
    (h : Fails (update entity assignments) d error d') : ∃ values, Assigns values d d' := by
  by_cases shape : assignments.shape = .record
  · cases assignments with
    | record entries => exact assigns_of_fails_assignEntries h
    | _ => cases shape
  · rw [update_of_no_record shape] at h
    obtain rfl := (reads_throw _).intact _ _ _ h
    exact ⟨[], [], by simp, rfl⟩

theorem extends_of_update {entity : Entity} {assignments : Expr} {error : Error} {d d' : Draft}
    (h : Fails (update entity assignments) d error d') :
    ∃ added bound n, d' = d.extendedBy [] added bound n := by
  obtain ⟨values, added, rfl, -⟩ := assigns_of_fails_update h
  obtain ⟨bound, same⟩ := d.bindValues_eq_extendedBy values
  refine ⟨added, bound, values.length, ?_⟩
  rw [same]
  simp [extendedBy]

/-! ## (3) Requests -/

inductive Request where
  | predicate (e : Expr)
  | templated (template : String) (arguments : List Expr)
  | update (entity : Entity) (assignments : Expr)
  | select (projection : Expr)
  | selectFunction (function : String) (projection : Expr)
  | orderBy (key : Expr) (descending : Bool)
  | groupBy (key : Expr)
  | having (function : String) (key : Expr) (op : Operator) (value : Value)
  | join (kind : JoinKind) (table : String) (on : Expr)
  | keyIn (key : Expr) (negated : Bool) (values : List Value)
  | keyInQuery (key : Expr) (negated : Bool) (query : Draft)
  | keyBetween (key : Expr) (negated : Bool) (low high : Value)
  | insert (entity : Entity) (record : Expr)
  | insertValue (entity : Entity) (value : Value)

namespace Request

def run : Request → Drafting Unit
  | .predicate e => Draft.predicate e
  | .templated template arguments => Draft.templated template arguments
  | .update entity assignments => Draft.update entity assignments
  | .select projection => Draft.select projection
  | .selectFunction function projection => Draft.selectFunction function projection
  | .orderBy key descending => Draft.orderBy key descending
  | .groupBy key => Draft.groupBy key
  | .having function key op value => Draft.having function key op value
  | .join kind table on => joinOn kind table on
  | .keyIn key negated values => Draft.keyIn key negated values
  | .keyInQuery key negated query => Draft.keyInQuery key negated query
  | .keyBetween key negated low high => Draft.keyBetween key negated low high
  | .insert entity record => Draft.insert entity record
  | .insertValue entity value => Draft.insertValue entity value

/-- What a request may leave of itself when it fails: a predicate some of its fragments, an
    UPDATE some of its assignments, a template nothing but parameters, the others nothing. -/
def Leaves (d d' : Draft) : Request → Prop
  | .predicate _ => ∃ fragments entries n, d' = d.extendedBy fragments [] entries n
  | .templated .. => ∃ entries n, d' = d.extendedBy [] [] entries n
  | .update .. => ∃ assignments entries n, d' = d.extendedBy [] assignments entries n
  | _ => d' = d

end Request

/-- (3) A request that fails leaves the draft as it was, or, if it is one of the three that
    go on bit by bit, with more at the end of the clause it writes, more parameters behind
    those that were there, a counter that is not behind, and all else unchanged. -/
theorem failed_request_only_adds (r : Request) {d d' : Draft} {e : Error} (h : r.run.run d = (.error e, d')) :
    r.Leaves d d' := by
  cases r with
  | predicate e => exact extends_of_predicate h
  | templated template arguments => exact extends_of_templated h
  | update entity assignments => exact extends_of_update h
  | select projection => exact (reads_projectionOf projection).intact.then_modify _ d e d' h
  | selectFunction function projection => exact intact_selectFunction function projection d e d' h
  | orderBy key descending => exact (reads_columnOf key).intact.then_modify _ d e d' h
  | groupBy key => exact (reads_columnOf key).intact.then_modify _ d e d' h
  | having function key op value => exact intact_having function key op value d e d' h
  | join kind table on => exact (reads_onOffshoot _ _ _).chain (intact_join kind table) d e d' h
  | keyIn key negated values => exact (reads_columnOf key).intact.then_modify _ d e d' h
  | keyInQuery key negated query =>
    exact (reads_columnOf key).chain (fun column => intact_inQuery column negated query) d e d' h
  | keyBetween key negated low high => exact (reads_columnOf key).intact.then_modify _ d e d' h
  | insert entity record => exact intact_insert entity record d e d' h
  | insertValue entity value => exact intact_insertValue entity value d e d' h

/-- Of `a = 1 AND b < NULL` all that comes before the second comparison is left. -/
theorem failed_request_only_adds_midway :
    let t : Entity := { name := "T", table := "T", columns := [] }
    let r : Request := .predicate (.binary .and (.binary .equal (.field t "a") (.constant (.int 1)))
      (.binary .less (.field t "b") (.constant .null)))
    let d := onTable .sqlite "T"
    ∃ d', r.run.run d = (.error (.nullOrdered .less), d') ∧ r.Leaves d d' ∧
      d'.conditions.length = 3 ∧ d'.parameters.entries.length = 1 ∧ d'.counter = 1 := by
  intro t r d
  have failed : r.run.run d = (.error (.nullOrdered .less), (r.run.run d).2) := rfl
  exact ⟨_, failed, failed_request_only_adds r failed, rfl, rfl, rfl⟩

end Draft

end Querycraft
