/-
  Querycraft.Proofs.Numbering — the parameters of a program are numbered in call order.

  `Step.carried` lists the values that a step passes on, in the order a caller writes
  them: the values of a predicate from left to right, the members of a list, both ends
  of a range, the entries of a record, and for a sub-query those of its own program.
  `Step.spliced` lists the placeholders that the step puts into text, in the same order;
  it follows the step into the drafts on the side, where that text is written.

  Proved, for a program of any length with sub-queries nested to any depth:
  (1) every step binds the values it carries, in order, and nothing else, and the
      placeholders it splices are the next ones (`run_adds`);
  (2) so a query that begins at `start` ends with its parameters numbered without a gap
      from there on, and the `k`-th value shows as the `k`-th placeholder
      (`program_parameters_numbered`).
-/

import Querycraft.Proofs.Drafting
import Querycraft.Proofs.Emission
import Querycraft.Proofs.Slots

namespace Querycraft

/-! ## What a program carries -/

namespace Expr

def carried (e : Expr) : List Value :=
  match Term.resolve e with
  | .ok term => term.operands
  | .error _ => []

def worth (e : Expr) : List Value :=
  match e.evaluate with
  | .ok value => [value]
  | .error _ => []

/-- The values of an assignment: the arguments of a method on a column, or the value
    assigned. -/
def assigned : Expr → List Value
  | .invoke receiver method arguments none =>
    if receiver.rowEntity?.isSome then arguments.flatMap worth
    else worth (.invoke receiver method arguments none)
  | e => e.worth

def entries : Expr → List (String × Expr)
  | .record entries => entries
  | _ => []

end Expr

namespace Step

def captured (entity : Entity) : Except String Json → List Value
  | .ok (.object members) => (Draft.rowOfMembers entity members).map Prod.snd
  | _ => []

mutual

/-- The values a step carries, in the order it passes them. -/
def carried (entity : Entity) : Step → List Value
  | .filter e => e.carried
  | .orFilter e => e.carried
  | .filterTemplate _ arguments => arguments.flatMap Expr.carried
  | .filterIn _ _ members => members
  | .filterInQuery _ _ other program => carriedAll other program
  | .filterBetween _ _ low high => [low, high]
  | .orFilterBetween _ low high => [low, high]
  | .having _ _ _ v => [v]
  | .join _ _ on => on.carried
  | .values e => e.entries.flatMap fun (_, e) => e.worth
  | .value document => captured entity document
  | .set e => e.entries.flatMap fun (_, e) => e.assigned
  | _ => []

def carriedAll (entity : Entity) : List Step → List Value
  | [] => []
  | step :: rest => carried entity step ++ carriedAll entity rest

end

end Step

/-! ## What a program splices -/

namespace Draft

/-- The draft after a step, wherever the step stopped. -/
def after (d : Draft) (step : Drafting α) : Draft := (step.run d).2

/-- The placeholders of the entries that a draft has beyond an earlier one. -/
def splicedSince (d d' : Draft) : List Placeholder :=
  (d'.conditions.drop d.conditions.length).flatMap Fragment.operands
    ++ (d'.groupTests.drop d.groupTests.length).map GroupTest.value
    ++ (d'.assignments.drop d.assignments.length).flatMap Assignment.operands
    ++ (d'.rows.drop d.rows.length).flatMap (·.map Prod.snd)

def splicedAside (d : Draft) (table : String) (e : Expr) : List Placeholder :=
  (d.offshoot table .condition).splicedSince ((d.offshoot table .condition).after (predicate e))

def splicedArguments (d : Draft) : List Expr → List Placeholder
  | [] => []
  | e :: rest => d.splicedAside d.table e ++ splicedArguments (d.after (renderArgument e)) rest

end Draft

namespace Step

mutual

/-- The placeholders that a step puts into text, in the order it passes their values. -/
def spliced (entity : Entity) (d : Draft) : Step → List Placeholder
  | .filterTemplate _ arguments => d.conjoined.splicedArguments arguments
  | .filterInQuery _ _ other program => splicedAll other (d.conjoined.offshoot other.table .select) program
  | .join _ other on => d.splicedAside other.table on
  | step => d.splicedSince (d.after (run entity step))

def splicedAll (entity : Entity) (d : Draft) : List Step → List Placeholder
  | [] => []
  | step :: rest => spliced entity d step ++ splicedAll entity (d.after (run entity step)) rest

end

end Step

theorem Fragment.slots_numbered (issue : Nat → Placeholder) (i : Nat) {fragment : Fragment Value}
    (plain : fragment.isPlain = true) :
    (fragment.numbered issue i).slots = (fragment.numbered issue i).operands := by
  cases fragment with
  | inQuery c negated query => cases plain
  | verbatim sql => cases plain
  | _ => rfl

/-! ## Drafts that take on values -/

namespace Draft

open Drafting

theorem after_of_gives {step : Drafting α} {a : α} {d d' : Draft} (h : Gives step d a d') :
    d.after step = d' := congrArg Prod.snd h

/-- A draft that took on exactly these values; what it shows beyond the earlier draft
    are their placeholders. -/
structure Adds (values : List Value) (d d' : Draft) : Prop extends Binds values d d' where
  slots : ∀ p ∈ d'.slots, p ∈ d.slots ∨ p ∈ d.upcoming values.length

theorem Adds.trans {first second : List Value} {d d' d'' : Draft} (h : Adds first d d')
    (h' : Adds second d' d'') : Adds (first ++ second) d d'' := by
  refine ⟨h.toBinds.trans h'.toBinds, fun p member => ?_⟩
  rw [List.length_append, h.upcoming_append, List.mem_append]
  rcases h'.slots p member with old | new
  · rcases h.slots p old with older | newer
    · exact .inl older
    · exact .inr (.inl newer)
  · exact .inr (.inr new)

section Extended

variable {d : Draft} {values : List Value}

theorem adds_conditions {new : List (Fragment Placeholder)}
    (h : ∀ p ∈ new.flatMap Fragment.slots, p ∈ d.upcoming values.length) :
    Adds values d { d.bindValues values with conditions := d.conditions ++ new } := by
  refine ⟨⟨rfl, rfl, rfl, rfl, rfl⟩, fun p member => ?_⟩
  have new := h p
  simp only [mem_slots, bindValues, List.flatMap_append, List.mem_append] at member ⊢
  grind

theorem adds_join {join : Join} {tables : List String} (h : ∀ p ∈ join.on.slots, p ∈ d.upcoming values.length) :
    Adds values d { d.bindValues values with tables, joins := d.joins ++ [join] } := by
  refine ⟨⟨rfl, rfl, rfl, rfl, rfl⟩, fun p member => ?_⟩
  have new := h p
  simp only [mem_slots, bindValues, List.flatMap_append, List.flatMap_singleton, List.mem_append] at member ⊢
  grind

end Extended

/-! ## Conditions -/

def Writes (values : List Value) (d d' : Draft) : Prop :=
  ∃ new : List (Fragment Placeholder),
    d' = { d.bindValues values with conditions := d.conditions ++ new } ∧
      new.flatMap Fragment.operands = d.upcoming values.length ∧
      new.flatMap Fragment.slots = d.upcoming values.length

theorem Writes.trans {first second : List Value} {d d' d'' : Draft} (h : Writes first d d')
    (h' : Writes second d' d'') : Writes (first ++ second) d d'' := by
  obtain ⟨new, rfl, operands, slots⟩ := h
  obtain ⟨more, rfl, operands', slots'⟩ := h'
  have next := (binds_bindValues d first).upcoming_append second.length
  refine ⟨new ++ more, ?_, ?_, ?_⟩
  · rw [bindValues_append]
    simp [bindValues, numberedEntries, parameterName]
  · rw [List.flatMap_append, operands, operands', List.length_append, next]
    rfl
  · rw [List.flatMap_append, slots, slots', List.length_append, next]
    rfl

theorem Writes.adds {values : List Value} {d d' : Draft} (h : Writes values d d') : Adds values d d' := by
  obtain ⟨new, rfl, -, slots⟩ := h
  exact adds_conditions fun p member => slots ▸ member

theorem Writes.splicedSince_eq {values : List Value} {d d' : Draft} (h : Writes values d d') :
    d.splicedSince d' = d.upcoming values.length := by
  obtain ⟨new, rfl, operands, -⟩ := h
  simp [splicedSince, bindValues, operands]

theorem writes_push {d : Draft} {fragment : Fragment Value} (plain : fragment.isPlain = true) :
    Writes fragment.operands d (d.push fragment) := by
  refine ⟨[fragment.numbered d.issued (d.counter + 1)], push_eq d fragment, ?_, ?_⟩
  · rw [List.flatMap_singleton, Fragment.operands_numbered]
    rfl
  · rw [List.flatMap_singleton, Fragment.slots_numbered _ _ plain, Fragment.operands_numbered]
    rfl

theorem writes_pushAll {d : Draft} {fragments : List (Fragment Value)}
    (plain : ∀ fragment ∈ fragments, fragment.isPlain = true) :
    Writes (fragments.flatMap Fragment.operands) d (d.pushAll fragments) := by
  induction fragments generalizing d with
  | nil => exact ⟨[], by simp [pushAll], rfl, rfl⟩
  | cons fragment rest ih =>
    have first : Writes fragment.operands d (d.push fragment) := writes_push (plain _ (by simp))
    exact first.trans (ih fun other member => plain other (by simp [member]))

theorem writes_joinedBy {connective : Fragment Value} (plain : connective.isPlain = true)
    (bare : connective.operands = []) (d : Draft) : Writes [] d (d.joinedBy connective) := by
  unfold joinedBy
  split
  · exact bare ▸ writes_push plain
  · exact ⟨[], by simp, rfl, rfl⟩

theorem writes_conjoined (d : Draft) : Writes [] d d.conjoined := writes_joinedBy rfl rfl d

theorem writes_disjoined (d : Draft) : Writes [] d d.disjoined := writes_joinedBy rfl rfl d

theorem writes_predicate {e : Expr} {d d' : Draft} (h : Gives (predicate e) d () d') :
    Writes e.carried d d' := by
  obtain ⟨term, resolved, emitted, rfl⟩ := gives_predicate.mp h
  have rules := Term.emits_of_emit term emitted
  have same : e.carried = term.emit.fragments.flatMap Fragment.operands := by
    simp only [Expr.carried, resolved, rules.operands_eq]
  rw [same]
  exact writes_pushAll rules.isPlain

theorem writes_keyIn {key : Expr} {negated : Bool} {values : List Value} {d d' : Draft}
    (h : Gives (keyIn key negated values) d () d') : Writes values d d' := by
  obtain ⟨c, -, rfl⟩ := gives_keyIn.mp h
  exact writes_push rfl

theorem writes_keyBetween {key : Expr} {negated : Bool} {low high : Value} {d d' : Draft}
    (h : Gives (keyBetween key negated low high) d () d') : Writes [low, high] d d' := by
  obtain ⟨c, -, rfl⟩ := gives_keyBetween.mp h
  exact writes_push rfl

/-! ## Text written on the side -/

/-- Adopting what was written on the side binds the values it took on, and its
    placeholders are the next ones. -/
theorem adopt_aside {values : List Value} {table : String} {operation : Operation} {d d' sub : Draft}
    (h : Adds values (d.offshoot table operation) sub) (adopted : Gives (adopt sub) d () d') :
    d' = d.bindValues values ∧ ∀ p ∈ sub.slots, p ∈ d.upcoming values.length := by
  have numbered : sub.Numbered d.counter ([] ++ values) :=
    (offshoot_numbered d table operation).binds h.toBinds
  refine ⟨gives_adopt numbered h.stem adopted, fun p member => ?_⟩
  rcases h.slots p member with old | new
  · cases old
  · exact new

theorem adds_joinOn {kind : JoinKind} {table : String} {on : Expr} {d d' : Draft}
    (h : Gives (joinOn kind table on) d () d') : Adds on.carried d d' := by
  obtain ⟨sub, d₁, written, adopted, rfl⟩ := gives_joinOn.mp h
  obtain ⟨rfl, shown⟩ := adopt_aside (writes_predicate written).adds adopted
  refine adds_join fun p member => shown p ?_
  rw [slots_conditionSql] at member
  exact mem_slots.mpr (.inr (.inl member))

theorem adds_keyInQuery {values : List Value} {table : String} {operation : Operation} {key : Expr}
    {negated : Bool} {d d' sub : Draft} (written : Adds values (d.offshoot table operation) sub)
    (h : Gives (keyInQuery key negated sub) d () d') : Adds values d d' := by
  obtain ⟨c, sql, d₁, -, command, adopted, rfl⟩ := gives_keyInQuery.mp h
  obtain ⟨rfl, shown⟩ := adopt_aside written adopted
  rw [push_eq]
  refine adds_conditions fun p member => shown p (mem_slots_command command ?_)
  rwa [List.flatMap_singleton] at member

theorem adds_renderArgument {e : Expr} {sql : Sql} {d d' : Draft} (h : Gives (renderArgument e) d sql d') :
    d' = d.bindValues e.carried ∧ ∀ p ∈ sql.slots, p ∈ d.upcoming e.carried.length := by
  obtain ⟨part, written, adopted, rfl⟩ := gives_renderArgument.mp h
  obtain ⟨same, shown⟩ := adopt_aside (writes_predicate written).adds adopted
  refine ⟨same, fun p member => shown p ?_⟩
  rw [slots_conditionSql] at member
  exact mem_slots.mpr (.inr (.inl member))

theorem adds_renderArguments {arguments : List Expr} {rendered : List Sql} {d d' : Draft}
    (h : Gives (renderArguments arguments) d rendered d') :
    d' = d.bindValues (arguments.flatMap Expr.carried) ∧
      ∀ p ∈ rendered.flatMap Sql.slots, p ∈ d.upcoming (arguments.flatMap Expr.carried).length := by
  induction arguments generalizing d rendered with
  | nil =>
    obtain ⟨rfl, rfl⟩ := gives_renderArguments_nil.mp h
    exact ⟨rfl, by simp⟩
  | cons e rest ih =>
    obtain ⟨sql, sqls, d₁, first, others, rfl⟩ := gives_renderArguments_cons.mp h
    obtain ⟨rfl, shown⟩ := adds_renderArgument first
    obtain ⟨rfl, shown'⟩ := ih others
    refine ⟨by rw [List.flatMap_cons, bindValues_append], fun p member => ?_⟩
    rw [List.flatMap_cons, List.length_append, (binds_bindValues d e.carried).upcoming_append, List.mem_append]
    rw [List.flatMap_cons, List.mem_append] at member
    rcases member with m | m
    · exact .inl (shown p m)
    · exact .inr (shown' p m)

/-- A template shows placeholders of its arguments only. -/
theorem mem_slots_fill {rendered : List Sql} {parts : List Template.Part} {p : Placeholder}
    (h : p ∈ (fill rendered parts).slots) : p ∈ rendered.flatMap Sql.slots := by
  rw [fill, Sql.slots_concat, List.mem_flatMap] at h
  obtain ⟨sql, member, shown⟩ := h
  obtain ⟨part, -, rfl⟩ := List.mem_map.mp member
  cases part with
  | char c => cases shown
  | place digits =>
    cases found : (Template.index? digits rendered.length).bind (rendered[·]?) with
    | none =>
      simp only [found, Option.getD_none] at shown
      cases shown
    | some sql =>
      simp only [found, Option.getD_some] at shown
      obtain ⟨i, -, at_i⟩ := Option.bind_eq_some_iff.mp found
      exact List.mem_flatMap.mpr ⟨sql, List.mem_of_getElem? at_i, shown⟩

theorem adds_templated {template : String} {arguments : List Expr} {d d' : Draft}
    (h : Gives (templated template arguments) d () d') : Adds (arguments.flatMap Expr.carried) d d' := by
  obtain ⟨-, rendered, d₁, written, rfl⟩ := gives_templated.mp h
  obtain ⟨rfl, shown⟩ := adds_renderArguments written
  rw [push_eq]
  refine adds_conditions fun p member => shown p ?_
  rw [List.flatMap_singleton] at member
  exact mem_slots_fill member

theorem splicedAside_eq {table : String} {e : Expr} {d sub : Draft}
    (h : Gives (predicate e) (d.offshoot table .condition) () sub) :
    d.splicedAside table e = d.upcoming e.carried.length := by
  rw [splicedAside, after_of_gives h, (writes_predicate h).splicedSince_eq]
  rfl

theorem splicedArguments_eq {arguments : List Expr} {rendered : List Sql} {d d' : Draft}
    (h : Gives (renderArguments arguments) d rendered d') :
    d.splicedArguments arguments = d.upcoming (arguments.flatMap Expr.carried).length := by
  induction arguments generalizing d rendered with
  | nil => rfl
  | cons e rest ih =>
    obtain ⟨sql, sqls, d₁, first, others, rfl⟩ := gives_renderArguments_cons.mp h
    obtain ⟨part, written, -, -⟩ := gives_renderArgument.mp first
    rw [splicedArguments, splicedAside_eq written, after_of_gives first, ih others, List.flatMap_cons,
      List.length_append, (adds_renderArgument first).1, (binds_bindValues d e.carried).upcoming_append]

/-! ## Entries of the other clauses -/

/-- A draft whose own entries, and not text written on the side, show the values that it
    took on. -/
structure Splices (values : List Value) (d d' : Draft) : Prop extends Adds values d d' where
  spliced : d.splicedSince d' = d.upcoming values.length

theorem Writes.splices {values : List Value} {d d' : Draft} (h : Writes values d d') : Splices values d d' :=
  ⟨h.adds, h.splicedSince_eq⟩

/-- A change to clauses that show no placeholder. -/
theorem splices_nothing {d d' : Draft} (binds : Binds [] d d') (joins : d'.joins = d.joins)
    (conditions : d'.conditions = d.conditions) (groupTests : d'.groupTests = d.groupTests)
    (assignments : d'.assignments = d.assignments) (rows : d'.rows = d.rows) : Splices [] d d' := by
  refine ⟨⟨binds, fun p member => .inl ?_⟩, ?_⟩
  · rwa [mem_slots, joins, conditions, groupTests, assignments, rows, ← mem_slots] at member
  · simp [splicedSince, conditions, groupTests, assignments, rows, upcoming]

theorem splices_groupTest {d : Draft} {values : List Value} {test : GroupTest}
    (h : [test.value] = d.upcoming values.length) :
    Splices values d { d.bindValues values with groupTests := d.groupTests ++ [test] } := by
  refine ⟨⟨⟨rfl, rfl, rfl, rfl, rfl⟩, fun p member => ?_⟩, ?_⟩
  · simp only [mem_slots, bindValues, List.map_append, List.mem_append, List.map_cons, List.map_nil, h]
      at member ⊢
    grind
  · simp [splicedSince, bindValues, ← h]

theorem splices_assignments {d : Draft} {values : List Value} {new : List Assignment}
    (h : new.flatMap Assignment.operands = d.upcoming values.length) :
    Splices values d { d.bindValues values with assignments := d.assignments ++ new } := by
  refine ⟨⟨⟨rfl, rfl, rfl, rfl, rfl⟩, fun p member => ?_⟩, ?_⟩
  · simp only [mem_slots, bindValues, List.flatMap_append, List.mem_append, h] at member ⊢
    grind
  · simp [splicedSince, bindValues, h]

theorem splices_row {d : Draft} {values : List Value} {row : Row}
    (h : row.map Prod.snd = d.upcoming values.length) :
    Splices values d { d.bindValues values with rows := d.rows ++ [row] } := by
  refine ⟨⟨⟨rfl, rfl, rfl, rfl, rfl⟩, fun p member => ?_⟩, ?_⟩
  · simp only [mem_slots, bindValues, List.flatMap_append, List.flatMap_singleton, List.mem_append, h]
      at member ⊢
    grind
  · simp [splicedSince, bindValues, h]

theorem splices_having {function : String} {key : Expr} {op : Operator} {value : Value} {d d' : Draft}
    (h : Gives (having function key op value) d () d') : Splices [value] d d' := by
  obtain ⟨-, c, -, rfl⟩ := gives_having.mp h
  exact splices_groupTest rfl

theorem splices_insertRow {row : List (String × Value)} {d d' : Draft}
    (h : Gives (insertRow row) d () d') : Splices (row.map Prod.snd) d d' := by
  obtain ⟨-, -, rfl⟩ := gives_insertRow.mp h
  refine splices_row ?_
  rw [List.map_snd_zip (by simp [upcoming]), List.length_map]

/-- The values of a record's entries in order. -/
theorem values_rowOfEntries {entity : Entity} {entries : List (String × Expr)} {row : List (String × Value)}
    (h : rowOfEntries entity entries = .ok row) : row.map Prod.snd = entries.flatMap fun (_, e) => e.worth := by
  induction entries generalizing row with
  | nil =>
    cases h
    rfl
  | cons entry rest ih =>
    obtain ⟨member, e⟩ := entry
    simp only [rowOfEntries, List.flatMap_cons] at h ⊢
    cases evaluated : e.evaluate with
    | error error => simp [evaluated, Bind.bind, Except.bind] at h
    | ok value =>
      cases others : rowOfEntries entity rest with
      | error error => simp [evaluated, others, Bind.bind, Except.bind] at h
      | ok values =>
        simp only [evaluated, others, Bind.bind, Except.bind, pure, Except.pure, Except.ok.injEq] at h
        subst h
        simp [Expr.worth, evaluated, ih others]

theorem splices_insert {entity : Entity} {e : Expr} {d d' : Draft} (h : Gives (insert entity e) d () d') :
    Splices (e.entries.flatMap fun (_, e) => e.worth) d d' := by
  cases e with
  | record entries =>
    obtain ⟨row, evaluated, inserted⟩ := gives_insert.mp h
    rw [Expr.entries, ← values_rowOfEntries evaluated]
    exact splices_insertRow inserted
  | _ => exact absurd h gives_throw

theorem splices_insertValue {entity : Entity} {document : Json} {d d' : Draft}
    (h : Gives (insertValue entity (Value.ofJson document)) d () d') :
    Splices (Step.captured entity (.ok document)) d d' := by
  by_cases object : ∃ members, document = .object members
  · obtain ⟨members, rfl⟩ := object
    exact splices_insertRow h
  · obtain ⟨e, fails⟩ := insertValue_of_no_object entity fun members same => object ⟨members, same⟩
    rw [fails] at h
    exact absurd h gives_throw

theorem values_evaluateAll {arguments : List Expr} {found : List Value}
    (h : Expr.evaluateAll arguments = .ok found) : found = arguments.flatMap Expr.worth := by
  induction arguments generalizing found with
  | nil =>
    cases h
    rfl
  | cons e rest ih =>
    simp only [Expr.evaluateAll, List.flatMap_cons] at h ⊢
    cases evaluated : e.evaluate with
    | error error => simp [evaluated, Bind.bind, Except.bind] at h
    | ok value =>
      cases others : Expr.evaluateAll rest with
      | error error => simp [evaluated, others, Bind.bind, Except.bind] at h
      | ok more =>
        simp only [evaluated, others, Bind.bind, Except.bind, pure, Except.pure, Except.ok.injEq] at h
        subst h
        simp [Expr.worth, evaluated, ih others]

def Assigns (values : List Value) (d d' : Draft) : Prop :=
  ∃ new : List Assignment,
    d' = { d.bindValues values with assignments := d.assignments ++ new } ∧
      new.flatMap Assignment.operands = d.upcoming values.length

theorem Assigns.trans {first second : List Value} {d d' d'' : Draft} (h : Assigns first d d')
    (h' : Assigns second d' d'') : Assigns (first ++ second) d d'' := by
  obtain ⟨new, rfl, operands⟩ := h
  obtain ⟨more, rfl, operands'⟩ := h'
  refine ⟨new ++ more, ?_, ?_⟩
  · rw [bindValues_append]
    simp [bindValues, numberedEntries, parameterName]
  · rw [List.flatMap_append, operands, operands', List.length_append,
      (binds_bindValues d first).upcoming_append second.length]
    rfl

theorem assigns_assignValue {entity : Entity} {member : String} {e : Expr} {d d' : Draft}
    (h : Gives (assignValue entity member e) d () d') : Assigns e.worth d d' := by
  obtain ⟨value, evaluated, rfl⟩ := gives_assignValue.mp h
  simp only [Expr.worth, evaluated]
  exact ⟨[_], rfl, rfl⟩

theorem assigns_assignMethod {receiver : Expr} {method : String} {arguments : List Expr} {d d' : Draft}
    (h : Gives (assignMethod receiver method arguments) d () d') :
    Assigns (arguments.flatMap Expr.worth) d d' := by
  obtain ⟨c, old, new, -, -, evaluated, rfl⟩ := gives_assignMethod.mp h
  rw [← values_evaluateAll evaluated]
  exact ⟨[_], rfl, rfl⟩

theorem assigns_assignEntry {entity : Entity} {member : String} {e : Expr} {d d' : Draft}
    (h : Gives (assignEntry entity member e) d () d') : Assigns e.assigned d d' := by
  unfold assignEntry at h
  split at h
  · simp only [Expr.assigned]
    split at h
    · rename_i onRow
      rw [if_pos onRow]
      exact assigns_assignMethod h
    · rename_i onRow
      rw [if_neg onRow]
      exact assigns_assignValue h
  · have plain : e.assigned = e.worth := by
      unfold Expr.assigned
      split
      · rename_i receiver method arguments other
        exact absurd rfl (other receiver method arguments)
      · rfl
    rw [plain]
    exact assigns_assignValue h

theorem assigns_assignEntries {entity : Entity} {entries : List (String × Expr)} {d d' : Draft}
    (h : Gives (assignEntries entity entries) d () d') :
    Assigns (entries.flatMap fun (_, e) => e.assigned) d d' := by
  induction entries generalizing d with
  | nil =>
    obtain ⟨-, rfl⟩ := gives_pure.mp h
    exact ⟨[], by simp, rfl⟩
  | cons entry rest ih =>
    obtain ⟨d₁, first, others⟩ := gives_assignEntries_cons.mp h
    exact (assigns_assignEntry first).trans (ih others)

theorem splices_update {entity : Entity} {e : Expr} {d d' : Draft} (h : Gives (update entity e) d () d') :
    Splices (e.entries.flatMap fun (_, e) => e.assigned) d d' := by
  cases e with
  | record entries =>
    obtain ⟨new, rfl, operands⟩ := assigns_assignEntries h
    exact splices_assignments operands
  | _ => exact absurd h gives_throw

theorem Binds.upcoming_eq {d d' : Draft} (h : Binds [] d d') (n : Nat) : d'.upcoming n = d.upcoming n := by
  simpa [upcoming] using (h.upcoming_append n).symm

end Draft

/-! ## Programs -/

namespace Step

open Drafting Draft

theorem adds_of_splices {entity : Entity} {s : Step} {held : List Value} {d d' : Draft}
    (h : Gives (run entity s) d () d') (w : Splices held d d') :
    Adds held d d' ∧ d.splicedSince (d.after (run entity s)) = d.upcoming held.length := by
  rw [after_of_gives h]
  exact ⟨w.toAdds, w.spliced⟩

mutual

/-- (1) A step binds the values it carries, in order, and shows them as the next
    placeholders. -/
theorem run_adds (entity : Entity) (s : Step) {d d' : Draft} (h : Gives (run entity s) d () d') :
    Adds (carried entity s) d d' ∧ spliced entity d s = d.upcoming (carried entity s).length := by
  cases s with
  | filter e =>
    have second := gives_modify_then.mp h
    exact adds_of_splices h ((writes_conjoined d).trans (writes_predicate second)).splices
  | orFilter e =>
    have second := gives_modify_then.mp h
    exact adds_of_splices h ((writes_disjoined d).trans (writes_predicate second)).splices
  | filterTemplate template arguments =>
    have second := gives_modify_then.mp h
    obtain ⟨-, rendered, d₁, written, -⟩ := gives_templated.mp second
    refine ⟨(writes_conjoined d).adds.trans (adds_templated second), ?_⟩
    rw [spliced, splicedArguments_eq written, (writes_conjoined d).adds.upcoming_eq]
    rfl
  | filterIn key negated members =>
    have second := gives_modify_then.mp h
    exact adds_of_splices h ((writes_conjoined d).trans (writes_keyIn second)).splices
  | filterInQuery key negated other program =>
    simp only [run, gives_bind, gives_modify, exists_unit, gives_onOffshoot] at h
    obtain ⟨_, rfl, sub, _, ⟨inner, rfl⟩, second⟩ := h
    have ⟨taken, shown⟩ := runAll_adds other program inner
    refine ⟨(writes_conjoined d).adds.trans (adds_keyInQuery taken second), ?_⟩
    rw [spliced, shown]
    exact (writes_conjoined d).adds.upcoming_eq _
  | filterBetween key negated low high =>
    have second := gives_modify_then.mp h
    exact adds_of_splices h ((writes_conjoined d).trans (writes_keyBetween second)).splices
  | orFilterBetween key low high =>
    have second := gives_modify_then.mp h
    exact adds_of_splices h ((writes_disjoined d).trans (writes_keyBetween second)).splices
  | having function key op v => exact adds_of_splices h (splices_having h)
  | join kind other on =>
    obtain ⟨sub, d₁, written, -, -⟩ := gives_joinOn.mp h
    exact ⟨adds_joinOn h, splicedAside_eq written⟩
  | values e => exact adds_of_splices h (splices_insert h)
  | value document =>
    cases document with
    | ok document => exact adds_of_splices h (splices_insertValue h)
    | error reason => exact absurd h gives_throw
  | set e => exact adds_of_splices h (splices_update h)
  | select e =>
    obtain ⟨entries, -, rfl⟩ := gives_select.mp h
    refine adds_of_splices h ?_
    rw [foldl_addSelected]
    exact splices_nothing ⟨rfl, rfl, rfl, rfl, rfl⟩ rfl rfl rfl rfl rfl
  | selectCount key =>
    obtain ⟨added, rfl⟩ := gives_selectFunction (gives_modify_then.mp h)
    exact adds_of_splices h (splices_nothing ⟨rfl, rfl, rfl, rfl, rfl⟩ rfl rfl rfl rfl rfl)
  | selectFunction function e =>
    obtain ⟨added, rfl⟩ := gives_selectFunction h
    exact adds_of_splices h (splices_nothing ⟨rfl, rfl, rfl, rfl, rfl⟩ rfl rfl rfl rfl rfl)
  | orderBy key descending =>
    obtain ⟨c, -, rfl⟩ := gives_orderBy.mp h
    exact adds_of_splices h (splices_nothing ⟨rfl, rfl, rfl, rfl, rfl⟩ rfl rfl rfl rfl rfl)
  | groupBy key =>
    obtain ⟨c, -, rfl⟩ := gives_groupBy.mp h
    exact adds_of_splices h (splices_nothing ⟨rfl, rfl, rfl, rfl, rfl⟩ rfl rfl rfl rfl rfl)
  | take _ | skip _ | page _ _ =>
    obtain rfl := gives_modify.mp h
    exact adds_of_splices h (splices_nothing ⟨rfl, rfl, rfl, rfl, rfl⟩ rfl rfl rfl rfl rfl)
  | output e =>
    refine adds_of_splices h ?_
    simp only [run, gives_bind, gives_given, gives_modify] at h
    obtain ⟨columns, _, ⟨-, rfl⟩, rfl⟩ := h
    exact splices_nothing ⟨rfl, rfl, rfl, rfl, rfl⟩ rfl rfl rfl rfl rfl
  | insertInto target e =>
    refine adds_of_splices h ?_
    simp only [run, gives_bind, gives_projectionOf, gives_modify] at h
    obtain ⟨columns, _, ⟨-, rfl⟩, rfl⟩ := h
    exact splices_nothing ⟨rfl, rfl, rfl, rfl, rfl⟩ rfl rfl rfl rfl rfl
  | reject error => exact absurd h gives_throw

theorem runAll_adds (entity : Entity) (program : List Step) {d d' : Draft}
    (h : Gives (runAll entity program) d () d') :
    Adds (carriedAll entity program) d d' ∧
      splicedAll entity d program = d.upcoming (carriedAll entity program).length := by
  cases program with
  | nil =>
    obtain ⟨-, rfl⟩ := gives_pure.mp h
    exact ⟨⟨Binds.refl d, fun p member => .inl member⟩, rfl⟩
  | cons s rest =>
    obtain ⟨⟨⟩, d₁, first, others⟩ := gives_bind.mp h
    have ⟨taken, shown⟩ := run_adds entity s first
    have ⟨taken', shown'⟩ := runAll_adds entity rest others
    refine ⟨taken.trans taken', ?_⟩
    rw [splicedAll, shown, after_of_gives first, shown', carriedAll, List.length_append,
      taken.upcoming_append]

end

end Step

namespace Query

open Draft

def parameterName (stem : String) (start k : Nat) : String := stem ++ toString (start + k)

def parameterSlot (dialect : Dialect) (stem : String) (start k : Nat) : Placeholder :=
  dialect.placeholder (parameterName stem start k) k

structure Unused (dialect : Dialect) (stem : String) (start : Nat) (d : Draft) : Prop where
  dialect : d.dialect = dialect
  stem : d.stem = stem
  counter : d.counter = start
  base : d.base = start
  parameters : d.parameters.entries = []
  slots : d.slots = []

theorem start_unused {dialect : Dialect} {stem : String} {entity : Entity} {operation : Operation}
    {start : Nat} {q : Query} (h : Query.start ⟨some dialect, stem⟩ entity operation start = .ok q) :
    q.entity = entity ∧ Unused dialect stem start q.draft := by
  cases h
  exact ⟨rfl, rfl, rfl, rfl, rfl, rfl, rfl⟩

section Begun

variable {dialect : Dialect} {stem : String} {start : Nat} {d : Draft} (fresh : Unused dialect stem start d)

include fresh

theorem upcoming_of_unused (n : Nat) :
    d.upcoming n = (List.range n).map fun k => parameterSlot dialect stem start (k + 1) := by
  rw [upcoming, List.range'_eq_map_range, List.map_map]
  refine List.map_congr_left fun k _ => ?_
  simp only [Function.comp, issued, Draft.parameterName, parameterSlot, Query.parameterName, fresh.dialect,
    fresh.stem, fresh.counter, fresh.base]
  rw [show start + 1 + k - start = k + 1 by omega, show start + 1 + k = start + (k + 1) by omega]

theorem numbered_of_unused {held : List Value} {d' : Draft} (h : Binds held d d') : d'.Numbered start held := by
  have begun : d.Numbered start [] := ⟨fresh.counter, fresh.parameters⟩
  simpa using begun.binds h

theorem names_of_unused {held : List Value} {d' : Draft} (h : Binds held d d') :
    d'.parameters.names = (List.range held.length).map fun k => parameterName stem start (k + 1) := by
  rw [(numbered_of_unused fresh h).names, List.range'_eq_map_range, List.map_map]
  refine List.map_congr_left fun k _ => ?_
  simp only [Function.comp, Draft.parameterName, Query.parameterName, h.stem, fresh.stem]
  rw [show start + 1 + k = start + (k + 1) by omega]

end Begun

/-- (2) A program that ends without an error leaves its parameters numbered without a gap
    from where it began, one for each value it carries and in that order. The placeholder
    put into text for the `k`-th value is the one for the `k`-th name at position `k`, and
    the statement shows no other. -/
theorem program_parameters_numbered {dialect : Dialect} {stem : String} {entity : Entity}
    {operation : Operation} {start : Nat} {program : List Step} {begun q : Query}
    (hs : Query.start ⟨some dialect, stem⟩ entity operation start = .ok begun)
    (h : begun.run program = .ok q) :
    let n := q.draft.parameters.size
    q.draft.parameters.names = (List.range n).map (fun k => parameterName stem start (k + 1)) ∧
      q.draft.parameters.names.Nodup ∧
      q.draft.counter = start + n ∧
      q.draft.parameters.values = Step.carriedAll entity program ∧
      Step.splicedAll entity begun.draft program =
        (List.range n).map (fun k => parameterSlot dialect stem start (k + 1)) ∧
      ∀ sql, q.draft.command = .ok sql →
        ∀ p ∈ sql.slots, ∃ k < n, p = parameterSlot dialect stem start (k + 1) := by
  obtain ⟨rfl, fresh⟩ := start_unused hs
  obtain ⟨d, gave, rfl⟩ := run_eq_ok.mp h
  obtain ⟨adds, shown⟩ := Step.runAll_adds begun.entity program gave
  have numbered := numbered_of_unused fresh adds.toBinds
  have size : d.parameters.size = (Step.carriedAll begun.entity program).length := by
    rw [← numbered.values]
    exact (List.length_map Prod.snd).symm
  have next := upcoming_of_unused fresh d.parameters.size
  rw [← size] at shown
  refine ⟨?_, ?_, ?_, numbered.values, shown.trans next, ?_⟩
  · rw [size]
    exact names_of_unused fresh adds.toBinds
  · rw [numbered.names]
    exact names_nodup d _ _
  · rw [size]
    exact numbered.counter
  · intro sql command p member
    rcases adds.slots p (mem_slots_command command member) with old | new
    · rw [fresh.slots] at old
      cases old
    · rw [← size, next] at new
      obtain ⟨k, inside, rfl⟩ := List.mem_map.mp new
      exact ⟨k, List.mem_range.mp inside, rfl⟩

/-- Values of a range, of a sub-query's own list and of a predicate behind it, numbered
    after five earlier names. -/
theorem program_parameters_numbered_nested :
    let orders : Entity := ⟨"Order", "orders", []⟩
    let users : Entity := ⟨"User", "users", [("age", "Age")]⟩
    let program : List Step :=
      [.filterBetween (.field users "age") false (.int 18) (.int 65),
       .filterInQuery (.field users "id") false orders
        [.select (.field orders "user"), .filterIn (.field orders "state") true [.text "open", .text "paid"]],
       .orFilter (.binary .equal (.constant (.text "root")) (.field users "name"))]
    ∃ begun q, Query.start ⟨some .postgres, "P"⟩ users .select 5 = .ok begun ∧ begun.run program = .ok q ∧
      q.draft.parameters.names = ["P6", "P7", "P8", "P9", "P10"] ∧
      q.draft.parameters.values = [.int 18, .int 65, .text "open", .text "paid", .text "root"] ∧
      (Step.splicedAll users begun.draft program).map (·.text) = ["$1", "$2", "$3", "$4", "$5"] := by
  intro orders users program
  let begun : Query := ⟨users, ((Draft.onTable .postgres "users").withStem "P").numberedFrom 5⟩
  have started : Query.start ⟨some .postgres, "P"⟩ users .select 5 = .ok begun := rfl
  have carried : Step.carriedAll users program =
      [.int 18, .int 65, .text "open", .text "paid", .text "root"] := rfl
  have succeeds : (begun.run program).isOk = true := by decide +kernel
  cases ran : begun.run program with
  | error e =>
    rw [ran] at succeeds
    cases succeeds
  | ok q =>
    obtain ⟨names, -, -, held, shown, -⟩ := program_parameters_numbered started ran
    rw [carried] at held
    have size : q.draft.parameters.size = 5 := by
      rw [Parameters.size, ← List.length_map Prod.snd]
      exact congrArg List.length held
    rw [size] at names shown
    refine ⟨begun, q, started, ran, names.trans (by decide +kernel), held, ?_⟩
    rw [shown]
    decide +kernel

end Query

end Querycraft
