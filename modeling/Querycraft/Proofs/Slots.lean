/-
  Querycraft.Proofs.Slots — the placeholders of a statement's text.

  Laying out a statement moves text and placeholders about and makes none: the slots of
  a text put together from parts are those of the parts. `Draft.slots` collects the
  placeholders of every clause of a draft, and the command shows no others
  (`mem_slots_command`).
-/

import Querycraft.Draft.Command

namespace Querycraft

namespace Sql

@[simp] theorem slots_text (words : String) : (text words).slots = [] := rfl

@[simp] theorem slots_slot (p : Placeholder) : (slot p).slots = [p] := rfl

@[simp] theorem slots_empty : empty.slots = [] := rfl

@[simp] theorem slots_append (a b : Sql) : (a ++ b).slots = a.slots ++ b.slots :=
  List.filterMap_append

@[simp] theorem slots_concat (parts : List Sql) : (concat parts).slots = parts.flatMap slots := by
  induction parts with
  | nil => rfl
  | cons part rest ih =>
    rw [List.flatMap_cons, ← ih]
    exact slots_append part (concat rest)

theorem flatMap_slots_intersperse (separator : String) (parts : List Sql) :
    (parts.intersperse (text separator)).flatMap slots = parts.flatMap slots := by
  induction parts with
  | nil => rfl
  | cons part rest ih =>
    cases rest with
    | nil => rfl
    | cons next others =>
      rw [List.intersperse_cons_cons, List.flatMap_cons, List.flatMap_cons, ih]
      simp

@[simp] theorem slots_join (separator : String) (parts : List Sql) :
    (join separator parts).slots = parts.flatMap slots := by
  rw [join, slots_concat, flatMap_slots_intersperse]

@[simp] theorem flatMap_slots_map_slot (ps : List Placeholder) : (ps.map slot).flatMap slots = ps := by
  induction ps with
  | nil => rfl
  | cons p rest ih => simp [ih]

theorem mem_slots_clauses {parts : List Sql} {p : Placeholder} (h : p ∈ (clauses parts).slots) :
    ∃ part ∈ parts, p ∈ part.slots := by
  rw [clauses, slots_join] at h
  obtain ⟨part, kept, member⟩ := List.mem_flatMap.mp h
  exact ⟨part, (List.mem_filter.mp kept).1, member⟩

end Sql

/-! ## Entries of clauses -/

def Fragment.slots : Fragment Placeholder → List Placeholder
  | .inQuery _ _ query => query.slots
  | .verbatim sql => sql.slots
  | fragment => fragment.operands

@[simp] theorem Fragment.slots_sql (dialect : Dialect) (fragment : Fragment Placeholder) :
    (fragment.sql dialect).slots = fragment.slots := by
  cases fragment with
  | inList c negated values =>
    cases values with
    | nil => cases negated <;> rfl
    | cons first rest => cases negated <;> simp [Fragment.sql, columnText, Fragment.slots, Fragment.operands]
  | inQuery c negated query => cases negated <;> simp [Fragment.sql, columnText, Fragment.slots]
  | between c negated low high =>
    cases negated <;> simp [Fragment.sql, columnText, Fragment.slots, Fragment.operands]
  | nullTest c negated => cases negated <;> rfl
  | _ => rfl

def Assignment.operands : Assignment → List Placeholder
  | .verbatim sql => sql.slots
  | .set _ value => [value]
  | .replace _ old new => [old, new]

@[simp] theorem Assignment.slots_sql (dialect : Dialect) (assignment : Assignment) :
    (assignment.sql dialect).slots = assignment.operands := by
  cases assignment <;> rfl

@[simp] theorem GroupTest.slots_sql (dialect : Dialect) (test : GroupTest) :
    (test.sql dialect).slots = [test.value] := rfl

@[simp] theorem Join.slots_sql (dialect : Dialect) (join : Join) :
    (join.sql dialect).slots = join.on.slots := rfl

@[simp] theorem Selected.slots_sql (dialect : Dialect) (entry : Selected) :
    (entry.sql dialect).slots = [] := by
  cases entry with
  | table t => rfl
  | column c label => cases label <;> rfl
  | function f c label => cases label <;> rfl

@[simp] theorem SortKey.slots_sql (dialect : Dialect) (key : SortKey) : (key.sql dialect).slots = [] := by
  unfold SortKey.sql
  split <;> rfl

/-! ## Commands -/

namespace Draft

def slots (d : Draft) : List Placeholder :=
  d.joins.flatMap (·.on.slots) ++ d.conditions.flatMap Fragment.slots
    ++ d.groupTests.map GroupTest.value ++ d.assignments.flatMap Assignment.operands
    ++ d.rows.flatMap (·.map Prod.snd)

theorem mem_slots {d : Draft} {p : Placeholder} :
    p ∈ d.slots ↔ p ∈ d.joins.flatMap (·.on.slots) ∨ p ∈ d.conditions.flatMap Fragment.slots ∨
      p ∈ d.groupTests.map GroupTest.value ∨ p ∈ d.assignments.flatMap Assignment.operands ∨
      p ∈ d.rows.flatMap (·.map Prod.snd) := by
  simp only [slots, List.mem_append, or_assoc]

theorem slots_conditionSql (d : Draft) : d.conditionSql.slots = d.conditions.flatMap Fragment.slots := by
  simp [conditionSql, List.flatMap_map]

theorem slots_whereClause (d : Draft) : d.whereClause.slots = d.conditions.flatMap Fragment.slots := by
  unfold whereClause
  split
  · simp [slots_conditionSql]
  · rename_i none
    have empty : d.conditions = [] := by simpa [hasConditions] using none
    simp [empty]

theorem slots_source (d : Draft) : d.source.slots = d.joins.flatMap (·.on.slots) := by
  simp [source, List.flatMap_map]

theorem slots_selectionSql (d : Draft) : d.selectionSql.slots = [] := by
  unfold selectionSql
  split
  · simp [List.flatMap_map]
  · split
    · rfl
    · simp [List.flatMap_map]

theorem slots_listClause (keyword separator : String) (entries : List Sql) :
    (listClause keyword separator entries).slots = entries.flatMap Sql.slots := by
  unfold listClause
  split
  · rename_i none
    simp [List.isEmpty_iff.mp none]
  · simp

theorem slots_orderClause (dialect : Dialect) (parts : Dialect.QueryClauses) (h : parts.order.slots = []) :
    (dialect.orderClause parts).slots = [] := by
  unfold Dialect.orderClause
  split
  · split
    · rfl
    · exact h
  · exact h

/-- A query shows the placeholders of its joins, its condition and its group tests. -/
theorem mem_slots_queryCommand {d : Draft} {p : Placeholder} (h : p ∈ d.queryCommand.slots) :
    p ∈ d.joins.flatMap (·.on.slots) ∨ p ∈ d.conditions.flatMap Fragment.slots ∨
      p ∈ d.groupTests.map GroupTest.value := by
  obtain ⟨part, member, shown⟩ := Sql.mem_slots_clauses h
  have ordering : (listClause "ORDER BY" ", " (d.ordering.map (SortKey.sql d.dialect))).slots = [] := by
    simp [slots_listClause, List.flatMap_map]
  simp only [List.mem_cons, List.not_mem_nil, or_false] at member
  rcases member with rfl | rfl | rfl | rfl | rfl | rfl
  · left
    simpa [slots_selectionSql, slots_source] using shown
  · right
    left
    simpa [slots_whereClause] using shown
  · simp [slots_listClause, List.flatMap_map, Fragment.columnText] at shown
  · right
    right
    rw [slots_listClause, List.flatMap_map] at shown
    simpa [eq_comm] using shown
  · rw [slots_orderClause _ _ ordering] at shown
    cases shown
  · simp at shown

theorem slots_valuesText (dialect : Dialect) (table : String) (rows : List (List (String × Sql)))
    (output : Option String) :
    (dialect.valuesText (Sql.text table) rows output).slots =
      rows.flatMap fun row => row.flatMap fun (_, value) => value.slots := by
  simp [Dialect.valuesText, List.flatMap_map]

theorem slots_insertText (dialect : Dialect) (table : String) (rows : List (List (String × Sql)))
    (output : List String) :
    (dialect.insertText (Sql.text table) rows output).slots =
      rows.flatMap fun row => row.flatMap fun (_, value) => value.slots := by
  unfold Dialect.insertText
  split
  · exact slots_valuesText _ _ _ _
  · cases dialect <;> simp [slots_valuesText]

theorem mem_slots_headed {d : Draft} {head : Sql} {p : Placeholder}
    (h : p ∈ (Sql.clauses [head, d.whereClause]).slots) :
    p ∈ head.slots ∨ p ∈ d.conditions.flatMap Fragment.slots := by
  obtain ⟨part, member, shown⟩ := Sql.mem_slots_clauses h
  simp only [List.mem_cons, List.not_mem_nil, or_false] at member
  rcases member with rfl | rfl
  · exact .inl shown
  · exact .inr (by rwa [slots_whereClause] at shown)

/-- The command of a draft shows no placeholder that is not in one of its clauses. -/
theorem mem_slots_command {d : Draft} {sql : Sql} {p : Placeholder} (h : d.command = .ok sql)
    (shown : p ∈ sql.slots) : p ∈ d.slots := by
  rw [mem_slots]
  unfold command at h
  split at h
  · obtain rfl := Except.ok.inj h
    rcases mem_slots_queryCommand shown with m | m | m
    · exact .inl m
    · exact .inr (.inl m)
    · exact .inr (.inr (.inl m))
  · obtain rfl := Except.ok.inj h
    rcases mem_slots_queryCommand shown with m | m | m
    · exact .inl m
    · exact .inr (.inl m)
    · exact .inr (.inr (.inl m))
  · rename_i inserting
    split at h
    · cases h
    · simp only [insertTarget, inserting, pure, Except.pure] at h
      obtain rfl := Except.ok.inj h
      rw [slots_insertText] at shown
      exact .inr (.inr (.inr (.inr (by simpa [List.flatMap_map] using shown))))
  · rename_i inserting
    simp only [insertTarget, inserting, pure, Except.pure] at h
    obtain rfl := Except.ok.inj h
    rcases mem_slots_headed shown with m | m
    · exact .inl (by simpa [slots_selectionSql, slots_source] using m)
    · exact .inr (.inl m)
  · split at h
    · cases h
    · obtain rfl := Except.ok.inj h
      rcases mem_slots_headed shown with m | m
      · simp only [Sql.slots_append, Sql.slots_text, slots_source, Sql.slots_join, List.mem_append,
          List.nil_append, List.append_nil, List.flatMap_map, Assignment.slots_sql] at m
        rcases m with m | m
        · exact .inl m
        · exact .inr (.inr (.inr (.inl m)))
      · exact .inr (.inl m)
  · obtain rfl := Except.ok.inj h
    rcases mem_slots_headed shown with m | m
    · exact .inl (by simpa [slots_source] using m)
    · exact .inr (.inl m)
  · obtain rfl := Except.ok.inj h
    exact .inr (.inl (by simpa [slots_conditionSql] using shown))

end Draft

end Querycraft
