/-
  Querycraft.Proofs.Assignments — which column each entry of an UPDATE assigns.

  The entries of a record name a member and give what it is to be. A value is assigned to
  the column of the member. The replacing method becomes a function of the statement, and
  its assignment is put together from the column that the method is called on; the member
  that the entry names is not looked at. Proved, for every entity, draft and record that
  is accepted:
  (1) one entry becomes one assignment, of the one kind or the other
      (`becomes_of_assignEntry`), and so do the entries of a record, in their order
      (`becomes_of_assignEntries`);
  (2) they assign the columns that the record names exactly if every method is called on
      the column of the member it is given for (`update_assigns_named_columns_iff`).
  `a_method_of_another_column_overwrites_that_column` is an entry for the first name that
  overwrites the last name.
-/

import Mathlib.Data.List.Forall2
import Querycraft.Proofs.Drafting
import Querycraft.Proofs.Meaning

namespace Querycraft

/-- The column that an expression stands for is that of its term. -/
theorem Column.term_of_ofExpr {e : Expr} {c : Column} (h : Column.ofExpr e = .ok c) :
    Term.ofExpr e = .ok (.column c) := by
  unfold Column.ofExpr at h
  cases lowered : Term.ofExpr e with
  | error error =>
    rw [lowered] at h
    cases h
  | ok t =>
    rw [lowered] at h
    cases t with
    | column c' =>
      obtain rfl := Except.ok.inj h
      rfl
    | _ => cases h

/-- The column that a method is called on, if the method has no function of its own. -/
def Expr.receiverColumn? : Expr → Option Column
  | .invoke receiver _ _ none => receiver.column?
  | _ => none

namespace Assignment

def target? : Assignment → Option String
  | .verbatim _ => none
  | .set column _ => some column
  | .replace column _ _ => some column

/-- An assignment to a column that is spelled like this one, and its text. -/
def Sets (dialect : Dialect) (column : String) (a : Assignment) : Prop :=
  (∃ target, a.target? = some target ∧ dialect.quote target = dialect.quote column) ∧
    ∃ behind, (a.sql dialect).toText = dialect.quote column ++ " = " ++ behind

/-- An assignment is written as its column, the sign, and what comes behind. -/
theorem toText_of_target {a : Assignment} {target : String} (h : a.target? = some target) (dialect : Dialect) :
    ∃ behind, (a.sql dialect).toText = dialect.quote target ++ " = " ++ behind := by
  cases a with
  | verbatim text => cases h
  | set c value =>
    obtain rfl := Option.some.inj h
    exact ⟨(Sql.slot value).toText, by simp [sql]⟩
  | replace c old new =>
    obtain rfl := Option.some.inj h
    let arguments := dialect.quote c ++ ", " ++ (Sql.slot old).toText ++ ", " ++ (Sql.slot new).toText ++ ")"
    have sign : " = REPLACE(" ++ arguments = " = " ++ ("REPLACE(" ++ arguments) := by
      rw [← String.append_assoc]
      rfl
    refine ⟨"REPLACE(" ++ arguments, ?_⟩
    rw [String.append_assoc, ← sign]
    simp [sql, arguments, String.append_assoc]

theorem sets_iff {a : Assignment} {target : String} (h : a.target? = some target) (dialect : Dialect)
    (column : String) : a.Sets dialect column ↔ dialect.quote target = dialect.quote column := by
  constructor
  · rintro ⟨⟨other, found, same⟩, -⟩
    cases h.symm.trans found
    exact same
  · intro same
    exact ⟨⟨target, h, same⟩, same ▸ toText_of_target h dialect⟩

end Assignment

namespace Draft

open Drafting

/-! ## (1) Entries and assignments -/

/-- What an entry of a record becomes: a value is for the column of the member, a method
    for the column it is called on. -/
inductive Becomes (entity : Entity) : String × Expr → Assignment → Prop
  | value {member : String} {e : Expr} {p : Placeholder} : e.receiverColumn? = none →
      Becomes entity (member, e) (.set (entity.columnName member) p)
  | method {member : String} {e : Expr} {c : Column} {old new : Placeholder} : e.receiverColumn? = some c →
      Becomes entity (member, e) (.replace c.name old new)

theorem becomes_of_assignValue {entity : Entity} {member : String} {e : Expr} {d d' : Draft}
    (h : Gives (assignValue entity member e) d () d') (plain : e.receiverColumn? = none) :
    ∃ a, d'.assignments = d.assignments ++ [a] ∧ Becomes entity (member, e) a := by
  obtain ⟨value, -, rfl⟩ := gives_assignValue.mp h
  exact ⟨_, rfl, .value plain⟩

/-- One entry adds one assignment. -/
theorem becomes_of_assignEntry {entity : Entity} {member : String} {e : Expr} {d d' : Draft}
    (h : Gives (assignEntry entity member e) d () d') :
    ∃ a, d'.assignments = d.assignments ++ [a] ∧ Becomes entity (member, e) a := by
  cases e with
  | invoke receiver method arguments host =>
    cases host with
    | some f => exact becomes_of_assignValue h rfl
    | none =>
      simp only [assignEntry] at h
      by_cases onRow : receiver.rowEntity?.isSome = true
      · rw [if_pos onRow] at h
        obtain ⟨c, old, new, column, -, -, rfl⟩ := gives_assignMethod.mp h
        exact ⟨_, rfl, .method (Expr.column?_of_ofExpr (Column.term_of_ofExpr column))⟩
      · rw [if_neg onRow] at h
        refine becomes_of_assignValue h ?_
        -- a chain that starts from no row stands for no column
        cases found : receiver.column? with
        | none => exact found
        | some c => exact absurd (Expr.rowEntity?_of_column? found) onRow
  | _ => exact becomes_of_assignValue h rfl

theorem becomes_of_assignEntries {entity : Entity} {entries : List (String × Expr)} {d d' : Draft}
    (h : Gives (assignEntries entity entries) d () d') :
    ∃ added, d'.assignments = d.assignments ++ added ∧ List.Forall₂ (Becomes entity) entries added := by
  induction entries generalizing d with
  | nil =>
    obtain ⟨-, rfl⟩ := gives_pure.mp h
    exact ⟨[], by simp, .nil⟩
  | cons entry rest ih =>
    obtain ⟨member, e⟩ := entry
    obtain ⟨d₁, first, others⟩ := gives_assignEntries_cons.mp h
    obtain ⟨a, appended, becomes⟩ := becomes_of_assignEntry first
    obtain ⟨added, rest, all⟩ := ih others
    refine ⟨a :: added, ?_, .cons becomes all⟩
    rw [rest, appended, List.append_assoc, List.singleton_append]

/-! ## (2) The columns that a record names -/

/-- An entry whose method, if it is one, is called on the column that the entry names. -/
def Directed (dialect : Dialect) (entity : Entity) (entry : String × Expr) : Prop :=
  ∀ c, entry.2.receiverColumn? = some c → dialect.quote c.name = dialect.quote (entity.columnName entry.1)

theorem Becomes.sets_iff {entity : Entity} {entry : String × Expr} {a : Assignment} (h : Becomes entity entry a)
    (dialect : Dialect) : a.Sets dialect (entity.columnName entry.1) ↔ Directed dialect entity entry := by
  cases h with
  | value plain =>
    rw [Assignment.sets_iff rfl]
    simp [Directed, plain]
  | method found =>
    rw [Assignment.sets_iff rfl]
    simp [Directed, found]

theorem sets_all_iff {entity : Entity} {entries : List (String × Expr)} {added : List Assignment}
    (h : List.Forall₂ (Becomes entity) entries added) (dialect : Dialect) :
    List.Forall₂ (fun entry a => a.Sets dialect (entity.columnName entry.1)) entries added ↔
      ∀ entry ∈ entries, Directed dialect entity entry := by
  induction h with
  | nil => simp
  | cons becomes _ ih => rw [List.forall₂_cons, becomes.sets_iff, ih, List.forall_mem_cons]

/-- (2) An accepted record adds one assignment for each entry, in their order: to the column
    of the member if a value is given, to the column it is called on if a method is. They
    set the columns that the record names exactly if every method is called on the column
    of its own member. -/
theorem update_assigns_named_columns_iff {entity : Entity} {record : Expr} {d d' : Draft}
    (h : (update entity record).run d = (.ok (), d')) :
    ∃ entries added, record = .record entries ∧ d'.assignments = d.assignments ++ added ∧
      List.Forall₂ (Becomes entity) entries added ∧
      (List.Forall₂ (fun entry a => a.Sets d.dialect (entity.columnName entry.1)) entries added ↔
        ∀ entry ∈ entries, Directed d.dialect entity entry) := by
  by_cases shape : record.shape = .record
  · cases record with
    | record entries =>
      obtain ⟨added, appended, all⟩ := becomes_of_assignEntries h
      exact ⟨entries, added, rfl, appended, all, sets_all_iff all d.dialect⟩
    | _ => cases shape
  · rw [update_of_no_record shape] at h
    exact absurd h gives_throw

/-- A method on the column of its own member and a value: both columns are those named. -/
theorem update_assigns_named_columns_iff_mixed :
    let users : Entity := ⟨"User", "Users", [("email", "Email"), ("name", "Name")]⟩
    let replaced : Expr := .invoke (.field users "email") "Replace" [.constant (.text "a"), .constant (.text "b")] none
    let entries : List (String × Expr) := [("email", replaced), ("name", .constant (.text "c"))]
    let d := onTable .sqlite "Users"
    ∃ d' added, (update users (.record entries)).run d = (.ok (), d') ∧ d'.assignments = d.assignments ++ added ∧
      List.Forall₂ (fun entry a => a.Sets d.dialect (users.columnName entry.1)) entries added := by
  intro users replaced entries d
  have succeeds : ((update users (.record entries)).run d).1.isOk = true := by decide +kernel
  obtain ⟨⟨⟩, d', ran⟩ := gives_of_isOk succeeds
  obtain ⟨_, added, same, appended, -, named⟩ := update_assigns_named_columns_iff ran
  obtain rfl := Expr.record.inj same
  refine ⟨d', added, ran, appended, named.mpr ?_⟩
  intro entry member c found
  simp only [entries, List.mem_cons, List.not_mem_nil, or_false] at member
  rcases member with rfl | rfl
  · obtain rfl := Option.some.inj found
    rfl
  · cases found

/-- An entry for the first name whose value replaces in the last name: the statement
    overwrites the last name. -/
theorem a_method_of_another_column_overwrites_that_column :
    let users : Entity := ⟨"User", "Users", [("first_name", "FirstName"), ("last_name", "LastName")]⟩
    let replaced : Expr :=
      .invoke (.field users "last_name") "Replace" [.constant (.text "a"), .constant (.text "b")] none
    let d := (onTable .sqlite "Users").withOperation .update
    ∃ d' a, (update users (.record [("first_name", replaced)])).run d = (.ok (), d') ∧ d'.assignments = [a] ∧
      d'.commandText = .ok "UPDATE Users SET LastName = REPLACE(LastName, @Param1, @Param2)" ∧
      a.Sets .sqlite "LastName" ∧ ¬ a.Sets .sqlite (users.columnName "first_name") := by
  intro users replaced d
  let step := (update users (.record [("first_name", replaced)])).run d
  let a : Assignment := .replace "LastName" ⟨"Param1", 1, "@Param1"⟩ ⟨"Param2", 2, "@Param2"⟩
  have succeeds : step.1.toOption = some () := by decide +kernel
  have assigned : step.2.assignments = [a] := by decide +kernel
  have text : step.2.commandText.toOption =
      some "UPDATE Users SET LastName = REPLACE(LastName, @Param1, @Param2)" := by decide +kernel
  have named : a.target? = some "LastName" := rfl
  refine ⟨step.2, a, Prod.ext (eq_ok_of_toOption succeeds) rfl, assigned, eq_ok_of_toOption text, ?_, ?_⟩
  · exact (Assignment.sets_iff named .sqlite "LastName").mpr rfl
  · rw [Assignment.sets_iff named]
    decide +kernel

end Draft

end Querycraft
