/-
  Querycraft.Proofs.Columns — which expressions are columns, and which column they are.

  Sort keys, groups, members of a list, ranges, projections and matches all ask for the
  column of an expression. `Chain` says what a chain of members is: it begins with a row
  and goes on by members, conversions and quotations, in any order and to any length.
  `Entity.Names` says which column a member is: the first pair for it counts, and a member
  without a pair keeps its name. Neither asks the functions that find columns. Proved:
  (1) the row that a walk down an expression ends at is the one its chain begins with
      (`rowEntity?_eq_some_iff`), and the column of a member is the one its entity names
      (`Entity.names_iff`);
  (2) so an expression has a column exactly if, conversions and quotations around it aside,
      it is a member of a chain, and the last member alone decides the column
      (`Column.references_are_member_chains`).
-/

import Querycraft.Proofs.Assignments

namespace Querycraft

/-! ## Chains -/

namespace Expr

inductive Chain (start : Entity) : Expr → Prop
  | row : Chain start (.row start)
  | member {target : Expr} (name : String) (owner : Option Entity) : Chain start target →
      Chain start (.member target name owner)
  | convert {operand : Expr} : Chain start operand → Chain start (.convert operand)
  | quote {operand : Expr} : Chain start operand → Chain start (.quote operand)

/-- An expression with nothing but conversions and quotations around it. -/
inductive Encloses (inside : Expr) : Expr → Prop
  | nothing : Encloses inside inside
  | convert {operand : Expr} : Encloses inside operand → Encloses inside (.convert operand)
  | quote {operand : Expr} : Encloses inside operand → Encloses inside (.quote operand)

theorem chain_of_rowEntity? : ∀ {e : Expr} {start : Entity}, e.rowEntity? = some start → Chain start e
  | .row entity, start, h => by
    obtain rfl : entity = start := Option.some.inj h
    exact .row
  | .member target name owner, _, h => .member name owner (chain_of_rowEntity? (e := target) h)
  | .convert operand, _, h => .convert (chain_of_rowEntity? (e := operand) h)
  | .quote operand, _, h => .quote (chain_of_rowEntity? (e := operand) h)

theorem rowEntity?_eq_some_iff {e : Expr} {start : Entity} : e.rowEntity? = some start ↔ Chain start e := by
  constructor
  · exact chain_of_rowEntity?
  · intro chain
    induction chain with
    | row => rfl
    | member name owner _ ih => exact ih
    | convert _ ih => exact ih
    | quote _ ih => exact ih

end Expr

/-! ## Columns of an entity -/

namespace Entity

/-- A member stands for a column of the entity's table: the one of the first pair for the
    member, or else the one of its own name. -/
structure Names (entity : Entity) (member : String) (c : Column) : Prop where
  table : c.table = entity.table
  name : (∃ before after, entity.columns = before ++ (member, c.name) :: after ∧ ∀ pair ∈ before, pair.1 ≠ member) ∨
    (c.name = member ∧ ∀ pair ∈ entity.columns, pair.1 ≠ member)

theorem lookup_eq_some_iff_first {pairs : List (String × String)} {member name : String} :
    pairs.lookup member = some name ↔
      ∃ before after, pairs = before ++ (member, name) :: after ∧ ∀ pair ∈ before, pair.1 ≠ member := by
  rw [List.lookup_eq_some_iff]
  simp only [bne_iff_ne, ne_comm]

theorem lookup_eq_none_iff_unmapped {pairs : List (String × String)} {member : String} :
    pairs.lookup member = none ↔ ∀ pair ∈ pairs, pair.1 ≠ member := by
  rw [List.lookup_eq_none_iff]
  simp only [bne_iff_ne, ne_comm]

theorem names_column (entity : Entity) (member : String) : entity.Names member (entity.column member) := by
  refine ⟨rfl, ?_⟩
  simp only [column, columnName]
  cases found : entity.columns.lookup member with
  | some name => exact .inl (lookup_eq_some_iff_first.mp found)
  | none => exact .inr ⟨rfl, lookup_eq_none_iff_unmapped.mp found⟩

theorem names_iff {entity : Entity} {member : String} {c : Column} :
    entity.Names member c ↔ c = entity.column member := by
  constructor
  · intro names
    have name : entity.columnName member = c.name := by
      unfold columnName
      rcases names.name with first | ⟨own, unmapped⟩
      · rw [lookup_eq_some_iff_first.mpr first, Option.getD_some]
      · rw [lookup_eq_none_iff_unmapped.mpr unmapped, Option.getD_none, own]
    rw [column, name, ← names.table]
  · intro same
    rw [same]
    exact names_column entity member

end Entity

/-! ## Columns of expressions -/

namespace Expr

/-- A member of a chain, in conversions and quotations of its own. -/
def Reaches (e : Expr) (member : String) (owner : Option Entity) (start : Entity) : Prop :=
  ∃ target, Encloses (.member target member owner) e ∧ Chain start target

theorem ofExpr_of_column? : ∀ {e : Expr} {c : Column}, e.column? = some c → Term.ofExpr e = .ok (.column c)
  | .member target name owner, c, h => by
    obtain ⟨start, found, rfl⟩ := Option.map_eq_some_iff.mp h
    rw [Term.ofExpr_member, found]
  | .convert operand, _, h => ofExpr_of_column? (e := operand) h
  | .quote operand, _, h => ofExpr_of_column? (e := operand) h

theorem reaches_of_column? : ∀ {e : Expr} {c : Column}, e.column? = some c →
    ∃ member owner start, e.Reaches member owner start ∧ (owner.getD start).Names member c
  | .member target name owner, c, h => by
    obtain ⟨start, found, rfl⟩ := Option.map_eq_some_iff.mp h
    exact ⟨name, owner, start, ⟨target, .nothing, rowEntity?_eq_some_iff.mp found⟩, Entity.names_column _ name⟩
  | .convert operand, _, h => by
    obtain ⟨member, owner, start, ⟨target, enclosed, chain⟩, names⟩ := reaches_of_column? (e := operand) h
    exact ⟨member, owner, start, ⟨target, .convert enclosed, chain⟩, names⟩
  | .quote operand, _, h => by
    obtain ⟨member, owner, start, ⟨target, enclosed, chain⟩, names⟩ := reaches_of_column? (e := operand) h
    exact ⟨member, owner, start, ⟨target, .quote enclosed, chain⟩, names⟩

theorem Reaches.column?_eq {e : Expr} {member : String} {owner : Option Entity} {start : Entity}
    (h : e.Reaches member owner start) : e.column? = some ((owner.getD start).column member) := by
  obtain ⟨target, enclosed, chain⟩ := h
  induction enclosed with
  | nothing =>
    rw [column?, rowEntity?_eq_some_iff.mpr chain]
    rfl
  | convert _ ih => exact ih
  | quote _ ih => exact ih

end Expr

namespace Column

theorem ofExpr_eq_ok_iff {e : Expr} {c : Column} : Column.ofExpr e = .ok c ↔ e.column? = some c := by
  constructor
  · intro h
    exact Expr.column?_of_ofExpr (term_of_ofExpr h)
  · intro h
    rw [Column.ofExpr, Expr.ofExpr_of_column? h]
    rfl

/-- An expression has a column exactly if it reaches a member of a chain that begins with a
    row. The column is the one that the member names in the entity that declares it, or else
    in the one the chain begins with. -/
theorem references_are_member_chains (e : Expr) :
    ((∃ c, Column.ofExpr e = .ok c) ↔ ∃ member owner start, e.Reaches member owner start) ∧
    ∀ c, Column.ofExpr e = .ok c ↔
      ∃ member owner start, e.Reaches member owner start ∧ (owner.getD start).Names member c := by
  have named : ∀ c, Column.ofExpr e = .ok c ↔
      ∃ member owner start, e.Reaches member owner start ∧ (owner.getD start).Names member c := by
    intro c
    rw [ofExpr_eq_ok_iff]
    constructor
    · exact Expr.reaches_of_column?
    · intro h
      obtain ⟨member, owner, start, reached, names⟩ := h
      rw [reached.column?_eq, Entity.names_iff.mp names]
  refine ⟨⟨?_, ?_⟩, named⟩
  · intro h
    obtain ⟨c, found⟩ := h
    obtain ⟨member, owner, start, reached, -⟩ := (named c).mp found
    exact ⟨member, owner, start, reached⟩
  · intro h
    obtain ⟨member, owner, start, reached⟩ := h
    exact ⟨(owner.getD start).column member, ofExpr_eq_ok_iff.mpr reached.column?_eq⟩

/-- `QUOTE(CONVERT(user.group).title)`: the last member has an owner, and the owner has two
    pairs for it. -/
example :
    let user : Entity := ⟨"User", "Users", [("group", "GroupId"), ("title", "Salutation")]⟩
    let group : Entity := ⟨"Group", "Groups", [("title", "Title"), ("title", "Caption")]⟩
    Column.ofExpr (.quote (.member (.convert (.member (.row user) "group" none)) "title" (some group)))
      = .ok ⟨"Groups", "Title"⟩ := rfl

end Column

end Querycraft
