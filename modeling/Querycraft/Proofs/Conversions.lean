/-
  Querycraft.Proofs.Conversions — conversions and quotations mean nothing.

  A conversion or a quotation may stand anywhere in an expression: around the whole, between
  two members of a chain, around the receiver of a method or around one of its arguments.
  Four functions walk an expression, and each has to look through them. `bare` takes them
  out at every depth, and `conversions` counts them. Proved, for every expression:
  (1) the row a chain starts from, the rows that are mentioned and the value are those of
      the bare expression (`rowEntity?_bare`, `mentionsRow_bare`, `evaluate_bare`);
  (2) so is the term, and with it everything a predicate does to a draft, errors included
      (`ofExpr_bare`, `conversions_mean_nothing`).
-/

import Querycraft.Proofs.Meaning

namespace Querycraft

namespace Expr

mutual

def bare : Expr → Expr
  | .constant v => .constant v
  | .enumConstant type variant v => .enumConstant type variant v
  | .row entity => .row entity
  | .member target name owner => .member target.bare name owner
  | .not operand => .not operand.bare
  | .convert operand | .quote operand => operand.bare
  | .binary op left right => .binary op left.bare right.bare
  | .invoke receiver method arguments host => .invoke receiver.bare method (bareAll arguments) host
  | .call method arguments host => .call method (bareAll arguments) host
  | .record entries => .record (bareEntries entries)

def bareAll : List Expr → List Expr
  | [] => []
  | e :: rest => e.bare :: bareAll rest

def bareEntries : List (String × Expr) → List (String × Expr)
  | [] => []
  | (name, e) :: rest => (name, e.bare) :: bareEntries rest

end

mutual

def conversions : Expr → Nat
  | .constant _ | .enumConstant .. | .row _ => 0
  | .member target _ _ => target.conversions
  | .not operand => operand.conversions
  | .convert operand | .quote operand => operand.conversions + 1
  | .binary _ left right => left.conversions + right.conversions
  | .invoke receiver _ arguments _ => receiver.conversions + conversionsOfAll arguments
  | .call _ arguments _ => conversionsOfAll arguments
  | .record entries => conversionsOfEntries entries

def conversionsOfAll : List Expr → Nat
  | [] => 0
  | e :: rest => e.conversions + conversionsOfAll rest

def conversionsOfEntries : List (String × Expr) → Nat
  | [] => 0
  | (_, e) :: rest => e.conversions + conversionsOfEntries rest

end

mutual

theorem conversions_bare : ∀ e : Expr, e.bare.conversions = 0
  | .constant _ | .enumConstant .. | .row _ => rfl
  | .member target _ _ => conversions_bare target
  | .not operand => conversions_bare operand
  | .convert operand => conversions_bare operand
  | .quote operand => conversions_bare operand
  | .binary _ left right => by simp only [bare, conversions, conversions_bare left, conversions_bare right]
  | .invoke receiver _ arguments _ => by
    simp only [bare, conversions, conversions_bare receiver, conversionsOfAll_bareAll arguments]
  | .call _ arguments _ => conversionsOfAll_bareAll arguments
  | .record entries => conversionsOfEntries_bareEntries entries

theorem conversionsOfAll_bareAll : ∀ es : List Expr, conversionsOfAll (bareAll es) = 0
  | [] => rfl
  | e :: rest => by simp only [bareAll, conversionsOfAll, conversions_bare e, conversionsOfAll_bareAll rest]

theorem conversionsOfEntries_bareEntries : ∀ entries : List (String × Expr), conversionsOfEntries (bareEntries entries) = 0
  | [] => rfl
  | (_, e) :: rest => by
    simp only [bareEntries, conversionsOfEntries, conversions_bare e, conversionsOfEntries_bareEntries rest]

end

/-! ## (1) Rows and values -/

theorem rowEntity?_bare : ∀ e : Expr, e.bare.rowEntity? = e.rowEntity?
  | .member target _ _ => rowEntity?_bare target
  | .convert operand => rowEntity?_bare operand
  | .quote operand => rowEntity?_bare operand
  | .constant _ | .enumConstant .. | .row _ | .not _ | .binary .. | .invoke .. | .call .. | .record _ => rfl

mutual

theorem mentionsRow_bare : ∀ e : Expr, e.bare.mentionsRow = e.mentionsRow
  | .constant _ | .enumConstant .. | .row _ => rfl
  | .member target _ _ => mentionsRow_bare target
  | .not operand => mentionsRow_bare operand
  | .convert operand => mentionsRow_bare operand
  | .quote operand => mentionsRow_bare operand
  | .binary _ left right => by simp only [bare, mentionsRow, mentionsRow_bare left, mentionsRow_bare right]
  | .invoke receiver _ arguments _ => by
    simp only [bare, mentionsRow, mentionsRow_bare receiver, anyMentionsRow_bareAll arguments]
  | .call _ arguments _ => anyMentionsRow_bareAll arguments
  | .record entries => anyEntryMentionsRow_bareEntries entries

theorem anyMentionsRow_bareAll : ∀ es : List Expr, anyMentionsRow (bareAll es) = anyMentionsRow es
  | [] => rfl
  | e :: rest => by simp only [bareAll, anyMentionsRow, mentionsRow_bare e, anyMentionsRow_bareAll rest]

theorem anyEntryMentionsRow_bareEntries : ∀ entries : List (String × Expr),
    anyEntryMentionsRow (bareEntries entries) = anyEntryMentionsRow entries
  | [] => rfl
  | (_, e) :: rest => by
    simp only [bareEntries, anyEntryMentionsRow, mentionsRow_bare e, anyEntryMentionsRow_bareEntries rest]

end

mutual

theorem evaluate_bare : ∀ e : Expr, e.bare.evaluate = e.evaluate
  | .constant _ | .enumConstant .. | .row _ => rfl
  | .member target _ _ => by simp only [bare, evaluate, evaluate_bare target]
  | .not operand => by simp only [bare, evaluate, evaluate_bare operand]
  | .convert operand => evaluate_bare operand
  | .quote operand => evaluate_bare operand
  | .binary _ left right => by simp only [bare, evaluate, evaluate_bare left, evaluate_bare right]
  | .invoke receiver _ arguments host => by
    cases host with
    | none => rfl
    | some host => simp only [bare, evaluate, evaluate_bare receiver, evaluateAll_bareAll arguments]
  | .call _ arguments host => by
    cases host with
    | none => rfl
    | some host => simp only [bare, evaluate, evaluateAll_bareAll arguments]
  | .record _ => rfl

theorem evaluateAll_bareAll : ∀ es : List Expr, evaluateAll (bareAll es) = evaluateAll es
  | [] => rfl
  | e :: rest => by simp only [bareAll, evaluateAll, evaluate_bare e, evaluateAll_bareAll rest]

end

/-! ## (2) Terms -/

/-- A chain that starts from a row is a column or the row itself, so its term is a column or
    there is none. -/
theorem ofExpr_of_rowEntity? : ∀ {e : Expr} {row : Entity}, e.rowEntity? = some row →
    (∃ c, Term.ofExpr e = .ok (.column c)) ∨ ∃ error, Term.ofExpr e = .error error
  | .row entity, _, _ => .inr ⟨.rowAsOperand entity.name, rfl⟩
  | .member target name owner, start, h => by
    left
    have found : target.rowEntity? = some start := h
    exact ⟨chainColumn start name owner, by rw [Term.ofExpr_member, found]⟩
  | .convert operand, _, h => ofExpr_of_rowEntity? (e := operand) h
  | .quote operand, _, h => ofExpr_of_rowEntity? (e := operand) h

theorem length_bareAll (es : List Expr) : (bareAll es).length = es.length := by
  induction es with
  | nil => rfl
  | cons e rest ih => rw [bareAll, List.length_cons, ih, List.length_cons]

theorem ofExpr_bare_invoke {receiver : Expr} (same : Term.ofExpr receiver.bare = Term.ofExpr receiver)
    (method : String) (arguments : List Expr) (host : Option Host) :
    Term.ofExpr (Expr.invoke receiver method arguments host).bare =
      Term.ofExpr (.invoke receiver method arguments host) := by
  have value := evaluate_bare (.invoke receiver method arguments host)
  simp only [bare] at value ⊢
  simp only [Term.ofExpr_invoke, rowEntity?_bare, same, value]
  cases start : receiver.rowEntity? with
  | none => simp only [Option.isSome_none, Bool.false_eq_true, if_false]
  | some row =>
    simp only [Option.isSome_some, if_true]
    generalize TextMatch.ofName? method = named
    cases named with
    | none => rfl
    | some m =>
      rcases arguments with _ | ⟨argument, _ | ⟨second, rest⟩⟩
      · rfl
      · -- a column or an error: the message that names the receiver's shape is out of reach
        rcases ofExpr_of_rowEntity? start with ⟨c, column⟩ | ⟨error, failed⟩
        · simp only [bareAll, column, evaluate_bare argument]
        · simp only [bareAll, failed]
      · simp only [bareAll, List.length_cons, length_bareAll]

theorem ofExpr_bare : ∀ e : Expr, Term.ofExpr e.bare = Term.ofExpr e
  | .constant _ | .enumConstant .. | .row _ => rfl
  | .member target name owner => by
    have value := evaluate_bare (.member target name owner)
    simp only [bare] at value ⊢
    simp only [Term.ofExpr_member, rowEntity?_bare, value]
  | .not operand => by simp only [bare, Term.ofExpr_not, ofExpr_bare operand]
  | .convert operand => ofExpr_bare operand
  | .quote operand => ofExpr_bare operand
  | .binary op left right => by
    have value := evaluate_bare (.binary op left right)
    have rows := mentionsRow_bare (.binary op left right)
    simp only [bare] at value rows ⊢
    simp only [Term.ofExpr_binary, rows, value, ofExpr_bare left, ofExpr_bare right]
  | .invoke receiver method arguments host => ofExpr_bare_invoke (ofExpr_bare receiver) method arguments host
  | .call method arguments host =>
    congrArg (Except.map Term.value) (evaluate_bare (.call method arguments host))
  | .record _ => rfl

/-- An expression and the same without its conversions and quotations, at whatever depth they
    stand, have one term, one value and one effect on every draft, or fail with one error. -/
theorem conversions_mean_nothing (e : Expr) :
    e.bare.conversions = 0 ∧ Term.ofExpr e.bare = Term.ofExpr e ∧ e.bare.evaluate = e.evaluate ∧
      ∀ d : Draft, (Draft.predicate e.bare).run d = (Draft.predicate e).run d := by
  refine ⟨conversions_bare e, ofExpr_bare e, evaluate_bare e, ?_⟩
  intro d
  have normal : Term.resolve e.bare = Term.resolve e := by rw [Term.resolve, Term.resolve, ofExpr_bare]
  rw [Draft.predicate, Draft.predicate, normal]

end Expr

end Querycraft
