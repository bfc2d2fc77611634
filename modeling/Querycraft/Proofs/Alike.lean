/-
  Querycraft.Proofs.Alike — drafts that differ in nothing but the values they hold.

  Two drafts are alike when they agree on everything except the values of their
  parameters; the names agree too. No value is anywhere else in a draft, so drafts that
  are alike have the same command (`Draft.Alike.command`).

  Two steps are alike when, from drafts that are alike, they succeed together and leave
  drafts that are alike, or fail together. The rules below follow the ways to build a
  step: one for each operation on a draft, and `Drafting.Alike.bind` to chain them.
-/

import Mathlib.Data.List.Forall2
import Querycraft.Proofs.Drafting

namespace Querycraft

/-! ## Results that come together -/

/-- Two results: both are there and related, or both are failures. -/
inductive Together (R : α → β → Prop) : Except Error α → Except Error β → Prop
  | ok {a : α} {b : β} : R a b → Together R (.ok a) (.ok b)
  | error (e e' : Error) : Together R (.error e) (.error e')

namespace Together

theorem bind {R : α → β → Prop} {S : γ → δ → Prop} {x : Except Error α} {y : Except Error β}
    {f : α → Except Error γ} {g : β → Except Error δ} (h : Together R x y)
    (next : ∀ a b, R a b → Together S (f a) (g b)) : Together S (x >>= f) (y >>= g) := by
  cases h with
  | ok related => exact next _ _ related
  | error e e' => exact .error e e'

theorem map {R : α → β → Prop} {S : γ → δ → Prop} {x : Except Error α} {y : Except Error β}
    {f : α → γ} {g : β → δ} (h : Together R x y) (next : ∀ a b, R a b → S (f a) (g b)) :
    Together S (x.map f) (y.map g) := by
  cases h with
  | ok related => exact .ok (next _ _ related)
  | error e e' => exact .error e e'

theorem refl {R : α → α → Prop} (x : Except Error α) (h : ∀ a, R a a) : Together R x x := by
  cases x with
  | ok a => exact .ok (h a)
  | error e => exact .error e e

theorem of_isOk {R : α → β → Prop} {x : Except Error α} {y : Except Error β} (h : Together R x y)
    (succeeds : x.isOk = true) : ∃ a b, x = .ok a ∧ y = .ok b ∧ R a b := by
  cases h with
  | ok related => exact ⟨_, _, rfl, rfl, related⟩
  | error e e' => cases succeeds

end Together

/-! ## Names -/

namespace Parameters

def extendNames (held names : List String) : List String :=
  names.foldl (fun held name => if held.contains name then held else held ++ [name]) held

theorem names_add (p : Parameters) (name : String) (value : Value) :
    (p.add name value).1.names = if p.names.contains name then p.names else p.names ++ [name] := by
  unfold add contains
  split
  · rfl
  · simp [names]

/-- The names of an extended map come from the names alone. -/
theorem names_extend (p other : Parameters) : (p.extend other).names = extendNames p.names other.names := by
  obtain ⟨entries⟩ := other
  induction entries generalizing p with
  | nil => rfl
  | cons entry rest ih =>
    obtain ⟨name, value⟩ := entry
    rw [extend_cons, ih, names_add]
    rfl

end Parameters

/-! ## Fragments without their operands -/

namespace Fragment

def blank (fragment : Fragment α) : Fragment Unit := fragment.numbered (fun _ => ()) 0

theorem numbered_blank (issue : Nat → β) (i : Nat) (fragment : Fragment α) :
    fragment.blank.numbered issue i = fragment.numbered issue i := by
  cases fragment with
  | inList c negated values =>
    rw [blank, numbered_inList, numbered_inList, numbered_inList, List.length_map, List.length_range']
  | _ => rfl

theorem length_operands_blank (fragment : Fragment α) :
    fragment.blank.operands.length = fragment.operands.length := by
  rw [blank, operands_numbered, List.length_map, List.length_range']

end Fragment

/-! ## Drafts -/

namespace Draft

/-- The drafts agree on everything except the values of their parameters. -/
structure Alike (d d' : Draft) : Prop where
  rest : d' = { d with parameters := d'.parameters }
  names : d'.parameters.names = d.parameters.names

namespace Alike

theorem refl (d : Draft) : Alike d d := ⟨rfl, rfl⟩

variable {d d' : Draft} (h : Alike d d')

include h

/-- The command is the same: it shows no value. -/
theorem command : d'.command = d.command := by
  rw [h.rest]
  rfl

theorem conditionSql : d'.conditionSql = d.conditionSql := by
  rw [h.rest]
  rfl

theorem offshoot (table : String) (operation : Operation) :
    d'.offshoot table operation = d.offshoot table operation := by
  rw [h.rest]
  rfl

theorem table : d'.table = d.table := by
  rw [h.rest]
  rfl

/-- A change that leaves the parameters alone, and does not look at them. -/
theorem change {f : Draft → Draft}
    (same : ∀ (d : Draft) (p : Parameters), f { d with parameters := p } = { f d with parameters := p }) :
    Alike (f d) (f d') := by
  have before : f d = { f d with parameters := d.parameters } := same d d.parameters
  have after : f d' = { f d with parameters := d'.parameters } := by
    rw [← same, ← h.rest]
  have kept : (f d').parameters = d'.parameters := by rw [after]
  have kept' : (f d).parameters = d.parameters := by rw [before]
  refine ⟨?_, ?_⟩
  · rw [kept]
    exact after
  · rw [kept, kept', h.names]

theorem bindValues {held held' : List Value} (count : held.length = held'.length) :
    Alike (d.bindValues held) (d'.bindValues held') := by
  have names : (d'.bindValues held').parameters.names = (d.bindValues held).parameters.names := by
    simp only [Draft.bindValues, Parameters.names_extend, Parameters.names_mk, map_fst_numberedEntries, count,
      h.names]
    rw [h.rest]
    rfl
  refine ⟨?_, names⟩
  rw [h.rest]
  simp only [Draft.bindValues, count]

theorem push {fragment fragment' : Fragment Value} (same : fragment.blank = fragment'.blank) :
    Alike (d.push fragment) (d'.push fragment') := by
  have count : fragment.operands.length = fragment'.operands.length := by
    rw [← Fragment.length_operands_blank, same, Fragment.length_operands_blank]
  have bound := h.bindValues count
  rw [push_eq, push_eq, ← Fragment.numbered_blank, ← Fragment.numbered_blank _ _ fragment', same]
  refine ⟨?_, bound.names⟩
  rw [h.rest]
  simp only [Draft.bindValues, count]
  rfl

theorem pushAll {fragments fragments' : List (Fragment Value)}
    (same : fragments.map Fragment.blank = fragments'.map Fragment.blank) :
    Alike (d.pushAll fragments) (d'.pushAll fragments') := by
  induction fragments generalizing d d' fragments' with
  | nil =>
    obtain rfl := List.map_eq_nil_iff.mp same.symm
    exact h
  | cons fragment rest ih =>
    obtain ⟨fragment', rest', rfl, first, others⟩ := List.map_eq_cons_iff.mp same.symm
    exact ih (h.push first.symm) others.symm

end Alike

end Draft

/-! ## Steps -/

namespace Drafting

def outcome (step : Drafting α) (d : Draft) : Except Error (α × Draft) :=
  match step.run d with
  | (.ok a, d') => .ok (a, d')
  | (.error e, _) => .error e

theorem outcome_bind (step : Drafting α) (next : α → Drafting β) (d : Draft) :
    (step >>= next).outcome d = step.outcome d >>= fun (a, d') => (next a).outcome d' := by
  simp only [outcome, run_bind]
  rcases step.run d with ⟨result, d'⟩
  cases result with
  | ok a => rfl
  | error e => rfl

/-- From drafts that are alike the steps succeed together, with related results and
    drafts that are alike, or fail together. -/
def Alike (R : α → β → Prop) (x : Drafting α) (y : Drafting β) : Prop :=
  ∀ d d', Draft.Alike d d' →
    Together (fun p q => R p.1 q.1 ∧ Draft.Alike p.2 q.2) (x.outcome d) (y.outcome d')

namespace Alike

theorem bind {R : α → β → Prop} {S : γ → δ → Prop} {x : Drafting α} {y : Drafting β}
    {f : α → Drafting γ} {g : β → Drafting δ} (h : Alike R x y)
    (next : ∀ a b, R a b → Alike S (f a) (g b)) : Alike S (x >>= f) (y >>= g) := by
  intro d d' same
  rw [outcome_bind, outcome_bind]
  exact (h d d' same).bind fun p q related => next p.1 q.1 related.1 p.2 q.2 related.2

theorem pure {R : α → β → Prop} {a : α} {b : β} (h : R a b) : Alike R (Pure.pure a) (Pure.pure b) :=
  fun _ _ same => .ok ⟨h, same⟩

theorem throw (R : α → β → Prop) (e e' : Error) : Alike R (MonadExcept.throw e) (MonadExcept.throw e') :=
  fun _ _ _ => .error e e'

theorem modify {f g : Draft → Draft} (h : ∀ d d', Draft.Alike d d' → Draft.Alike (f d) (g d')) :
    Alike Eq (modify f : Drafting Unit) (modify g) :=
  fun d d' same => .ok ⟨rfl, h d d' same⟩

/-- A step that looks at the draft it stands on. -/
theorem get {R : α → β → Prop} {f : Draft → Drafting α} {g : Draft → Drafting β}
    (h : ∀ d d', Draft.Alike d d' →
      Together (fun p q => R p.1 q.1 ∧ Draft.Alike p.2 q.2) ((f d).outcome d) ((g d').outcome d')) :
    Alike R (do f (← MonadState.get)) (do g (← MonadState.get)) := by
  intro d d' same
  rw [outcome_bind, outcome_bind]
  exact h d d' same

end Alike

end Drafting

namespace Draft

open Drafting

theorem alike_given {R : α → β → Prop} {x : Except Error α} {y : Except Error β} (h : Together R x y) :
    Drafting.Alike R (given x) (given y) := by
  cases h with
  | ok related => exact .pure related
  | error e e' => exact .throw R e e'

theorem alike_columnOf (key : Expr) : Drafting.Alike Eq (columnOf key) (columnOf key) := by
  rw [columnOf_eq]
  exact alike_given (.refl _ fun _ => rfl)

theorem alike_projectionOf (e : Expr) : Drafting.Alike Eq (projectionOf e) (projectionOf e) := by
  rw [projectionOf_eq]
  exact alike_given (.refl _ fun _ => rfl)

/-- A draft on the side starts from nothing that a value could have reached. -/
theorem alike_onOffshoot {table : String} {operation : Operation} {x y : Drafting Unit}
    (h : Drafting.Alike Eq x y) :
    Drafting.Alike Draft.Alike (onOffshoot table operation x) (onOffshoot table operation y) := by
  refine .get fun d d' same => ?_
  have inner := h (d.offshoot table operation) (d'.offshoot table operation)
    (same.offshoot table operation ▸ .refl _)
  simp only [outcome] at inner ⊢
  generalize x.run (d.offshoot table operation) = run at inner ⊢
  generalize y.run (d'.offshoot table operation) = run' at inner ⊢
  rcases run with ⟨u | e, sub⟩ <;> rcases run' with ⟨u' | e', sub'⟩
  · exact .error _ _
  · cases inner
  · cases inner
  · cases inner with
    | ok related => exact .ok ⟨related.2, same⟩

theorem alike_adopt {sub sub' : Draft} (h : Draft.Alike sub sub') :
    Drafting.Alike Eq (adopt sub) (adopt sub') := by
  refine .get fun d d' same => ?_
  have holds : d'.parameters.contains = d.parameters.contains := by
    funext name
    simp only [Parameters.contains, same.names]
  rw [h.names, holds]
  split
  · exact .error _ _
  · refine .ok ⟨rfl, ?_, ?_⟩
    · rw [same.rest, h.rest]
    · simp only [Parameters.names_extend, h.names, same.names]

end Draft

end Querycraft
