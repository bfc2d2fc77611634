/-
  Querycraft.Proofs.Normalization — the normal form of a term has the term's truth value.

  Here a term may have no meaning at all. A negation has one only over a truth value, and
  an equality only between two truth values or two values of other types; `NULL` written
  down is the truth value unknown. What a server makes of everything else is left open
  (`Typed`): which values are equal, whether unknown may be compared with a value of
  another type, what order comparisons, arithmetic and matches give, and for which sides.

  Proved, for every such server, row and term:
  - `meaning?_negate`: negating a normal term negates its truth value;
  - `meaning?_equality`: taking the negations out of an equality keeps its meaning;
  - `normalize_keeps_truth`: so a term that has a truth value keeps it in normal form.
  A term without a meaning may get one: two negations over a number cancel.
-/

import Querycraft.Proofs.Meaning
import Querycraft.Proofs.NormalForm

namespace Querycraft

namespace Truth

/-- Equality of truth values, unknown if one of them is. -/
def equal : Truth → Truth → Truth
  | .unknown, _ | _, .unknown => .unknown
  | .yes, .yes | .no, .no => .yes
  | .yes, .no | .no, .yes => .no

theorem equal_not_left (a b : Truth) : a.not.equal b = (a.equal b).not := by
  cases a <;> cases b <;> rfl

theorem equal_not_right (a b : Truth) : a.equal b.not = (a.equal b).not := by
  cases a <;> cases b <;> rfl

end Truth

/-! ## Terms that may have no meaning -/

inductive Datum where
  | truth (t : Truth)
  /-- A value of a type other than truth values, or the `NULL` of such a type. -/
  | plain (v : Value)

namespace Datum

def ofValue : Value → Datum
  | .null => .truth .unknown
  | .bool b => .truth (.ofBool b)
  | v => .plain v

def truth? : Datum → Option Truth
  | .truth t => some t
  | .plain _ => none

theorem truth?_eq_some {a : Datum} {t : Truth} (h : a.truth? = some t) : a = .truth t := by
  cases a with
  | truth t' => rw [Option.some.inj h]
  | plain v => cases h

end Datum

structure Typed where
  /-- Equality of two values that are there. -/
  equals : Value → Value → Bool
  /-- Whether unknown may be compared with such a value. -/
  mixes : Value → Bool
  /-- An order comparison or an arithmetic operation. -/
  apply : Operator → Datum → Datum → Option Datum
  /-- A match of a column. -/
  fits : TextMatch → Datum → String → Option Datum

namespace Typed

variable (S : Typed)

/-- Equality, where it is defined: a truth value other than unknown is never compared with
    a value of another type. -/
def equal? : Datum → Datum → Option Truth
  | .truth a, .truth b => some (a.equal b)
  | .plain v, .plain w => some (if v.isNull || w.isNull then .unknown else .ofBool (S.equals v w))
  | .truth .unknown, .plain v | .plain v, .truth .unknown => if S.mixes v then some .unknown else none
  | .truth _, .plain _ | .plain _, .truth _ => none

def connect? (f : Truth → Truth → Truth) (a b : Datum) : Option Truth :=
  match a.truth?, b.truth? with
  | some s, some t => some (f s t)
  | _, _ => none

def operate? (op : Operator) (a b : Datum) : Option Datum :=
  match op with
  | .and => (connect? Truth.and a b).map .truth
  | .or => (connect? Truth.or a b).map .truth
  | .equal => (S.equal? a b).map .truth
  | .notEqual => (S.equal? a b).map fun t => .truth t.not
  | op => S.apply op a b

def letters : Typed where
  equals v w := v.text? == w.text?
  mixes _ := true
  apply _ _ _ := none
  fits _ _ _ := some (.truth .unknown)

end Typed

namespace Term

/-- What a term stands for in a row, if it stands for anything. -/
def meaning? (S : Typed) (row : Column → Datum) : Term → Option Datum
  | .column c => some (row c)
  | .value v => some (.ofValue v)
  | .not operand => do
    let a ← meaning? S row operand
    let t ← a.truth?
    return .truth t.not
  | .like m c text => S.fits m (row c) text
  | .operation op left right => do
    let a ← meaning? S row left
    let b ← meaning? S row right
    S.operate? op a b

section Meaning

variable {S : Typed} {row : Column → Datum}

theorem meaning?_not {t : Term} {a : Datum} :
    (Term.not t).meaning? S row = some a ↔ ∃ s, t.meaning? S row = some (.truth s) ∧ a = .truth s.not := by
  simp only [meaning?, Option.bind_eq_bind, Option.bind_eq_some_iff]
  constructor
  · intro ⟨b, found, s, isTruth, same⟩
    rw [Datum.truth?_eq_some isTruth] at found
    exact ⟨s, found, (Option.some.inj same).symm⟩
  · intro ⟨s, found, same⟩
    exact ⟨.truth s, found, s, rfl, congrArg some same.symm⟩

theorem meaning?_operation {op : Operator} {l r : Term} {c : Datum} :
    (Term.operation op l r).meaning? S row = some c ↔
      ∃ a b, l.meaning? S row = some a ∧ r.meaning? S row = some b ∧ S.operate? op a b = some c := by
  simp only [meaning?, Option.bind_eq_bind, Option.bind_eq_some_iff]
  constructor
  · intro ⟨a, left, b, right, applied⟩
    exact ⟨a, b, left, right, applied⟩
  · intro ⟨a, b, left, right, applied⟩
    exact ⟨a, left, b, right, applied⟩

end Meaning

end Term

/-! ## Negations of the sides of an equality -/

namespace Typed

variable {S : Typed} {op : Operator}

/-- A negation of the left side is a negation of the whole, if the whole has a meaning. -/
theorem operate?_not_left (h : op.isEquality = true) {a : Truth} {b c : Datum}
    (applied : S.operate? op (.truth a.not) b = some c) :
    ∃ t, S.operate? op (.truth a) b = some (.truth t) ∧ c = .truth t.not := by
  have equality : ∀ {s : Truth}, S.equal? (.truth a.not) b = some s → S.equal? (.truth a) b = some s.not := by
    intro s found
    cases b with
    | truth b =>
      obtain rfl := Option.some.inj found
      rw [Truth.equal_not_left, Truth.not_not]
      rfl
    | plain v =>
      -- only unknown meets a value of another type, and it is its own negation
      cases a with
      | unknown =>
        simp only [Truth.not, equal?] at found ⊢
        split at found
        · rename_i mixed
          obtain rfl := Option.some.inj found
          rw [if_pos mixed]
        · cases found
      | yes => cases found
      | no => cases found
  cases op with
  | equal =>
    obtain ⟨s, found, rfl⟩ := Option.map_eq_some_iff.mp applied
    exact ⟨s.not, Option.map_eq_some_iff.mpr ⟨s.not, equality found, rfl⟩, by rw [Truth.not_not]⟩
  | notEqual =>
    obtain ⟨s, found, rfl⟩ := Option.map_eq_some_iff.mp applied
    exact ⟨s.not.not, Option.map_eq_some_iff.mpr ⟨s.not, equality found, rfl⟩, by rw [Truth.not_not]⟩
  | _ => cases h

/-- The sides of an equality may be exchanged. -/
theorem operate?_comm_truth (h : op.isEquality = true) (a : Truth) (b : Datum) :
    S.operate? op b (.truth a) = S.operate? op (.truth a) b := by
  have same : S.equal? b (.truth a) = S.equal? (.truth a) b := by
    cases b with
    | truth b => cases a <;> cases b <;> rfl
    | plain v => cases a <;> rfl
  cases op with
  | equal => simp only [operate?, same]
  | notEqual => simp only [operate?, same]
  | _ => cases h

theorem operate?_not_right (h : op.isEquality = true) {a : Truth} {b c : Datum}
    (applied : S.operate? op b (.truth a.not) = some c) :
    ∃ t, S.operate? op b (.truth a) = some (.truth t) ∧ c = .truth t.not := by
  rw [operate?_comm_truth h] at applied ⊢
  exact operate?_not_left h applied

/-- Negations of both sides cancel. -/
theorem operate?_not_both (h : op.isEquality = true) (a b : Truth) :
    S.operate? op (.truth a.not) (.truth b.not) = S.operate? op (.truth a) (.truth b) := by
  have same : a.not.equal b.not = a.equal b := by
    rw [Truth.equal_not_left, Truth.equal_not_right, Truth.not_not]
  cases op with
  | equal => simp only [operate?, equal?, same]
  | notEqual => simp only [operate?, equal?, same]
  | _ => cases h

end Typed

/-! ## Normal forms -/

namespace Term

section Normal

variable {S : Typed} {row : Column → Datum}

/-- The negation of a term that has a truth value. -/
theorem meaning?_negate {t : Term} {s : Truth} (h : t.meaning? S row = some (.truth s)) :
    t.negate.meaning? S row = some (.truth s.not) := by
  have negation : (Term.not t).meaning? S row = some (.truth s.not) := meaning?_not.mpr ⟨s, h, rfl⟩
  cases t with
  | not u =>
    obtain ⟨s', inner, same⟩ := meaning?_not.mp h
    obtain rfl := Datum.truth.inj same
    rw [Truth.not_not]
    exact inner
  | value v =>
    cases v with
    | bool b =>
      obtain rfl : Truth.ofBool b = s := Datum.truth.inj (Option.some.inj h)
      rw [Truth.not_ofBool]
      rfl
    | _ => exact negation
  | column c => exact negation
  | like m c text => exact negation
  | operation op l r => exact negation

/-- An equality with the negations of its sides taken out has the meaning of the equality. -/
theorem meaning?_equality {op : Operator} (equality : op.isEquality = true) {l r : Term} {c : Datum}
    (h : (Term.operation op l r).meaning? S row = some c) :
    (Term.equality op l r).meaning? S row = some c := by
  obtain ⟨a, b, left, right, applied⟩ := meaning?_operation.mp h
  rw [equality_eq]
  cases negatedLeft : l.negated? with
  | some l' =>
    obtain rfl := negated?_eq_some negatedLeft
    obtain ⟨s, innerLeft, rfl⟩ := meaning?_not.mp left
    cases negatedRight : r.negated? with
    | some r' =>
      obtain rfl := negated?_eq_some negatedRight
      obtain ⟨t, innerRight, rfl⟩ := meaning?_not.mp right
      rw [Typed.operate?_not_both equality] at applied
      exact meaning?_operation.mpr ⟨_, _, innerLeft, innerRight, applied⟩
    | none =>
      obtain ⟨t, inner, rfl⟩ := Typed.operate?_not_left equality applied
      exact meaning?_negate (meaning?_operation.mpr ⟨_, _, innerLeft, right, inner⟩)
  | none =>
    cases negatedRight : r.negated? with
    | some r' =>
      obtain rfl := negated?_eq_some negatedRight
      obtain ⟨s, innerRight, rfl⟩ := meaning?_not.mp right
      obtain ⟨t, inner, rfl⟩ := Typed.operate?_not_right equality applied
      exact meaning?_negate (meaning?_operation.mpr ⟨_, _, left, innerRight, inner⟩)
    | none => exact h

/-- A term that has a meaning has it in normal form too. The induction has to be about all
    meanings, since the sides of a comparison need not be truth values. -/
theorem meaning?_normalize {t : Term} {a : Datum} (h : t.meaning? S row = some a) :
    t.normalize.meaning? S row = some a := by
  induction t generalizing a with
  | column c => exact h
  | value v => exact h
  | like m c text => exact h
  | not u ih =>
    obtain ⟨s, inner, rfl⟩ := meaning?_not.mp h
    exact meaning?_negate (ih inner)
  | operation op l r ihl ihr =>
    obtain ⟨b, c, left, right, applied⟩ := meaning?_operation.mp h
    have sides : (Term.operation op l.normalize r.normalize).meaning? S row = some a :=
      meaning?_operation.mpr ⟨b, c, ihl left, ihr right, applied⟩
    unfold normalize
    split
    · rename_i equality
      exact meaning?_equality equality sides
    · exact sides

end Normal

/-- A term that has a truth value in a row has the same one in normal form, whatever the
    server makes of values that are no truth values. -/
theorem normalize_keeps_truth (S : Typed) (row : Column → Datum) (t : Term) (s : Truth)
    (h : t.meaning? S row = some (.truth s)) : t.normalize.meaning? S row = some (.truth s) :=
  meaning?_normalize h

-- the other direction fails: this term has no meaning, and its normal form is a number
example : (Term.not (.not (.value (.int 5)))).meaning? .letters (fun _ => .truth .yes) = none ∧
    (Term.not (.not (.value (.int 5)))).normalize = .value (.int 5) := ⟨rfl, rfl⟩

/-- `(NOT (NOT (NOT active)) = NOT true) AND (NOT (name = 'ann') <> NOT (name = 'bob'))`: the
    constant is folded and carries no negation any more, so the first equality is negated
    as a whole; the second loses both negations. -/
theorem normalize_keeps_truth_folded :
    let active : Term := .column ⟨"users", "active"⟩
    let named (text : String) : Term := .operation .equal (.column ⟨"users", "name"⟩) (.value (.text text))
    let row (c : Column) : Datum := if c.name = "active" then .truth .yes else .plain (.text "ann")
    let t : Term :=
      .operation .and
        (.operation .equal (.not (.not (.not active))) (.not (.value (.bool true))))
        (.operation .notEqual (.not (named "ann")) (.not (named "bob")))
    t.normalize =
        .operation .and (.not (.operation .equal active (.value (.bool false))))
          (.operation .notEqual (named "ann") (named "bob")) ∧
      t.meaning? Typed.letters row = some (.truth .yes) ∧
      t.normalize.meaning? Typed.letters row = some (.truth .yes) := by
  intro active named row t
  have meaning : t.meaning? Typed.letters row = some (.truth .yes) := by
    rfl
  exact ⟨rfl, meaning, normalize_keeps_truth Typed.letters row t .yes meaning⟩

end Term

end Querycraft
