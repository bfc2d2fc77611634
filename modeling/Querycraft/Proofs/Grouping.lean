/-
  Querycraft.Proofs.Grouping — what the parentheses of a condition tell apart.

  `Term.eval` gives every term a value in a row, also comparisons whose sides are
  conditions themselves; for predicates it agrees with `Term.truth`
  (`IsPredicate.verdict_eq`). `Term.phrase` is the phrase that a term's condition is meant
  to be read as, and has its value (`eval_phrase`).

  `Written` are the token sequences of conditions: operands as they stand, and between
  parentheses one operand, or two with a connective or an operator. A comparison of a
  column with a column or a value has no parentheses of its own, so `a < b < c` between
  parentheses may be either of two comparisons, a `Chain`. Proved:
  (1) the condition of a term is written as its phrase (`written_of_emits`);
  (2) what is written as a phrase without chains is written as no other phrase
      (`Written.unique`).
-/

import Querycraft.Proofs.Conditions

namespace Querycraft

/-! ## Values of terms -/

theorem Truth.toValue_ofBool (b : Bool) : (Truth.ofBool b).toValue = .bool b := by
  cases b <;> rfl

namespace Term

/-- The value of a term in a row. A column against a value is tested as a predicate is;
    any other two sides are compared by their values. -/
def eval (S : Semantics) (row : Column → Value) : Term → Value
  | .column c => row c
  | .value v => v
  | .not operand => (S.truthOf (eval S row operand)).not.toValue
  | .like m c text => (S.textMatch m (row c) text).toValue
  | .operation op left right =>
    match op with
    | .and => ((S.truthOf (eval S row left)).and (S.truthOf (eval S row right))).toValue
    | .or => ((S.truthOf (eval S row left)).or (S.truthOf (eval S row right))).toValue
    | op =>
      match pair? op left right with
      | some (.withValue c op v) => (S.test op (row c) v).toValue
      | some (.columns a op b) => (S.compare op (row a) (row b)).toValue
      | none => (S.compare op (eval S row left) (eval S row right)).toValue

def verdict (S : Semantics) (row : Column → Value) (t : Term) : Truth := S.truthOf (t.eval S row)

def columns : Term → List Column
  | .column c => [c]
  | .value _ => []
  | .not operand => operand.columns
  | .like _ c _ => [c]
  | .operation _ left right => left.columns ++ right.columns

theorem eval_operation {op : Operator} (h : op.isLogical = false) (S : Semantics) (row : Column → Value) (l r : Term) :
    (Term.operation op l r).eval S row =
      match pair? op l r with
      | some (.withValue c op v) => (S.test op (row c) v).toValue
      | some (.columns a op b) => (S.compare op (row a) (row b)).toValue
      | none => (S.compare op (l.eval S row) (r.eval S row)).toValue := by
  cases op <;> first | rfl | cases h

theorem isLogical_of_isComparison {op : Operator} (h : op.isComparison = true) : op.isLogical = false := by
  cases op <;> first | rfl | cases h

/-- A predicate says of a row what it means. -/
theorem IsPredicate.verdict_eq {t : Term} (h : t.IsPredicate) (S : Semantics) (row : Column → Value) :
    t.verdict S row = t.truth S row := by
  induction h with
  | column c => rfl
  | constant b => rfl
  | not _ ih => exact (S.truthOf_toValue _).trans (congrArg Truth.not ih)
  | and _ _ ihl ihr => exact (S.truthOf_toValue _).trans (congr (congrArg Truth.and ihl) ihr)
  | or _ _ ihl ihr => exact (S.truthOf_toValue _).trans (congr (congrArg Truth.or ihl) ihr)
  | like m c text => exact S.truthOf_toValue _
  | @comparison op l r pair comparison found =>
    rw [verdict, eval_operation (isLogical_of_isComparison comparison), truth_comparison comparison, found]
    cases pair with
    | withValue c op v => exact S.truthOf_toValue _
    | columns a op b => exact S.truthOf_toValue _

/-- Only the columns of a term matter for it. -/
theorem eval_congr {S : Semantics} {row row' : Column → Value} {t : Term} (h : ∀ c ∈ t.columns, row c = row' c) :
    t.eval S row = t.eval S row' := by
  induction t with
  | column c => exact h c List.mem_cons_self
  | value v => rfl
  | not t ih => simp only [eval, ih h]
  | like m c text => simp only [eval, h c List.mem_cons_self]
  | operation op l r ihl ihr =>
    have left := ihl fun c member => h c (List.mem_append_left _ member)
    have right := ihr fun c member => h c (List.mem_append_right _ member)
    cases logical : op.isLogical with
    | true =>
      cases op with
      | and => simp only [eval, left, right]
      | or => simp only [eval, left, right]
      | _ => cases logical
    | false =>
      rw [eval_operation logical, eval_operation logical]
      cases found : pair? op l r with
      | none => simp only [left, right]
      | some pair =>
        rcases pair?_cases found with ⟨c, v, rfl, rfl, rfl⟩ | ⟨v, c, rfl, rfl, rfl⟩ | ⟨a, b, rfl, rfl, rfl⟩
        · simp only [h c (by simp [columns])]
        · simp only [h c (by simp [columns])]
        · simp only [h a (by simp [columns]), h b (by simp [columns])]

end Term

/-! ## Phrases of terms -/

def Column.phrase (dialect : Dialect) (c : Column) : Phrase := .name (dialect.field c.table c.name)

namespace Term

def Pair.phrase (dialect : Dialect) : Pair → Phrase
  | .withValue c .equal .null => .nullTest (c.phrase dialect) false
  | .withValue c .notEqual .null => .nullTest (c.phrase dialect) true
  | .withValue c op v => .compare op (c.phrase dialect) (.value v)
  | .columns a op b => .compare op (a.phrase dialect) (b.phrase dialect)

def phrase (dialect : Dialect) : Term → Phrase
  | .column c => c.phrase dialect
  | .value v => .value v
  | .not operand => .not (phrase dialect operand)
  | .like .equals c text => .compare .equal (c.phrase dialect) (.value (.text text))
  | .like m c text => .like (c.phrase dialect) (.value (.text (m.pattern text)))
  | .operation op left right =>
    match op with
    | .and => .and (phrase dialect left) (phrase dialect right)
    | .or => .or (phrase dialect left) (phrase dialect right)
    | op =>
      match pair? op left right with
      | some pair => pair.phrase dialect
      | none => .compare op (phrase dialect left) (phrase dialect right)

theorem phrase_operation {op : Operator} (h : op.isLogical = false) (dialect : Dialect) (l r : Term) :
    (Term.operation op l r).phrase dialect =
      match pair? op l r with
      | some pair => pair.phrase dialect
      | none => .compare op (l.phrase dialect) (r.phrase dialect) := by
  cases op <;> first | rfl | cases h

theorem phrase_pattern {m : TextMatch} (h : m ≠ .equals) (dialect : Dialect) (c : Column) (text : String) :
    (Term.like m c text).phrase dialect = .like (c.phrase dialect) (.value (.text (m.pattern text))) := by
  cases m with
  | equals => exact absurd rfl h
  | _ => rfl

theorem Pair.phrase_of_value {v : Value} (h : v.isNull = false) (dialect : Dialect) (c : Column) (op : Operator) :
    (Pair.withValue c op v).phrase dialect = .compare op (c.phrase dialect) (.value v) := by
  cases v with
  | null => cases h
  | _ => cases op <;> rfl

theorem Pair.eval_phrase (dialect : Dialect) (S : Semantics) (row : String → Value) (c : Column) (op : Operator)
    (v : Value) :
    ((Pair.withValue c op v).phrase dialect).eval S row = (S.test op (dialect.columnsOf row c) v).toValue := by
  cases null : v.isNull with
  | false =>
    rw [Pair.phrase_of_value null, S.test_of_value _ null]
    rfl
  | true =>
    cases v with
    | null =>
      cases op with
      | equal =>
        show Value.bool ((dialect.columnsOf row c).isNull != false) = (Truth.ofBool _).toValue
        rw [Bool.bne_false, Truth.toValue_ofBool]
      | notEqual =>
        show Value.bool ((dialect.columnsOf row c).isNull != true) = (Truth.ofBool _).toValue
        rw [Bool.bne_true, Truth.toValue_ofBool]
      | _ => simp [Pair.phrase, Phrase.eval, Semantics.compare, Semantics.test, Value.isNull]
    | _ => cases null

/-- A phrase has the value of its term. -/
theorem eval_phrase (dialect : Dialect) (S : Semantics) (row : String → Value) (t : Term) :
    (t.phrase dialect).eval S row = t.eval S (dialect.columnsOf row) := by
  induction t with
  | column c => rfl
  | value v => rfl
  | not t ih => simp only [phrase, Phrase.eval, eval, ih]
  | like m c text =>
    cases m with
    | equals => rfl
    | _ => rfl
  | operation op l r ihl ihr =>
    cases logical : op.isLogical with
    | true =>
      cases op with
      | and => simp only [phrase, Phrase.eval, eval, ihl, ihr]
      | or => simp only [phrase, Phrase.eval, eval, ihl, ihr]
      | _ => cases logical
    | false =>
      rw [phrase_operation logical, eval_operation logical]
      cases found : pair? op l r with
      | none => simp only [Phrase.eval, ihl, ihr]
      | some pair =>
        cases pair with
        | withValue c op v => exact Pair.eval_phrase dialect S row c op v
        | columns a op b => rfl

end Term

/-! ## How phrases are written -/

namespace Phrase

inductive Atom : Phrase → Token → Prop
  | name (text : String) : Atom (.name text) (.name text)
  | value {v : Value} : v.isNull = false → Atom (.value v) (.value v)

inductive Link where
  | conjunction
  | disjunction
  | operator (op : Operator)

def Link.token : Link → Token
  | .conjunction => .conjunction
  | .disjunction => .disjunction
  | .operator op => .operator op

def Link.phrase : Link → Phrase → Phrase → Phrase
  | .conjunction => .and
  | .disjunction => .or
  | .operator op => .compare op

inductive Place where
  | operand
  | inside

/-- The tokens that a phrase may be written as. -/
inductive Written : Place → Phrase → List Token → Prop
  | name (text : String) : Written .operand (.name text) [.name text]
  | value (v : Value) : Written .operand (.value v) [.value v]
  | pair (text : String) (op : Operator) {p : Phrase} {t : Token} : Atom p t →
      Written .operand (.compare op (.name text) p) [.name text, .operator op, t]
  | like (text : String) (pattern : Value) :
      Written .operand (.like (.name text) (.value pattern)) [.name text, .like, .value pattern]
  | nullTest (text : String) (negated : Bool) : Written .operand (.nullTest (.name text) negated)
      (.name text :: .is :: if negated then [.negation, .null] else [.null])
  | not {p : Phrase} {ts : List Token} : Written .operand p (.opening :: ts) →
      Written .operand (.not p) (.negation :: .opening :: ts)
  | group {p : Phrase} {ts : List Token} : Written .inside p ts →
      Written .operand p (.opening :: ts ++ [.closing])
  | alone {p : Phrase} {ts : List Token} : Written .operand p ts → Written .inside p ts
  | linked (k : Link) {p q : Phrase} {l r : List Token} : Written .operand p l → Written .operand q r →
      Written .inside (k.phrase p q) (l ++ k.token :: r)

end Phrase

namespace Term

open Phrase

/-- The condition of a term that has parentheses begins with one. -/
theorem Emits.opens {t : Term} {fragments : List (Fragment Value)} (h : Emits t fragments)
    (grouped : t.isGrouped = true) : ∃ rest, fragments = .opening :: rest := by
  cases h with
  | and _ _ | or _ _ | generic _ _ _ _ => exact ⟨_, rfl⟩
  | columns a b comparison => simp [isGrouped, isLogical_of_isComparison comparison, pair?] at grouped
  | compared comparison found _ => simp [isGrouped, isLogical_of_isComparison comparison, found] at grouped
  | isNull found | isNotNull found => simp [isGrouped, Operator.isLogical, found] at grouped
  | _ => cases grouped

/-- (1) The condition of a term is written as its phrase. -/
theorem written_of_emits (dialect : Dialect) {t : Term} {fragments : List (Fragment Value)} (h : Emits t fragments) :
    Written .operand (t.phrase dialect) (fragments.flatMap (Fragment.tokens dialect)) := by
  induction h with
  | column c => exact .name _
  | value v => exact .value v
  | equals c text => exact .pair _ .equal (.value rfl)
  | pattern c text different =>
    rw [phrase_pattern different]
    exact .like _ _
  | notGrouped grouped emits ih =>
    obtain ⟨rest, rfl⟩ := emits.opens grouped
    exact .not ih
  | notBare _ _ ih => simpa [Fragment.tokens, phrase] using Written.not (.group (.alone ih))
  | and _ _ ihl ihr =>
    simpa [Fragment.tokens, phrase, Link.phrase, Link.token] using Written.group (.linked .conjunction ihl ihr)
  | or _ _ ihl ihr =>
    simpa [Fragment.tokens, phrase, Link.phrase, Link.token] using Written.group (.linked .disjunction ihl ihr)
  | columns a b comparison =>
    rw [phrase_operation (isLogical_of_isComparison comparison)]
    exact .pair _ _ (.name _)
  | compared comparison found null =>
    rw [phrase_operation (isLogical_of_isComparison comparison), found]
    simp only [Pair.phrase_of_value null]
    exact .pair _ _ (.value null)
  | isNull found =>
    rw [phrase_operation rfl, found]
    exact .nullTest _ false
  | isNotNull found =>
    rw [phrase_operation rfl, found]
    exact .nullTest _ true
  | generic comparison none _ _ ihl ihr =>
    rw [phrase_operation (isLogical_of_isComparison comparison), none]
    simpa [Fragment.tokens, Link.phrase, Link.token] using Written.group (.linked (.operator _) ihl ihr)

end Term

/-! ## Chains -/

namespace Phrase

/-- Two comparisons in a row that parentheses do not tell apart, grouped one way or the
    other. -/
inductive Chain : Phrase → Prop
  | right (first second : String) (op op' : Operator) {p : Phrase} {t : Token} : Atom p t →
      Chain (.compare op (.name first) (.compare op' (.name second) p))
  | left (first second : String) (op op' : Operator) {p : Phrase} {t : Token} : Atom p t →
      Chain (.compare op' (.compare op (.name first) (.name second)) p)

def Unchained : Phrase → Prop
  | .compare op left right => ¬ Chain (.compare op left right) ∧ Unchained left ∧ Unchained right
  | .not operand => Unchained operand
  | .and left right => Unchained left ∧ Unchained right
  | .or left right => Unchained left ∧ Unchained right
  | _ => True

theorem Unchained.linked {k : Link} {p q : Phrase} (h : (k.phrase p q).Unchained) : p.Unchained ∧ q.Unchained := by
  cases k with
  | conjunction => exact h
  | disjunction => exact h
  | operator op => exact h.2

/-! ## One reading -/

theorem Link.token_injective {k k' : Link} (h : k.token = k'.token) : k = k' := by
  cases k <;> cases k' <;> first | rfl | (cases h; rfl) | cases h

def Follows : List Token → Prop
  | [] => True
  | t :: _ => t = .closing ∨ ∃ k : Link, t = k.token

theorem Atom.injective {p q : Phrase} {t : Token} (h : Atom p t) (h' : Atom q t) : p = q := by
  cases h with
  | name text => cases h' with | name => rfl
  | value => cases h' with | value => rfl

section Openings

variable {q : Phrase} {us rest b : List Token}

/-- The operands that begin with a name. -/
theorem Written.of_name {text : String} (h : Written .operand q us) (same : us ++ b = .name text :: rest) :
    (q = .name text ∧ rest = b) ∨
    (∃ op p t, Atom p t ∧ q = .compare op (.name text) p ∧ rest = .operator op :: t :: b) ∨
    (∃ pattern, q = .like (.name text) (.value pattern) ∧ rest = .like :: .value pattern :: b) ∨
    (∃ negated, q = .nullTest (.name text) negated ∧
      rest = .is :: (if negated then [.negation, .null] else [.null]) ++ b) := by
  cases h with
  | name => cases same; exact .inl ⟨rfl, rfl⟩
  | pair _ op atom => cases same; exact .inr (.inl ⟨op, _, _, atom, rfl, rfl⟩)
  | like _ pattern => cases same; exact .inr (.inr (.inl ⟨pattern, rfl, rfl⟩))
  | nullTest _ negated =>
    cases same
    exact .inr (.inr (.inr ⟨negated, rfl, rfl⟩))
  | value _ | not _ | group _ => cases same

theorem Written.of_value {v : Value} (h : Written .operand q us) (same : us ++ b = .value v :: rest) :
    q = .value v ∧ rest = b := by
  cases h with
  | value => cases same; exact ⟨rfl, rfl⟩
  | name _ | pair _ _ _ | like _ _ | nullTest _ _ | not _ | group _ => cases same

/-- No operand ends before a match or a null test. -/
theorem not_follows {t : Token} (h : t = .like ∨ t = .is) : ¬ Follows (t :: rest) := by
  rintro (rfl | ⟨k, rfl⟩)
  · rcases h with same | same <;> cases same
  · cases k <;> rcases h with same | same <;> cases same

/-- An operand that begins with an atom, behind which an operand may end, is the atom or
    compares it. -/
theorem Written.of_atom {p : Phrase} {t : Token} (h : Written .operand q us) (atom : Atom p t) (follows : Follows rest)
    (same : us ++ b = t :: rest) :
    (q = p ∧ rest = b) ∨
    (∃ text op p' t', p = .name text ∧ Atom p' t' ∧ q = .compare op (.name text) p' ∧
      rest = .operator op :: t' :: b) := by
  cases atom with
  | value _ => exact .inl (h.of_value same)
  | name text =>
    rcases h.of_name same with alone | ⟨op, p', t', atom, compared, rfl⟩ | ⟨_, _, rfl⟩ | ⟨_, _, rfl⟩
    · exact .inl alone
    · exact .inr ⟨text, op, p', t', rfl, atom, compared, rfl⟩
    · exact absurd follows (not_follows (.inl rfl))
    · exact absurd follows (not_follows (.inr rfl))

end Openings

/-- Two operands of texts that agree, with what is behind them: they are the same phrase;
    or one is a name, and the other goes on to a comparison of it. -/
inductive Agree : Phrase → List Token → List Token → Phrase → List Token → Prop
  | same (p : Phrase) (ts a : List Token) : Agree p ts a p a
  | longer (text : String) (op : Operator) {p : Phrase} {t : Token} (a : List Token) : Atom p t →
      Agree (.name text) [.name text] (.operator op :: t :: a) (.compare op (.name text) p) a
  | shorter (text : String) (op : Operator) {p : Phrase} {t : Token} (a : List Token) : Atom p t →
      Agree (.compare op (.name text) p) [.name text, .operator op, t] a (.name text) (.operator op :: t :: a)

/-- What is written as a phrase says which phrase it is: of an operand, up to a comparison
    that a name may go on to; inside parentheses, entirely. -/
def Determined (p : Phrase) (ts : List Token) : Place → Prop
  | .operand => ∀ q us a b, Written .operand q us → Follows a → Follows b → ts ++ a = us ++ b → Agree p ts a q b
  | .inside => ∀ q us a b, Written .inside q us → ts ++ .closing :: a = us ++ .closing :: b → p = q ∧ a = b

theorem follows_closing (a : List Token) : Follows (.closing :: a) := .inl rfl

theorem follows_link (k : Link) (a : List Token) : Follows (k.token :: a) := .inr ⟨k, rfl⟩

theorem Link.token_ne_closing (k : Link) : k.token ≠ .closing := by
  cases k <;> exact Token.noConfusion

section Cases

variable {p q : Phrase} {ts l r : List Token}

theorem determined_name (text : String) : Determined (.name text) [.name text] .operand := by
  intro q us a b h follows _ same
  rcases h.of_name same.symm with ⟨rfl, rfl⟩ | ⟨op, p, t, atom, rfl, rfl⟩ | ⟨_, _, rfl⟩ | ⟨_, _, rfl⟩
  · exact .same _ _ _
  · exact .longer text op b atom
  · exact absurd follows (not_follows (.inl rfl))
  · exact absurd follows (not_follows (.inr rfl))

theorem determined_value (v : Value) : Determined (.value v) [.value v] .operand := by
  intro q us a b h _ _ same
  obtain ⟨rfl, rfl⟩ := h.of_value same.symm
  exact .same _ _ _

theorem determined_pair (text : String) (op : Operator) {t : Token} (atom : Atom p t) :
    Determined (.compare op (.name text) p) [.name text, .operator op, t] .operand := by
  intro q us a b h _ _ same
  rcases h.of_name same.symm with ⟨rfl, rfl⟩ | ⟨op', p', t', atom', rfl, rest⟩ | ⟨_, _, rest⟩ | ⟨_, _, rest⟩
  · exact .shorter text op a atom
  · cases rest
    obtain rfl := atom.injective atom'
    exact .same _ _ _
  · cases rest
  · cases rest

theorem determined_like (text : String) (pattern : Value) :
    Determined (.like (.name text) (.value pattern)) [.name text, .like, .value pattern] .operand := by
  intro q us a b h _ follows same
  rcases h.of_name same.symm with ⟨_, rfl⟩ | ⟨_, _, _, _, _, rest⟩ | ⟨_, rfl, rest⟩ | ⟨_, _, rest⟩
  · exact absurd follows (not_follows (.inl rfl))
  · cases rest
  · cases rest
    exact .same _ _ _
  · cases rest

theorem determined_nullTest (text : String) (negated : Bool) : Determined (.nullTest (.name text) negated)
    (.name text :: .is :: if negated then [.negation, .null] else [.null]) .operand := by
  intro q us a b h _ follows same
  rcases h.of_name same.symm with ⟨_, rfl⟩ | ⟨_, _, _, _, _, rest⟩ | ⟨_, _, rest⟩ | ⟨negated', rfl, rest⟩
  · exact absurd follows (not_follows (.inr rfl))
  · cases rest
  · cases rest
  · cases negated <;> cases negated' <;> cases rest <;> exact .same _ _ _

theorem determined_not (ih : Determined p (.opening :: ts) .operand) :
    Determined (.not p) (.negation :: .opening :: ts) .operand := by
  intro q us a b h before after same
  cases h with
  | @not q us inner =>
    cases ih q _ a b inner before after (List.cons.inj same).2 with
    | same => exact .same _ _ _
  | name _ | value _ | pair _ _ _ | like _ _ | nullTest _ _ | group _ => cases same

theorem determined_group (ih : Determined p ts .inside) :
    Determined p (Token.opening :: ts ++ [Token.closing]) .operand := by
  intro q us a b h _ _ same
  cases h with
  | @group _ us inner =>
    obtain ⟨rfl, rfl⟩ := ih q us a b inner (by simpa using same)
    exact .same _ _ _
  | name _ | value _ | pair _ _ _ | like _ _ | nullTest _ _ | not _ => cases same

/-- The second of two operands between parentheses, if the first is an atom's name. -/
theorem linked_of_longer {k : Link} {text : String} {op : Operator} {x : Phrase} {t : Token} {a b : List Token}
    (atom : Atom x t) (h : Written .operand q r)
    (same : k.token :: r ++ .closing :: a = .operator op :: t :: .closing :: b) :
    k.phrase (.name text) q = .compare op (.name text) x ∧ a = b := by
  obtain ⟨token, rest⟩ := List.cons.inj same
  obtain rfl : k = .operator op := Link.token_injective token
  rcases h.of_atom atom (follows_closing b) rest with ⟨rfl, closed⟩ | ⟨_, _, _, _, _, _, _, closed⟩
  · cases closed
    exact ⟨rfl, rfl⟩
  · cases closed

theorem determined_alone (ih : Determined p ts .operand) : Determined p ts .inside := by
  intro q us a b h same
  cases h with
  | alone inner =>
    cases ih q us _ _ inner (follows_closing a) (follows_closing b) same with
    | same => exact ⟨rfl, rfl⟩
  | @linked k p' q' l r left right =>
    rw [List.append_assoc] at same
    generalize behind : k.token :: r ++ .closing :: b = rest at same
    have after : Follows rest := behind ▸ follows_link k _
    cases ih p' l _ _ left (follows_closing a) after same with
    | same => exact absurd (List.cons.inj behind).1 k.token_ne_closing
    | shorter text op _ atom =>
      obtain ⟨same, rfl⟩ := linked_of_longer atom right behind
      exact ⟨same.symm, rfl⟩

/-- Two operands that begin as a comparison does, the first of them a name, are a chain. -/
theorem chain_of_longer {k k' : Link} {text : String} {op : Operator} {x : Phrase} {t : Token} {a rest : List Token}
    (atom : Atom x t) (h : Written .operand q r)
    (same : k.token :: r ++ .closing :: a = .operator op :: t :: k'.token :: rest) :
    Chain (k.phrase (.name text) q) := by
  obtain ⟨token, behind⟩ := List.cons.inj same
  obtain rfl : k = .operator op := Link.token_injective token
  rcases h.of_atom atom (follows_link k' rest) behind with ⟨_, closed⟩ | ⟨second, op', _, _, _, last, rfl, _⟩
  · exact absurd (List.cons.inj closed).1 k'.token_ne_closing
  · exact .right text second op op' last

/-- Two operands of which the first is a comparison, if the second operand of the other
    reading begins within the first. -/
theorem chain_of_shorter {k k' : Link} {text : String} {op : Operator} {x q' : Phrase} {t : Token}
    {r' a b : List Token} (atom : Atom x t) (h : Written .operand q r) (h' : Written .operand q' r')
    (same : k'.token :: r' ++ .closing :: b = .operator op :: t :: k.token :: (r ++ .closing :: a)) :
    Chain (k.phrase (.compare op (.name text) x) q) := by
  obtain ⟨_, behind⟩ := List.cons.inj same
  rcases h'.of_atom atom (follows_link k _) behind with ⟨_, closed⟩ | ⟨second, op', y, t', rfl, last, rfl, more⟩
  · exact absurd (List.cons.inj closed).1 k.token_ne_closing
  · obtain ⟨token, final⟩ := List.cons.inj more
    obtain rfl : k = .operator op' := Link.token_injective token
    rcases h.of_atom last (follows_closing b) final with ⟨rfl, _⟩ | ⟨_, _, _, _, _, _, _, closed⟩
    · exact .left text second op op' last
    · cases closed

theorem determined_linked (k : Link) (unchained : ¬ Chain (k.phrase p q)) (h : Written .operand q r)
    (ihl : Determined p l .operand) (ihr : Determined q r .operand) :
    Determined (k.phrase p q) (l ++ k.token :: r) .inside := by
  intro q' us a b h' same
  rw [List.append_assoc] at same
  generalize behind : k.token :: r ++ .closing :: a = rest at same
  have before : Follows rest := behind ▸ follows_link k _
  cases h' with
  | alone inner =>
    cases ihl q' us _ _ inner before (follows_closing b) same with
    | same => exact absurd (List.cons.inj behind).1 k.token_ne_closing
    | longer text op _ atom => exact linked_of_longer atom h behind
  | @linked k' p' q' l' r' left right =>
    rw [List.append_assoc] at same
    generalize behind' : k'.token :: r' ++ .closing :: b = rest' at same
    have after : Follows rest' := behind' ▸ follows_link k' _
    cases ihl p' l' _ _ left before after same with
    | same =>
      obtain ⟨token, rests⟩ := List.cons.inj (behind.trans behind'.symm)
      obtain rfl := Link.token_injective token
      cases ihr q' r' _ _ right (follows_closing a) (follows_closing b) rests with
      | same => exact ⟨rfl, rfl⟩
    | longer text op _ atom =>
      subst behind'
      exact absurd (chain_of_longer atom h behind) unchained
    | shorter text op _ atom =>
      subst behind
      exact absurd (chain_of_shorter atom h right behind') unchained

end Cases

theorem Unchained.not_chain {p : Phrase} (h : p.Unchained) : ¬ Chain p := by
  intro chain
  cases chain with
  | right _ _ _ _ atom => exact h.1 (.right _ _ _ _ atom)
  | left _ _ _ _ atom => exact h.1 (.left _ _ _ _ atom)

theorem Written.determined {place : Place} {p : Phrase} {ts : List Token} (h : Written place p ts)
    (unchained : p.Unchained) : Determined p ts place := by
  induction h with
  | name text => exact determined_name text
  | value v => exact determined_value v
  | pair text op atom => exact determined_pair text op atom
  | like text pattern => exact determined_like text pattern
  | nullTest text negated => exact determined_nullTest text negated
  | not _ ih => exact determined_not (ih unchained)
  | group _ ih => exact determined_group (ih unchained)
  | alone _ ih => exact determined_alone (ih unchained)
  | linked k _ right ihl ihr =>
    exact determined_linked k unchained.not_chain right (ihl unchained.linked.1) (ihr unchained.linked.2)

/-- (2) What is written as a phrase without chains is written as no other phrase. -/
theorem Written.unique {p q : Phrase} {ts : List Token} (h : Written .operand p ts) (h' : Written .operand q ts)
    (unchained : p.Unchained) : p = q := by
  cases h.determined unchained q ts [] [] h' trivial trivial rfl with
  | same => rfl

end Phrase

/-! ## Terms without chains -/

namespace Term

open Phrase

def isColumn : Term → Bool
  | .column _ => true
  | _ => false

def isOperand : Term → Bool
  | .column _ => true
  | .value v => !v.isNull
  | _ => false

def comparesColumns : Term → Bool
  | .operation op (.column _) (.column _) => op.isComparison
  | _ => false

def isBare : Term → Bool
  | .operation op left right =>
    match pair? op left right with
    | some (.withValue _ _ v) => op.isComparison && !v.isNull
    | some (.columns ..) => op.isComparison
    | none => false
  | .like m _ _ => m == .equals
  | _ => false

/-- Whether a comparison of two terms could as well be a comparison of the first column
    with what follows it, or of what comes before the last operand. -/
def chains (left right : Term) : Bool :=
  (left.isColumn && right.isBare) || (left.comparesColumns && right.isOperand)

def chained : Term → Bool
  | .not operand => operand.chained
  | .operation op left right =>
    (op.isComparison && chains left right) || left.chained || right.chained
  | _ => false

inductive Shape (dialect : Dialect) : Term → Phrase → Prop
  | column (c : Column) : Shape dialect (.column c) (c.phrase dialect)
  | value (v : Value) : Shape dialect (.value v) (.value v)
  | bareColumns {t : Term} (a b : Column) (op : Operator) : t.isBare = true → t.comparesColumns = true →
      Shape dialect t (.compare op (a.phrase dialect) (b.phrase dialect))
  | bareValue {t : Term} (c : Column) (op : Operator) (v : Value) : t.isBare = true →
      Shape dialect t (.compare op (c.phrase dialect) (.value v))
  | generic {op : Operator} {l r : Term} : pair? op l r = none → Shape dialect l (l.phrase dialect) →
      Shape dialect r (r.phrase dialect) →
      Shape dialect (.operation op l r) (.compare op (l.phrase dialect) (r.phrase dialect))
  | other {t : Term} {p : Phrase} : (∀ text, p ≠ .name text) → (∀ v, p ≠ .value v) →
      (∀ op l r, p ≠ .compare op l r) → Shape dialect t p

theorem shape_of_emits (dialect : Dialect) {t : Term} {fragments : List (Fragment Value)} (h : Emits t fragments) :
    Shape dialect t (t.phrase dialect) := by
  induction h with
  | column c => exact .column c
  | value v => exact .value v
  | equals c text => exact .bareValue c .equal _ rfl
  | pattern c text different =>
    rw [phrase_pattern different]
    exact .other nofun nofun nofun
  | notGrouped _ _ _ | notBare _ _ _ | and _ _ _ _ | or _ _ _ _ => exact .other nofun nofun nofun
  | columns a b comparison =>
    rw [phrase_operation (isLogical_of_isComparison comparison)]
    exact .bareColumns a b _ comparison comparison
  | compared comparison found null =>
    rw [phrase_operation (isLogical_of_isComparison comparison), found]
    simp only [Pair.phrase_of_value null]
    exact .bareValue _ _ _ (by simp [isBare, found, comparison, null])
  | isNull found | isNotNull found =>
    rw [phrase_operation rfl, found]
    exact .other nofun nofun nofun
  | generic comparison none _ _ ihl ihr =>
    rw [phrase_operation (isLogical_of_isComparison comparison), none]
    exact .generic none ihl ihr

section Shapes

variable {dialect : Dialect} {t : Term} {p : Phrase}

theorem Shape.isColumn {text : String} (h : Shape dialect t (.name text)) : t.isColumn = true := by
  cases h with
  | column c => rfl
  | other name _ _ => exact absurd rfl (name text)

theorem Shape.isOperand {token : Token} (h : Shape dialect t p) (atom : Atom p token) : t.isOperand = true := by
  cases atom with
  | name text =>
    cases h with
    | column c => rfl
    | other name _ _ => exact absurd rfl (name text)
  | @value v there =>
    cases h with
    | value v => simp [Term.isOperand, there]
    | other _ value _ => exact absurd rfl (value v)

/-- A column and an operand are a pair. -/
theorem pair?_ne_none {op : Operator} {l r : Term} (left : l.isColumn = true) (right : r.isOperand = true) :
    pair? op l r ≠ none := by
  cases l with
  | column c =>
    cases r with
    | column c => exact nofun
    | value v => exact nofun
    | _ => cases right
  | _ => cases left

theorem Shape.isBare {text : String} {op : Operator} {token : Token}
    (h : Shape dialect t (.compare op (.name text) p)) (atom : Atom p token) : t.isBare = true := by
  generalize compared : Phrase.compare op (.name text) p = phrase at h
  cases h with
  | bareColumns _ _ _ bare _ => exact bare
  | bareValue _ _ _ bare => exact bare
  | generic none left right =>
    obtain ⟨-, name, operand⟩ := Phrase.compare.inj compared
    rw [← name] at left
    rw [← operand] at right
    exact absurd none (pair?_ne_none left.isColumn (right.isOperand atom))
  | other _ _ compare => exact absurd compared.symm (compare _ _ _)
  | column c => cases compared
  | value v => cases compared

theorem Shape.comparesColumns {first second : String} {op : Operator}
    (h : Shape dialect t (.compare op (.name first) (.name second))) : t.comparesColumns = true := by
  generalize compared : Phrase.compare op (.name first) (.name second) = phrase at h
  cases h with
  | bareColumns _ _ _ _ columns => exact columns
  | bareValue _ _ _ _ => cases compared
  | generic none left right =>
    obtain ⟨-, name, operand⟩ := Phrase.compare.inj compared
    rw [← name] at left
    rw [← operand] at right
    exact absurd none (pair?_ne_none left.isColumn (right.isOperand (.name second)))
  | other _ _ compare => exact absurd compared.symm (compare _ _ _)
  | column c => cases compared
  | value v => cases compared

/-- Only terms that chain have phrases that are a chain. -/
theorem not_chain_of_shapes {op : Operator} {l r : Term} (left : Shape dialect l (l.phrase dialect))
    (right : Shape dialect r (r.phrase dialect)) (h : chains l r = false) :
    ¬ Chain (.compare op (l.phrase dialect) (r.phrase dialect)) := by
  intro chain
  simp only [chains, Bool.or_eq_false_iff, Bool.and_eq_false_iff] at h
  generalize l.phrase dialect = p at left chain
  generalize r.phrase dialect = q at right chain
  cases chain with
  | right _ _ _ _ atom =>
    have column := left.isColumn
    have bare := right.isBare atom
    simp_all
  | left _ _ _ _ atom =>
    have columns := left.comparesColumns
    have operand := right.isOperand atom
    simp_all

end Shapes

/-- The phrase of a term without chains has none. -/
theorem unchained_phrase (dialect : Dialect) {t : Term} {fragments : List (Fragment Value)} (h : Emits t fragments)
    (unchained : t.chained = false) : (t.phrase dialect).Unchained := by
  induction h with
  | column c => trivial
  | value v => trivial
  | equals c text => exact ⟨nofun, trivial, trivial⟩
  | pattern c text different =>
    rw [phrase_pattern different]
    trivial
  | notGrouped _ _ ih => exact ih unchained
  | notBare _ _ ih => exact ih unchained
  | and _ _ ihl ihr | or _ _ ihl ihr =>
    simp only [chained, Bool.or_eq_false_iff] at unchained
    exact ⟨ihl unchained.1.2, ihr unchained.2⟩
  | columns a b comparison =>
    rw [phrase_operation (isLogical_of_isComparison comparison)]
    exact ⟨nofun, trivial, trivial⟩
  | compared comparison found null =>
    rw [phrase_operation (isLogical_of_isComparison comparison), found]
    simp only [Pair.phrase_of_value null]
    exact ⟨nofun, trivial, trivial⟩
  | isNull found | isNotNull found =>
    rw [phrase_operation rfl, found]
    trivial
  | generic comparison none left right ihl ihr =>
    rw [phrase_operation (isLogical_of_isComparison comparison), none]
    simp only [chained, comparison, Bool.true_and, Bool.or_eq_false_iff] at unchained
    obtain ⟨⟨apart, hl⟩, hr⟩ := unchained
    exact ⟨not_chain_of_shapes (shape_of_emits dialect left) (shape_of_emits dialect right) apart, ihl hl, ihr hr⟩

end Term

end Querycraft
