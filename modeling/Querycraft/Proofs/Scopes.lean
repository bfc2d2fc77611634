/-
  Querycraft.Proofs.Scopes — parentheses, and what a negation covers.

  A condition is a list of texts, one for each fragment. It is `Balanced` if no closing
  parenthesis comes before its opening one and none is left open. A negation has to be
  followed by a group, and the group has to hold what is negated and nothing else
  (`Covers`): the emitter writes the group itself, or leaves that to the operand where the
  operand is known to write one. What it knows is `isGrouped`, a test of the operand's
  shape, so the test has to agree with what is written for every shape there is.

  Proved, for every term that has a condition, normal or not:
  (1) only the fragments for parentheses and negations show as such, whatever the names of
      tables, columns and parameters are (`neutral_text`);
  (2) a term that is said to be grouped has its parentheses outermost, and they belong to
      each other (`Emitted.group`);
  (3) so every condition is balanced, and its negations are followed, in their order, by
      groups of exactly what they negate (`negation_covers_its_operand`).
-/

import Mathlib.Data.List.Forall2
import Querycraft.Proofs.Grouping
import Querycraft.Proofs.NormalForm

namespace Querycraft

/-! ## Texts in parentheses -/

/-- As many parentheses close as open, and none closes before it opened. -/
structure Balanced (texts : List String) : Prop where
  closed : texts.count "(" = texts.count ")"
  above : ∀ front, front <+: texts → front.count ")" ≤ front.count "("

def behindNegations : List String → List (List String)
  | [] => []
  | text :: rest => if text = "NOT " then rest :: behindNegations rest else behindNegations rest

structure Neutral (text : String) : Prop where
  opening : text ≠ "("
  closing : text ≠ ")"
  negation : text ≠ "NOT "

namespace Balanced

variable {a b : List String}

theorem single {text : String} (opening : text ≠ "(") (closing : text ≠ ")") : Balanced [text] := by
  have absent {front : List String} (inFront : front <+: [text]) {mark : String} (other : text ≠ mark) :
      front.count mark = 0 := by
    refine List.count_eq_zero.mpr fun member => other ?_
    exact (List.mem_singleton.mp (inFront.subset member)).symm
  refine ⟨?_, ?_⟩
  · rw [absent (List.prefix_refl _) opening, absent (List.prefix_refl _) closing]
  · intro front inFront
    rw [absent inFront closing]
    exact Nat.zero_le _

theorem append (ha : Balanced a) (hb : Balanced b) : Balanced (a ++ b) := by
  refine ⟨?_, ?_⟩
  · rw [List.count_append, List.count_append, ha.closed, hb.closed]
  · intro front inFront
    rcases List.prefix_or_prefix_of_prefix inFront (List.prefix_append a b) with inFirst | ⟨more, rfl⟩
    · exact ha.above front inFirst
    · have inSecond := hb.above more ((List.prefix_append_right_inj a).mp inFront)
      rw [List.count_append, List.count_append, ha.closed]
      omega

theorem grouped (h : Balanced a) : Balanced ("(" :: a ++ [")"]) := by
  refine ⟨by simp [List.count_append, h.closed], ?_⟩
  intro front inFront
  rcases List.prefix_concat_iff.mp inFront with rfl | inside
  · simp [List.count_append, h.closed]
  · rcases List.prefix_cons_iff.mp inside with rfl | ⟨rest, rfl, inRest⟩
    · exact Nat.le_refl _
    · have := h.above rest inRest
      simp
      omega

end Balanced

theorem behindNegations_append (a b : List String) :
    behindNegations (a ++ b) = (behindNegations a).map (· ++ b) ++ behindNegations b := by
  induction a with
  | nil => rfl
  | cons text rest ih =>
    by_cases negation : text = "NOT "
    · simp [behindNegations, negation, ih]
    · simp [behindNegations, negation, ih]

theorem behindNegations_neutral {text : String} (h : Neutral text) : behindNegations [text] = [] := by
  simp [behindNegations, h.negation]

/-! ## What the condition of a term adds -/

namespace Draft

def conditionTexts (d : Draft) : List String := d.conditions.map fun fragment => (fragment.sql d.dialect).toText

def textsOf (d : Draft) (t : Term) : List String :=
  ((emit t.emit).run d).2.conditionTexts.drop d.conditions.length

def shown (d : Draft) (issued : Nat) (fragments : List (Fragment Value)) : List String :=
  (Fragment.numberedAll d.issued (issued + 1) fragments).map fun fragment => (fragment.sql d.dialect).toText

theorem after_emit (d : Draft) (emission : Emission) :
    ((emit emission).run d).2 = d.pushAll emission.fragments := by
  unfold emit
  rw [Drafting.run_bind]
  cases emission.failure <;> rfl

theorem conditionTexts_emit (d : Draft) (t : Term) :
    ((emit t.emit).run d).2.conditionTexts = d.conditionTexts ++ d.shown d.counter t.emit.fragments := by
  rw [after_emit, pushAll_eq]
  exact List.map_append

theorem textsOf_eq (d : Draft) (t : Term) : d.textsOf t = d.shown d.counter t.emit.fragments := by
  have length : d.conditionTexts.length = d.conditions.length := List.length_map _
  rw [textsOf, conditionTexts_emit, ← length, List.drop_left]

theorem shown_cons (d : Draft) (issued : Nat) (fragment : Fragment Value) (rest : List (Fragment Value)) :
    d.shown issued (fragment :: rest) =
      ((fragment.numbered d.issued (issued + 1)).sql d.dialect).toText ::
        d.shown (issued + fragment.operands.length) rest := by
  unfold shown
  rw [Fragment.numberedAll, List.map_cons, Nat.add_right_comm]

theorem shown_append (d : Draft) (issued : Nat) (first second : List (Fragment Value)) :
    d.shown issued (first ++ second) =
      d.shown issued first ++ d.shown (issued + (first.flatMap Fragment.operands).length) second := by
  unfold shown
  rw [Fragment.numberedAll_append, List.map_append, Nat.add_right_comm]

theorem shown_grouped (d : Draft) (issued : Nat) (inside : List (Fragment Value)) :
    d.shown issued (Fragment.opening :: inside ++ [Fragment.closing]) =
      "(" :: d.shown issued inside ++ [")"] := by
  have opens : d.shown issued (Fragment.opening :: inside) = "(" :: d.shown issued inside := by
    show (Sql.text "(").toText :: d.shown issued inside = _
    rw [Sql.toText_text]
  have closes (k : Nat) : d.shown k [Fragment.closing] = [")"] := by
    show [(Sql.text ")").toText] = _
    rw [Sql.toText_text]
  rw [shown_append, opens, closes]

theorem shown_negation (d : Draft) (issued : Nat) (rest : List (Fragment Value)) :
    d.shown issued (Fragment.negation :: rest) = "NOT " :: d.shown issued rest := by
  show (Sql.text "NOT ").toText :: d.shown issued rest = _
  rw [Sql.toText_text]

/-- The text begins with a group, and between its parentheses stands the condition of the
    operand; or the group is the operand's own. -/
def Covers (d : Draft) (text : List String) (operand : Term) : Prop :=
  ∃ inside rest issued, text = "(" :: inside ++ ")" :: rest ∧ Balanced inside ∧
    (({ d with counter := issued } : Draft).textsOf operand = inside ∨
      ({ d with counter := issued } : Draft).textsOf operand = "(" :: inside ++ [")"])

theorem Covers.append {d : Draft} {text : List String} {operand : Term} (h : d.Covers text operand)
    (more : List String) : d.Covers (text ++ more) operand := by
  obtain ⟨inside, rest, issued, rfl, balanced, own⟩ := h
  exact ⟨inside, rest ++ more, issued, by simp, balanced, own⟩

/-! ## (1) Fragments that are no parentheses and no negations -/

theorem neutral_of_mem {c : Char} {text : String} (h : c ∈ text.toList)
    (other : c ∉ "(".toList ∧ c ∉ ")".toList ∧ c ∉ "NOT ".toList) : Neutral text :=
  ⟨fun same => other.1 (same ▸ h), fun same => other.2.1 (same ▸ h), fun same => other.2.2 (same ▸ h)⟩

/-- A column has a dot between its table and its name. -/
theorem dot_mem_column (dialect : Dialect) (c : Column) : '.' ∈ (Fragment.columnText dialect c).toText.toList := by
  simp [Fragment.columnText, Dialect.field]

theorem neutral_of_dot {text : String} (h : '.' ∈ text.toList) : Neutral text := neutral_of_mem h (by decide)

theorem neutral_placeholder (d : Draft) (i : Nat) : Neutral (Sql.slot (d.issued i)).toText := by
  have text : (Sql.slot (d.issued i)).toText = d.dialect.parameter (d.parameterName i) (i - d.base) := by
    simp [Sql.toText, Sql.slot, Piece.toText, issued, Dialect.placeholder]
  rw [text]
  cases d.dialect with
  | postgres => exact neutral_of_mem (c := '$') (by simp [Dialect.parameter]) (by decide)
  | _ => exact neutral_of_mem (c := '@') (by simp [Dialect.parameter]) (by decide)

theorem neutral_literal {words : String} (h : words ≠ "(" ∧ words ≠ ")" ∧ words ≠ "NOT ") :
    Neutral (Sql.text words).toText := by
  rw [Sql.toText_text]
  exact ⟨h.1, h.2.1, h.2.2⟩

end Draft

def Fragment.isMark : Fragment α → Bool
  | .opening => true
  | .closing => true
  | .negation => true
  | _ => false

namespace Draft

theorem neutral_text (d : Draft) (i : Nat) {fragment : Fragment Value} (plain : fragment.isPlain = true)
    (other : fragment.isMark = false) : Neutral ((fragment.numbered d.issued i).sql d.dialect).toText := by
  cases fragment with
  | opening | closing | negation => cases other
  | inQuery c negated query => cases plain
  | verbatim sql => cases plain
  | conjunction => exact neutral_literal (by decide)
  | disjunction => exact neutral_literal (by decide)
  | operator op => exact neutral_literal (by cases op <;> decide)
  | column c => exact neutral_of_dot (dot_mem_column d.dialect c)
  | operand v => exact neutral_placeholder d i
  | compare c op v =>
    show Neutral (Fragment.columnText d.dialect c ++ Sql.text (" " ++ op.symbol ++ " ") ++ Sql.slot (d.issued i)).toText
    exact neutral_of_dot (by simp [dot_mem_column])
  | compareColumns a op b =>
    show Neutral (Fragment.columnText d.dialect a ++ Sql.text (" " ++ op.symbol ++ " ")
      ++ Fragment.columnText d.dialect b).toText
    exact neutral_of_dot (by simp [dot_mem_column])
  | like c pattern =>
    show Neutral (Fragment.columnText d.dialect c ++ Sql.text " LIKE " ++ Sql.slot (d.issued i)).toText
    exact neutral_of_dot (by simp [dot_mem_column])
  | nullTest c negated =>
    have begins : ∃ rest, ((Fragment.nullTest c negated : Fragment Value).numbered d.issued i).sql d.dialect =
        Fragment.columnText d.dialect c ++ rest := by
      cases negated <;> exact ⟨_, rfl⟩
    obtain ⟨rest, same⟩ := begins
    exact neutral_of_dot (by simp [same, dot_mem_column])
  | inList c negated values =>
    rw [Fragment.numbered_inList]
    cases values with
    | nil => cases negated <;> exact neutral_literal (by decide)
    | cons v rest => exact neutral_of_dot (by simp [List.range'_succ, Fragment.sql, dot_mem_column])
  | between c negated low high =>
    have begins : ∃ rest, ((Fragment.between c negated low high).numbered d.issued i).sql d.dialect =
        Sql.text "(" ++ Fragment.columnText d.dialect c ++ rest := by
      cases negated <;> exact ⟨_, rfl⟩
    obtain ⟨rest, same⟩ := begins
    exact neutral_of_dot (by simp [same, dot_mem_column])

end Draft

/-! ## (2) Terms that write their own group -/

namespace Term

def negatedOperands (t : Term) : List Term := t.parts.filterMap negated?

theorem negatedOperands_not (t : Term) : (Term.not t).negatedOperands = t :: t.negatedOperands := rfl

theorem negatedOperands_operation (op : Operator) (l r : Term) :
    (Term.operation op l r).negatedOperands = l.negatedOperands ++ r.negatedOperands := by
  unfold negatedOperands
  rw [parts, List.filterMap_cons_none rfl, List.filterMap_append]

theorem negatedOperands_of_pair {op : Operator} {l r : Term} {pair : Pair} (found : pair? op l r = some pair) :
    (Term.operation op l r).negatedOperands = [] := by
  rcases pair?_cases found with ⟨_, _, rfl, rfl, -⟩ | ⟨_, _, rfl, rfl, -⟩ | ⟨_, _, rfl, rfl, -⟩ <;> rfl

/-- The rules give every term one condition, the one it is emitted as. -/
theorem Emits.emit_eq {t : Term} {fragments : List (Fragment Value)} (h : Emits t fragments) :
    t.emit.failure = none ∧ t.emit.fragments = fragments := by
  induction h with
  | column c => exact ⟨rfl, rfl⟩
  | value v => exact ⟨rfl, rfl⟩
  | equals c text => exact ⟨rfl, rfl⟩
  | @pattern m c text different =>
    cases m with
    | equals => exact absurd rfl different
    | _ => exact ⟨rfl, rfl⟩
  | @notGrouped t inside grouped _ ih =>
    obtain ⟨accepted, same⟩ := ih
    have emitted : (Term.not t).emit = .one .negation ++ t.emit := by rw [emit, if_pos grouped]
    rw [failure_emit_not, emitted, Emission.fragments_append rfl, same]
    exact ⟨accepted, rfl⟩
  | @notBare t inside bare _ ih =>
    obtain ⟨accepted, same⟩ := ih
    have emitted : (Term.not t).emit = .one .negation ++ .grouped t.emit := by rw [emit, if_neg (by simp [bare])]
    rw [failure_emit_not, emitted, Emission.fragments_append rfl, Emission.fragments_grouped accepted, same]
    exact ⟨accepted, rfl⟩
  | and _ _ ihl ihr =>
    rw [emit, Emission.failure_between, Emission.fragments_between ihl.1 ihr.1, ihl.2, ihr.2]
    exact ⟨⟨ihl.1, ihr.1⟩, rfl⟩
  | or _ _ ihl ihr =>
    rw [emit, Emission.failure_between, Emission.fragments_between ihl.1 ihr.1, ihl.2, ihr.2]
    exact ⟨⟨ihl.1, ihr.1⟩, rfl⟩
  | columns a b comparison =>
    rw [emit_comparison comparison]
    exact ⟨rfl, rfl⟩
  | compared comparison found null =>
    rw [emit_comparison comparison, found]
    simp only [emitPair_value null]
    exact ⟨rfl, rfl⟩
  | isNull found =>
    rw [emit_comparison rfl, found]
    exact ⟨rfl, rfl⟩
  | isNotNull found =>
    rw [emit_comparison rfl, found]
    exact ⟨rfl, rfl⟩
  | generic comparison none _ _ ihl ihr =>
    rw [emit_comparison comparison, none]
    simp only
    rw [Emission.failure_between, Emission.fragments_between ihl.1 ihr.1, ihl.2, ihr.2]
    exact ⟨⟨ihl.1, ihr.1⟩, rfl⟩

end Term

namespace Draft

theorem textsOf_of_emits {t : Term} {fragments : List (Fragment Value)} (h : t.Emits fragments) (d : Draft)
    (issued : Nat) : ({ d with counter := issued } : Draft).textsOf t = d.shown issued fragments := by
  rw [textsOf_eq, h.emit_eq.2]
  rfl

/-- A condition with its negations covered, each of them by a group of one of these operands. -/
structure Scoped (d : Draft) (texts : List String) (operands : List Term) : Prop where
  balanced : Balanced texts
  covered : List.Forall₂ d.Covers (behindNegations texts) operands

namespace Scoped

variable {d : Draft} {a b : List String} {xs ys : List Term}

theorem neutral {text : String} (h : Neutral text) : d.Scoped [text] [] := by
  refine ⟨.single h.opening h.closing, ?_⟩
  rw [behindNegations_neutral h]
  exact .nil

theorem append (ha : d.Scoped a xs) (hb : d.Scoped b ys) : d.Scoped (a ++ b) (xs ++ ys) := by
  refine ⟨ha.balanced.append hb.balanced, ?_⟩
  rw [behindNegations_append]
  refine List.rel_append ?_ hb.covered
  rw [List.forall₂_map_left_iff]
  exact ha.covered.imp fun text operand covers => covers.append b

theorem between {link : String} (ha : d.Scoped a xs) (h : Neutral link) (hb : d.Scoped b ys) :
    d.Scoped (a ++ link :: b) (xs ++ ys) := ha.append ((neutral h).append hb)

theorem grouped (h : d.Scoped a xs) : d.Scoped ("(" :: a ++ [")"]) xs := by
  refine ⟨h.balanced.grouped, ?_⟩
  have behind : behindNegations ("(" :: a ++ [")"]) = (behindNegations a).map (· ++ [")"]) := by
    rw [List.cons_append, behindNegations, if_neg (by decide), behindNegations_append]
    simp [behindNegations]
  rw [behind, List.forall₂_map_left_iff]
  exact h.covered.imp fun text operand covers => covers.append _

theorem not {operand : Term} (group : d.Scoped ("(" :: a ++ [")"]) xs) (inside : Balanced a) (issued : Nat)
    (own : ({ d with counter := issued } : Draft).textsOf operand = a ∨
      ({ d with counter := issued } : Draft).textsOf operand = "(" :: a ++ [")"]) :
    d.Scoped ("NOT " :: "(" :: a ++ [")"]) (operand :: xs) := by
  have negation : Balanced ["NOT "] := .single (by decide) (by decide)
  refine ⟨negation.append group.balanced, ?_⟩
  rw [List.cons_append, behindNegations, if_pos rfl]
  exact .cons ⟨a, [], issued, rfl, inside, own⟩ group.covered

end Scoped

structure Emitted (d : Draft) (t : Term) (fragments : List (Fragment Value)) : Prop where
  scopes : ∀ issued, d.Scoped (d.shown issued fragments) t.negatedOperands
  /-- A grouped term has its parentheses outermost, and they belong to each other. -/
  group : t.isGrouped = true → ∃ inside, fragments = Fragment.opening :: inside ++ [Fragment.closing] ∧
    ∀ issued, Balanced (d.shown issued inside)

section Rules

variable {d : Draft} {t l r : Term} {fragment link : Fragment Value} {left right : List (Fragment Value)}

theorem emitted_one (plain : fragment.isPlain = true) (other : fragment.isMark = false)
    (operands : t.negatedOperands = []) (bare : t.isGrouped = false) : d.Emitted t [fragment] := by
  refine ⟨?_, ?_⟩
  · intro issued
    rw [operands]
    exact .neutral (neutral_text d (issued + 1) plain other)
  · intro grouped
    rw [bare] at grouped
    cases grouped

theorem scoped_between (plain : link.isPlain = true) (other : link.isMark = false) (hl : d.Emitted l left)
    (hr : d.Emitted r right) (issued : Nat) :
    d.Scoped (d.shown issued (left ++ link :: right)) (l.negatedOperands ++ r.negatedOperands) := by
  rw [shown_append, shown_cons]
  exact (hl.scopes _).between (neutral_text d _ plain other) (hr.scopes _)

theorem emitted_between (plain : link.isPlain = true) (other : link.isMark = false) (hl : d.Emitted l left)
    (hr : d.Emitted r right) (operands : t.negatedOperands = l.negatedOperands ++ r.negatedOperands) :
    d.Emitted t (Fragment.opening :: (left ++ link :: right) ++ [Fragment.closing]) := by
  have inside := scoped_between plain other hl hr
  refine ⟨?_, ?_⟩
  · intro issued
    rw [shown_grouped, operands]
    exact (inside issued).grouped
  · intro _
    exact ⟨_, rfl, fun issued => (inside issued).balanced⟩

end Rules

theorem emitted_of_emits (d : Draft) {t : Term} {fragments : List (Fragment Value)} (h : t.Emits fragments) :
    d.Emitted t fragments := by
  induction h with
  | column c => exact emitted_one rfl rfl rfl rfl
  | value v => exact emitted_one rfl rfl rfl rfl
  | equals c text => exact emitted_one rfl rfl rfl rfl
  | pattern c text _ => exact emitted_one rfl rfl rfl rfl
  | notGrouped grouped emits ih =>
    refine ⟨?_, fun grouped => by cases grouped⟩
    intro issued
    obtain ⟨inside, rfl, balanced⟩ := ih.group grouped
    have whole := ih.scopes issued
    rw [shown_negation, shown_grouped, Term.negatedOperands_not]
    rw [shown_grouped] at whole
    refine whole.not (balanced issued) issued (.inr ?_)
    rw [textsOf_of_emits emits, shown_grouped]
  | notBare bare emits ih =>
    refine ⟨?_, fun grouped => by cases grouped⟩
    intro issued
    rw [List.cons_append, shown_negation, shown_grouped, Term.negatedOperands_not]
    refine (ih.scopes issued).grouped.not (ih.scopes issued).balanced issued (.inl ?_)
    rw [textsOf_of_emits emits]
  | and _ _ ihl ihr => exact emitted_between rfl rfl ihl ihr (Term.negatedOperands_operation _ _ _)
  | or _ _ ihl ihr => exact emitted_between rfl rfl ihl ihr (Term.negatedOperands_operation _ _ _)
  | columns a b comparison =>
    refine emitted_one rfl rfl rfl ?_
    simp [Term.isGrouped, Term.isLogical_of_isComparison comparison, Term.pair?]
  | compared comparison found _ =>
    refine emitted_one rfl rfl (Term.negatedOperands_of_pair found) ?_
    simp [Term.isGrouped, Term.isLogical_of_isComparison comparison, found]
  | isNull found =>
    refine emitted_one rfl rfl (Term.negatedOperands_of_pair found) ?_
    simp [Term.isGrouped, Operator.isLogical, found]
  | isNotNull found =>
    refine emitted_one rfl rfl (Term.negatedOperands_of_pair found) ?_
    simp [Term.isGrouped, Operator.isLogical, found]
  | generic _ _ _ _ ihl ihr => exact emitted_between rfl rfl ihl ihr (Term.negatedOperands_operation _ _ _)

/-- (3) A term whose condition is accepted adds texts to the draft that are balanced, and each
    negation among them is followed by a group of exactly what it negates. -/
theorem negation_covers_its_operand {t : Term} {d d' : Draft} (accepted : (emit t.emit).run d = (.ok (), d')) :
    d'.conditionTexts = d.conditionTexts ++ d.textsOf t ∧ Balanced (d.textsOf t) ∧
      List.Forall₂ d.Covers (behindNegations (d.textsOf t)) t.negatedOperands := by
  have emits := Term.emits_of_emit t (gives_emit.mp accepted).1
  have scopes := (emitted_of_emits d emits).scopes d.counter
  rw [textsOf_eq]
  refine ⟨?_, scopes.balanced, scopes.covered⟩
  rw [← conditionTexts_emit, accepted]

/-- `NOT NOT (1 = NOT 2) AND NOT true`, as it stands: the two negations in front have a group
    each, and only the inner one is the comparison's own. -/
theorem negation_covers_its_operand_generic :
    let compared : Term := .operation .equal (.value (.int 1)) (.not (.value (.int 2)))
    let t : Term := .operation .and (.not (.not compared)) (.not (.value (.bool true)))
    let texts := ["(", "NOT ", "(", "NOT ", "(", "@Param1", " = ", "NOT ", "(", "@Param2", ")", ")", ")", " AND ",
      "NOT ", "(", "@Param3", ")", ")"]
    ∃ d', (emit t.emit).run (onTable .sqlite "users") = (.ok (), d') ∧ d'.conditionTexts = texts ∧
      Balanced texts ∧ List.Forall₂ (onTable .sqlite "users").Covers (behindNegations texts)
        [.not compared, compared, .value (.int 2), .value (.bool true)] := by
  intro compared t texts
  have succeeds : ((emit t.emit).run (onTable .sqlite "users")).1.isOk = true := by decide +kernel
  obtain ⟨⟨⟩, d', ran⟩ := Drafting.gives_of_isOk succeeds
  obtain ⟨added, balanced, covered⟩ := negation_covers_its_operand ran
  have shows : (onTable .sqlite "users").textsOf t = texts := by decide +kernel
  rw [shows] at added balanced covered
  exact ⟨d', ran, added, balanced, covered⟩

end Draft

end Querycraft
