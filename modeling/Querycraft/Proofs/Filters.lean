/-
  Querycraft.Proofs.Filters — what a chain of filters means.

  Each filter is joined to the condition before it by `AND` or by `OR`, with nothing put
  in parentheses. A reader of the text takes `AND` to bind tighter, so the condition is a
  disjunction of groups: a group goes on through every `filter` and ends before the next
  `orFilter` (`grouped`). Reading the calls in their order instead, each applied to the
  whole condition so far, is the left fold (`folded`). Proved:
  (1) a chain of comparisons runs unless one of them orders `NULL` (`result_isOk_iff`);
  (2) its text means the disjunction of groups (`reading_of_filters`);
  (3) a row that the fold keeps is kept by the text (`grouped_of_folded`);
  (4) for a sequence of connectives, text and fold keep the same rows whatever the
      predicates exactly when no `filter` comes after an `orFilter`
      (`filters_fold_iff_ors_last`); otherwise the text keeps rows that the last
      `filter` was to exclude.
-/

import Querycraft.Proofs.Conditions

namespace Querycraft

inductive Expr.IsComparisons : Expr → Prop
  | and {l r : Expr} : IsComparisons l → IsComparisons r → IsComparisons (.binary .and l r)
  | or {l r : Expr} : IsComparisons l → IsComparisons r → IsComparisons (.binary .or l r)
  | not {e : Expr} : IsComparisons e → IsComparisons (.not e)
  | columns {op : Operator} {l r : Expr} {a b : Column} : op.isComparison = true →
      Term.ofExpr l = .ok (.column a) → Term.ofExpr r = .ok (.column b) → IsComparisons (.binary op l r)
  | withValue {op : Operator} {l r : Expr} {c : Column} {v : Value} : op.isComparison = true →
      Term.ofExpr l = .ok (.column c) → Term.ofExpr r = .ok (.value v) → IsComparisons (.binary op l r)
  | mirrored {op : Operator} {l r : Expr} {c : Column} {v : Value} : op.isComparison = true →
      Term.ofExpr l = .ok (.value v) → Term.ofExpr r = .ok (.column c) → IsComparisons (.binary op l r)

theorem Expr.IsComparisons.isPredicate {e : Expr} (h : e.IsComparisons) : e.IsPredicate := by
  induction h with
  | and _ _ ihl ihr => exact .and ihl ihr
  | or _ _ ihl ihr => exact .or ihl ihr
  | not _ ih => exact .not ih
  | columns comparison left right => exact .columns comparison left right
  | withValue comparison left right => exact .withValue comparison left right
  | mirrored comparison left right => exact .mirrored comparison left right

/-! ## Refused comparisons -/

def Expr.isNullConstant (e : Expr) : Bool :=
  match Term.ofExpr e with
  | .ok (.value .null) => true
  | _ => false

def Expr.ordersNull : Expr → Bool
  | .not operand => operand.ordersNull
  | .binary op left right =>
    match op with
    | .and | .or => left.ordersNull || right.ordersNull
    | op => !op.isEquality && (left.isNullConstant || right.isNullConstant)
  | _ => false

namespace Term

theorem failure_negate (t : Term) : t.negate.emit.failure = none ↔ t.emit.failure = none := by
  unfold negate
  split
  · rw [failure_emit_not]
  · exact Iff.rfl
  · rw [failure_emit_not]

theorem failure_withValue (c : Column) (op : Operator) (v : Value) :
    (emitPair (.withValue c op v)).failure = none ↔ (!op.isEquality && v.isNull) = false := by
  cases null : v.isNull with
  | false => simp [emitPair_value null, Emission.one]
  | true =>
    cases v with
    | null => cases op <;> simp [emitPair, Emission.one, Emission.failed, Operator.isEquality]
    | _ => cases null

end Term

namespace Expr

theorem isNullConstant_of_column {e : Expr} {c : Column} (h : Term.ofExpr e = .ok (.column c)) :
    e.isNullConstant = false := by
  simp [isNullConstant, h]

theorem isNullConstant_of_value {e : Expr} {v : Value} (h : Term.ofExpr e = .ok (.value v)) :
    e.isNullConstant = v.isNull := by
  cases v <;> simp [isNullConstant, h, Value.isNull]

theorem ordersNull_comparison {op : Operator} (h : op.isComparison = true) (l r : Expr) :
    (Expr.binary op l r).ordersNull = (!op.isEquality && (l.isNullConstant || r.isNullConstant)) := by
  cases op <;> first | rfl | cases h

/-- A comparison has a term, whose pair decides whether it is emitted. -/
theorem resolve_comparison {op : Operator} {l r : Expr} {l' r' : Term} {pair : Term.Pair}
    (comparison : op.isComparison = true) (left : Term.ofExpr l = .ok l') (right : Term.ofExpr r = .ok r')
    (found : Term.pair? op l' r' = some pair) :
    ∃ t, Term.resolve (.binary op l r) = .ok t ∧ t.emit = Term.emitPair pair := by
  have arithmetic : op.isArithmetic = false := by
    cases op <;> first | rfl | cases comparison
  refine ⟨.operation op l' r', ?_, ?_⟩
  · rw [Term.resolve, Term.ofExpr_binary, arithmetic, left, right]
    exact congrArg Except.ok (Term.normalize_comparison found)
  · rw [Term.emit_comparison comparison, found]

/-- A connective of two predicates joins their terms. -/
theorem resolve_connective {op : Operator} {l r : Expr} {l' r' : Term} (logical : op.isLogical = true)
    (left : Term.resolve l = .ok l') (right : Term.resolve r = .ok r') :
    Term.resolve (.binary op l r) = .ok (.operation op l' r') := by
  obtain ⟨lowered, ofLeft, rfl⟩ := Term.resolve_eq_ok left
  obtain ⟨lowered', ofRight, rfl⟩ := Term.resolve_eq_ok right
  cases op with
  | and | or =>
    rw [Term.resolve, Term.ofExpr_binary, ofLeft, ofRight]
    rfl
  | _ => cases logical

/-- Of the predicates over comparisons, those that order `NULL` are refused. -/
theorem IsComparisons.failure_iff {e : Expr} (h : e.IsComparisons) :
    ∃ t, Term.resolve e = .ok t ∧ (t.emit.failure = none ↔ e.ordersNull = false) := by
  induction h with
  | and _ _ ihl ihr | or _ _ ihl ihr =>
    obtain ⟨l', left, emitsLeft⟩ := ihl
    obtain ⟨r', right, emitsRight⟩ := ihr
    refine ⟨_, resolve_connective rfl left right, ?_⟩
    rw [Term.emit, Emission.failure_between, emitsLeft, emitsRight]
    exact (Bool.or_eq_false_iff).symm
  | @not e _ ih =>
    obtain ⟨t, resolved, emits⟩ := ih
    obtain ⟨lowered, ofExpr, rfl⟩ := Term.resolve_eq_ok resolved
    refine ⟨lowered.normalize.negate, ?_, (Term.failure_negate _).trans emits⟩
    rw [Term.resolve, Term.ofExpr_not, ofExpr]
    rfl
  | columns comparison left right =>
    obtain ⟨t, resolved, emitted⟩ := resolve_comparison comparison left right rfl
    refine ⟨t, resolved, ?_⟩
    rw [emitted, ordersNull_comparison comparison, isNullConstant_of_column left, isNullConstant_of_column right]
    simp [Term.emitPair, Emission.one]
  | withValue comparison left right =>
    obtain ⟨t, resolved, emitted⟩ := resolve_comparison comparison left right rfl
    refine ⟨t, resolved, ?_⟩
    rw [emitted, ordersNull_comparison comparison, isNullConstant_of_column left, isNullConstant_of_value right]
    exact Term.failure_withValue _ _ _
  | @mirrored op _ _ _ _ comparison left right =>
    obtain ⟨t, resolved, emitted⟩ := resolve_comparison comparison left right rfl
    refine ⟨t, resolved, ?_⟩
    have converse : op.converse.isEquality = op.isEquality := by
      cases op <;> rfl
    rw [emitted, ordersNull_comparison comparison, isNullConstant_of_value left, isNullConstant_of_column right,
      Bool.or_false, ← converse]
    exact Term.failure_withValue _ _ _

open Drafting in
theorem IsComparisons.accepted_iff {e : Expr} (h : e.IsComparisons) (d : Draft) :
    (∃ d', Gives (Draft.predicate e) d () d') ↔ e.ordersNull = false := by
  obtain ⟨t, resolved, emits⟩ := h.failure_iff
  rw [← emits]
  constructor
  · rintro ⟨d', gave⟩
    obtain ⟨term, same, emitted, -⟩ := Draft.gives_predicate.mp gave
    cases resolved.symm.trans same
    exact emitted
  · intro emitted
    exact ⟨_, Draft.gives_predicate.mpr ⟨t, resolved, emitted, rfl⟩⟩

end Expr

/-! ## Chains -/

inductive Connective where
  | and
  | or
  deriving DecidableEq

namespace Connective

def step : Connective → Expr → Step
  | .and => .filter
  | .or => .orFilter

def fragment : Connective → Fragment Value
  | .and => .conjunction
  | .or => .disjunction

def apply : Connective → Truth → Truth → Truth
  | .and => .and
  | .or => .or

end Connective

namespace Filters

def program (filters : List (Connective × Expr)) : List Step := filters.map fun (c, e) => c.step e

/-- Each filter applied to the whole condition before it. -/
def folded : Truth → List (Connective × Truth) → Truth
  | t, [] => t
  | t, (c, u) :: rest => folded (c.apply t u) rest

/-- The disjunction of the groups that `OR` divides the chain into. -/
def grouped : Truth → List (Connective × Truth) → Truth
  | t, [] => t
  | t, (.and, u) :: rest => grouped (t.and u) rest
  | t, (.or, u) :: rest => t.or (grouped u rest)

def truths (S : Semantics) (row : Column → Value) (filters : List (Connective × Expr)) :
    List (Connective × Truth) :=
  filters.map fun (c, e) => (c, e.truth S row)

/-- No `filter` after an `orFilter`. -/
def OrsLast (connectives : List Connective) : Prop :=
  connectives.Pairwise fun earlier later => earlier = .or → later = .or

/-! ## Groups and folds -/

/-- What holds of a group that began with a disjunction holds of one of its sides. -/
theorem grouped_or {t u : Truth} {links : List (Connective × Truth)} (h : grouped (t.or u) links = .yes) :
    t = .yes ∨ grouped u links = .yes := by
  induction links generalizing t u with
  | nil => exact Truth.or_eq_yes.mp h
  | cons link rest ih =>
    obtain ⟨c, v⟩ := link
    cases c with
    | and =>
      rw [grouped, Truth.or_and] at h
      rcases ih h with left | right
      · exact .inl (Truth.left_of_and left)
      · exact .inr right
    | or =>
      rw [grouped, Truth.or_assoc] at h
      exact Truth.or_eq_yes.mp h

/-- (3) What the fold keeps the groups keep. -/
theorem grouped_of_folded {t : Truth} {links : List (Connective × Truth)} (h : folded t links = .yes) :
    grouped t links = .yes := by
  induction links generalizing t with
  | nil => exact h
  | cons link rest ih =>
    obtain ⟨c, u⟩ := link
    cases c with
    | and => exact ih h
    | or => exact Truth.or_eq_yes.mpr (grouped_or (ih h))

theorem grouped_or_of_ors {links : List (Connective × Truth)} (ors : ∀ c ∈ links.map Prod.fst, c = .or)
    (t u : Truth) : grouped (t.or u) links = t.or (grouped u links) := by
  cases links with
  | nil => rfl
  | cons link rest =>
    obtain ⟨c, v⟩ := link
    obtain rfl : c = .or := ors c (by simp)
    exact Truth.or_assoc t u _

theorem grouped_eq_folded {links : List (Connective × Truth)} (h : OrsLast (links.map Prod.fst)) (t : Truth) :
    grouped t links = folded t links := by
  induction links generalizing t with
  | nil => rfl
  | cons link rest ih =>
    obtain ⟨c, u⟩ := link
    obtain ⟨later, tail⟩ := List.pairwise_cons.mp h
    cases c with
    | and => exact ih tail _
    | or =>
      rw [grouped, folded, ← ih tail]
      exact (grouped_or_of_ors (fun d member => later d member rfl) t u).symm

/-! ## Chains as they are read -/

open Drafting Draft Reader

/-- A condition that was written on a fresh draft, and what its text reads as: the sides
    before the last `OR`, and the group since. -/
def Chained (dialect : Dialect) (begun d : Draft) (disjuncts : Option Phrase) (group : Phrase) : Prop :=
  ∃ fragments level, d = begun.pushAll fragments ∧ fragments ≠ [] ∧
    Fragment.Shows Lexer.Lexes dialect fragments ∧
    run? State.start (fragments.flatMap (Fragment.tokens dialect)) = some ⟨level, []⟩ ∧
    level.Holds disjuncts group

variable {dialect : Dialect} {entity : Entity} {begun d d' : Draft}

theorem pushAll_append (d : Draft) (a b : List (Fragment Value)) :
    d.pushAll (a ++ b) = (d.pushAll a).pushAll b := List.foldl_append

theorem hasConditions_pushAll {fragments : List (Fragment Value)} (some : fragments ≠ []) (d : Draft) :
    (d.pushAll fragments).hasConditions = true := by
  cases fragments with
  | nil => exact absurd rfl some
  | cons fragment rest => simp [pushAll_eq, hasConditions, Fragment.numberedAll]

/-- A call joins its predicate to what is there, and fails only with it. -/
theorem gives_step {c : Connective} {e : Expr} :
    Gives ((c.step e).run entity) d () d' ↔ Gives (Draft.predicate e) (d.joinedBy c.fragment) () d' := by
  cases c with
  | and => exact gives_modify_then
  | or => exact gives_modify_then

/-- The first filter stands alone. -/
theorem chained_first (fresh : begun.Fresh) {c : Connective} {e : Expr} (predicate : e.IsPredicate)
    (h : Gives ((c.step e).run entity) begun () d) :
    ∃ p, Chained dialect begun d none p ∧ ∀ S row, p.truth S row = e.truth S (dialect.columnsOf row) := by
  have none : begun.hasConditions = false := by
    simp [hasConditions, fresh.conditions]
  have accepted := gives_step.mp h
  rw [joinedBy, none] at accepted
  obtain ⟨fragments, p, rfl, some, legible, reads, means⟩ := reads_of_predicate dialect predicate accepted
  obtain ⟨level, ran, held⟩ := reads.alone []
  exact ⟨p, ⟨fragments, level, rfl, some, legible, ran, held⟩, means⟩

/-- A later filter goes on with the group, or ends it and begins one. -/
theorem chained_next {disjuncts : Option Phrase} {group : Phrase} (chain : Chained dialect begun d disjuncts group)
    {c : Connective} {e : Expr} (predicate : e.IsPredicate) (h : Gives ((c.step e).run entity) d () d') :
    ∃ p, (match c with
      | .and => Chained dialect begun d' disjuncts (.and group p)
      | .or => Chained dialect begun d' (some (either disjuncts group)) p) ∧
      ∀ S row, p.truth S row = e.truth S (dialect.columnsOf row) := by
  obtain ⟨fragments, level, rfl, some, legible, ran, held⟩ := chain
  have accepted : Gives (Draft.predicate e) (begun.pushAll (fragments ++ [c.fragment])) () d' := by
    have joined := gives_step.mp h
    rw [joinedBy, hasConditions_pushAll some begun] at joined
    rwa [pushAll_append]
  obtain ⟨more, p, rfl, -, legible', reads, means⟩ := reads_of_predicate dialect predicate accepted
  refine ⟨p, ?_, means⟩
  have whole : (begun.pushAll (fragments ++ [c.fragment])).pushAll more =
      begun.pushAll (fragments ++ c.fragment :: more) := by
    rw [← pushAll_append, List.append_assoc]
    rfl
  have nonempty : fragments ++ c.fragment :: more ≠ [] := by simp
  cases c with
  | and =>
    obtain ⟨after, ran', held'⟩ := reads.conjoined held
    refine ⟨_, after, whole, nonempty,
      Fragment.shows_between dialect legible (Fragment.shows_conjunction dialect) legible', ?_, held'⟩
    rw [List.flatMap_append, run?_append, ran]
    exact ran'
  | or =>
    obtain ⟨after, ran', held'⟩ := reads.disjoined held
    refine ⟨_, after, whole, nonempty,
      Fragment.shows_between dialect legible (Fragment.shows_disjunction dialect) legible', ?_, held'⟩
    rw [List.flatMap_append, run?_append, ran]
    exact ran'

theorem truth_either (S : Semantics) (row : String → Value) (disjuncts : Option Phrase) (group : Phrase) :
    (either disjuncts group).truth S row =
      (disjuncts.map fun p => (p.truth S row).or (group.truth S row)).getD (group.truth S row) := by
  cases disjuncts with
  | none => rfl
  | some p => exact Phrase.truth_or S row p group

/-- The rest of a chain, read behind what was there. -/
theorem chained_rest {rest : List (Connective × Expr)} (predicates : ∀ link ∈ rest, link.2.IsPredicate)
    {disjuncts : Option Phrase} {group : Phrase} (chain : Chained dialect begun d disjuncts group)
    (h : Gives (Step.runAll entity (program rest)) d () d') :
    ∃ disjuncts' group', Chained dialect begun d' disjuncts' group' ∧ ∀ S row,
      (either disjuncts' group').truth S row =
        (disjuncts.map fun p => (p.truth S row).or
          (grouped (group.truth S row) (truths S (dialect.columnsOf row) rest))).getD
            (grouped (group.truth S row) (truths S (dialect.columnsOf row) rest)) := by
  induction rest generalizing d disjuncts group with
  | nil =>
    obtain ⟨-, rfl⟩ := gives_pure.mp h
    exact ⟨disjuncts, group, chain, fun S row => truth_either S row disjuncts group⟩
  | cons link rest ih =>
    obtain ⟨c, e⟩ := link
    obtain ⟨⟨⟩, d₁, first, others⟩ := gives_bind.mp h
    obtain ⟨p, next, means⟩ := chained_next chain (predicates (c, e) (by simp)) first
    have later : ∀ link ∈ rest, link.2.IsPredicate := fun link member => predicates link (by simp [member])
    cases c with
    | and =>
      obtain ⟨disjuncts', group', chain', same⟩ := ih later next others
      refine ⟨disjuncts', group', chain', fun S row => ?_⟩
      rw [same, Phrase.truth_and, means]
      rfl
    | or =>
      obtain ⟨disjuncts', group', chain', same⟩ := ih later next others
      refine ⟨disjuncts', group', chain', fun S row => ?_⟩
      rw [same, Option.map_some, Option.getD_some, truth_either, means]
      cases disjuncts with
      | none => rfl
      | some q => exact Truth.or_assoc _ _ _

/-- (2) The text of a chain reads as the disjunction of its groups. -/
theorem reading_of_filters (fresh : begun.Fresh) (hd : begun.dialect = dialect) {c : Connective} {e : Expr}
    {rest : List (Connective × Expr)} (predicates : ∀ link ∈ (c, e) :: rest, link.2.IsPredicate)
    (h : Gives (Step.runAll entity (program ((c, e) :: rest))) begun () d) :
    ∃ phrase, d.reading? = some phrase ∧ ∀ S row, phrase.truth S row =
      grouped (e.truth S (dialect.columnsOf row)) (truths S (dialect.columnsOf row) rest) := by
  subst hd
  obtain ⟨⟨⟩, d₁, first, others⟩ := gives_bind.mp h
  obtain ⟨p, chain, means⟩ := chained_first fresh (predicates (c, e) (by simp)) first
  have later : ∀ link ∈ rest, link.2.IsPredicate := fun link member => predicates link (by simp [member])
  obtain ⟨disjuncts, group, ⟨fragments, level, rfl, -, legible, ran, held⟩, same⟩ :=
    chained_rest later chain others
  refine ⟨either disjuncts group, ?_, fun S row => ?_⟩
  · rw [reading?_pushAll fresh legible]
    show (run? State.start _).bind State.finish? = _
    rw [ran]
    exact held.disjunction?
  · rw [same, Option.map_none, Option.getD_none, means]

/-- A chain runs unless one of its predicates orders `NULL`. -/
theorem gives_program_iff (entity : Entity) {filters : List (Connective × Expr)}
    (comparisons : ∀ link ∈ filters, link.2.IsComparisons) (d : Draft) :
    (∃ d', Gives (Step.runAll entity (program filters)) d () d') ↔
      ∀ link ∈ filters, link.2.ordersNull = false := by
  induction filters generalizing d with
  | nil => simpa using ⟨d, gives_pure.mpr ⟨rfl, rfl⟩⟩
  | cons link rest ih =>
    obtain ⟨c, e⟩ := link
    have here := comparisons (c, e) (by simp)
    have later : ∀ link ∈ rest, link.2.IsComparisons := fun link member => comparisons link (by simp [member])
    rw [List.forall_mem_cons, ← here.accepted_iff (d.joinedBy c.fragment)]
    constructor
    · rintro ⟨d', gave⟩
      obtain ⟨⟨⟩, d₁, first, others⟩ := gives_bind.mp gave
      exact ⟨⟨d₁, gives_step.mp first⟩, (ih later d₁).mp ⟨d', others⟩⟩
    · rintro ⟨⟨d₁, accepted⟩, rest⟩
      obtain ⟨d', others⟩ := (ih later d₁).mpr rest
      exact ⟨d', gives_bind.mpr ⟨(), d₁, gives_step.mpr accepted, others⟩⟩

/-! ## Where groups and folds part -/

/-- Truth values that are all `no` from the first `OR` on. -/
def opposing {α : Type} (yes no : α) : List Connective → List (Connective × α)
  | [] => []
  | .and :: rest => (.and, yes) :: opposing yes no rest
  | .or :: rest => (.or, no) :: rest.map (·, no)

theorem map_fst_opposing {α : Type} (yes no : α) (connectives : List Connective) :
    (opposing yes no connectives).map Prod.fst = connectives := by
  induction connectives with
  | nil => rfl
  | cons c rest ih =>
    cases c with
    | and => rw [opposing, List.map_cons, ih]
    | or => simp [opposing, Function.comp_def]

theorem grouped_opposing (connectives : List Connective) :
    grouped .yes (opposing .yes .no connectives) = .yes := by
  induction connectives with
  | nil => rfl
  | cons c rest ih =>
    cases c with
    | and => exact ih
    | or => rfl

theorem folded_no (connectives : List Connective) : folded .no (connectives.map (·, .no)) = .no := by
  induction connectives with
  | nil => rfl
  | cons c rest ih =>
    cases c with
    | and => exact ih
    | or => exact ih

theorem folded_yes {connectives : List Connective} (h : .and ∈ connectives) :
    folded .yes (connectives.map (·, .no)) = .no := by
  induction connectives with
  | nil => cases h
  | cons c rest ih =>
    cases c with
    | and => exact folded_no rest
    | or => exact ih (by simpa using h)

theorem folded_opposing {connectives : List Connective} (h : ¬ OrsLast connectives) :
    folded .yes (opposing .yes .no connectives) = .no := by
  induction connectives with
  | nil => exact absurd List.Pairwise.nil h
  | cons c rest ih =>
    cases c with
    | and =>
      refine ih fun last => h (List.pairwise_cons.mpr ⟨?_, last⟩)
      intro d _ impossible
      cases impossible
    | or =>
      refine folded_yes ?_
      by_cases member : Connective.and ∈ rest
      · exact member
      · have ors : ∀ d ∈ rest, d = .or := by
          intro d inside
          cases d with
          | and => exact absurd inside member
          | or => rfl
        refine absurd (List.pairwise_cons.mpr ⟨fun d inside _ => ors d inside, ?_⟩) h
        exact List.Pairwise.imp_of_mem (fun _ inside _ _ => ors _ inside) (List.pairwise_of_forall fun _ _ => trivial)

def agreement (entity : Entity) (op : Operator) : Expr := .binary op (.field entity "a") (.field entity "b")

def agreeing : Semantics where
  compares op _ _ := if op = .equal then .yes else .no
  fits _ _ := .unknown
  holds _ := .unknown

def result (dialect : Dialect) (stem : String) (entity : Entity) (operation : Operation) (start : Nat)
    (filters : List (Connective × Expr)) : Except Error Query := do
  (← Query.start ⟨some dialect, stem⟩ entity operation start).run (program filters)

def beginning (dialect : Dialect) (stem table : String) (operation : Operation) (start : Nat) : Draft :=
  (((onTable dialect table).withStem stem).numberedFrom start).withOperation operation

theorem beginning_fresh (dialect : Dialect) (stem table : String) (operation : Operation) (start : Nat) :
    (beginning dialect stem table operation start).Fresh := ⟨rfl, rfl, rfl⟩

theorem result_eq_ok {stem : String} {operation : Operation} {start : Nat} {filters : List (Connective × Expr)}
    {q : Query} :
    result dialect stem entity operation start filters = .ok q ↔
      ∃ d, Gives (Step.runAll entity (program filters))
        (beginning dialect stem entity.table operation start) () d ∧ q = ⟨entity, d⟩ := by
  have begun : result dialect stem entity operation start filters =
      Query.run ⟨entity, beginning dialect stem entity.table operation start⟩ (program filters) := rfl
  rw [begun]
  exact Query.run_eq_ok

/-- (1) A chain has a query unless one of its predicates orders `NULL`. -/
theorem result_isOk_iff {stem : String} {operation : Operation} {start : Nat} {filters : List (Connective × Expr)}
    (comparisons : ∀ link ∈ filters, link.2.IsComparisons) :
    (∃ q, result dialect stem entity operation start filters = .ok q) ↔
      ∀ link ∈ filters, link.2.ordersNull = false := by
  rw [← gives_program_iff entity comparisons (beginning dialect stem entity.table operation start)]
  constructor
  · rintro ⟨q, h⟩
    obtain ⟨d, gave, -⟩ := result_eq_ok.mp h
    exact ⟨d, gave⟩
  · rintro ⟨d, gave⟩
    exact ⟨⟨entity, d⟩, result_eq_ok.mpr ⟨d, gave, rfl⟩⟩

theorem reading_of_result {stem : String} {operation : Operation} {start : Nat} {c : Connective} {e : Expr}
    {rest : List (Connective × Expr)} {q : Query} (comparisons : ∀ link ∈ (c, e) :: rest, link.2.IsComparisons)
    (h : result dialect stem entity operation start ((c, e) :: rest) = .ok q) :
    ∃ phrase, q.draft.reading? = some phrase ∧ ∀ S row, phrase.truth S row =
      grouped (e.truth S (dialect.columnsOf row)) (truths S (dialect.columnsOf row) rest) := by
  obtain ⟨d, gave, rfl⟩ := result_eq_ok.mp h
  exact reading_of_filters (beginning_fresh dialect stem entity.table operation start) rfl
    (fun link member => (comparisons link member).isPredicate) gave

theorem comparisons_agreement (entity : Entity) {op : Operator} (h : op.isComparison = true) :
    (agreement entity op).IsComparisons := .columns h rfl rfl

theorem mem_opposing {α : Type} {yes no : α} {connectives : List Connective} {link : Connective × α}
    (h : link ∈ opposing yes no connectives) : link.2 = yes ∨ link.2 = no := by
  induction connectives with
  | nil => cases h
  | cons c rest ih =>
    cases c with
    | and =>
      rcases List.mem_cons.mp h with rfl | later
      · exact .inl rfl
      · exact ih later
    | or =>
      rcases List.mem_cons.mp h with rfl | later
      · exact .inr rfl
      · obtain ⟨_, -, rfl⟩ := List.mem_map.mp later
        exact .inr rfl

def opposingFilters (entity : Entity) (connectives : List Connective) : List (Connective × Expr) :=
  opposing (agreement entity .equal) (agreement entity .notEqual) connectives

theorem comparisons_opposing (entity : Entity) (c : Connective) (connectives : List Connective) :
    ∀ link ∈ (c, agreement entity .equal) :: opposingFilters entity connectives,
      link.2.IsComparisons ∧ link.2.ordersNull = false := by
  intro link member
  rcases List.mem_cons.mp member with rfl | later
  · exact ⟨comparisons_agreement entity rfl, rfl⟩
  · rcases mem_opposing later with equal | unequal
    · rw [equal]
      exact ⟨comparisons_agreement entity rfl, rfl⟩
    · rw [unequal]
      exact ⟨comparisons_agreement entity rfl, rfl⟩

theorem map_opposing {α β : Type} (f : α → β) (yes no : α) (connectives : List Connective) :
    (opposing yes no connectives).map (fun (c, a) => (c, f a)) = opposing (f yes) (f no) connectives := by
  induction connectives with
  | nil => rfl
  | cons c rest ih =>
    cases c with
    | and => rw [opposing, List.map_cons, ih, opposing]
    | or => simp [opposing, Function.comp_def]

def everywhere (_ : String) : Value := .bool true

theorem truths_opposing (entity : Entity) (connectives : List Connective) :
    truths agreeing (dialect.columnsOf everywhere) (opposingFilters entity connectives) =
      opposing .yes .no connectives :=
  map_opposing (Expr.truth agreeing (dialect.columnsOf everywhere)) _ _ connectives

/-- With a `filter` after an `orFilter`, there is a chain whose text keeps a row that the
    fold drops. -/
theorem kept_of_not_ors_last (dialect : Dialect) (stem : String) (entity : Entity) (operation : Operation)
    (start : Nat) (c : Connective) {connectives : List Connective} (h : ¬ OrsLast connectives) :
    ∃ q phrase,
      result dialect stem entity operation start
        ((c, agreement entity .equal) :: opposingFilters entity connectives) = .ok q ∧
      q.draft.reading? = some phrase ∧
      phrase.truth agreeing everywhere = .yes ∧
      folded .yes (truths agreeing (dialect.columnsOf everywhere) (opposingFilters entity connectives)) = .no := by
  have opposing := comparisons_opposing entity c connectives
  have comparisons := fun link member => (opposing link member).1
  obtain ⟨q, ran⟩ := (result_isOk_iff comparisons).mpr fun link member => (opposing link member).2
  obtain ⟨phrase, read, means⟩ := reading_of_result comparisons ran
  refine ⟨q, phrase, ran, read, ?_, ?_⟩
  · rw [means, truths_opposing]
    exact grouped_opposing connectives
  · rw [truths_opposing]
    exact folded_opposing h

/-- (4) A chain runs unless a predicate orders `NULL`. Its text reads as the disjunction of
    its groups, and keeps every row that the fold keeps. It keeps the same rows as the
    fold, whatever the predicates, exactly when no `filter` comes after an `orFilter`. -/
theorem filters_fold_iff_ors_last (dialect : Dialect) (stem : String) (entity : Entity) (operation : Operation)
    (start : Nat) (c : Connective) (connectives : List Connective) :
    (∀ e rest, (∀ link ∈ (c, e) :: rest, link.2.IsComparisons) →
        ((∃ q, result dialect stem entity operation start ((c, e) :: rest) = .ok q) ↔
          ∀ link ∈ (c, e) :: rest, link.2.ordersNull = false) ∧
        ∀ q, result dialect stem entity operation start ((c, e) :: rest) = .ok q →
          ∃ phrase, q.draft.reading? = some phrase ∧ ∀ S row,
            phrase.truth S row =
              grouped (e.truth S (dialect.columnsOf row)) (truths S (dialect.columnsOf row) rest) ∧
            (folded (e.truth S (dialect.columnsOf row)) (truths S (dialect.columnsOf row) rest) = .yes →
              phrase.truth S row = .yes)) ∧
      ((∀ e rest q, (∀ link ∈ (c, e) :: rest, link.2.IsComparisons) → rest.map Prod.fst = connectives →
          result dialect stem entity operation start ((c, e) :: rest) = .ok q →
          ∃ phrase, q.draft.reading? = some phrase ∧ ∀ S row,
            (phrase.truth S row = .yes ↔
              folded (e.truth S (dialect.columnsOf row)) (truths S (dialect.columnsOf row) rest) = .yes)) ↔
        OrsLast connectives) := by
  refine ⟨fun e rest comparisons => ⟨result_isOk_iff comparisons, fun q h => ?_⟩, fun agree => ?_,
    fun last e rest q comparisons same h => ?_⟩
  · obtain ⟨phrase, read, means⟩ := reading_of_result comparisons h
    refine ⟨phrase, read, fun S row => ⟨means S row, fun kept => ?_⟩⟩
    rw [means]
    exact grouped_of_folded kept
  · by_cases last : OrsLast connectives
    · exact last
    · obtain ⟨q, phrase, ran, read, kept, dropped⟩ :=
        kept_of_not_ors_last dialect stem entity operation start c last
      obtain ⟨phrase', read', same⟩ := agree _ _ q
        (fun link member => (comparisons_opposing entity c connectives link member).1)
        (map_fst_opposing _ _ connectives) ran
      cases read.symm.trans read'
      have folded := (same agreeing everywhere).mp kept
      cases dropped.symm.trans folded
  · obtain ⟨phrase, read, means⟩ := reading_of_result comparisons h
    refine ⟨phrase, read, fun S row => ?_⟩
    have ors : OrsLast ((truths S (dialect.columnsOf row) rest).map Prod.fst) := by
      rw [truths, List.map_map]
      exact same ▸ last
    rw [means, grouped_eq_folded ors]

/-- A `filter` after an `orFilter` that excludes nothing: the text
    `Users.Id = 1 OR Users.Id = 2 AND Users.Email = a` holds of a row with the first key
    and another address, and the fold of the calls does not. -/
theorem filter_after_or_excludes_nothing :
    let users : Entity := ⟨"User", "Users", [("id", "Id"), ("email", "Email")]⟩
    let test (member : String) (v : Value) : Expr := .binary .equal (.field users member) (.constant v)
    let rest : List (Connective × Expr) := [(.or, test "id" (.int 2)), (.and, test "email" (.text "a"))]
    let S : Semantics := ⟨fun _ a b => .ofBool (a.same b), fun _ _ => .unknown, fun _ => .unknown⟩
    let row : String → Value := fun column => if column = "Users.Id" then .int 1 else .text "b"
    ∃ q phrase,
      result .sqlite "Param" users .select 0 ((.and, test "id" (.int 1)) :: rest) = .ok q ∧
      q.draft.reading? = some phrase ∧ phrase.truth S row = .yes ∧
      folded ((test "id" (.int 1)).truth S (Dialect.sqlite.columnsOf row))
        (truths S (Dialect.sqlite.columnsOf row) rest) = .no := by
  intro users test rest S row
  have filters : ∀ link ∈ (Connective.and, test "id" (.int 1)) :: rest,
      link.2.IsComparisons ∧ link.2.ordersNull = false := by
    intro link member
    simp only [rest, List.mem_cons, List.not_mem_nil, or_false] at member
    rcases member with rfl | rfl | rfl <;> exact ⟨.withValue rfl rfl rfl, rfl⟩
  have comparisons := fun link member => (filters link member).1
  obtain ⟨q, ran⟩ := (result_isOk_iff comparisons).mpr fun link member => (filters link member).2
  obtain ⟨phrase, read, means⟩ := reading_of_result comparisons ran
  refine ⟨q, phrase, ran, read, ?_, by decide +kernel⟩
  rw [means]
  decide +kernel

end Filters

end Querycraft
