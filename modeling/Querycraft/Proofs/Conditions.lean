/-
  Querycraft.Proofs.Conditions — conditions mean what their predicates mean.

  The text of a predicate's condition is read back: lexed fragment by fragment, and put
  together by precedence. `ReadsAs` says that fragments read as a phrase wherever a
  comparison may begin, so that what was read before and what waits around it stay as
  they are. A negation stands in front of a parenthesis and a connective between two,
  which is why the reading is the phrase of the term. Proved:
  (1) the fragments of a predicate's term read as a phrase that means what the term
      means (`readsAs_of_emits`);
  (2) the placeholders of a draft are shown for the values it bound (`valued_of_numbered`);
  (3) so an accepted predicate leaves a condition that a server reads as a phrase with
      the predicate's truth value, in every row (`condition_means_predicate`).
-/

import Querycraft.Proofs.Drafting
import Querycraft.Proofs.Lexing

namespace Querycraft

/-! ## Meanings of phrases -/

@[simp] theorem Semantics.truthOf_toValue (S : Semantics) (t : Truth) : S.truthOf t.toValue = t := by
  cases t <;> rfl

namespace Phrase

variable (S : Semantics) (row : String → Value)

@[simp] theorem truth_not (p : Phrase) : (Phrase.not p).truth S row = (p.truth S row).not :=
  S.truthOf_toValue _

@[simp] theorem truth_and (p q : Phrase) :
    (Phrase.and p q).truth S row = (p.truth S row).and (q.truth S row) := S.truthOf_toValue _

@[simp] theorem truth_or (p q : Phrase) :
    (Phrase.or p q).truth S row = (p.truth S row).or (q.truth S row) := S.truthOf_toValue _

@[simp] theorem truth_compare (op : Operator) (p q : Phrase) :
    (Phrase.compare op p q).truth S row = S.compare op (p.eval S row) (q.eval S row) := S.truthOf_toValue _

@[simp] theorem truth_like (p q : Phrase) :
    (Phrase.like p q).truth S row = S.like (p.eval S row) (q.eval S row) := S.truthOf_toValue _

@[simp] theorem truth_nullTest (p : Phrase) (negated : Bool) :
    (Phrase.nullTest p negated).truth S row = .ofBool ((p.eval S row).isNull != negated) := rfl

end Phrase

/-! ## Readings -/

namespace Reader

def run? (s : State) (tokens : List Token) : Option State := tokens.foldlM State.step? s

theorem run?_append (s : State) (a b : List Token) : run? s (a ++ b) = (run? s a).bind (run? · b) :=
  List.foldlM_append

theorem run?_cons (s : State) (t : Token) (rest : List Token) :
    run? s (t :: rest) = (s.step? t).bind (run? · rest) := List.foldlM_cons

/-- The tokens of a comparison, perhaps behind negations, wherever one may begin. -/
def ReadsAs (tokens : List Token) (p : Phrase) : Prop :=
  ∀ (level : Level) (outer : List Level), level.clause = .empty →
    ∃ n clause q, run? ⟨level, outer⟩ tokens =
        some ⟨{ level with negations := level.negations + n, clause }, outer⟩ ∧
      clause.phrase? = some q ∧ p = Phrase.negated n q

/-- The tokens of a whole condition, alone or between parentheses. -/
def ReadsInside (tokens : List Token) (p : Phrase) : Prop :=
  ∀ outer, ∃ s, run? ⟨.start, outer⟩ tokens = some s ∧ s.outer = outer ∧ s.level.disjunction? = some p

theorem negated_add (m n : Nat) (p : Phrase) : Phrase.negated (m + n) p = Phrase.negated m (Phrase.negated n p) := by
  induction m with
  | zero => rw [Nat.zero_add]; rfl
  | succ m ih => rw [Nat.succ_add, Phrase.negated, ih]; rfl

variable {a b : List Token} {p q : Phrase}

/-- What a comparison leaves for the negations before it. -/
theorem ReadsAs.negation? (h : ReadsAs a p) (level : Level) (outer : List Level) (empty : level.clause = .empty) :
    ∃ after, run? ⟨level, outer⟩ a = some ⟨after, outer⟩ ∧ after.disjuncts = level.disjuncts ∧
      after.conjuncts = level.conjuncts ∧ after.negation? = some (Phrase.negated level.negations p) := by
  obtain ⟨n, clause, q, ran, found, rfl⟩ := h level outer empty
  refine ⟨_, ran, rfl, rfl, ?_⟩
  simp [Level.negation?, found, negated_add]

/-- What a level has read of a condition: the sides of the last `OR` before it, and the
    conjunction since. -/
structure Level.Holds (l : Level) (disjuncts : Option Phrase) (conjunction : Phrase) : Prop where
  disjuncts : l.disjuncts = disjuncts
  conjunction : l.conjunction? = some conjunction

def either (disjuncts : Option Phrase) (conjunction : Phrase) : Phrase :=
  (disjuncts.map (Phrase.or · conjunction)).getD conjunction

section Connectives

variable {level : Level} {outer : List Level} {disjuncts : Option Phrase} {conjunction : Phrase}

theorem Level.Holds.disjunction? (h : level.Holds disjuncts conjunction) :
    level.disjunction? = some (either disjuncts conjunction) := by
  simp [Level.disjunction?, h.disjuncts, h.conjunction, either]

theorem ReadsAs.alone (h : ReadsAs a p) (outer : List Level) :
    ∃ after : Level, run? ⟨.start, outer⟩ a = some ⟨after, outer⟩ ∧ after.Holds none p := by
  obtain ⟨after, ran, disjuncts, conjuncts, found⟩ := h.negation? .start outer rfl
  refine ⟨after, ran, disjuncts, ?_⟩
  simp [Level.conjunction?, found, conjuncts, Level.start, Phrase.negated]

theorem ReadsAs.conjoined (h : ReadsAs a p) (held : level.Holds disjuncts conjunction) :
    ∃ after : Level, run? ⟨level, outer⟩ (.conjunction :: a) = some ⟨after, outer⟩ ∧
      after.Holds disjuncts (.and conjunction p) := by
  obtain ⟨after, ran, before, conjuncts, found⟩ := h.negation? ⟨disjuncts, some conjunction, 0, .empty⟩ outer rfl
  refine ⟨after, ?_, before, ?_⟩
  · rw [run?_cons, ← ran]
    simp [State.step?, held.conjunction, held.disjuncts, Level.start]
  · simp [Level.conjunction?, found, conjuncts, Phrase.negated]

theorem ReadsAs.disjoined (h : ReadsAs a p) (held : level.Holds disjuncts conjunction) :
    ∃ after : Level, run? ⟨level, outer⟩ (.disjunction :: a) = some ⟨after, outer⟩ ∧
      after.Holds (some (either disjuncts conjunction)) p := by
  obtain ⟨after, ran, before, conjuncts, found⟩ :=
    h.negation? ⟨some (either disjuncts conjunction), none, 0, .empty⟩ outer rfl
  refine ⟨after, ?_, before, ?_⟩
  · rw [run?_cons, ← ran]
    simp [State.step?, held.disjunction?, Level.start]
  · simp [Level.conjunction?, found, conjuncts, Phrase.negated]

end Connectives

theorem ReadsAs.inside (h : ReadsAs a p) : ReadsInside a p := by
  intro outer
  obtain ⟨level, ran, held⟩ := h.alone outer
  exact ⟨_, ran, rfl, held.disjunction?⟩

theorem ReadsAs.and (hl : ReadsAs a p) (hr : ReadsAs b q) : ReadsInside (a ++ .conjunction :: b) (.and p q) := by
  intro outer
  obtain ⟨left, ran, held⟩ := hl.alone outer
  obtain ⟨right, ran', held'⟩ := hr.conjoined held
  refine ⟨⟨right, outer⟩, ?_, rfl, held'.disjunction?⟩
  rw [run?_append, ran, Option.bind_some, ran']

theorem ReadsAs.or (hl : ReadsAs a p) (hr : ReadsAs b q) : ReadsInside (a ++ .disjunction :: b) (.or p q) := by
  intro outer
  obtain ⟨left, ran, held⟩ := hl.alone outer
  obtain ⟨right, ran', held'⟩ := hr.disjoined held
  refine ⟨⟨right, outer⟩, ?_, rfl, held'.disjunction?⟩
  rw [run?_append, ran, Option.bind_some, ran']

/-- A parenthesis is read on a level of its own, and is an operand of the level around. -/
theorem ReadsInside.grouped (h : ReadsInside a p) : ReadsAs (Token.opening :: a ++ [Token.closing]) p := by
  intro level outer empty
  obtain ⟨s, ran, around, found⟩ := h (level :: outer)
  refine ⟨0, .operand p, p, ?_, rfl, rfl⟩
  have opened : State.step? ⟨level, outer⟩ .opening = some ⟨.start, level :: outer⟩ := by
    simp [State.step?, empty, Clause.takes]
  have closed : run? s [.closing] =
      some ⟨{ level with negations := level.negations + 0, clause := .operand p }, outer⟩ := by
    simp [run?, State.step?, found, around, State.operand?, empty, Clause.take?, Level.withClause]
  rw [List.cons_append, run?_cons, opened, Option.bind_some, run?_append, ran, Option.bind_some, closed]

theorem ReadsAs.not (h : ReadsAs a p) : ReadsAs (.negation :: a) (.not p) := by
  intro level outer empty
  obtain ⟨n, clause, q, ran, found, rfl⟩ := h { level with negations := level.negations + 1 } outer empty
  refine ⟨n + 1, clause, q, ?_, found, rfl⟩
  have negated : State.step? ⟨level, outer⟩ .negation =
      some ⟨{ level with negations := level.negations + 1 }, outer⟩ := by
    simp [State.step?, empty]
  rw [run?_cons, negated, Option.bind_some, ran]
  simp only [Nat.add_assoc, Nat.add_comm 1 n]

theorem ReadsInside.read? (h : ReadsInside a p) : Reader.read? a = some p := by
  obtain ⟨s, ran, around, found⟩ := h []
  show (run? ⟨.start, []⟩ a).bind State.finish? = some p
  rw [ran, Option.bind_some, State.finish?, around]
  simpa using found

/-! ## Comparisons -/

theorem readsAs_name (text : String) : ReadsAs [.name text] (.name text) := by
  intro level outer empty
  refine ⟨0, .operand (.name text), _, ?_, rfl, rfl⟩
  simp [run?, State.step?, State.operand?, empty, Clause.take?, Level.withClause]

theorem readsAs_value (v : Value) : ReadsAs [.value v] (.value v) := by
  intro level outer empty
  refine ⟨0, .operand (.value v), _, ?_, rfl, rfl⟩
  simp [run?, State.step?, State.operand?, empty, Clause.take?, Level.withClause]

theorem readsAs_compare (text : String) (op : Operator) (v : Value) :
    ReadsAs [.name text, .operator op, .value v] (.compare op (.name text) (.value v)) := by
  intro level outer empty
  refine ⟨0, .complete (.compare op (.name text) (.value v)), _, ?_, rfl, rfl⟩
  simp [run?, State.step?, State.operand?, empty, Clause.take?, Level.withClause]

theorem readsAs_compareNames (left : String) (op : Operator) (right : String) :
    ReadsAs [.name left, .operator op, .name right] (.compare op (.name left) (.name right)) := by
  intro level outer empty
  refine ⟨0, .complete (.compare op (.name left) (.name right)), _, ?_, rfl, rfl⟩
  simp [run?, State.step?, State.operand?, empty, Clause.take?, Level.withClause]

theorem readsAs_like (text : String) (pattern : Value) :
    ReadsAs [.name text, .like, .value pattern] (.like (.name text) (.value pattern)) := by
  intro level outer empty
  refine ⟨0, .complete (.like (.name text) (.value pattern)), _, ?_, rfl, rfl⟩
  simp [run?, State.step?, State.operand?, empty, Clause.take?, Level.withClause]

theorem readsAs_nullTest (text : String) (negated : Bool) :
    ReadsAs (.name text :: .is :: if negated then [.negation, .null] else [.null])
      (.nullTest (.name text) negated) := by
  intro level outer empty
  refine ⟨0, .complete (.nullTest (.name text) negated), _, ?_, rfl, rfl⟩
  cases negated <;> simp [run?, State.step?, State.operand?, empty, Clause.take?, Level.withClause]

end Reader

def Dialect.columnsOf (dialect : Dialect) (row : String → Value) (c : Column) : Value :=
  row (dialect.field c.table c.name)

namespace Term

open Reader

theorem truth_of_pair {op op' : Operator} {l r : Term} {c : Column} {v : Value} (S : Semantics)
    (row : Column → Value) (comparison : op.isComparison = true)
    (found : pair? op l r = some (.withValue c op' v)) :
    (Term.operation op l r).truth S row = S.test op' (row c) v := by
  rw [truth_comparison comparison, found]

/-- (1) The condition of a predicate's term reads as a phrase that means what the term
    means. -/
theorem readsAs_of_emits (dialect : Dialect) {t : Term} {fragments : List (Fragment Value)}
    (h : Emits t fragments) (predicate : t.IsPredicate) :
    ∃ p, ReadsAs (fragments.flatMap (Fragment.tokens dialect)) p ∧
      ∀ S row, p.truth S row = t.truth S (dialect.columnsOf row) := by
  induction h with
  | column c => exact ⟨_, readsAs_name _, fun _ _ => rfl⟩
  | value v => exact ⟨_, readsAs_value v, fun _ _ => rfl⟩
  | equals c text => exact ⟨_, readsAs_compare _ .equal _, fun S row => Phrase.truth_compare S row _ _ _⟩
  | @pattern m c text different =>
    refine ⟨_, readsAs_like _ _, fun S row => ?_⟩
    rw [Phrase.truth_like]
    cases m with
    | equals => exact absurd rfl different
    | _ => rfl
  | notGrouped _ _ ih =>
    cases predicate with
    | not inside =>
      obtain ⟨p, reads, means⟩ := ih inside
      exact ⟨.not p, reads.not, fun S row => by rw [Phrase.truth_not, means]; rfl⟩
  | @notBare t inside _ _ ih =>
    cases predicate with
    | not within =>
      obtain ⟨p, reads, means⟩ := ih within
      refine ⟨.not p, ?_, fun S row => by rw [Phrase.truth_not, means]; rfl⟩
      have grouped := reads.inside.grouped.not
      simpa [Fragment.tokens] using grouped
  | and _ _ ihl ihr =>
    cases predicate with
    | comparison impossible _ => cases impossible
    | and l r =>
      obtain ⟨p, reads, means⟩ := ihl l
      obtain ⟨q, reads', means'⟩ := ihr r
      refine ⟨.and p q, ?_, fun S row => by rw [Phrase.truth_and, means, means']; rfl⟩
      simpa [Fragment.tokens] using (reads.and reads').grouped
  | or _ _ ihl ihr =>
    cases predicate with
    | comparison impossible _ => cases impossible
    | or l r =>
      obtain ⟨p, reads, means⟩ := ihl l
      obtain ⟨q, reads', means'⟩ := ihr r
      refine ⟨.or p q, ?_, fun S row => by rw [Phrase.truth_or, means, means']; rfl⟩
      simpa [Fragment.tokens] using (reads.or reads').grouped
  | columns a b comparison =>
    refine ⟨_, readsAs_compareNames _ _ _, fun S row => ?_⟩
    rw [Phrase.truth_compare, truth_comparison comparison]
    rfl
  | compared comparison found null =>
    refine ⟨_, readsAs_compare _ _ _, fun S row => ?_⟩
    rw [Phrase.truth_compare, truth_of_pair S _ comparison found, S.test_of_value _ null]
    rfl
  | isNull found =>
    refine ⟨_, readsAs_nullTest _ false, fun S row => ?_⟩
    rw [Phrase.truth_nullTest, truth_of_pair S _ rfl found]
    exact congrArg Truth.ofBool (Bool.bne_false _)
  | isNotNull found =>
    refine ⟨_, readsAs_nullTest _ true, fun S row => ?_⟩
    rw [Phrase.truth_nullTest, truth_of_pair S _ rfl found]
    exact congrArg Truth.ofBool (Bool.bne_true _)
  | generic comparison none _ _ _ _ =>
    cases predicate with
    | and _ _ => cases comparison
    | or _ _ => cases comparison
    | comparison _ found =>
      rw [none] at found
      cases found

end Term

/-! ## Values in their places -/

namespace Draft

open Drafting
open Fragment (Valued)

/-- Of values under successive names, each is found by its own placeholder. -/
theorem findSome?_numberedEntries (d : Draft) (held : List Value) (i position k : Nat) {v : Value}
    (h : held[k]? = some v) :
    (((d.numberedEntries i held).zipIdx position).findSome? fun ((name, value), at_) =>
      if d.dialect.parameter name at_ = d.dialect.parameter (d.parameterName (i + k)) (position + k)
      then some value else none) = some v := by
  induction held generalizing i position k with
  | nil => cases h
  | cons first rest ih =>
    have entries : d.numberedEntries i (first :: rest) =
        (d.parameterName i, first) :: d.numberedEntries (i + 1) rest := by
      simp [numberedEntries, List.zipIdx_cons]
    rw [entries, List.zipIdx_cons, List.findSome?_cons]
    cases k with
    | zero =>
      cases h
      simp
    | succ k =>
      have other := d.placeholder_ne (i := i) (j := i + (k + 1)) (p := position) (q := position + (k + 1))
        (by omega) (by omega)
      simp only [if_neg other]
      have later := ih (i + 1) (position + 1) k (by simpa using h)
      rw [show i + 1 + k = i + (k + 1) by omega, show position + 1 + k = position + (k + 1) by omega] at later
      exact later

theorem valued_of_getElem? {shown : String → Option Value} {issue : Nat → Placeholder} {held : List Value}
    {i : Nat} (h : ∀ k v, held[k]? = some v → shown (issue (i + k)).text = some v) :
    Valued shown issue i held := by
  induction held generalizing i with
  | nil => trivial
  | cons first rest ih =>
    refine ⟨h 0 first rfl, ih fun k v found => ?_⟩
    rw [show i + 1 + k = i + (k + 1) by omega]
    exact h (k + 1) v found

/-- (2) A draft shows the values it bound for their placeholders. -/
theorem valued_of_numbered {d : Draft} {held : List Value} (h : d.Numbered d.base held) :
    Valued (d.parameters.shown? d.dialect) d.issued (d.base + 1) held := by
  refine valued_of_getElem? fun k v found => ?_
  rw [Parameters.shown?, h.entries]
  have shown := d.findSome?_numberedEntries held (d.base + 1) 1 k found
  rw [show 1 + k = d.base + 1 + k - d.base by omega] at shown
  exact shown

structure Fresh (d : Draft) : Prop where
  conditions : d.conditions = []
  parameters : d.parameters.entries = []
  counter : d.counter = d.base

/-- The text of fragments pushed to a fresh draft gives their tokens. -/
theorem tokens_pushAll {d : Draft} (fresh : d.Fresh) {fragments : List (Fragment Value)}
    (legible : Fragment.Shows Lexer.Lexes d.dialect fragments) :
    Lexer.tokens d.dialect.quoting ((d.pushAll fragments).conditionSql.glyphs
      ((d.pushAll fragments).parameters.shown? d.dialect)) = fragments.flatMap (Fragment.tokens d.dialect) := by
  have bound : Binds (fragments.flatMap Fragment.operands) d (d.pushAll fragments) := by
    rw [pushAll_eq]
    exact ⟨rfl, rfl, rfl, rfl, rfl⟩
  have begun : d.Numbered d.base [] := ⟨fresh.counter, fresh.parameters⟩
  have numbered : (d.pushAll fragments).Numbered (d.pushAll fragments).base
      (fragments.flatMap Fragment.operands) := by
    rw [bound.base]
    exact begun.binds bound
  have valued := valued_of_numbered numbered
  rw [bound.issued, bound.base, ← fresh.counter, bound.dialect] at valued
  have glyphs : (d.pushAll fragments).conditionSql.glyphs ((d.pushAll fragments).parameters.shown? d.dialect) =
      Fragment.glyphs d.dialect ((d.pushAll fragments).parameters.shown? d.dialect) d.issued (d.counter + 1)
        fragments := by
    have conditions : (d.pushAll fragments).conditions =
        Fragment.numberedAll d.issued (d.counter + 1) fragments := by
      rw [pushAll_eq, fresh.conditions]
      rfl
    rw [conditionSql, Sql.glyphs_concat, conditions, bound.dialect, Fragment.glyphs, List.flatMap_map]
  rw [Lexer.tokens, glyphs]
  exact (legible _ _ _ valued).2

/-- The condition of a draft reads as the tokens of its fragments do. -/
theorem reading?_pushAll {d : Draft} (fresh : d.Fresh) {fragments : List (Fragment Value)}
    (legible : Fragment.Shows Lexer.Lexes d.dialect fragments) :
    (d.pushAll fragments).reading? = Reader.read? (fragments.flatMap (Fragment.tokens d.dialect)) := by
  have dialect : (d.pushAll fragments).dialect = d.dialect := by rw [pushAll_eq]; rfl
  rw [reading?, dialect, tokens_pushAll fresh legible]

/-- An accepted predicate pushes fragments that are legible, and read as a phrase with its
    meaning. -/
theorem reads_of_predicate (dialect : Dialect) {e : Expr} (predicate : e.IsPredicate) {d d' : Draft}
    (accepted : Gives (Draft.predicate e) d () d') :
    ∃ fragments phrase, d' = d.pushAll fragments ∧ fragments ≠ [] ∧
      Fragment.Shows Lexer.Lexes dialect fragments ∧
      Reader.ReadsAs (fragments.flatMap (Fragment.tokens dialect)) phrase ∧
      ∀ S row, phrase.truth S row = e.truth S (dialect.columnsOf row) := by
  obtain ⟨term, resolved, emitted, rfl⟩ := gives_predicate.mp accepted
  obtain ⟨lowered, ofExpr, rfl⟩ := Term.resolve_eq_ok resolved
  obtain ⟨isPredicate, sameLowered⟩ := Expr.truth_ofExpr predicate ofExpr
  obtain ⟨normal, sameNormal⟩ := isPredicate.normalize
  have rules := Term.emits_of_emit lowered.normalize emitted
  obtain ⟨phrase, reads, means⟩ := Term.readsAs_of_emits dialect rules normal
  refine ⟨_, phrase, rfl, rules.ne_nil, Fragment.shows_of_emits dialect rules, reads, fun S row => ?_⟩
  rw [means, sameNormal, sameLowered]

/-- (3) An accepted predicate leaves a condition that is read back, and says of every row
    what the predicate says. -/
theorem condition_means_predicate {dialect : Dialect} {table stem : String} {index : Nat} {e : Expr}
    {d' : Draft} (predicate : e.IsPredicate)
    (accepted : (Draft.predicate e).run (((onTable dialect table).withStem stem).numberedFrom index) =
      (.ok (), d')) :
    ∃ phrase, d'.reading? = some phrase ∧
      ∀ S row, phrase.truth S row = e.truth S (dialect.columnsOf row) := by
  have fresh : (((onTable dialect table).withStem stem).numberedFrom index).Fresh := ⟨rfl, rfl, rfl⟩
  obtain ⟨fragments, phrase, rfl, -, legible, reads, means⟩ := reads_of_predicate dialect predicate accepted
  refine ⟨phrase, (reading?_pushAll fresh legible).trans ?_, means⟩
  exact reads.inside.read?

/-- A test for `NULL`, a value on the left and a negated match, under a negation. -/
theorem condition_means_predicate_nested :
    let users : Entity := ⟨"User", "users", []⟩
    let e : Expr := .not (.binary .or (.binary .equal (.field users "boss") (.constant .null))
      (.binary .and (.binary .less (.constant (.int 18)) (.field users "age"))
        (.not (.like (.field users "name") .startsWith (.constant (.text "a"))))))
    ∃ d' phrase,
      (Draft.predicate e).run (((onTable .mysql "users").withStem "P").numberedFrom 3) = (.ok (), d') ∧
      d'.reading? = some phrase ∧
      ∀ S row, phrase.truth S row = e.truth S (Dialect.mysql.columnsOf row) := by
  intro users e
  have named : TextMatch.ofName? TextMatch.startsWith.name = some .startsWith := by decide +kernel
  have predicate : e.IsPredicate :=
    .not (.or (.withValue rfl rfl rfl) (.and (.mirrored rfl rfl rfl) (.not (.like rfl named rfl))))
  have succeeds : ((Draft.predicate e).run
      (((onTable .mysql "users").withStem "P").numberedFrom 3)).1.isOk = true := by decide +kernel
  obtain ⟨⟨⟩, d', ran⟩ := gives_of_isOk succeeds
  obtain ⟨phrase, read, means⟩ := condition_means_predicate predicate ran
  exact ⟨d', phrase, ran, read, means⟩

end Draft

end Querycraft
