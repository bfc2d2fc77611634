/-
  Querycraft.Proofs.Unambiguity — which conditions have one meaning.

  Two terms whose conditions read alike and hold the same parameters have the same tokens
  (`tokens_eq_of_text`), and so the same phrase if one of them has no chain; they say the
  same of every row (`verdict_eq_of_text`).

  With a chain they may not. A column compared with a comparison that has no parentheses
  of its own, `a < (b < c)`, is written as `(a < b) < c` is, `(a < b < c)`, and a server
  reads it as one of the two (`another_reading_of_chains`); where truth values are
  numbers, the two differ (`a_comparison_chain_says_two_things`).
-/

import Querycraft.Proofs.Marking
import Querycraft.Proofs.NormalForm
import Querycraft.Proofs.Usage

namespace Querycraft

namespace Draft

open Drafting

/-! ## Conditions that read alike -/

theorem head?_issued (d : Draft) (i : Nat) : (d.issued i).text.toList.head? = some d.dialect.marker := by
  show (d.dialect.parameter (d.parameterName i) (i - d.base)).toList.head? = _
  cases d.dialect <;> simp [Dialect.parameter, Dialect.marker]

theorem signs_pushAll {d : Draft} (fresh : d.Fresh) (fragments : List (Fragment Value)) :
    (d.pushAll fragments).conditionSql.signs = Fragment.signs d.dialect d.issued (d.counter + 1) fragments := by
  have pushed := pushAll_eq d fragments
  rw [fresh.conditions, List.nil_append] at pushed
  rw [pushed, conditionSql, Sql.signs_concat, List.flatMap_map]
  rfl

/-- The placeholders that a fresh draft issues are those of its parameters. -/
theorem upcoming_eq_placeholders {values : List Value} {d d' : Draft} (fresh : d.Fresh) (bound : Binds values d d') :
    d.upcoming values.length = d'.parameters.placeholders d.dialect 0 := by
  have begun : d.Numbered d.counter [] := ⟨rfl, fresh.parameters⟩
  have names : d'.parameters.names =
      (List.range values.length).map fun k => d.parameterName (d.counter + 1 + k) := by
    rw [(begun.binds bound).names, List.nil_append, List.range'_eq_map_range, List.map_map]
    simp only [Function.comp_def, parameterName, bound.stem]
  rw [Query.placeholders_of_range d.dialect _ _ names, upcoming, List.range'_eq_map_range, List.map_map]
  refine List.map_congr_left fun k _ => ?_
  show d.dialect.placeholder _ (d.counter + 1 + k - d.base) = _
  rw [fresh.counter, show d.base + 1 + k - d.base = k + 1 by omega]

section Alike

variable {t u : Term} {d e d' e' : Draft}

theorem slots_of_emit (fresh : d.Fresh) (h : Gives (emit t.emit) d () d') :
    d'.conditionSql.slots = d'.parameters.placeholders d.dialect 0 := by
  obtain ⟨emitted, rfl⟩ := gives_emit.mp h
  have rules := Term.emits_of_emit t emitted
  obtain ⟨new, written, -, slots⟩ := writes_pushAll (d := d) rules.isPlain
  have bound := (writes_pushAll (d := d) rules.isPlain).adds.toBinds
  rw [slots_conditionSql, ← upcoming_eq_placeholders fresh bound, ← slots, written, fresh.conditions]
  rfl

theorem marked_of_emit (fresh : d.Fresh) (plain : ∀ c ∈ t.columns, c.isPlain = true)
    (h : Gives (emit t.emit) d () d') : Marked d.dialect.marker false d'.conditionSql.signs := by
  obtain ⟨emitted, rfl⟩ := gives_emit.mp h
  have begins := Fragment.begins_of_emits d.head?_issued (Term.emits_of_emit t emitted) plain
  have marked := begins (d.counter + 1) [] fun named => .nil named
  rwa [List.append_nil, ← signs_pushAll fresh] at marked

theorem tokens_of_emit (fresh : d.Fresh) (h : Gives (emit t.emit) d () d') :
    Lexer.tokens d.dialect.quoting (d'.conditionSql.glyphs (d'.parameters.shown? d.dialect)) =
      t.emit.fragments.flatMap (Fragment.tokens d.dialect) := by
  obtain ⟨emitted, rfl⟩ := gives_emit.mp h
  exact tokens_pushAll fresh (Fragment.shows_of_emits d.dialect (Term.emits_of_emit t emitted))

/-- Conditions over plain columns that read alike and hold the same parameters have the
    same tokens. -/
theorem tokens_eq_of_text (fresh : d.Fresh) (fresh' : e.Fresh) (dialect : e.dialect = d.dialect)
    (plain : ∀ c ∈ t.columns ++ u.columns, c.isPlain = true) (ht : Gives (emit t.emit) d () d')
    (hu : Gives (emit u.emit) e () e') (text : d'.conditionText = e'.conditionText)
    (parameters : d'.parameters = e'.parameters) :
    t.emit.fragments.flatMap (Fragment.tokens d.dialect) = u.emit.fragments.flatMap (Fragment.tokens d.dialect) := by
  have first := marked_of_emit fresh (fun c member => plain c (List.mem_append_left _ member)) ht
  have second := marked_of_emit fresh' (fun c member => plain c (List.mem_append_right _ member)) hu
  rw [dialect] at second
  have texts := congrArg String.toList text
  rw [conditionText, conditionText, Sql.toList_toText, Sql.toList_toText] at texts
  have slots : d'.conditionSql.slots = e'.conditionSql.slots := by
    rw [slots_of_emit fresh ht, slots_of_emit fresh' hu, parameters, dialect]
  rw [Sql.slots_eq_signs, Sql.slots_eq_signs] at slots
  have signs := first.unique second texts slots
  rw [← tokens_of_emit fresh ht, ← dialect, ← tokens_of_emit fresh' hu, Sql.glyphs_eq_signs, Sql.glyphs_eq_signs,
    signs, parameters]

/-- Of two terms over plain columns with the same condition, the first without chains, both
    say the same of every row. -/
theorem verdict_eq_of_text (unchained : t.chained = false) (fresh : d.Fresh) (fresh' : e.Fresh)
    (dialect : e.dialect = d.dialect) (plain : ∀ c ∈ t.columns ++ u.columns, c.isPlain = true)
    (ht : Gives (emit t.emit) d () d') (hu : Gives (emit u.emit) e () e') (text : d'.conditionText = e'.conditionText)
    (parameters : d'.parameters = e'.parameters) (S : Semantics) (row : Column → Value) :
    t.verdict S row = u.verdict S row := by
  have rules := Term.emits_of_emit t (gives_emit.mp ht).1
  have rules' := Term.emits_of_emit u (gives_emit.mp hu).1
  have tokens := tokens_eq_of_text fresh fresh' dialect plain ht hu text parameters
  have written := Term.written_of_emits d.dialect rules'
  rw [← tokens] at written
  have phrases : t.phrase d.dialect = u.phrase d.dialect :=
    (Term.written_of_emits d.dialect rules).unique written (Term.unchained_phrase d.dialect rules unchained)
  obtain ⟨spelled, agrees⟩ := d.dialect.exists_columnsOf row
  have left : t.eval S (d.dialect.columnsOf spelled) = t.eval S row :=
    Term.eval_congr fun c member => agrees c (plain c (List.mem_append_left _ member))
  have right : u.eval S (d.dialect.columnsOf spelled) = u.eval S row :=
    Term.eval_congr fun c member => agrees c (plain c (List.mem_append_right _ member))
  rw [Term.verdict, Term.verdict, ← left, ← right, ← Term.eval_phrase, ← Term.eval_phrase, phrases]

end Alike

end Draft

/-! ## Chains say two things -/

/-- A server to which comparisons hold of truth values, whatever they are compared with,
    and of nothing else. -/
def Semantics.truthsFirst : Semantics where
  compares _ first _ :=
    match first with
    | .bool _ => .yes
    | _ => .no
  fits _ _ := .unknown
  holds _ := .unknown

namespace Term

/-- `a op (b op' last)` -/
def chainRight (a : Column) (op : Operator) (b : Column) (op' : Operator) (last : Term) : Term :=
  .operation op (.column a) (.operation op' (.column b) last)

/-- `(a op b) op' last` -/
def chainLeft (a : Column) (op : Operator) (b : Column) (op' : Operator) (last : Term) : Term :=
  .operation op' (.operation op (.column a) (.column b)) last

/-- A comparison of normal terms that are no negations is normal. -/
theorem normalize_operation {op : Operator} {l r : Term} (left : l.normalize = l) (right : r.normalize = r)
    (hl : l.negated? = none) (hr : r.negated? = none) : (Term.operation op l r).normalize = .operation op l r := by
  have normalLeft := isNormal_normalize l
  have normalRight := isNormal_normalize r
  rw [left] at normalLeft
  rw [right] at normalRight
  exact (normalLeft.operation op normalRight hl hr).normalize_eq

theorem normalize_of_isOperand {t : Term} (h : t.isOperand = true) : t.normalize = t ∧ t.negated? = none := by
  cases t with
  | column c => exact ⟨rfl, rfl⟩
  | value v => exact ⟨rfl, rfl⟩
  | _ => cases h

structure Same (t u : Term) : Prop where
  emit : t.emit = u.emit
  columns : t.columns = u.columns
  eval : ∀ S row, t.eval S row = u.eval S row

/-- A comparison without parentheses, with its column on the left. -/
theorem same_of_isBare {t : Term} (h : t.isBare = true) : t.normalize = t ∧ t.negated? = none ∧
    ∃ c op last, op.isComparison = true ∧ last.isOperand = true ∧ Same t (.operation op (.column c) last) := by
  cases t with
  | like m c text =>
    obtain rfl : m = .equals := by simpa [isBare] using h
    exact ⟨rfl, rfl, c, .equal, .value (.text text), rfl, rfl, rfl, rfl, fun _ _ => rfl⟩
  | operation op l r =>
    cases found : pair? op l r with
    | none => simp [isBare, found] at h
    | some pair =>
      rcases pair?_cases found with ⟨c, v, rfl, rfl, rfl⟩ | ⟨v, c, rfl, rfl, rfl⟩ | ⟨a, b, rfl, rfl, rfl⟩
      · simp only [isBare, found, Bool.and_eq_true] at h
        exact ⟨normalize_operation rfl rfl rfl rfl, rfl, c, op, .value v, h.1, h.2, rfl, rfl, fun _ _ => rfl⟩
      · simp only [isBare, found, Bool.and_eq_true] at h
        have converse := isComparison_of_pair found h.1
        refine ⟨normalize_operation rfl rfl rfl rfl, rfl, c, op.converse, .value v, converse, h.2, ?_, rfl,
          fun S row => ?_⟩
        · rw [emit_comparison h.1, emit_comparison converse]
          rfl
        · rw [eval_operation (isLogical_of_isComparison h.1), eval_operation (isLogical_of_isComparison converse)]
          rfl
      · simp only [isBare, found] at h
        exact ⟨normalize_operation rfl rfl rfl rfl, rfl, a, op, .column b, h, rfl, rfl, rfl, fun _ _ => rfl⟩
  | _ => cases h

/-- A column compared with a term that is none, and no value either. -/
theorem Same.compared {op : Operator} {t u : Term} (h : Same t u) (comparison : op.isComparison = true) (c : Column)
    (ht : pair? op (.column c) t = none) (hu : pair? op (.column c) u = none) :
    Same (.operation op (.column c) t) (.operation op (.column c) u) := by
  have logical := isLogical_of_isComparison comparison
  refine ⟨?_, ?_, fun S row => ?_⟩
  · rw [emit_comparison comparison, emit_comparison comparison, ht, hu, h.emit]
  · simp only [Term.columns, h.columns]
  · rw [eval_operation logical, eval_operation logical, ht, hu, h.eval]

theorem pair?_of_isBare {t : Term} (h : t.isBare = true) (op : Operator) (c : Column) :
    pair? op (.column c) t = none := by
  cases t with
  | like m c text => rfl
  | operation op l r => rfl
  | _ => cases h

section Chains

variable {op op' : Operator} {last : Term} (a b : Column)

theorem normalize_chains (operand : last.isOperand = true) :
    (chainRight a op b op' last).normalize = chainRight a op b op' last ∧
      (chainLeft a op b op' last).normalize = chainLeft a op b op' last := by
  obtain ⟨normal, bare⟩ := normalize_of_isOperand operand
  have second : (Term.operation op' (.column b) last).normalize = .operation op' (.column b) last :=
    normalize_operation rfl normal rfl bare
  have first : (Term.operation op (.column a) (.column b)).normalize = .operation op (.column a) (.column b) :=
    normalize_operation rfl rfl rfl rfl
  exact ⟨normalize_operation rfl second rfl rfl, normalize_operation first normal rfl bare⟩

/-- Both groupings of a chain are written the same. -/
theorem emit_chains (h : op.isComparison = true) (h' : op'.isComparison = true) (operand : last.isOperand = true) :
    ∃ pair tail : Fragment Value,
      (chainRight a op b op' last).emit = ⟨[.opening, .column a, .operator op, pair, .closing], none⟩ ∧
      (chainLeft a op b op' last).emit = ⟨[.opening, .compareColumns a op b, .operator op', tail, .closing], none⟩ ∧
      pair.operands = tail.operands ∧
      ∀ dialect issue i, (pair.numbered issue i).sql dialect =
        Fragment.columnText dialect b ++ Sql.text (" " ++ op'.symbol ++ " ") ++
          (tail.numbered issue i).sql dialect := by
  cases last with
  | column c =>
    refine ⟨.compareColumns b op' c, .column c, ?_, ?_, rfl, fun _ _ _ => rfl⟩
    · rw [chainRight, emit_comparison h]
      simp only [pair?, emit_comparison h']
      rfl
    · rw [chainLeft, emit_comparison h']
      simp only [pair?, emit_comparison h]
      rfl
  | value v =>
    have there : v.isNull = false := by simpa [isOperand] using operand
    refine ⟨.compare b op' v, .operand v, ?_, ?_, rfl, fun _ _ _ => rfl⟩
    · rw [chainRight, emit_comparison h]
      simp only [pair?, emit_comparison h', emitPair_value there]
      rfl
    · rw [chainLeft, emit_comparison h']
      simp only [pair?, emit_comparison h]
      rfl
  | _ => cases operand

theorem verdict_chains (h : op.isComparison = true) (h' : op'.isComparison = true) (operand : last.isOperand = true) :
    (chainRight a op b op' last).verdict .truthsFirst (fun _ => .int 0) = .no ∧
      (chainLeft a op b op' last).verdict .truthsFirst (fun _ => .int 0) = .yes := by
  have logical := isLogical_of_isComparison h
  have logical' := isLogical_of_isComparison h'
  rw [verdict, verdict, chainRight, chainLeft, eval_operation logical, eval_operation logical']
  cases last with
  | column c =>
    simp only [pair?, eval_operation logical, eval_operation logical']
    exact ⟨rfl, rfl⟩
  | value v =>
    have there : v.isNull = false := by simpa [isOperand] using operand
    have compared (op : Operator) {first : Value} (h : first.isNull = false) :
        Semantics.truthsFirst.compare op first v = Semantics.truthsFirst.compares op first v := by
      simp [Semantics.compare, h, there]
    simp only [pair?, eval_operation logical, eval_operation logical', Semantics.truthsFirst.test_of_value _ there]
    constructor
    · rw [compared op' rfl]
      rfl
    · show Semantics.truthOf .truthsFirst (Semantics.truthsFirst.compare op' (.bool false) v).toValue = .yes
      rw [compared op' rfl]
      rfl
  | _ => cases operand

end Chains

end Term

namespace Draft

open Drafting

theorem conditionSql_pushAll (d : Draft) (fragments : List (Fragment Value)) :
    (d.pushAll fragments).conditionSql = d.conditionSql ++ Sql.concat
      ((Fragment.numberedAll d.issued (d.counter + 1) fragments).map (Fragment.sql d.dialect)) := by
  rw [pushAll_eq, conditionSql]
  simp only [bindValues, List.map_append, Sql.concat, List.flatMap_append]
  rfl

/-- Both groupings of a chain leave the same text and the same parameters. -/
theorem chains_read_alike {op op' : Operator} {last : Term} (h : op.isComparison = true) (h' : op'.isComparison = true)
    (operand : last.isOperand = true) (a b : Column) (d : Draft) :
    ∃ right left, Gives (emit (Term.chainRight a op b op' last).emit) d () right ∧
      Gives (emit (Term.chainLeft a op b op' last).emit) d () left ∧
      right.conditionText = left.conditionText ∧ right.parameters = left.parameters := by
  obtain ⟨pair, tail, first, second, operands, sql⟩ := Term.emit_chains a b h h' operand
  refine ⟨_, _, gives_emit.mpr ⟨by rw [first], rfl⟩, gives_emit.mpr ⟨by rw [second], rfl⟩, ?_, ?_⟩
  · rw [first, second, conditionText, conditionText, conditionSql_pushAll, conditionSql_pushAll]
    have pieces (x y : Sql) : (x ++ y).pieces = x.pieces ++ y.pieces := rfl
    have same : Sql.concat [Sql.text "(", Fragment.columnText d.dialect a, Sql.text (" " ++ op.symbol ++ " "),
          (pair.numbered d.issued (d.counter + 1)).sql d.dialect, Sql.text ")"] =
        Sql.concat [Sql.text "(", Fragment.columnText d.dialect a ++ Sql.text (" " ++ op.symbol ++ " ")
          ++ Fragment.columnText d.dialect b, Sql.text (" " ++ op'.symbol ++ " "),
          (tail.numbered d.issued (d.counter + 1)).sql d.dialect, Sql.text ")"] := by
      simp only [Sql.concat, sql, List.flatMap_cons, List.flatMap_nil, pieces, List.append_assoc]
    exact congrArg (fun text => (d.conditionSql ++ text).toText) same
  · rw [first, second, pushAll_eq, pushAll_eq]
    have same : pair.operands ++ [] = tail.operands ++ [] := by rw [operands]
    exact congrArg (fun values => (d.bindValues values).parameters) same

/-- A comparison that chains has the text and the parameters of another, which groups its
    operands the other way and means something else. -/
theorem another_reading_of_chains {op : Operator} {l r : Term} (h : op.isComparison = true)
    (chain : Term.chains l r = true) :
    (Term.operation op l r).normalize = .operation op l r ∧
    ∃ u : Term, u.normalize = u ∧ u.columns = (Term.operation op l r).columns ∧
      (∀ d, ∃ d' e', Gives (emit (Term.operation op l r).emit) d () d' ∧ Gives (emit u.emit) d () e' ∧
        d'.conditionText = e'.conditionText ∧ d'.parameters = e'.parameters) ∧
      ∃ S row, (Term.operation op l r).verdict S row ≠ u.verdict S row := by
  simp only [Term.chains, Bool.or_eq_true, Bool.and_eq_true] at chain
  rcases chain with ⟨column, bare⟩ | ⟨columns, operand⟩
  · obtain ⟨a, rfl⟩ : ∃ a, l = .column a := by
      cases l with
      | column a => exact ⟨a, rfl⟩
      | _ => cases column
    obtain ⟨normal, positive, b, op', last, h', operand, same⟩ := Term.same_of_isBare bare
    have whole : Term.Same (.operation op (.column a) r) (Term.chainRight a op b op' last) :=
      same.compared h a (Term.pair?_of_isBare bare op a) rfl
    refine ⟨Term.normalize_operation rfl normal rfl positive, Term.chainLeft a op b op' last,
      (Term.normalize_chains a b operand).2, ?_, fun d => ?_, .truthsFirst, fun _ => .int 0, ?_⟩
    · rw [whole.columns]
      simp [Term.chainLeft, Term.chainRight, Term.columns]
    · rw [whole.emit]
      exact chains_read_alike h h' operand a b d
    · rw [Term.verdict, whole.eval, ← Term.verdict, (Term.verdict_chains a b h h' operand).1,
        (Term.verdict_chains a b h h' operand).2]
      decide
  · obtain ⟨op', a, b, h', rfl⟩ : ∃ op' a b, op'.isComparison = true ∧ l = .operation op' (.column a) (.column b) := by
      unfold Term.comparesColumns at columns
      split at columns
      · exact ⟨_, _, _, columns, rfl⟩
      · cases columns
    refine ⟨(Term.normalize_chains a b operand).2, Term.chainRight a op' b op r,
      (Term.normalize_chains a b operand).1, ?_, fun d => ?_, .truthsFirst, fun _ => .int 0, ?_⟩
    · simp [Term.chainRight, Term.columns]
    · obtain ⟨right, left, acceptedRight, acceptedLeft, text, parameters⟩ := chains_read_alike h' h operand a b d
      exact ⟨left, right, acceptedLeft, acceptedRight, text.symm, parameters.symm⟩
    · have verdicts := Term.verdict_chains a b h' h operand
      rw [verdicts.1]
      show Term.verdict _ _ (Term.chainLeft a op' b op r) ≠ _
      rw [verdicts.2]
      decide

/-- A term without chains says the same of every row as any other term with its condition,
    over plain columns: one that reads alike and holds the same parameters. A comparison
    that chains shares its text and its parameters with one that says something else. -/
theorem condition_determines_verdict (t : Term) :
    (t.chained = false → ∀ {u : Term} {d e d' e' : Draft}, (∀ c ∈ t.columns ++ u.columns, c.isPlain = true) →
      d.Fresh → e.Fresh → e.dialect = d.dialect → Gives (emit t.emit) d () d' → Gives (emit u.emit) e () e' →
      d'.conditionText = e'.conditionText → d'.parameters = e'.parameters →
      ∀ S row, t.verdict S row = u.verdict S row) ∧
    (∀ op l r, t = .operation op l r → op.isComparison = true → Term.chains l r = true →
      t.normalize = t ∧ ∃ u : Term, u.normalize = u ∧ u.columns = t.columns ∧
        (∀ d, ∃ d' e', Gives (emit t.emit) d () d' ∧ Gives (emit u.emit) d () e' ∧
          d'.conditionText = e'.conditionText ∧ d'.parameters = e'.parameters) ∧
        ∃ S row, t.verdict S row ≠ u.verdict S row) := by
  constructor
  · intro unchained u d e d' e' plain fresh fresh' dialect ht hu text parameters
    exact verdict_eq_of_text unchained fresh fresh' dialect plain ht hu text parameters
  · rintro op l r rfl comparison chain
    exact another_reading_of_chains comparison chain

theorem condition_determines_verdict_of_text_match :
    (∃ (t u : Term) (d : Draft), t ≠ u ∧ t.chained = false ∧ (∀ c ∈ t.columns ++ u.columns, c.isPlain = true) ∧
      (onTable .sqlite "Users").Fresh ∧ Gives (emit t.emit) (onTable .sqlite "Users") () d ∧
      Gives (emit u.emit) (onTable .sqlite "Users") () d ∧ ∀ S row, t.verdict S row = u.verdict S row) ∧
    ∃ t u : Term, u.columns = t.columns ∧
      (∀ d, ∃ d' e', Gives (emit t.emit) d () d' ∧ Gives (emit u.emit) d () e' ∧
        d'.conditionText = e'.conditionText ∧ d'.parameters = e'.parameters) ∧
      ∃ S row, t.verdict S row ≠ u.verdict S row := by
  have fresh : (onTable .sqlite "Users").Fresh := ⟨rfl, rfl, rfl⟩
  constructor
  · let matched : Term := .not (.operation .equal (.like .equals ⟨"Users", "Role"⟩ "x") (.value (.int 3)))
    let compared : Term :=
      .not (.operation .equal (.operation .equal (.column ⟨"Users", "Role"⟩) (.value (.text "x"))) (.value (.int 3)))
    have plain : ∀ c ∈ matched.columns ++ compared.columns, c.isPlain = true := by decide +kernel
    have first : Gives (emit matched.emit) (onTable .sqlite "Users") () _ := gives_emit.mpr ⟨rfl, rfl⟩
    have second : Gives (emit compared.emit) (onTable .sqlite "Users") () _ := gives_emit.mpr ⟨rfl, rfl⟩
    have different : matched ≠ compared := by simp [matched, compared]
    exact ⟨matched, compared, _, different, rfl, plain, fresh, first, second,
      (condition_determines_verdict matched).1 rfl plain fresh fresh rfl first second rfl rfl⟩
  · have chain : Term.chains (.column ⟨"Users", "Id"⟩) (.like .equals ⟨"Users", "Role"⟩ "x") = true := rfl
    obtain ⟨-, u, -, columns, alike, differ⟩ := (condition_determines_verdict _).2 .less _ _ rfl rfl chain
    exact ⟨_, u, columns, alike, differ⟩

end Draft

/-! ## Truth values as numbers -/

def Value.number? : Value → Option Int64
  | .int i => some i
  | .bool b => some (if b then 1 else 0)
  | _ => none

def Operator.relates (op : Operator) (a b : Int64) : Bool :=
  match op with
  | .equal => a == b
  | .notEqual => a != b
  | .greater => a > b
  | .greaterOrEqual => a ≥ b
  | .less => a < b
  | .lessOrEqual => a ≤ b
  | _ => false

/-- A server that compares numbers, truth values among them. -/
def Semantics.numeric : Semantics where
  compares op a b :=
    match a.number?, b.number? with
    | some m, some n => .ofBool (op.relates m n)
    | _, _ => .unknown
  fits _ _ := .unknown
  holds v :=
    match v.number? with
    | some n => .ofBool (n != 0)
    | none => .unknown

/-- `Id < (Role < Email)` and `(Id < Role) < Email` are written the same. Where truth values
    are numbers, a row with 5, 1 and 1 is let through by the second only. -/
theorem Draft.a_comparison_chain_says_two_things :
    let right := Term.chainRight ⟨"Users", "Id"⟩ .less ⟨"Users", "Role"⟩ .less (.column ⟨"Users", "Email"⟩)
    let left := Term.chainLeft ⟨"Users", "Id"⟩ .less ⟨"Users", "Role"⟩ .less (.column ⟨"Users", "Email"⟩)
    let row : Column → Value := fun c => if c.name = "Id" then .int 5 else .int 1
    right.normalize = right ∧ left.normalize = left ∧ (∀ c ∈ right.columns ++ left.columns, c.isPlain = true) ∧
    (∃ d d' e', d.Fresh ∧ Drafting.Gives (emit right.emit) d () d' ∧ Drafting.Gives (emit left.emit) d () e' ∧
      d'.conditionText = e'.conditionText ∧ d'.parameters = e'.parameters) ∧
    right.verdict .numeric row = .no ∧ left.verdict .numeric row = .yes := by
  intro right left row
  have normal : right.normalize = right ∧ left.normalize = left := Term.normalize_chains _ _ rfl
  obtain ⟨d', e', first, second, alike⟩ : ∃ d' e',
      Drafting.Gives (emit right.emit) (onTable .sqlite "Users") () d' ∧
      Drafting.Gives (emit left.emit) (onTable .sqlite "Users") () e' ∧
      d'.conditionText = e'.conditionText ∧ d'.parameters = e'.parameters := chains_read_alike rfl rfl rfl _ _ _
  exact ⟨normal.1, normal.2, by decide +kernel, ⟨_, d', e', ⟨rfl, rfl, rfl⟩, first, second, alike⟩,
    by decide +kernel, by decide +kernel⟩

end Querycraft
