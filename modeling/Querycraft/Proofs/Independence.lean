/-
  Querycraft.Proofs.Independence — the text of a statement does not depend on values.

  Two programs are alike when they have the same steps over the same entities and differ
  only in the values they pass: predicates whose terms have the same shape, lists of the
  same length, records with the same keys. Of a value in a predicate it shows whether it
  is `NULL` and whether it is a truth value, of a match whether it is an equality; the
  rest may differ.

  Proved, for programs with sub-queries nested to any depth: from one beginning they
  succeed or fail together, and give the same statement and the same parameter names
  (`values_never_reach_text`).
-/

import Querycraft.Proofs.Alike
import Querycraft.Proofs.Emission
import Querycraft.Proofs.NormalForm

namespace Querycraft

/-! ## Terms -/

def Value.isBool : Value → Bool
  | .bool _ => true
  | _ => false

theorem Value.eq_null {v : Value} (h : v.isNull = true) : v = .null := by
  cases v with
  | null => rfl
  | _ => cases h

theorem Value.eq_bool {v : Value} (h : v.isBool = true) : ∃ b, v = .bool b := by
  cases v with
  | bool b => exact ⟨b, rfl⟩
  | _ => cases h

/-- All that a condition shows of a value. -/
structure Value.Alike (v w : Value) : Prop where
  null : v.isNull = w.isNull
  bool : v.isBool = w.isBool

namespace Term

inductive Alike : Term → Term → Prop
  | column (c : Column) : Alike (.column c) (.column c)
  | value {v w : Value} : v.Alike w → Alike (.value v) (.value w)
  | operation (op : Operator) {l l' r r' : Term} : Alike l l' → Alike r r' →
      Alike (.operation op l r) (.operation op l' r')
  | not {t t' : Term} : Alike t t' → Alike (.not t) (.not t')
  | like {m m' : TextMatch} (c : Column) (text text' : String) : (m = .equals ↔ m' = .equals) →
      Alike (.like m c text) (.like m' c text')

theorem negate_value {v : Value} (h : v.isBool = false) : negate (.value v) = .not (.value v) := by
  cases v with
  | bool b => cases h
  | _ => rfl

theorem Alike.negate {t t' : Term} (h : Alike t t') : Alike t.negate t'.negate := by
  cases h with
  | column c => exact .not (.column c)
  | operation op l r => exact .not (.operation op l r)
  | not inside => exact inside
  | like c text text' same => exact .not (.like c text text' same)
  | @value v w same =>
    cases bool : v.isBool with
    | false =>
      rw [negate_value bool, negate_value (same.bool ▸ bool)]
      exact .not (.value same)
    | true =>
      obtain ⟨b, rfl⟩ := Value.eq_bool bool
      obtain ⟨b', rfl⟩ := Value.eq_bool (same.bool ▸ bool)
      exact .value ⟨rfl, rfl⟩

theorem Alike.negated? {t t' : Term} (h : Alike t t') :
    (t.negated? = none ∧ t'.negated? = none) ∨
      ∃ u u', t.negated? = some u ∧ t'.negated? = some u' ∧ Alike u u' := by
  cases h with
  | not inside => exact .inr ⟨_, _, rfl, rfl, inside⟩
  | _ => exact .inl ⟨rfl, rfl⟩

theorem Alike.equality (op : Operator) {l l' r r' : Term} (hl : Alike l l') (hr : Alike r r') :
    Alike (equality op l r) (equality op l' r') := by
  rw [equality_eq, equality_eq]
  rcases hl.negated? with ⟨a, a'⟩ | ⟨u, u', a, a', left⟩ <;>
    rcases hr.negated? with ⟨b, b'⟩ | ⟨w, w', b, b', right⟩ <;>
    simp only [a, a', b, b']
  · exact .operation op hl hr
  · exact (Alike.operation op hl right).negate
  · exact (Alike.operation op left hr).negate
  · exact .operation op left right

theorem Alike.normalize {t t' : Term} (h : Alike t t') : Alike t.normalize t'.normalize := by
  induction h with
  | column c => exact .column c
  | value same => exact .value same
  | like c text text' same => exact .like c text text' same
  | not _ ih => exact ih.negate
  | operation op _ _ ihl ihr =>
    simp only [Term.normalize]
    split
    · exact ihl.equality op ihr
    · exact .operation op ihl ihr

end Term

/-! ## Conditions -/

namespace Emission

def blank (e : Emission) : List (Fragment Unit) × Option Error :=
  (e.fragments.map Fragment.blank, e.failure)

theorem blank_append {a a' b b' : Emission} (ha : a.blank = a'.blank) (hb : b.blank = b'.blank) :
    (a ++ b).blank = (a' ++ b').blank := by
  simp only [blank, Prod.mk.injEq] at ha hb
  show (followedBy a b).blank = (followedBy a' b').blank
  unfold followedBy
  rw [← ha.2]
  cases a.failure with
  | some e =>
    simp only [blank, Prod.mk.injEq]
    exact ha
  | none => simp [blank, ha.1, hb.1, hb.2]

theorem blank_grouped {a a' : Emission} (h : a.blank = a'.blank) : (grouped a).blank = (grouped a').blank :=
  blank_append (blank_append rfl h) rfl

theorem blank_between {a a' b b' : Emission} (fragment : Fragment Value) (ha : a.blank = a'.blank)
    (hb : b.blank = b'.blank) :
    (grouped (a ++ one fragment ++ b)).blank = (grouped (a' ++ one fragment ++ b')).blank :=
  blank_grouped (blank_append (blank_append ha rfl) hb)

end Emission

namespace Term

theorem blank_emitPair (c : Column) (op : Operator) {v w : Value} (h : v.Alike w) :
    (emitPair (.withValue c op v)).blank = (emitPair (.withValue c op w)).blank := by
  cases null : v.isNull with
  | false =>
    rw [emitPair_value null, emitPair_value (h.null ▸ null)]
    rfl
  | true =>
    obtain rfl := Value.eq_null null
    obtain rfl := Value.eq_null (h.null ▸ null)
    rfl

/-- Comparisons are one fragment together, and then show the same. -/
theorem Alike.pair? (op : Operator) {l l' r r' : Term} (hl : Alike l l') (hr : Alike r r') :
    (pair? op l r = none ∧ pair? op l' r' = none) ∨
      ∃ p p', pair? op l r = some p ∧ pair? op l' r' = some p' ∧ (emitPair p).blank = (emitPair p').blank := by
  cases hl with
  | column a =>
    cases hr with
    | column b => exact .inr ⟨_, _, rfl, rfl, rfl⟩
    | value same => exact .inr ⟨_, _, rfl, rfl, blank_emitPair a op same⟩
    | _ => exact .inl ⟨rfl, rfl⟩
  | value same =>
    cases hr with
    | column b => exact .inr ⟨_, _, rfl, rfl, blank_emitPair b op.converse same⟩
    | _ => exact .inl ⟨rfl, rfl⟩
  | _ => exact .inl ⟨by cases hr <;> rfl, by cases hr <;> rfl⟩

theorem Alike.isGrouped {t t' : Term} (h : Alike t t') : t.isGrouped = t'.isGrouped := by
  cases h with
  | operation op hl hr =>
    rcases Alike.pair? op hl hr with ⟨a, a'⟩ | ⟨p, p', a, a', -⟩ <;> simp [Term.isGrouped, a, a']
  | _ => rfl

theorem blank_emitLike {m m' : TextMatch} (c : Column) (text text' : String)
    (h : m = .equals ↔ m' = .equals) : (emitLike m c text).blank = (emitLike m' c text').blank := by
  cases m <;> cases m' <;> first | rfl | simp at h

/-- Terms of one shape have conditions that differ only in their values. -/
theorem Alike.blank_emit {t t' : Term} (h : Alike t t') : t.emit.blank = t'.emit.blank := by
  induction h with
  | column c => rfl
  | value same => rfl
  | like c text text' same => exact blank_emitLike c text text' same
  | not inside ih =>
    simp only [emit, inside.isGrouped]
    split
    · exact Emission.blank_append rfl ih
    · exact Emission.blank_append rfl (Emission.blank_grouped ih)
  | operation op hl hr ihl ihr =>
    cases comparison : op.isComparison with
    | true =>
      rw [emit_comparison comparison, emit_comparison comparison]
      rcases Alike.pair? op hl hr with ⟨a, a'⟩ | ⟨p, p', a, a', same⟩
      · simp only [a, a']
        exact Emission.blank_between _ ihl ihr
      · simpa only [a, a'] using same
    | false =>
      cases op with
      | and => exact Emission.blank_between _ ihl ihr
      | or => exact Emission.blank_between _ ihl ihr
      | add | subtract | multiply | divide | modulo => rfl
      | _ => cases comparison

end Term

/-! ## What two programs have in common -/

namespace Expr

def LowersAlike (e e' : Expr) : Prop := Together Term.Alike (Term.ofExpr e) (Term.ofExpr e')

def EvaluatesAlike (e e' : Expr) : Prop := ∃ v v', e.evaluate = .ok v ∧ e'.evaluate = .ok v'

theorem EvaluatesAlike.together {e e' : Expr} (h : e.EvaluatesAlike e') :
    Together (fun _ _ => True) e.evaluate e'.evaluate := by
  obtain ⟨v, v', value, value'⟩ := h
  rw [value, value']
  exact .ok trivial

/-- Assigned alike: values, or the same method of a column with as many arguments. -/
inductive AssignsAlike : Expr → Expr → Prop
  | value {e e' : Expr} : e.EvaluatesAlike e' → AssignsAlike e e'
  | method (receiver : Expr) (method : String) {arguments arguments' : List Expr} :
      List.Forall₂ EvaluatesAlike arguments arguments' →
      AssignsAlike (.invoke receiver method arguments none) (.invoke receiver method arguments' none)

inductive RecordAlike (R : Expr → Expr → Prop) : Expr → Expr → Prop
  | record {entries entries' : List (String × Expr)} :
      List.Forall₂ (fun a b => a.1 = b.1 ∧ R a.2 b.2) entries entries' →
      RecordAlike R (.record entries) (.record entries')
  | other {e e' : Expr} : e.shape ≠ .record → e'.shape ≠ .record → RecordAlike R e e'

end Expr

namespace Step

def isPlain : Step → Bool
  | .select _ | .selectCount _ | .selectFunction .. | .orderBy .. | .groupBy _ | .take _ | .skip _
  | .page .. | .output _ | .insertInto .. => true
  | _ => false

def capturedKeys : Except String Json → Option (List String)
  | .ok (.object members) => some (members.map Prod.fst)
  | _ => none

mutual

/-- Steps that differ only in the values they pass. -/
inductive Alike : Step → Step → Prop
  | plain {s : Step} : s.isPlain = true → Alike s s
  | filter {e e' : Expr} : e.LowersAlike e' → Alike (.filter e) (.filter e')
  | orFilter {e e' : Expr} : e.LowersAlike e' → Alike (.orFilter e) (.orFilter e')
  | filterTemplate (template : String) {arguments arguments' : List Expr} :
      List.Forall₂ Expr.LowersAlike arguments arguments' →
      Alike (.filterTemplate template arguments) (.filterTemplate template arguments')
  | filterIn (key : Expr) (negated : Bool) {members members' : List Value} :
      members.length = members'.length → Alike (.filterIn key negated members) (.filterIn key negated members')
  | filterInQuery (key : Expr) (negated : Bool) (entity : Entity) {program program' : List Step} :
      AlikeAll program program' →
      Alike (.filterInQuery key negated entity program) (.filterInQuery key negated entity program')
  | filterBetween (key : Expr) (negated : Bool) (low high low' high' : Value) :
      Alike (.filterBetween key negated low high) (.filterBetween key negated low' high')
  | orFilterBetween (key : Expr) (low high low' high' : Value) :
      Alike (.orFilterBetween key low high) (.orFilterBetween key low' high')
  | having (function : String) (key : Expr) (op : Operator) (v v' : Value) :
      Alike (.having function key op v) (.having function key op v')
  | join (kind : JoinKind) (entity : Entity) {on on' : Expr} : on.LowersAlike on' →
      Alike (.join kind entity on) (.join kind entity on')
  | values {e e' : Expr} : e.RecordAlike Expr.EvaluatesAlike e' → Alike (.values e) (.values e')
  | value {captured captured' : Except String Json} : capturedKeys captured = capturedKeys captured' →
      Alike (.value captured) (.value captured')
  | set {e e' : Expr} : e.RecordAlike Expr.AssignsAlike e' → Alike (.set e) (.set e')
  | reject (e e' : Error) : Alike (.reject e) (.reject e')

inductive AlikeAll : List Step → List Step → Prop
  | nil : AlikeAll [] []
  | cons {s s' : Step} {rest rest' : List Step} : Alike s s' → AlikeAll rest rest' →
      AlikeAll (s :: rest) (s' :: rest')

end

end Step

/-! ## Operations -/

namespace Draft

open Drafting

theorem predicate_eq (e : Expr) :
    predicate e = (do let term ← given (Term.resolve e); emit term.emit) := by
  unfold predicate
  cases Term.resolve e <;> rfl

theorem alike_emit {a b : Emission} (h : a.blank = b.blank) : Drafting.Alike Eq (emit a) (emit b) := by
  simp only [Emission.blank, Prod.mk.injEq] at h
  refine .bind (.modify fun d d' same => same.pushAll h.1) fun _ _ _ => ?_
  rw [h.2]
  split
  · exact .throw _ _ _
  · exact .pure rfl

theorem alike_predicate {e e' : Expr} (h : e.LowersAlike e') :
    Drafting.Alike Eq (predicate e) (predicate e') := by
  have resolved : Together Term.Alike (Term.resolve e) (Term.resolve e') :=
    Together.map h fun _ _ same => same.normalize
  rw [predicate_eq, predicate_eq]
  exact .bind (alike_given resolved) fun t t' same => alike_emit same.blank_emit

theorem alike_joinedBy (connective : Fragment Value) {d d' : Draft} (h : Draft.Alike d d') :
    Draft.Alike (d.joinedBy connective) (d'.joinedBy connective) := by
  have same : d'.hasConditions = d.hasConditions := by
    rw [h.rest]
    rfl
  unfold joinedBy
  rw [same]
  split
  · exact h.push rfl
  · exact h

theorem alike_conjoined {d d' : Draft} (h : Draft.Alike d d') : Draft.Alike d.conjoined d'.conjoined :=
  alike_joinedBy .conjunction h

theorem alike_disjoined {d d' : Draft} (h : Draft.Alike d d') : Draft.Alike d.disjoined d'.disjoined :=
  alike_joinedBy .disjunction h

theorem alike_keyIn (key : Expr) (negated : Bool) {members members' : List Value}
    (h : members.length = members'.length) :
    Drafting.Alike Eq (keyIn key negated members) (keyIn key negated members') := by
  refine .bind (alike_columnOf key) ?_
  rintro c _ rfl
  refine .modify fun d d' same => same.push ?_
  rw [Fragment.blank, Fragment.blank, Fragment.numbered_inList, Fragment.numbered_inList, h]

theorem alike_keyBetween (key : Expr) (negated : Bool) (low high low' high' : Value) :
    Drafting.Alike Eq (keyBetween key negated low high) (keyBetween key negated low' high') := by
  refine .bind (alike_columnOf key) ?_
  rintro c _ rfl
  exact .modify fun d d' same => same.push rfl

theorem alike_keyInQuery (key : Expr) (negated : Bool) {sub sub' : Draft} (h : Draft.Alike sub sub') :
    Drafting.Alike Eq (keyInQuery key negated sub) (keyInQuery key negated sub') := by
  refine .bind (alike_columnOf key) ?_
  rintro c _ rfl
  unfold inQuery
  rw [h.command]
  split
  · exact .throw _ _ _
  · exact .bind (alike_adopt h) fun _ _ _ => .modify fun d d' same => same.push rfl

theorem alike_joinOn (kind : JoinKind) (table : String) {on on' : Expr} (h : on.LowersAlike on') :
    Drafting.Alike Eq (joinOn kind table on) (joinOn kind table on') := by
  refine .bind (alike_onOffshoot (alike_predicate h)) fun sub sub' drafted => ?_
  refine .bind (alike_adopt drafted) fun _ _ _ => .modify fun d d' same => ?_
  rw [drafted.conditionSql]
  exact same.change (f := fun d =>
    { d with tables := d.tables ++ [table], joins := d.joins ++ [⟨kind, table, sub.conditionSql⟩] })
    fun _ _ => rfl

theorem alike_renderArgument {e e' : Expr} (h : e.LowersAlike e') :
    Drafting.Alike Eq (renderArgument e) (renderArgument e') := by
  refine .get fun d d' same => ?_
  rw [same.table]
  refine Drafting.Alike.bind (alike_onOffshoot (alike_predicate h)) (fun part part' drafted => ?_) d d' same
  exact .bind (alike_adopt drafted) fun _ _ _ => .pure drafted.conditionSql.symm

theorem alike_renderArguments {arguments arguments' : List Expr}
    (h : List.Forall₂ Expr.LowersAlike arguments arguments') :
    Drafting.Alike Eq (renderArguments arguments) (renderArguments arguments') := by
  induction h with
  | nil => exact .pure rfl
  | cons first _ ih =>
    refine .bind (alike_renderArgument first) ?_
    rintro sql _ rfl
    refine .bind ih ?_
    rintro sqls _ rfl
    exact .pure rfl

theorem alike_templated (template : String) {arguments arguments' : List Expr}
    (h : List.Forall₂ Expr.LowersAlike arguments arguments') :
    Drafting.Alike Eq (templated template arguments) (templated template arguments') := by
  simp only [templated, h.length_eq]
  split
  · exact .throw _ _ _
  · refine .bind (alike_renderArguments h) ?_
    rintro rendered _ rfl
    exact .modify fun d d' same => same.push rfl

theorem alike_having (function : String) (key : Expr) (op : Operator) (v v' : Value) :
    Drafting.Alike Eq (having function key op v) (having function key op v') := by
  unfold having
  split
  · exact .throw _ _ _
  · refine .bind (alike_columnOf key) ?_
    rintro c _ rfl
    refine .modify fun d d' same => ⟨?_, ?_⟩
    · rw [same.rest]
      rfl
    · have bound : Draft.Alike (d.bindValues [v]) (d'.bindValues [v']) := same.bindValues rfl
      exact bound.names

/-- Rows over the same columns are refused or taken together. -/
theorem alike_insertRow {row row' : List (String × Value)} (h : row.map Prod.fst = row'.map Prod.fst) :
    Drafting.Alike Eq (insertRow row) (insertRow row') := by
  have count : (row.map Prod.snd).length = (row'.map Prod.snd).length := by
    have := congrArg List.length h
    simpa using this
  have empty : row'.isEmpty = row.isEmpty := by
    simpa using (congrArg List.isEmpty h).symm
  refine .get fun d d' same => ?_
  have rows : d'.rows = d.rows := by rw [same.rest]
  rw [h, empty, rows]
  split
  · exact .error _ _
  · split
    · exact .error _ _
    · simp only [bindAll_eq]
      refine .ok ⟨trivial, ?_, (same.bindValues count).names⟩
      rw [same.rest]
      simp only [bindValues, count]
      rfl

theorem alike_rowOfEntries (entity : Entity) {entries entries' : List (String × Expr)}
    (h : List.Forall₂ (fun a b => a.1 = b.1 ∧ a.2.EvaluatesAlike b.2) entries entries') :
    Together (fun row row' => row.map Prod.fst = row'.map Prod.fst)
      (rowOfEntries entity entries) (rowOfEntries entity entries') := by
  induction h with
  | nil => exact .ok rfl
  | @cons a b rest rest' first _ ih =>
    refine first.2.together.bind fun v v' _ => ih.bind fun row row' others => .ok ?_
    rw [List.map_cons, List.map_cons, first.1, others]

theorem alike_insert (entity : Entity) {e e' : Expr} (h : e.RecordAlike Expr.EvaluatesAlike e') :
    Drafting.Alike Eq (insert entity e) (insert entity e') := by
  cases h with
  | record entries =>
    exact .bind (alike_given (alike_rowOfEntries entity entries)) fun row row' same => alike_insertRow same
  | other no no' =>
    rw [insert_of_no_record no, insert_of_no_record no']
    exact .throw _ _ _

theorem lookup_isSome (members : List (String × Json)) (name : String) :
    (members.lookup name).isSome = (members.map Prod.fst).contains name := by
  induction members with
  | nil => rfl
  | cons entry rest ih =>
    obtain ⟨key, document⟩ := entry
    rw [List.lookup_cons, List.map_cons, List.contains_cons]
    cases same : name == key with
    | true => simp
    | false => simpa using ih

/-- The columns of an object's row come from its keys alone. -/
theorem columns_rowOfMembers (entity : Entity) {members members' : List (String × Json)}
    (h : members.map Prod.fst = members'.map Prod.fst) :
    (rowOfMembers entity members).map Prod.fst = (rowOfMembers entity members').map Prod.fst := by
  unfold rowOfMembers
  split
  · simpa [Function.comp_def] using h
  · rw [List.map_filterMap, List.map_filterMap]
    congr 1
    funext ⟨member, column⟩
    have found : (members.lookup member).isSome = (members'.lookup member).isSome := by
      rw [lookup_isSome, lookup_isSome, h]
    have column_of : ∀ document : Option Json,
        (document.map fun value => (column, Value.ofJson value)).map Prod.fst =
          if document.isSome then some column else none := by
      intro document
      cases document <;> rfl
    simp only [column_of, found]

theorem eq_object_of_capturedKeys {captured : Except String Json} {names : List String}
    (h : Step.capturedKeys captured = some names) :
    ∃ members, captured = .ok (.object members) ∧ members.map Prod.fst = names := by
  unfold Step.capturedKeys at h
  split at h
  · exact ⟨_, rfl, Option.some.inj h⟩
  · cases h

/-- A captured value without keys makes no row. -/
theorem run_value_of_no_keys (entity : Entity) {captured : Except String Json}
    (h : Step.capturedKeys captured = none) : ∃ e, Step.run entity (.value captured) = throw e := by
  cases captured with
  | error reason => exact ⟨_, rfl⟩
  | ok document =>
    refine insertValue_of_no_object entity ?_
    rintro members rfl
    cases h

theorem alike_value (entity : Entity) {captured captured' : Except String Json}
    (h : Step.capturedKeys captured = Step.capturedKeys captured') :
    Drafting.Alike Eq (Step.run entity (.value captured)) (Step.run entity (.value captured')) := by
  cases keys : Step.capturedKeys captured with
  | none =>
    obtain ⟨e, fails⟩ := run_value_of_no_keys entity keys
    obtain ⟨e', fails'⟩ := run_value_of_no_keys entity (h ▸ keys)
    rw [fails, fails']
    exact .throw _ _ _
  | some names =>
    obtain ⟨members, rfl, here⟩ := eq_object_of_capturedKeys keys
    obtain ⟨members', rfl, there⟩ := eq_object_of_capturedKeys (h ▸ keys)
    exact alike_insertRow (columns_rowOfMembers entity (here.trans there.symm))

theorem alike_evaluateAll {arguments arguments' : List Expr}
    (h : List.Forall₂ Expr.EvaluatesAlike arguments arguments') :
    Together (fun vs vs' => vs.length = vs'.length)
      (Expr.evaluateAll arguments) (Expr.evaluateAll arguments') := by
  induction h with
  | nil => exact .ok rfl
  | cons first _ ih =>
    refine first.together.bind fun v v' _ => ih.bind fun vs vs' same => .ok ?_
    rw [List.length_cons, List.length_cons, same]

theorem alike_assignReplaced (column : String) (old new old' new' : Value) :
    Drafting.Alike Eq (modify (assignReplaced column old new)) (modify (assignReplaced column old' new')) := by
  refine .modify fun d d' same => ⟨?_, ?_⟩
  · rw [same.rest]
    rfl
  · have bound : Draft.Alike (d.bindValues [old, new]) (d'.bindValues [old', new']) := same.bindValues rfl
    exact bound.names

theorem alike_assignMethod (receiver : Expr) (method : String) {arguments arguments' : List Expr}
    (h : List.Forall₂ Expr.EvaluatesAlike arguments arguments') :
    Drafting.Alike Eq (assignMethod receiver method arguments) (assignMethod receiver method arguments') := by
  refine .bind (alike_columnOf receiver) ?_
  rintro c _ rfl
  split
  · refine .bind (alike_given (alike_evaluateAll h)) fun vs vs' same => ?_
    match vs, vs', same with
    | [], [], _ => exact .throw _ _ _
    | [_], [_], _ => exact .throw _ _ _
    | [old, new], [old', new'], _ => exact alike_assignReplaced c.name old new old' new'
    | _ :: _ :: _ :: _, _ :: _ :: _ :: _, _ => exact .throw _ _ _
  · exact .throw _ _ _

theorem alike_assignValue (entity : Entity) (member : String) {e e' : Expr}
    (h : Together (fun _ _ => True) e.evaluate e'.evaluate) :
    Drafting.Alike Eq (assignValue entity member e) (assignValue entity member e') := by
  refine .bind (alike_given h) fun v v' _ => .modify fun d d' same => ⟨?_, ?_⟩
  · rw [same.rest]
    rfl
  · have bound : Draft.Alike (d.bindValues [v]) (d'.bindValues [v']) := same.bindValues rfl
    exact bound.names

/-- An expression with a value is no method of a column. -/
theorem assignEntry_of_evaluate {entity : Entity} {member : String} {e : Expr} {v : Value}
    (h : e.evaluate = .ok v) : assignEntry entity member e = assignValue entity member e := by
  unfold assignEntry
  split
  · rw [Expr.evaluate] at h
    cases h
  · rfl

theorem alike_assignEntry (entity : Entity) (member : String) {e e' : Expr} (h : e.AssignsAlike e') :
    Drafting.Alike Eq (assignEntry entity member e) (assignEntry entity member e') := by
  cases h with
  | value same =>
    have ⟨v, v', value, value'⟩ := same
    rw [assignEntry_of_evaluate value, assignEntry_of_evaluate value']
    exact alike_assignValue entity member same.together
  | method receiver method arguments =>
    simp only [assignEntry]
    split
    · exact alike_assignMethod receiver method arguments
    · refine alike_assignValue entity member ?_
      rw [Expr.evaluate, Expr.evaluate]
      exact .error _ _

theorem alike_assignEntries (entity : Entity) {entries entries' : List (String × Expr)}
    (h : List.Forall₂ (fun a b => a.1 = b.1 ∧ a.2.AssignsAlike b.2) entries entries') :
    Drafting.Alike Eq (assignEntries entity entries) (assignEntries entity entries') := by
  induction h with
  | nil => exact .pure rfl
  | @cons a b rest rest' first _ ih =>
    have entry : Drafting.Alike Eq (assignEntry entity a.1 a.2) (assignEntry entity b.1 b.2) :=
      first.1 ▸ alike_assignEntry entity a.1 first.2
    exact .bind entry fun _ _ _ => ih

theorem alike_update (entity : Entity) {e e' : Expr} (h : e.RecordAlike Expr.AssignsAlike e') :
    Drafting.Alike Eq (update entity e) (update entity e') := by
  cases h with
  | record entries => exact alike_assignEntries entity entries
  | other no no' =>
    rw [update_of_no_record no, update_of_no_record no']
    exact .throw _ _ _

/-! ## Steps that pass no value on -/

theorem alike_selectFunctionOf (function : String) (entries : List Projected) :
    Drafting.Alike Eq (selectFunctionOf function entries) (selectFunctionOf function entries) := by
  induction entries with
  | nil => exact .pure rfl
  | cons entry rest ih =>
    cases entry with
    | table t => exact .throw _ _ _
    | column c label => exact .bind (.modify fun d d' same => same.change fun _ _ => rfl) fun _ _ _ => ih

theorem alike_selectFunction (function : String) (e : Expr) :
    Drafting.Alike Eq (selectFunction function e) (selectFunction function e) := by
  refine .bind (alike_projectionOf e) ?_
  rintro entries _ rfl
  exact alike_selectFunctionOf function entries

theorem alike_select (e : Expr) : Drafting.Alike Eq (select e) (select e) := by
  refine .bind (alike_projectionOf e) ?_
  rintro entries _ rfl
  refine .modify fun d d' same => ?_
  simp only [foldl_addSelected]
  exact same.change (f := fun d => { d with selection := d.selection ++ entries.map Projected.selected })
    fun _ _ => rfl

theorem alike_plain (entity : Entity) {s : Step} (h : s.isPlain = true) :
    Drafting.Alike Eq (s.run entity) (s.run entity) := by
  cases s with
  | select e => exact alike_select e
  | selectCount key =>
    refine .bind (.modify fun d d' same => ?_) fun _ _ _ => alike_selectFunction _ key
    exact same.change (f := (withOperation · .count)) fun _ _ => rfl
  | selectFunction function e => exact alike_selectFunction function e
  | orderBy key descending =>
    refine .bind (alike_columnOf key) ?_
    rintro c _ rfl
    exact .modify fun d d' same => same.change fun _ _ => rfl
  | groupBy key =>
    refine .bind (alike_columnOf key) ?_
    rintro c _ rfl
    exact .modify fun d d' same => same.change fun _ _ => rfl
  | take size => exact .modify fun d d' same => same.change fun _ _ => rfl
  | skip offset => exact .modify fun d d' same => same.change fun _ _ => rfl
  | page index size => exact .modify fun d d' same => same.change fun _ _ => rfl
  | output e =>
    refine .bind (alike_given (.refl _ fun _ => rfl)) ?_
    rintro columns _ rfl
    exact .modify fun d d' same => same.change fun _ _ => rfl
  | insertInto target e =>
    refine .bind (alike_projectionOf e) ?_
    rintro projection _ rfl
    exact .modify fun d d' same => same.change fun _ _ => rfl
  | _ => cases h

end Draft

/-! ## Programs -/

namespace Step

open Draft

mutual

/-- Steps that differ only in values do the same to drafts that differ only in values. -/
theorem run_alike (entity : Entity) {s s' : Step} (h : Alike s s') :
    Drafting.Alike Eq (run entity s) (run entity s') := by
  cases h with
  | plain none => exact alike_plain entity none
  | filter same =>
    exact .bind (.modify fun _ _ => alike_conjoined) fun _ _ _ => alike_predicate same
  | orFilter same =>
    exact .bind (.modify fun _ _ => alike_disjoined) fun _ _ _ => alike_predicate same
  | filterTemplate template same =>
    exact .bind (.modify fun _ _ => alike_conjoined) fun _ _ _ => alike_templated template same
  | filterIn key negated count =>
    exact .bind (.modify fun _ _ => alike_conjoined) fun _ _ _ => alike_keyIn key negated count
  | filterInQuery key negated other inner =>
    refine .bind (.modify fun _ _ => alike_conjoined) fun _ _ _ => ?_
    exact .bind (alike_onOffshoot (runAll_alike other inner)) fun _ _ same => alike_keyInQuery key negated same
  | filterBetween key negated low high low' high' =>
    exact .bind (.modify fun _ _ => alike_conjoined) fun _ _ _ => alike_keyBetween key negated _ _ _ _
  | orFilterBetween key low high low' high' =>
    exact .bind (.modify fun _ _ => alike_disjoined) fun _ _ _ => alike_keyBetween key false _ _ _ _
  | having function key op v v' => exact alike_having function key op v v'
  | join kind other same => exact alike_joinOn kind other.table same
  | values same => exact alike_insert entity same
  | value same => exact alike_value entity same
  | set same => exact alike_update entity same
  | reject e e' => exact .throw _ _ _

theorem runAll_alike (entity : Entity) {program program' : List Step} (h : AlikeAll program program') :
    Drafting.Alike Eq (runAll entity program) (runAll entity program') := by
  cases h with
  | nil => exact .pure rfl
  | cons first rest => exact .bind (run_alike entity first) fun _ _ _ => runAll_alike entity rest

end

end Step

namespace Query

theorem run_eq_outcome (q : Query) (program : List Step) :
    q.run program = ((Step.runAll q.entity program).outcome q.draft).map fun p => ⟨q.entity, p.2⟩ := by
  induction program generalizing q with
  | nil => rfl
  | cons s rest ih =>
    rw [Step.runAll, Drafting.outcome_bind]
    simp only [Query.run, Query.step, Drafting.outcome]
    rcases (s.run q.entity).run q.draft with ⟨u | e, d⟩
    · rfl
    · exact ih ⟨q.entity, d⟩

/-- Programs that differ only in the values they pass succeed or fail together; their
    statements are the same text, with parameters of the same names. -/
theorem values_never_reach_text (context : Context) (entity : Entity) (operation : Operation) (start : Nat)
    {program program' : List Step} (h : Step.AlikeAll program program') :
    Together
      (fun q q' => q.draft.commandText = q'.draft.commandText ∧
        q.draft.parameters.names = q'.draft.parameters.names)
      (do (← Query.start context entity operation start).run program)
      (do (← Query.start context entity operation start).run program') := by
  refine Together.bind (.refl (R := Eq) _ fun _ => rfl) ?_
  rintro begun _ rfl
  rw [run_eq_outcome, run_eq_outcome]
  refine Together.map (Step.runAll_alike begun.entity h begun.draft begun.draft (.refl _)) ?_
  rintro ⟨_, d⟩ ⟨_, d'⟩ ⟨-, same⟩
  exact ⟨by rw [Draft.commandText, Draft.commandText, same.command], same.names.symm⟩

/-- A text that would end a literal reaches the parameters only. -/
theorem values_never_reach_text_quote :
    let users : Entity := ⟨"User", "users", []⟩
    let run (name : String) (ids : List Value) : Except Error Query := do
      (← Query.start ⟨some .postgres, "P"⟩ users .select 0).run
        [.filter (.binary .equal (.field users "name") (.constant (.text name))),
         .filterInQuery (.field users "id") false users [.filterIn (.field users "id") true ids]]
    ∃ q q', run "ann" [.int 1, .int 2] = .ok q ∧ run "x' OR '1'='1" [.null, .text "); --"] = .ok q' ∧
      q.draft.commandText = q'.draft.commandText ∧
      q.draft.parameters.names = q'.draft.parameters.names := by
  intro users run
  refine Together.of_isOk (values_never_reach_text ⟨some .postgres, "P"⟩ users .select 0 ?_) (by decide +kernel)
  refine .cons (.filter (.ok (.operation .equal (.column _) (.value ⟨rfl, rfl⟩)))) (.cons ?_ .nil)
  exact .filterInQuery _ _ _ (.cons (.filterIn _ _ rfl) .nil)

end Query

end Querycraft
