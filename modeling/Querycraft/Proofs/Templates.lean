/-
  Querycraft.Proofs.Templates — what a template becomes.

  A place of a template is an at sign with the longest run of digits behind it. A template
  is gone through twice: once to see that every place names an argument, and once, after
  the arguments have been rendered, to fill the places. `Occurs` says where places are
  without going through the text, and `Filled` says what filling them gives: each place
  its argument's text, everything else as it stands, and no look at a text that was put in.

  Arguments are rendered on drafts of their own, each of which goes on numbering where the
  one before it ended (`Rendered`). Proved, for a draft that is numbered without a gap:
  (1) the parts of a template are its places and the characters between them (`cut_parse`,
      `Cut.mem_iff`), and filling its parts fills the template (`Cut.filled`);
  (2) rendering the arguments fails only if one of them is no predicate, and appends the
      parameters of all of them (`gives_renderArguments_iff`);
  (3) so a template is accepted exactly if every place names an argument and every argument
      is a predicate, and then adds one text and the parameters of each argument once
      (`template_filled_exactly`).
-/

import Querycraft.Proofs.Failures
import Querycraft.Proofs.Calls

namespace Querycraft

namespace Template

/-! ## Places -/

/-- Digits as many as there are, with this text behind them. -/
structure IsPlace (digits behind : List Char) : Prop where
  nonempty : digits ≠ []
  all : ∀ c ∈ digits, Text.isDecimalDigit c = true
  ends : ∀ c ∈ behind.head?, Text.isDecimalDigit c = false

def Occurs (digits template : List Char) : Prop :=
  ∃ before behind, template = before ++ '@' :: (digits ++ behind) ∧ IsPlace digits behind

def Begins (text : List Char) : Prop := ∃ digits behind, IsPlace digits behind ∧ text = '@' :: (digits ++ behind)

def decimal (digits : List Char) : Nat := Nat.ofDigitChars 10 digits 0

/-- The digits are ASCII digits, and write the index of one of so many arguments. -/
def Names (digits : List Char) (count : Nat) : Prop := (∀ c ∈ digits, c.isDigit = true) ∧ decimal digits < count

/-- The template with its places filled by these texts, from left to right and in one pass. -/
inductive Filled (texts : List String) : List Char → String → Prop
  | done : Filled texts [] ""
  | char {c : Char} {rest : List Char} {out : String} : ¬ Begins (c :: rest) → Filled texts rest out →
      Filled texts (c :: rest) (c.toString ++ out)
  | place {digits behind : List Char} {text out : String} : IsPlace digits behind →
      texts[decimal digits]? = some text → Filled texts behind out →
      Filled texts ('@' :: (digits ++ behind)) (text ++ out)

/-! ## (1) Parts of a template -/

/-- A text cut into its places and the characters between them. -/
inductive Cut : List Char → List Part → Prop
  | done : Cut [] []
  | char {c : Char} {rest : List Char} {parts : List Part} : ¬ Begins (c :: rest) → Cut rest parts →
      Cut (c :: rest) (.char c :: parts)
  | place {digits behind : List Char} {parts : List Part} : IsPlace digits behind → Cut behind parts →
      Cut ('@' :: (digits ++ behind)) (.place digits :: parts)

theorem IsPlace.takeWhile_eq {digits behind : List Char} (h : IsPlace digits behind) :
    (digits ++ behind).takeWhile Text.isDecimalDigit = digits := by
  rw [List.takeWhile_append_of_pos h.all]
  cases behind with
  | nil => simp
  | cons c rest => simp [h.ends c rfl]

theorem isPlace_takeWhile {text : List Char} (h : text.takeWhile Text.isDecimalDigit ≠ []) :
    IsPlace (text.takeWhile Text.isDecimalDigit) (text.dropWhile Text.isDecimalDigit) := by
  refine ⟨h, List.all_eq_true.mp List.all_takeWhile, ?_⟩
  intro c first
  have stop := List.head?_dropWhile_not Text.isDecimalDigit text
  rw [Option.mem_def.mp first] at stop
  exact stop

theorem cut_parse (text : List Char) : Cut text (parse text) := by
  fun_induction parse text with
  | case1 => exact .done
  | case2 c rest found ih =>
    obtain ⟨rfl, digits⟩ := found
    have place : IsPlace (rest.takeWhile Text.isDecimalDigit) (rest.dropWhile Text.isDecimalDigit) :=
      isPlace_takeWhile (by simpa using digits)
    have cut := Cut.place place ih
    rwa [List.takeWhile_append_dropWhile] at cut
  | case3 c rest none ih =>
    refine .char ?_ ih
    intro begins
    obtain ⟨digits, behind, place, same⟩ := begins
    obtain ⟨rfl, rfl⟩ := List.cons.inj same
    exact none ⟨rfl, by simp [place.takeWhile_eq, place.nonempty]⟩

/-- Of two places that begin together the digits are the same. -/
theorem IsPlace.unique {digits behind digits' behind' : List Char} (h : IsPlace digits behind)
    (h' : IsPlace digits' behind') (same : digits ++ behind = digits' ++ behind') : digits = digits' := by
  rw [← h.takeWhile_eq, same, h'.takeWhile_eq]

theorem occurs_cons {c : Char} {rest digits : List Char} (h : ¬ Begins (c :: rest)) :
    Occurs digits (c :: rest) ↔ Occurs digits rest := by
  constructor
  · intro h'
    obtain ⟨before, behind, same, place⟩ := h'
    cases before with
    | nil => exact absurd ⟨digits, behind, place, same⟩ h
    | cons first before => exact ⟨before, behind, (List.cons.inj same).2, place⟩
  · intro h'
    obtain ⟨before, behind, rfl, place⟩ := h'
    exact ⟨c :: before, behind, rfl, place⟩

/-- No place begins inside the digits of another. -/
theorem occurs_place {digits behind digits' : List Char} (h : IsPlace digits behind) :
    Occurs digits' ('@' :: (digits ++ behind)) ↔ digits' = digits ∨ Occurs digits' behind := by
  constructor
  · intro h'
    obtain ⟨before, behind', same, place⟩ := h'
    cases before with
    | nil => exact .inl (place.unique h (List.cons.inj same).2.symm)
    | cons first before =>
      right
      rcases List.append_eq_append_iff.mp (List.cons.inj same).2 with ⟨more, rfl, rest⟩ | ⟨more, rfl, rest⟩
      · exact ⟨more, behind', rest, place⟩
      · cases more with
        | nil => exact ⟨[], behind', by simpa using rest.symm, place⟩
        | cons c more =>
          obtain ⟨rfl, -⟩ := List.cons.inj rest
          have digit := h.all '@' (by simp)
          cases digit
  · intro h'
    rcases h' with rfl | ⟨before, behind', rfl, place⟩
    · exact ⟨[], behind, rfl, h⟩
    · exact ⟨'@' :: (digits ++ before), behind', by simp, place⟩

/-- The places among the parts are those of the text. -/
theorem Cut.mem_iff {text : List Char} {parts : List Part} (h : Cut text parts) (digits : List Char) :
    Part.place digits ∈ parts ↔ Occurs digits text := by
  induction h with
  | done => simp [Occurs]
  | char none _ ih => simp [occurs_cons none, ih]
  | place place _ ih => simp [occurs_place place, ih]

/-- Digits name an argument exactly if there is an index for them. -/
theorem index?_eq_some {digits : List Char} {count i : Nat} :
    index? digits count = some i ↔ Names digits count ∧ i = decimal digits := by
  have value : Text.digitsValue digits = decimal digits := rfl
  unfold index? Names
  rw [value]
  by_cases ascii : digits.all Char.isDigit = true
  · by_cases small : decimal digits < count
    · rw [if_pos ascii, if_pos small, Option.some_inj]
      have named : (∀ c ∈ digits, c.isDigit = true) ∧ decimal digits < count := ⟨List.all_eq_true.mp ascii, small⟩
      exact ⟨fun same => ⟨named, same.symm⟩, fun h => h.2.symm⟩
    · simp [ascii, small]
  · have foreign : ¬ ∀ c ∈ digits, c.isDigit = true := fun all => ascii (List.all_eq_true.mpr all)
    simp [ascii, foreign]

/-- No place is unmatched exactly if each of them names an argument. -/
theorem unmatched?_eq_none {parts : List Part} {count : Nat} :
    unmatched? parts count = none ↔ ∀ digits, Part.place digits ∈ parts → Names digits count := by
  unfold unmatched?
  rw [List.findSome?_eq_none_iff]
  constructor
  · intro none digits member
    have found := none _ member
    cases index : index? digits count with
    | none => simp [index] at found
    | some i => exact (index?_eq_some.mp index).1
  · intro named part member
    cases part with
    | char c => rfl
    | place digits => simp [index?_eq_some.mpr ⟨named digits member, rfl⟩]

/-- Filling the parts of a text fills the text. -/
theorem Cut.filled {text : List Char} {parts : List Part} (h : Cut text parts) {rendered : List Sql}
    (named : ∀ digits, Part.place digits ∈ parts → Names digits rendered.length) :
    Filled (rendered.map Sql.toText) text (Draft.fill rendered parts).toText := by
  induction h with
  | done => exact .done
  | @char c rest parts none _ ih =>
    have others := ih fun digits member => named digits (List.mem_cons_of_mem _ member)
    have out : (Draft.fill rendered (.char c :: parts)).toText = c.toString ++ (Draft.fill rendered parts).toText := by
      rw [Draft.fill, List.map_cons, Sql.toText_concat_cons, Sql.toText_text]
      rfl
    rw [out]
    exact .char none others
  | @place digits behind parts place _ ih =>
    have others := ih fun digits member => named digits (List.mem_cons_of_mem _ member)
    have names := named digits List.mem_cons_self
    have small : decimal digits < rendered.length := names.2
    have held := List.getElem?_eq_getElem small
    have out : (Draft.fill rendered (.place digits :: parts)).toText =
        rendered[decimal digits].toText ++ (Draft.fill rendered parts).toText := by
      rw [Draft.fill, List.map_cons, Sql.toText_concat_cons]
      simp only [index?_eq_some.mpr ⟨names, rfl⟩, Option.bind_some, held, Option.getD_some]
      rfl
    rw [out]
    refine .place place ?_ others
    rw [List.getElem?_map, held, Option.map_some]

end Template

/-! ## (2) Arguments -/

namespace Draft

open Drafting

/-- Each argument as a predicate on a draft of its own, the first of them once so many names
    have been issued, and each of the others once the one before it has issued its names. -/
inductive Rendered (d : Draft) : Nat → List Expr → List Draft → Prop
  | nil {issued : Nat} : Rendered d issued [] []
  | cons {issued : Nat} {e : Expr} {rest : List Expr} {part : Draft} {parts : List Draft} :
      (predicate e).run (({ d with counter := issued } : Draft).offshoot d.table .condition) = (.ok (), part) →
      Rendered d part.counter rest parts → Rendered d issued (e :: rest) (part :: parts)

def entriesOf (parts : List Draft) : List (String × Value) := parts.flatMap fun part => part.parameters.entries

/-- A draft numbered without a gap holds no name from its counter on. -/
theorem Numbered.not_mem_names {start : Nat} {held : List Value} {d : Draft} (h : d.Numbered start held) {i : Nat}
    (later : d.counter < i) : d.parameterName i ∉ d.parameters.names := by
  intro member
  rw [h.names] at member
  obtain ⟨j, range, same⟩ := List.mem_map.mp member
  obtain rfl := parameterName_injective same
  rw [List.mem_range'_1] at range
  have := h.counter
  omega

/-- Values bound on such a draft follow those it holds. -/
theorem Numbered.bindValues_eq {start : Nat} {held : List Value} {d : Draft} (h : d.Numbered start held)
    (values : List Value) : d.bindValues values =
      d.extendedBy [] [] (d.numberedEntries (d.counter + 1) values) values.length := by
  have bound := (h.binds (binds_bindValues d values)).entries
  have entries : (d.bindValues values).parameters.entries =
      d.parameters.entries ++ d.numberedEntries (d.counter + 1) values := by
    rw [bound, numberedEntries_append, h.entries, h.counter, Nat.add_right_comm]
    rfl
  unfold extendedBy
  rw [← entries]
  simp [bindValues]

section Arguments

variable {start : Nat} {held : List Value} {d part : Draft} {e : Expr}

/-- A predicate on a draft of its own binds its values under the names that come next. -/
theorem numbered_part {table : String} (written : Gives (predicate e) (d.offshoot table .condition) () part) :
    part.stem = d.stem ∧ part.Numbered d.counter e.carried := by
  have binds := (writes_predicate written).adds.toBinds
  exact ⟨binds.stem, (offshoot_numbered d table .condition).binds binds⟩

/-- Taking over its parameters is binding its values. -/
theorem extendedBy_part {table : String} (numbered : d.Numbered start held)
    (written : Gives (predicate e) (d.offshoot table .condition) () part) :
    d.extendedBy [] [] part.parameters.entries part.parameters.entries.length = d.bindValues e.carried := by
  obtain ⟨stem, inner⟩ := numbered_part written
  have entries : part.parameters.entries = d.numberedEntries (d.counter + 1) e.carried := by
    rw [inner.entries]
    simp only [numberedEntries, parameterName, stem]
  rw [entries, numbered.bindValues_eq]
  simp [numberedEntries]

theorem counter_part {table : String} (written : Gives (predicate e) (d.offshoot table .condition) () part) :
    part.counter = d.counter + part.parameters.entries.length := by
  obtain ⟨-, inner⟩ := numbered_part written
  rw [inner.counter, inner.entries]
  simp [numberedEntries]

/-- Nothing stands in the way of taking them over. -/
theorem gives_adopt_part {table : String} (numbered : d.Numbered start held)
    (written : Gives (predicate e) (d.offshoot table .condition) () part) {d' : Draft} :
    Gives (adopt part) d () d' ↔ d' = d.bindValues e.carried := by
  obtain ⟨stem, inner⟩ := numbered_part written
  have apart : ∀ name ∈ part.parameters.names, name ∉ d.parameters.names := by
    intro name member taken
    rw [inner.names] at member
    obtain ⟨i, range, rfl⟩ := List.mem_map.mp member
    rw [List.mem_range'_1] at range
    rw [parameterName, stem, ← parameterName] at taken
    exact numbered.not_mem_names (by omega) taken
  have adopted : Gives (adopt part) d () (adopting part d) := run_adopt_of_apart apart
  constructor
  · exact gives_adopt inner stem
  · intro same
    rw [same, ← gives_adopt inner stem adopted]
    exact adopted

end Arguments

/-- Drafts with the same drafts on the side render arguments alike. -/
theorem Rendered.of_aside {d other : Draft} {issued : Nat} {arguments : List Expr} {parts : List Draft}
    (h : d.Rendered issued arguments parts)
    (same : ∀ n, ({ other with counter := n } : Draft).offshoot other.table .condition =
      ({ d with counter := n } : Draft).offshoot d.table .condition) : other.Rendered issued arguments parts := by
  induction h with
  | nil => exact .nil
  | @cons issued e rest part parts written _ ih =>
    refine .cons ?_ ih
    rw [same]
    exact written

/-- What a draft holds does not matter for drafts on the side. -/
theorem rendered_extendedBy {d : Draft} {entries : List (String × Value)} {n issued : Nat} {arguments : List Expr}
    {parts : List Draft} :
    (d.extendedBy [] [] entries n).Rendered issued arguments parts ↔ d.Rendered issued arguments parts :=
  ⟨fun h => h.of_aside fun _ => rfl, fun h => h.of_aside fun _ => rfl⟩

theorem gives_renderArguments_iff {start : Nat} {held : List Value} {d d' : Draft} (numbered : d.Numbered start held)
    {arguments : List Expr} {rendered : List Sql} :
    Gives (renderArguments arguments) d rendered d' ↔
      ∃ parts, d.Rendered d.counter arguments parts ∧ rendered = parts.map conditionSql ∧
        d' = d.extendedBy [] [] (entriesOf parts) (entriesOf parts).length := by
  induction arguments generalizing d held rendered with
  | nil =>
    rw [gives_renderArguments_nil]
    constructor
    · intro h
      obtain ⟨rfl, rfl⟩ := h
      exact ⟨[], .nil, rfl, (extendedBy_nothing d).symm⟩
    · intro h
      obtain ⟨parts, none, rfl, rfl⟩ := h
      cases none
      exact ⟨rfl, (extendedBy_nothing d).symm⟩
  | cons e rest ih =>
    rw [gives_renderArguments_cons]
    constructor
    · intro h
      obtain ⟨sql, sqls, d₁, first, others, rfl⟩ := h
      obtain ⟨part, written, adopted, rfl⟩ := gives_renderArgument.mp first
      obtain rfl := (gives_adopt_part numbered written).mp adopted
      obtain ⟨parts, drawn, rfl, rfl⟩ := (ih (numbered.binds (binds_bindValues d e.carried))).mp others
      rw [← extendedBy_part numbered written] at drawn ⊢
      refine ⟨part :: parts, .cons written ?_, rfl, ?_⟩
      · rw [counter_part written]
        exact rendered_extendedBy.mp drawn
      · rw [extendedBy_extendedBy]
        simp [entriesOf]
    · intro h
      obtain ⟨parts, drawn, rfl, rfl⟩ := h
      cases drawn with
      | @cons _ _ _ part parts written others =>
        have adopted := (gives_adopt_part numbered written).mpr rfl
        refine ⟨part.conditionSql, parts.map conditionSql, _, gives_renderArgument.mpr ⟨part, written, adopted, rfl⟩,
          (ih (numbered.binds (binds_bindValues d e.carried))).mpr ⟨parts, ?_, rfl, ?_⟩, rfl⟩
        · rw [← extendedBy_part numbered written, rendered_extendedBy]
          rw [counter_part written] at others
          exact others
        · rw [← extendedBy_part numbered written, extendedBy_extendedBy]
          simp [entriesOf]

/-- Whether a predicate is accepted does not depend on the draft. -/
theorem accepted_anywhere {e : Expr} {d d' : Draft} (h : Gives (predicate e) d () d') (other : Draft) :
    ∃ part, Gives (predicate e) other () part := by
  obtain ⟨term, resolved, emitted, -⟩ := gives_predicate.mp h
  exact ⟨_, gives_predicate.mpr ⟨term, resolved, emitted, rfl⟩⟩

theorem exists_rendered {d : Draft} {arguments : List Expr}
    (h : ∀ e ∈ arguments, ∃ part, Gives (predicate e) d () part) (issued : Nat) :
    ∃ parts, d.Rendered issued arguments parts := by
  induction arguments generalizing issued with
  | nil => exact ⟨[], .nil⟩
  | cons e rest ih =>
    obtain ⟨first, accepted⟩ := h e List.mem_cons_self
    obtain ⟨part, written⟩ :=
      accepted_anywhere accepted (({ d with counter := issued } : Draft).offshoot d.table .condition)
    obtain ⟨parts, drawn⟩ := ih (fun e member => h e (List.mem_cons_of_mem _ member)) part.counter
    exact ⟨part :: parts, .cons written drawn⟩

theorem Rendered.accepted {d : Draft} {issued : Nat} {arguments : List Expr} {parts : List Draft}
    (h : d.Rendered issued arguments parts) : ∀ e ∈ arguments, ∃ part, Gives (predicate e) d () part := by
  induction h with
  | nil => simp
  | cons written _ ih => exact List.forall_mem_cons.mpr ⟨accepted_anywhere written d, ih⟩

theorem Rendered.length_eq {d : Draft} {issued : Nat} {arguments : List Expr} {parts : List Draft}
    (h : d.Rendered issued arguments parts) : parts.length = arguments.length := by
  induction h with
  | nil => rfl
  | cons _ _ ih => rw [List.length_cons, List.length_cons, ih]

/-! ## (3) Templates -/

/-- Every place of the template names one of so many arguments. -/
theorem unmatched?_parse {template : List Char} {count : Nat} :
    Template.unmatched? (Template.parse template) count = none ↔
      ∀ digits, Template.Occurs digits template → Template.Names digits count := by
  rw [Template.unmatched?_eq_none]
  simp only [(Template.cut_parse template).mem_iff]

theorem gives_templated_iff {start : Nat} {held : List Value} {d d' : Draft} (numbered : d.Numbered start held)
    {template : String} {arguments : List Expr} :
    Gives (templated template arguments) d () d' ↔
      (∀ digits, Template.Occurs digits template.toList → Template.Names digits arguments.length) ∧
      ∃ parts, d.Rendered d.counter arguments parts ∧
        d' = d.extendedBy [.verbatim (fill (parts.map conditionSql) (Template.parse template.toList))] []
          (entriesOf parts) (entriesOf parts).length := by
  have pushed (sql : Sql) (parts : List Draft) :
      (d.extendedBy [] [] (entriesOf parts) (entriesOf parts).length).push (.verbatim sql) =
        d.extendedBy [.verbatim sql] [] (entriesOf parts) (entriesOf parts).length := by
    show ({ d.extendedBy [] [] (entriesOf parts) (entriesOf parts).length with
      conditions := (d.conditions ++ []) ++ [.verbatim sql] } : Draft) = _
    rw [List.append_nil]
    rfl
  rw [gives_templated, unmatched?_parse]
  refine and_congr_right fun named => ?_
  constructor
  · intro h
    obtain ⟨rendered, d₁, ran, rfl⟩ := h
    obtain ⟨parts, drawn, rfl, rfl⟩ := (gives_renderArguments_iff numbered).mp ran
    exact ⟨parts, drawn, pushed _ _⟩
  · intro h
    obtain ⟨parts, drawn, rfl⟩ := h
    exact ⟨_, _, (gives_renderArguments_iff numbered).mpr ⟨parts, drawn, rfl, rfl⟩, pushed _ _⟩

/-- On a draft that is numbered without a gap, a template is accepted exactly if every place of
    it names an argument and every argument is a predicate. It then adds one text to the
    condition, the template with its places filled by the texts of the arguments, and the
    parameters of each argument once and in order. -/
theorem template_filled_exactly {start : Nat} {held : List Value} {d : Draft} (numbered : d.Numbered start held)
    (template : String) (arguments : List Expr) :
    ((∃ d', (templated template arguments).run d = (.ok (), d')) ↔
      (∀ digits, Template.Occurs digits template.toList → Template.Names digits arguments.length) ∧
        ∀ e ∈ arguments, ∃ part, (predicate e).run d = (.ok (), part)) ∧
    ∀ d', (templated template arguments).run d = (.ok (), d') →
      ∃ parts sql, d.Rendered d.counter arguments parts ∧
        Template.Filled (parts.map conditionText) template.toList sql.toText ∧
        d' = d.extendedBy [.verbatim sql] [] (entriesOf parts) (entriesOf parts).length := by
  refine ⟨⟨?_, ?_⟩, ?_⟩
  · intro h
    obtain ⟨d', accepted⟩ := h
    obtain ⟨named, parts, drawn, -⟩ := (gives_templated_iff numbered).mp accepted
    exact ⟨named, drawn.accepted⟩
  · intro h
    obtain ⟨parts, drawn⟩ := exists_rendered h.2 d.counter
    exact ⟨_, (gives_templated_iff numbered).mpr ⟨h.1, parts, drawn, rfl⟩⟩
  · intro d' accepted
    obtain ⟨named, parts, drawn, same⟩ := (gives_templated_iff numbered).mp accepted
    refine ⟨parts, _, drawn, ?_, same⟩
    have cut := Template.cut_parse template.toList
    have all : ∀ digits, Template.Part.place digits ∈ Template.parse template.toList →
        Template.Names digits (parts.map conditionSql).length := by
      intro digits member
      rw [List.length_map, drawn.length_eq]
      exact named digits ((cut.mem_iff digits).mp member)
    have filled := cut.filled all
    rw [List.map_map] at filled
    exact filled

/-- With an empty stem placeholders look like places; they are not filled again, the argument
    that no place names leaves its parameter too, and an index may begin with zeros. A digit
    of another script makes a place, and is no index. -/
theorem template_filled_exactly_once :
    let d := (((onTable .sqlite "users").withStem "").numberedFrom 3).bindValues [.int 7]
    let arguments : List Expr := [.constant (.int 5), .constant (.int 6), .constant (.int 9)]
    d.Numbered 3 [.int 7] ∧
    (∃ d' parts sql, (templated "@1 < @0 OR @@01" arguments).run d = (.ok (), d') ∧
      d.Rendered d.counter arguments parts ∧
      Template.Filled (parts.map conditionText) "@1 < @0 OR @@01".toList sql.toText ∧
      d' = d.extendedBy [.verbatim sql] [] (entriesOf parts) (entriesOf parts).length ∧
      d'.conditionText = "@6 < @5 OR @@6" ∧ d'.parameters.names = ["4", "5", "6", "7"]) ∧
    ¬ ∃ d', (templated "@٠" arguments).run d = (.ok (), d') := by
  intro d arguments
  have numbered : d.Numbered 3 [.int 7] := by
    have empty : (((onTable .sqlite "users").withStem "").numberedFrom 3).Numbered 3 [] := ⟨rfl, rfl⟩
    exact empty.binds (binds_bindValues _ [.int 7])
  refine ⟨numbered, ?_, ?_⟩
  · have succeeds : ((templated "@1 < @0 OR @@01" arguments).run d).1.isOk = true := by decide +kernel
    obtain ⟨⟨⟩, d', ran⟩ := gives_of_isOk succeeds
    obtain ⟨parts, sql, drawn, filled, same⟩ := (template_filled_exactly numbered _ arguments).2 d' ran
    have after : ((templated "@1 < @0 OR @@01" arguments).run d).2 = d' := congrArg Prod.snd ran
    refine ⟨d', parts, sql, ran, drawn, filled, same, ?_⟩
    rw [← after]
    decide +kernel
  · intro accepted
    have place : Template.IsPlace ['٠'] [] := ⟨by simp, List.forall_mem_singleton.mpr (by decide), by simp⟩
    have named := ((template_filled_exactly numbered "@٠" arguments).1.mp accepted).1 ['٠'] ⟨[], [], rfl, place⟩
    exact absurd (named.1 '٠' (by simp)) (by decide)

end Draft

end Querycraft
