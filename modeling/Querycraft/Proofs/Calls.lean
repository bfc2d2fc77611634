/-
  Querycraft.Proofs.Calls — what callers do to drafts.

  A caller may work on a draft directly. A `Primitive` adds to one clause and binds the
  values it carries; a `Splice` takes in another draft, with its text or without; the
  other calls meddle with names and numbers. A call that fails leaves the draft as it was.

  A caller that binds a value on its own gets the placeholder and writes it into text of
  its own, for a condition or an assignment. Such text comes as pieces, with the
  placeholders as slots (`Primitive.mentions`). A caller is `Traced` if nothing else that
  it writes can be read as a position: it puts no digit behind a `$` or a placeholder.

  Names are numbered by a 64-bit counter, which a caller may set. `Reached allowed d` says
  that calls lead from an empty draft to `d`, each one allowed where it was made, without
  the counter passing its last number, and that the drafts taken in were reached in the
  same way. `Extends given` is about the calls that only add: primitives of traced
  callers, whose text holds placeholders bound on the way or `given` to them before, and
  offshoots that were extended and taken in again. Proved, and used for every law about
  calls:
  (1) a primitive binds values under the next names, and shows their placeholders and those
      in the caller's text (`Primitive.grows`); what extends a draft shows the placeholders
      of the values bound on the way and given ones (`Extends.grows`);
  (2) what a splice takes over, and what it shows (`Splice.takes`);
  (3) in a draft that calls lead to, no name is held twice and the counter is not behind
      the base (`Reached.sound`).
-/

import Querycraft.Proofs.Numbering

namespace Querycraft

/-! ## Maps of parameters -/

namespace Parameters

theorem names_add_of_mem {p : Parameters} {name : String} {value : Value} (h : name ∈ p.names) :
    (p.add name value).1 = p := by
  simp [add, contains, h]

theorem mem_names_add {p : Parameters} {name other : String} {value : Value} :
    other ∈ (p.add name value).1.names ↔ other ∈ p.names ∨ other = name := by
  by_cases held : name ∈ p.names
  · rw [names_add_of_mem held]
    constructor
    · exact .inl
    · rintro (member | rfl)
      · exact member
      · exact held
  · simp [add_of_fresh held, names]

theorem nodup_add {p : Parameters} (h : p.names.Nodup) (name : String) (value : Value) :
    (p.add name value).1.names.Nodup := by
  by_cases held : name ∈ p.names
  · rwa [names_add_of_mem held]
  · rw [add_of_fresh held, names_mk, List.map_append, List.nodup_append]
    refine ⟨h, by simp, ?_⟩
    rintro old member _ new rfl
    obtain rfl : old = name := List.mem_singleton.mp new
    exact held member

theorem mem_names_extend {p other : Parameters} {name : String} :
    name ∈ (p.extend other).names ↔ name ∈ p.names ∨ name ∈ other.names := by
  obtain ⟨entries⟩ := other
  induction entries generalizing p with
  | nil => simp [extend, names]
  | cons entry rest ih =>
    obtain ⟨first, value⟩ := entry
    rw [extend_cons, ih, mem_names_add]
    simp only [names_mk, List.map_cons, List.mem_cons, or_assoc]

theorem nodup_extend {p : Parameters} (h : p.names.Nodup) (other : Parameters) : (p.extend other).names.Nodup := by
  obtain ⟨entries⟩ := other
  induction entries generalizing p with
  | nil => exact h
  | cons entry rest ih =>
    obtain ⟨first, value⟩ := entry
    rw [extend_cons]
    exact ih (nodup_add h first value)

end Parameters

/-- The characters of a text, with `none` for a placeholder. -/
def Sql.characters (sql : Sql) : List (Option Char) :=
  sql.pieces.flatMap fun
    | .text words => words.toList.map some
    | .slot _ => [none]

namespace Draft

open Drafting

/-! ## Calls -/

/-- Whether a `$` or a placeholder has a digit or a placeholder right behind it, or a `$`
    has nothing behind it yet. -/
def writesPosition : List (Option Char) → Bool
  | [] => false
  | [c] => c == some '$'
  | c :: next :: rest => c.all (· == '$') && next.all Char.isDigit || writesPosition (next :: rest)

inductive Primitive where
  | operation (kind : Operation)
  /-- A value bound on its own; the caller gets its placeholder. -/
  | bind (value : Value)
  | text (words : Sql)
  | fragment (f : Fragment Value) (plain : f.isPlain = true)
  | select (entry : Selected)
  | sortKey (key : SortKey)
  | group (column : Column)
  | groupTest (function : String) (column : Column) (op : Operator) (value : Value)
  | take (size : UInt64)
  | skip (offset : UInt64)
  | page (index size : UInt64)
  | assignmentText (words : Sql)
  | assign (column : String) (value : Value)
  | assignReplaced (column : String) (old new : Value)
  | row (cells : List (String × Value))
  | output (columns : List String)
  | insertInto (target : String) (columns : List String)

namespace Primitive

def run : Primitive → Drafting Unit
  | .operation kind => modify (withOperation · kind)
  | .bind value => modify fun d => (d.bind value).2
  | .text words => modify (pushText words)
  | .fragment f _ => modify (push f)
  | .select entry => modify (addSelected entry)
  | .sortKey key => modify (addSortKey key)
  | .group column => modify (addGroup column)
  | .groupTest function column op value => modify (addGroupTest function column op value)
  | .take size => modify (Draft.take size)
  | .skip offset => modify (Draft.skip offset)
  | .page index size => modify (Draft.page index size)
  | .assignmentText words => modify (addAssignment (.verbatim words))
  | .assign column value => modify (Draft.assign column value)
  | .assignReplaced column old new => modify (Draft.assignReplaced column old new)
  | .row cells => insertRow cells
  | .output columns => modify (addOutput columns)
  | .insertInto target columns => modify (Draft.insertInto target columns)

def mentions : Primitive → List Placeholder
  | .text words | .assignmentText words => words.slots
  | _ => []

/-- What the caller writes that goes into the command as it is. Conditions stand right
    behind each other, so the last character there comes first. -/
def ownText (d : Draft) : Primitive → List (Option Char)
  | .text words => d.conditionSql.characters.getLast?.toList ++ words.characters
  | .assignmentText words => words.characters
  | .select (.function function _ _) => function.toList.map some
  | .groupTest function _ _ _ => function.toList.map some
  | _ => []

def Traced (d : Draft) (p : Primitive) : Prop := writesPosition (p.ownText d) = false

instance (d : Draft) (p : Primitive) : Decidable (p.Traced d) := inferInstanceAs (Decidable (_ = _))

end Primitive

inductive Splice where
  /-- Its parameters only. -/
  | adopt
  | inQuery (column : Column) (negated : Bool)
  | join (kind : JoinKind) (table : String)

namespace Splice

def run (how : Splice) (sub : Draft) : Drafting Unit :=
  match how with
  | .adopt => Draft.adopt sub
  | .inQuery column negated => Draft.inQuery column negated sub
  | .join kind table => Draft.join kind table sub

def text (how : Splice) (sub : Draft) : Sql :=
  match how with
  | .adopt => .empty
  | .inQuery _ _ => sub.command.toOption.getD .empty
  | .join _ _ => sub.conditionSql

end Splice

inductive Call where
  | stem (letters : String)
  | numbering (index : UInt64)
  /-- A name issued, and nothing stored under it. -/
  | issue
  /-- A parameter under a name of the caller's. -/
  | parameter (name : String) (value : Value)
  | primitive (p : Primitive)
  | splice (how : Splice) (sub : Draft)

namespace Call

def run : Call → Drafting Unit
  | .stem letters => modify (withStem · letters)
  | .numbering index => modify (numberedFrom · index.toNat)
  | .issue => modify fun d => d.issueName.2
  | .parameter name value => modify fun d => (d.addParameter name value).2
  | .primitive p => p.run
  | .splice how sub => how.run sub

def other? : Call → Option Draft
  | .splice _ sub => some sub
  | _ => none

end Call

/-- The 64 bits of the counter leave room for so many more names. -/
def Room (n : Nat) (d : Draft) : Prop := d.counter + n < UInt64.size

instance (n : Nat) (d : Draft) : Decidable (d.Room n) := inferInstanceAs (Decidable (_ < _))

inductive Reached (allowed : Draft → Call → Prop) : Draft → Prop
  | start (dialect : Dialect) (table : String) : Reached allowed (onTable dialect table)
  | offshoot {d : Draft} (table : String) (operation : Operation) : Reached allowed d →
      Reached allowed (d.offshoot table operation)
  | call {d : Draft} {c : Call} : Reached allowed d → allowed d c → (d.after c.run).Room 0 →
      (∀ sub, c.other? = some sub → Reached allowed sub) → Reached allowed (d.after c.run)

/-- A call that takes in no other draft. -/
theorem Reached.alone {allowed : Draft → Call → Prop} {d : Draft} (c : Call) (h : Reached allowed d) (ok : allowed d c)
    (range : (d.after c.run).Room 0) (single : c.other? = none) : Reached allowed (d.after c.run) := by
  refine .call h ok range fun sub taken => ?_
  rw [single] at taken
  cases taken

theorem Reached.splice {allowed : Draft → Call → Prop} {d sub : Draft} (how : Splice) (main : Reached allowed d)
    (aside : Reached allowed sub) (h : allowed d (.splice how sub)) (range : (d.after (how.run sub)).Room 0) :
    Reached allowed (d.after (how.run sub)) :=
  .call (c := .splice how sub) main h range fun _ same => Option.some.inj same ▸ aside

def anyCall (_ : Draft) (_ : Call) : Prop := True

def Call.Traced (d : Draft) : Call → Prop
  | .primitive p => p.Traced d
  | _ => True

/-- The placeholders for the numbers issued from one draft to a later one. -/
def issuedSince (d d' : Draft) : List Placeholder := d.upcoming (d'.counter - d.counter)

inductive Extends : (Placeholder → Prop) → Draft → Draft → Prop
  | refl (given : Placeholder → Prop) (d : Draft) : Extends given d d
  | primitive {given : Placeholder → Prop} {d d' : Draft} (p : Primitive) : Extends given d d' → p.Traced d' →
      (∀ q ∈ p.mentions, given q ∨ q ∈ d.issuedSince d') → (d'.after p.run).Room 0 →
      Extends given d (d'.after p.run)
  | splice {given : Placeholder → Prop} {d d' sub : Draft} (how : Splice) (table : String) (operation : Operation) :
      Extends given d d' →
      Extends (fun q => given q ∨ q ∈ d.issuedSince d') (d'.offshoot table operation) sub →
      (d'.after (how.run sub)).Room 0 → Extends given d (d'.after (how.run sub))

theorem Extends.reached {given : Placeholder → Prop} {d d' : Draft} (h : Extends given d d')
    (begun : Reached Call.Traced d) : Reached Call.Traced d' := by
  induction h with
  | refl given d => exact begun
  | primitive p _ traced _ range ih => exact (ih begun).alone (.primitive p) traced range rfl
  | splice how table operation _ _ range ih inner =>
    exact (ih begun).splice how (inner (.offshoot table operation (ih begun))) trivial range

/-! ## (1) Calls that only add -/

/-- A draft that took on exactly these values; what it shows beyond the earlier draft are
    their placeholders and given ones. -/
structure Grows (given : Placeholder → Prop) (values : List Value) (d d' : Draft) : Prop
    extends Binds values d d' where
  slots : ∀ p ∈ d'.slots, p ∈ d.slots ∨ given p ∨ p ∈ d.upcoming values.length

theorem Adds.grows {given : Placeholder → Prop} {values : List Value} {d d' : Draft} (h : Adds values d d') :
    Grows given values d d' :=
  ⟨h.toBinds, fun p member => (h.slots p member).imp_right .inr⟩

theorem Grows.refl (given : Placeholder → Prop) (d : Draft) : Grows given [] d d :=
  ⟨Binds.refl d, fun _ member => .inl member⟩

theorem Grows.upcoming_length {given : Placeholder → Prop} {values : List Value} {d d' : Draft}
    (h : Grows given values d d') : d.upcoming values.length = d.issuedSince d' := by
  rw [issuedSince, h.counter, Nat.add_sub_cancel_left]

/-- What a caller gets for a value that it binds on the way. -/
theorem Grows.mem_issuedSince_bind {given : Placeholder → Prop} {values : List Value} {d d' : Draft}
    (h : Grows given values d d') (value : Value) : (d'.bind value).1 ∈ d.issuedSince (d'.bind value).2 := by
  have count : (d'.bind value).2.counter - d.counter = values.length + 1 := by
    show d'.counter + 1 - d.counter = _
    rw [h.counter]
    omega
  have last : (d'.bind value).1 = d.issued (d.counter + values.length + 1) := by
    rw [← h.issued, ← h.counter]
    rfl
  rw [issuedSince, count, last]
  refine List.mem_map_of_mem ?_
  rw [List.mem_range'_1]
  omega

/-- Placeholders bound on the way may be written later. -/
theorem Grows.trans {given later : Placeholder → Prop} {first second : List Value} {d d' d'' : Draft}
    (h : Grows given first d d') (h' : Grows later second d' d'')
    (known : ∀ p, later p → given p ∨ p ∈ d.issuedSince d') : Grows given (first ++ second) d d'' := by
  refine ⟨h.toBinds.trans h'.toBinds, fun p member => ?_⟩
  rw [List.length_append, h.upcoming_append, List.mem_append]
  rcases h'.slots p member with old | written | new
  · rcases h.slots p old with older | given | newer
    · exact .inl older
    · exact .inr (.inl given)
    · exact .inr (.inr (.inl newer))
  · rcases known p written with given | bound
    · exact .inr (.inl given)
    · exact .inr (.inr (.inl (h.upcoming_length ▸ bound)))
  · exact .inr (.inr (.inr new))

theorem mem_slots_push (d : Draft) (f : Fragment Value) (p : Placeholder) :
    p ∈ (d.push f).slots ↔ p ∈ d.slots ∨ p ∈ (f.numbered d.issued (d.counter + 1)).slots := by
  rw [push_eq]
  simp only [mem_slots, bindValues, List.flatMap_append, List.flatMap_singleton, List.mem_append]
  grind

theorem mem_slots_addAssignment (d : Draft) (new : Assignment) (p : Placeholder) :
    p ∈ (d.addAssignment new).slots ↔ p ∈ d.slots ∨ p ∈ new.operands := by
  simp only [addAssignment, mem_slots, List.flatMap_append, List.flatMap_singleton, List.mem_append]
  grind

theorem run_get (d : Draft) : (get : Drafting Draft).run d = (.ok d, d) := rfl

/-- A row is accepted, or refused and nothing changes. -/
theorem after_insertRow (row : List (String × Value)) (d : Draft) :
    Gives (insertRow row) d () (d.after (insertRow row)) ∨ d.after (insertRow row) = d := by
  by_cases empty : row.isEmpty = true
  · right
    simp only [after, insertRow, run_bind, run_get, if_pos empty]
    rfl
  · by_cases differ : (d.rows.head?.any fun first => first.map Prod.fst ≠ row.map Prod.fst) = true
    · right
      simp only [after, insertRow, run_bind, run_get, if_neg empty, if_pos differ]
      rfl
    · left
      have accepted := gives_insertRow (u := ()).mpr ⟨by simpa using empty, by simpa using differ, rfl⟩
      rwa [after_of_gives accepted]

/-- (1) A primitive binds values under the next names, and shows their placeholders and
    those in the caller's text. -/
theorem Primitive.grows (p : Primitive) (d : Draft) : ∃ values, Grows (· ∈ p.mentions) values d (d.after p.run) := by
  cases p with
  | row cells =>
    rcases after_insertRow cells d with accepted | refused
    · exact ⟨_, (splices_insertRow accepted).toAdds.grows⟩
    · refine ⟨[], ?_⟩
      show Grows _ [] d (d.after (insertRow cells))
      rw [refused]
      exact Grows.refl _ d
  | text words =>
    have bound : Binds [] d (d.pushText words) := by
      rw [pushText, push_eq]
      exact ⟨rfl, rfl, rfl, rfl, rfl⟩
    exact ⟨[], bound, fun p shown => ((mem_slots_push d (.verbatim words) p).mp shown).imp_right .inl⟩
  | assignmentText words =>
    refine ⟨[], ⟨rfl, rfl, rfl, rfl, rfl⟩, fun p shown => ?_⟩
    exact ((mem_slots_addAssignment d (.verbatim words) p).mp shown).imp_right .inl
  | fragment f plain => exact ⟨_, (writes_push plain).adds.grows⟩
  | bind value => exact ⟨[value], ⟨rfl, rfl, rfl, rfl, rfl⟩, fun _ member => .inl member⟩
  | groupTest function column op value => exact ⟨[value], (splices_groupTest rfl).toAdds.grows⟩
  | assign column value => exact ⟨[value], (splices_assignments rfl).toAdds.grows⟩
  | assignReplaced column old new => exact ⟨[old, new], (splices_assignments rfl).toAdds.grows⟩
  | operation _ | select _ | sortKey _ | group _ | take _ | skip _ | page _ _ | output _ | insertInto _ _ =>
    refine ⟨[], Adds.grows (Splices.toAdds ?_)⟩
    exact splices_nothing ⟨rfl, rfl, rfl, rfl, rfl⟩ rfl rfl rfl rfl rfl

/-! ## (2) What a splice takes over -/

def adopting (sub d : Draft) : Draft :=
  { d with parameters := d.parameters.extend sub.parameters, counter := max d.counter sub.counter }

theorem run_adopt_of_apart {sub d : Draft} (h : ∀ name ∈ sub.parameters.names, name ∉ d.parameters.names) :
    (adopt sub).run d = (.ok (), adopting sub d) := by
  have none : sub.parameters.names.find? d.parameters.contains = none := by
    simpa [Parameters.contains] using h
  simp only [adopt, run_bind, run_get, none]
  rfl

theorem run_adopt_of_common {sub d : Draft} (h : ¬ ∀ name ∈ sub.parameters.names, name ∉ d.parameters.names) :
    ∃ e, (adopt sub).run d = (.error e, d) := by
  cases found : sub.parameters.names.find? d.parameters.contains with
  | none => exact absurd (by simpa [Parameters.contains] using found) h
  | some name =>
    refine ⟨.parameterBound name, ?_⟩
    simp only [adopt, run_bind, run_get, found]
    rfl

theorem run_inQuery_of_error {sub : Draft} {e : Error} (h : sub.command = .error e) (column : Column) (negated : Bool)
    (d : Draft) : (inQuery column negated sub).run d = (.error e, d) := by
  simp only [inQuery, h]
  rfl

/-- A draft that has taken in another, and shows a text of it. -/
structure Takes (sub : Draft) (text : Sql) (d d' : Draft) : Prop where
  /-- The two drafts held no parameter of the same name. -/
  apart : ∀ name ∈ sub.parameters.names, name ∉ d.parameters.names
  dialect : d'.dialect = d.dialect
  stem : d'.stem = d.stem
  base : d'.base = d.base
  parameters : d'.parameters = d.parameters.extend sub.parameters
  counter : d'.counter = max d.counter sub.counter
  slots : ∀ p, p ∈ d'.slots ↔ p ∈ d.slots ∨ p ∈ text.slots

theorem slots_join {d : Draft} {tables : List String} {join : Join} {p : Placeholder} :
    p ∈ ({ d with tables, joins := d.joins ++ [join] } : Draft).slots ↔ p ∈ d.slots ∨ p ∈ join.on.slots := by
  simp only [mem_slots, List.flatMap_append, List.flatMap_singleton, List.mem_append]
  grind

/-- (2) All that a splice can do: it takes in the other draft, whose names are new, or it
    fails and nothing changes. -/
theorem Splice.takes (how : Splice) (sub d : Draft) :
    (∃ d', (how.run sub).run d = (.ok (), d') ∧ Takes sub (how.text sub) d d') ∨
      ∃ e, (how.run sub).run d = (.error e, d) := by
  by_cases apart : ∀ name ∈ sub.parameters.names, name ∉ d.parameters.names
  · have adopted := run_adopt_of_apart apart
    cases how with
    | adopt =>
      refine .inl ⟨adopting sub d, adopted, apart, rfl, rfl, rfl, rfl, rfl, fun p => ?_⟩
      exact (or_iff_left List.not_mem_nil).symm
    | inQuery column negated =>
      cases command : sub.command with
      | error e => exact .inr ⟨e, run_inQuery_of_error command column negated d⟩
      | ok sql =>
        refine .inl ⟨(adopting sub d).push (.inQuery column negated sql), ?_, apart, rfl, rfl, rfl, rfl, rfl, ?_⟩
        · simp only [Splice.run, Draft.inQuery, command, run_bind, adopted]
          rfl
        · intro p
          rw [mem_slots_push]
          simp only [Splice.text, command]
          rfl
    | join kind table =>
      refine .inl ⟨{ adopting sub d with
        tables := d.tables ++ [table], joins := d.joins ++ [⟨kind, table, sub.conditionSql⟩] }, ?_, apart,
        rfl, rfl, rfl, rfl, rfl, fun p => slots_join⟩
      simp only [Splice.run, Draft.join, run_bind, adopted]
      rfl
  · obtain ⟨e, refused⟩ := run_adopt_of_common apart
    right
    cases how with
    | adopt => exact ⟨e, refused⟩
    | inQuery column negated =>
      cases command : sub.command with
      | error e => exact ⟨e, run_inQuery_of_error command column negated d⟩
      | ok sql =>
        refine ⟨e, ?_⟩
        simp only [Splice.run, Draft.inQuery, command, run_bind, refused]
    | join kind table =>
      refine ⟨e, ?_⟩
      simp only [Splice.run, Draft.join, run_bind, refused]

theorem Splice.takes_of_gives {how : Splice} {sub d d' : Draft} (h : Gives (how.run sub) d () d') :
    Takes sub (how.text sub) d d' := by
  unfold Gives at h
  rcases how.takes sub d with ⟨_, ran, taken⟩ | ⟨e, ran⟩
  · rw [ran] at h
    cases h
    exact taken
  · rw [ran] at h
    cases h

theorem Splice.after_cases (how : Splice) (sub d : Draft) :
    Gives (how.run sub) d () (d.after (how.run sub)) ∨ d.after (how.run sub) = d := by
  unfold Gives after
  rcases how.takes sub d with ⟨_, ran, -⟩ | ⟨e, ran⟩
  · exact .inl (by rw [ran])
  · exact .inr (by rw [ran])

/-- A splice shows only what the other draft shows. -/
theorem Splice.mem_slots_text {how : Splice} {sub : Draft} {p : Placeholder} (h : p ∈ (how.text sub).slots) :
    p ∈ sub.slots := by
  cases how with
  | adopt => cases h
  | inQuery column negated =>
    cases command : sub.command with
    | error e =>
      simp only [Splice.text, command] at h
      cases h
    | ok sql =>
      simp only [Splice.text, command] at h
      exact mem_slots_command command h
  | join kind table =>
    rw [Splice.text, slots_conditionSql] at h
    exact mem_slots.mpr (.inr (.inl h))

/-- An offshoot that only took on values adds them to the draft that takes it in. -/
theorem Takes.grows {given : Placeholder → Prop} {values : List Value} {table : String} {operation : Operation}
    {how : Splice} {d d' sub : Draft} (written : Grows given values (d.offshoot table operation) sub)
    (h : Takes sub (how.text sub) d d') : Grows given values d d' := by
  have numbered : sub.Numbered d.counter ([] ++ values) := (offshoot_numbered d table operation).binds written.toBinds
  rw [List.nil_append] at numbered
  have held : sub.parameters = ⟨d.numberedEntries (d.counter + 1) values⟩ := by
    rw [show sub.parameters = ⟨sub.parameters.entries⟩ from rfl, numbered.entries]
    simp only [numberedEntries, parameterName, written.stem]
    rfl
  refine ⟨⟨h.dialect, h.stem, h.base, by rw [h.parameters, held]; rfl, ?_⟩, fun p member => ?_⟩
  · rw [h.counter, numbered.counter]
    omega
  · rcases (h.slots p).mp member with old | new
    · exact .inl old
    · rcases written.slots p (Splice.mem_slots_text new) with none | next
      · cases none
      · exact .inr next

/-- (1) Whatever extends a draft binds values under the next names, and shows their
    placeholders and given ones. -/
theorem Extends.grows {given : Placeholder → Prop} {d d' : Draft} (h : Extends given d d') :
    ∃ values, Grows given values d d' := by
  induction h with
  | refl given d => exact ⟨[], Grows.refl given d⟩
  | primitive p _ _ known _ ih =>
    obtain ⟨values, before⟩ := ih
    obtain ⟨more, grown⟩ := p.grows _
    exact ⟨values ++ more, before.trans grown known⟩
  | @splice given d d' sub how table operation _ _ _ ih inner =>
    obtain ⟨values, before⟩ := ih
    obtain ⟨more, written⟩ := inner
    rcases how.after_cases sub d' with accepted | refused
    · have grown := Takes.grows written (Splice.takes_of_gives accepted)
      exact ⟨values ++ more, before.trans grown fun _ known => known⟩
    · exact ⟨values, refused.symm ▸ before⟩

/-! ## (3) What every draft keeps to -/

/-- No name is held twice, and the counter is not behind the base. -/
structure Sound (d : Draft) : Prop where
  distinct : d.parameters.names.Nodup
  behind : d.base ≤ d.counter

theorem Sound.binds {values : List Value} {d d' : Draft} (h : d.Sound) (b : Binds values d d') : d'.Sound := by
  refine ⟨?_, ?_⟩
  · rw [b.parameters]
    exact Parameters.nodup_extend h.distinct _
  · rw [b.base, b.counter]
    exact Nat.le_add_right_of_le h.behind

theorem Sound.takes {sub d d' : Draft} {text : Sql} (h : d.Sound) (taken : Takes sub text d d') : d'.Sound := by
  refine ⟨?_, ?_⟩
  · rw [taken.parameters]
    exact Parameters.nodup_extend h.distinct _
  · rw [taken.base, taken.counter]
    exact Nat.le_trans h.behind (Nat.le_max_left _ _)

/-- (3) Calls lead to sound drafts only. -/
theorem Reached.sound {allowed : Draft → Call → Prop} {d : Draft} (h : Reached allowed d) : d.Sound := by
  induction h with
  | start dialect table => exact ⟨List.nodup_nil, Nat.le_refl 0⟩
  | offshoot table operation _ ih => exact ⟨List.nodup_nil, ih.behind⟩
  | @call d c _ _ _ _ ih _ =>
    cases c with
    | stem letters => exact ⟨ih.distinct, ih.behind⟩
    | numbering index => exact ⟨ih.distinct, Nat.le_refl index.toNat⟩
    | issue => exact ⟨ih.distinct, Nat.le_succ_of_le ih.behind⟩
    | parameter name value => exact ⟨Parameters.nodup_add ih.distinct name value, ih.behind⟩
    | primitive p =>
      obtain ⟨values, grown⟩ := p.grows d
      exact ih.binds grown.toBinds
    | splice how sub =>
      rcases how.after_cases sub d with accepted | refused
      · exact ih.takes (Splice.takes_of_gives accepted)
      · exact (refused.symm ▸ ih : (d.after (how.run sub)).Sound)

end Draft

end Querycraft
