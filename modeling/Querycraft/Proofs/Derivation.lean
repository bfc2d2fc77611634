/-
  Querycraft.Proofs.Derivation — a derived entity gives every member its own column.

  A declared type may carry several attributes with several entries each, and so may its
  fields. What they set is said here without the functions that derive: `lastValue?` is the
  value that a key was given last, and `Field.columnName` the column that a field should have,
  the last one given on the field or else the member renamed by the type's last rule. Proved:
  (1) the entries that can be read, and what is read from them (`readEntries_eq_ok_iff`);
  (2) what a type and a field take from settings that they accept
      (`typeSettings_of_accepted`, `fieldColumn_of_accepted`), and that they accept no others;
  (3) so a declaration is an entity exactly if it is `Derivable`, and which one
      (`deriveEntity_eq_ok_iff`);
  (4) with distinct members, the entity has a pair for each field in order and finds under
      a member the column of its field; an entry with an unknown key or an unknown rule,
      wherever it stands, stops the derivation (`members_resolve_to_their_columns`).
-/

import Querycraft.Declaration.Derived
import Querycraft.Proofs.Rows

namespace Querycraft.Declaration

theorem bind_eq_ok_iff {ε α β : Type} {x : Except ε α} {next : α → Except ε β} {b : β} :
    (x >>= next) = .ok b ↔ ∃ a, x = .ok a ∧ next a = .ok b := by
  cases x with
  | error e =>
    constructor
    · intro h
      cases h
    · rintro ⟨a, h, -⟩
      cases h
  | ok a =>
    constructor
    · intro h
      exact ⟨a, rfl, h⟩
    · rintro ⟨_, h, next⟩
      cases h
      exact next

/-! ## (1) What is read from entries -/

def Entry.setting? : Entry → Option (String × String)
  | .setting key value | .unseparated key value => some (key, value)
  | .bare _ | .number .. => none

/-- Entries that can be read: keys with strings, and a comma behind each but the last. -/
inductive Readable : List Entry → Prop
  | nil : Readable []
  | last {key value : String} : keyFault? key = none → Readable [.unseparated key value]
  | setting {key value : String} {rest : List Entry} : keyFault? key = none → Readable rest →
      Readable (.setting key value :: rest)

theorem Entry.read_eq_ok_iff {e : Entry} {pair : String × String} :
    e.read = .ok pair ↔ keyFault? e.key = none ∧ e.setting? = some pair := by
  unfold Entry.read
  cases fault : keyFault? e.key with
  | some f => simp
  | none => cases e <;> simp [Entry.setting?]

theorem readEntries_last (key value : String) :
    Attribute.readEntries [.unseparated key value] =
      (Entry.read (.unseparated key value) >>= fun first => .ok [first]) :=
  rfl

theorem readEntries_unseparated (key value : String) (next : Entry) (rest : List Entry) :
    Attribute.readEntries (.unseparated key value :: next :: rest) =
      (Entry.read (.unseparated key value) >>= fun _ => .error .unexpectedToken) :=
  rfl

theorem readEntries_separated {e : Entry} (separated : ∀ key value, e ≠ .unseparated key value)
    (rest : List Entry) :
    Attribute.readEntries (e :: rest) =
      (e.read >>= fun first => Attribute.readEntries rest >>= fun others => .ok (first :: others)) := by
  cases e with
  | unseparated key value => exact absurd rfl (separated key value)
  | _ => rfl

theorem Readable.read {entries : List Entry} (h : Readable entries) :
    Attribute.readEntries entries = .ok (entries.filterMap Entry.setting?) := by
  induction h with
  | nil => rfl
  | @last key value clean =>
    rw [readEntries_last, bind_eq_ok_iff]
    exact ⟨(key, value), Entry.read_eq_ok_iff.mpr ⟨clean, rfl⟩, rfl⟩
  | @setting key value rest clean _ ih =>
    have separated : ∀ k v, Entry.setting key value ≠ .unseparated k v := fun k v same => by cases same
    rw [readEntries_separated separated, bind_eq_ok_iff]
    exact ⟨(key, value), Entry.read_eq_ok_iff.mpr ⟨clean, rfl⟩, bind_eq_ok_iff.mpr ⟨_, ih, rfl⟩⟩

theorem readable_of_readEntries {entries : List Entry} {pairs : List (String × String)}
    (h : Attribute.readEntries entries = .ok pairs) : Readable entries := by
  induction entries generalizing pairs with
  | nil => exact .nil
  | cons e rest ih =>
    by_cases unseparated : ∃ key value, e = .unseparated key value
    · obtain ⟨key, value, rfl⟩ := unseparated
      cases rest with
      | nil =>
        rw [readEntries_last, bind_eq_ok_iff] at h
        obtain ⟨pair, read, -⟩ := h
        exact .last (Entry.read_eq_ok_iff.mp read).1
      | cons next more =>
        rw [readEntries_unseparated, bind_eq_ok_iff] at h
        obtain ⟨pair, -, stopped⟩ := h
        cases stopped
    · have separated : ∀ key value, e ≠ .unseparated key value :=
        fun key value same => unseparated ⟨key, value, same⟩
      rw [readEntries_separated separated, bind_eq_ok_iff] at h
      obtain ⟨pair, read, others⟩ := h
      obtain ⟨clean, set⟩ := Entry.read_eq_ok_iff.mp read
      obtain ⟨_, later, -⟩ := bind_eq_ok_iff.mp others
      cases e with
      | bare key => cases set
      | number key digits => cases set
      | setting key value => exact .setting clean (ih later)
      | unseparated key value => exact absurd rfl (separated key value)

theorem readEntries_eq_ok_iff {entries : List Entry} {pairs : List (String × String)} :
    Attribute.readEntries entries = .ok pairs ↔ Readable entries ∧ pairs = entries.filterMap Entry.setting? := by
  constructor
  · intro h
    have readable := readable_of_readEntries h
    exact ⟨readable, Except.ok.inj (h.symm.trans readable.read)⟩
  · rintro ⟨readable, rfl⟩
    exact readable.read

def ownEntries (attributes : List Attribute) : List Entry :=
  (attributes.filter fun a => a.path = "sql").flatMap Attribute.entries

def ownSettings (attributes : List Attribute) : List (String × String) :=
  (ownEntries attributes).filterMap Entry.setting?

def AllReadable (attributes : List Attribute) : Prop := ∀ a ∈ attributes, a.path = "sql" → Readable a.entries

theorem settings_eq_ok_iff {attributes : List Attribute} {pairs : List (String × String)} :
    Attribute.settings attributes = .ok pairs ↔ AllReadable attributes ∧ pairs = ownSettings attributes := by
  induction attributes generalizing pairs with
  | nil => simp [Attribute.settings, AllReadable, ownSettings, ownEntries, eq_comm]
  | cons a rest ih =>
    rw [Attribute.settings, AllReadable, List.forall_mem_cons]
    by_cases own : a.path = "sql"
    · have both : ownSettings (a :: rest) = a.entries.filterMap Entry.setting? ++ ownSettings rest := by
        simp [ownSettings, ownEntries, own]
      rw [if_pos own, bind_eq_ok_iff, both]
      constructor
      · rintro ⟨first, read, others⟩
        obtain ⟨readable, rfl⟩ := readEntries_eq_ok_iff.mp read
        obtain ⟨_, later, same⟩ := bind_eq_ok_iff.mp others
        cases same
        obtain ⟨all, rfl⟩ := ih.mp later
        exact ⟨⟨fun _ => readable, all⟩, rfl⟩
      · rintro ⟨⟨readable, all⟩, rfl⟩
        exact ⟨_, (readable own).read, bind_eq_ok_iff.mpr ⟨_, ih.mpr ⟨all, rfl⟩, rfl⟩⟩
    · have others : ownSettings (a :: rest) = ownSettings rest := by
        simp [ownSettings, ownEntries, own]
      rw [if_neg own, ih, others, and_iff_right (fun same => absurd same own)]
      rfl

/-! ## (2) What types and fields take -/

def lastValue? (key : String) (pairs : List (String × String)) : Option String := pairs.reverse.lookup key

theorem lastValue?_cons_self (key value : String) (rest : List (String × String)) :
    lastValue? key ((key, value) :: rest) = (lastValue? key rest).or (some value) := by
  simp [lastValue?, List.lookup_append]

theorem lastValue?_cons_of_ne {key other : String} (h : key ≠ other) (value : String)
    (rest : List (String × String)) :
    lastValue? key ((other, value) :: rest) = lastValue? key rest := by
  have differs : (key == other) = false := beq_eq_false_iff_ne.mpr h
  simp [lastValue?, List.lookup_append, List.lookup_cons, differs]

theorem mem_of_lastValue? {key value : String} {pairs : List (String × String)}
    (h : lastValue? key pairs = some value) :
    (key, value) ∈ pairs := by
  obtain ⟨before, behind, split, -⟩ := List.lookup_eq_some_iff.mp h
  rw [← List.mem_reverse, split]
  exact List.mem_append_right _ List.mem_cons_self

def ruleNames : List String := ["PascalCase", "camelCase", "snake_case", "SCREAMING_SNAKE_CASE"]

theorem mem_ruleNames_iff {name : String} : name ∈ ruleNames ↔ ∃ rule, Naming.ofName? name = some rule := by
  unfold Naming.ofName?
  split <;> simp_all [ruleNames]

def OnType (pair : String × String) : Prop := pair.1 = "table" ∨ pair.1 = "rename_all" ∧ pair.2 ∈ ruleNames

def OnField (pair : String × String) : Prop := pair.1 = "column"

def lastRule? (pairs : List (String × String)) : Option Naming :=
  (lastValue? "rename_all" pairs).bind Naming.ofName?

/-- A rule counts unless one is given behind it. -/
theorem lastRule?_cons {value : String} {rule : Naming} (named : Naming.ofName? value = some rule)
    {rest : List (String × String)} (accepted : ∀ pair ∈ rest, OnType pair) :
    lastRule? (("rename_all", value) :: rest) = (lastRule? rest).or (some rule) := by
  unfold lastRule?
  rw [lastValue?_cons_self]
  cases found : lastValue? "rename_all" rest with
  | none => exact named
  | some later =>
    -- An unknown name behind the rule would hide it, but such a setting is not accepted.
    have known : later ∈ ruleNames := by
      rcases accepted _ (mem_of_lastValue? found) with table | rename
      · have other : "rename_all" = "table" := table
        exact absurd other (by decide)
      · exact rename.2
    obtain ⟨laterRule, same⟩ := mem_ruleNames_iff.mp known
    simp [same]

theorem typeSettings_of_accepted {pairs : List (String × String)} (accepted : ∀ pair ∈ pairs, OnType pair)
    (held : TypeSettings) :
    typeSettings pairs held =
      .ok ⟨(lastValue? "table" pairs).or held.table, (lastRule? pairs).getD held.naming⟩ := by
  induction pairs generalizing held with
  | nil => rfl
  | cons pair rest ih =>
    obtain ⟨key, value⟩ := pair
    rw [List.forall_mem_cons] at accepted
    rw [typeSettings]
    rcases accepted.1 with table | ⟨rename, known⟩
    · obtain rfl : key = "table" := table
      have rules : lastRule? (("table", value) :: rest) = lastRule? rest := by
        rw [lastRule?, lastValue?_cons_of_ne (by decide), lastRule?]
      rw [if_pos rfl, ih accepted.2, rules, lastValue?_cons_self, Option.or_assoc, Option.some_or]
    · obtain rfl : key = "rename_all" := rename
      obtain ⟨rule, named⟩ := mem_ruleNames_iff.mp known
      rw [if_neg (by decide), if_pos rfl, named, lastRule?_cons named accepted.2,
        lastValue?_cons_of_ne (by decide), Option.getD_or, Option.getD_some]
      exact ih accepted.2 _

theorem accepted_of_typeSettings {pairs : List (String × String)} {held settings : TypeSettings}
    (h : typeSettings pairs held = .ok settings) : ∀ pair ∈ pairs, OnType pair := by
  induction pairs generalizing held with
  | nil => exact fun _ member => absurd member List.not_mem_nil
  | cons pair rest ih =>
    obtain ⟨key, value⟩ := pair
    rw [List.forall_mem_cons]
    rw [typeSettings] at h
    split at h
    · rename_i table
      exact ⟨.inl table, ih h⟩
    · split at h
      · rename_i rename
        split at h
        · rename_i rule named
          exact ⟨.inr ⟨rename, mem_ruleNames_iff.mpr ⟨rule, named⟩⟩, ih h⟩
        · cases h
      · cases h

theorem fieldColumn_of_accepted {pairs : List (String × String)} (accepted : ∀ pair ∈ pairs, OnField pair)
    (held : Option String) : fieldColumn pairs held = .ok ((lastValue? "column" pairs).or held) := by
  induction pairs generalizing held with
  | nil => rfl
  | cons pair rest ih =>
    obtain ⟨key, value⟩ := pair
    rw [List.forall_mem_cons] at accepted
    obtain rfl : key = "column" := accepted.1
    rw [fieldColumn, if_pos rfl, ih accepted.2, lastValue?_cons_self, Option.or_assoc, Option.some_or]

theorem accepted_of_fieldColumn {pairs : List (String × String)} {held column : Option String}
    (h : fieldColumn pairs held = .ok column) : ∀ pair ∈ pairs, OnField pair := by
  induction pairs generalizing held with
  | nil => exact fun _ member => absurd member List.not_mem_nil
  | cons pair rest ih =>
    obtain ⟨key, value⟩ := pair
    rw [List.forall_mem_cons]
    rw [fieldColumn] at h
    split at h
    · rename_i known
      exact ⟨known, ih h⟩
    · cases h

/-! ## (3) What is derived -/

def Field.member (field : Field) : String := plainIdentifier field.identifier

/-- The column that a field should have: the last one given on it, or else the member by the
    type's rule. -/
def Field.columnName (naming : Naming) (field : Field) : String :=
  (lastValue? "column" (ownSettings field.attributes)).getD (naming.apply field.member)

def Field.constantName (field : Field) : String := Naming.screamingSnake.apply field.member

structure Field.Derivable (field : Field) : Prop where
  readable : AllReadable field.attributes
  accepted : ∀ pair ∈ ownSettings field.attributes, OnField pair
  constant : isConstantName field.constantName = true

def Field.derived (table : String) (naming : Naming) (field : Field) : (String × String) × Constant :=
  ((field.member, field.columnName naming),
    ⟨field.constantName, field.member, "`" ++ table ++ "." ++ field.columnName naming ++ "`"⟩)

theorem deriveField_eq_ok_iff {table : String} {naming : Naming} {field : Field}
    {derived : (String × String) × Constant} :
    deriveField table naming field = .ok derived ↔ field.Derivable ∧ derived = field.derived table naming := by
  unfold deriveField
  constructor
  · intro h
    obtain ⟨pairs, read, h⟩ := bind_eq_ok_iff.mp h
    obtain ⟨readable, rfl⟩ := settings_eq_ok_iff.mp read
    obtain ⟨named, given, h⟩ := bind_eq_ok_iff.mp h
    have accepted := accepted_of_fieldColumn given
    rw [fieldColumn_of_accepted accepted] at given
    cases given
    simp only at h
    split at h
    · rename_i constant
      cases h
      refine ⟨⟨readable, accepted, constant⟩, ?_⟩
      rw [Option.or_none]
      rfl
    · cases h
  · rintro ⟨⟨readable, accepted, constant⟩, rfl⟩
    refine bind_eq_ok_iff.mpr ⟨_, settings_eq_ok_iff.mpr ⟨readable, rfl⟩, ?_⟩
    refine bind_eq_ok_iff.mpr ⟨_, fieldColumn_of_accepted accepted none, ?_⟩
    rw [Option.or_none]
    exact if_pos constant

theorem deriveFields_eq_ok_iff {table : String} {naming : Naming} {fields : List Field}
    {derived : List ((String × String) × Constant)} :
    deriveFields table naming fields = .ok derived ↔
      (∀ field ∈ fields, field.Derivable) ∧ derived = fields.map (Field.derived table naming) := by
  induction fields generalizing derived with
  | nil => simp [deriveFields, eq_comm]
  | cons field rest ih =>
    rw [deriveFields, bind_eq_ok_iff, List.forall_mem_cons]
    constructor
    · rintro ⟨first, one, others⟩
      obtain ⟨derivable, rfl⟩ := deriveField_eq_ok_iff.mp one
      obtain ⟨_, later, same⟩ := bind_eq_ok_iff.mp others
      cases same
      obtain ⟨all, rfl⟩ := ih.mp later
      exact ⟨⟨derivable, all⟩, rfl⟩
    · rintro ⟨⟨derivable, all⟩, rfl⟩
      exact ⟨_, deriveField_eq_ok_iff.mpr ⟨derivable, rfl⟩, bind_eq_ok_iff.mpr ⟨_, ih.mpr ⟨all, rfl⟩, rfl⟩⟩

def namingOf (attributes : List Attribute) : Naming := (lastRule? (ownSettings attributes)).getD .asWritten

def tableOf (d : Declaration) : String := (lastValue? "table" (ownSettings d.attributes)).getD d.name

theorem typeSettings_of_attributes {attributes : List Attribute}
    (accepted : ∀ pair ∈ ownSettings attributes, OnType pair) :
    typeSettings (ownSettings attributes) {} =
      .ok ⟨lastValue? "table" (ownSettings attributes), namingOf attributes⟩ := by
  rw [typeSettings_of_accepted accepted, Option.or_none, namingOf]

structure Derivable (d : Declaration) (fields : List Field) : Prop where
  named : d.body = .named fields
  readable : AllReadable d.attributes
  accepted : ∀ pair ∈ ownSettings d.attributes, OnType pair
  each : ∀ field ∈ fields, field.Derivable

def entityOf (d : Declaration) (fields : List Field) : DerivedEntity :=
  let derived := fields.map (Field.derived d.tableOf (namingOf d.attributes))
  { entity := { name := d.name, table := d.tableOf, columns := derived.map Prod.fst }
    constants := derived.map Prod.snd }

theorem Derivable.derive {d : Declaration} {fields : List Field} (h : d.Derivable fields) :
    deriveEntity d = .ok (d.entityOf fields) := by
  simp only [deriveEntity, h.named]
  refine bind_eq_ok_iff.mpr ⟨_, settings_eq_ok_iff.mpr ⟨h.readable, rfl⟩, ?_⟩
  refine bind_eq_ok_iff.mpr ⟨_, typeSettings_of_attributes h.accepted, ?_⟩
  exact bind_eq_ok_iff.mpr ⟨_, deriveFields_eq_ok_iff.mpr ⟨h.each, rfl⟩, rfl⟩

theorem derivable_of_deriveEntity {d : Declaration} {derived : DerivedEntity} (h : deriveEntity d = .ok derived) :
    ∃ fields, d.Derivable fields := by
  unfold deriveEntity at h
  split at h
  · rename_i fields named
    obtain ⟨pairs, read, h⟩ := bind_eq_ok_iff.mp h
    obtain ⟨readable, rfl⟩ := settings_eq_ok_iff.mp read
    obtain ⟨settings, given, h⟩ := bind_eq_ok_iff.mp h
    obtain ⟨all, derives, -⟩ := bind_eq_ok_iff.mp h
    exact ⟨fields, named, readable, accepted_of_typeSettings given, (deriveFields_eq_ok_iff.mp derives).1⟩
  all_goals cases h

/-- An entity is derived exactly from the declarations that allow it. -/
theorem deriveEntity_eq_ok_iff {d : Declaration} {derived : DerivedEntity} :
    deriveEntity d = .ok derived ↔ ∃ fields, d.Derivable fields ∧ derived = d.entityOf fields := by
  constructor
  · intro h
    obtain ⟨fields, derivable⟩ := derivable_of_deriveEntity h
    exact ⟨fields, derivable, Except.ok.inj (h.symm.trans derivable.derive)⟩
  · rintro ⟨fields, derivable, rfl⟩
    exact derivable.derive

/-! ## (4) Members and their columns -/

theorem columns_entityOf (d : Declaration) (fields : List Field) :
    (d.entityOf fields).entity.columns =
      fields.map fun field => (field.member, field.columnName (namingOf d.attributes)) := by
  simp [entityOf, Field.derived]

theorem columnName_entityOf {d : Declaration} {fields : List Field} (distinct : (fields.map Field.member).Nodup)
    {field : Field} (member : field ∈ fields) :
    (d.entityOf fields).entity.columnName field.member = field.columnName (namingOf d.attributes) := by
  have once : (d.entityOf fields).entity.NamesOnce := by
    apply Entity.namesOnce_of_nodup
    rw [columns_entityOf, List.map_map]
    exact distinct
  apply once (field.member, field.columnName (namingOf d.attributes))
  rw [columns_entityOf]
  exact List.mem_map_of_mem member

/-- An entry that no type may have: its key is unknown, or the rule it names is. -/
def Entry.UnknownOnType (e : Entry) : Prop :=
  (e.key ≠ "table" ∧ e.key ≠ "rename_all") ∨ ∃ rule, e.setting? = some ("rename_all", rule) ∧ rule ∉ ruleNames

def Entry.UnknownOnField (e : Entry) : Prop := e.key ≠ "column"

theorem Readable.setting_of_mem {entries : List Entry} (h : Readable entries) {e : Entry} (member : e ∈ entries) :
    ∃ value, e.setting? = some (e.key, value) := by
  induction h with
  | nil => cases member
  | @last key value _ =>
    obtain rfl := List.mem_singleton.mp member
    exact ⟨value, rfl⟩
  | @setting key value rest _ _ ih =>
    rcases List.mem_cons.mp member with rfl | later
    · exact ⟨value, rfl⟩
    · exact ih later

/-- Every entry of attributes that can be read sets its key to something. -/
theorem AllReadable.setting_of_mem {attributes : List Attribute} (h : AllReadable attributes) {e : Entry}
    (member : e ∈ ownEntries attributes) :
    ∃ value, e.setting? = some (e.key, value) ∧ (e.key, value) ∈ ownSettings attributes := by
  obtain ⟨a, own, inside⟩ := List.mem_flatMap.mp member
  obtain ⟨listed, path⟩ := List.mem_filter.mp own
  obtain ⟨value, set⟩ := (h a listed (of_decide_eq_true path)).setting_of_mem inside
  exact ⟨value, set, List.mem_filterMap.mpr ⟨e, member, set⟩⟩

theorem Derivable.known_on_type {d : Declaration} {fields : List Field} (h : d.Derivable fields) {e : Entry}
    (member : e ∈ ownEntries d.attributes) : ¬ e.UnknownOnType := by
  obtain ⟨value, set, listed⟩ := h.readable.setting_of_mem member
  have accepted := h.accepted _ listed
  rintro (⟨table, rename⟩ | ⟨rule, same, unknown⟩)
  · rcases accepted with key | ⟨key, -⟩
    · exact table key
    · exact rename key
  · rw [set, Option.some.injEq, Prod.mk.injEq] at same
    obtain ⟨key, rfl⟩ := same
    rcases accepted with table | ⟨-, known⟩
    · have other : "rename_all" = "table" := key.symm.trans table
      exact absurd other (by decide)
    · exact unknown known

theorem Field.Derivable.known_on_field {field : Field} (h : field.Derivable) {e : Entry}
    (member : e ∈ ownEntries field.attributes) : ¬ e.UnknownOnField := by
  obtain ⟨value, -, listed⟩ := h.readable.setting_of_mem member
  exact not_not_intro (h.accepted _ listed)

/-- (4) From a type whose members differ, an entity that is derived has a pair for each field in
    order, and the column of a member is the last one given on its field or else the member by
    the type's last rule. An unknown entry on the type or on a field stops the derivation. -/
theorem members_resolve_to_their_columns (d : Declaration) :
    (∀ fields derived, d.body = .named fields → (fields.map Field.member).Nodup → deriveEntity d = .ok derived →
        (derived.entity.columns =
            fields.map fun field => (field.member, field.columnName (namingOf d.attributes))) ∧
          ∀ field ∈ fields, derived.entity.columnName field.member = field.columnName (namingOf d.attributes)) ∧
      ((∃ e ∈ ownEntries d.attributes, e.UnknownOnType) ∨
          (∃ fields, d.body = .named fields ∧
            ∃ field ∈ fields, ∃ e ∈ ownEntries field.attributes, e.UnknownOnField) →
        ∃ fault, deriveEntity d = .error fault) := by
  refine ⟨?_, ?_⟩
  · intro fields derived named distinct h
    obtain ⟨fields', derivable, rfl⟩ := deriveEntity_eq_ok_iff.mp h
    obtain rfl : fields' = fields := by
      have same := derivable.named.symm.trans named
      exact Body.named.inj same
    exact ⟨columns_entityOf d fields', fun field member => columnName_entityOf distinct member⟩
  · intro unknown
    cases h : deriveEntity d with
    | error fault => exact ⟨fault, rfl⟩
    | ok derived =>
      obtain ⟨fields, derivable, -⟩ := deriveEntity_eq_ok_iff.mp h
      rcases unknown with ⟨e, member, bad⟩ | ⟨fields', named, field, listed, e, member, bad⟩
      · exact absurd bad (derivable.known_on_type member)
      · obtain rfl : fields = fields' := Body.named.inj (derivable.named.symm.trans named)
        exact absurd bad ((derivable.each field listed).known_on_field member)

/-- Two rules and two columns, of which the last count, on a type that also has a field named
    by a reserved word; and the same type with a rule that does not exist before them. -/
theorem members_resolve_to_their_columns_repeated :
    let rules : Attribute := ⟨"sql", [.setting "rename_all" "camelCase", .setting "rename_all" "PascalCase"]⟩
    let email : Field := ⟨"email", [⟨"sql", [.setting "column" "Mail"]⟩, ⟨"sql", [.unseparated "column" "EmailAddress"]⟩]⟩
    let kind : Field := ⟨"r#type", [⟨"doc", [.bare "column"]⟩]⟩
    let user : Declaration := ⟨"User", [rules], .named [email, kind]⟩
    let other : Declaration := ⟨"User", [⟨"sql", [.setting "rename_all" "kebab-case"]⟩, rules], .named [email, kind]⟩
    (∃ derived, deriveEntity user = .ok derived ∧ derived.entity.columnName "email" = "EmailAddress" ∧
        derived.entity.columnName "type" = "Type") ∧
      ∃ fault, deriveEntity other = .error fault := by
  intro rules email kind user other
  have derivable : (deriveEntity user).isOk = true := by decide +kernel
  have distinct : ([email, kind].map Field.member).Nodup := by decide +kernel
  have unknown : Entry.UnknownOnType (.setting "rename_all" "kebab-case") := .inr ⟨_, rfl, by decide⟩
  have listed : .setting "rename_all" "kebab-case" ∈ ownEntries other.attributes := by
    simp [ownEntries, other]
  have mail : email.member = "email" ∧ email.columnName (namingOf user.attributes) = "EmailAddress" := by decide +kernel
  have type : kind.member = "type" ∧ kind.columnName (namingOf user.attributes) = "Type" := by decide +kernel
  refine ⟨?_, (members_resolve_to_their_columns other).2 (.inl ⟨_, listed, unknown⟩)⟩
  cases h : deriveEntity user with
  | error fault =>
    rw [h] at derivable
    cases derivable
  | ok derived =>
    obtain ⟨-, columns⟩ := (members_resolve_to_their_columns user).1 _ derived rfl distinct h
    have first := columns email List.mem_cons_self
    have second := columns kind (List.mem_cons_of_mem _ List.mem_cons_self)
    have mailed := (congrArg derived.entity.columnName mail.1).symm.trans (first.trans mail.2)
    have typed := (congrArg derived.entity.columnName type.1).symm.trans (second.trans type.2)
    exact ⟨derived, rfl, mailed, typed⟩

end Querycraft.Declaration
