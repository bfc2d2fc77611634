/-
  Querycraft.Proofs.Binding — parameters numbered as they are bound.

  A draft issues names by counting: the `i`-th is its stem followed by `i`, and the
  placeholder for it shows the position `i - base`. Binding values only ever takes the
  next names (`mapM_binding`, `push_eq`), so what a draft becomes by binding is one
  closed expression, `bindValues`, with nothing else changed.

  `Numbered start values d` says that a draft holds exactly these values, under the names
  that follow `start`, and that the counter stands behind the last. Binding more values
  appends them (`Numbered.binds`): no name was taken before.
-/

import Querycraft.Draft.Basic

namespace Querycraft

/-! ## Names never clash -/

theorem toString_nat_injective {m n : Nat} (h : toString m = toString n) : m = n := by
  have digits : Nat.toDigits 10 m = Nat.toDigits 10 n := by
    rw [← Nat.toList_repr, ← Nat.toList_repr]
    exact congrArg String.toList h
  have value := congrArg (Nat.ofDigitChars 10 · 0) digits
  simpa [Nat.ofDigitChars_toDigits] using value

/-! ## Maps of parameters -/

namespace Parameters

@[simp] theorem names_mk (entries : List (String × Value)) :
    Parameters.names ⟨entries⟩ = entries.map Prod.fst := rfl

theorem add_of_fresh {p : Parameters} {name : String} {value : Value} (h : name ∉ p.names) :
    (p.add name value).1 = ⟨p.entries ++ [(name, value)]⟩ := by
  simp [add, contains, h]

theorem extend_cons (p : Parameters) (name : String) (value : Value) (rest : List (String × Value)) :
    p.extend ⟨(name, value) :: rest⟩ = (p.add name value).1.extend ⟨rest⟩ := rfl

theorem extend_append (p : Parameters) (first second : List (String × Value)) :
    p.extend ⟨first ++ second⟩ = (p.extend ⟨first⟩).extend ⟨second⟩ := by
  simp [extend, List.foldl_append]

/-- Names that are new and differ from one another are all added, in order. -/
theorem extend_of_fresh (p : Parameters) (entries : List (String × Value))
    (fresh : ∀ name ∈ entries.map Prod.fst, name ∉ p.names) (distinct : (entries.map Prod.fst).Nodup) :
    p.extend ⟨entries⟩ = ⟨p.entries ++ entries⟩ := by
  induction entries generalizing p with
  | nil => simp [extend]
  | cons entry rest ih =>
    obtain ⟨name, value⟩ := entry
    simp only [List.map_cons, List.nodup_cons] at distinct
    have new : name ∉ p.names := fresh name (by simp)
    rw [extend_cons, add_of_fresh new, ih]
    · simp
    · intro other member held
      simp only [names_mk, List.map_append, List.map_cons, List.map_nil, List.mem_append,
        List.mem_singleton] at held
      rcases held with held | rfl
      · exact fresh other (by simp [member]) held
      · exact distinct.1 member
    · exact distinct.2

end Parameters

/-! ## Fragments with numbered operands -/

namespace Fragment

def countOff (issue : Nat → β) (_ : α) : StateM Nat β := fun i => (issue i, i + 1)

def numbered (issue : Nat → β) (i : Nat) (fragment : Fragment α) : Fragment β :=
  ((fragment.mapM (countOff issue)).run i).1

def numberedAll (issue : Nat → β) : Nat → List (Fragment α) → List (Fragment β)
  | _, [] => []
  | i, fragment :: rest =>
    fragment.numbered issue i :: numberedAll issue (i + fragment.operands.length) rest

theorem mapM_countOff (issue : Nat → β) (values : List α) (i : Nat) :
    (values.mapM (countOff issue)).run i = ((List.range' i values.length).map issue, i + values.length) := by
  induction values generalizing i with
  | nil => rfl
  | cons value rest ih =>
    have first : ((value :: rest).mapM (countOff issue)).run i =
        (issue i :: ((rest.mapM (countOff issue)).run (i + 1)).1,
          ((rest.mapM (countOff issue)).run (i + 1)).2) := by
      rw [List.mapM_cons]
      rfl
    rw [first, ih, List.length_cons, List.range'_succ, List.map_cons,
      show i + 1 + rest.length = i + (rest.length + 1) by omega]

theorem numbered_inList (issue : Nat → β) (i : Nat) (column : Column) (negated : Bool) (values : List α) :
    (Fragment.inList column negated values).numbered issue i =
      .inList column negated ((List.range' i values.length).map issue) := by
  show Fragment.inList column negated ((values.mapM (countOff issue)).run i).1 = _
  rw [mapM_countOff]

theorem operands_numbered (issue : Nat → β) (i : Nat) (fragment : Fragment α) :
    (fragment.numbered issue i).operands = (List.range' i fragment.operands.length).map issue := by
  cases fragment with
  | inList column negated values =>
    rw [numbered_inList]
    rfl
  | _ => rfl

end Fragment

/-! ## Names and placeholders by number -/

namespace Draft

def parameterName (d : Draft) (i : Nat) : String := d.stem ++ toString i

def issued (d : Draft) (i : Nat) : Placeholder :=
  d.dialect.placeholder (d.parameterName i) (i - d.base)

/-- The placeholders that the next `n` values get. -/
def upcoming (d : Draft) (n : Nat) : List Placeholder :=
  (List.range' (d.counter + 1) n).map d.issued

def numberedEntries (d : Draft) (i : Nat) (values : List Value) : List (String × Value) :=
  (values.zipIdx i).map fun (value, k) => (d.parameterName k, value)

def bindValues (values : List Value) (d : Draft) : Draft :=
  { d with
    parameters := d.parameters.extend ⟨d.numberedEntries (d.counter + 1) values⟩
    counter := d.counter + values.length }

theorem parameterName_injective {d : Draft} {i j : Nat} (h : d.parameterName i = d.parameterName j) :
    i = j := by
  simp only [parameterName, String.append_right_inj] at h
  exact toString_nat_injective h

/-- Different numbers and positions give different placeholder texts, whichever of the two
    the dialect shows. -/
theorem placeholder_ne (d : Draft) {i j p q : Nat} (names : i ≠ j) (positions : p ≠ q) :
    d.dialect.parameter (d.parameterName i) p ≠ d.dialect.parameter (d.parameterName j) q := by
  intro same
  cases dialect : d.dialect with
  | postgres =>
    simp only [dialect, Dialect.parameter, String.append_right_inj] at same
    exact positions (toString_nat_injective same)
  | _ =>
    simp only [dialect, Dialect.parameter, String.append_right_inj] at same
    exact names (parameterName_injective same)

theorem numberedEntries_append (d : Draft) (i : Nat) (first second : List Value) :
    d.numberedEntries i (first ++ second) =
      d.numberedEntries i first ++ d.numberedEntries (i + first.length) second := by
  simp [numberedEntries, List.zipIdx_append]

theorem map_fst_numberedEntries (d : Draft) (i : Nat) (values : List Value) :
    (d.numberedEntries i values).map Prod.fst = (List.range' i values.length).map d.parameterName := by
  induction values generalizing i with
  | nil => rfl
  | cons value rest ih =>
    simp only [numberedEntries, List.zipIdx_cons, List.map_cons, List.length_cons,
      List.range'_succ] at ih ⊢
    rw [ih]

theorem map_snd_numberedEntries (d : Draft) (i : Nat) (values : List Value) :
    (d.numberedEntries i values).map Prod.snd = values := by
  induction values generalizing i with
  | nil => rfl
  | cons value rest ih =>
    simp only [numberedEntries, List.zipIdx_cons, List.map_cons] at ih ⊢
    rw [ih]

theorem upcoming_add (d : Draft) (m n : Nat) :
    d.upcoming (m + n) = d.upcoming m ++ (List.range' (d.counter + m + 1) n).map d.issued := by
  simp only [upcoming, ← List.map_append]
  rw [show d.counter + m + 1 = d.counter + 1 + 1 * m by omega, List.range'_append]

/-! ## Binding takes the next names -/

@[simp] theorem bindValues_nil (d : Draft) : d.bindValues [] = d := rfl

theorem bindValues_append (d : Draft) (first second : List Value) :
    d.bindValues (first ++ second) = (d.bindValues first).bindValues second := by
  simp only [bindValues, numberedEntries_append, Parameters.extend_append, List.length_append]
  rw [show d.counter + (first.length + second.length) = d.counter + first.length + second.length by omega,
    show d.counter + 1 + first.length = d.counter + first.length + 1 by omega]
  rfl

theorem run_mapM_binding_cons (value : Value) (rest : List Value) (d : Draft) :
    ((value :: rest).mapM binding).run d =
      (d.issued (d.counter + 1) :: ((rest.mapM binding).run (d.bindValues [value])).1,
        ((rest.mapM binding).run (d.bindValues [value])).2) := by
  rw [List.mapM_cons]
  rfl

/-- Values bound from left to right get the next placeholders in that order. -/
theorem mapM_binding (values : List Value) (d : Draft) :
    (values.mapM binding).run d = (d.upcoming values.length, d.bindValues values) := by
  induction values generalizing d with
  | nil => rfl
  | cons value rest ih =>
    have next : d.upcoming (rest.length + 1) =
        d.issued (d.counter + 1) :: (d.bindValues [value]).upcoming rest.length := rfl
    rw [run_mapM_binding_cons, ih, List.length_cons, next, ← bindValues_append]
    rfl

theorem bindAll_eq (values : List Value) (d : Draft) :
    d.bindAll values = (d.upcoming values.length, d.bindValues values) :=
  mapM_binding values d

/-! ## Conditions -/

theorem push_eq (d : Draft) (fragment : Fragment Value) :
    d.push fragment =
      { d.bindValues fragment.operands with
        conditions := d.conditions ++ [fragment.numbered d.issued (d.counter + 1)] } := by
  cases fragment with
  | inList column negated values =>
    have run : ((Fragment.inList column negated values).mapM binding).run d =
        (.inList column negated (d.upcoming values.length), d.bindValues values) := by
      show (Fragment.inList column negated ((values.mapM binding).run d).1,
        ((values.mapM binding).run d).2) = _
      rw [mapM_binding]
    simp only [push, run, Fragment.numbered_inList]
    rfl
  | _ => rfl

def pushAll (fragments : List (Fragment Value)) (d : Draft) : Draft :=
  fragments.foldl (fun d fragment => d.push fragment) d

/-- Fragments pushed in order are numbered in order. -/
theorem pushAll_eq (d : Draft) (fragments : List (Fragment Value)) :
    d.pushAll fragments =
      { d.bindValues (fragments.flatMap Fragment.operands) with
        conditions := d.conditions ++ Fragment.numberedAll d.issued (d.counter + 1) fragments } := by
  induction fragments generalizing d with
  | nil => simp [pushAll, Fragment.numberedAll]
  | cons fragment rest ih =>
    rw [show d.pushAll (fragment :: rest) = (d.push fragment).pushAll rest from rfl, ih, push_eq,
      List.flatMap_cons, bindValues_append]
    simp only [Fragment.numberedAll, bindValues]
    rw [show d.counter + fragment.operands.length + 1 = d.counter + 1 + fragment.operands.length by omega]
    simp only [List.append_assoc]
    rfl

/-! ## What a draft holds -/

/-- A draft that took on exactly these values, and kept its dialect and its numbering. -/
structure Binds (values : List Value) (d d' : Draft) : Prop where
  dialect : d'.dialect = d.dialect
  stem : d'.stem = d.stem
  base : d'.base = d.base
  parameters : d'.parameters = (d.bindValues values).parameters
  counter : d'.counter = d.counter + values.length

theorem Binds.refl (d : Draft) : Binds [] d d := ⟨rfl, rfl, rfl, rfl, rfl⟩

theorem binds_bindValues (d : Draft) (values : List Value) : Binds values d (d.bindValues values) :=
  ⟨rfl, rfl, rfl, rfl, rfl⟩

theorem Binds.trans {first second : List Value} {d d' d'' : Draft} (h : Binds first d d')
    (h' : Binds second d' d'') : Binds (first ++ second) d d'' := by
  refine ⟨h'.dialect.trans h.dialect, h'.stem.trans h.stem, h'.base.trans h.base, ?_, ?_⟩
  · rw [h'.parameters, bindValues_append]
    simp only [bindValues, numberedEntries, parameterName, h.parameters, h.counter, h.stem]
  · rw [h'.counter, h.counter, List.length_append]
    omega

theorem Binds.issued {values : List Value} {d d' : Draft} (h : Binds values d d') : d'.issued = d.issued := by
  funext i
  simp only [Draft.issued, parameterName, h.dialect, h.stem, h.base]

/-- The placeholders of more values follow those of the first. -/
theorem Binds.upcoming_append {values : List Value} {d d' : Draft} (h : Binds values d d') (n : Nat) :
    d.upcoming (values.length + n) = d.upcoming values.length ++ d'.upcoming n := by
  rw [upcoming_add]
  simp only [upcoming, h.counter, h.issued]

/-- The draft holds exactly these values, under the names that follow `start`. -/
structure Numbered (start : Nat) (values : List Value) (d : Draft) : Prop where
  counter : d.counter = start + values.length
  entries : d.parameters.entries = d.numberedEntries (start + 1) values

theorem Numbered.names {start : Nat} {values : List Value} {d : Draft} (h : d.Numbered start values) :
    d.parameters.names = (List.range' (start + 1) values.length).map d.parameterName := by
  rw [Parameters.names, h.entries, map_fst_numberedEntries]

theorem Numbered.values {start : Nat} {values : List Value} {d : Draft} (h : d.Numbered start values) :
    d.parameters.values = values := by
  rw [Parameters.values, h.entries, map_snd_numberedEntries]

theorem names_nodup (d : Draft) (i n : Nat) : ((List.range' i n).map d.parameterName).Nodup :=
  List.Pairwise.map _ (fun _ _ differ same => differ (parameterName_injective same)) List.nodup_range'

/-- Values bound to the next names are appended to those that are there. -/
theorem Numbered.binds {start : Nat} {values more : List Value} {d d' : Draft}
    (h : d.Numbered start values) (b : Binds more d d') : d'.Numbered start (values ++ more) := by
  have next : d.counter + 1 = start + 1 + values.length := by
    rw [h.counter]
    omega
  have fresh : ∀ name ∈ (d.numberedEntries (d.counter + 1) more).map Prod.fst,
      name ∉ d.parameters.names := by
    intro name member held
    rw [map_fst_numberedEntries] at member
    rw [h.names] at held
    obtain ⟨i, hi, rfl⟩ := List.mem_map.mp member
    obtain ⟨j, hj, same⟩ := List.mem_map.mp held
    have := parameterName_injective same
    simp only [List.mem_range'_1] at hi hj
    omega
  have distinct : ((d.numberedEntries (d.counter + 1) more).map Prod.fst).Nodup := by
    rw [map_fst_numberedEntries]
    exact names_nodup d _ _
  refine ⟨?_, ?_⟩
  · rw [b.counter, h.counter, List.length_append]
    omega
  · rw [b.parameters, bindValues, Parameters.extend_of_fresh _ _ fresh distinct]
    simp only [h.entries, next, ← numberedEntries_append]
    simp only [numberedEntries, parameterName, b.stem]

/-! ## Drafts on the side -/

theorem offshoot_numbered (d : Draft) (table : String) (operation : Operation) :
    (d.offshoot table operation).Numbered d.counter [] := ⟨rfl, rfl⟩

end Draft

end Querycraft
