/-
  Querycraft.Proofs.Freshness — whether a placeholder stands for the value it was given for.

  A map of parameters ignores a name that it holds, so a value is stored only if the next
  name is new (`stores_iff`). A draft is `Ahead` if it holds no name that it has still to
  issue; exactly then every value bound from there on is stored (`ahead_iff`). Both are
  about the names that the 64-bit counter has left: a draft can bind as many values as
  there is `Room` for.

  Not every draft is: a caller may give a parameter a name in advance, set the numbering
  back, change the stem, or take in a draft that did, and the bind that reaches the name
  hands out a placeholder for another value (`a_name_given_in_advance_is_taken`). The
  rules of `Call.Orderly` rule this out (`Reached.ahead`); they ask nothing of the calls
  that add to a clause, of offshoots, or of a draft taken in that has the same stem.
-/

import Querycraft.Proofs.Calls

namespace Querycraft

/-! ## Looking parameters up -/

namespace Parameters

theorem get?_eq_none_iff {p : Parameters} {name : String} : p.get? name = none ↔ name ∉ p.names := by
  simp only [get?, List.lookup_eq_none_iff, names, List.mem_map, not_exists, not_and, bne_iff_ne]
  exact ⟨fun h entry member same => h entry member same.symm, fun h entry member same => h entry member same.symm⟩

theorem exists_get?_of_mem {p : Parameters} {name : String} (h : name ∈ p.names) :
    ∃ held, p.get? name = some held := by
  rw [← Option.ne_none_iff_exists']
  exact fun absent => get?_eq_none_iff.mp absent h

theorem get?_add_of_fresh {p : Parameters} {name : String} (h : name ∉ p.names) (value : Value) (other : String) :
    (p.add name value).1.get? other = (p.get? other).or (if other = name then some value else none) := by
  rw [add_of_fresh h, get?, List.lookup_append, ← get?]
  by_cases same : other = name
  · simp [same]
  · simp [List.lookup_cons, same, beq_eq_false_iff_ne.mpr same]

/-- A name that is held keeps its value. -/
theorem get?_add_of_some {p : Parameters} {other : String} {held : Value} (h : p.get? other = some held)
    (name : String) (value : Value) : (p.add name value).1.get? other = some held := by
  by_cases taken : name ∈ p.names
  · rwa [names_add_of_mem taken]
  · rw [get?_add_of_fresh taken, h, Option.some_or]

theorem get?_add_self (p : Parameters) (name : String) (value : Value) :
    (p.add name value).1.get? name = some ((p.get? name).getD value) := by
  by_cases taken : name ∈ p.names
  · obtain ⟨held, found⟩ := exists_get?_of_mem taken
    rw [names_add_of_mem taken, found, Option.getD_some]
  · rw [get?_add_of_fresh taken, get?_eq_none_iff.mpr taken]
    simp

theorem get?_extend_of_some {p : Parameters} {name : String} {held : Value} (h : p.get? name = some held)
    (other : Parameters) : (p.extend other).get? name = some held := by
  obtain ⟨entries⟩ := other
  induction entries generalizing p with
  | nil => exact h
  | cons entry rest ih =>
    obtain ⟨first, value⟩ := entry
    rw [extend_cons]
    exact ih (get?_add_of_some h first value)

end Parameters

namespace Draft

open Drafting

/-! ## Names still to come -/

/-- The draft has still to issue this name. -/
def Awaits (d : Draft) (name : String) : Prop :=
  ∃ i, d.counter < i ∧ i < UInt64.size ∧ name = d.parameterName i

/-- No parameter is held under a name still to come. -/
def Ahead (d : Draft) : Prop := ∀ name ∈ d.parameters.names, ¬ d.Awaits name

/-- A value bound now is stored under the name that its placeholder was made for. -/
def Stores (d : Draft) (value : Value) : Prop :=
  (d.bind value).2.parameters.get? (d.bind value).1.name = some value

/-- The name of the next placeholder is the next one in number. -/
theorem name_bind (d : Draft) (value : Value) : (d.bind value).1.name = d.parameterName (d.counter + 1) := rfl

theorem parameters_bind (d : Draft) (value : Value) :
    (d.bind value).2.parameters = (d.parameters.add (d.parameterName (d.counter + 1)) value).1 := rfl

/-- A value is stored unless another one is held under the next name. -/
theorem stores_iff {d : Draft} {value : Value} :
    d.Stores value ↔ ∀ held, d.parameters.get? (d.bind value).1.name = some held → held = value := by
  rw [Stores, parameters_bind, name_bind, Parameters.get?_add_self]
  cases d.parameters.get? (d.parameterName (d.counter + 1)) with
  | none => simp
  | some held => simp

theorem Ahead.stores {d : Draft} (h : d.Ahead) (room : d.Room 1) (value : Value) : d.Stores value := by
  have fresh : d.parameterName (d.counter + 1) ∉ d.parameters.names := fun member =>
    h _ member ⟨d.counter + 1, Nat.lt_succ_self _, room, rfl⟩
  refine stores_iff.mpr fun held found => ?_
  rw [name_bind, Parameters.get?_eq_none_iff.mpr fresh] at found
  cases found

/-! ## What keeps a draft ahead -/

/-- With the same stem, a draft that has counted further awaits fewer names. -/
theorem Awaits.of_le {d d' : Draft} {name : String} (h : d'.Awaits name) (stem : d'.stem = d.stem)
    (counter : d.counter ≤ d'.counter) : d.Awaits name := by
  obtain ⟨i, later, range, rfl⟩ := h
  exact ⟨i, Nat.lt_of_le_of_lt counter later, range, by rw [parameterName, stem, parameterName]⟩

theorem ahead_of_isEmpty {d : Draft} (h : d.parameters.isEmpty = true) : d.Ahead := by
  intro name member
  rw [Parameters.names, List.isEmpty_iff.mp h] at member
  cases member

/-- Bound values have names that the draft has issued by then. -/
theorem Ahead.binds {values : List Value} {d d' : Draft} (h : d.Ahead) (b : Binds values d d') : d'.Ahead := by
  intro name member awaited
  rw [b.parameters, bindValues, Parameters.mem_names_extend] at member
  rcases member with old | new
  · refine h name old (awaited.of_le b.stem ?_)
    rw [b.counter]
    exact Nat.le_add_right _ _
  · rw [Parameters.names_mk, map_fst_numberedEntries] at new
    obtain ⟨i, range, rfl⟩ := List.mem_map.mp new
    obtain ⟨j, later, -, same⟩ := awaited
    rw [parameterName, parameterName, b.stem] at same
    obtain rfl : i = j := parameterName_injective (d := d) same
    rw [b.counter] at later
    rw [List.mem_range'_1] at range
    omega

/-- Exactly the drafts that are ahead store every value bound from there on. -/
theorem ahead_iff {d : Draft} :
    d.Ahead ↔ ∀ values value, d.Room (values.length + 1) → (d.bindAll values).2.Stores value := by
  constructor
  · intro ahead values value room
    rw [bindAll, mapM_binding]
    have left : (d.bindValues values).Room 1 := by
      unfold Room at room ⊢
      rwa [← Nat.add_assoc] at room
    exact (ahead.binds (binds_bindValues d values)).stores left value
  · rintro stored name member ⟨i, later, range, rfl⟩
    obtain ⟨held, found⟩ := Parameters.exists_get?_of_mem member
    -- The bind that gets to the name finds the value that is there, whatever is bound.
    have reached (value : Value) : held = value := by
      have room : d.Room ((List.replicate (i - d.counter - 1) Value.null).length + 1) := by
        unfold Room
        rw [List.length_replicate]
        omega
      have binds := stored (List.replicate (i - d.counter - 1) .null) value room
      rw [bindAll, mapM_binding, stores_iff, name_bind] at binds
      refine binds held ?_
      rw [show (d.bindValues (List.replicate (i - d.counter - 1) .null)).counter + 1 = i by
        simp only [bindValues, List.length_replicate]
        omega]
      exact Parameters.get?_extend_of_some found _
    cases (reached .null).symm.trans (reached (.bool true))

/-! ## Orderly calls -/

/-- Stem and numbering are chosen before anything is held, or kept and not set back; a
    parameter gets no name still to come; and a draft that is taken in has the same stem,
    or none of its names is still to come. -/
def Call.Orderly (d : Draft) : Call → Prop
  | .stem letters => letters = d.stem ∨ d.parameters.isEmpty = true
  | .numbering index => d.counter ≤ index.toNat ∨ d.parameters.isEmpty = true
  | .parameter name _ => ¬ d.Awaits name
  | .splice _ sub => sub.stem = d.stem ∨ ∀ name ∈ sub.parameters.names, ¬ d.Awaits name
  | .issue | .primitive _ => True

theorem Ahead.takes {sub d d' : Draft} {text : Sql} (h : d.Ahead) (inner : sub.Ahead)
    (orderly : sub.stem = d.stem ∨ ∀ name ∈ sub.parameters.names, ¬ d.Awaits name)
    (taken : Takes sub text d d') : d'.Ahead := by
  intro name member awaited
  have ours : d.Awaits name := awaited.of_le taken.stem (by rw [taken.counter]; exact Nat.le_max_left _ _)
  rw [taken.parameters, Parameters.mem_names_extend] at member
  rcases member with old | new
  · exact h name old ours
  · rcases orderly with stem | apart
    · refine inner name new (awaited.of_le (taken.stem.trans stem.symm) ?_)
      rw [taken.counter]
      exact Nat.le_max_right _ _
    · exact apart name new ours

theorem Ahead.orderly {c : Call} {d : Draft} (h : d.Ahead) (inner : ∀ sub, c.other? = some sub → sub.Ahead)
    (orderly : c.Orderly d) : (d.after c.run).Ahead := by
  cases c with
  | stem letters =>
    rcases orderly with rfl | none
    · exact h
    · exact ahead_of_isEmpty (d := d.withStem letters) none
  | numbering index =>
    rcases orderly with further | none
    · exact fun name member awaited => h name member (awaited.of_le rfl further)
    · exact ahead_of_isEmpty (d := d.numberedFrom index.toNat) none
  | issue => exact fun name member awaited => h name member (awaited.of_le rfl (Nat.le_succ _))
  | parameter name value =>
    intro other member awaited
    rcases Parameters.mem_names_add.mp member with old | rfl
    · exact h other old awaited
    · exact orderly awaited
  | primitive p =>
    obtain ⟨values, grown⟩ := p.grows d
    exact h.binds grown.toBinds
  | splice how sub =>
    rcases how.after_cases sub d with accepted | refused
    · exact h.takes (inner sub rfl) orderly (Splice.takes_of_gives accepted)
    · exact (refused.symm ▸ h : (d.after (how.run sub)).Ahead)

/-- Orderly calls lead to drafts that are ahead. -/
theorem Reached.ahead {d : Draft} (h : Reached Call.Orderly d) : d.Ahead := by
  induction h with
  | start dialect table => exact ahead_of_isEmpty rfl
  | offshoot table operation _ _ => exact ahead_of_isEmpty rfl
  | call _ orderly _ _ ih inner => exact ih.orderly inner orderly

/-! ## Placeholders and values -/

/-- In every draft a bind keeps the values that are stored, and stores its own unless
    another one is held under the next name. As far as the counter reaches, every bind from
    there on stores its value if and only if no name still to come is held, and this is so
    wherever orderly calls lead. -/
theorem bind_stores_value (d : Draft) :
    (∀ value name held, d.parameters.get? name = some held →
      (d.bind value).2.parameters.get? name = some held) ∧
    (∀ value, d.Stores value ↔
      ∀ held, d.parameters.get? (d.bind value).1.name = some held → held = value) ∧
    (d.Ahead ↔ ∀ values value, d.Room (values.length + 1) → (d.bindAll values).2.Stores value) ∧
    (Reached Call.Orderly d → ∀ values value, d.Room (values.length + 1) → (d.bindAll values).2.Stores value) := by
  refine ⟨fun value name held found => ?_, fun value => stores_iff, ahead_iff, fun reached => ?_⟩
  · rw [parameters_bind]
    exact Parameters.get?_add_of_some found _ value
  · exact ahead_iff.mp reached.ahead

theorem bind_stores_value_after_adoption :
    ∃ d, Reached Call.Orderly d ∧ d.parameters.names = ["P2", "P5", "P6"] ∧ d.Room 1000 ∧
      ∀ values value, d.Room (values.length + 1) → (d.bindAll values).2.Stores value := by
  have numbered : Reached Call.Orderly (((onTable .postgres "Users").withStem "P").numberedFrom 4) :=
    ((Reached.start .postgres "Users").alone (.stem "P") (.inr rfl) (by decide) rfl).alone (.numbering 4) (.inr rfl)
      (by decide) rfl
  have behind : ¬ (((onTable .postgres "Users").withStem "P").numberedFrom 4).Awaits "P2" := by
    rintro ⟨i, later, -, same⟩
    have : 2 = i := parameterName_injective (d := (onTable .postgres "Users").withStem "P") same
    exact absurd later (by subst this; decide)
  have named := numbered.alone (.parameter "P2" (.int 7)) behind (by decide) rfl
  have bound := named.alone (.primitive (.bind (.text "a"))) trivial (by decide) rfl
  have aside := (bound.offshoot "Groups" .select).alone (.primitive (.bind .null)) trivial (by decide) rfl
  have taken := bound.splice .adopt aside (.inl rfl) (by decide)
  exact ⟨_, taken, by decide +kernel, by decide +kernel, (bind_stores_value _).2.2.2 taken⟩

/-- A parameter named in advance: the value bound when numbering gets there is lost, and its
    placeholder stands for the value that is there. -/
theorem a_name_given_in_advance_is_taken :
    ∃ d, Reached anyCall d ∧ d.Room 1 ∧ (d.bind (.int 2)).1.text = "@Param1" ∧
      (d.bind (.int 2)).2.parameters.get? "Param1" = some (.int 1) ∧ ¬ d.Stores (.int 2) := by
  have begun : Reached anyCall (onTable .sqlite "Users") := .start .sqlite "Users"
  have named := begun.alone (.parameter "Param1" (.int 1)) trivial (by decide) rfl
  refine ⟨_, named, by decide, by decide +kernel, rfl, fun stored => ?_⟩
  have differ : (1 : Int64) = 2 := Value.int.inj (stores_iff.mp stored (.int 1) rfl)
  exact absurd differ (by decide)

end Draft

end Querycraft
