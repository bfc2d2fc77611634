/-
  Querycraft.Proofs.Positions — whether `$k` is the k-th parameter once drafts are put together.

  A positional placeholder names no parameter: the server takes `$k` for the k-th value
  it is given. `StandsAfter before d p` says that `p` is at the position of the parameter
  that it was issued for, if the parameters of `d` come behind `before` others. A draft is
  `Placed` if this is so of each placeholder that it shows, those that callers wrote into
  text of their own among them; callers write no position in any other way (`Call.Traced`).

  A draft that is taken in keeps its text, and its parameters move behind those that are
  there. So the result is `Placed` exactly if the text shows only placeholders of the
  receiver's, or was numbered to follow as many parameters as are there
  (`Takes.placed_iff`). An offshoot counts on from the counter of the draft it came from,
  which is the number of parameters held unless the caller added some by hand or skipped
  a name. A draft of its own counts from one: taken in behind other parameters it is
  accepted, if only its names are new, and its placeholders stand for the parameters
  before it (`a_draft_of_its_own_takes_the_parameters_before_it`).
-/

import Querycraft.Proofs.Calls

namespace Querycraft.Draft

open Drafting

/-! ## Positions -/

/-- The placeholder is `$k`, for the k-th parameter when `before` others come first. -/
def StandsAfter (before : Nat) (d : Draft) (p : Placeholder) : Prop :=
  ∃ k, d.parameters.names[k]? = some p.name ∧ p.text = "$" ++ toString (before + (k + 1))

/-- Every placeholder shown is `$k`, for the k-th parameter. -/
def Placed (d : Draft) : Prop := ∀ p ∈ d.slots, d.StandsAfter 0 p

theorem StandsAfter.mem_names {before : Nat} {d : Draft} {p : Placeholder} (h : d.StandsAfter before p) :
    p.name ∈ d.parameters.names := by
  obtain ⟨k, named, -⟩ := h
  exact List.mem_of_getElem? named

theorem Takes.names {sub d d' : Draft} {text : Sql} (h : Takes sub text d d') (distinct : sub.parameters.names.Nodup) :
    d'.parameters.names = d.parameters.names ++ sub.parameters.names := by
  rw [h.parameters, Parameters.extend_of_fresh _ _ h.apart distinct, Parameters.names_mk, List.map_append]
  rfl

/-- Parameters taken over stand behind those that are there. -/
theorem Takes.getElem?_names {sub d d' : Draft} {text : Sql} (h : Takes sub text d d')
    (distinct : sub.parameters.names.Nodup) (k : Nat) :
    d'.parameters.names[d.parameters.size + k]? = sub.parameters.names[k]? := by
  rw [h.names distinct, Parameters.size, ← List.length_map (f := Prod.fst), ← Parameters.names,
    List.getElem?_append_right (Nat.le_add_right _ _), Nat.add_sub_cancel_left]

theorem Takes.nodup_names {sub d d' : Draft} {text : Sql} (h : Takes sub text d d') (ours : d.parameters.names.Nodup)
    (distinct : sub.parameters.names.Nodup) : d'.parameters.names.Nodup := by
  rw [h.names distinct, List.nodup_append]
  exact ⟨ours, distinct, fun name old other new same => h.apart other new (same ▸ old)⟩

/-- A placeholder of the receiver's stands where it stood. -/
theorem Takes.stands_receiver {sub d d' : Draft} {text : Sql} (h : Takes sub text d d')
    (distinct : sub.parameters.names.Nodup) {p : Placeholder} (stands : d.StandsAfter 0 p) : d'.StandsAfter 0 p := by
  obtain ⟨k, named, read⟩ := stands
  refine ⟨k, ?_, read⟩
  rw [h.names distinct, List.getElem?_append_left (List.getElem?_eq_some_iff.mp named).1, named]

/-- One of the draft that is taken in stands right if it follows as many parameters as
    are there. -/
theorem Takes.stands_taken_iff {before : Nat} {sub d d' : Draft} {text : Sql} (h : Takes sub text d d')
    (ours : d.parameters.names.Nodup) (distinct : sub.parameters.names.Nodup) {p : Placeholder}
    (stands : sub.StandsAfter before p) : d'.StandsAfter 0 p ↔ before = d.parameters.size := by
  obtain ⟨k, theirs, text⟩ := stands
  constructor
  · rintro ⟨n, named, read⟩
    -- The parameter stands at one place only, behind those of the receiver.
    have place : n = d.parameters.size + k := by
      rw [← h.getElem?_names distinct k, ← named] at theirs
      have bound := (List.getElem?_eq_some_iff.mp named).1
      exact (List.getElem?_inj bound (h.nodup_names ours distinct)).mp theirs.symm
    rw [text, String.append_right_inj] at read
    have := toString_nat_injective read
    omega
  · rintro rfl
    refine ⟨d.parameters.size + k, by rw [h.getElem?_names distinct, theirs], ?_⟩
    rw [text]
    congr 2
    omega

/-- The text of a draft that is taken in is right if it shows placeholders of the
    receiver's only, or was numbered to follow as many parameters as are there. -/
theorem Takes.placed_iff {before : Nat} {how : Splice} {sub d d' : Draft} (h : Takes sub (how.text sub) d d')
    (ours : d.parameters.names.Nodup) (distinct : sub.parameters.names.Nodup) (placed : d.Placed)
    (inner : ∀ p ∈ sub.slots, d.StandsAfter 0 p ∨ sub.StandsAfter before p) :
    d'.Placed ↔ (∀ p ∈ (how.text sub).slots, d.StandsAfter 0 p) ∨ before = d.parameters.size := by
  constructor
  · intro result
    by_cases all : ∀ p ∈ (how.text sub).slots, d.StandsAfter 0 p
    · exact .inl all
    · right
      obtain ⟨p, shown, foreign⟩ : ∃ p ∈ (how.text sub).slots, ¬ d.StandsAfter 0 p := by simpa using all
      have theirs := (inner p (Splice.mem_slots_text shown)).resolve_left foreign
      exact (h.stands_taken_iff ours distinct theirs).mp (result p ((h.slots p).mpr (.inr shown)))
  · intro fits p member
    rcases (h.slots p).mp member with old | new
    · exact h.stands_receiver distinct (placed p old)
    · rcases fits with all | same
      · exact h.stands_receiver distinct (all p new)
      · rcases inner p (Splice.mem_slots_text new) with known | theirs
        · exact h.stands_receiver distinct known
        · exact (h.stands_taken_iff ours distinct theirs).mpr same

/-- A draft of its own shows no placeholder of the receiver's, and was numbered to follow
    nothing. -/
theorem Takes.placed_iff_of_placed {how : Splice} {sub d d' : Draft} (h : Takes sub (how.text sub) d d')
    (ours : d.parameters.names.Nodup) (distinct : sub.parameters.names.Nodup) (placed : d.Placed)
    (inner : sub.Placed) : d'.Placed ↔ (how.text sub).slots = [] ∨ d.parameters.size = 0 := by
  have foreign : (∀ p ∈ (how.text sub).slots, d.StandsAfter 0 p) ↔ (how.text sub).slots = [] := by
    constructor
    · intro all
      refine List.eq_nil_iff_forall_not_mem.mpr fun p shown => ?_
      exact h.apart _ (inner p (Splice.mem_slots_text shown)).mem_names (all p shown).mem_names
    · intro nothing p shown
      rw [nothing] at shown
      cases shown
  have own : ∀ p ∈ sub.slots, d.StandsAfter 0 p ∨ sub.StandsAfter 0 p := fun p shown => .inr (inner p shown)
  rw [h.placed_iff ours distinct placed own, foreign]
  exact or_congr_right eq_comm

/-! ## Drafts that only count on -/

structure Blank (d : Draft) : Prop where
  parameters : d.parameters = .empty
  slots : d.slots = []
  behind : d.base ≤ d.counter

theorem Blank.numbered {d : Draft} (h : d.Blank) : d.Numbered d.counter [] := by
  refine ⟨rfl, ?_⟩
  rw [h.parameters]
  rfl

theorem blank_offshoot {d : Draft} (h : d.base ≤ d.counter) (table : String) (operation : Operation) :
    (d.offshoot table operation).Blank := ⟨rfl, rfl, h⟩

theorem blank_start (dialect : Dialect) (table stem : String) (index : Nat) :
    (((onTable dialect table).withStem stem).numberedFrom index).Blank := ⟨rfl, rfl, Nat.le_refl index⟩

section

variable {given : Placeholder → Prop} {values : List Value} {d d' : Draft}

/-- The names that a draft has after it was only added to. -/
theorem Blank.names (h : d.Blank) (grown : Grows given values d d') :
    d'.parameters.names = (List.range' (d.counter + 1) values.length).map d.parameterName := by
  have numbered : d'.Numbered d.counter ([] ++ values) := h.numbered.binds grown.toBinds
  have same : d'.parameterName = d.parameterName := by
    funext i
    rw [parameterName, grown.stem, parameterName]
  rw [numbered.names, List.nil_append, same]

theorem Blank.nodup_names (h : d.Blank) (grown : Grows given values d d') : d'.parameters.names.Nodup := by
  rw [h.names grown]
  exact names_nodup d _ _

/-- The counter of a draft that was only added to tells how many parameters it holds. -/
theorem Blank.counter (h : d.Blank) (grown : Grows given values d d') :
    d'.counter - d'.base = d.counter - d.base + d'.parameters.size := by
  have size : d'.parameters.size = values.length := by
    rw [Parameters.size, ← List.length_map (f := Prod.fst), ← Parameters.names, h.names grown, List.length_map,
      List.length_range']
  have := h.behind
  rw [size, grown.counter, grown.base]
  omega

/-- Its placeholders, given ones apart, follow as many parameters as its counter had
    passed. -/
theorem Blank.stands (h : d.Blank) (dialect : d.dialect = .postgres) (grown : Grows given values d d') :
    ∀ p ∈ d'.slots, given p ∨ d'.StandsAfter (d.counter - d.base) p := by
  intro p member
  rcases grown.slots p member with old | known | new
  · rw [h.slots] at old
    cases old
  · exact .inl known
  · right
    obtain ⟨i, range, rfl⟩ := List.mem_map.mp new
    obtain ⟨k, within, rfl⟩ := List.mem_range'.mp range
    have := h.behind
    refine ⟨k, ?_, ?_⟩
    · rw [h.names grown, List.getElem?_map, List.getElem?_range' within]
      rfl
    · show d.dialect.parameter _ _ = _
      rw [dialect, Dialect.parameter]
      congr 2
      omega

end

/-- In a draft that was only added to since it began, positions are right and the counter
    tells how many parameters it holds. -/
theorem Extends.placed {table stem : String} {index : Nat} {d : Draft}
    (h : Extends (fun _ => False) (((onTable .postgres table).withStem stem).numberedFrom index) d) :
    d.Placed ∧ d.counter - d.base = d.parameters.size := by
  obtain ⟨values, grown⟩ := h.grows
  have blank := blank_start .postgres table stem index
  have counted : d.counter - d.base = index - index + d.parameters.size := blank.counter grown
  have stands : ∀ p ∈ d.slots, False ∨ d.StandsAfter (index - index) p := blank.stands rfl grown
  rw [Nat.sub_self] at counted stands
  exact ⟨fun p member => (stands p member).resolve_left id, by omega⟩

/-! ## Drafts put together -/

/-- What a splice does to positions. Where they are right, and an offshoot that calls
    extended is taken in, they stay right exactly if it shows no placeholder of its own or
    the counter tells how many parameters are held; for a draft of its own, with its own
    positions right, exactly if it shows no placeholder or no parameter is held. In a
    draft that was only added to since it began, positions are right and the counter
    tells how many parameters it holds. -/
theorem splice_keeps_positions_iff {how : Splice} {sub d d' : Draft} (reached : Reached Call.Traced d)
    (dialect : d.dialect = .postgres) (accepted : Gives (how.run sub) d () d') :
    (d.Placed → ∀ table operation, Extends (d.StandsAfter 0) (d.offshoot table operation) sub →
      (d'.Placed ↔ (∀ p ∈ (how.text sub).slots, d.StandsAfter 0 p) ∨ d.counter - d.base = d.parameters.size)) ∧
    (d.Placed → Reached Call.Traced sub → sub.Placed →
      (d'.Placed ↔ (how.text sub).slots = [] ∨ d.parameters.size = 0)) ∧
    (∀ table stem (index : UInt64),
      Extends (fun _ => False) (((onTable .postgres table).withStem stem).numberedFrom index.toNat) d →
      d.Placed ∧ d.counter - d.base = d.parameters.size) := by
  have taken := Splice.takes_of_gives accepted
  refine ⟨fun placed table operation extended => ?_, fun placed aside inner => ?_, fun _ _ _ => Extends.placed⟩
  · obtain ⟨values, grown⟩ := extended.grows
    have blank := blank_offshoot reached.sound.behind table operation
    exact taken.placed_iff reached.sound.distinct (blank.nodup_names grown) placed (blank.stands dialect grown)
  · exact taken.placed_iff_of_placed reached.sound.distinct aside.sound.distinct placed inner

theorem reached_start (dialect : Dialect) (table stem : String) (index : UInt64) :
    Reached Call.Traced (((onTable dialect table).withStem stem).numberedFrom index.toNat) :=
  ((Reached.start dialect table).alone (.stem stem) trivial (by decide : 0 < UInt64.size) rfl).alone
    (.numbering index) trivial index.toNat_lt rfl

def byId (d : Draft) (table : String) (id : Int64) : Draft :=
  d.after (Primitive.run (.fragment (.compare ⟨table, "Id"⟩ .equal (.int id)) rfl))

theorem extends_byId {given : Placeholder → Prop} {d : Draft} (room : d.Room 1) (table : String) (id : Int64) :
    Extends given d (d.byId table id) :=
  .primitive _ (.refl given d) rfl (List.forall_mem_nil _) room

/-- The caller of an offshoot binds the number of a group, and writes the placeholder it
    gets and that of the user into text of its own. -/
theorem splice_keeps_positions_iff_offshoot :
    let d := (onTable .postgres "Users").byId "Users" 1
    let group := ((d.offshoot "Groups" .select).bind (.int 2)).1
    let bound := (d.offshoot "Groups" .select).after (Primitive.run (.bind (.int 2)))
    let words : Sql := "id = " ++ Sql.slot group ++ " AND owner = " ++ Sql.slot ⟨"Param1", 1, "$1"⟩
    let sub := bound.after (Primitive.run (.text words))
    Extends (d.StandsAfter 0) (d.offshoot "Groups" .select) sub ∧
      ∃ d', Gives ((Splice.join .inner "Groups").run sub) d () d' ∧
        d'.slots.map Placeholder.text = ["$2", "$1", "$1"] ∧ d'.Placed := by
  intro d group bound words sub
  have begun : Extends (fun _ => False) (((onTable .postgres "Users").withStem "Param").numberedFrom 0) d :=
    extends_byId (by decide) "Users" 1
  have user : d.StandsAfter 0 ⟨"Param1", 1, "$1"⟩ := ⟨0, by decide +kernel, by decide +kernel⟩
  have issued : group ∈ (d.offshoot "Groups" .select).issuedSince bound :=
    (Grows.refl (d.StandsAfter 0) (d.offshoot "Groups" .select)).mem_issuedSince_bind (.int 2)
  have aside : Extends (d.StandsAfter 0) (d.offshoot "Groups" .select) sub := by
    refine .primitive _ (.primitive (.bind (.int 2)) (.refl _ _) ?_ ?_ ?_) ?_ ?_ ?_
    · rfl
    · exact List.forall_mem_nil _
    · decide +kernel
    · decide +kernel
    · exact List.forall_mem_cons.mpr ⟨.inr issued, List.forall_mem_singleton.mpr (.inl user)⟩
    · decide +kernel
  obtain ⟨⟨⟩, d', accepted⟩ : ∃ u d', Gives ((Splice.join .inner "Groups").run sub) d u d' :=
    gives_of_isOk (by decide +kernel)
  have reached : Reached Call.Traced d := begun.reached (reached_start .postgres "Users" "Param" 0)
  obtain ⟨offshoot, -, added⟩ := splice_keeps_positions_iff reached rfl accepted
  obtain ⟨placed, counted⟩ := added "Users" "Param" 0 begun
  refine ⟨aside, d', accepted, ?_, (offshoot placed "Groups" .select aside).mpr (.inr counted)⟩
  rw [← after_of_gives accepted]
  decide +kernel

/-- A draft of its own, taken in behind a parameter of another name. Both ask for `$1`, so
    the group is looked up by the number of the user. -/
theorem a_draft_of_its_own_takes_the_parameters_before_it :
    ∃ d sub d', Reached Call.Traced d ∧ d.dialect = .postgres ∧ d.Placed ∧
      Reached Call.Traced sub ∧ sub.dialect = .postgres ∧ sub.Placed ∧
      Gives ((Splice.join .inner "Groups").run sub) d () d' ∧
      d'.slots.map (fun p => (p.name, p.text)) = [("Q1", "$1"), ("Param1", "$1")] ∧
      d'.parameters.names = ["Param1", "Q1"] ∧ ¬ d'.Placed := by
  have main : Extends (fun _ => False) (((onTable .postgres "Users").withStem "Param").numberedFrom 0)
      ((((onTable .postgres "Users").withStem "Param").numberedFrom 0).byId "Users" 1) :=
    extends_byId (by decide) "Users" 1
  have aside : Extends (fun _ => False) (((onTable .postgres "Groups").withStem "Q").numberedFrom 0)
      ((((onTable .postgres "Groups").withStem "Q").numberedFrom 0).byId "Groups" 2) :=
    extends_byId (by decide) "Groups" 2
  have reached := main.reached (reached_start .postgres "Users" "Param" 0)
  have reachedAside := aside.reached (reached_start .postgres "Groups" "Q" 0)
  obtain ⟨⟨⟩, d', accepted⟩ : ∃ u d', Gives ((Splice.join .inner "Groups").run
      ((((onTable .postgres "Groups").withStem "Q").numberedFrom 0).byId "Groups" 2))
      ((((onTable .postgres "Users").withStem "Param").numberedFrom 0).byId "Users" 1) u d' :=
    gives_of_isOk (by decide +kernel)
  refine ⟨_, _, d', reached, rfl, main.placed.1, reachedAside, rfl, aside.placed.1, accepted, ?_, ?_, fun placed => ?_⟩
  · rw [← after_of_gives accepted]
    decide +kernel
  · rw [← after_of_gives accepted]
    decide +kernel
  · have fits := ((Splice.takes_of_gives accepted).placed_iff_of_placed reached.sound.distinct
      reachedAside.sound.distinct main.placed.1 aside.placed.1).mp placed
    exact absurd fits (by decide +kernel)

end Querycraft.Draft
