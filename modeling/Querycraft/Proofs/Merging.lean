/-
  Querycraft.Proofs.Merging — maps of parameters as ordered maps in which the first entry wins.

  Callers keep several maps, add entries to them and extend one by another. Proved, for
  every map that a sequence of such calls leads to (`merging_is_left_biased`):
  - no name is held twice;
  - extending is associative, a map extended by itself stays as it is, and extending by the
    same map again changes nothing;
  - a map keeps its entries, in front, and what it finds under a name, and finds under any
    other name what the map it was extended by finds;
  - a draft adopts another one exactly if the two hold no name in common. It then holds its
    own entries and behind them those of the other, and its counter is the greater of
    the two. A draft that is not adopted leaves no trace.

  The calls lead to all maps without a name twice and to no others (`made_iff_nodup`), and
  for these extending has a closed form (`entries_extend`) from which the laws follow.
-/

import Querycraft.Proofs.Failures
import Querycraft.Proofs.Freshness

namespace Querycraft

namespace Parameters

/-! ## Calls on several maps -/

/-- A call on one of several maps, which are told apart by number. -/
inductive Call where
  | add (target : Nat) (name : String) (value : Value)
  | extend (target source : Nat)

def Call.run : Call → (Nat → Parameters) → Nat → Parameters
  | .add target name value, maps => fun i => if i = target then ((maps target).add name value).1 else maps i
  | .extend target source, maps => fun i => if i = target then (maps target).extend (maps source) else maps i

def after (calls : List Call) : Nat → Parameters :=
  calls.foldl (fun maps call => call.run maps) fun _ => .empty

/-- A map that some calls lead to. -/
def Made (p : Parameters) : Prop := ∃ calls i, after calls i = p

theorem Call.nodup {maps : Nat → Parameters} (h : ∀ i, (maps i).names.Nodup) (call : Call) (i : Nat) :
    (call.run maps i).names.Nodup := by
  cases call with
  | add target name value =>
    simp only [Call.run]
    split
    · exact nodup_add (h target) name value
    · exact h i
  | extend target source =>
    simp only [Call.run]
    split
    · exact nodup_extend (h target) (maps source)
    · exact h i

theorem nodup_foldl_run (calls : List Call) {maps : Nat → Parameters} (h : ∀ i, (maps i).names.Nodup) (i : Nat) :
    (calls.foldl (fun maps call => call.run maps) maps i).names.Nodup := by
  induction calls generalizing maps with
  | nil => exact h i
  | cons call rest ih => exact ih (call.nodup h)

/-- Adding the entries of a map one by one extends by it. -/
theorem foldl_run_add (entries : List (String × Value)) (maps : Nat → Parameters) :
    (entries.map fun entry => Call.add 0 entry.1 entry.2).foldl (fun maps call => call.run maps) maps 0 =
      (maps 0).extend ⟨entries⟩ := by
  induction entries generalizing maps with
  | nil => rfl
  | cons entry rest ih =>
    rw [List.map_cons, List.foldl_cons, ih, extend_cons]
    rfl

/-- Calls lead to the maps without a name twice, and to all of them. -/
theorem made_iff_nodup {p : Parameters} : Made p ↔ p.names.Nodup := by
  constructor
  · rintro ⟨calls, i, rfl⟩
    have empty : ∀ _ : Nat, Parameters.empty.names.Nodup := fun _ => List.nodup_nil
    exact nodup_foldl_run calls empty i
  · intro distinct
    refine ⟨p.entries.map fun entry => Call.add 0 entry.1 entry.2, 0, ?_⟩
    rw [after, foldl_run_add, extend_of_fresh _ _ (fun _ _ => List.not_mem_nil) distinct]
    rfl

/-! ## Laws of extending -/

def missing (p other : Parameters) : List (String × Value) := other.entries.filter fun entry => !p.contains entry.1

theorem contains_iff {p : Parameters} {name : String} : p.contains name = true ↔ name ∈ p.names := by
  simp [contains]

theorem contains_extend (p other : Parameters) (name : String) :
    (p.extend other).contains name = (p.contains name || other.contains name) := by
  rw [Bool.eq_iff_iff, Bool.or_eq_true, contains_iff, contains_iff, contains_iff, mem_names_extend]

/-- A map extended by another one has its own entries and then the missing ones. -/
theorem entries_extend (p : Parameters) {other : Parameters} (distinct : other.names.Nodup) :
    (p.extend other).entries = p.entries ++ p.missing other := by
  obtain ⟨entries⟩ := other
  induction entries generalizing p with
  | nil => simp [extend, missing]
  | cons entry rest ih =>
    obtain ⟨name, value⟩ := entry
    simp only [names_mk, List.map_cons, List.nodup_cons] at distinct
    rw [extend_cons, ih _ distinct.2]
    by_cases held : name ∈ p.names
    · simp [names_add_of_mem held, missing, contains_iff.mpr held]
    · -- No later entry has this name, so holding it from here on hides none of them.
      have later : (p.add name value).1.missing ⟨rest⟩ = p.missing ⟨rest⟩ := by
        refine List.filter_congr fun entry member => ?_
        have differs : entry.1 ≠ name := fun same => distinct.1 (same ▸ List.mem_map_of_mem member)
        have known : (p.add name value).1.contains entry.1 = p.contains entry.1 := by
          rw [Bool.eq_iff_iff, contains_iff, contains_iff, mem_names_add, or_iff_left differs]
        rw [known]
      have first : p.missing ⟨(name, value) :: rest⟩ = (name, value) :: p.missing ⟨rest⟩ :=
        List.filter_cons_of_pos (by simp [contains, held])
      rw [later, first, add_of_fresh held, List.append_assoc, List.singleton_append]

theorem extend_assoc (p : Parameters) {second third : Parameters} (distinct : second.names.Nodup)
    (distinct' : third.names.Nodup) : (p.extend second).extend third = p.extend (second.extend third) := by
  have hidden : (p.extend second).missing third = (second.missing third).filter fun entry => !p.contains entry.1 := by
    simp only [missing, contains_extend, Bool.not_or, List.filter_filter]
  have merged : p.missing (second.extend third) = p.missing second ++ (p.extend second).missing third := by
    rw [hidden, missing, entries_extend second distinct', List.filter_append]
    rfl
  have all : ((p.extend second).extend third).entries = (p.extend (second.extend third)).entries := by
    rw [entries_extend _ distinct', entries_extend p distinct, entries_extend p (nodup_extend distinct third),
      merged, List.append_assoc]
  exact congrArg Parameters.mk all

theorem extend_self {p : Parameters} (distinct : p.names.Nodup) : p.extend p = p := by
  have none : p.missing p = [] := by
    refine List.filter_eq_nil_iff.mpr fun entry member => ?_
    simp [contains_iff.mpr (List.mem_map_of_mem member)]
  have all : (p.extend p).entries = p.entries := by
    rw [entries_extend p distinct, none, List.append_nil]
  exact congrArg Parameters.mk all

theorem get?_cons (first : String) (value : Value) (rest : List (String × Value)) (name : String) :
    get? ⟨(first, value) :: rest⟩ name = if name = first then some value else get? ⟨rest⟩ name := by
  rw [get?, List.lookup_cons]
  by_cases same : name = first
  · rw [if_pos same, beq_iff_eq.mpr same]
  · rw [if_neg same, beq_eq_false_iff_ne.mpr same]
    rfl

theorem get?_extend_of_fresh {p : Parameters} {name : String} (fresh : name ∉ p.names) (other : Parameters) :
    (p.extend other).get? name = other.get? name := by
  obtain ⟨entries⟩ := other
  induction entries generalizing p with
  | nil => exact get?_eq_none_iff.mpr fresh
  | cons entry rest ih =>
    obtain ⟨first, value⟩ := entry
    rw [extend_cons, get?_cons]
    by_cases same : name = first
    · subst same
      have added : (p.add name value).1.get? name = some value := by
        rw [get?_add_self, get?_eq_none_iff.mpr fresh, Option.getD_none]
      rw [if_pos rfl]
      exact get?_extend_of_some added _
    · have still : name ∉ (p.add first value).1.names := by
        rw [mem_names_add, not_or]
        exact ⟨fresh, same⟩
      rw [if_neg same]
      exact ih still

/-- An extended map finds what it found before, and under new names what the other finds. -/
theorem get?_extend (p other : Parameters) (name : String) :
    (p.extend other).get? name = if p.contains name then p.get? name else other.get? name := by
  by_cases held : name ∈ p.names
  · obtain ⟨value, found⟩ := exists_get?_of_mem held
    rw [if_pos (contains_iff.mpr held), found]
    exact get?_extend_of_some found other
  · rw [if_neg (mt contains_iff.mp held), get?_extend_of_fresh held]

end Parameters

namespace Draft

open Drafting Parameters

/-! ## Adopting a draft -/

def joinedWith (d sub : Draft) : Draft :=
  { d with
    parameters := ⟨d.parameters.entries ++ sub.parameters.entries⟩
    counter := max d.counter sub.counter }

theorem adopting_eq_joinedWith {d sub : Draft} (distinct : sub.parameters.names.Nodup)
    (apart : ∀ name ∈ sub.parameters.names, name ∉ d.parameters.names) : adopting sub d = d.joinedWith sub := by
  have merged := extend_of_fresh d.parameters sub.parameters.entries apart distinct
  show { d with parameters := d.parameters.extend ⟨sub.parameters.entries⟩, counter := _ } = d.joinedWith sub
  rw [merged]
  rfl

theorem gives_adopt_iff {d sub d' : Draft} (distinct : sub.parameters.names.Nodup) :
    Gives (adopt sub) d () d' ↔
      (∀ name ∈ sub.parameters.names, name ∉ d.parameters.names) ∧ d' = d.joinedWith sub := by
  unfold Gives
  by_cases apart : ∀ name ∈ sub.parameters.names, name ∉ d.parameters.names
  · rw [run_adopt_of_apart apart, adopting_eq_joinedWith distinct apart]
    constructor
    · intro same
      exact ⟨apart, (Prod.mk.inj same).2.symm⟩
    · rintro ⟨-, rfl⟩
      rfl
  · obtain ⟨e, refused⟩ := run_adopt_of_common apart
    rw [refused]
    constructor
    · intro same
      cases same
    · intro ⟨apart', _⟩
      exact absurd apart' apart

end Draft

namespace Parameters

open Drafting Draft

/-- Maps that calls lead to hold a name once, and extending one by another is an ordered merge
    in which the first wins. So a draft that holds such a map adopts another one exactly if
    they have no name in common, and all of it or nothing. -/
theorem merging_is_left_biased {a b c : Parameters} (ha : Made a) (hb : Made b) (hc : Made c) :
    a.names.Nodup ∧
      (a.extend b).extend c = a.extend (b.extend c) ∧
      a.extend a = a ∧ (a.extend b).extend b = a.extend b ∧
      a.entries <+: (a.extend b).entries ∧
      (∀ name, (a.extend b).get? name = if a.contains name then a.get? name else b.get? name) ∧
      ∀ d sub : Draft, d.parameters = a → sub.parameters = b →
        ((∃ d', Gives (adopt sub) d () d') ↔ ∀ name ∈ b.names, name ∉ a.names) ∧
          (∀ d', Gives (adopt sub) d () d' → d' = d.joinedWith sub ∧ Made d'.parameters) ∧
          ∀ error d', Fails (adopt sub) d error d' → d' = d := by
  rw [made_iff_nodup] at ha hb hc
  refine ⟨ha, extend_assoc a hb hc, extend_self ha, ?_, ?_, get?_extend a b, ?_⟩
  · rw [extend_assoc a hb hb, extend_self hb]
  · rw [entries_extend a hb]
    exact List.prefix_append _ _
  · rintro d sub rfl rfl
    refine ⟨⟨?_, ?_⟩, ?_, intact_adopt sub d⟩
    · rintro ⟨d', adopted⟩
      exact ((gives_adopt_iff hb).mp adopted).1
    · intro apart
      exact ⟨d.joinedWith sub, (gives_adopt_iff hb).mpr ⟨apart, rfl⟩⟩
    · intro d' adopted
      obtain ⟨apart, rfl⟩ := (gives_adopt_iff hb).mp adopted
      refine ⟨rfl, made_iff_nodup.mpr ?_⟩
      rw [← adopting_eq_joinedWith hb apart]
      exact nodup_extend ha sub.parameters

/-- Of two drafts that both bound `Param2`, neither adopts the other; one that bound other
    names is adopted by each. -/
theorem merging_is_left_biased_clash :
    let a : Parameters := ⟨[("Param1", .int 1), ("Param2", .int 2)]⟩
    let b : Parameters := ⟨[("Param2", .int 7), ("Q1", .null)]⟩
    let c : Parameters := ⟨[("R1", .bool true)]⟩
    let holding (p : Parameters) : Draft := { onTable .sqlite "Users" with parameters := p }
    (Made a ∧ Made b ∧ Made c) ∧ (a.extend b).get? "Param2" = some (.int 2) ∧
      (¬ ∃ d', Gives (adopt (holding b)) (holding a) () d') ∧
      ∃ d', Gives (adopt (holding c)) (holding a) () d' ∧ d' = (holding a).joinedWith (holding c) := by
  intro a b c holding
  have ha : Made a := made_iff_nodup.mpr (by decide)
  have hb : Made b := made_iff_nodup.mpr (by decide)
  have hc : Made c := made_iff_nodup.mpr (by decide)
  obtain ⟨-, -, -, -, -, found, clash⟩ := merging_is_left_biased ha hb hc
  obtain ⟨-, -, -, -, -, -, adopts⟩ := merging_is_left_biased ha hc hb
  have refused := (clash (holding a) (holding b) rfl rfl).1
  have accepted := (adopts (holding a) (holding c) rfl rfl).1
  refine ⟨⟨ha, hb, hc⟩, found "Param2", ?_, ?_⟩
  · rw [refused]
    decide
  · obtain ⟨d', adopted⟩ := accepted.mpr (by decide)
    exact ⟨d', adopted, ((adopts _ _ rfl rfl).2.1 d' adopted).1⟩

end Parameters

end Querycraft
