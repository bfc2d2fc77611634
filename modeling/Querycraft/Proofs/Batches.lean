/-
  Querycraft.Proofs.Batches — the parameters of a batch.

  Every member of a batch is drafted on its own and goes on numbering where the last one
  stopped; positions begin again. The members' parameters are merged by name and the
  first value under a name wins, so a name that two members shared would cost a value.
  Proved, for every sequence of requests, any of which may fail:
  (1) what is added for a request numbers its parameters from where it began, and puts
      the `k`-th into its text at position `k` (`answers_of_run`);
  (2) members follow one another without a gap; one more request keeps it so, whether it
      fails or not (`Continuous.attempt`), and so do requests in any number
      (`Continuous.attemptAll`);
  (3) names that all differ are merged without loss (`entries_foldl_extend`), so the
      parameters of the batch are those of its members in order, numbered from one to the
      last member's counter (`batch_parameters_continuous`).
-/

import Querycraft.Batch
import Querycraft.Proofs.Numbering

namespace Querycraft.Batch

open Draft Query

/-! ## (1) One member -/

/-- The draft answers the request, begun after `start` earlier names: it is what the
    program makes of the empty command, its `k`-th parameter has the `k`-th name from
    there on, and the placeholder put into text for it is the one at position `k`. -/
structure Answers (dialect : Dialect) (stem : String) (start : Nat) (request : Request) (d : Draft) : Prop where
  built : ∃ begun, Query.start ⟨some dialect, stem⟩ request.entity request.operation start = .ok begun ∧
    begun.run request.program = .ok ⟨request.entity, d⟩ ∧
    Step.splicedAll request.entity begun.draft request.program =
      (List.range d.parameters.size).map fun k => parameterSlot dialect stem start (k + 1)
  counter : d.counter = start + d.parameters.size
  names : d.parameters.names = (List.range d.parameters.size).map fun k => parameterName stem start (k + 1)
  slots : ∀ sql, d.command = .ok sql → ∀ p ∈ sql.slots,
    ∃ k < d.parameters.size, p = parameterSlot dialect stem start (k + 1)

theorem answers_of_run {dialect : Dialect} {stem : String} {start : Nat} {request : Request} {begun q : Query}
    (started : Query.start ⟨some dialect, stem⟩ request.entity request.operation start = .ok begun)
    (ran : begun.run request.program = .ok q) : Answers dialect stem start request q.draft := by
  obtain ⟨entity, fresh⟩ := start_unused started
  obtain ⟨d, gave, rfl⟩ := run_eq_ok.mp ran
  rw [entity] at ran gave
  obtain ⟨adds, shown⟩ := Step.runAll_adds request.entity request.program gave
  have numbered := numbered_of_unused fresh adds.toBinds
  have size : (Step.carriedAll request.entity request.program).length = d.parameters.size := by
    rw [← numbered.values]
    exact List.length_map Prod.snd
  have next := upcoming_of_unused fresh d.parameters.size
  rw [size] at shown
  refine ⟨⟨begun, started, ran, shown.trans next⟩, ?_, ?_, ?_⟩
  · rw [← size]
    exact numbered.counter
  · rw [← size]
    exact names_of_unused fresh adds.toBinds
  · intro sql command p member
    rcases adds.slots p (mem_slots_command command member) with old | new
    · rw [fresh.slots] at old
      cases old
    · rw [size, next] at new
      obtain ⟨k, inside, rfl⟩ := List.mem_map.mp new
      exact ⟨k, List.mem_range.mp inside, rfl⟩

/-! ## Members in a row -/

def total : List Draft → Nat
  | [] => 0
  | d :: rest => d.parameters.size + total rest

theorem total_append (first second : List Draft) : total (first ++ second) = total first + total second := by
  induction first with
  | nil => simp [total]
  | cons d rest ih => simp [total, ih, Nat.add_assoc]

/-- Members that go on numbering one after another from `start`, each built for one of
    the requests. -/
def Follow (context : Context) (requests : List Request) : Nat → List Draft → Prop
  | _, [] => True
  | start, d :: rest =>
    (∃ dialect, context.dialect = some dialect ∧
      ∃ request ∈ requests, Answers dialect context.stem start request d) ∧
    Follow context requests (start + d.parameters.size) rest

section Follow

variable {context : Context} {requests : List Request} {start : Nat} {members : List Draft}

theorem follow_append (more : List Draft) :
    Follow context requests start (members ++ more) ↔
      Follow context requests start members ∧ Follow context requests (start + total members) more := by
  induction members generalizing start with
  | nil => simp [Follow, total]
  | cons d rest ih => simp [Follow, total, ih, and_assoc, Nat.add_assoc]

theorem Follow.answers (h : Follow context requests start members) {i : Nat} {d : Draft}
    (member : members[i]? = some d) :
    ∃ dialect, context.dialect = some dialect ∧
      ∃ request ∈ requests, Answers dialect context.stem (start + total (members.take i)) request d := by
  induction members generalizing start i with
  | nil => simp at member
  | cons first rest ih =>
    cases i with
    | zero =>
      have same : first = d := by simpa using member
      subst same
      simpa [total] using h.1
    | succ i =>
      have later := ih h.2 (by simpa using member)
      simpa [total, Nat.add_assoc] using later

/-- The last member's counter stands at the number of all parameters. -/
theorem Follow.lastCounter (h : Follow context requests 0 members) :
    (members.getLast?.map Draft.counter).getD 0 = total members := by
  rcases List.eq_nil_or_concat members with empty | ⟨others, d, split⟩
  · simp [empty, total]
  · rw [List.concat_eq_append] at split
    subst split
    obtain ⟨-, ⟨dialect, -, request, -, answers⟩, -⟩ := (follow_append [d]).mp h
    rw [List.getLast?_append]
    simp [total_append, total, answers.counter]

/-- The names of members in a row are numbered without a gap. -/
theorem Follow.names (h : Follow context requests start members) :
    members.flatMap (fun d => d.parameters.names) =
      (List.range (total members)).map fun k => parameterName context.stem start (k + 1) := by
  induction members generalizing start with
  | nil => simp [total]
  | cons d rest ih =>
    obtain ⟨⟨dialect, -, request, -, answers⟩, others⟩ := h
    -- the names of `d` come first, and those of the rest are the same numbers moved on by its size
    rw [List.flatMap_cons, ih others, answers.names, total, List.range_add, List.map_append, List.map_map]
    simp [Query.parameterName, Function.comp_def, Nat.add_assoc]

end Follow

theorem names_distinct (stem : String) (n : Nat) :
    ((List.range n).map fun k => Query.parameterName stem 0 (k + 1)).Nodup := by
  refine List.Pairwise.map _ (fun i j differ same => differ ?_) List.nodup_range
  simp only [Query.parameterName, String.append_right_inj] at same
  have := toString_nat_injective same
  omega

/-! ## (2) Requests in order -/

/-- A request adds what its program drafts, or fails as its program does and adds
    nothing. -/
theorem attempt_eq (b : Batch) (request : Request) :
    b.attempt request =
      match (Query.start b.context request.entity request.operation b.nextIndex).bind (·.run request.program) with
      | .ok q => (none, { b with members := b.members ++ [q.draft] })
      | .error e => (some e, b) := by
  unfold attempt add
  cases Query.start b.context request.entity request.operation b.nextIndex with
  | error e => rfl
  | ok begun =>
    simp only [Except.bind, Bind.bind]
    cases begun.run request.program with
    | error e => rfl
    | ok q => rfl

structure Continuous (context : Context) (requests : List Request) (b : Batch) : Prop where
  keeps : b.context = context
  follow : Follow context requests 0 b.members

section Continuous

variable {context : Context} {requests : List Request} {b : Batch}

theorem Continuous.nextIndex (h : Continuous context requests b) : b.nextIndex = total b.members :=
  h.follow.lastCounter

theorem Continuous.attempt (h : Continuous context requests b) {request : Request} (asked : request ∈ requests) :
    Continuous context requests (b.attempt request).2 := by
  rw [attempt_eq, h.keeps, h.nextIndex]
  cases started : Query.start context request.entity request.operation (total b.members) with
  | error e => exact h
  | ok begun =>
    simp only [Except.bind]
    cases ran : begun.run request.program with
    | error e => exact h
    | ok q =>
      refine ⟨rfl, (follow_append [q.draft]).mpr ⟨h.follow, ⟨?_, trivial⟩⟩⟩
      obtain ⟨dialect, stem⟩ := context
      cases dialect with
      | none => cases started
      | some dialect =>
        refine ⟨dialect, rfl, request, asked, ?_⟩
        rw [Nat.zero_add]
        exact answers_of_run started ran

theorem Continuous.attemptAll (h : Continuous context requests b) {more : List Request}
    (asked : ∀ request ∈ more, request ∈ requests) : Continuous context requests (b.attemptAll more) := by
  induction more generalizing b with
  | nil => exact h
  | cons request rest ih =>
    have first := h.attempt (asked request (by simp))
    exact ih first fun other member => asked other (by simp [member])

end Continuous

/-! ## (3) Merged parameters -/

/-- Parameters under names that all differ are merged without loss. -/
theorem entries_foldl_extend (held : Parameters) (members : List Draft)
    (distinct : (held.names ++ members.flatMap fun d => d.parameters.names).Nodup) :
    (members.foldl (fun held d => held.extend d.parameters) held).entries =
      held.entries ++ members.flatMap fun d => d.parameters.entries := by
  induction members generalizing held with
  | nil => simp
  | cons d rest ih =>
    have apart := distinct
    rw [List.flatMap_cons, ← List.append_assoc, List.nodup_append, List.nodup_append] at apart
    obtain ⟨⟨-, own, fresh⟩, -, -⟩ := apart
    have merged : held.extend d.parameters = ⟨held.entries ++ d.parameters.entries⟩ := by
      refine Parameters.extend_of_fresh held d.parameters.entries ?_ own
      intro name new old
      exact fresh name old name new rfl
    have names : Parameters.names ⟨held.entries ++ d.parameters.entries⟩ = held.names ++ d.parameters.names := by
      simp [Parameters.names]
    rw [List.foldl_cons, merged, ih]
    · simp
    · rw [names, List.append_assoc]
      simpa using distinct

/-- A batch that was asked for commands, any of which may have failed. A further
    request that fails changes nothing, and one whose program runs adds its draft. The
    parameters of the batch are those of its members in order, under the names from the
    first to the one at which the last member's counter stands. Each member answers a
    request, begun after the names of the members before it. -/
theorem batch_parameters_continuous (context : Context) (requests : List Request) :
    let b := (Batch.empty context).attemptAll requests
    let last := (b.members.getLast?.map Draft.counter).getD 0
    (∀ request error, (b.attempt request).1 = some error → (b.attempt request).2 = b) ∧
      (∀ request q,
        (Query.start context request.entity request.operation last).bind (·.run request.program) = .ok q →
          b.attempt request = (none, { b with members := b.members ++ [q.draft] })) ∧
      b.parameters.entries = b.members.flatMap (fun d => d.parameters.entries) ∧
      b.parameters.names = (List.range last).map (fun k => context.stem ++ toString (k + 1)) ∧
      b.parameters.names.Nodup ∧
      ∀ i d, b.members[i]? = some d → ∃ dialect, context.dialect = some dialect ∧
        ∃ request ∈ requests, Answers dialect context.stem (total (b.members.take i)) request d := by
  intro b last
  have begun : Continuous context requests (Batch.empty context) := ⟨rfl, trivial⟩
  have continuous : Continuous context requests b := begun.attemptAll fun request asked => asked
  have names := continuous.follow.names
  have merged : b.parameters.entries = b.members.flatMap fun d => d.parameters.entries := by
    refine (entries_foldl_extend .empty b.members ?_).trans (List.nil_append _)
    rw [names]
    exact names_distinct context.stem (total b.members)
  have listed : b.parameters.names = (List.range last).map fun k => Query.parameterName context.stem 0 (k + 1) := by
    rw [Parameters.names, merged, List.map_flatMap, show last = total b.members from continuous.nextIndex]
    exact names
  refine ⟨?_, ?_, merged, ?_, ?_, ?_⟩
  · intro request error failed
    rw [attempt_eq] at failed ⊢
    split at failed
    · cases failed
    · rfl
  · intro request q ran
    rw [attempt_eq, continuous.keeps, show b.nextIndex = last from rfl, ran]
  · simpa [Query.parameterName] using listed
  · rw [listed]
    exact names_distinct context.stem last
  · intro i d member
    simpa using continuous.follow.answers member

/-- The request that fails leaves no gap. -/
example :
    let users : Entity := ⟨"User", "users", []⟩
    let requests : List Request :=
      [.select users [.filterIn (.field users "id") false [.int 1, .int 2]],
       .delete users [.filterIn (.field users "id") false [.int 3], .filter (.row users)],
       .insert users (.record [("name", .constant (.text "a"))]) []]
    ((Batch.empty ⟨some .postgres, "P"⟩).attemptAll requests).parameters.names = ["P1", "P2", "P3"] := by
  decide +kernel

end Querycraft.Batch
