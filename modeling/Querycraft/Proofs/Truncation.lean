/-
  Querycraft.Proofs.Truncation — how much of a command a report shows.

  A command of at most two hundred bytes is shown as it is. In a longer one a walk goes back
  from byte 200 to the nearest boundary, and what stands before that is shown. The walk
  could pass the beginning of the text, and the text could be cut inside a character: both
  are failures of `truncate?`. Proved for every text (`shown_is_longest_beginning`):
  - neither happens;
  - what is shown is the longest beginning of the text that ends where a character ends
    and has at most 200 bytes;
  - it is the whole text exactly if that has at most 200 bytes, and has at least 197 bytes
    otherwise.

  The walk stops at the last boundary (`lastBoundary?_eq_some_iff`), and since a character has
  at most four bytes there is one among any four offsets (`exists_boundary_near`). This
  holds for any limit, and so does what the cut is (`truncate?_eq_some_iff`).
-/

import Querycraft.Query.Report

namespace Querycraft.Report

/-! ## Boundaries -/

/-- The boundaries of a text are the offsets at which it can be divided into two texts. -/
theorem isBoundary_iff {sql : String} {offset : Nat} :
    isBoundary sql offset ↔ ∃ before after, sql = before ++ after ∧ before.utf8ByteSize = offset := by
  rw [isBoundary, String.Pos.Raw.isValid_eq_true_iff, String.Pos.Raw.isValid_iff_exists_append]
  simp only [String.Pos.Raw.ext_iff, String.byteIdx_rawEndPos, eq_comm]

theorem before?_eq_some_iff {sql text : String} {offset : Nat} :
    before? sql offset = some text ↔ (∃ rest, sql = text ++ rest) ∧ text.utf8ByteSize = offset := by
  constructor
  · intro taken
    rw [before?] at taken
    split at taken
    · obtain ⟨rest, splits⟩ := String.copy_sliceTo_eq_iff_exists_splits.mp (Option.some.inj taken)
      exact ⟨⟨rest, splits.eq_append⟩, (String.Pos.Raw.ext_iff.mp splits.offset_eq_rawEndPos).symm⟩
    · cases taken
  · rintro ⟨⟨rest, divided⟩, rfl⟩
    have boundary : isBoundary sql text.utf8ByteSize := isBoundary_iff.mpr ⟨text, rest, divided, rfl⟩
    rw [before?, dif_pos boundary]
    exact congrArg some (String.copy_sliceTo_eq_iff_exists_splits.mpr ⟨rest, divided, rfl⟩)

/-- Every byte of a text lies in one of its characters. -/
theorem exists_char_at (sql : String) {offset : Nat} (inside : offset < sql.utf8ByteSize) :
    ∃ before c after, sql = before ++ (String.singleton c ++ after) ∧
      before.utf8ByteSize ≤ offset ∧ offset < before.utf8ByteSize + c.utf8Size := by
  -- From the end of the text: the byte lies in the last character, or in what stands before it.
  induction sql using String.push_induction with
  | empty => exact absurd inside (Nat.not_lt_zero offset)
  | push sql last ih =>
    rw [String.utf8ByteSize_push] at inside
    by_cases earlier : offset < sql.utf8ByteSize
    · obtain ⟨before, c, after, divided, starts, ends⟩ := ih earlier
      refine ⟨before, c, after ++ String.singleton last, ?_, starts, ends⟩
      rw [String.push_eq_append, divided, String.append_assoc, String.append_assoc]
    · refine ⟨sql, last, "", ?_, Nat.le_of_not_lt earlier, inside⟩
      rw [String.append_empty, String.append_singleton]

/-- A character has at most four bytes, so a boundary is at most three bytes back. -/
theorem exists_boundary_near {sql : String} {offset : Nat} (inside : offset < sql.utf8ByteSize) :
    ∃ near, isBoundary sql near ∧ near ≤ offset ∧ offset ≤ near + 3 := by
  obtain ⟨before, c, after, divided, starts, ends⟩ := exists_char_at sql inside
  have narrow := c.utf8Size_le_four
  exact ⟨before.utf8ByteSize, isBoundary_iff.mpr ⟨before, _, divided, rfl⟩, starts, by omega⟩

/-! ## The walk -/

/-- The walk passes no boundary: it ends at the last one that is not behind its start. -/
theorem lastBoundary?_eq_some_iff {sql : String} {offset last : Nat} :
    lastBoundary? sql offset = some last ↔
      isBoundary sql last ∧ last ≤ offset ∧ ∀ other, isBoundary sql other → other ≤ offset → other ≤ last := by
  induction offset with
  | zero =>
    rw [lastBoundary?, if_pos (isBoundary_zero sql), Option.some_inj]
    constructor
    · rintro rfl
      exact ⟨isBoundary_zero sql, Nat.le_refl 0, fun _ _ start => start⟩
    · rintro ⟨-, start, -⟩
      exact (Nat.le_zero.mp start).symm
  | succ offset ih =>
    by_cases here : isBoundary sql (offset + 1)
    · rw [lastBoundary?, if_pos here, Option.some_inj]
      constructor
      · rintro rfl
        exact ⟨here, Nat.le_refl _, fun _ _ within => within⟩
      · rintro ⟨-, within, latest⟩
        exact Nat.le_antisymm (latest _ here (Nat.le_refl _)) within
    · -- No boundary lies at the start, so those up to it are those up to the offset before.
      have back {other : Nat} (boundary : isBoundary sql other) : other ≤ offset + 1 ↔ other ≤ offset := by
        have apart : other ≠ offset + 1 := fun same => here (same ▸ boundary)
        omega
      rw [lastBoundary?, if_neg here, ih]
      constructor
      · rintro ⟨boundary, within, latest⟩
        exact ⟨boundary, (back boundary).mpr within, fun other ok le => latest other ok ((back ok).mp le)⟩
      · rintro ⟨boundary, within, latest⟩
        exact ⟨boundary, (back boundary).mp within, fun other ok le => latest other ok ((back ok).mpr le)⟩

/-! ## The cut -/

/-- Of the beginnings of a text that are texts themselves, so that they end where a
    character ends, the longest with at most so many bytes. -/
structure LongestBeginning (limit : Nat) (sql text : String) : Prop where
  begins : ∃ rest, sql = text ++ rest
  fits : text.utf8ByteSize ≤ limit
  longest : ∀ before after, sql = before ++ after → before.utf8ByteSize ≤ limit →
    before.utf8ByteSize ≤ text.utf8ByteSize

/-- The walk ends where the longest beginning does. -/
theorem longestBeginning_iff {limit : Nat} {sql text : String} :
    LongestBeginning limit sql text ↔
      lastBoundary? sql limit = some text.utf8ByteSize ∧ before? sql text.utf8ByteSize = some text := by
  rw [lastBoundary?_eq_some_iff, before?_eq_some_iff]
  constructor
  · rintro ⟨⟨rest, divided⟩, fits, longest⟩
    refine ⟨⟨isBoundary_iff.mpr ⟨text, rest, divided, rfl⟩, fits, ?_⟩, ⟨rest, divided⟩, rfl⟩
    intro other boundary within
    obtain ⟨before, after, divided, rfl⟩ := isBoundary_iff.mp boundary
    exact longest before after divided within
  · rintro ⟨⟨-, fits, latest⟩, begins, -⟩
    refine ⟨begins, fits, ?_⟩
    intro before after divided
    exact latest _ (isBoundary_iff.mpr ⟨before, after, divided, rfl⟩)

namespace LongestBeginning

variable {limit : Nat} {sql text : String}

theorem self (short : sql.utf8ByteSize ≤ limit) : LongestBeginning limit sql sql := by
  refine ⟨⟨"", String.append_empty.symm⟩, short, ?_⟩
  rintro before after rfl -
  rw [String.utf8ByteSize_append]
  exact Nat.le_add_right _ _

theorem eq_self (h : LongestBeginning limit sql text) (short : sql.utf8ByteSize ≤ limit) : text = sql := by
  obtain ⟨rest, divided⟩ := h.begins
  have whole := h.longest sql "" String.append_empty.symm short
  rw [divided, String.utf8ByteSize_append] at whole
  have nothing : rest = "" := String.utf8ByteSize_eq_zero_iff.mp (by omega)
  rw [divided, nothing, String.append_empty]

/-- A text that does not fit leaves at most three bytes of the room unused. -/
theorem limit_le (h : LongestBeginning limit sql text) (long : limit < sql.utf8ByteSize) :
    limit ≤ text.utf8ByteSize + 3 := by
  obtain ⟨near, boundary, within, close⟩ := exists_boundary_near long
  obtain ⟨before, after, divided, rfl⟩ := isBoundary_iff.mp boundary
  have reached := h.longest before after divided within
  omega

end LongestBeginning

/-- The cut is the longest beginning within the limit, whatever the limit is. -/
theorem truncate?_eq_some_iff {limit : Nat} {sql text : String} :
    truncate? limit sql = some text ↔ LongestBeginning limit sql text := by
  rw [truncate?]
  split
  · next short =>
    constructor
    · intro same
      obtain rfl := Option.some.inj same
      exact .self short
    · intro h
      rw [h.eq_self short]
  · rw [longestBeginning_iff]
    constructor
    · intro cut
      obtain ⟨last, walked, taken⟩ := Option.bind_eq_some_iff.mp cut
      obtain ⟨-, rfl⟩ := before?_eq_some_iff.mp taken
      exact ⟨walked, taken⟩
    · rintro ⟨walked, taken⟩
      exact Option.bind_eq_some_iff.mpr ⟨_, walked, taken⟩

/-- Every text is shown without a failure, by the longest beginning that fits into 200 bytes.
    A text that fits is shown whole. In one that does not, the walk ends where the shown
    text does and the text is cut there, which leaves at least 197 bytes. -/
theorem shown_is_longest_beginning (sql : String) :
    truncate? shownBytes sql = some (shown sql) ∧
      LongestBeginning 200 sql (shown sql) ∧
      (shown sql = sql ↔ sql.utf8ByteSize ≤ 200) ∧
      (200 < sql.utf8ByteSize →
        lastBoundary? sql 200 = some (shown sql).utf8ByteSize ∧
          before? sql (shown sql).utf8ByteSize = some (shown sql) ∧
          197 ≤ (shown sql).utf8ByteSize) := by
  have cut : truncate? shownBytes sql = some (shown sql) := (Option.some_get _).symm
  have longest : LongestBeginning 200 sql (shown sql) := truncate?_eq_some_iff.mp cut
  obtain ⟨walked, taken⟩ := longestBeginning_iff.mp longest
  refine ⟨cut, longest, ⟨?_, longest.eq_self⟩, ?_⟩
  · intro whole
    rw [whole] at longest
    exact longest.fits
  · intro long
    have kept := longest.limit_le long
    exact ⟨walked, taken, by omega⟩

/-- With one letter before fifty characters of four bytes, byte 200 is the last of a
    character: the walk goes back as far as it can, to byte 197. -/
theorem shown_is_longest_beginning_tight :
    let sql := String.ofList ('a' :: List.replicate 50 '𝄞')
    sql.utf8ByteSize = 201 ∧ (shown sql).utf8ByteSize = 197 := by
  intro sql
  have size : sql.utf8ByteSize = 201 := by decide +kernel
  obtain ⟨-, -, -, long⟩ := shown_is_longest_beginning sql
  obtain ⟨walked, -, -⟩ := long (by omega)
  have last : lastBoundary? sql 200 = some 197 := by decide +kernel
  exact ⟨size, Option.some.inj (walked.symm.trans last)⟩

end Querycraft.Report
