/-
  Querycraft.Proofs.Patterns — what the pattern of a match matches.

  Three of the four matches of a text column bind a pattern: the text that is looked for,
  with a percent sign where the column may go on. `Pattern.fits` is the matching of a
  server without an escape character, which tries every place where a percent sign may
  end. Nothing in the text that is looked for is escaped, so a percent sign or an
  underscore in it is a wildcard too. Proved, for every text and each of the three:
  (1) behind plain characters and a percent sign the matcher goes on where it should
      (`fits_plain`, `fits_percent`), so a pattern without further wildcards matches the
      texts that begin with, end with or contain what is looked for (`fits_pattern`);
  (2) any other pattern matches a text without wildcards, which cannot contain what is
      looked for (`fits_sample`);
  (3) so a match finds what it says exactly if there is no wildcard in what it looks for
      (`Term.match_is_exact_iff_no_wildcard`).
-/

import Querycraft.Draft.Predicate

namespace Querycraft

/-! ## Matching -/

namespace Pattern

def anyRest (p : List Char → Bool) : List Char → Bool
  | [] => p []
  | c :: text => p (c :: text) || anyRest p text

def afterOne (c : Char) (p : List Char → Bool) : List Char → Bool
  | [] => false
  | x :: text => (c = '_' || c = x) && p text

/-- Whether a pattern matches a text: a percent sign stands for any characters, an underscore
    for any one, and every other character for itself. -/
def fits : List Char → List Char → Bool
  | [], text => text.isEmpty
  | c :: pattern, text =>
    if c = '%' then anyRest (fits pattern) text else afterOne c (fits pattern) text

def isWildcard (c : Char) : Bool := c = '%' || c = '_'

theorem anyRest_iff (p : List Char → Bool) (text : List Char) :
    anyRest p text = true ↔ ∃ rest, rest <:+ text ∧ p rest = true := by
  induction text with
  | nil => simp [anyRest]
  | cons c text ih =>
    rw [anyRest, Bool.or_eq_true, ih]
    constructor
    · intro h
      rcases h with here | ⟨rest, behind, holds⟩
      · exact ⟨c :: text, List.suffix_refl _, here⟩
      · exact ⟨rest, behind.trans (List.suffix_cons c text), holds⟩
    · intro h
      obtain ⟨rest, behind, holds⟩ := h
      rcases List.suffix_cons_iff.mp behind with rfl | behind
      · exact .inl holds
      · exact .inr ⟨rest, behind, holds⟩

theorem fits_nil (text : List Char) : fits [] text = true ↔ text = [] := by
  rw [fits, List.isEmpty_iff]

theorem fits_percent (pattern text : List Char) :
    fits ('%' :: pattern) text = true ↔ ∃ rest, rest <:+ text ∧ fits pattern rest = true := by
  rw [fits, if_pos rfl, anyRest_iff]

/-- A percent sign at the end lets any text go on. -/
theorem fits_open (text : List Char) : fits ['%'] text = true :=
  (fits_percent [] text).mpr ⟨[], List.nil_suffix, rfl⟩

/-- A character that is no wildcard has to be there. -/
theorem fits_plain_cons {c : Char} (plain : isWildcard c = false) (pattern text : List Char) :
    fits (c :: pattern) text = true ↔ ∃ rest, text = c :: rest ∧ fits pattern rest = true := by
  obtain ⟨percent, underscore⟩ : c ≠ '%' ∧ c ≠ '_' := by simpa [isWildcard] using plain
  rw [fits, if_neg percent]
  cases text with
  | nil => simp [afterOne]
  | cons x rest =>
    simp only [afterOne, underscore, decide_false, Bool.false_or, Bool.and_eq_true, decide_eq_true_eq, List.cons.injEq]
    constructor
    · intro h
      exact ⟨rest, ⟨h.1.symm, rfl⟩, h.2⟩
    · intro h
      obtain ⟨_, ⟨same, rfl⟩, fitting⟩ := h
      exact ⟨same.symm, fitting⟩

theorem fits_plain {text : List Char} (plain : ∀ c ∈ text, isWildcard c = false) (pattern whole : List Char) :
    fits (text ++ pattern) whole = true ↔ ∃ rest, whole = text ++ rest ∧ fits pattern rest = true := by
  induction text generalizing whole with
  | nil => simp
  | cons c text ih =>
    obtain ⟨first, others⟩ := List.forall_mem_cons.mp plain
    rw [List.cons_append, fits_plain_cons first]
    constructor
    · intro h
      obtain ⟨behind, rfl, fitting⟩ := h
      obtain ⟨rest, rfl, ends⟩ := (ih others behind).mp fitting
      exact ⟨rest, rfl, ends⟩
    · intro h
      obtain ⟨rest, rfl, fitting⟩ := h
      exact ⟨text ++ rest, rfl, (ih others _).mpr ⟨rest, rfl, fitting⟩⟩

theorem fits_only {sought : List Char} (plain : ∀ c ∈ sought, isWildcard c = false) (text : List Char) :
    fits sought text = true ↔ text = sought := by
  have whole := fits_plain plain [] text
  simpa only [List.append_nil, fits_nil, exists_eq_right] using whole

theorem fits_begins {sought : List Char} (plain : ∀ c ∈ sought, isWildcard c = false) (text : List Char) :
    fits (sought ++ ['%']) text = true ↔ sought <+: text := by
  rw [fits_plain plain]
  simp only [fits_open, and_true, List.IsPrefix, eq_comm]

/-! ## A text for every pattern -/

def sample : List Char → List Char
  | [] => []
  | c :: rest => if c = '%' then sample rest else if c = '_' then 'x' :: sample rest else c :: sample rest

theorem plain_sample (text : List Char) : ∀ c ∈ sample text, isWildcard c = false := by
  induction text with
  | nil => simp [sample]
  | cons c rest ih =>
    unfold sample
    by_cases percent : c = '%'
    · rw [if_pos percent]
      exact ih
    · rw [if_neg percent]
      by_cases underscore : c = '_'
      · rw [if_pos underscore]
        exact List.forall_mem_cons.mpr ⟨by decide, ih⟩
      · rw [if_neg underscore]
        exact List.forall_mem_cons.mpr ⟨by simp [isWildcard, percent, underscore], ih⟩

theorem fits_sample (text : List Char) {pattern rest : List Char} (h : fits pattern rest = true) :
    fits (text ++ pattern) (sample text ++ rest) = true := by
  induction text with
  | nil => exact h
  | cons c text ih =>
    rw [List.cons_append, sample]
    by_cases percent : c = '%'
    · rw [if_pos percent, percent, fits_percent]
      exact ⟨_, List.suffix_refl _, ih⟩
    · rw [if_neg percent]
      by_cases underscore : c = '_'
      · rw [if_pos underscore, List.cons_append, fits, if_neg percent]
        simp [afterOne, underscore, ih]
      · rw [if_neg underscore, List.cons_append, fits, if_neg percent]
        simp [afterOne, ih]

end Pattern

/-! ## The three patterns -/

namespace TextMatch

open Pattern

def Holds (m : TextMatch) (sought text : String) : Prop :=
  match m with
  | .equals => text = sought
  | .startsWith => sought.toList <+: text.toList
  | .endsWith => sought.toList <:+ text.toList
  | .contains => sought.toList <:+: text.toList

theorem Holds.occurs {m : TextMatch} {sought text : String} (h : m.Holds sought text) :
    sought.toList <:+: text.toList := by
  cases m with
  | equals =>
    obtain rfl : text = sought := h
    exact List.infix_refl _
  | startsWith => exact List.IsPrefix.isInfix h
  | endsWith => exact List.IsSuffix.isInfix h
  | contains => exact h

theorem toList_startsWith (sought : String) : (startsWith.pattern sought).toList = sought.toList ++ ['%'] := by
  simp [pattern]

theorem toList_endsWith (sought : String) : (endsWith.pattern sought).toList = '%' :: sought.toList := by
  simp [pattern]

theorem toList_contains (sought : String) : (contains.pattern sought).toList = '%' :: (sought.toList ++ ['%']) := by
  simp [pattern]

theorem fits_pattern {m : TextMatch} (decorated : m ≠ .equals) {sought : String}
    (plain : ∀ c ∈ sought.toList, isWildcard c = false) (text : String) :
    fits (m.pattern sought).toList text.toList = true ↔ m.Holds sought text := by
  cases m with
  | equals => exact absurd rfl decorated
  | startsWith =>
    rw [toList_startsWith]
    exact fits_begins plain text.toList
  | endsWith =>
    rw [toList_endsWith, fits_percent, Holds]
    simp only [fits_only plain, exists_eq_right]
  | contains =>
    rw [toList_contains, fits_percent, Holds, List.infix_iff_prefix_suffix]
    simp only [fits_begins plain, and_comm]

/-- With or without wildcards, the pattern matches the sample. -/
theorem fits_pattern_sample {m : TextMatch} (decorated : m ≠ .equals) (sought : String) :
    fits (m.pattern sought).toList (sample sought.toList) = true := by
  have closed : fits sought.toList (sample sought.toList) = true := by
    simpa using fits_sample sought.toList ((fits_nil []).mpr rfl)
  have opened : fits (sought.toList ++ ['%']) (sample sought.toList) = true := by
    simpa using fits_sample sought.toList (fits_open [])
  cases m with
  | equals => exact absurd rfl decorated
  | startsWith =>
    rw [toList_startsWith]
    exact opened
  | endsWith =>
    rw [toList_endsWith, fits_percent]
    exact ⟨_, List.suffix_refl _, closed⟩
  | contains =>
    rw [toList_contains, fits_percent]
    exact ⟨_, List.suffix_refl _, opened⟩

/-- A text without wildcards contains no text that has one. -/
theorem plain_of_holds_sample {m : TextMatch} {sought : String}
    (h : m.Holds sought (String.ofList (sample sought.toList))) : ∀ c ∈ sought.toList, isWildcard c = false := by
  intro c member
  have found := h.occurs.subset member
  rw [String.toList_ofList] at found
  exact plain_sample sought.toList c found

end TextMatch

/-! ## Matches in a condition -/

namespace Term

open Pattern

/-- A match that binds a pattern finds exactly the texts it says, whatever they are, if and
    only if what is looked for has neither a percent sign nor an underscore. -/
theorem match_is_exact_iff_no_wildcard {m : TextMatch} (decorated : m ≠ .equals) (c : Column) (sought : String) :
    (∀ d : Draft, (Draft.emit (emitLike m c sought)).run d =
      (.ok (), d.push (.like c (.text (m.pattern sought))))) ∧
    ((∀ text : String, fits (m.pattern sought).toList text.toList = true ↔ m.Holds sought text) ↔
      ∀ x ∈ sought.toList, x ≠ '%' ∧ x ≠ '_') := by
  have plain_iff : (∀ x ∈ sought.toList, isWildcard x = false) ↔ ∀ x ∈ sought.toList, x ≠ '%' ∧ x ≠ '_' := by
    simp [isWildcard]
  constructor
  · intro d
    cases m with
    | equals => exact absurd rfl decorated
    | startsWith | endsWith | contains => rfl
  · rw [← plain_iff]
    constructor
    · intro faithful
      have fitting := TextMatch.fits_pattern_sample decorated sought
      rw [← String.toList_ofList (l := sample sought.toList)] at fitting
      exact TextMatch.plain_of_holds_sample ((faithful _).mp fitting)
    · intro plain text
      exact TextMatch.fits_pattern decorated plain text

/-- `Contains("50")` finds what it says; `Contains("50%")` finds more. -/
theorem match_is_exact_iff_no_wildcard_percent :
    TextMatch.contains ≠ .equals ∧
    (∀ text : String, fits (TextMatch.contains.pattern "50").toList text.toList = true ↔
      TextMatch.contains.Holds "50" text) ∧
    ¬ ∀ text : String, fits (TextMatch.contains.pattern "50%").toList text.toList = true ↔
      TextMatch.contains.Holds "50%" text := by
  have decorated : TextMatch.contains ≠ .equals := by decide
  refine ⟨decorated, ?_, ?_⟩
  · exact (match_is_exact_iff_no_wildcard decorated ⟨"Goods", "Label"⟩ "50").2.mpr (by simp)
  · intro faithful
    have plain := (match_is_exact_iff_no_wildcard decorated ⟨"Goods", "Label"⟩ "50%").2.mp faithful
    exact (plain '%' (by simp)).1 rfl

end Term

end Querycraft
