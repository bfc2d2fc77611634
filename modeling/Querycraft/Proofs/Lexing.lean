/-
  Querycraft.Proofs.Lexing — the tokens of conditions.

  A text is lexed from left to right and each part of it leaves the lexer ready for the
  next: `Leads` a text that ends between tokens, `Lexes` one that may end in a word or a
  name still to be ended, `Joins` one that ends whatever was before it. The parts of a
  condition are of these kinds, and so are their sequences. Proved:
  (1) a column, whatever its names, is one name token, spelled as the dialect spells it
      (`lexes_field`);
  (2) the condition of a term is lexed fragment by fragment (`shows_of_emits`).
-/

import Querycraft.Proofs.Binding
import Querycraft.Proofs.Emission
import Querycraft.Proofs.Reading

namespace Querycraft

namespace Lexer

/-! ## Running the lexer -/

def Mode.settled : Mode → Bool
  | .quoted _ => false
  | _ => true

namespace State

theorem run_append (style : Identifier.Quoting) (s : State) (a b : List Glyph) :
    s.run style (a ++ b) = (s.run style a).run style b := List.foldl_append

def behind (out : List Token) (s : State) : State := ⟨out ++ s.tokens, s.mode⟩

theorem finished_behind (out : List Token) (s : State) : (s.behind out).finished = out ++ s.finished := by
  simp [behind, finished]

theorem outside_behind (style : Identifier.Quoting) (out : List Token) (s : State) (c : Char) :
    (s.behind out).outside style c = (s.outside style c).behind out := by
  obtain ⟨tokens, mode⟩ := s
  unfold outside
  split
  · cases mode <;> simp [chain, behind, finished]
  · split
    · cases mode <;> simp [chain, behind, finished]
    · split
      · cases mode <;> simp [behind, finished]
      · simp [behind, finished]

theorem step_behind (style : Identifier.Quoting) (out : List Token) (s : State) (glyph : Glyph) :
    (s.behind out).step style glyph = (s.step style glyph).behind out := by
  cases glyph with
  | value v => simp [step, behind, finished]
  | missing => simp [step, behind, finished]
  | char c =>
    obtain ⟨tokens, mode⟩ := s
    cases mode with
    | word text => exact outside_behind style out ⟨tokens, .word text⟩ c
    | symbol text => exact outside_behind style out ⟨tokens, .symbol text⟩ c
    | quoted text =>
      by_cases close : c = style.closing <;> simp [step, behind, close]
    | closed text =>
      by_cases close : c = style.closing
      · simp [step, behind, close]
      · simpa [step, behind, close] using outside_behind style out ⟨tokens, .closed text⟩ c

/-- Tokens that are done with do not matter for what follows. -/
theorem run_behind (style : Identifier.Quoting) (out : List Token) (s : State) (glyphs : List Glyph) :
    (s.behind out).run style glyphs = (s.run style glyphs).behind out := by
  induction glyphs generalizing s with
  | nil => rfl
  | cons glyph rest ih =>
    show ((s.behind out).step style glyph).run style rest = ((s.step style glyph).run style rest).behind out
    rw [step_behind, ih]

end State

variable {style : Identifier.Quoting} {a b : List Glyph} {ts us : List Token}

/-- From between tokens to between tokens. -/
def Leads (style : Identifier.Quoting) (glyphs : List Glyph) (ts : List Token) : Prop :=
  State.start.run style glyphs = ⟨ts, .word []⟩

/-- From between tokens to the end of a token. -/
def Lexes (style : Identifier.Quoting) (glyphs : List Glyph) (ts : List Token) : Prop :=
  (State.start.run style glyphs).mode.settled = true ∧ (State.start.run style glyphs).finished = ts

/-- From the end of a token to between tokens. -/
def Joins (style : Identifier.Quoting) (glyphs : List Glyph) (ts : List Token) : Prop :=
  ∀ mode : Mode, mode.settled = true →
    State.run style ⟨[], mode⟩ glyphs = ⟨mode.tokens ++ ts, .word []⟩

theorem Joins.leads (h : Joins style a ts) : Leads style a ts := h (.word []) rfl

theorem Leads.lexes (h : Leads style a ts) : Lexes style a ts := by
  unfold Lexes
  rw [show State.start.run style a = ⟨ts, .word []⟩ from h]
  exact ⟨rfl, List.append_nil ts⟩

theorem Leads.run_append (h : Leads style a ts) (b : List Glyph) :
    State.start.run style (a ++ b) = (State.start.run style b).behind ts := by
  rw [State.run_append, show State.start.run style a = ⟨ts, .word []⟩ from h, ← State.run_behind]
  simp [State.behind, State.start]

theorem Leads.append (h : Leads style a ts) (h' : Leads style b us) : Leads style (a ++ b) (ts ++ us) := by
  unfold Leads
  rw [h.run_append, show State.start.run style b = ⟨us, .word []⟩ from h']
  rfl

theorem Leads.append_lexes (h : Leads style a ts) (h' : Lexes style b us) :
    Lexes style (a ++ b) (ts ++ us) := by
  unfold Lexes
  rw [h.run_append, State.finished_behind, h'.2]
  exact ⟨h'.1, rfl⟩

theorem Lexes.append_joins (h : Lexes style a ts) (h' : Joins style b us) : Leads style (a ++ b) (ts ++ us) := by
  unfold Leads
  rw [State.run_append, ← h.2]
  have settled := h.1
  generalize State.start.run style a = s at settled
  obtain ⟨tokens, mode⟩ := s
  have next := State.run_behind style tokens ⟨[], mode⟩ b
  rw [h' mode settled] at next
  simpa [State.behind, State.finished] using next

theorem Joins.append (h : Joins style a ts) (h' : Leads style b us) : Joins style (a ++ b) (ts ++ us) := by
  intro mode settled
  have next := State.run_behind style (mode.tokens ++ ts) State.start b
  rw [show State.start.run style b = ⟨us, .word []⟩ from h'] at next
  rw [State.run_append, h mode settled]
  simpa [State.behind, State.start] using next

/-! ## Literal text -/

theorem joins_value (style : Identifier.Quoting) (v : Value) : Joins style [.value v] [.value v] :=
  fun _ _ => rfl

def isDelimiter (c : Char) : Bool := c == ' ' || c == '(' || c == ')'

theorem outside_delimiter (dialect : Dialect) {c : Char} (h : isDelimiter c = true) (s : State) :
    s.outside dialect.quoting c = ⟨s.finished ++ delimiter c, .word []⟩ := by
  have cases_of : c = ' ' ∨ c = '(' ∨ c = ')' := by
    simpa [isDelimiter, or_assoc] using h
  rcases cases_of with rfl | rfl | rfl <;> cases dialect <;> rfl

theorem closing_ne_delimiter (dialect : Dialect) : isDelimiter dialect.quoting.closing = false := by
  cases dialect <;> rfl

/-- A space or a parenthesis ends the token before it. -/
theorem joins_delimiter (dialect : Dialect) {c : Char} (h : isDelimiter c = true) :
    Joins dialect.quoting [.char c] (delimiter c) := by
  intro mode settled
  have outside := outside_delimiter dialect h ⟨[], mode⟩
  cases mode with
  | quoted text => cases settled
  | word text => exact outside
  | symbol text => exact outside
  | closed text =>
    have other : c ≠ dialect.quoting.closing := by
      rintro rfl
      rw [closing_ne_delimiter] at h
      cases h
    show State.step dialect.quoting ⟨[], .closed text⟩ (.char c) = _
    simp only [State.step, if_neg other]
    exact outside

def literal (text : String) : List Glyph := text.toList.map .char

/-- Text behind a space. -/
theorem joins_spaced (dialect : Dialect) (cs : List Char) {ts : List Token}
    (h : Leads dialect.quoting (cs.map .char) ts) : Joins dialect.quoting (.char ' ' :: cs.map .char) ts :=
  (joins_delimiter dialect (c := ' ') rfl).append h

section Literals

variable (dialect : Dialect)

theorem joins_opening : Joins dialect.quoting (literal "(") [.opening] :=
  joins_delimiter dialect (c := '(') rfl

theorem joins_closing : Joins dialect.quoting (literal ")") [.closing] :=
  joins_delimiter dialect (c := ')') rfl

theorem leads_negation : Leads dialect.quoting (literal "NOT ") [.negation] := by
  cases dialect <;> rfl

theorem joins_conjunction : Joins dialect.quoting (literal " AND ") [.conjunction] :=
  joins_spaced dialect "AND ".toList (by cases dialect <;> rfl)

theorem joins_disjunction : Joins dialect.quoting (literal " OR ") [.disjunction] :=
  joins_spaced dialect "OR ".toList (by cases dialect <;> rfl)

theorem joins_like : Joins dialect.quoting (literal " LIKE ") [.like] :=
  joins_spaced dialect "LIKE ".toList (by cases dialect <;> rfl)

theorem joins_is : Joins dialect.quoting (literal " IS ") [.is] :=
  joins_spaced dialect "IS ".toList (by cases dialect <;> rfl)

theorem lexes_null : Lexes dialect.quoting (literal "NULL") [.null] := by
  cases dialect <;> exact ⟨rfl, rfl⟩

theorem joins_operator {op : Operator} (h : op.isComparison = true) :
    Joins dialect.quoting (literal (" " ++ op.symbol ++ " ")) [.operator op] := by
  cases op with
  | equal => exact joins_spaced dialect "= ".toList (by cases dialect <;> rfl)
  | notEqual => exact joins_spaced dialect "<> ".toList (by cases dialect <;> rfl)
  | greater => exact joins_spaced dialect "> ".toList (by cases dialect <;> rfl)
  | greaterOrEqual => exact joins_spaced dialect ">= ".toList (by cases dialect <;> rfl)
  | less => exact joins_spaced dialect "< ".toList (by cases dialect <;> rfl)
  | lessOrEqual => exact joins_spaced dialect "<= ".toList (by cases dialect <;> rfl)
  | _ => cases h

end Literals

/-! ## Names -/

section Names

variable (dialect : Dialect)

theorem opening_not_nameChar : isNameChar dialect.quoting.opening = false := by
  cases dialect <;> rfl

theorem outside_nameChar {c : Char} (h : isNameChar c = true) (s : State) :
    s.outside dialect.quoting c = ⟨s.chain.1, .word (s.chain.2 ++ [c])⟩ := by
  have other : c ≠ dialect.quoting.opening := by
    rintro rfl
    rw [opening_not_nameChar] at h
    cases h
  rw [State.outside, if_neg other, if_pos h]

theorem run_word {word : List Char} (h : ∀ c ∈ word, isNameChar c = true) (text : List Char) :
    State.run dialect.quoting ⟨[], .word text⟩ (word.map .char) = ⟨[], .word (text ++ word)⟩ := by
  induction word generalizing text with
  | nil => simp [State.run]
  | cons c rest ih =>
    have first : State.step dialect.quoting ⟨[], .word text⟩ (.char c) = ⟨[], .word (text ++ [c])⟩ :=
      outside_nameChar dialect (h c (by simp)) ⟨[], .word text⟩
    show State.run dialect.quoting (State.step dialect.quoting ⟨[], .word text⟩ (.char c)) (rest.map .char) = _
    rw [first, ih fun c member => h c (by simp [member])]
    simp

/-- Inside quotes a closing character that is written twice closes nothing. -/
theorem run_escape (cs text : List Char) :
    State.run dialect.quoting ⟨[], .quoted text⟩ ((Identifier.escape dialect.quoting.closing cs).map .char) =
      ⟨[], .quoted (text ++ Identifier.escape dialect.quoting.closing cs)⟩ := by
  induction cs generalizing text with
  | nil => simp [State.run, Identifier.escape]
  | cons c rest ih =>
    unfold Identifier.escape
    split
    · rename_i close
      have twice : State.run dialect.quoting ⟨[], .quoted text⟩ [.char dialect.quoting.closing, .char c] =
          ⟨[], .quoted (text ++ [dialect.quoting.closing, c])⟩ := by
        simp [State.run, State.step, close]
      have split : ∀ glyphs : List Glyph, State.run dialect.quoting ⟨[], .quoted text⟩
          (.char dialect.quoting.closing :: .char c :: glyphs) =
          State.run dialect.quoting ⟨[], .quoted (text ++ [dialect.quoting.closing, c])⟩ glyphs := fun glyphs => by
        rw [← twice, ← State.run_append]
        rfl
      rw [List.map_cons, List.map_cons, split, ih]
      simp
    · rename_i other
      have once : State.step dialect.quoting ⟨[], .quoted text⟩ (.char c) = ⟨[], .quoted (text ++ [c])⟩ := by
        simp [State.step, other]
      show State.run dialect.quoting (State.step dialect.quoting ⟨[], .quoted text⟩ (.char c)) _ = _
      rw [once, ih]
      simp

end Names

def Mode.Holds (mode : Mode) (text : List Char) : Prop := mode = .word text ∨ mode = .closed text

section Names

variable (dialect : Dialect)

theorem run_quoted (cs text : List Char) :
    State.run dialect.quoting ⟨[], .word text⟩ ((Identifier.spellQuoted dialect.quoting cs).map .char) =
      ⟨[], .closed (text ++ Identifier.spellQuoted dialect.quoting cs)⟩ := by
  have opened : State.step dialect.quoting ⟨[], .word text⟩ (.char dialect.quoting.opening) =
      ⟨[], .quoted (text ++ [dialect.quoting.opening])⟩ := by
    simp [State.step, State.outside, State.chain]
  have spelled : (Identifier.spellQuoted dialect.quoting cs).map Glyph.char =
      [Glyph.char dialect.quoting.opening] ++ (Identifier.escape dialect.quoting.closing cs).map Glyph.char
        ++ [Glyph.char dialect.quoting.closing] := by
    simp [Identifier.spellQuoted]
  rw [spelled, State.run_append, State.run_append]
  show State.step dialect.quoting (State.run dialect.quoting (State.step dialect.quoting ⟨[], .word text⟩
    (.char dialect.quoting.opening)) _) (.char dialect.quoting.closing) = _
  rw [opened, run_escape]
  simp [State.step, Identifier.spellQuoted]

theorem isNameChar_of_isWord {text : List Char} (h : Identifier.isWord text = true) :
    ∀ c ∈ text, isNameChar c = true := by
  cases text with
  | nil => cases h
  | cons first rest =>
    simp only [Identifier.isWord, Bool.and_eq_true, List.all_eq_true] at h
    intro c member
    rcases List.mem_cons.mp member with rfl | later
    · have := h.1
      simp only [Identifier.startsWord, Bool.or_eq_true] at this
      simp only [isNameChar, Identifier.continuesWord, Char.isAlphanum, Bool.or_eq_true]
      grind
    · simp [isNameChar, h.2 c later]

theorem run_part (part : Identifier.Part) (text : List Char) :
    ∃ mode, State.run dialect.quoting ⟨[], .word text⟩
      ((Identifier.spellPart dialect.quoting part).map .char) = ⟨[], mode⟩ ∧
      mode.Holds (text ++ Identifier.spellPart dialect.quoting part) := by
  cases part with
  | quoted cs => exact ⟨_, run_quoted dialect cs text, .inr rfl⟩
  | bare cs =>
    simp only [Identifier.spellPart]
    split
    · rename_i star
      subst star
      exact ⟨_, run_word dialect (by simp [isNameChar]) text, .inl rfl⟩
    · split
      · exact ⟨_, run_quoted dialect cs text, .inr rfl⟩
      · rename_i plain
        have word : Identifier.isWord cs = true := by
          simp only [Identifier.mustQuote, Bool.or_eq_true, not_or] at plain
          simpa using plain.1.1.2
        exact ⟨_, run_word dialect (isNameChar_of_isWord word) text, .inl rfl⟩

/-- A dot goes on with the name before it. -/
theorem step_dot {mode : Mode} {text : List Char} (h : mode.Holds text) :
    State.step dialect.quoting ⟨[], mode⟩ (.char '.') = ⟨[], .word (text ++ ['.'])⟩ := by
  rcases h with rfl | rfl
  · exact outside_nameChar dialect rfl ⟨[], .word text⟩
  · have outside := outside_nameChar dialect (c := '.') rfl ⟨[], .closed text⟩
    simp only [State.step, if_neg dialect.closing_ne_dot.symm]
    exact outside

theorem run_spell (parts : List Identifier.Part) (text : List Char) :
    ∃ mode, State.run dialect.quoting ⟨[], .word text⟩
      ((Identifier.spell dialect.quoting parts).map .char) = ⟨[], mode⟩ ∧
      mode.Holds (text ++ Identifier.spell dialect.quoting parts) := by
  induction parts generalizing text with
  | nil => exact ⟨.word text, rfl, .inl (by simp [Identifier.spell])⟩
  | cons part rest ih =>
    obtain ⟨mode, ran, holds⟩ := run_part dialect part text
    cases rest with
    | nil =>
      rw [Identifier.spell_singleton]
      exact ⟨mode, ran, holds⟩
    | cons next others =>
      have more := Identifier.spell_cons_cons dialect.quoting part next others
      obtain ⟨mode', ran', holds'⟩ := ih (text ++ Identifier.spellPart dialect.quoting part ++ ['.'])
      refine ⟨mode', ?_, ?_⟩
      · rw [more, List.map_append, State.run_append, ran, List.map_cons]
        show State.run dialect.quoting (State.step dialect.quoting ⟨[], mode⟩ (.char '.')) _ = _
        rw [step_dot dialect holds, ran']
      · rw [more]
        simpa using holds'

/-- No keyword has a dot in it. -/
theorem ofWord_of_dot {text : List Char} (h : '.' ∈ text) : ofWord text = .name (String.ofList text) := by
  have dotted : '.' ∈ text.map Char.toLower := List.mem_map.mpr ⟨'.', h, rfl⟩
  have none : keywords.lookup (text.map Char.toLower) = none := by
    rw [List.lookup_eq_none_iff]
    intro entry member
    rw [bne_iff_ne]
    intro same
    rw [same] at dotted
    have undotted : ∀ entry ∈ keywords, '.' ∉ entry.1 := by
      simp [keywords]
    exact undotted entry member dotted
  rw [ofWord, none]
  rfl

/-- (1) A column is one name, spelled as the dialect spells it. -/
theorem lexes_field (c : Column) :
    Lexes dialect.quoting (literal (dialect.field c.table c.name)) [.name (dialect.field c.table c.name)] := by
  let table := Identifier.spell dialect.quoting (Identifier.parse c.table.toList)
  let name := Identifier.spell dialect.quoting (Identifier.parse c.name.toList)
  have text : (dialect.field c.table c.name).toList = table ++ '.' :: name := by
    simp [Dialect.field, Dialect.quote, Identifier.quote, table, name]
  obtain ⟨mode, ran, holds⟩ := run_spell dialect (Identifier.parse c.table.toList) []
  obtain ⟨mode', ran', holds'⟩ := run_spell dialect (Identifier.parse c.name.toList) (table ++ ['.'])
  have whole : State.start.run dialect.quoting (literal (dialect.field c.table c.name)) = ⟨[], mode'⟩ := by
    rw [literal, text, List.map_append, State.run_append, State.start, ran, List.map_cons]
    show State.run dialect.quoting (State.step dialect.quoting ⟨[], mode⟩ (.char '.')) _ = _
    rw [step_dot dialect holds]
    exact ran'
  have spelled : table ++ ['.'] ++ name = (dialect.field c.table c.name).toList := by
    rw [text]
    simp
  rw [Lexes, whole]
  rw [show Identifier.spell dialect.quoting (Identifier.parse c.name.toList) = name from rfl, spelled] at holds'
  rcases holds' with rfl | rfl
  · refine ⟨rfl, ?_⟩
    have dotted : '.' ∈ (dialect.field c.table c.name).toList := by
      rw [text]
      simp
    cases found : (dialect.field c.table c.name).toList with
    | nil =>
      rw [found] at dotted
      cases dotted
    | cons first rest =>
      show [ofWord (first :: rest)] = _
      rw [← found, ofWord_of_dot dotted, String.ofList_toList]
  · refine ⟨rfl, ?_⟩
    show [Token.name (String.ofList _)] = _
    rw [String.ofList_toList]

end Names

end Lexer

/-! ## Fragments -/

namespace Sql

variable (held : String → Option Value)

@[simp] theorem glyphs_text (words : String) : (text words).glyphs held = Lexer.literal words := by
  simp [glyphs, text, Piece.glyphs, Lexer.literal]

@[simp] theorem glyphs_append (a b : Sql) : (a ++ b).glyphs held = a.glyphs held ++ b.glyphs held :=
  List.flatMap_append

theorem glyphs_concat (parts : List Sql) : (concat parts).glyphs held = parts.flatMap (glyphs held) := by
  simp only [concat, glyphs, List.flatMap_assoc]
  rfl

theorem glyphs_slot {held : String → Option Value} {p : Placeholder} {v : Value} (h : held p.text = some v) :
    (slot p).glyphs held = [.value v] := by
  simp [glyphs, slot, Piece.glyphs, h]

end Sql

namespace Fragment

def columnToken (dialect : Dialect) (c : Column) : Token := .name (dialect.field c.table c.name)

def tokens (dialect : Dialect) : Fragment Value → List Token
  | .opening => [.opening]
  | .closing => [.closing]
  | .negation => [.negation]
  | .conjunction => [.conjunction]
  | .disjunction => [.disjunction]
  | .operator op => [.operator op]
  | .column c => [columnToken dialect c]
  | .operand v => [.value v]
  | .compare c op v => [columnToken dialect c, .operator op, .value v]
  | .compareColumns a op b => [columnToken dialect a, .operator op, columnToken dialect b]
  | .like c pattern => [columnToken dialect c, .like, .value pattern]
  | .nullTest c negated => columnToken dialect c :: .is :: if negated then [.negation, .null] else [.null]
  | _ => [.stray]

/-- The operands from number `i` on are held under the texts of their placeholders. -/
def Valued (held : String → Option Value) (issue : Nat → Placeholder) : Nat → List Value → Prop
  | _, [] => True
  | i, v :: rest => held (issue i).text = some v ∧ Valued held issue (i + 1) rest

theorem valued_append {held : String → Option Value} {issue : Nat → Placeholder} {i : Nat}
    {first second : List Value} :
    Valued held issue i (first ++ second) ↔
      Valued held issue i first ∧ Valued held issue (i + first.length) second := by
  induction first generalizing i with
  | nil => simp [Valued]
  | cons v rest ih =>
    simp only [List.cons_append, Valued, ih, List.length_cons, and_assoc]
    rw [show i + 1 + rest.length = i + (rest.length + 1) by omega]

theorem numberedAll_append (issue : Nat → Placeholder) (i : Nat) (first second : List (Fragment Value)) :
    numberedAll issue i (first ++ second) =
      numberedAll issue i first ++ numberedAll issue (i + (first.flatMap operands).length) second := by
  induction first generalizing i with
  | nil => simp [numberedAll]
  | cons fragment rest ih =>
    simp only [List.cons_append, numberedAll, ih, List.flatMap_cons, List.length_append]
    rw [show i + fragment.operands.length + (rest.flatMap operands).length =
      i + (fragment.operands.length + (rest.flatMap operands).length) by omega]

def glyphs (dialect : Dialect) (held : String → Option Value) (issue : Nat → Placeholder) (i : Nat)
    (fragments : List (Fragment Value)) : List Glyph :=
  (numberedAll issue i fragments).flatMap fun fragment => (fragment.sql dialect).glyphs held

/-- Fragments whose text is lexed in a given way, whatever the numbers of their operands,
    and gives their tokens. -/
def Shows (kind : Identifier.Quoting → List Glyph → List Token → Prop) (dialect : Dialect)
    (fragments : List (Fragment Value)) : Prop :=
  ∀ held issue i, Valued held issue i (fragments.flatMap operands) →
    kind dialect.quoting (glyphs dialect held issue i fragments) (fragments.flatMap (tokens dialect))

theorem Shows.append {first second both : Identifier.Quoting → List Glyph → List Token → Prop}
    {dialect : Dialect} {a b : List (Fragment Value)}
    (compose : ∀ {style gs hs ts us}, first style gs ts → second style hs us → both style (gs ++ hs) (ts ++ us))
    (h : Shows first dialect a) (h' : Shows second dialect b) : Shows both dialect (a ++ b) := by
  intro held issue i valued
  rw [List.flatMap_append] at valued
  obtain ⟨left, right⟩ := valued_append.mp valued
  rw [glyphs, numberedAll_append, List.flatMap_append, List.flatMap_append]
  exact compose (h held issue i left) (h' held issue _ right)

theorem Shows.mono {kind kind' : Identifier.Quoting → List Glyph → List Token → Prop} {dialect : Dialect}
    {fragments : List (Fragment Value)} (weaken : ∀ {style gs ts}, kind style gs ts → kind' style gs ts)
    (h : Shows kind dialect fragments) : Shows kind' dialect fragments :=
  fun held issue i valued => weaken (h held issue i valued)

/-- One fragment, by its text. -/
theorem shows_one {kind : Identifier.Quoting → List Glyph → List Token → Prop} {dialect : Dialect}
    {fragment : Fragment Value}
    (h : ∀ held issue i, Valued held issue i fragment.operands →
      kind dialect.quoting (((fragment.numbered issue i).sql dialect).glyphs held) (fragment.tokens dialect)) :
    Shows kind dialect [fragment] := by
  intro held issue i valued
  rw [List.flatMap_singleton] at valued
  simpa [glyphs, numberedAll] using h held issue i valued

section Kinds

open Lexer

variable (dialect : Dialect)

theorem shows_opening : Shows Joins dialect [.opening] := shows_one fun _ _ _ _ => joins_opening dialect

theorem shows_closing : Shows Joins dialect [.closing] := shows_one fun _ _ _ _ => joins_closing dialect

theorem shows_negation : Shows Leads dialect [.negation] := shows_one fun _ _ _ _ => leads_negation dialect

theorem shows_conjunction : Shows Joins dialect [.conjunction] :=
  shows_one fun _ _ _ _ => joins_conjunction dialect

theorem shows_disjunction : Shows Joins dialect [.disjunction] :=
  shows_one fun _ _ _ _ => joins_disjunction dialect

theorem shows_operator {op : Operator} (h : op.isComparison = true) : Shows Joins dialect [.operator op] := by
  refine shows_one fun held issue i _ => ?_
  show Joins dialect.quoting ((Sql.text (" " ++ op.symbol ++ " ")).glyphs held) _
  rw [Sql.glyphs_text]
  exact joins_operator dialect h

theorem shows_column (c : Column) : Shows Lexes dialect [.column c] := by
  refine shows_one fun held issue i _ => ?_
  show Lexes dialect.quoting ((Sql.text (dialect.field c.table c.name)).glyphs held) _
  rw [Sql.glyphs_text]
  exact lexes_field dialect c

theorem shows_operand (v : Value) : Shows Joins dialect [.operand v] := by
  refine shows_one fun held issue i valued => ?_
  show Joins dialect.quoting ((Sql.slot (issue i)).glyphs held) [.value v]
  rw [Sql.glyphs_slot valued.1]
  exact joins_value dialect.quoting v

theorem shows_compare (c : Column) {op : Operator} (v : Value) (h : op.isComparison = true) :
    Shows Leads dialect [.compare c op v] := by
  refine shows_one fun held issue i valued => ?_
  show Leads dialect.quoting ((Sql.text (dialect.field c.table c.name) ++ Sql.text (" " ++ op.symbol ++ " ")
    ++ Sql.slot (issue i)).glyphs held) _
  rw [Sql.glyphs_append, Sql.glyphs_append, Sql.glyphs_text, Sql.glyphs_text, Sql.glyphs_slot valued.1]
  exact ((lexes_field dialect c).append_joins (joins_operator dialect h)).append (joins_value _ v).leads

theorem shows_compareColumns (a b : Column) {op : Operator} (h : op.isComparison = true) :
    Shows Lexes dialect [.compareColumns a op b] := by
  refine shows_one fun held issue i _ => ?_
  show Lexes dialect.quoting ((Sql.text (dialect.field a.table a.name) ++ Sql.text (" " ++ op.symbol ++ " ")
    ++ Sql.text (dialect.field b.table b.name)).glyphs held) _
  rw [Sql.glyphs_append, Sql.glyphs_append, Sql.glyphs_text, Sql.glyphs_text, Sql.glyphs_text]
  exact ((lexes_field dialect a).append_joins (joins_operator dialect h)).append_lexes (lexes_field dialect b)

theorem shows_like (c : Column) (pattern : Value) : Shows Leads dialect [.like c pattern] := by
  refine shows_one fun held issue i valued => ?_
  show Leads dialect.quoting ((Sql.text (dialect.field c.table c.name) ++ Sql.text " LIKE "
    ++ Sql.slot (issue i)).glyphs held) _
  rw [Sql.glyphs_append, Sql.glyphs_append, Sql.glyphs_text, Sql.glyphs_text, Sql.glyphs_slot valued.1]
  exact ((lexes_field dialect c).append_joins (joins_like dialect)).append (joins_value _ pattern).leads

theorem shows_nullTest (c : Column) (negated : Bool) : Shows Lexes dialect [.nullTest c negated] := by
  refine shows_one fun held issue i _ => ?_
  have start := (lexes_field dialect c).append_joins (joins_is dialect)
  cases negated with
  | false =>
    show Lexes dialect.quoting
      ((Sql.text (dialect.field c.table c.name) ++ Sql.text " IS NULL").glyphs held) _
    rw [Sql.glyphs_append, Sql.glyphs_text, Sql.glyphs_text]
    have text : literal " IS NULL" = literal " IS " ++ literal "NULL" := rfl
    rw [text, ← List.append_assoc]
    exact start.append_lexes (lexes_null dialect)
  | true =>
    show Lexes dialect.quoting
      ((Sql.text (dialect.field c.table c.name) ++ Sql.text " IS NOT NULL").glyphs held) _
    rw [Sql.glyphs_append, Sql.glyphs_text, Sql.glyphs_text]
    have text : literal " IS NOT NULL" = literal " IS " ++ (literal "NOT " ++ literal "NULL") := rfl
    rw [text, ← List.append_assoc]
    exact start.append_lexes ((leads_negation dialect).append_lexes (lexes_null dialect))

/-- A group is read between its parentheses. -/
theorem shows_grouped {inside : List (Fragment Value)} (h : Shows Lexes dialect inside) :
    Shows Leads dialect (Fragment.opening :: inside ++ [Fragment.closing]) := by
  have opened : Shows Leads dialect [Fragment.opening] := (shows_opening dialect).mono Joins.leads
  have first : Shows Lexes dialect ([Fragment.opening] ++ inside) := .append Leads.append_lexes opened h
  exact .append Lexes.append_joins first (shows_closing dialect)

/-- Two conditions with a fragment between them. -/
theorem shows_between {left right : List (Fragment Value)} {fragment : Fragment Value}
    (hl : Shows Lexes dialect left) (between : Shows Joins dialect [fragment])
    (hr : Shows Lexes dialect right) : Shows Lexes dialect (left ++ fragment :: right) := by
  have first : Shows Leads dialect (left ++ [fragment]) := .append Lexes.append_joins hl between
  have whole : Shows Lexes dialect (left ++ [fragment] ++ right) := .append Leads.append_lexes first hr
  rw [List.append_assoc] at whole
  exact whole

/-- (2) The condition of a term gives the tokens of its fragments. -/
theorem shows_of_emits {t : Term} {fragments : List (Fragment Value)} (h : Term.Emits t fragments) :
    Shows Lexes dialect fragments := by
  induction h with
  | column c => exact shows_column dialect c
  | value v => exact (shows_operand dialect v).mono fun joins => joins.leads.lexes
  | equals c text => exact (shows_compare dialect c (.text text) rfl).mono Leads.lexes
  | pattern c text _ => exact (shows_like dialect c _).mono Leads.lexes
  | notGrouped _ _ ih => exact .append Leads.append_lexes (shows_negation dialect) ih
  | notBare _ _ ih =>
    have whole : Shows Leads dialect ([Fragment.negation] ++ (Fragment.opening :: _ ++ [Fragment.closing])) :=
      .append Leads.append (shows_negation dialect) (shows_grouped dialect ih)
    exact whole.mono Leads.lexes
  | and _ _ ihl ihr =>
    exact (shows_grouped dialect (shows_between dialect ihl (shows_conjunction dialect) ihr)).mono Leads.lexes
  | or _ _ ihl ihr =>
    exact (shows_grouped dialect (shows_between dialect ihl (shows_disjunction dialect) ihr)).mono Leads.lexes
  | columns a b comparison => exact shows_compareColumns dialect a b comparison
  | compared comparison found _ =>
    exact (shows_compare dialect _ _ (Term.isComparison_of_pair found comparison)).mono Leads.lexes
  | isNull _ => exact shows_nullTest dialect _ false
  | isNotNull _ => exact shows_nullTest dialect _ true
  | generic comparison _ _ _ ihl ihr =>
    exact (shows_grouped dialect
      (shows_between dialect ihl (shows_operator dialect comparison) ihr)).mono Leads.lexes

end Kinds

end Fragment

end Querycraft
