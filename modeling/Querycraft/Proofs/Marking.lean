/-
  Querycraft.Proofs.Marking — the text of a condition says where its placeholders are.

  A text is given as `Sign`s, characters and whole placeholders, and is `Marked` if
  placeholders begin with the dialect's marker, never behind a character of a name, and
  the marker stands nowhere else but inside names. Of two marked texts that are equal and
  show the same placeholders in the same order, the signs are equal too
  (`Marked.unique`).

  A plain name does not begin with the marker, bare or between quotes (`goes_quote`), so
  the condition of a term over plain columns is marked (`begins_of_emits`). Plain columns
  are told apart by their spelling (`field_injective`).
-/

import Querycraft.Proofs.Grouping
import Querycraft.Proofs.Quoting

namespace Querycraft

/-! ## Signs -/

abbrev Sign := Char ⊕ Placeholder

namespace Sign

def text : Sign → List Char
  | .inl c => [c]
  | .inr p => p.text.toList

def glyph (held : String → Option Value) : Sign → Glyph
  | .inl c => .char c
  | .inr p =>
    match held p.text with
    | some v => .value v
    | none => .missing

end Sign

def Piece.signs : Piece → List Sign
  | .text words => words.toList.map .inl
  | .slot p => [.inr p]

namespace Sql

def signs (sql : Sql) : List Sign := sql.pieces.flatMap Piece.signs

theorem signs_text (words : String) : (text words).signs = words.toList.map .inl := by
  simp [signs, text, Piece.signs]

theorem signs_slot (p : Placeholder) : (slot p).signs = [.inr p] := rfl

theorem signs_append (a b : Sql) : (a ++ b).signs = a.signs ++ b.signs := List.flatMap_append

theorem signs_concat (parts : List Sql) : (concat parts).signs = parts.flatMap signs := by
  simp only [concat, signs, List.flatMap_assoc]
  rfl

theorem toList_toText (sql : Sql) : sql.toText.toList = sql.signs.flatMap Sign.text := by
  rw [toText, String.toList_join, List.flatMap_map, signs, List.flatMap_assoc]
  congr 1
  funext piece
  cases piece with
  | text words => simp [Piece.toText, Piece.signs, Sign.text, List.flatMap_map]
  | slot p => simp [Piece.toText, Piece.signs, Sign.text]

theorem slots_eq_signs (sql : Sql) : sql.slots = sql.signs.filterMap Sum.getRight? := by
  obtain ⟨pieces⟩ := sql
  induction pieces with
  | nil => rfl
  | cons piece rest ih =>
    rw [signs, List.flatMap_cons, List.filterMap_append]
    cases piece with
    | text words =>
      have none : (words.toList.map Sum.inl : List Sign).filterMap Sum.getRight? = [] := by
        simp [List.filterMap_eq_nil_iff]
      simpa [slots, signs, Piece.signs, none] using ih
    | slot p => simpa [slots, signs, Piece.signs] using ih

theorem glyphs_eq_signs (held : String → Option Value) (sql : Sql) :
    sql.glyphs held = sql.signs.map (Sign.glyph held) := by
  rw [glyphs, signs, List.map_flatMap]
  congr 1
  funext piece
  cases piece with
  | text words => simp [Piece.glyphs, Piece.signs, Sign.glyph]
  | slot p => cases found : held p.text <;> simp [Piece.glyphs, Piece.signs, Sign.glyph, found]

end Sql

/-! ## Placeholders in a text -/

def Dialect.marker : Dialect → Char
  | .postgres => '$'
  | _ => '@'

/-- Placeholders begin with the marker, never behind a character of a name; and the marker
    is part of a text only there. -/
inductive Marked (marker : Char) : Bool → List Sign → Prop
  | nil (named : Bool) : Marked marker named []
  | char {named : Bool} {c : Char} {rest : List Sign} : (c = marker → named = true) →
      Marked marker (Lexer.isNameChar c) rest → Marked marker named (.inl c :: rest)
  | slot {p : Placeholder} {rest : List Sign} : p.text.toList.head? = some marker → Marked marker true rest →
      Marked marker false (.inr p :: rest)

/-- Where one text goes on with a character, no other goes on with a placeholder. -/
theorem Marked.char_ne_slot {marker : Char} {named : Bool} {c : Char} {p : Placeholder} {rest rest' : List Sign}
    (h : Marked marker named (.inl c :: rest)) (h' : Marked marker named (.inr p :: rest')) :
    List.flatMap Sign.text (.inl c :: rest) ≠ List.flatMap Sign.text (.inr p :: rest') := by
  intro text
  cases h' with
  | slot marked _ =>
    cases h with
    | char inside _ =>
      have heads := congrArg List.head? text
      rw [List.flatMap_cons, List.flatMap_cons, List.head?_append, List.head?_append] at heads
      have first : c = marker := by simpa [Sign.text, marked] using heads
      cases inside first

/-- A text that is marked says where its placeholders are. -/
theorem Marked.unique {marker : Char} {named : Bool} {a b : List Sign} (ha : Marked marker named a)
    (hb : Marked marker named b) (text : a.flatMap Sign.text = b.flatMap Sign.text)
    (slots : a.filterMap Sum.getRight? = b.filterMap Sum.getRight?) : a = b := by
  induction a generalizing named b with
  | nil =>
    cases b with
    | nil => rfl
    | cons sign rest =>
      cases sign with
      | inl c => cases text
      | inr p => cases slots
  | cons sign rest ih =>
    cases b with
    | nil =>
      cases sign with
      | inl c => cases text
      | inr p => cases slots
    | cons other rest' =>
      cases sign with
      | inl c =>
        cases other with
        | inr p => exact absurd text (ha.char_ne_slot hb)
        | inl c' =>
          obtain ⟨rfl, texts⟩ : c = c' ∧ rest.flatMap Sign.text = rest'.flatMap Sign.text := List.cons.inj text
          cases ha with
          | char _ ha =>
            cases hb with
            | char _ hb => exact congrArg _ (ih ha hb texts slots)
      | inr p =>
        cases other with
        | inl c => exact absurd text.symm (hb.char_ne_slot ha)
        | inr p' =>
          obtain ⟨rfl, others⟩ : p = p' ∧ rest.filterMap Sum.getRight? = rest'.filterMap Sum.getRight? :=
            List.cons.inj slots
          cases ha with
          | slot _ ha =>
            cases hb with
            | slot _ hb => exact congrArg _ (ih ha hb (List.append_cancel_left text) others)

/-! ## Plain columns -/

def Column.isPlain (c : Column) : Bool :=
  Identifier.isWord c.table.toList && Identifier.isWord c.name.toList

namespace Identifier

theorem continuesWord_of_mem {text : List Char} (h : isWord text = true) {c : Char} (member : c ∈ text) :
    continuesWord c = true := by
  cases text with
  | nil => cases h
  | cons first rest =>
    simp only [isWord, Bool.and_eq_true, List.all_eq_true] at h
    rcases List.mem_cons.mp member with rfl | later
    · have := h.1
      simp only [startsWord, continuesWord, Char.isAlphanum, Bool.or_eq_true] at this ⊢
      grind
    · exact h.2 c later

theorem escape_of_not_mem {close : Char} {text : List Char} (h : close ∉ text) : escape close text = text := by
  induction text with
  | nil => rfl
  | cons c rest ih =>
    rw [List.mem_cons, not_or] at h
    rw [escape, if_neg (Ne.symm h.1), ih h.2]

theorem parse_of_isWord {text : List Char} (h : isWord text = true) : parse text = [.bare text] := by
  have shape := (isWord_iff text).mp h
  have undotted := shape.undotted
  cases text with
  | nil => cases h
  | cons c rest =>
    have parsed : parse (c :: rest ++ []) = .bare (c :: rest) :: parse (dropDot []) :=
      parse_of_bare (closing?_of_start shape.1) undotted nofun
    simpa [dropDot, parse] using parsed

end Identifier

namespace Dialect

open Identifier

variable (dialect : Dialect)

theorem closing_not_continuesWord : continuesWord dialect.quoting.closing = false := by
  cases dialect <;> rfl

/-- A plain name is spelled as it is, or between quotes. -/
theorem toList_quote {name : String} (h : isWord name.toList = true) :
    (dialect.quote name).toList = name.toList ∨
      (dialect.quote name).toList = dialect.quoting.opening :: name.toList ++ [dialect.quoting.closing] := by
  have inside : dialect.quoting.closing ∉ name.toList := by
    intro member
    have := continuesWord_of_mem h member
    rw [closing_not_continuesWord] at this
    cases this
  have star : name.toList ≠ ['*'] := by
    intro same
    rw [same] at h
    revert h
    decide
  rw [quote, Identifier.quote, String.toList_ofList, parse_of_isWord h, spell_singleton, spellPart, if_neg star]
  split
  · rw [spellQuoted, escape_of_not_mem inside]
    exact .inr rfl
  · exact .inl rfl

theorem toList_field (c : Column) :
    (dialect.field c.table c.name).toList = (dialect.quote c.table).toList ++ '.' :: (dialect.quote c.name).toList := by
  simp [field]

theorem not_dot_mem_quote {name : String} (h : isWord name.toList = true) : '.' ∉ (dialect.quote name).toList := by
  have undotted := ((isWord_iff _).mp h).undotted
  have quotes : dialect.quoting.opening ≠ '.' ∧ dialect.quoting.closing ≠ '.' := by
    cases dialect <;> decide
  rcases dialect.toList_quote h with bare | quoted
  · rwa [bare]
  · rw [quoted]
    simp [undotted, quotes.1.symm, quotes.2.symm]

theorem quote_injective {a b : String} (ha : isWord a.toList = true) (hb : isWord b.toList = true)
    (same : dialect.quote a = dialect.quote b) : a = b := by
  have unquoted (name : String) (h : isWord name.toList = true) (rest : List Char) :
      name.toList ≠ dialect.quoting.opening :: rest := by
    intro opened
    rw [opened] at h
    cases dialect <;> cases h
  have lists : (dialect.quote a).toList = (dialect.quote b).toList := congrArg String.toList same
  rw [← String.toList_inj]
  rcases dialect.toList_quote ha with first | first <;> rcases dialect.toList_quote hb with second | second <;>
    rw [first, second] at lists
  · exact lists
  · exact absurd lists (unquoted a ha _)
  · exact absurd lists.symm (unquoted b hb _)
  · exact List.append_cancel_right (List.cons.inj lists).2

/-- Plain columns are told apart by their spelling. -/
theorem field_injective {a b : Column} (ha : a.isPlain = true) (hb : b.isPlain = true)
    (same : dialect.field a.table a.name = dialect.field b.table b.name) : a = b := by
  simp only [Column.isPlain, Bool.and_eq_true] at ha hb
  have lists := congrArg String.toList same
  rw [toList_field, toList_field] at lists
  have upTo (name : String) (h : isWord name.toList = true) (rest : List Char) :
      ((dialect.quote name).toList ++ '.' :: rest).takeWhile (· != '.') = (dialect.quote name).toList := by
    have before : ∀ c ∈ (dialect.quote name).toList, (c != '.') = true := fun c member =>
      bne_iff_ne.mpr fun dot => dialect.not_dot_mem_quote h (dot ▸ member)
    rw [List.takeWhile_append_of_pos before]
    simp
  have tables : (dialect.quote a.table).toList = (dialect.quote b.table).toList := by
    rw [← upTo a.table ha.1 _, lists, upTo b.table hb.1]
  rw [tables] at lists
  have names := (List.cons.inj (List.append_cancel_left lists)).2
  obtain ⟨table, name⟩ := a
  obtain ⟨table', name'⟩ := b
  obtain rfl := dialect.quote_injective ha.1 hb.1 (String.toList_inj.mp tables)
  obtain rfl := dialect.quote_injective ha.2 hb.2 (String.toList_inj.mp names)
  rfl

/-- A row that a server knows by spellings, for one that is known by columns. -/
theorem exists_columnsOf (row : Column → Value) :
    ∃ spelled : String → Value, ∀ c : Column, c.isPlain = true → dialect.columnsOf spelled c = row c := by
  classical
  refine ⟨fun text => if h : ∃ c : Column, c.isPlain = true ∧ dialect.field c.table c.name = text
    then row h.choose else .null, fun c plain => ?_⟩
  have found : ∃ c' : Column, c'.isPlain = true ∧ dialect.field c'.table c'.name = dialect.field c.table c.name :=
    ⟨c, plain, rfl⟩
  rw [columnsOf, dif_pos found]
  exact congrArg row (dialect.field_injective found.choose_spec.1 plain found.choose_spec.2)

end Dialect

/-! ## Conditions are marked -/

/-- Text that may stand behind anything. -/
def Goes (marker : Char) (rest : List Sign) : Prop := ∀ named, Marked marker named rest

section Marking

variable {marker : Char} {named : Bool} {rest : List Sign}

theorem goes_char {c : Char} (h : c ≠ marker) (goes : Marked marker (Lexer.isNameChar c) rest) :
    Goes marker (.inl c :: rest) := fun _ => .char (fun same => absurd same h) goes

/-- Characters other than the marker, the last of them not of a name. -/
theorem goes_literal {text : List Char} (free : marker ∉ text) (h : Marked marker false rest)
    (ends : text.getLast?.any (fun c => !Lexer.isNameChar c) = true) : Goes marker (text.map .inl ++ rest) := by
  induction text with
  | nil => cases ends
  | cons c cs ih =>
    rw [List.mem_cons, not_or] at free
    refine goes_char (Ne.symm free.1) ?_
    cases cs with
    | nil =>
      have unnamed : Lexer.isNameChar c = false := by simpa using ends
      simpa [unnamed] using h
    | cons d ds => exact ih free.2 (by simpa using ends) _

theorem goes_free {text : List Char} (free : marker ∉ text) (h : Goes marker rest) :
    Goes marker (text.map .inl ++ rest) := by
  induction text with
  | nil => exact h
  | cons c cs ih =>
    rw [List.mem_cons, not_or] at free
    exact goes_char (Ne.symm free.1) (ih free.2 _)

theorem marked_word {text : List Char} (h : ∀ c ∈ text, Identifier.continuesWord c = true)
    (goes : Goes marker rest) : Marked marker true (text.map .inl ++ rest) := by
  induction text with
  | nil => exact goes true
  | cons c cs ih =>
    have named : Lexer.isNameChar c = true := by simp [Lexer.isNameChar, h c List.mem_cons_self]
    refine .char (fun _ => rfl) ?_
    rw [named]
    exact ih fun d member => h d (List.mem_cons_of_mem _ member)

theorem goes_word (dialect : Dialect) {text : List Char} (h : Identifier.isWord text = true)
    (goes : Goes dialect.marker rest) : Goes dialect.marker (text.map .inl ++ rest) := by
  have inside := fun c member => Identifier.continuesWord_of_mem h (c := c) member
  cases text with
  | nil => cases h
  | cons c cs =>
    simp only [Identifier.isWord, Bool.and_eq_true] at h
    have other : c ≠ dialect.marker := by
      rintro rfl
      cases dialect <;> exact absurd h.1 (by decide)
    have named : Lexer.isNameChar c = true := by simp [Lexer.isNameChar, inside c List.mem_cons_self]
    refine goes_char other ?_
    rw [named]
    exact marked_word (fun d member => inside d (List.mem_cons_of_mem _ member)) goes

theorem goes_quote (dialect : Dialect) {name : String} (h : Identifier.isWord name.toList = true)
    (goes : Goes dialect.marker rest) : Goes dialect.marker ((dialect.quote name).toList.map .inl ++ rest) := by
  have quotes : dialect.quoting.opening ≠ dialect.marker ∧ dialect.quoting.closing ≠ dialect.marker := by
    cases dialect <;> decide
  rcases dialect.toList_quote h with bare | quoted
  · rw [bare]
    exact goes_word dialect h goes
  · rw [quoted, List.cons_append, List.map_cons, List.map_append, List.cons_append, List.append_assoc]
    exact goes_char quotes.1 (goes_word dialect h (goes_char quotes.2 (goes _)) _)

theorem goes_field (dialect : Dialect) {c : Column} (plain : c.isPlain = true) (goes : Goes dialect.marker rest) :
    Goes dialect.marker ((dialect.field c.table c.name).toList.map .inl ++ rest) := by
  simp only [Column.isPlain, Bool.and_eq_true] at plain
  rw [dialect.toList_field, List.map_append, List.append_assoc]
  refine goes_quote dialect plain.1 (goes_char ?_ (goes_quote dialect plain.2 goes _))
  cases dialect <;> decide

end Marking

/-- The column of a pair is one of the term's. -/
theorem Term.mem_columns_of_pair {op op' : Operator} {l r : Term} {c : Column} {v : Value}
    (found : pair? op l r = some (.withValue c op' v)) : c ∈ (Term.operation op l r).columns := by
  rcases pair?_cases found with ⟨_, _, rfl, rfl, same⟩ | ⟨_, _, rfl, rfl, same⟩ | ⟨_, _, _, _, same⟩ <;> cases same
  · exact List.mem_cons_self
  · exact List.mem_cons_self

namespace Fragment

def signs (dialect : Dialect) (issue : Nat → Placeholder) (i : Nat) (fragments : List (Fragment Value)) : List Sign :=
  (numberedAll issue i fragments).flatMap fun fragment => (fragment.sql dialect).signs

/-- Fragments whose text is marked where an operand may begin, whatever follows it. -/
def Begins (dialect : Dialect) (issue : Nat → Placeholder) (fragments : List (Fragment Value)) : Prop :=
  ∀ i rest, Goes dialect.marker rest → Marked dialect.marker false (signs dialect issue i fragments ++ rest)

/-- Fragments whose text may stand behind anything, before an operand. -/
def Joins (dialect : Dialect) (issue : Nat → Placeholder) (fragments : List (Fragment Value)) : Prop :=
  ∀ i rest, Marked dialect.marker false rest → Goes dialect.marker (signs dialect issue i fragments ++ rest)

section Begins

variable {dialect : Dialect} {issue : Nat → Placeholder} {a b : List (Fragment Value)}

theorem signs_append (i : Nat) :
    signs dialect issue i (a ++ b) =
      signs dialect issue i a ++ signs dialect issue (i + (a.flatMap operands).length) b := by
  rw [signs, numberedAll_append, List.flatMap_append]
  rfl

theorem signs_one (i : Nat) (fragment : Fragment Value) :
    signs dialect issue i [fragment] = ((fragment.numbered issue i).sql dialect).signs := by
  simp [signs, numberedAll]

theorem joins_literal {fragment : Fragment Value} {text : String}
    (h : ∀ i, (fragment.numbered issue i).sql dialect = Sql.text text) (free : dialect.marker ∉ text.toList)
    (ends : text.toList.getLast?.any (fun c => !Lexer.isNameChar c) = true) : Joins dialect issue [fragment] := by
  intro i rest marked
  rw [signs_one, h, Sql.signs_text]
  exact goes_literal free marked ends

theorem joins_opening : Joins dialect issue [.opening] :=
  joins_literal (fun _ => rfl) (by cases dialect <;> decide) (by decide)

theorem joins_negation : Joins dialect issue [.negation] :=
  joins_literal (fun _ => rfl) (by cases dialect <;> decide) (by decide)

theorem joins_conjunction : Joins dialect issue [.conjunction] :=
  joins_literal (fun _ => rfl) (by cases dialect <;> decide) (by decide)

theorem joins_disjunction : Joins dialect issue [.disjunction] :=
  joins_literal (fun _ => rfl) (by cases dialect <;> decide) (by decide)

/-- An operator between spaces has no marker in it. -/
theorem operator_free (dialect : Dialect) {op : Operator} (h : op.isComparison = true) :
    dialect.marker ∉ (" " ++ op.symbol ++ " ").toList ∧
      (" " ++ op.symbol ++ " ").toList.getLast?.any (fun c => !Lexer.isNameChar c) = true := by
  cases op with
  | equal | notEqual | greater | greaterOrEqual | less | lessOrEqual => cases dialect <;> decide
  | _ => cases h

theorem joins_operator {op : Operator} (h : op.isComparison = true) : Joins dialect issue [.operator op] :=
  joins_literal (fun _ => rfl) (operator_free dialect h).1 (operator_free dialect h).2

theorem Joins.begins (h : Joins dialect issue a) (h' : Begins dialect issue b) : Begins dialect issue (a ++ b) := by
  intro i rest goes
  rw [signs_append, List.append_assoc]
  exact h i _ (h' _ rest goes) false

theorem Begins.between {fragment : Fragment Value} (left : Begins dialect issue a)
    (between : Joins dialect issue [fragment]) (right : Begins dialect issue b) :
    Begins dialect issue (a ++ fragment :: b) := by
  intro i rest goes
  rw [show a ++ fragment :: b = a ++ ([fragment] ++ b) from rfl, signs_append, signs_append, List.append_assoc,
    List.append_assoc]
  exact left i _ (between _ _ (right _ rest goes))

theorem Begins.grouped (h : Begins dialect issue a) :
    Begins dialect issue (Fragment.opening :: a ++ [Fragment.closing]) := by
  have closed : Begins dialect issue (a ++ [Fragment.closing]) := by
    intro i rest goes
    rw [signs_append, List.append_assoc]
    refine h i _ (goes_char ?_ (goes _))
    cases dialect <;> decide
  exact joins_opening.begins closed

section Operands

variable {c : Column} (plain : c.isPlain = true)

include plain

theorem begins_column : Begins dialect issue [.column c] := by
  intro i rest goes
  rw [signs_one]
  show Marked dialect.marker false ((Sql.text (dialect.field c.table c.name)).signs ++ rest)
  rw [Sql.signs_text]
  exact goes_field dialect plain goes false

theorem begins_compareColumns {other : Column} (plain' : other.isPlain = true) {op : Operator}
    (h : op.isComparison = true) : Begins dialect issue [.compareColumns c op other] := by
  intro i rest goes
  have free := operator_free dialect h
  rw [signs_one]
  show Marked dialect.marker false ((Sql.text (dialect.field c.table c.name) ++ Sql.text (" " ++ op.symbol ++ " ")
    ++ Sql.text (dialect.field other.table other.name)).signs ++ rest)
  rw [Sql.signs_append, Sql.signs_append, Sql.signs_text, Sql.signs_text, Sql.signs_text, List.append_assoc,
    List.append_assoc]
  exact goes_field dialect plain (goes_literal free.1 (goes_field dialect plain' goes false) free.2) false

theorem begins_nullTest (negated : Bool) : Begins dialect issue [.nullTest c negated] := by
  intro i rest goes
  have free (text : String) (h : dialect.marker ∉ text.toList) : Marked dialect.marker false
      ((Sql.text (dialect.field c.table c.name) ++ Sql.text text).signs ++ rest) := by
    rw [Sql.signs_append, Sql.signs_text, Sql.signs_text, List.append_assoc]
    exact goes_field dialect plain (goes_free h goes) false
  rw [signs_one]
  cases negated with
  | true => exact free " IS NOT NULL" (by cases dialect <;> decide)
  | false => exact free " IS NULL" (by cases dialect <;> decide)

/-- A column, a literal and a placeholder. -/
theorem begins_placed {fragment : Fragment Value} (text : String)
    (h : ∀ i, (fragment.numbered issue i).sql dialect =
      Sql.text (dialect.field c.table c.name) ++ Sql.text text ++ Sql.slot (issue i))
    (marked : ∀ i, (issue i).text.toList.head? = some dialect.marker) (free : dialect.marker ∉ text.toList)
    (ends : text.toList.getLast?.any (fun c => !Lexer.isNameChar c) = true) : Begins dialect issue [fragment] := by
  intro i rest goes
  rw [signs_one, h, Sql.signs_append, Sql.signs_append, Sql.signs_text, Sql.signs_text, Sql.signs_slot,
    List.append_assoc, List.append_assoc]
  have placed : Marked dialect.marker false ([.inr (issue i)] ++ rest) := .slot (marked i) (goes true)
  exact goes_field dialect plain (goes_literal free placed ends) false

theorem begins_compare (marked : ∀ i, (issue i).text.toList.head? = some dialect.marker) {op : Operator}
    (h : op.isComparison = true) (v : Value) : Begins dialect issue [.compare c op v] :=
  begins_placed plain (" " ++ op.symbol ++ " ") (fun _ => rfl) marked (operator_free dialect h).1
    (operator_free dialect h).2

theorem begins_like (marked : ∀ i, (issue i).text.toList.head? = some dialect.marker) (pattern : Value) :
    Begins dialect issue [.like c pattern] :=
  begins_placed plain " LIKE " (fun _ => rfl) marked (by cases dialect <;> decide) (by decide)

end Operands

/-- The condition of a term over plain columns is marked. -/
theorem begins_of_emits (marked : ∀ i, (issue i).text.toList.head? = some dialect.marker) {t : Term}
    {fragments : List (Fragment Value)} (h : Term.Emits t fragments) (plain : ∀ c ∈ t.columns, c.isPlain = true) :
    Begins dialect issue fragments := by
  induction h with
  | column c => exact begins_column (plain c List.mem_cons_self)
  | value v => exact fun i rest goes => .slot (marked i) (goes true)
  | equals c text => exact begins_compare (plain c List.mem_cons_self) marked rfl _
  | pattern c text _ => exact begins_like (plain c List.mem_cons_self) marked _
  | notGrouped _ _ ih => exact joins_negation.begins (ih plain)
  | notBare _ _ ih => exact joins_negation.begins (ih plain).grouped
  | and _ _ ihl ihr =>
    have left := ihl fun c member => plain c (List.mem_append_left _ member)
    have right := ihr fun c member => plain c (List.mem_append_right _ member)
    exact (left.between joins_conjunction right).grouped
  | or _ _ ihl ihr =>
    have left := ihl fun c member => plain c (List.mem_append_left _ member)
    have right := ihr fun c member => plain c (List.mem_append_right _ member)
    exact (left.between joins_disjunction right).grouped
  | columns a b comparison =>
    exact begins_compareColumns (plain a (by simp [Term.columns])) (plain b (by simp [Term.columns])) comparison
  | compared comparison found _ =>
    exact begins_compare (plain _ (Term.mem_columns_of_pair found)) marked
      (Term.isComparison_of_pair found comparison) _
  | isNull found => exact begins_nullTest (plain _ (Term.mem_columns_of_pair found)) false
  | isNotNull found => exact begins_nullTest (plain _ (Term.mem_columns_of_pair found)) true
  | generic comparison _ _ _ ihl ihr =>
    have left := ihl fun c member => plain c (List.mem_append_left _ member)
    have right := ihr fun c member => plain c (List.mem_append_right _ member)
    exact (left.between (joins_operator comparison) right).grouped

end Begins

end Fragment

end Querycraft
