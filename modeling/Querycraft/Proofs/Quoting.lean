/-
  Querycraft.Proofs.Quoting — a spelled name is a name, and the one that was meant.

  `SpelledName` is the grammar of names in statements: parts with dots between them, each
  a star, a word that the server takes for a name as it stands, or text between quotes
  in which the closing character comes in pairs only. Proved, for every text that a
  caller gives as a name and for every dialect:
  (1) the spelling is a text of this grammar, or empty for the empty name, and a text of
      the grammar is its own spelling (`quote_spells_name`);
  (2) reading the spelling back gives the texts of the parts that the caller wrote, also
      where the server lower-cases what is not quoted, and spelling a spelled name changes
      nothing (`quote_reads_back`);
  (3) a column qualified by its table is read back as the parts of the table and then those
      of the column, unless the table has no name (`field_reads_table_then_column`).

  All rest on `parse_spell_append`: a spelling is read back part by part, each part quoted
  exactly where its spelling has quotes, and no part reaches beyond its own spelling.
-/

import Querycraft.Dialect.Basic

namespace Querycraft.Identifier

/-! ## The grammar of spelled names -/

/-- The text between quotes: any characters, the closing one in pairs only. -/
inductive QuotedBody (close : Char) : List Char → Prop
  | nil : QuotedBody close []
  | char {c : Char} {body : List Char} : c ≠ close → QuotedBody close body → QuotedBody close (c :: body)
  | pair {body : List Char} : QuotedBody close body → QuotedBody close (close :: close :: body)

def IsCapital (c : Char) : Prop := 'A' ≤ c ∧ c ≤ 'Z'

def IsLetter (c : Char) : Prop := IsCapital c ∨ 'a' ≤ c ∧ c ≤ 'z'

def IsDigit (c : Char) : Prop := '0' ≤ c ∧ c ≤ '9'

instance (c : Char) : Decidable (IsCapital c) := inferInstanceAs (Decidable ('A' ≤ c ∧ c ≤ 'Z'))

instance (c : Char) : Decidable (IsLetter c) := inferInstanceAs (Decidable (IsCapital c ∨ 'a' ≤ c ∧ c ≤ 'z'))

instance (c : Char) : Decidable (IsDigit c) := inferInstanceAs (Decidable ('0' ≤ c ∧ c ≤ '9'))

/-- A letter or underscore, then letters, digits, underscores and dollar signs. -/
def WordShape : List Char → Prop
  | [] => False
  | c :: rest => (c = '_' ∨ IsLetter c) ∧ ∀ d ∈ rest, d = '_' ∨ d = '$' ∨ IsLetter d ∨ IsDigit d

def SameLetters (a b : List Char) : Prop := a.map Char.toLower = b.map Char.toLower

/-- A word that a server takes for a name, and for this one, without quotes. -/
structure SafeWord (style : Quoting) (text : List Char) : Prop where
  optional : style.always = false
  shape : WordShape text
  small : style.foldsCase = true → ∀ c ∈ text, ¬ IsCapital c
  unreserved : ∀ word ∈ reservedWords, ¬ SameLetters text word.toList

inductive SpelledPart (style : Quoting) : List Char → Prop
  | star : SpelledPart style ['*']
  | word {text : List Char} : SafeWord style text → SpelledPart style text
  | quoted {body : List Char} : QuotedBody style.closing body →
      SpelledPart style (style.opening :: body ++ [style.closing])

/-- A part, or a part and a dot before a name. -/
inductive SpelledName (style : Quoting) : List Char → Prop
  | one {part : List Char} : SpelledPart style part → SpelledName style part
  | dotted {part rest : List Char} : SpelledPart style part → SpelledName style rest →
      SpelledName style (part ++ '.' :: rest)

/-! ## Words -/

theorem isUpper_iff (c : Char) : c.isUpper = true ↔ IsCapital c := decide_eq_true_iff

theorem isLower_iff (c : Char) : c.isLower = true ↔ 'a' ≤ c ∧ c ≤ 'z' := by
  show (decide ('a' ≤ c) && decide (c ≤ 'z')) = true ↔ _
  rw [Bool.and_eq_true, decide_eq_true_eq, decide_eq_true_eq]

theorem isAlpha_iff (c : Char) : c.isAlpha = true ↔ IsLetter c := by
  show (c.isUpper || c.isLower) = true ↔ _
  rw [Bool.or_eq_true, isUpper_iff, isLower_iff, IsLetter]

theorem isDigit_iff (c : Char) : c.isDigit = true ↔ IsDigit c := by
  simp only [Char.isDigit, Bool.and_eq_true, decide_eq_true_eq, IsDigit, Char.le_def]

theorem isWord_iff (text : List Char) : isWord text = true ↔ WordShape text := by
  cases text with
  | nil => simp [isWord, WordShape]
  | cons c rest =>
    simp [isWord, WordShape, startsWord, continuesWord, Char.isAlphanum, isAlpha_iff, isDigit_iff, or_assoc]

/-- Every reserved word is listed in lower case. -/
theorem reservedWords_lower : ∀ word ∈ reservedWords, word.toList.map Char.toLower = word.toList := by
  decide +kernel

theorem isReserved_iff (text : List Char) :
    isReserved text = true ↔ ∃ word ∈ reservedWords, SameLetters text word.toList := by
  simp only [isReserved, List.contains_iff_mem, SameLetters]
  constructor
  · intro member
    exact ⟨_, member, by rw [reservedWords_lower _ member, String.toList_ofList]⟩
  · rintro ⟨word, member, same⟩
    rw [same, reservedWords_lower word member, String.ofList_toList]
    exact member

/-- A bare part keeps without quotes exactly where it is a safe word. -/
theorem mustQuote_eq_false_iff (style : Quoting) (text : List Char) :
    mustQuote style text = false ↔ SafeWord style text := by
  have capitals : (style.foldsCase && text.any Char.isUpper) = false ↔
      (style.foldsCase = true → ∀ c ∈ text, ¬ IsCapital c) := by
    simp [← isUpper_iff]
  have words : isReserved text = false ↔ ∀ word ∈ reservedWords, ¬ SameLetters text word.toList := by
    rw [← Bool.not_eq_true, isReserved_iff]
    simp
  simp only [mustQuote, Bool.or_eq_false_iff, Bool.not_eq_false', isWord_iff, capitals, words]
  constructor
  · intro ⟨⟨⟨optional, shape⟩, small⟩, unreserved⟩
    exact ⟨optional, shape, small, unreserved⟩
  · intro h
    exact ⟨⟨⟨h.optional, h.shape⟩, h.small⟩, h.unreserved⟩

theorem toLower_of_not_capital {c : Char} (h : ¬ IsCapital c) : c.toLower = c := by
  unfold Char.toLower
  split
  · rename_i capital
    exact absurd capital h
  · rfl

theorem SafeWord.map_toLower {style : Quoting} {text : List Char} (h : SafeWord style text)
    (folds : style.foldsCase = true) : text.map Char.toLower = text := by
  have same : ∀ c ∈ text, c.toLower = id c := fun c member => toLower_of_not_capital (h.small folds c member)
  rw [List.map_congr_left same, List.map_id]

/-! ## Quoted text is read back -/

theorem quotedBody_iff (close : Char) (body : List Char) :
    QuotedBody close body ↔ ∃ text, escape close text = body := by
  constructor
  · intro h
    induction h with
    | nil => exact ⟨[], rfl⟩
    | @char c body differs _ ih =>
      obtain ⟨text, rfl⟩ := ih
      exact ⟨c :: text, by simp [escape, differs]⟩
    | @pair body _ ih =>
      obtain ⟨text, rfl⟩ := ih
      exact ⟨close :: text, by simp [escape]⟩
  · intro ⟨text, spelled⟩
    subst spelled
    induction text with
    | nil => exact .nil
    | cons c text ih =>
      by_cases same : c = close
      · subst same
        simpa [escape] using QuotedBody.pair ih
      · simpa [escape, same] using QuotedBody.char same ih

theorem takeQuoted_cons_of_ne {close c : Char} (h : c ≠ close) (cs : List Char) :
    takeQuoted close (c :: cs) = (c :: (takeQuoted close cs).1, (takeQuoted close cs).2) := by
  cases cs with
  | nil => simp [takeQuoted, h]
  | cons d rest => simp [takeQuoted, h]

/-- Escaped text is read up to the closing character that stands alone. -/
theorem takeQuoted_escape (close : Char) (text : List Char) {rest : List Char}
    (alone : rest.head? ≠ some close) :
    takeQuoted close (escape close text ++ close :: rest) = (text, rest) := by
  induction text with
  | nil =>
    cases rest with
    | nil => simp [escape, takeQuoted]
    | cons d more =>
      have differs : d ≠ close := by simpa using alone
      simp [escape, takeQuoted, differs]
  | cons c text ih =>
    by_cases same : c = close
    · subst same
      simp [escape, takeQuoted, ih]
    · rw [escape, if_neg same, List.cons_append, takeQuoted_cons_of_ne same, ih]

/-! ## Parts are read back -/

/-- What stands behind a part of a spelled name: nothing, or a dot and more. -/
def Ends (rest : List Char) : Prop := ∀ c, rest.head? = some c → c = '.'

theorem drop_one_of_ends {rest : List Char} (h : Ends rest) : rest.drop 1 = dropDot rest := by
  cases rest with
  | nil => rfl
  | cons c more =>
    have dot : c = '.' := h c rfl
    simp [dropDot, dot]

theorem parse_of_opening {opening close : Char} (h : closing? opening = some close) (cs : List Char) :
    parse (opening :: cs) = .quoted (takeQuoted close cs).1 :: parse (dropDot (takeQuoted close cs).2) := by
  rw [parse]
  split
  · rename_i found
    rw [h] at found
    cases found
    rfl
  · rename_i found
    rw [h] at found
    cases found

theorem parse_of_bare {c : Char} {text rest : List Char} (first : closing? c = none)
    (undotted : '.' ∉ c :: text) (h : Ends rest) :
    parse (c :: text ++ rest) = .bare (c :: text) :: parse (dropDot rest) := by
  have inside : ∀ d ∈ c :: text, (d != '.') = true := by
    intro d member
    rw [bne_iff_ne]
    intro dot
    exact undotted (dot ▸ member)
  have stops : rest.takeWhile (· != '.') = [] ∧ rest.dropWhile (· != '.') = rest := by
    cases rest with
    | nil => exact ⟨rfl, rfl⟩
    | cons d more =>
      have dot : d = '.' := h d rfl
      simp [dot]
  rw [List.cons_append, parse]
  split
  · rename_i found
    rw [first] at found
    cases found
  · rw [← List.cons_append, List.takeWhile_append_of_pos inside, List.dropWhile_append_of_pos inside,
      stops.1, stops.2, List.append_nil, drop_one_of_ends h]

/-- No word begins with a quote. -/
theorem closing?_of_start {c : Char} (h : c = '_' ∨ IsLetter c) : closing? c = none := by
  have other : c ≠ '"' ∧ c ≠ '\x60' ∧ c ≠ '[' := by
    refine ⟨?_, ?_, ?_⟩ <;> intro same <;> subst same <;> revert h <;> decide
  simp [closing?, other]

theorem WordShape.undotted {text : List Char} (h : WordShape text) : '.' ∉ text := by
  cases text with
  | nil => exact List.not_mem_nil
  | cons c rest =>
    intro member
    rcases List.mem_cons.mp member with first | later
    · have := first ▸ h.1
      revert this
      decide
    · have := h.2 '.' later
      revert this
      decide

theorem parse_of_safeWord {style : Quoting} {text rest : List Char} (h : SafeWord style text)
    (ends : Ends rest) : parse (text ++ rest) = .bare text :: parse (dropDot rest) := by
  have undotted := h.shape.undotted
  cases text with
  | nil => exact h.shape.elim
  | cons c text => exact parse_of_bare (closing?_of_start h.shape.1) undotted ends

def Part.spelled (style : Quoting) : Part → Part
  | .bare text => if text = ['*'] ∨ mustQuote style text = false then .bare text else .quoted text
  | .quoted text => .quoted text

theorem spellPart_of_safe {style : Quoting} {text : List Char} (h : text = ['*'] ∨ SafeWord style text) :
    spellPart style (.bare text) = text := by
  by_cases star : text = ['*']
  · simp [spellPart, star]
  · have plain : mustQuote style text = false := (mustQuote_eq_false_iff style text).mpr (h.resolve_left star)
    simp [spellPart, star, plain]

/-- A part is spelled as it stands, if it is a star or a safe word, or between quotes. -/
theorem spellPart_cases (style : Quoting) (part : Part) :
    (part.spelled style = .bare part.text ∧ spellPart style part = part.text ∧
        (part.text = ['*'] ∨ SafeWord style part.text)) ∨
      (part.spelled style = .quoted part.text ∧ spellPart style part = spellQuoted style part.text) := by
  cases part with
  | quoted text => exact .inr ⟨rfl, rfl⟩
  | bare text =>
    by_cases safe : text = ['*'] ∨ mustQuote style text = false
    · have safe' : text = ['*'] ∨ SafeWord style text := by rwa [← mustQuote_eq_false_iff]
      exact .inl ⟨if_pos safe, spellPart_of_safe safe', safe'⟩
    · refine .inr ⟨if_neg safe, ?_⟩
      simp only [not_or] at safe
      simp [spellPart, Part.text, safe]

theorem spellPart_spelled (style : Quoting) (part : Part) :
    spellPart style (part.spelled style) = spellPart style part := by
  rcases spellPart_cases style part with ⟨bare, same, safe⟩ | ⟨quoted, same⟩
  · rw [bare, same, spellPart_of_safe safe]
  · rw [quoted, same, spellPart]

/-- A spelled part is read back, quoted where its spelling is, whatever follows it. -/
theorem parse_spellPart (dialect : Dialect) (part : Part) {rest : List Char} (ends : Ends rest) :
    parse (spellPart dialect.quoting part ++ rest) =
      part.spelled dialect.quoting :: parse (dropDot rest) := by
  rcases spellPart_cases dialect.quoting part with ⟨bare, same, star | safe⟩ | ⟨quoted, same⟩
  · rw [bare, same, star]
    exact parse_of_bare (by decide) (by decide) ends
  · rw [bare, same]
    exact parse_of_safeWord safe ends
  · have alone : rest.head? ≠ some dialect.quoting.closing := fun found => dialect.closing_ne_dot (ends _ found)
    have text : spellQuoted dialect.quoting part.text ++ rest = dialect.quoting.opening ::
        (escape dialect.quoting.closing part.text ++ dialect.quoting.closing :: rest) := by
      simp [spellQuoted]
    rw [quoted, same, text, parse_of_opening (dialect.closing?_opening), takeQuoted_escape _ _ alone]

/-- A spelling is read back part by part, and reading goes on behind the dot after it. -/
theorem parse_spell_append (dialect : Dialect) {parts : List Part} (nonempty : parts ≠ []) {rest : List Char}
    (ends : Ends rest) :
    parse (spell dialect.quoting parts ++ rest) =
      parts.map (Part.spelled dialect.quoting) ++ parse (dropDot rest) := by
  induction parts with
  | nil => exact absurd rfl nonempty
  | cons part others ih =>
    cases others with
    | nil =>
      rw [spell_singleton, parse_spellPart dialect part ends]
      rfl
    | cons next others =>
      have dot : Ends ('.' :: (spell dialect.quoting (next :: others) ++ rest)) := by simp [Ends]
      rw [spell_cons_cons, List.append_assoc, List.cons_append, parse_spellPart dialect part dot, dropDot,
        if_pos rfl, ih (List.cons_ne_nil _ _)]
      rfl

theorem parse_spell (dialect : Dialect) (parts : List Part) :
    parse (spell dialect.quoting parts) = parts.map (Part.spelled dialect.quoting) := by
  by_cases empty : parts = []
  · rw [empty, spell, List.map_nil, List.intercalate_nil, parse, List.map_nil]
  · have nothing : Ends [] := by simp [Ends]
    have read := parse_spell_append dialect empty nothing
    rwa [List.append_nil, dropDot, parse, List.append_nil] at read

/-! ## (1) Spellings are the texts of the grammar -/

theorem spelledPart_iff (style : Quoting) (text : List Char) :
    SpelledPart style text ↔ ∃ part, spellPart style part = text := by
  constructor
  · intro h
    cases h with
    | star => exact ⟨.bare ['*'], spellPart_of_safe (.inl rfl)⟩
    | word safe => exact ⟨.bare text, spellPart_of_safe (.inr safe)⟩
    | quoted body =>
      obtain ⟨inner, rfl⟩ := (quotedBody_iff _ _).mp body
      exact ⟨.quoted inner, rfl⟩
  · rintro ⟨part, rfl⟩
    rcases spellPart_cases style part with ⟨-, same, star | safe⟩ | ⟨-, same⟩
    · rw [same, star]
      exact .star
    · rw [same]
      exact .word safe
    · rw [same]
      exact .quoted ((quotedBody_iff _ _).mpr ⟨part.text, rfl⟩)

theorem spelledName_iff (style : Quoting) (text : List Char) :
    SpelledName style text ↔ ∃ parts, parts ≠ [] ∧ spell style parts = text := by
  constructor
  · intro h
    induction h with
    | one spelled =>
      obtain ⟨part, rfl⟩ := (spelledPart_iff _ _).mp spelled
      exact ⟨[part], by simp, spell_singleton style part⟩
    | dotted spelled _ ih =>
      obtain ⟨part, rfl⟩ := (spelledPart_iff _ _).mp spelled
      obtain ⟨parts, nonempty, rfl⟩ := ih
      obtain ⟨next, rest, rfl⟩ := List.exists_cons_of_ne_nil nonempty
      exact ⟨part :: next :: rest, by simp, spell_cons_cons style part next rest⟩
  · rintro ⟨parts, nonempty, rfl⟩
    induction parts with
    | nil => exact absurd rfl nonempty
    | cons part rest ih =>
      have first : SpelledPart style (spellPart style part) := (spelledPart_iff _ _).mpr ⟨part, rfl⟩
      cases rest with
      | nil =>
        rw [spell_singleton]
        exact .one first
      | cons next others =>
        rw [spell_cons_cons]
        exact .dotted first (ih (by simp))

theorem parse_eq_nil_iff (cs : List Char) : parse cs = [] ↔ cs = [] := by
  cases cs with
  | nil => simp [parse]
  | cons c rest =>
    rw [parse]
    split <;> simp

theorem toList_quote (dialect : Dialect) (name : String) :
    (dialect.quote name).toList = spell dialect.quoting (parse name.toList) := by
  rw [Dialect.quote, quote, String.toList_ofList]

/-- Parts as a spelling shows them are spelled in the same way. -/
theorem spell_spelled (style : Quoting) (parts : List Part) :
    spell style (parts.map (Part.spelled style)) = spell style parts := by
  simp [spell, Function.comp_def, spellPart_spelled]

/-- (1) The spelling of a name is a text of the grammar, or empty for the empty name; and
    the texts of the grammar are those that are their own spelling. -/
theorem quote_spells_name (dialect : Dialect) (name : String) :
    (dialect.quote name = "" ∧ name = "" ∨ SpelledName dialect.quoting (dialect.quote name).toList) ∧
      (SpelledName dialect.quoting name.toList ↔ name ≠ "" ∧ dialect.quote name = name) := by
  have spells : name ≠ "" → SpelledName dialect.quoting (dialect.quote name).toList := by
    intro nonempty
    rw [toList_quote, spelledName_iff]
    refine ⟨parse name.toList, ?_, rfl⟩
    rw [Ne, parse_eq_nil_iff, String.toList_eq_nil_iff]
    exact nonempty
  refine ⟨?_, ?_, ?_⟩
  · by_cases empty : name = ""
    · subst empty
      exact .inl ⟨by simp [← String.toList_inj, toList_quote, parse, spell], rfl⟩
    · exact .inr (spells empty)
  · intro h
    obtain ⟨parts, nonempty, spelled⟩ := (spelledName_iff _ _).mp h
    have read := parse_spell dialect parts
    rw [spelled] at read
    refine ⟨?_, ?_⟩
    · intro empty
      rw [empty] at read
      simp [parse, nonempty] at read
    · rw [← String.toList_inj, toList_quote, read, spell_spelled, spelled]
  · intro ⟨nonempty, same⟩
    have h := spells nonempty
    rwa [same] at h

/-! ## (2) Spellings are read back -/

/-- The text of a part as a server takes it: where it folds case, an unquoted part is
    lower-cased. -/
def Part.taken (style : Quoting) : Part → List Char
  | .bare text => if style.foldsCase then text.map Char.toLower else text
  | .quoted text => text

theorem taken_spelled (style : Quoting) (part : Part) : (part.spelled style).taken style = part.text := by
  rcases spellPart_cases style part with ⟨bare, -, safe⟩ | ⟨quoted, -⟩
  · rw [bare, Part.taken]
    split
    · rename_i folds
      rcases safe with star | safe
      · rw [star]
        decide
      · exact safe.map_toLower folds
    · rfl
  · rw [quoted, Part.taken]

/-- (2) A server reads in the spelling of a name the parts that the caller wrote, and a
    spelling is spelled as it is. -/
theorem quote_reads_back (dialect : Dialect) (name : String) :
    (parse (dialect.quote name).toList).map (Part.taken dialect.quoting) =
        (parse name.toList).map Part.text ∧
      dialect.quote (dialect.quote name) = dialect.quote name := by
  refine ⟨?_, ?_⟩
  · rw [toList_quote, parse_spell, List.map_map]
    exact List.map_congr_left fun part _ => taken_spelled dialect.quoting part
  · rw [← String.toList_inj, toList_quote, toList_quote, parse_spell, spell_spelled]

/-! ## (3) Qualified columns -/

theorem text_spelled (style : Quoting) (part : Part) : (part.spelled style).text = part.text := by
  rcases spellPart_cases style part with ⟨bare, -, -⟩ | ⟨quoted, -⟩
  · rw [bare, Part.text]
  · rw [quoted, Part.text]

theorem toList_field (dialect : Dialect) (table column : String) :
    (dialect.field table column).toList =
      spell dialect.quoting (parse table.toList) ++ '.' :: spell dialect.quoting (parse column.toList) := by
  rw [Dialect.field, String.toList_append, String.toList_append, toList_quote, toList_quote,
    List.append_assoc]
  rfl

/-- The parts of a table that has a name are all read before the dot, and those of the column
    behind it. -/
theorem parse_field (dialect : Dialect) {table : String} (named : table ≠ "") (column : String) :
    parse (dialect.field table column).toList =
      (parse table.toList ++ parse column.toList).map (Part.spelled dialect.quoting) := by
  have parts : parse table.toList ≠ [] := by
    rwa [Ne, parse_eq_nil_iff, String.toList_eq_nil_iff]
  have dot : Ends ('.' :: spell dialect.quoting (parse column.toList)) := by simp [Ends]
  rw [toList_field, parse_spell_append dialect parts dot, dropDot, if_pos rfl, parse_spell, List.map_append]

/-- The dot behind a table without a name is taken for a part without a text. -/
theorem parse_field_unnamed (dialect : Dialect) (column : String) :
    parse (dialect.field "" column).toList =
      .bare [] :: (parse column.toList).map (Part.spelled dialect.quoting) := by
  have nothing : spell dialect.quoting (parse "".toList) = [] := by
    simp [parse, spell]
  rw [toList_field, nothing, List.nil_append, parse]
  simp [closing?, parse_spell]

/-- (3) A qualified column is read as its table and then its column, exactly if the table has
    a name. -/
theorem field_reads_table_then_column (dialect : Dialect) (table column : String) :
    (parse (dialect.field table column).toList).map Part.text =
        (parse table.toList).map Part.text ++ (parse column.toList).map Part.text ↔
      table ≠ "" := by
  have texts (parts : List Part) :
      (parts.map (Part.spelled dialect.quoting)).map Part.text = parts.map Part.text := by
    rw [List.map_map]
    exact List.map_congr_left fun part _ => text_spelled dialect.quoting part
  constructor
  · rintro read rfl
    rw [parse_field_unnamed, List.map_cons, texts] at read
    have longer := congrArg List.length read
    simp [parse] at longer
  · intro named
    rw [parse_field dialect named, texts, List.map_append]

end Querycraft.Identifier
