/-
  Querycraft.Identifier — names as a caller writes them and as a statement spells them.

  A written name is a sequence of parts divided by dots. A part may stand between
  quotes of any of three kinds; inside them the closing character written twice means
  itself, and a quote that is never closed takes the rest of the name. `parse` reads
  the parts and `quote` spells them in one style:
  - a part that was quoted stays quoted, with the style's own characters;
  - a bare part is quoted when the style quotes everything, when it is not a plain
    word, when the server would fold its case, or when it is a reserved word;
  - a bare star is never quoted.
-/

namespace Querycraft.Identifier

inductive Part where
  | bare (text : List Char)
  | quoted (text : List Char)
  deriving DecidableEq

def Part.text : Part → List Char
  | .bare text => text
  | .quoted text => text

/-! ## Reading a name -/

/-- The character that closes a quote opened by `c`. -/
def closing? (c : Char) : Option Char :=
  if c = '"' then some '"'
  else if c = '\x60' then some '\x60'
  else if c = '[' then some ']'
  else none

/-- The text up to the closing character, and what follows it. Two closing characters
    in a row stand for one of the text. -/
def takeQuoted (close : Char) : List Char → List Char × List Char
  | [] => ([], [])
  | [c] => if c = close then ([], []) else ([c], [])
  | c :: d :: rest =>
    if c = close then
      if d = close then
        let tail := takeQuoted close rest
        (close :: tail.1, tail.2)
      else ([], d :: rest)
    else
      let tail := takeQuoted close (d :: rest)
      (c :: tail.1, tail.2)

def dropDot : List Char → List Char
  | [] => []
  | c :: rest => if c = '.' then rest else c :: rest

theorem takeQuoted_rest_length (close : Char) (cs : List Char) :
    (takeQuoted close cs).2.length ≤ cs.length := by
  fun_induction takeQuoted close cs <;> simp_all +zetaDelta <;> omega

theorem dropDot_length (cs : List Char) : (dropDot cs).length ≤ cs.length := by
  fun_cases dropDot cs <;> simp

/-- The parts of a written name, in order. A dot after a part is part of no text, so
    a name that ends in a dot has no part after it. -/
def parse : List Char → List Part
  | [] => []
  | c :: rest =>
    match closing? c with
    | some close =>
      .quoted (takeQuoted close rest).1 :: parse (dropDot (takeQuoted close rest).2)
    | none =>
      .bare ((c :: rest).takeWhile (· != '.')) :: parse (((c :: rest).dropWhile (· != '.')).drop 1)
termination_by cs => cs.length
decreasing_by
  · have h₁ := dropDot_length (takeQuoted close rest).2
    have h₂ := takeQuoted_rest_length close rest
    simp only [List.length_cons]
    omega
  · have h := (List.dropWhile_suffix (l := c :: rest) (· != '.')).length_le
    simp only [List.length_cons, List.length_drop] at *
    omega

/-! ## Spelling a name -/

structure Quoting where
  opening : Char
  closing : Char
  /-- Every part is quoted, not only those that need it. -/
  always : Bool := false
  /-- The server lower-cases a bare name, so one with capitals needs quotes. -/
  foldsCase : Bool := false
  deriving DecidableEq

def reservedWords : List String :=
  ["all", "and", "as", "asc", "between", "by", "case", "check", "column", "constraint", "create",
   "default", "delete", "desc", "distinct", "drop", "else", "end", "false", "foreign", "from",
   "group", "having", "in", "index", "inner", "insert", "is", "join", "key", "left", "like",
   "limit", "not", "null", "offset", "on", "or", "order", "outer", "primary", "references",
   "right", "select", "set", "table", "then", "true", "union", "update", "user", "values",
   "when", "where"]

def isReserved (text : List Char) : Bool :=
  reservedWords.contains (String.ofList (text.map Char.toLower))

def startsWord (c : Char) : Bool := c == '_' || c.isAlpha

def continuesWord (c : Char) : Bool := c == '_' || c == '$' || c.isAlphanum

/-- A letter or underscore, then letters, digits, underscores and dollar signs. -/
def isWord : List Char → Bool
  | [] => false
  | c :: rest => startsWord c && rest.all continuesWord

def mustQuote (style : Quoting) (text : List Char) : Bool :=
  style.always || !isWord text || (style.foldsCase && text.any Char.isUpper) || isReserved text

def escape (close : Char) : List Char → List Char
  | [] => []
  | c :: rest => if c = close then close :: c :: escape close rest else c :: escape close rest

def spellQuoted (style : Quoting) (text : List Char) : List Char :=
  style.opening :: escape style.closing text ++ [style.closing]

def spellPart (style : Quoting) : Part → List Char
  | .bare text =>
    if text = ['*'] then text else if mustQuote style text then spellQuoted style text else text
  | .quoted text => spellQuoted style text

def spell (style : Quoting) (parts : List Part) : List Char :=
  List.intercalate ['.'] (parts.map (spellPart style))

theorem spell_singleton (style : Quoting) (part : Part) : spell style [part] = spellPart style part := by
  simp [spell]

theorem spell_cons_cons (style : Quoting) (part next : Part) (rest : List Part) :
    spell style (part :: next :: rest) = spellPart style part ++ '.' :: spell style (next :: rest) := by
  simp [spell, List.intercalate]

def quote (style : Quoting) (name : String) : String :=
  String.ofList (spell style (parse name.toList))

end Querycraft.Identifier
