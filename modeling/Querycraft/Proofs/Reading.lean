/-
  Querycraft.Proofs.Reading — the text of a condition, read as a server reads it.

  A server gets characters, and a value in place of every placeholder (`Sql.glyphs`).
  `Lexer` divides them into tokens, one glyph at a time: words, names with quoted parts,
  operators, parentheses. `Reader` puts the tokens together by precedence, comparisons
  first, then `NOT`, then `AND`, then `OR`; what binds looser waits in a `Level`, and a
  parenthesis opens a level of its own. The result is a `Phrase`, and `Phrase.truth` is
  what it says of a row.

  Neither knows anything of how the text came to be. Text that is no condition is not
  read: a glyph out of place is a stray token, and stray tokens have no reading.
-/

import Querycraft.Draft.Command
import Querycraft.Proofs.Meaning

namespace Querycraft

/-! ## Glyphs -/

inductive Glyph where
  | char (c : Char)
  | value (v : Value)
  /-- A placeholder for which no value is held. -/
  | missing

/-- The value a server puts in place of a placeholder: that of the first parameter whose
    placeholder has this text. -/
def Parameters.shown? (p : Parameters) (dialect : Dialect) (text : String) : Option Value :=
  (p.entries.zipIdx 1).findSome? fun ((name, value), position) =>
    if dialect.parameter name position = text then some value else none

def Piece.glyphs (held : String → Option Value) : Piece → List Glyph
  | .text words => words.toList.map .char
  | .slot p =>
    match held p.text with
    | some v => [.value v]
    | none => [.missing]

def Sql.glyphs (held : String → Option Value) (sql : Sql) : List Glyph :=
  sql.pieces.flatMap (Piece.glyphs held)

/-! ## Tokens -/

inductive Token where
  | name (text : String)
  | value (v : Value)
  | opening
  | closing
  | negation
  | conjunction
  | disjunction
  | like
  | is
  | null
  | operator (op : Operator)
  /-- No token of a condition. -/
  | stray

namespace Lexer

inductive Mode where
  /-- A word or a name. -/
  | word (text : List Char)
  /-- A quoted part of a name, still open. -/
  | quoted (text : List Char)
  /-- A quoted part of a name that the last character closed, unless it comes twice. -/
  | closed (text : List Char)
  | symbol (text : List Char)

def keywords : List (List Char × Token) :=
  [("not".toList, .negation), ("and".toList, .conjunction), ("or".toList, .disjunction),
   ("like".toList, .like), ("is".toList, .is), ("null".toList, .null)]

def ofWord (text : List Char) : Token :=
  (keywords.lookup (text.map Char.toLower)).getD (.name (String.ofList text))

def comparisons : List Operator :=
  [.equal, .notEqual, .greater, .greaterOrEqual, .less, .lessOrEqual]

def ofSymbol (text : List Char) : Token :=
  match comparisons.find? (·.symbol.toList = text) with
  | some op => .operator op
  | none => .stray

def Mode.tokens : Mode → List Token
  | .word [] => []
  | .word text => [ofWord text]
  | .quoted _ => [.stray]
  | .closed text => [.name (String.ofList text)]
  | .symbol text => [ofSymbol text]

def isNameChar (c : Char) : Bool := Identifier.continuesWord c || c == '.' || c == '*'

def isSymbolChar (c : Char) : Bool := c == '<' || c == '>' || c == '='

def delimiter (c : Char) : List Token :=
  if c = ' ' then []
  else if c = '(' then [.opening]
  else if c = ')' then [.closing]
  else [.stray]

structure State where
  tokens : List Token
  mode : Mode

namespace State

def start : State := ⟨[], .word []⟩

def finished (s : State) : List Token := s.tokens ++ s.mode.tokens

def chain (s : State) : List Token × List Char :=
  match s.mode with
  | .word text => (s.tokens, text)
  | .closed text => (s.tokens, text)
  | _ => (s.finished, [])

def outside (style : Identifier.Quoting) (s : State) (c : Char) : State :=
  if c = style.opening then ⟨s.chain.1, .quoted (s.chain.2 ++ [c])⟩
  else if isNameChar c then ⟨s.chain.1, .word (s.chain.2 ++ [c])⟩
  else if isSymbolChar c then
    match s.mode with
    | .symbol text => ⟨s.tokens, .symbol (text ++ [c])⟩
    | _ => ⟨s.finished, .symbol [c]⟩
  else ⟨s.finished ++ delimiter c, .word []⟩

def step (style : Identifier.Quoting) (s : State) : Glyph → State
  | .value v => ⟨s.finished ++ [.value v], .word []⟩
  | .missing => ⟨s.finished ++ [.stray], .word []⟩
  | .char c =>
    match s.mode with
    | .quoted text =>
      if c = style.closing then ⟨s.tokens, .closed (text ++ [c])⟩ else ⟨s.tokens, .quoted (text ++ [c])⟩
    | .closed text =>
      if c = style.closing then ⟨s.tokens, .quoted (text ++ [c])⟩ else s.outside style c
    | _ => s.outside style c

def run (style : Identifier.Quoting) (s : State) (glyphs : List Glyph) : State :=
  glyphs.foldl (step style) s

end State

def tokens (style : Identifier.Quoting) (glyphs : List Glyph) : List Token :=
  (State.start.run style glyphs).finished

end Lexer

/-! ## Phrases -/

inductive Phrase where
  | name (text : String)
  | value (v : Value)
  | compare (op : Operator) (left right : Phrase)
  | like (left pattern : Phrase)
  | nullTest (operand : Phrase) (negated : Bool)
  | not (operand : Phrase)
  | and (left right : Phrase)
  | or (left right : Phrase)

def Truth.toValue : Truth → Value
  | .yes => .bool true
  | .no => .bool false
  | .unknown => .null

namespace Phrase

/-- The value of a phrase, for a row that gives every column, as it is spelled, a value. -/
def eval (S : Semantics) (row : String → Value) : Phrase → Value
  | .name text => row text
  | .value v => v
  | .compare op left right => (S.compare op (eval S row left) (eval S row right)).toValue
  | .like left pattern => (S.like (eval S row left) (eval S row pattern)).toValue
  | .nullTest operand negated => .bool ((eval S row operand).isNull != negated)
  | .not operand => (S.truthOf (eval S row operand)).not.toValue
  | .and left right => ((S.truthOf (eval S row left)).and (S.truthOf (eval S row right))).toValue
  | .or left right => ((S.truthOf (eval S row left)).or (S.truthOf (eval S row right))).toValue

def truth (S : Semantics) (row : String → Value) (p : Phrase) : Truth := S.truthOf (p.eval S row)

def negated : Nat → Phrase → Phrase
  | 0, p => p
  | n + 1, p => .not (negated n p)

end Phrase

/-! ## Precedence -/

namespace Reader

inductive Clause where
  | empty
  | operand (p : Phrase)
  /-- A left side and its operator. -/
  | comparing (left : Phrase) (op : Operator)
  | matching (left : Phrase)
  /-- An operand behind which `IS` was read, and perhaps `NOT`. -/
  | testing (operand : Phrase) (negated : Bool)
  | complete (p : Phrase)

namespace Clause

def phrase? : Clause → Option Phrase
  | .operand p => some p
  | .complete p => some p
  | _ => none

def take? (p : Phrase) : Clause → Option Clause
  | .empty => some (.operand p)
  | .comparing left op => some (.complete (.compare op left p))
  | .matching left => some (.complete (.like left p))
  | _ => none

def takes : Clause → Bool
  | .empty | .comparing .. | .matching _ => true
  | _ => false

end Clause

/-- What has been read since the last parenthesis was opened: the sides that wait for an
    `OR` or an `AND` to be complete, negations, and a comparison. -/
structure Level where
  disjuncts : Option Phrase
  conjuncts : Option Phrase
  negations : Nat
  clause : Clause

namespace Level

def start : Level := ⟨none, none, 0, .empty⟩

def negation? (l : Level) : Option Phrase := l.clause.phrase?.map (Phrase.negated l.negations)

def conjunction? (l : Level) : Option Phrase :=
  l.negation?.map fun p => (l.conjuncts.map (Phrase.and · p)).getD p

def disjunction? (l : Level) : Option Phrase :=
  l.conjunction?.map fun p => (l.disjuncts.map (Phrase.or · p)).getD p

def withClause (l : Level) (clause : Clause) : Level := { l with clause }

end Level

structure State where
  level : Level
  outer : List Level

namespace State

def start : State := ⟨.start, []⟩

def operand? (s : State) (p : Phrase) : Option State :=
  (s.level.clause.take? p).map fun clause => { s with level := s.level.withClause clause }

def step? (s : State) : Token → Option State
  | .name text => s.operand? (.name text)
  | .value v => s.operand? (.value v)
  | .opening => if s.level.clause.takes then some ⟨.start, s.level :: s.outer⟩ else none
  | .closing => do
    let p ← s.level.disjunction?
    match s.outer with
    | level :: outer => State.operand? ⟨level, outer⟩ p
    | [] => none
  | .negation =>
    match s.level.clause with
    | .empty => some { s with level := { s.level with negations := s.level.negations + 1 } }
    | .testing p false => some { s with level := s.level.withClause (.testing p true) }
    | _ => none
  | .conjunction => do
    let p ← s.level.conjunction?
    return { s with level := { Level.start with disjuncts := s.level.disjuncts, conjuncts := some p } }
  | .disjunction => do
    let p ← s.level.disjunction?
    return { s with level := { Level.start with disjuncts := some p } }
  | .like =>
    match s.level.clause with
    | .operand p => some { s with level := s.level.withClause (.matching p) }
    | _ => none
  | .is =>
    match s.level.clause with
    | .operand p => some { s with level := s.level.withClause (.testing p false) }
    | _ => none
  | .null =>
    match s.level.clause with
    | .testing p negated => some { s with level := s.level.withClause (.complete (.nullTest p negated)) }
    | _ => s.operand? (.value .null)
  | .operator op =>
    match s.level.clause with
    | .operand p => some { s with level := s.level.withClause (.comparing p op) }
    | _ => none
  | .stray => none

def finish? (s : State) : Option Phrase :=
  if s.outer.isEmpty then s.level.disjunction? else none

end State

def read? (tokens : List Token) : Option Phrase := do
  let s ← tokens.foldlM State.step? State.start
  s.finish?

end Reader

/-- The condition of a draft as a server reads it, with the values that the draft holds. -/
def Draft.reading? (d : Draft) : Option Phrase :=
  Reader.read? (Lexer.tokens d.dialect.quoting (d.conditionSql.glyphs (d.parameters.shown? d.dialect)))

end Querycraft
