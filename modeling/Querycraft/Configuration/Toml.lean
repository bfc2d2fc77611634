/-
  Querycraft.Configuration.Toml — settings written in TOML.

  A text is a sequence of lines: a key and its value, the header of a table, a comment,
  or nothing. The values read here are the ones a setting can have: strings on one line
  or several, tables, and the empty array; a text with any other value is not read. A key
  or a table may be defined once, and a table in braces is complete as it stands.
-/

import Querycraft.Json.Reading

namespace Querycraft

inductive Toml where
  | text (s : String)
  | emptyArray
  | table (entries : List (String × Toml))
  /-- A table in braces, to which nothing can be added. -/
  | closed (entries : List (String × Toml))

namespace Toml

open Json (Reader)

def isBlank (c : Char) : Bool := c == ' ' || c == '\t'

def skipBlanks (cs : List Char) : List Char := cs.dropWhile isBlank

/-- Control characters, which may stand nowhere; a tab is none. -/
def isControl (c : Char) : Bool := (c.toNat < 32 && c != '\t') || c.toNat == 127

/-- What follows blanks, line breaks and comments; in a comment only the end of its line
    may be a control character. -/
def skipLines : Bool → List Char → Option (List Char)
  | _, [] => some []
  | _, '\n' :: rest | _, '\r' :: '\n' :: rest => skipLines false rest
  | true, c :: rest => if isControl c then none else skipLines true rest
  | false, '#' :: rest => skipLines true rest
  | false, c :: rest => if isBlank c then skipLines false rest else some (c :: rest)

/-! ## Strings and keys -/

def hexValue? (digits : List Char) : Option Nat :=
  digits.foldlM (fun n c => (Text.Hex.digitValue? c).map (16 * n + ·)) 0

def readCodePoint (count : Nat) (cs : List Char) : Option (Char × List Char) := do
  let digits := cs.take count
  if digits.length < count then none
  else
    let n ← hexValue? digits
    if n.isValidChar then return (Char.ofNat n, cs.drop count) else none

def readEscape : Reader Char
  | 'b' :: rest => some (Char.ofNat 8, rest)
  | 't' :: rest => some ('\t', rest)
  | 'n' :: rest => some ('\n', rest)
  | 'f' :: rest => some (Char.ofNat 12, rest)
  | 'r' :: rest => some ('\r', rest)
  | 'e' :: rest => some (Char.ofNat 27, rest)
  | '"' :: rest => some ('"', rest)
  | '\\' :: rest => some ('\\', rest)
  | 'x' :: rest => readCodePoint 2 rest
  | 'u' :: rest => readCodePoint 4 rest
  | 'U' :: rest => readCodePoint 8 rest
  | _ => none

def readBasic : Nat → Reader (List Char)
  | 0, _ => none
  | _ + 1, [] => none
  | _ + 1, '"' :: rest => some ([], rest)
  | fuel + 1, '\\' :: rest => do
    let (c, rest) ← readEscape rest
    let (cs, rest) ← readBasic fuel rest
    return (c :: cs, rest)
  | fuel + 1, c :: rest =>
    if isControl c then none
    else do
      let (cs, rest) ← readBasic fuel rest
      return (c :: cs, rest)

def singleQuote : Char := Char.ofNat 39

def readLiteral : Reader (List Char)
  | [] => none
  | c :: rest =>
    if c = singleQuote then some ([], rest)
    else if isControl c then none
    else (readLiteral rest).map fun (cs, rest) => (c :: cs, rest)

/-- Whether a character may stand in a string of several lines: a line break may, as it is
    written. -/
def allowedInLines (c : Char) (rest : List Char) : Bool :=
  !isControl c || c == '\n' || (c == '\r' && rest.head? == some '\n')

/-- What follows three quotes that end a string: up to two quotes more belong to it. -/
def readClosing (quote : Char) (cs : List Char) : List Char × List Char :=
  let more := (cs.take 2).takeWhile (· == quote)
  (more, cs.drop more.length)

def skipLineBreak : List Char → List Char
  | '\n' :: rest | '\r' :: '\n' :: rest => rest
  | cs => cs

def skipBlankLines : List Char → List Char
  | '\n' :: rest | '\r' :: '\n' :: rest => skipBlankLines rest
  | c :: rest => if isBlank c then skipBlankLines rest else c :: rest
  | [] => []

/-- The characters of a string between triple double quotes. A backslash at the end of a
    line takes away the break and all blanks and breaks behind it. -/
def readBasicLines : Nat → Reader (List Char)
  | 0, _ => none
  | _ + 1, [] => none
  | _ + 1, '"' :: '"' :: '"' :: rest => some (readClosing '"' rest)
  | fuel + 1, '\\' :: rest =>
    match skipBlanks rest with
    | '\n' :: rest | '\r' :: '\n' :: rest => readBasicLines fuel (skipBlankLines rest)
    | _ => do
      let (c, rest) ← readEscape rest
      let (cs, rest) ← readBasicLines fuel rest
      return (c :: cs, rest)
  | fuel + 1, c :: rest =>
    if allowedInLines c rest then do
      let (cs, rest) ← readBasicLines fuel rest
      return (c :: cs, rest)
    else none

def readLiteralLines : Reader (List Char)
  | [] => none
  | c :: rest =>
    if c = singleQuote ∧ rest.take 2 = [singleQuote, singleQuote] then
      some (readClosing singleQuote (rest.drop 2))
    else if allowedInLines c rest then
      (readLiteralLines rest).map fun (cs, rest) => (c :: cs, rest)
    else none

def isBareKeyChar (c : Char) : Bool := c.isAlphanum || c == '_' || c == '-'

def readQuoted : Reader String
  | '"' :: rest => (readBasic (rest.length + 1) rest).map fun (cs, rest) => (String.ofList cs, rest)
  | c :: rest =>
    if c = singleQuote then (readLiteral rest).map fun (cs, rest) => (String.ofList cs, rest)
    else none
  | [] => none

/-- A quoted string, which may have several lines if three quotes begin it; a line break
    right behind them is left out. -/
def readString (cs : List Char) : Option (String × List Char) :=
  if cs.take 3 = ['"', '"', '"'] then
    let body := skipLineBreak (cs.drop 3)
    (readBasicLines (body.length + 1) body).map fun (cs, rest) => (String.ofList cs, rest)
  else if cs.take 3 = [singleQuote, singleQuote, singleQuote] then
    (readLiteralLines (skipLineBreak (cs.drop 3))).map fun (cs, rest) => (String.ofList cs, rest)
  else readQuoted cs

def readKeyPart (cs : List Char) : Option (String × List Char) :=
  match cs.span isBareKeyChar with
  | ([], _) => readQuoted cs
  | (name, rest) => some (String.ofList name, rest)

def readKey : Nat → Reader (List String)
  | 0, _ => none
  | fuel + 1, cs => do
    let (part, cs) ← readKeyPart (skipBlanks cs)
    match skipBlanks cs with
    | '.' :: rest =>
      let (parts, rest) ← readKey fuel rest
      return (part :: parts, rest)
    | rest => return ([part], rest)

/-! ## Tables -/

def replace (name : String) (value : Toml) : List (String × Toml) → List (String × Toml)
  | [] => []
  | (other, held) :: rest =>
    if other = name then (name, value) :: rest else (other, held) :: replace name value rest

/-- A value put under a key of a table; the tables on its way are made. A key that is
    there already is refused. -/
def insert (path : List String) (value : Toml) (entries : List (String × Toml)) :
    Option (List (String × Toml)) :=
  match path with
  | [] => none
  | [name] => if (entries.lookup name).isSome then none else some (entries ++ [(name, value)])
  | name :: rest =>
    match entries.lookup name with
    | none => (insert rest value []).map fun inner => entries ++ [(name, .table inner)]
    | some (.table inner) => (insert rest value inner).map fun inner => replace name (.table inner) entries
    | some _ => none

abbrev Headers := List (List String)

/-- A table defined by its header. One that is there already may get its header only if
    the headers of its own tables are all that `implied` it. -/
def define (implied : Bool) (path : List String) (entries : List (String × Toml)) :
    Option (List (String × Toml)) :=
  match path with
  | [] => none
  | [name] =>
    match entries.lookup name with
    | none => some (entries ++ [(name, .table [])])
    | some (.table _) => if implied then some entries else none
    | some _ => none
  | name :: rest =>
    match entries.lookup name with
    | none => (define implied rest []).map fun inner => entries ++ [(name, .table inner)]
    | some (.table inner) =>
      (define implied rest inner).map fun inner => replace name (.table inner) entries
    | some _ => none

mutual

def readValue : Nat → Reader Toml
  | 0, _ => none
  | fuel + 1, cs =>
    match cs with
    | '[' :: rest => do
      match ← skipLines false rest with
      | ']' :: rest => return (.emptyArray, rest)
      | _ => none
    | '\x7b' :: rest => (readEntries fuel rest []).map fun (entries, rest) => (.closed entries, rest)
    | cs => (readString cs).map fun (s, rest) => (.text s, rest)

/-- The entries of a table in braces, up to the closing one; a comma may stand behind the
    last. -/
def readEntries : Nat → List Char → List (String × Toml) → Option (List (String × Toml) × List Char)
  | 0, _, _ => none
  | fuel + 1, cs, held => do
    match ← skipLines false cs with
    | '\x7d' :: rest => return (held, rest)
    | cs =>
      let (path, cs) ← readKey fuel cs
      match cs with
      | '=' :: cs =>
        let (value, cs) ← readValue fuel (skipBlanks cs)
        let held ← insert path value held
        match ← skipLines false cs with
        | '\x7d' :: rest => return (held, rest)
        | ',' :: rest => readEntries fuel rest held
        | _ => none
      | _ => none

end

/-! ## Lines -/

/-- The end of a line: blanks, a comment or none, and a line break or the end of the
    text. -/
def readLineEnd (cs : List Char) : Option (List Char) :=
  let cs := match skipBlanks cs with
    | '#' :: rest => rest.dropWhile fun c => !isControl c
    | cs => cs
  match cs with
  | [] => some []
  | '\n' :: rest => some rest
  | '\r' :: '\n' :: rest => some rest
  | _ => none

structure Document where
  entries : List (String × Toml) := []
  current : List String := []
  headers : Headers := []

def readLine (fuel : Nat) (cs : List Char) (held : Document) : Option (Document × List Char) := do
  match cs with
  | '[' :: rest =>
    let (path, rest) ← readKey fuel rest
    match rest with
    | ']' :: rest =>
      if held.headers.contains path then none
      else
        let implied := held.headers.any path.isPrefixOf
        let entries ← define implied path held.entries
        return ({ entries, current := path, headers := path :: held.headers }, rest)
    | _ => none
  | cs =>
    let (path, cs) ← readKey fuel cs
    match cs with
    | '=' :: cs =>
      let (value, cs) ← readValue fuel (skipBlanks cs)
      let entries ← insert (held.current ++ path) value held.entries
      return ({ held with entries }, cs)
    | _ => none

def readLines : Nat → List Char → Document → Option Document
  | 0, _, _ => none
  | fuel + 1, cs, held =>
    match skipBlanks cs with
    | [] => some held
    | c :: rest =>
      if c = '#' ∨ c = '\n' ∨ c = '\r' then do
        let rest ← readLineEnd (c :: rest)
        readLines fuel rest held
      else do
        let (held, rest) ← readLine fuel (c :: rest) held
        let rest ← readLineEnd rest
        readLines fuel rest held

/-- The table a text writes; a byte order mark may stand in front. -/
def ofText? (text : String) : Option (List (String × Toml)) :=
  let cs := match text.toList with
    | '\uFEFF' :: rest => rest
    | cs => cs
  (readLines (cs.length + 2) cs {}).map Document.entries

end Toml

end Querycraft
