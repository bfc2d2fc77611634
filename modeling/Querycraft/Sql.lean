/-
  Querycraft.Sql — statement text that still knows its placeholders.

  Text is a sequence of pieces: literal text, and slots that stand for bound values. A
  slot carries the parameter it was issued for and the placeholder text it shows, so
  `toText` is what a server reads and `slots` is what it has to be given. Every command
  is laid out on pieces and becomes a string last.
-/

namespace Querycraft

/-- A spliced placeholder: the parameter's name, its position among the parameters of
    the statement, and the text the dialect gives it. -/
structure Placeholder where
  name : String
  position : Nat
  text : String
  deriving DecidableEq

inductive Piece where
  | text (words : String)
  | slot (placeholder : Placeholder)
  deriving DecidableEq

def Piece.toText : Piece → String
  | .text words => words
  | .slot placeholder => placeholder.text

structure Sql where
  pieces : List Piece
  deriving DecidableEq

namespace Sql

def empty : Sql := ⟨[]⟩

def text (words : String) : Sql := ⟨[.text words]⟩

def slot (placeholder : Placeholder) : Sql := ⟨[.slot placeholder]⟩

instance : Coe String Sql := ⟨text⟩

instance : Coe Placeholder Sql := ⟨slot⟩

instance : Append Sql := ⟨fun a b => ⟨a.pieces ++ b.pieces⟩⟩

def toText (sql : Sql) : String := String.join (sql.pieces.map Piece.toText)

def slots (sql : Sql) : List Placeholder :=
  sql.pieces.filterMap fun
    | .text _ => none
    | .slot placeholder => some placeholder

def isBlank (sql : Sql) : Bool := sql.toText.isEmpty

def concat (parts : List Sql) : Sql := ⟨parts.flatMap Sql.pieces⟩

def join (separator : String) (parts : List Sql) : Sql :=
  concat (parts.intersperse (text separator))

/-- The clauses of a statement: those with any text, a space between them. -/
def clauses (parts : List Sql) : Sql := join " " (parts.filter fun part => !part.isBlank)

/-! ## Texts of put-together parts -/

@[simp] theorem toText_text (words : String) : (text words).toText = words := by
  simp [toText, text, Piece.toText]

@[simp] theorem toText_append (a b : Sql) : (a ++ b).toText = a.toText ++ b.toText := by
  show String.join ((a.pieces ++ b.pieces).map Piece.toText) = _
  rw [List.map_append, String.join_append]
  rfl

theorem toText_concat_cons (part : Sql) (rest : List Sql) :
    (concat (part :: rest)).toText = part.toText ++ (concat rest).toText := toText_append part (concat rest)

@[simp] theorem toText_join (separator : String) (parts : List Sql) :
    (join separator parts).toText = separator.intercalate (parts.map toText) := by
  induction parts with
  | nil => rfl
  | cons part rest ih =>
    cases rest with
    | nil => simp [join, concat, toText]
    | cons next others =>
      rw [join] at ih ⊢
      rw [List.intersperse_cons_cons, toText_concat_cons, toText_concat_cons, ih, toText_text]
      simp [String.intercalate_cons_cons, String.append_assoc]

/-- The clauses behind the first: those with any text, a space before each. -/
def trailing (parts : List Sql) : String :=
  String.join ((parts.filter fun part => !part.isBlank).map fun part => " " ++ part.toText)

theorem toText_clauses {head : Sql} (h : head.isBlank = false) (rest : List Sql) :
    (clauses (head :: rest)).toText = head.toText ++ trailing rest := by
  rw [clauses, List.filter_cons_of_pos (by simp [h]), toText_join, List.map_cons, trailing]
  generalize rest.filter (fun part => !part.isBlank) = shown
  generalize head.toText = first
  induction shown generalizing first with
  | nil => simp
  | cons part others ih =>
    rw [List.map_cons, String.intercalate_cons_cons, ih]
    simp [String.append_assoc]

/-- The first clause of a statement stands first in its text. -/
theorem toText_clauses_cons {head : Sql} (h : head.isBlank = false) (rest : List Sql) :
    ∃ behind, (clauses (head :: rest)).toText = head.toText ++ behind := ⟨trailing rest, toText_clauses h rest⟩

end Sql

end Querycraft
