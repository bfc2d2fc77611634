/-
  Querycraft.Query.Report — what a program reports while it runs.

  Every command that is rendered is reported, the sub-queries of a command before the
  command itself, and so is every predicate that cannot be resolved. A report shows at
  most two hundred bytes of a command, cut where a character ends.
-/

import Querycraft.Query.Basic

namespace Querycraft

inductive Report where
  | rendered (operation : Operation) (parameters : Nat) (sql : String)
  | unresolved (shape : Expr.Shape) (error : Error)

namespace Report

def shownBytes : Nat := 200

/-- Whether a text can be cut at a byte offset: a character begins there, or the text ends. -/
def isBoundary (sql : String) (offset : Nat) : Bool := String.Pos.Raw.isValid sql ⟨offset⟩

/-- Walks back from an offset to the nearest boundary; there is none if the walk would pass
    the beginning. -/
def lastBoundary? (sql : String) : Nat → Option Nat
  | 0 => if isBoundary sql 0 then some 0 else none
  | offset + 1 => if isBoundary sql (offset + 1) then some (offset + 1) else lastBoundary? sql offset

/-- The text before an offset; there is none if the offset lies inside a character or behind
    the end. -/
def before? (sql : String) (offset : Nat) : Option String :=
  if boundary : isBoundary sql offset then
    some (sql.sliceTo ⟨⟨offset⟩, String.Pos.Raw.isValid_eq_true_iff.mp boundary⟩).copy
  else none

/-- A text of at most so many bytes as it is, and a longer one cut at the last boundary. -/
def truncate? (limit : Nat) (sql : String) : Option String :=
  if sql.utf8ByteSize ≤ limit then some sql
  else do before? sql (← lastBoundary? sql limit)

theorem isBoundary_zero (sql : String) : isBoundary sql 0 :=
  String.Pos.Raw.isValid_eq_true_iff.mpr String.Pos.Raw.isValid_zero

/-- The walk ends at a boundary, at the latest at the beginning. -/
theorem exists_lastBoundary? (sql : String) (offset : Nat) :
    ∃ last, lastBoundary? sql offset = some last ∧ isBoundary sql last := by
  induction offset with
  | zero => exact ⟨0, if_pos (isBoundary_zero sql), isBoundary_zero sql⟩
  | succ offset ih =>
    by_cases here : isBoundary sql (offset + 1)
    · exact ⟨offset + 1, if_pos here, here⟩
    · rw [lastBoundary?, if_neg here]
      exact ih

theorem isSome_truncate? (limit : Nat) (sql : String) : (truncate? limit sql).isSome := by
  rw [truncate?]
  split
  · rfl
  · obtain ⟨last, found, boundary⟩ := exists_lastBoundary? sql limit
    rw [found]
    simp [before?, boundary]

def shown (sql : String) : String := (truncate? shownBytes sql).get (isSome_truncate? shownBytes sql)

def level : Report → String
  | .rendered .. => "DEBUG"
  | .unresolved .. => "TRACE"

def target : String := "exprsql.sql"

def fields : Report → List (String × String)
  | .rendered operation parameters sql =>
    [("operation", operation.name), ("params", toString parameters),
      ("truncated", if shownBytes < sql.utf8ByteSize then "true" else "false"),
      ("sql", shown sql), ("message", "rendered SQL command")]
  | .unresolved shape error =>
    [("context", shape.name), ("error", error.message), ("message", "expression resolution failed")]

end Report

namespace Draft

/-- The report of rendering a draft; one that cannot be rendered reports nothing. -/
def commandReports (d : Draft) : List Report :=
  match d.command with
  | .ok sql => [.rendered d.operation d.parameters.size sql.toText]
  | .error _ => []

def predicateReports (e : Expr) : List Report :=
  match Term.resolve e with
  | .ok _ => []
  | .error error => [.unresolved e.shape error]

def argumentReports : List Expr → Draft → List Report
  | [], _ => []
  | e :: rest, d =>
    predicateReports e ++ match (renderArgument e).run d with
      | (.ok _, d) => argumentReports rest d
      | (.error _, _) => []

def templateReports (template : String) (arguments : List Expr) (d : Draft) : List Report :=
  match Template.unmatched? (Template.parse template.toList) arguments.length with
  | some _ => []
  | none => argumentReports arguments d

end Draft

namespace Step

open Draft

mutual

def reports : Step → Draft → List Report
  | .filter e, _ | .orFilter e, _ | .join _ _ e, _ => predicateReports e
  | .filterTemplate template arguments, d => templateReports template arguments d.conjoined
  | .filterInQuery key _ other program, d =>
    let sub := d.conjoined.offshoot other.table .select
    reportsAll other program sub ++ match (runAll other program).run sub, Column.ofExpr key with
      | (.ok (), sub), .ok _ => sub.commandReports
      | _, _ => []
  | _, _ => []

def reportsAll (entity : Entity) : List Step → Draft → List Report
  | [], _ => []
  | step :: rest, d =>
    reports step d ++ match (run entity step).run d with
      | (.ok (), d) => reportsAll entity rest d
      | (.error _, _) => []

end

end Step

namespace Query

def trace (q : Query) (program : List Step) : Except Error String × List Report :=
  let reports := Step.reportsAll q.entity program q.draft
  match q.run program with
  | .error e => (.error e, reports)
  | .ok q => (q.draft.commandText, reports ++ q.draft.commandReports)

end Query

end Querycraft
