/-
  Querycraft.Dialect.Basic — the four dialects of SQL, their names for things and their
  placeholders.

  Dialects differ in how they quote identifiers, what a placeholder looks like, how they
  limit rows and how an INSERT gives back what it wrote. This module has the first two;
  `Querycraft.Dialect.Layout` has whole statements.
-/

import Querycraft.Error
import Querycraft.Identifier
import Querycraft.Sql
import Querycraft.Text.Blank

namespace Querycraft

inductive Dialect where
  | mysql
  | postgres
  | sqlserver
  | sqlite
  deriving DecidableEq

namespace Dialect

def name : Dialect → String
  | .mysql => "mysql"
  | .postgres => "postgres"
  | .sqlserver => "sqlserver"
  | .sqlite => "sqlite"

/-- The dialect that a name or one of its other spellings stands for, letter for letter. -/
def ofExactName? (name : String) : Option Dialect :=
  match name with
  | "mysql" | "mariadb" => some .mysql
  | "postgres" | "postgresql" | "pg" => some .postgres
  | "sqlserver" | "mssql" => some .sqlserver
  | "sqlite" => some .sqlite
  | _ => none

/-- The dialect a name stands for, whatever its letter case and the blanks around it. -/
def ofName (name : String) : Except Error Dialect :=
  let plain := Text.lowerAscii (String.ofList (Text.trim name.toList))
  match ofExactName? plain with
  | some dialect => .ok dialect
  | none => .error (.unknownDialect plain)

def quoting : Dialect → Identifier.Quoting
  | .mysql => { opening := '\x60', closing := '\x60' }
  | .postgres => { opening := '"', closing := '"', foldsCase := true }
  | .sqlserver => { opening := '[', closing := ']', always := true }
  | .sqlite => { opening := '"', closing := '"' }

/-- What a dialect closes a quote with is what closes it when a name is read. -/
theorem closing?_opening (dialect : Dialect) :
    Identifier.closing? dialect.quoting.opening = some dialect.quoting.closing := by
  cases dialect <;> decide

theorem closing_ne_dot (dialect : Dialect) : dialect.quoting.closing ≠ '.' := by
  cases dialect <;> decide

def quote (dialect : Dialect) (name : String) : String :=
  Identifier.quote dialect.quoting name

def field (dialect : Dialect) (table column : String) : String :=
  dialect.quote table ++ "." ++ dialect.quote column

/-- The placeholder text for a parameter: by position in PostgreSQL, by name elsewhere. -/
def parameter (dialect : Dialect) (name : String) (position : Nat) : String :=
  match dialect with
  | .postgres => "$" ++ toString position
  | _ => "@" ++ name

def placeholder (dialect : Dialect) (name : String) (position : Nat) : Placeholder :=
  { name, position, text := dialect.parameter name position }

end Dialect

end Querycraft
