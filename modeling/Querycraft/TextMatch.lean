/-
  Querycraft.TextMatch — the four ways to match a text column against a text.

  Three of them are pattern matches: the pattern is the text with a wildcard where the
  column may go on. `equals` compares the whole text and decorates nothing.
-/

import Querycraft.Text.Blank

namespace Querycraft

inductive TextMatch where
  | equals
  | startsWith
  | endsWith
  | contains
  deriving DecidableEq

namespace TextMatch

def name : TextMatch → String
  | .equals => "Equals"
  | .startsWith => "StartsWith"
  | .endsWith => "EndsWith"
  | .contains => "Contains"

/-- The match a method name stands for, in any letter case and with any underscores. -/
def ofName? (name : String) : Option TextMatch :=
  match Text.lowerAscii (String.ofList (name.toList.filter (· != '_'))) with
  | "equals" => some .equals
  | "startswith" => some .startsWith
  | "endswith" => some .endsWith
  | "contains" => some .contains
  | _ => none

def pattern (m : TextMatch) (text : String) : String :=
  match m with
  | .equals => text
  | .startsWith => text ++ "%"
  | .endsWith => "%" ++ text
  | .contains => "%" ++ text ++ "%"

end TextMatch

end Querycraft
