/-
  Querycraft.Template — condition text with numbered places.

  A place is an at sign and the decimal digits behind it, as many as there are, of any
  script. Only ASCII digits make an index. `parse` cuts a text into places and what
  stands between them.
-/

import Querycraft.Text.Digit
import Querycraft.Text.Numeral

namespace Querycraft.Template

inductive Part where
  | char (c : Char)
  | place (digits : List Char)
  deriving DecidableEq

def parse : List Char → List Part
  | [] => []
  | c :: rest =>
    if c = '@' ∧ !(rest.takeWhile Text.isDecimalDigit).isEmpty then
      .place (rest.takeWhile Text.isDecimalDigit) :: parse (rest.dropWhile Text.isDecimalDigit)
    else .char c :: parse rest
termination_by cs => cs.length
decreasing_by
  · have h := (List.dropWhile_suffix (l := rest) Text.isDecimalDigit).length_le
    simp only [List.length_cons]
    omega
  · simp

def index? (digits : List Char) (count : Nat) : Option Nat :=
  if digits.all Char.isDigit then
    let i := Text.digitsValue digits
    if i < count then some i else none
  else none

def unmatched? (parts : List Part) (count : Nat) : Option (List Char) :=
  parts.findSome? fun
    | .char _ => none
    | .place digits => if (index? digits count).isNone then some digits else none

end Querycraft.Template
