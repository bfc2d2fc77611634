/-
  Querycraft.Text.Word — the words of a name.

  A name is cut at every character that is not alphanumeric, and a piece is cut further
  where its letter case shows a new word: after a small letter with a capital behind it,
  and before the last of several capitals with a small letter behind it. Characters
  without case go with the letters before them.
-/

import Querycraft.Text.LetterCase
import Querycraft.Text.Numeral

namespace Querycraft.Text

inductive Mode where
  | start
  | small
  | capital
  deriving DecidableEq

def Mode.after (mode : Mode) (c : Char) : Mode :=
  if isLower c then .small else if isUpper c then .capital else mode

/-- The words of a piece; `word` is what the current one has so far. -/
def pieceWords : List Char → Mode → List Char → List (List Char)
  | _, _, [] => []
  | word, _, [c] => [word ++ [c]]
  | word, mode, c :: next :: rest =>
    if mode.after c = .small ∧ isUpper next then
      (word ++ [c]) :: pieceWords [] .start (next :: rest)
    else if mode = .capital ∧ isUpper c ∧ isLower next then
      word :: pieceWords [c] .start (next :: rest)
    else pieceWords (word ++ [c]) (mode.after c) (next :: rest)

/-- The pieces of a name between characters that are not alphanumeric, empty ones
    included. -/
def pieces : List Char → List (List Char)
  | [] => [[]]
  | c :: rest =>
    if isAlphanumeric c then
      match pieces rest with
      | [] => [[c]]
      | piece :: others => (c :: piece) :: others
    else [] :: pieces rest

def words (name : List Char) : List (List Char) :=
  (pieces name).flatMap (pieceWords [] .start)

/-- A word in small letters; a sigma that ends it has its final form. -/
def lowerWord : List Char → List Char
  | [] => []
  | [c] => if c = 'Σ' then ['ς'] else toLower c
  | c :: rest => toLower c ++ lowerWord rest

def upperWord (word : List Char) : List Char := word.flatMap toUpper

def capitalWord : List Char → List Char
  | [] => []
  | c :: rest => toUpper c ++ lowerWord rest

end Querycraft.Text
