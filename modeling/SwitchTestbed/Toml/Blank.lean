/-!
# Blanks, comments and line ends

TOML is read from the front of a text, and every reader hands on what it leaves.

* `Reader α` : takes an `α` from the front of a text;
* `skipBlank` : over spaces and tabs;
* `afterNewline?`, `afterLine?` : over the end of a line, and over all that may stand before it;
* `skipSpace` : over blanks, comments and line ends, as between the elements of an array.
-/

namespace SwitchTestbed.Toml

/-- Takes an `α` from the front of a text and hands on what is left, if one stands there. -/
abbrev Reader (α : Type) := List Char → Option (α × List Char)

/-- Space and tab. -/
def isBlank (c : Char) : Bool := c = ' ' || c = '\t'

/-- What may stand in comments and quotes: every character but the ASCII controls other than the
tab. -/
def isPlain (c : Char) : Bool := c = '\t' || (' ' ≤ c && c ≠ '\x7f')

/-- What follows the blanks at the front. -/
def skipBlank (s : List Char) : List Char := s.dropWhile isBlank

/-- What follows a line end. A carriage return alone is none. -/
def afterNewline? : List Char → Option (List Char)
  | '\n' :: rest => some rest
  | '\r' :: '\n' :: rest => some rest
  | _ => none

/-- What follows a comment, if there is one. -/
def skipComment : List Char → List Char
  | '#' :: rest => rest.dropWhile isPlain
  | s => s

/-- What follows a line on which nothing but blanks and a comment is left. -/
def afterLine? (s : List Char) : Option (List Char) :=
  match skipComment (skipBlank s) with
  | [] => some []
  | s => afterNewline? s

/-- What follows blanks, comments and line ends, from within a comment or outside. -/
def skipSpace (comment : Bool) : List Char → List Char
  | [] => []
  | '\n' :: rest => skipSpace false rest
  | '\r' :: '\n' :: rest => skipSpace false rest
  | c :: rest =>
    if comment then if isPlain c then skipSpace true rest else c :: rest
    else if isBlank c then skipSpace false rest
    else if c = '#' then skipSpace true rest
    else c :: rest

end SwitchTestbed.Toml
