import SwitchTestbed.Text.Basic

/-!
# Targets of HTTP requests

* `Target` : the path of a request, its query and its fragment, as they are written down;
* `Target.ofText` : blanks and controls at the end are left out, and so are tabs and line breaks
  wherever they stand. An empty path is the root, the segments `.` and `..` are followed, and
  characters that may not stand where they are get percent signs;
* `Target.sent`, `Target.written` : what a server gets to see, and all of it.
-/

namespace SwitchTestbed.Http

open Text (encodeChar)

/-- The printable characters that may not stand in a path. -/
def refusedInPath (c : Char) : Bool := " \"<>\x60#?\x7b\x7d".toList.contains c

/-- The printable characters that may not stand in a query. -/
def refusedInQuery (c : Char) : Bool := " \"<>#'".toList.contains c

/-- The printable characters that may not stand in a fragment. -/
def refusedInFragment (c : Char) : Bool := " \"<>\x60".toList.contains c

/-- Whether a character ends a segment of a path. -/
def endsSegment (c : Char) : Bool := c = '/' || c = '\\'

/-- The segments of a path. -/
def segments (path : List Char) : List (List Char) :=
  path.foldr
    (fun c acc =>
      if endsSegment c then [] :: acc
      else
        match acc with
        | s :: rest => (c :: s) :: rest
        | [] => [[c]])
    [[]]

/-- A segment with its encoded points and letters read. -/
def plainDots : List Char → List Char
  | '%' :: '2' :: c :: rest => if c = 'e' || c = 'E' then '.' :: plainDots rest else '%' :: '2' :: c :: plainDots rest
  | c :: rest => c :: plainDots rest
  | [] => []

/-- Whether a segment looks like the letter of a drive. -/
def isDriveLetter : List Char → Bool
  | [c, mark] => c.isAlpha && (mark = ':' || mark = '|')
  | _ => false

/-- The segments, in reverse, that are left after one step up. There is nothing above the root or
the letter of a drive. -/
def parent : List (List Char) → List (List Char)
  | [] => []
  | s :: before => if isDriveLetter s then s :: before else before

/-- Segments with `.` and `..` followed, given those before in reverse. -/
def follow (before : List (List Char)) : List (List Char) → List (List Char)
  | [] => before.reverse
  | s :: rest =>
    let dots := plainDots s
    if dots = ['.', '.'] then
      match rest with
      | [] => (parent before).reverse ++ [[]]
      | _ => follow (parent before) rest
    else if dots = ['.'] then
      match rest with
      | [] => before.reverse ++ [[]]
      | _ => follow before rest
    else follow (s :: before) rest

/-- A path as it is sent; its first segment is the empty one before the first slash. -/
def normalPath (path : List Char) : List Char :=
  let ss := follow [] ((segments path).drop 1)
  let ss := if ss.isEmpty then [[]] else ss
  ss.flatMap fun s => '/' :: s.flatMap (encodeChar refusedInPath)

/-- Whether a character is left out wherever it stands. -/
def isLayout (c : Char) : Bool := c = '\t' || c = '\n' || c = '\r'

/-- Whether a character is left out at the end. -/
def isBlank (c : Char) : Bool := c ≤ ' '

/-- The path of a request, its query and its fragment, as they are written down. -/
structure Target where
  path : List Char
  /-- With the question mark before it, or nothing. -/
  query : List Char
  /-- With the number sign before it, or nothing. -/
  fragment : List Char
  deriving DecidableEq, Repr

/-- What follows a mark, with the characters that may not stand there encoded. -/
def encodeBehind (refused : Char → Bool) : List Char → List Char
  | mark :: rest => mark :: rest.flatMap (encodeChar refused)
  | [] => []

/-- The target that a text stands for. -/
def Target.ofText (text : String) : Target :=
  let cs := (text.toList.reverse.dropWhile isBlank).reverse.filter fun c => !isLayout c
  let before := cs.takeWhile (· ≠ '#')
  let path := before.takeWhile (· ≠ '?')
  { path := normalPath path
    query := encodeBehind refusedInQuery (before.drop path.length)
    fragment := encodeBehind refusedInFragment (cs.drop before.length) }

/-- What is sent: a fragment stays with the sender. -/
def Target.sent (t : Target) : String := String.ofList (t.path ++ t.query)

/-- The whole target. -/
def Target.written (t : Target) : String := String.ofList (t.path ++ t.query ++ t.fragment)

end SwitchTestbed.Http
