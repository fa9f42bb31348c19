import SwitchTestbed.Decimal
import SwitchTestbed.Document.Basic
import SwitchTestbed.Text.Quoted

/-!
# Writing JSON

* `escape`, `string` : a string between quotes, raw but for quotes, backslashes and controls;
* `render` : a document over several lines, two blanks deeper for each array or object around.
-/

namespace SwitchTestbed.Json

/-- Two lower-case hexadecimal digits. -/
def hex2 (n : Nat) : List Char :=
  let ds := Text.hexDigits n
  if ds.length < 2 then '0' :: ds else ds

/-- How a character stands in a string. -/
def escape (c : Char) : List Char :=
  if c = '"' then ['\\', '"']
  else if c = '\\' then ['\\', '\\']
  else if c = '\x08' then ['\\', 'b']
  else if c = '\x0c' then ['\\', 'f']
  else if c = '\n' then ['\\', 'n']
  else if c = '\r' then ['\\', 'r']
  else if c = '\t' then ['\\', 't']
  else if c.toNat < 0x20 then ['\\', 'u', '0', '0'] ++ hex2 c.toNat
  else [c]

/-- A string between its quotes. -/
def string (s : String) : List Char := '"' :: s.toList.flatMap escape ++ ['"']

/-- The digits of an integer behind its sign. -/
def integer : Int → List Char
  | .ofNat n => Decimal.natDigits n
  | .negSucc n => '-' :: Decimal.natDigits (n + 1)

/-- A new line, `level` steps deep. -/
def newline (level : Nat) : List Char := '\n' :: List.replicate (2 * level) ' '

mutual

/-- A document whose further lines stand `level` steps deep. -/
def renderAt (level : Nat) : Doc → List Char
  | .null => "null".toList
  | .bool b => (if b then "true" else "false").toList
  | .int i => integer i
  | .float x => x.compactText
  | .text s => string s
  | .dateTime s => string s
  | .seq [] => ['[', ']']
  | .seq (e :: es) =>
    '[' :: newline (level + 1) ++ renderAt (level + 1) e ++ renderElements level es
      ++ newline level ++ [']']
  | .map [] => ['\x7b', '\x7d']
  | .map ((k, d) :: ms) =>
    '\x7b' :: newline (level + 1) ++ string k ++ [':', ' '] ++ renderAt (level + 1) d
      ++ renderMembers level ms ++ newline level ++ ['\x7d']

/-- The elements of an array behind its first one. -/
def renderElements (level : Nat) : List Doc → List Char
  | [] => []
  | e :: es =>
    ',' :: newline (level + 1) ++ renderAt (level + 1) e ++ renderElements level es

/-- The members of an object behind its first one. -/
def renderMembers (level : Nat) : List (String × Doc) → List Char
  | [] => []
  | (k, d) :: ms =>
    ',' :: newline (level + 1) ++ string k ++ [':', ' '] ++ renderAt (level + 1) d
      ++ renderMembers level ms

end

/-- A document over several lines. -/
def render (d : Doc) : String := String.ofList (renderAt 0 d)

end SwitchTestbed.Json
