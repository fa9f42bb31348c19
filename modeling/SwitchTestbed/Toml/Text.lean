import SwitchTestbed.Text.Basic
import SwitchTestbed.Toml.Blank

/-!
# Texts and keys

A text stands between double quotes, where a backslash begins an escape, or between single quotes,
where every character stands for itself. Between three quotes it may have several lines.

* `readBasic`, `readLiteral` : a text of either kind behind its opening quotes;
* `readText` : any text;
* `Key` : the names of the tables on the way and the name in the last of them; `readKey`.
-/

namespace SwitchTestbed.Toml

/-! ## Texts -/

/-- What a letter behind a backslash stands for. -/
def simpleEscape? : Char → Option Char
  | 'b' => some '\x08'
  | 't' => some '\t'
  | 'n' => some '\n'
  | 'f' => some '\x0c'
  | 'r' => some '\r'
  | '"' => some '"'
  | '\\' => some '\\'
  | _ => none

/-- The character of a code point in hexadecimal digits. -/
def codePoint? (digits : List Char) : Option Char := do
  let n := natOfDigits 16 (← digits.mapM (digit? 16))
  if n.isValidChar then some (Char.ofNat n) else none

/-- The end of a text at the front: the quotes that still belong to the text, and what follows the
closing ones. A text of several lines ends at three quotes, and up to two more before them belong
to it. -/
def closing? (lines : Bool) (quote : Char) : Reader (List Char)
  | [] => none
  | c :: rest =>
    if lines then
      let n := min ((c :: rest).takeWhile (· = quote)).length 5
      if n < 3 then none else some (List.replicate (n - 3) quote, (c :: rest).drop n)
    else if c = quote then some ([], rest)
    else none

/-- A text in double quotes behind the opening ones; `acc` holds its characters so far in reverse.
A backslash before the end of a line takes out all blanks and line ends that follow, and `folding`
says that this goes on. -/
def readBasic (lines folding : Bool) (acc : List Char) : Reader String
  | [] => none
  | '\n' :: rest =>
    if lines then readBasic lines folding (if folding then acc else '\n' :: acc) rest else none
  | '\r' :: '\n' :: rest =>
    if lines then readBasic lines folding (if folding then acc else '\n' :: acc) rest else none
  | c :: rest =>
    if folding && isBlank c then readBasic lines true acc rest
    else
      match closing? lines '"' (c :: rest) with
      | some (quotes, rest) => some (String.ofList (acc.reverse ++ quotes), rest)
      | none =>
        if c = '\\' then
          if lines && (afterNewline? (skipBlank rest)).isSome then readBasic lines true acc rest
          else
            match rest with
            | 'u' :: d₁ :: d₂ :: d₃ :: d₄ :: rest => do
              readBasic lines false ((← codePoint? [d₁, d₂, d₃, d₄]) :: acc) rest
            | 'U' :: d₁ :: d₂ :: d₃ :: d₄ :: d₅ :: d₆ :: d₇ :: d₈ :: rest => do
              readBasic lines false ((← codePoint? [d₁, d₂, d₃, d₄, d₅, d₆, d₇, d₈]) :: acc) rest
            | e :: rest => do readBasic lines false ((← simpleEscape? e) :: acc) rest
            | [] => none
        else if isPlain c then readBasic lines false (c :: acc) rest
        else none

/-- A text in single quotes behind the opening ones; `acc` holds its characters so far in
reverse. -/
def readLiteral (lines : Bool) (acc : List Char) : Reader String
  | [] => none
  | '\n' :: rest => if lines then readLiteral lines ('\n' :: acc) rest else none
  | '\r' :: '\n' :: rest => if lines then readLiteral lines ('\n' :: acc) rest else none
  | c :: rest =>
    match closing? lines '\'' (c :: rest) with
    | some (quotes, rest) => some (String.ofList (acc.reverse ++ quotes), rest)
    | none => if isPlain c then readLiteral lines (c :: acc) rest else none

/-- A line end just behind three opening quotes does not belong to the text. -/
def skipFirstNewline (s : List Char) : List Char := (afterNewline? s).getD s

/-- A text of any kind. -/
def readText : Reader String
  | '"' :: '"' :: '"' :: rest => readBasic true false [] (skipFirstNewline rest)
  | '"' :: rest => readBasic false false [] rest
  | '\'' :: '\'' :: '\'' :: rest => readLiteral true [] (skipFirstNewline rest)
  | '\'' :: rest => readLiteral false [] rest
  | _ => none

/-! ## Keys -/

/-- What a name without quotes consists of. -/
def isNameChar (c : Char) : Bool := c.isAlphanum || c = '-' || c = '_'

/-- A name, bare or quoted on one line. -/
def readName : Reader String
  | '"' :: rest => readBasic false false [] rest
  | '\'' :: rest => readLiteral false [] rest
  | s =>
    match s.span isNameChar with
    | ([], _) => none
    | (cs, rest) => some (String.ofList cs, rest)

/-- The names of the tables on the way, and the name in the last of them. -/
structure Key where
  tables : List String
  name : String
  deriving DecidableEq, Repr, Inhabited

/-- At most the given number of names with points between them, and blanks around each. -/
def readNames : Nat → Reader Key
  | 0, _ => none
  | bound + 1, s => do
    let (name, rest) ← readName (skipBlank s)
    match skipBlank rest with
    | '.' :: rest => do
      let (k, rest) ← readNames bound rest
      some (⟨name :: k.tables, k.name⟩, rest)
    | rest => some (⟨[], name⟩, rest)

/-- How many names a key may have. -/
def maxNames : Nat := 79

/-- A key, with the blanks around it. -/
def readKey : Reader Key := readNames maxNames

end SwitchTestbed.Toml
