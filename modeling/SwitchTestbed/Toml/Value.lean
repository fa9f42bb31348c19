import SwitchTestbed.Toml.Moment
import SwitchTestbed.Toml.Number
import SwitchTestbed.Toml.Table

/-!
# Values

* `readScalar` : a text, a number, a date or a truth value;
* `readValue`, `readElements`, `readPairs` : any value, the rest of an array, the rest of a table on
  one line. The fuel is a bound on the steps, the depth counts the arrays and tables that may still
  be opened.
-/

namespace SwitchTestbed.Toml

/-- The given letters. -/
def readWord (word : String) (d : Doc) : Reader Doc := fun s =>
  let letters := word.toList
  if letters.isPrefixOf s then some (d, s.drop letters.length) else none

/-- A value that holds no others. -/
def readScalar (s : List Char) : Option (Doc × List Char) :=
  match s with
  | [] => none
  | c :: _ =>
    if c = '"' ∨ c = '\'' then (readText s).map fun (t, rest) => (.text t, rest)
    else if c = 't' then readWord "true" (.bool true) s
    else if c = 'f' then readWord "false" (.bool false) s
    else if beginsMoment s then readMoment s
    else readNumber s

mutual

/-- Any value. -/
def readValue : Nat → Nat → Reader Doc
  | 0, _, _ => none
  | fuel + 1, depth, s =>
    match s, depth with
    | '[' :: _, 0 => none
    | '\x7b' :: _, 0 => none
    | '[' :: rest, depth + 1 => readElements fuel depth [] (skipSpace false rest)
    | '\x7b' :: rest, depth + 1 =>
      match skipBlank rest with
      | '\x7d' :: rest => some (.map [], rest)
      | rest => readPairs fuel depth [] rest
    | s, _ => readScalar s

/-- The elements of an array up to its end; `acc` holds those before them in reverse. A comma may
stand behind the last one. -/
def readElements : Nat → Nat → List Doc → Reader Doc
  | 0, _, _, _ => none
  | _ + 1, _, acc, ']' :: rest => some (.seq acc.reverse, rest)
  | fuel + 1, depth, acc, s => do
    let (d, rest) ← readValue fuel depth s
    match skipSpace false rest with
    | ',' :: rest => readElements fuel depth (d :: acc) (skipSpace false rest)
    | ']' :: rest => some (.seq (d :: acc).reverse, rest)
    | _ => none

/-- The assignments of a table on one line up to its end, behind those made already. -/
def readPairs : Nat → Nat → Entries → Reader Doc
  | 0, _, _, _ => none
  | fuel + 1, depth, es, s => do
    let (k, rest) ← readKey s
    let (_, rest) ← readChar '=' rest
    let (d, rest) ← readValue fuel depth (skipBlank rest)
    let es ← es.assign k d
    match skipBlank rest with
    | ',' :: rest => readPairs fuel depth es rest
    | '\x7d' :: rest => some (es.toDoc, rest)
    | _ => none

end

/-- How many arrays and tables may stand inside one another in a value. -/
def maxDepth : Nat := 79

/-- A bound on the steps in which a text of the given length is read: a step that takes nothing is
followed by one that does. -/
def stepBound (length : Nat) : Nat := 2 * length + 2

end SwitchTestbed.Toml
