import SwitchTestbed.Text.Basic
import SwitchTestbed.Toml.Value

/-!
# TOML documents

* `Statement` : what a line holds, an assignment or a header; `readStatements` : those of a text;
* `sections` : statements gathered under their headers;
* `parse` : the map that a whole text stands for, if it is TOML. Its members stand in the order of
  the text.
-/

namespace SwitchTestbed.Toml

/-- What a line holds. -/
inductive Statement where
  | assignment (key : Key) (value : Doc)
  | header (header : Header)

/-- A key and the equals sign behind it, and its value, read in at most so many steps. -/
def readAssignment (steps : Nat) : Reader Statement := fun s => do
  let (k, rest) ← readKey s
  let (_, rest) ← readChar '=' rest
  let (d, rest) ← readValue steps maxDepth (skipBlank rest)
  some (.assignment k d, rest)

/-- The header of a table or of an element. -/
def readHeader : Reader Statement
  | '[' :: '[' :: rest => do
    let (k, rest) ← readKey rest
    let (_, rest) ← readChar ']' rest
    let (_, rest) ← readChar ']' rest
    some (.header (.element k), rest)
  | '[' :: rest => do
    let (k, rest) ← readKey rest
    let (_, rest) ← readChar ']' rest
    some (.header (.table k), rest)
  | _ => none

/-- A header or an assignment. -/
def readStatement (steps : Nat) : Reader Statement
  | '[' :: rest => readHeader ('[' :: rest)
  | s => readAssignment steps s

/-- All statements of a text of at most so many lines. -/
def readStatements (steps : Nat) : Nat → List Char → Option (List Statement)
  | 0, _ => none
  | lines + 1, s =>
    match skipBlank s with
    | [] => some []
    | s =>
      match afterLine? s with
      | some rest => readStatements steps lines rest
      | none => do
        let (statement, rest) ← readStatement steps s
        let statements ← readStatements steps lines (← afterLine? rest)
        some (statement :: statements)

/-- The assignments before the first header, and the sections from there on. -/
def gather : List Statement → List (Key × Doc) × List Section
  | [] => ([], [])
  | .assignment k d :: rest =>
    let (as, sections) := gather rest
    ((k, d) :: as, sections)
  | .header h :: rest =>
    let (as, sections) := gather rest
    ([], ⟨h, as⟩ :: sections)

/-- Statements under their headers. -/
def sections (statements : List Statement) : List Section :=
  let (as, sections) := gather statements
  ⟨.top, as⟩ :: sections

/-- The map that a whole text stands for. Each line takes at least one character. -/
def parse (text : String) : Option Doc := do
  let s := Text.skipMark text.toList
  let statements ← readStatements (stepBound s.length) (s.length + 1) s
  let es ← (sections statements).foldlM Entries.addSection []
  some es.toDoc

end SwitchTestbed.Toml
