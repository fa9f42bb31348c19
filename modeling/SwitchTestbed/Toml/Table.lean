import SwitchTestbed.Document.Basic
import SwitchTestbed.Toml.Text

/-!
# Tables

A table is put together from assignments to dotted keys, under headers that name the table they go
into. None of it may redefine what is there already.

* `Node`, `Origin` : what stands under a name, and how a table came to be;
* `Entries.within` : a change to the table at the end of a path, the tables on the way made where
  they are missing;
* `Entries.assign` : one assignment; `Section`, `Entries.addSection` : a header and the assignments
  under it;
* `Entries.toDoc` : the table as a map.
-/

namespace SwitchTestbed.Toml

/-- How a table came to be. -/
inductive Origin where
  /-- By a header of its own. -/
  | defined
  /-- Because a header names a table in it. -/
  | implied
  /-- Because an assignment passes through it. -/
  | dotted
  deriving DecidableEq, Repr

/-- What stands under a name. -/
inductive Node where
  | value (d : Doc)
  | table (origin : Origin) (entries : List (String × Node))
  /-- The elements of an array of tables, each with a header of its own. -/
  | tables (elements : List (List (String × Node)))

/-- The entries of a table, in the order in which they came. -/
abbrev Entries := List (String × Node)

namespace Entries

/-- A node put in the place of that of the same name, or behind all others. -/
def put (k : String) (n : Node) : Entries → Entries
  | [] => [(k, n)]
  | (k', n') :: rest => if k = k' then (k, n) :: rest else (k', n') :: put k n rest

/-- A node put behind all others, and not where one of the same name was. -/
def putLast (k : String) (n : Node) (es : Entries) : Entries :=
  es.filter (·.1 ≠ k) ++ [(k, n)]

/-- Changes the entries of the table at the end of a path. Tables that are missing come to be by
`passing`. An array of tables is passed through its last element, and an assignment does not pass
through a table with a header of its own. -/
def within (passing : Origin) (change : Origin → Entries → Option Entries) :
    List String → Origin → Entries → Option Entries
  | [], origin, es => change origin es
  | k :: path, _, es =>
    match lookupEntry k es with
    | none => do
      let inner ← within passing change path passing []
      some (put k (.table passing inner) es)
    | some (.value _) => none
    | some (.table origin inner) =>
      if passing = .dotted ∧ origin = .defined then none
      else do
        let inner ← within passing change path origin inner
        some (put k (.table origin inner) es)
    | some (.tables elements) => do
      let last ← within passing change path .defined (← elements.getLast?)
      some (put k (.tables (elements.dropLast ++ [last])) es)

/-- One assignment. The name has to be new, and if it stands behind others their table has to have
come from assignments too. -/
def assign (es : Entries) (k : Key) (d : Doc) : Option Entries :=
  within .dotted (fun origin inner =>
    if (k.tables.isEmpty ∨ origin = .dotted) ∧ (lookupEntry k.name inner).isNone then
      some (inner ++ [(k.name, .value d)])
    else none) k.tables .defined es

/-- Assignments one after the other. -/
def assignAll (es : Entries) (as : List (Key × Doc)) : Option Entries :=
  as.foldlM (fun es a => es.assign a.1 a.2) es

end Entries

/-! ## Sections -/

/-- Where assignments go. -/
inductive Header where
  /-- Into the outermost table. -/
  | top
  /-- Into a table. -/
  | table (key : Key)
  /-- Into one more element of an array of tables. -/
  | element (key : Key)
  deriving DecidableEq, Repr

/-- A header and the assignments under it. -/
structure Section where
  header : Header
  assignments : List (Key × Doc)

namespace Entries

/-- One more section. A table that other headers have implied moves behind its neighbours when its
own header comes; any other table has only one header. -/
def addSection (es : Entries) (s : Section) : Option Entries :=
  match s.header with
  | .top => es.assignAll s.assignments
  | .table k =>
    within .implied (fun _ parent =>
      match lookupEntry k.name parent with
      | none => do some (parent.putLast k.name (.table .defined (← assignAll [] s.assignments)))
      | some (.table .implied inner) => do
        some (parent.putLast k.name (.table .defined (← assignAll inner s.assignments)))
      | some _ => none) k.tables .defined es
  | .element k =>
    within .implied (fun _ parent =>
      match lookupEntry k.name parent with
      | none => do some (parent.put k.name (.tables [← assignAll [] s.assignments]))
      | some (.tables elements) => do
        some (parent.put k.name (.tables (elements ++ [← assignAll [] s.assignments])))
      | some _ => none) k.tables .defined es

end Entries

/-! ## Tables as maps -/

mutual

/-- What stands under a name, as a document. -/
def Node.toDoc : Node → Doc
  | .value d => d
  | .table _ es => .map (entryDocs es)
  | .tables elements => .seq (elementDocs elements)

/-- The entries of a table, as members of a map. -/
def entryDocs : List (String × Node) → List (String × Doc)
  | [] => []
  | (k, n) :: rest => (k, n.toDoc) :: entryDocs rest

/-- The elements of an array of tables, as documents. -/
def elementDocs : List (List (String × Node)) → List Doc
  | [] => []
  | es :: rest => .map (entryDocs es) :: elementDocs rest

end

/-- The table as a map. -/
def Entries.toDoc (es : Entries) : Doc := .map (entryDocs es)

end SwitchTestbed.Toml
