import SwitchTestbed.Binary64
import SwitchTestbed.Data.StringMap

/-!
# Documents

* `Doc` : a tree of scalars, sequences and maps, as the JSON and the TOML reader deliver it and
  the JSON printer takes it. A map keeps its members in the order it was given them;
* `Doc.depth` : how many sequences and maps stand inside one another;
* `Doc.member?`, `Doc.ofMap` : one member of a map, a map with its members in key order.
-/

namespace SwitchTestbed

/-- A tree of scalars, sequences and maps. -/
inductive Doc where
  | null
  | bool (value : Bool)
  | int (value : Int)
  | float (value : Binary64)
  | text (value : String)
  | seq (elements : List Doc)
  | map (members : List (String × Doc))
  /-- A date, a time or both, in the notation it was written in. -/
  | dateTime (written : String)
  deriving Repr, Inhabited

namespace Doc

mutual

/-- How many sequences and maps stand inside one another. -/
def depth : Doc → Nat
  | seq es => depthElements es + 1
  | map ms => depthMembers ms + 1
  | _ => 0

/-- The greatest depth among the elements of a sequence. -/
def depthElements : List Doc → Nat
  | [] => 0
  | e :: rest => max e.depth (depthElements rest)

/-- The greatest depth among the members of a map. -/
def depthMembers : List (String × Doc) → Nat
  | [] => 0
  | (_, d) :: rest => max d.depth (depthMembers rest)

end

/-- The member of a map under a key. -/
def member? (key : String) : Doc → Option Doc
  | map ms => lookupEntry key ms
  | _ => none

/-- A map with its members in key order. -/
def ofMap (m : StringMap Doc) : Doc := map m.entries

/-- The members that are present, in the given order. -/
def record (members : List (String × Option Doc)) : Doc :=
  map (members.filterMap fun (k, d) => d.map (k, ·))

end Doc

end SwitchTestbed
