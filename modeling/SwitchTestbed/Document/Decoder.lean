import SwitchTestbed.Decimal
import SwitchTestbed.Document.Shape

/-!
# Reading values out of documents

* `Dialect` : the notation of a document, as far as messages depend on it;
* `Decoder α` : takes a document for an `α` or names the first way in which it misses the shape;
* `Reading α` : the same for the fields of a record. Of two faults the one that stands first in the
  document counts, and a missing field counts as standing behind all members;
* `Decoder.record` : a record is a map of its fields or a sequence of them in their order; unknown
  members are ignored.
-/

namespace SwitchTestbed

/-! ## Notations -/

/-- How a document is held while it is read. -/
inductive Holding where
  /-- As a JSON document. -/
  | json
  /-- As a TOML document. -/
  | toml
  /-- Set aside, to be looked at after its surroundings. -/
  | aside
  deriving DecidableEq, Repr

/-- The notation of a document, as far as messages depend on it. -/
structure Dialect where
  holding : Holding
  floatText : Binary64 → List Char

namespace Dialect

/-- JSON documents. -/
def json : Dialect := ⟨.json, Binary64.compactText⟩

/-- TOML documents. -/
def toml : Dialect := ⟨.toml, Binary64.plainText⟩

/-- The same notation, but set aside. -/
def aside (δ : Dialect) : Dialect := { δ with holding := .aside }

end Dialect

/-- Takes a document for an `α` or names the first way in which it misses the shape. -/
abbrev Decoder (α : Type) := Dialect → Doc → Except ShapeError α

/-- What a message calls a document. -/
def Doc.found (δ : Dialect) : Doc → Found
  | null => .null
  | bool b => .bool b
  | int i => .int i
  | float x => .float (String.ofList (δ.floatText x))
  | text s => .text s
  | seq _ => .seq
  | map _ => .map
  | dateTime _ => .map

/-- The key under which a date or time stands when it is taken for a map. -/
def dateTimeKey : String := "$__toml_private_datetime"

/-! ## Readings of records -/

/-- Something wrong at a place of a document. -/
structure Fault where
  place : Nat
  error : ShapeError
  deriving DecidableEq, Repr

namespace Fault

/-- Of two faults the one that stands first; at one place the left one. -/
def first (e e' : Fault) : Fault := if e'.place < e.place then e' else e

end Fault

/-- Fields of a record, or the first fault among them. -/
inductive Reading (α : Type) where
  | ok (value : α)
  | fault (first : Fault)

namespace Reading

variable {α β : Type}

/-- A reading at a place. -/
def atPlace (place : Nat) : Except ShapeError α → Reading α
  | .ok a => ok a
  | .error e => fault ⟨place, e⟩

/-- Both readings, or the first of their faults. -/
def apply : Reading (α → β) → Reading α → Reading β
  | ok f, ok a => ok (f a)
  | ok _, fault e => fault e
  | fault e, ok _ => fault e
  | fault e, fault e' => fault (e.first e')

/-- The value changed. -/
def map (f : α → β) : Reading α → Reading β
  | ok a => ok (f a)
  | fault e => fault e

instance : Functor Reading where
  map := map

instance : Applicative Reading where
  pure := ok
  seq f x := apply f (x ())

/-- Without the place. -/
def toExcept : Reading α → Except ShapeError α
  | ok a => .ok a
  | fault e => .error e.error

end Reading

/-- The fields of a record: by name, or in their order. -/
inductive Fields where
  | named (members : List (String × Doc))
  | listed (elements : List Doc)

/-- The name of a record and the number of its fields. -/
structure RecordShape where
  name : String
  size : Nat

/-- What a message wants where a record is too short. -/
def RecordShape.wanted (s : RecordShape) : String :=
  "struct " ++ s.name ++ " with " ++ toString s.size ++ (if s.size = 1 then " element" else " elements")

/-- The position and the value of the member of a name. -/
def memberAt (name : String) (ms : List (String × Doc)) : Option (Nat × Doc) :=
  (ms.zipIdx.find? fun m => m.1.1 = name).map fun m => (m.2, m.1.2)

section Field

variable {α : Type} (s : RecordShape) (δ : Dialect) (fields : Fields)

/-- The field of the given index and name, or `absent` where there is none. -/
def field (index : Nat) (name : String) (d : Decoder α) (absent : Nat → Reading α) : Reading α :=
  match fields with
  | .named ms =>
    match memberAt name ms with
    | some (place, doc) => .atPlace place (d δ doc)
    | none => absent ms.length
  | .listed es =>
    match es[index]? with
    | some doc => .atPlace index (d δ doc)
    | none => absent index

/-- A field that has to be there. -/
def required (index : Nat) (name : String) (d : Decoder α) : Reading α :=
  field δ fields index name d fun place =>
    match fields with
    | .named _ => .fault ⟨place, .missingField name⟩
    | .listed _ => .fault ⟨place, .invalidLength index s.wanted⟩

/-- A field that may be missing. -/
def defaulted (index : Nat) (name : String) (d : Decoder α) (value : α) : Reading α :=
  field δ fields index name d fun _ => .ok value

end Field

namespace Decoder

variable {α : Type}

/-- A record in which elements beyond its fields are an error, unless it is held as TOML. -/
def record (s : RecordShape) (read : RecordShape → Dialect → Fields → Reading α) : Decoder α :=
  fun δ d =>
    match d with
    | .map ms => (read s δ (.named ms)).toExcept
    | .dateTime _ => (read s δ (.named [])).toExcept
    | .seq es => do
      let a ← (read s δ (.listed es)).toExcept
      if s.size < es.length then
        match δ.holding with
        | .json => .error (.invalidLength es.length "fewer elements in array")
        | .toml => .ok a
        | .aside =>
          .error (.invalidLength es.length (toString s.size
            ++ (if s.size = 1 then " element in sequence" else " elements in sequence")))
      else .ok a
    | _ => .error (.invalidType (d.found δ) ("struct " ++ s.name))

/-! ## Scalars and containers -/

/-- Text. -/
def string : Decoder String := fun δ d =>
  match d with
  | .text s => .ok s
  | _ => .error (.invalidType (d.found δ) "a string")

/-- A natural of 64 bits. -/
def uint64 : Decoder UInt64 := fun δ d =>
  match d with
  | .int i =>
    if 0 ≤ i ∧ i < 0x10000000000000000 then .ok i.toNat.toUInt64
    else .error (.invalidValue (.int i) "u64")
  | _ => .error (.invalidType (d.found δ) "u64")

/-- A sequence. -/
def list (d : Decoder α) : Decoder (List α) := fun δ doc =>
  match doc with
  | .seq es => es.mapM (d δ)
  | _ => .error (.invalidType (doc.found δ) "a sequence")

/-- A map from text. -/
def stringMap (d : Decoder α) : Decoder (StringMap α) := fun δ doc =>
  match doc with
  | .map ms => do
    let es ← ms.mapM fun (k, v) => do .ok (k, ← d δ v)
    .ok (.ofList es)
  | _ => .error (.invalidType (doc.found δ) "a map")

/-- A value or `null`. -/
def nullable (d : Decoder α) : Decoder (Option α) := fun δ doc =>
  match doc with
  | .null => .ok none
  | _ => some <$> d δ doc

/-! ## Variants -/

/-- The variant of a name. -/
def variantOf (known : List (String × α)) (name : String) : Except ShapeError α :=
  match lookupEntry name known with
  | some a => .ok a
  | none => .error (.unknownVariant name (known.map Prod.fst))

/-- The variant that the only member of a map names; its payload has to be empty. -/
def variantMember (known : List (String × α)) (δ : Dialect) (name : String) (payload : Doc) :
    Except ShapeError α := do
  let a ← variantOf known name
  let empty := match δ.holding, payload with
    | .json, .null => true
    | .aside, .null => true
    | .aside, .map [] => true
    | .toml, .map [] => true
    | .toml, .seq [] => true
    | _, _ => false
  if empty then .ok a
  else
    match δ.holding with
    | .toml => .error .variantTable
    | _ => .error (.invalidType (payload.found δ) "unit")

/-- One of several variants without a payload: its name, or a map with that name for its only
member. -/
def variant (known : List (String × α)) : Decoder α := fun δ d =>
  match d with
  | .text name => variantOf known name
  | .map [(name, payload)] => variantMember known δ name payload
  | .map _ =>
    match δ.holding with
    | .toml => .error .variantTable
    | _ => .error (.invalidValue .map "map with a single key")
  | .dateTime written =>
    match δ.holding with
    | .toml => .error .notVariant
    | _ => variantMember known δ dateTimeKey (.text written)
  | _ =>
    match δ.holding with
    | .toml => .error .notVariant
    | _ => .error (.invalidType (d.found δ) "string or map")

end Decoder

end SwitchTestbed
