import SwitchTestbed.Document.Basic
import SwitchTestbed.Text.Quoted

/-!
# How a document can miss a shape

* `Found` : what stands where something else was wanted;
* `ShapeError` : the first way in which a document misses a shape;
* `ShapeError.message` : its text.
-/

namespace SwitchTestbed

/-- What stands where something else was wanted. A floating-point number is given by its text,
which depends on the notation of the document. -/
inductive Found where
  | null
  | bool (value : Bool)
  | int (value : Int)
  | float (text : String)
  | text (value : String)
  | seq
  | map
  deriving DecidableEq, Repr, Inhabited

namespace Found

/-- How a message names what stands there. -/
def describe : Found → String
  | null => "null"
  | bool b => "boolean \x60" ++ (if b then "true" else "false") ++ "\x60"
  | int i => "integer \x60" ++ toString i ++ "\x60"
  | float t => "floating point \x60" ++ t ++ "\x60"
  | text s => "string " ++ Text.quote s
  | seq => "sequence"
  | map => "map"

end Found

/-- The first way in which a document misses a shape. -/
inductive ShapeError where
  | missingField (name : String)
  | unknownVariant (name : String) (known : List String)
  | invalidType (found : Found) (wanted : String)
  | invalidValue (found : Found) (wanted : String)
  | invalidLength (length : Nat) (wanted : String)
  /-- A variant is neither text nor a table. -/
  | notVariant
  /-- A table names no variant, several ones, or one with a payload. -/
  | variantTable
  deriving DecidableEq, Repr, Inhabited

namespace ShapeError

/-- A name between grave accents. -/
def ticked (s : String) : String := "\x60" ++ s ++ "\x60"

/-- The variants that would have been known. -/
def oneOf : List String → String
  | [a] => ticked a
  | [a, b] => ticked a ++ " or " ++ ticked b
  | names => "one of " ++ ", ".intercalate (names.map ticked)

/-- The text of an error. -/
def message : ShapeError → String
  | missingField name => "missing field " ++ ticked name
  | unknownVariant name known =>
    "unknown variant " ++ ticked name ++ ", expected " ++ oneOf known
  | invalidType found wanted => "invalid type: " ++ found.describe ++ ", expected " ++ wanted
  | invalidValue found wanted => "invalid value: " ++ found.describe ++ ", expected " ++ wanted
  | invalidLength n wanted => "invalid length " ++ toString n ++ ", expected " ++ wanted
  | notVariant => "wanted string or table"
  | variantTable => "wanted exactly one empty member"

end ShapeError

end SwitchTestbed
