import SwitchTestbed.Gnmi.Message
import SwitchTestbed.Json.Printer
import SwitchTestbed.Json.Reader
import SwitchTestbed.Rpc.Status

/-!
# Payloads as switches want them

A switch wants the document of a set entry as an object with one member, which is named after the
last step of the path; where that step selects a member of a list the value stands in an array of
its own.

* `keyed` : that object;
* `Update.wrap` : puts the document of an entry into that form. An entry for the root, or without a
  path, and one whose document cannot be read stay as they are;
* `Update.wrapped` : the entry after that, or what is wrong with it;
* `SetRequest.wrapped` : all entries of a request, `replace` before `update`.
-/

namespace SwitchTestbed.Gnmi

/-- A document that could not be read, and the step it was meant for. -/
structure PayloadError where
  elem : String
  cause : JsonError
  deriving DecidableEq, Repr

namespace PayloadError

/-- The text of an error. -/
def message (e : PayloadError) : String :=
  "failed to decode JSON IETF value for " ++ Text.quote e.elem ++ ": " ++ e.cause.message

/-- The status that answers a request with such a document. -/
def status (e : PayloadError) : Rpc.Status := ⟨.invalidArgument, e.message⟩

end PayloadError

/-- The object that a switch wants for a value below a step of a path. -/
def keyed (elem : PathElem) (d : Doc) : Doc :=
  .map [(elem.name, if elem.isListMember then .seq [d] else d)]

/-- The document of a value; a value of another kind, and no value, hold the empty one. -/
def documentOf (val : Option TypedValue) : List UInt8 :=
  match val.bind TypedValue.jsonIetf? with
  | some b => b.toList
  | none => []

/-- Puts the document of an entry into the form that a switch wants, and says what is wrong with it
if it cannot be read. -/
def Update.wrap (u : Update) : Except PayloadError Unit × Update :=
  match u.path.bind Path.lastElem? with
  | none => (.ok (), u)
  | some elem =>
    match Json.parse (documentOf u.val) with
    | .ok d => (.ok (), { u with val := some (.jsonIetf (Json.render (keyed elem d)).toUTF8) })
    | .error cause => (.error ⟨elem.name, cause⟩, u)

/-- An entry with its document as a switch wants it. -/
def Update.wrapped (u : Update) : Except PayloadError Update := u.wrap.1.map fun _ => u.wrap.2

/-- A request with all its entries as a switch wants them, or the first error. -/
def SetRequest.wrapped (r : SetRequest) : Except PayloadError SetRequest := do
  let replace ← r.replace.mapM Update.wrapped
  let update ← r.update.mapM Update.wrapped
  .ok { r with replace, update }

end SwitchTestbed.Gnmi
