import SwitchTestbed.Text.Basic
import SwitchTestbed.Text.Quoted

/-!
# Metadata of a call

* `Metadata` : header lines in their order; a name is kept in lower case;
* `Metadata.insert`, `Metadata.ofList` : lines by their names, of which case does not count;
* `Metadata.withoutConnection` : the lines that concern more than one connection;
* `Metadata.key?`, `Metadata.isValue` : which names and values a header line may have;
* `MetadataError` : what is wrong with a pair.
-/

namespace SwitchTestbed.Rpc

/-- Header lines in their order, each name in lower case. -/
abbrev Metadata := List (String × String)

namespace Metadata

/-- Whether some line has the name. -/
def contains (m : Metadata) (name : String) : Bool := m.any fun line => line.1 = name

/-- The value of the first line of a name. -/
def get? (m : Metadata) (name : String) : Option String :=
  (m.find? fun line => line.1 = name).map Prod.snd

/-- Lines with one more, unless its name is there already. -/
def insertNew (m : Metadata) (name value : String) : Metadata :=
  if m.contains name then m else m ++ [(name, value)]

/-- Lines with one more, which takes the place of one of its name. -/
def insert (m : Metadata) (name value : String) : Metadata :=
  let name := Text.lower name
  m.filter (fun line => line.1 ≠ name) ++ [(name, value)]

/-- Lines one after the other; of two with one name the later one counts. -/
def ofList (lines : List (String × String)) : Metadata :=
  lines.foldl (fun m line => m.insert line.1 line.2) []

/-! ## Connections -/

/-- The line that names others which concern one connection only. -/
def connectionHeader : String := "connection"

/-- The lines that concern one connection whether named or not. -/
def connectionHeaders : List String :=
  [connectionHeader, "keep-alive", "proxy-connection", "trailer", "transfer-encoding", "upgrade"]

/-- A text without the blanks at its ends. -/
def trimmed (s : List Char) : List Char :=
  let blank := fun c => c = ' ' || c = '\t'
  ((s.dropWhile blank).reverse.dropWhile blank).reverse

/-- The names that stand in the line for them, between commas. -/
def connectionNames (m : Metadata) : List String :=
  match m.get? connectionHeader with
  | none => []
  | some names =>
    (names.toList.splitOn ',').map fun name => Text.lower (String.ofList (trimmed name))

/-- The lines that do not concern one connection only. -/
def withoutConnection (m : Metadata) : Metadata :=
  let named := m.connectionNames
  m.filter fun line => !connectionHeaders.contains line.1 && !named.contains line.1

/-! ## Names and values -/

/-- The marks that a name may contain beside letters and digits. -/
def nameMarks : List Char := "!\"#$%&'*+-.^_\x60|~".toList

/-- Whether a character may stand in a name. -/
def isNameChar (c : Char) : Bool := c.isAlphanum || nameMarks.contains c

/-- The ending of names whose values are binary. -/
def binaryEnding : List Char := "-bin".toList

/-- The number of bytes that a name may have. -/
def maxNameLength : Nat := 65535

/-- The name of a line with text for its value, in lower case. -/
def key? (s : String) : Option String :=
  let k := Text.lower s
  if s.isEmpty || maxNameLength < s.utf8ByteSize || !s.toList.all isNameChar ||
      binaryEnding.isSuffixOf k.toList then none
  else some k

/-- Whether a text may be the value of a line: a tab and all characters but controls. -/
def isValue (s : String) : Bool := s.toList.all fun c => c = '\t' || (0x20 ≤ c.toNat && c.toNat ≠ 0x7f)

end Metadata

/-- What is wrong with a pair of a name and a value. -/
inductive MetadataError where
  | invalidKey (key : String)
  | invalidValue (key : String)
  deriving DecidableEq, Repr, Inhabited

namespace MetadataError

/-- The text of an error. -/
def message : MetadataError → String
  | invalidKey k => "invalid metadata key " ++ Text.quote k
  | invalidValue k => "invalid metadata value for " ++ Text.quote k

end MetadataError

end SwitchTestbed.Rpc
