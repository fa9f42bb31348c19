import SwitchTestbed.Text.Basic

/-!
# Management protocols

* `Protocol` : the protocols that a device may serve, `Protocol.all` in their order;
* `Protocol.name`, `Protocol.key` : the name in messages and the key in documents;
* `Protocol.parse?` : reads either, in any case (`parse?_name`, `parse?_key`).
-/

namespace SwitchTestbed

/-- A management protocol that a device may serve. -/
inductive Protocol where
  /-- Streaming telemetry and configuration. -/
  | gnmi
  /-- Operations. -/
  | gnoi
  /-- Control of packet forwarding. -/
  | p4rt
  /-- HTTP through a tunnel, on traffic generators. -/
  | http
  /-- A serial or terminal-server console. -/
  | console
  deriving DecidableEq, Repr, Inhabited

namespace Protocol

/-- All protocols in their order. -/
def all : List Protocol := [gnmi, gnoi, p4rt, http, console]

/-- The name of a protocol in messages. -/
def name : Protocol → String
  | gnmi => "GNMI"
  | gnoi => "GNOI"
  | p4rt => "P4RT"
  | http => "HTTP"
  | console => "CONSOLE"

/-- The key of a protocol in documents. -/
def key : Protocol → String
  | gnmi => "gnmi"
  | gnoi => "gnoi"
  | p4rt => "p4rt"
  | http => "http"
  | console => "console"

/-- The position of a protocol among all. -/
def index (p : Protocol) : Nat := all.idxOf p

/-- The protocol of a name in any case. -/
def parse? (s : String) : Option Protocol := all.find? fun p => p.key = Text.lower s

/-- The message for a text that names no protocol. -/
def unknownMessage (s : String) : String := "Unknown protocol: '" ++ s ++ "'"

theorem parse?_key (p : Protocol) : parse? p.key = some p := by
  cases p <;> decide

theorem parse?_name (p : Protocol) : parse? p.name = some p := by
  cases p <;> decide

end Protocol

end SwitchTestbed
