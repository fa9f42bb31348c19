import SwitchTestbed.Data.StringMap
import SwitchTestbed.Decimal
import SwitchTestbed.Rpc.Metadata
import SwitchTestbed.Rpc.Status
import SwitchTestbed.Time.Duration

/-!
# What every call over a connection begins with

* `DialOptions` : what a caller asks of a connection; nothing is asked by default;
* `timeoutText?` : a length of time in the finest unit in which it has at most eight digits, what
  is left of a unit cut off. Above 99999999 hours there is none;
* `Request` : a message and its metadata;
* `CallDefaults` : deadlines and metadata for calls that bring none, and the bound on messages;
* `CallDefaults.ofOptions` : those of a dial, or the first metadata in key order that no call may
  carry;
* `CallDefaults.unary`, `CallDefaults.streaming` : fill what a request leaves open.
-/

namespace SwitchTestbed

/-! ## Options of a dial -/

/-- What a caller asks of a connection. -/
structure DialOptions where
  /-- Bound on establishing the connection. -/
  connectTimeout : Option Duration := none
  /-- Deadline of unary calls without one of their own. -/
  unaryTimeout : Option Duration := none
  /-- Deadline of streaming calls without one of their own. -/
  streamTimeout : Option Duration := none
  /-- Bytes of the largest message taken in. -/
  maxReceive : Option Nat := none
  userAgent : Option String := none
  /-- Metadata of every call. -/
  metadata : StringMap String := ∅
  deriving DecidableEq, Repr, Inhabited

end SwitchTestbed

namespace SwitchTestbed.Rpc

/-! ## Timeouts in metadata -/

/-- The metadata line that carries a timeout. -/
def timeoutHeader : String := "grpc-timeout"

/-- A unit of timeouts. -/
structure TimeoutUnit where
  letter : Char
  length : Duration
  deriving DecidableEq, Repr

/-- All units, finest first. -/
def timeoutUnits : List TimeoutUnit :=
  [⟨'n', 1⟩, ⟨'u', Duration.micro⟩, ⟨'m', Duration.milli⟩, ⟨'S', Duration.second⟩,
    ⟨'M', Duration.minute⟩, ⟨'H', Duration.hour⟩]

/-- The largest number of eight digits. -/
def maxTimeoutCount : Nat := 99999999

/-- The unit in which a length of time is written. -/
def timeoutUnit? (d : Duration) : Option TimeoutUnit :=
  timeoutUnits.find? fun u => d / u.length ≤ maxTimeoutCount

/-- A length of time as metadata carries it. -/
def timeoutText? (d : Duration) : Option String :=
  (timeoutUnit? d).map fun u =>
    String.ofList (Decimal.natDigits (d / u.length) ++ [u.letter])

/-! ## Defaults -/

/-- A message and its metadata. -/
structure Request (α : Type) where
  message : α
  metadata : Metadata := []
  deriving DecidableEq, Repr, Inhabited

/-- What every call over a connection begins with. -/
structure CallDefaults where
  unaryTimeout : Option Duration := none
  streamTimeout : Option Duration := none
  maxReceive : Option Nat := none
  metadata : Metadata := []
  deriving DecidableEq, Repr, Inhabited

namespace CallDefaults

/-- One more line for every call. -/
def withMetadata (d : CallDefaults) (key value : String) : Except MetadataError CallDefaults :=
  match Metadata.key? key with
  | none => .error (.invalidKey key)
  | some k =>
    if Metadata.isValue value then .ok { d with metadata := d.metadata ++ [(k, value)] }
    else .error (.invalidValue k)

/-- The lines for every call, one after the other. -/
def withAll (d : CallDefaults) : List (String × String) → Except MetadataError CallDefaults
  | [] => .ok d
  | (k, v) :: rest =>
    match d.withMetadata k v with
    | .ok d => d.withAll rest
    | .error e => .error e

/-- What the options of a dial ask for. -/
def ofOptions (o : DialOptions) : Except MetadataError CallDefaults :=
  withAll ⟨o.unaryTimeout, o.streamTimeout, o.maxReceive, []⟩ o.metadata.entries

/-- Metadata with the default lines that it has no line of the same name for. -/
def fill (d : CallDefaults) (m : Metadata) : Metadata :=
  d.metadata.foldl (fun m line => m.insertNew line.1 line.2) m

/-- Metadata with a timeout, unless it has one. A timeout that cannot be written ends the
program. -/
def withDeadline (timeout : Option Duration) (m : Metadata) : Outcome Status Metadata :=
  match timeout with
  | none => .ok m
  | some t =>
    if m.contains timeoutHeader then .ok m
    else
      match timeoutText? t with
      | some text => .ok (m ++ [(timeoutHeader, text)])
      | none => .aborted

/-- A request with what it leaves open filled in. -/
def apply {α : Type} (d : CallDefaults) (timeout : Option Duration) (r : Request α) :
    Outcome Status (Request α) :=
  (withDeadline timeout (d.fill r.metadata)).map fun m => { r with metadata := m }

/-- A unary request with what it leaves open filled in. -/
def unary {α : Type} (d : CallDefaults) (r : Request α) : Outcome Status (Request α) :=
  d.apply d.unaryTimeout r

/-- A streaming request with what it leaves open filled in. -/
def streaming {α : Type} (d : CallDefaults) (r : Request α) : Outcome Status (Request α) :=
  d.apply d.streamTimeout r

end CallDefaults

end SwitchTestbed.Rpc
