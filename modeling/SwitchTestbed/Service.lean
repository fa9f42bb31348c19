import SwitchTestbed.Error
import SwitchTestbed.Time.Duration

/-!
# Where a device serves its protocols

* `ServiceEntry` : an address and an optional timeout;
* `ServiceRegistry` : at most one entry for each protocol (`get?_set_self`, `get?_set_of_ne`);
* `ServiceRegistry.address` : the address, or no text where there is no entry;
* `TimeoutPolicy` : the bounds of a dial and of the calls after it;
* `ServiceTarget` : a protocol, the address to dial and the bounds;
* `ServiceRegistry.target` : looks a protocol up. No entry and an empty address are both errors; no
  timeout and a timeout of zero both give two minutes.
-/

namespace SwitchTestbed

/-! ## Registries -/

/-- Where a protocol is served. -/
structure ServiceEntry where
  /-- Address to dial, such as "10.0.0.1:9339". -/
  address : String
  /-- Timeout of the service; none and zero both mean the default. -/
  timeout : Option Duration := none
  deriving DecidableEq, Repr, Inhabited

/-- The services of a device, at most one for each protocol. -/
structure ServiceRegistry where
  gnmi : Option ServiceEntry := none
  gnoi : Option ServiceEntry := none
  p4rt : Option ServiceEntry := none
  http : Option ServiceEntry := none
  console : Option ServiceEntry := none
  deriving DecidableEq, Repr, Inhabited

namespace ServiceRegistry

/-- The entry of a protocol. -/
def get? (r : ServiceRegistry) : Protocol → Option ServiceEntry
  | .gnmi => r.gnmi
  | .gnoi => r.gnoi
  | .p4rt => r.p4rt
  | .http => r.http
  | .console => r.console

/-- The registry with another entry for a protocol. -/
def set (r : ServiceRegistry) (p : Protocol) (e : ServiceEntry) : ServiceRegistry :=
  match p with
  | .gnmi => { r with gnmi := some e }
  | .gnoi => { r with gnoi := some e }
  | .p4rt => { r with p4rt := some e }
  | .http => { r with http := some e }
  | .console => { r with console := some e }

/-- Entries set one after the other: of two for one protocol the later stays. -/
def ofList (es : List (Protocol × ServiceEntry)) : ServiceRegistry :=
  es.foldl (fun r e => r.set e.1 e.2) {}

/-- All entries in the order of the protocols. -/
def toList (r : ServiceRegistry) : List (Protocol × ServiceEntry) :=
  Protocol.all.filterMap fun p => (r.get? p).map (p, ·)

/-- Number of entries. -/
def size (r : ServiceRegistry) : Nat := r.toList.length

/-- The registered address, or no text where there is none. -/
def address (r : ServiceRegistry) (p : Protocol) : String :=
  match r.get? p with
  | some e => e.address
  | none => ""

@[simp] theorem get?_set_self (r : ServiceRegistry) (p : Protocol) (e : ServiceEntry) :
    (r.set p e).get? p = some e := by
  cases p <;> rfl

theorem get?_set_of_ne (r : ServiceRegistry) {p q : Protocol} (e : ServiceEntry) (h : q ≠ p) :
    (r.set p e).get? q = r.get? q := by
  cases p <;> cases q <;> first | rfl | exact absurd rfl h

end ServiceRegistry

/-! ## Services ready to be dialed -/

/-- Timeout of a service that states none. -/
def defaultServiceTimeout : Duration := Duration.ofSeconds 120

/-- The bounds of a dial and of the calls after it. -/
structure TimeoutPolicy where
  /-- Bound on the whole dial. -/
  dial : Duration := defaultServiceTimeout
  /-- Deadline of unary calls without one of their own. -/
  unary : Duration := defaultServiceTimeout
  /-- Deadline of streaming calls without one of their own. -/
  stream : Duration := defaultServiceTimeout
  deriving DecidableEq, Repr, Inhabited

/-- The same bound for all. -/
def TimeoutPolicy.uniform (d : Duration) : TimeoutPolicy := ⟨d, d, d⟩

/-- A service ready to be dialed. -/
structure ServiceTarget where
  protocol : Protocol
  address : String
  timeouts : TimeoutPolicy := {}
  deriving DecidableEq, Repr, Inhabited

/-- The timeout of an entry, or the default where it states none or zero. -/
def ServiceEntry.effectiveTimeout (e : ServiceEntry) : Duration :=
  match e.timeout with
  | some d => if d = 0 then defaultServiceTimeout else d
  | none => defaultServiceTimeout

/-- The service of a protocol on the device of the given name. -/
def ServiceRegistry.target (r : ServiceRegistry) (device : String) (p : Protocol) :
    Except Error ServiceTarget :=
  match r.get? p with
  | some e =>
    if e.address.isEmpty then .error (.serviceNotRegistered p device)
    else .ok ⟨p, e.address, .uniform e.effectiveTimeout⟩
  | none => .error (.serviceNotRegistered p device)

end SwitchTestbed
