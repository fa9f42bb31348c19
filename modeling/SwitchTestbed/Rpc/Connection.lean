import SwitchTestbed.Error
import SwitchTestbed.Rpc.CallDefaults

/-!
# Connections

* `isAuthority` : whether an authority may name a host and a port. Neither of them is looked up or
  checked any further;
* `isAddress` : an authority, then perhaps a path, a query and a fragment (`isPath`, `isQuery`);
* `Connection` : what a dial gives: the address, the options, and what calls begin with if it
  carries calls at all;
* `Connection.channel` : a connection that carries calls; it is established by the first of them,
  so nothing is sent here;
* `Connection.defaults` : what calls over a connection begin with.
-/

namespace SwitchTestbed.Rpc

/-! ## Addresses to dial -/

/-- Whether a character ends an authority. -/
def endsAuthority (c : Char) : Bool := c = '/' || c = '?' || c = '#'

/-- The marks that an authority may contain beside letters and digits. -/
def authorityMarks : List Char := "-._~!$&'()*+,;=:@[]%".toList

/-- Whether a character may stand in an authority. -/
def isAuthorityChar (c : Char) : Bool := c.isAlphanum || authorityMarks.contains c

/-- The most colons in one part of an authority: those of an address of eight groups, and one
before the port. -/
def maxColons : Nat := 8

/-- What the scan of an authority has seen. User information ends with `@`, and an address in
brackets with the bracket; what stands in them is forgotten. -/
structure AuthorityScan where
  /-- Colons since the last `@` or bracket. -/
  colons : Nat := 0
  /-- A percent sign since the last `@` or bracket. -/
  percent : Bool := false
  opened : Bool := false
  closed : Bool := false
  /-- The last character was `@`. -/
  afterUser : Bool := false
  valid : Bool := true

/-- One character more. -/
def AuthorityScan.step (s : AuthorityScan) (c : Char) : AuthorityScan :=
  let s := { s with afterUser := c = '@' }
  if c = ':' then { s with colons := s.colons + 1, valid := s.valid && s.colons < maxColons }
  else if c = '%' then { s with percent := true }
  else if c = '[' then { s with opened := true, valid := s.valid && !s.percent && !s.opened }
  else if c = ']' then
    { s with closed := true, colons := 0, percent := false, valid := s.valid && s.opened && !s.closed }
  else if c = '@' then { s with colons := 0, percent := false }
  else s

/-- Whether the characters may name a host and a port. -/
def isAuthority (s : List Char) : Bool :=
  let scan := s.foldl AuthorityScan.step {}
  !s.isEmpty && s.all isAuthorityChar && scan.valid && scan.opened = scan.closed
    && scan.colons ≤ 1 && !scan.afterUser && !scan.percent

/-- Whether a code point lies between two others. -/
def between (low high : Nat) (c : Char) : Bool := low ≤ c.toNat && c.toNat ≤ high

/-- Whether a character may stand in a path. -/
def isPathChar (c : Char) : Bool :=
  c = '!' || c = '"' || between 0x24 0x3b c || c = '=' || between 0x40 0x5f c
    || between 0x61 0x7e c

/-- Whether a character may stand in a query. -/
def isQueryChar (c : Char) : Bool :=
  c = '!' || between 0x24 0x3b c || c = '=' || between 0x3f 0x7e c

/-- Whether the characters may be a query. -/
def isQuery (s : List Char) : Bool := (s.takeWhile (· ≠ '#')).all isQueryChar

/-- Whether the characters may be a path with a query. -/
def isPath (s : List Char) : Bool :=
  let path := s.takeWhile fun c => c ≠ '?' && c ≠ '#'
  path.all isPathChar &&
    match s.drop path.length with
    | '?' :: query => isQuery query
    | _ => true

/-- The most bytes of an address. -/
def maxAddressSize : Nat := 65527

/-- Whether an address can be dialed. -/
def isAddress (address : String) : Bool :=
  let s := address.toList
  let authority := s.takeWhile fun c => !endsAuthority c
  address.utf8ByteSize ≤ maxAddressSize && isAuthority authority && isPath (s.drop authority.length)

/-! ## Connections -/

/-- What a dial gives. -/
structure Connection where
  target : String
  options : DialOptions
  /-- What calls begin with, if the connection carries calls. -/
  calls : Option CallDefaults := none
  deriving DecidableEq, Repr, Inhabited

namespace Connection

/-- A connection that carries calls, unless its address, its user agent or its metadata cannot be
sent; they are looked at in this order. -/
def channel (target : String) (o : DialOptions) : Except Error Connection :=
  if !isAddress target then .error (.transport (.invalidAddress target))
  else if !(o.userAgent.all Metadata.isValue) then .error (.transport .invalidUserAgent)
  else
    match CallDefaults.ofOptions o with
    | .ok defaults => .ok ⟨target, o, some defaults⟩
    | .error e => .error (.transport (.metadata e))

/-- What calls over a connection begin with, if it carries any. -/
def defaults (c : Connection) : Except Error CallDefaults :=
  match c.calls with
  | some d => .ok d
  | none => .error (.unsupported (.notAChannel c.target))

end Connection

end SwitchTestbed.Rpc
