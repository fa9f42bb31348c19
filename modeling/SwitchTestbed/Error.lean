import SwitchTestbed.Device
import SwitchTestbed.Document.Shape
import SwitchTestbed.Protocol
import SwitchTestbed.Rpc.Metadata
import SwitchTestbed.Text.Basic

/-!
# Errors

* `AllocationError`, `TransportError`, `ResolutionError`, `ConfigError`, `Unsupported` : the causes
  of the errors that have more than one;
* `Error` : what can go wrong while devices are reserved, dialed or described;
* `Error.message` : its text; `Error.sources` : the errors it wraps, outermost first.
-/

namespace SwitchTestbed

/-! ## Causes -/

/-- Why no topology is granted. -/
inductive AllocationError where
  /-- Another reservation has not been released. -/
  | stillActive (id : String)
  /-- No free device of the role fits the requirement. -/
  | noDevice (role : Role) (requirement : String)
  /-- Each requirement of the role is fitted by some device, but not all at the same time. -/
  | notTogether (role : Role) (count : Nat)
  /-- A granted topology has two devices of one identifier. -/
  | returnedTwice (role : Role) (id : String)
  /-- A reason stated by the owner of the devices. -/
  | stated (reason : String)
  deriving DecidableEq, Repr, Inhabited

/-- Why something could not be sent. -/
inductive TransportError where
  | invalidAddress (address : String)
  | invalidUserAgent
  | metadata (cause : Rpc.MetadataError)
  | refused (address : String)
  | console (address reason : String)
  | requestFailed (url : String)
  | stated (reason : String)
  deriving DecidableEq, Repr, Inhabited

/-- Why a reservation could not be described. -/
inductive ResolutionError where
  | keyMismatch (key id : String)
  | stated (reason : String)
  deriving DecidableEq, Repr, Inhabited

/-- Why a file could not be read as text. -/
inductive FileError where
  | notFound
  | notUtf8
  deriving DecidableEq, Repr, Inhabited

/-- Why a TOML text gives no configuration. -/
inductive TomlError where
  /-- The text is not TOML. -/
  | malformed
  /-- The text is TOML of another shape. -/
  | shape (cause : ShapeError)
  deriving DecidableEq, Repr, Inhabited

/-- What is wrong with a configuration. -/
inductive ConfigError where
  | file (path : String) (cause : FileError)
  | toml (cause : TomlError)
  | duplicateId (id : String)
  | duplicateName (name : String)
  | emptyAddress (device : String) (protocol : Protocol)
  | stated (reason : String)
  deriving DecidableEq, Repr, Inhabited

/-- What is not supported. -/
inductive Unsupported where
  | fetchReservation
  | gnmiClient
  | gnoiClients
  | p4rtClient
  | dialConsole
  /-- The connection carries no calls. -/
  | notAChannel (target : String)
  | stated (what : String)
  deriving DecidableEq, Repr, Inhabited

/-- What can go wrong while devices are reserved, dialed or described. -/
inductive Error where
  | allocation (cause : AllocationError)
  | partialReservation
  | serviceNotRegistered (protocol : Protocol) (device : String)
  | dial (protocol : Protocol) (device : String) (source : Error)
  | transport (cause : TransportError)
  | timeout
  | cancelled
  | resolution (cause : ResolutionError)
  | noReservation
  | unknownBackend (name : String)
  | config (cause : ConfigError)
  | unsupported (what : Unsupported)
  | internal (reason : String)
  deriving DecidableEq, Repr, Inhabited

/-! ## Texts -/

/-- The text of a cause. -/
def AllocationError.message : AllocationError → String
  | stillActive id => "reservation " ++ id ++ " is still active"
  | noDevice role requirement =>
    "no free inventory device satisfies " ++ role.title ++ " " ++ Text.quote requirement
  | notTogether role count =>
    "free inventory devices cannot satisfy all " ++ toString count ++ " " ++ role.title
      ++ " requirements together"
  | returnedTwice role id =>
    "backend returned " ++ role.acronym ++ " " ++ Text.quote id ++ " twice"
  | stated reason => reason

/-- The text of a cause. -/
def TransportError.message : TransportError → String
  | invalidAddress address => "invalid address " ++ Text.quote address ++ ": invalid URI"
  | invalidUserAgent => "invalid user agent: user agent is not a valid header value"
  | metadata cause => cause.message
  | refused address => "connection refused: " ++ address
  | console address reason => "console " ++ address ++ ": " ++ reason
  | requestFailed url => "error sending request for url (" ++ url ++ ")"
  | stated reason => reason

/-- The text of a cause. -/
def ResolutionError.message : ResolutionError → String
  | keyMismatch key id => "device keyed " ++ Text.quote key ++ " has id " ++ Text.quote id
  | stated reason => reason

/-- The text of a cause. -/
def FileError.message : FileError → String
  | notFound => "No such file or directory (os error 2)"
  | notUtf8 => "stream did not contain valid UTF-8"

/-- The text of a cause. A name in it stands as it is, so that it may break the line; what follows
is left out. -/
def TomlError.message : TomlError → String
  | malformed => "TOML syntax error"
  | shape .variantTable => "TOML syntax error"
  | shape cause => "TOML: " ++ String.ofList (Text.firstLine cause.message.toList)

/-- The text of a cause. -/
def ConfigError.message : ConfigError → String
  | file path cause => path ++ ": " ++ cause.message
  | toml cause => cause.message
  | duplicateId id => "duplicate inventory device id " ++ Text.quote id
  | duplicateName name => "duplicate inventory device name " ++ Text.quote name
  | emptyAddress device protocol =>
    "device " ++ Text.quote device ++ ": " ++ protocol.name ++ " service has an empty address"
  | stated reason => reason

/-- The text of a cause. -/
def Unsupported.message : Unsupported → String
  | fetchReservation => "fetch_reservation"
  | gnmiClient => "gnmi_client"
  | gnoiClients => "gnoi_clients"
  | p4rtClient => "p4rt_client"
  | dialConsole => "dial_console"
  | notAChannel target => "connection to " ++ target ++ " is not a tonic channel"
  | stated what => what

namespace Error

/-- The text of an error. -/
def message : Error → String
  | allocation cause => "Failed to reserve topology: " ++ cause.message
  | partialReservation => "Reserve does not yet support partial mappings"
  | serviceNotRegistered protocol device =>
    protocol.name ++ " service not registered on DUT " ++ Text.quote device
  | dial protocol device source =>
    "Dial for " ++ protocol.name ++ " on DUT " ++ Text.quote device ++ " failed: " ++ source.message
  | transport cause => "Transport error: " ++ cause.message
  | timeout => "Operation timed out"
  | cancelled => "Operation cancelled"
  | resolution cause => "Resolution failed: " ++ cause.message
  | noReservation => "No active reservation"
  | unknownBackend name => "Unknown backend type: " ++ Text.quote name
  | config cause => "Configuration error: " ++ cause.message
  | unsupported what => "Operation not supported: " ++ what.message
  | internal reason => "Internal error: " ++ reason

/-- The errors that an error wraps, outermost first. -/
def sources : Error → List Error
  | dial _ _ source => source :: source.sources
  | _ => []

end Error

end SwitchTestbed
