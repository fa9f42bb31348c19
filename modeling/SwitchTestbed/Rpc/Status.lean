import SwitchTestbed.Data.Outcome
import SwitchTestbed.Text.Basic

/-!
# How calls end

* `Code` : why a call failed, with its number;
* `Status` : a code and a message;
* `Trailers` : a code and a message, as they travel; `Trailers.status?` is the status that the
  caller makes of them, unless the call went well;
* `Exchange σ β` : a call that changes a state and answers with a `β` or a status;
* `Part.lift` : a step of a part of a state as a step of the whole.
-/

namespace SwitchTestbed.Rpc

/-! ## Statuses -/

/-- Why a call failed. -/
inductive Code where
  | ok
  | cancelled
  | unknown
  | invalidArgument
  | deadlineExceeded
  | notFound
  | alreadyExists
  | permissionDenied
  | resourceExhausted
  | failedPrecondition
  | aborted
  | outOfRange
  | unimplemented
  | internal
  | unavailable
  | dataLoss
  | unauthenticated
  deriving DecidableEq, Repr, Inhabited

namespace Code

/-- All codes by their numbers. -/
def all : List Code :=
  [ok, cancelled, unknown, invalidArgument, deadlineExceeded, notFound, alreadyExists,
    permissionDenied, resourceExhausted, failedPrecondition, aborted, outOfRange, unimplemented,
    internal, unavailable, dataLoss, unauthenticated]

/-- The code of a number; a number without a meaning of its own is `unknown`. -/
def ofNumber (n : Nat) : Code := all[n]?.getD unknown

/-- The name of a code. -/
def name : Code → String
  | ok => "Ok"
  | cancelled => "Cancelled"
  | unknown => "Unknown"
  | invalidArgument => "InvalidArgument"
  | deadlineExceeded => "DeadlineExceeded"
  | notFound => "NotFound"
  | alreadyExists => "AlreadyExists"
  | permissionDenied => "PermissionDenied"
  | resourceExhausted => "ResourceExhausted"
  | failedPrecondition => "FailedPrecondition"
  | aborted => "Aborted"
  | outOfRange => "OutOfRange"
  | unimplemented => "Unimplemented"
  | internal => "Internal"
  | unavailable => "Unavailable"
  | dataLoss => "DataLoss"
  | unauthenticated => "Unauthenticated"

end Code

/-- How a call failed. -/
structure Status where
  code : Code
  message : String
  deriving DecidableEq, Repr, Inhabited

/-! ## Trailers -/

/-- What the other side says at the end of a call. -/
structure Trailers where
  code : Code := .ok
  /-- Percent signs may introduce bytes. -/
  message : String := ""
  deriving DecidableEq, Repr, Inhabited

namespace Trailers

/-- The status for a message that is not UTF-8. -/
def unreadable (f : Text.Utf8Fault) : Status :=
  ⟨.unknown, "Error deserializing status message header: " ++ f.message⟩

/-- The status of a call that ended so, unless it went well. The message of a call that went well is
dropped, but it has to be readable. -/
def status? (t : Trailers) : Option Status :=
  match Text.utf8Text (Text.percentDecode t.message.toUTF8.toList) with
  | .error f => some (unreadable f)
  | .ok message => if t.code = .ok then none else some ⟨t.code, message⟩

end Trailers

/-! ## Calls as steps of a state -/

/-- A call that changes a state and has an answer. -/
abbrev Exchange (σ β : Type) := σ → σ × Outcome Status β

/-- A part of a state. -/
structure Part (σ ω : Type) where
  get : σ → ω
  put : ω → σ → σ

/-- The whole state as a part. -/
def Part.whole (σ : Type) : Part σ σ := ⟨id, fun w _ => w⟩

/-- A step of a part as a step of the whole. -/
def Part.lift {σ ω β : Type} (p : Part σ ω) (step : ω → ω × β) (s : σ) : σ × β :=
  let (w, b) := step (p.get s)
  (p.put w s, b)

end SwitchTestbed.Rpc
