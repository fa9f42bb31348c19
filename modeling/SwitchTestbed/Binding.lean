import SwitchTestbed.Backend
import SwitchTestbed.Reservation.Basic
import SwitchTestbed.Reservation.Dial

/-!
# Bindings

A binding holds the reservation that a test works with and hands the rest to its backend.

* `Binding σ` : the state of the backend and the reservation held;
* `Binding.reserve`, `Binding.release`, `Binding.fetchReservation` : the life of a reservation;
* `Binding.dial`, `Binding.resolve` : connections to any address, and the description of the
  reservation held.
-/

namespace SwitchTestbed

open Rpc

/-- The state of a backend and the reservation held. -/
structure Binding (σ : Type) where
  backend : σ
  held : Option Reservation := none
  deriving DecidableEq, Inhabited

namespace Binding

variable {σ τ : Type}

/-- The binding that a configuration asks for. -/
def ofConfig {ω : Type} (c : Config) (clients : ω) : Except Error (Binding (Stock ω)) :=
  (Stock.ofConfig c clients).map (⟨·, none⟩)

/-- Holds the devices that the backend grants. Which device serves which requirement is not for
the caller to say. A topology that makes no reservation is given back. -/
def reserve (B : Backend σ τ) (c : Context) (now : Instant) (fixed : StringMap String)
    (d : Demand) (b : Binding σ) : Binding σ × Outcome Error Reservation :=
  if !fixed.isEmpty then (b, .error .partialReservation)
  else if c.isCancelled now then (b, .error .cancelled)
  else
    match B.reserve c now d b.backend with
    | (s, .ok t) =>
      match Reservation.ofTopology t with
      | .ok r => (⟨s, some r⟩, .ok r)
      | .error e => ({ b with backend := (B.release s).1 }, .error e)
    | (s, .error e) => ({ b with backend := s }, .error e)
    | (s, .aborted) => ({ b with backend := s }, .aborted)

/-- Gives the devices back. -/
def release (B : Backend σ τ) (c : Context) (now : Instant) (b : Binding σ) :
    Binding σ × Except Error Unit :=
  if c.isCancelled now then (b, .error .cancelled)
  else
    match B.release b.backend with
    | (s, .ok ()) => (⟨s, none⟩, .ok ())
    | (s, .error e) => ({ b with backend := s }, .error e)

/-- Reservations made elsewhere cannot be taken over. -/
def fetchReservation (_id : String) : Except Error Reservation :=
  .error (.unsupported .fetchReservation)

/-- Dials an address as it is. -/
def dial (B : Backend σ τ) (c : Context) (now : Instant) (address : String) (o : DialOptions)
    (b : Binding σ) : Binding σ × Instant × Except Error Connection :=
  let (s, r) := c.perform now (B.dial address o) b.backend
  ({ b with backend := s }, r)

/-- What is published about the reservation held. -/
def resolve (b : Binding σ) : Except Error ResolvedReservation :=
  match b.held with
  | some r => r.resolve
  | none => .error .noReservation

/-- The switch of an identifier, if it is held. -/
def dut? (b : Binding σ) (id : String) : Option Dut := b.held.bind fun r => r.duts.get? id

/-- The traffic generator of an identifier, if it is held. -/
def ate? (b : Binding σ) (id : String) : Option Ate := b.held.bind fun r => r.ates.get? id

end Binding

end SwitchTestbed
