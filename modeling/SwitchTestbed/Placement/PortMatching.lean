import SwitchTestbed.Testbed

/-!
# Matching requested ports to ports of a device

* `PortMatching` : which request holds each port so far, and the ports marked during one search;
* `augment` : gives one more request a port, if need be by moving earlier ones;
* `matchPorts` : one port for every request, all different. Requests take the first free port that
  fits; an earlier one is moved only when a later one finds none.
-/

namespace SwitchTestbed.Placement

/-- Which request holds each port, and the ports marked during one search. -/
structure PortMatching where
  owner : Nat → Option Nat := fun _ => none
  marked : List Nat := []

namespace PortMatching

/-- The port is held by the request from now on. -/
def give (m : PortMatching) (port request : Nat) : PortMatching :=
  { m with owner := fun j => if j = port then some request else m.owner j }

/-- The port is not looked at again in this search. -/
def mark (m : PortMatching) (port : Nat) : PortMatching := { m with marked := port :: m.marked }

/-- No port is marked. -/
def unmarked (m : PortMatching) : PortMatching := { m with marked := [] }

end PortMatching

section Search

variable (fits : Nat → Nat → Bool) (ports : List Nat)

/-- The first free port that fits a request. -/
def freePort (m : PortMatching) (request : Nat) : Option Nat :=
  ports.find? fun j => (m.owner j).isNone && fits request j

/-- Goes through ports that fit a request and are not marked, marks each, and asks `move` for
another port for its holder. The first port whose holder could be moved goes to the request. -/
def displace (move : Nat → PortMatching → Bool × PortMatching) (request : Nat) :
    List Nat → PortMatching → Bool × PortMatching
  | [], m => (false, m)
  | j :: js, m =>
    if m.marked.contains j || !fits request j then displace move request js m
    else
      match m.owner j with
      | none => displace move request js (m.mark j)
      | some holder =>
        match move holder (m.mark j) with
        | (true, m) => (true, m.give j request)
        | (false, m) => displace move request js m

/-- Gives a request a port: a free one, or one whose holder can be moved, with at most `depth`
moves one inside the other. A move marks a port that was not marked, so the number of ports is
depth enough. -/
def augment : Nat → Nat → PortMatching → Bool × PortMatching
  | depth, request, m =>
    match freePort fits ports m request with
    | some j => (true, m.give j request)
    | none =>
      match depth with
      | 0 => (false, m)
      | depth + 1 => displace fits (augment depth) request ports m

/-- Gives the requests their ports one after the other. -/
def placeAll : List Nat → PortMatching → Option PortMatching
  | [], m => some m
  | i :: is, m =>
    match augment fits ports ports.length i m.unmarked with
    | (true, m) => placeAll is m
    | (false, _) => none

/-- The port that a request holds. -/
def portOf (m : PortMatching) (request : Nat) : Nat :=
  ((ports.filter fun j => m.owner j = some request).getLast?).getD 0

end Search

/-- Whether a port is good enough for a request. -/
def portFits (want : List PortRequirement) (ports : List Port) (i j : Nat) : Bool :=
  match want[i]?, ports[j]? with
  | some w, some h =>
    match w.speed with
    | some s => s = h.speed
    | none => true
  | _, _ => false

/-- The position of one port for every request, all different. -/
def matchPorts (want : List PortRequirement) (ports : List Port) : Option (List Nat) :=
  if ports.length < want.length then none
  else
    let requests := List.range want.length
    let positions := List.range ports.length
    (placeAll (portFits want ports) positions requests {}).map fun m =>
      requests.map (portOf positions m)

end SwitchTestbed.Placement
