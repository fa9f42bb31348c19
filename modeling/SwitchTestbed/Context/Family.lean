import SwitchTestbed.Context.Basic

/-!
# Families of contexts

A caller derives contexts from one another; giving one up gives all up that derive from it.

* `Member` : a deadline, and the tokens of a context and of all it derives from;
* `Family` : the contexts made so far and the tokens given up, each with its instant;
* `Family.context` : a member as a `Context`.
-/

namespace SwitchTestbed

/-- One of a family of contexts. -/
structure Member where
  deadline : Option Instant
  /-- The tokens whose end it shares, its own one first. -/
  tokens : List Nat
  deriving DecidableEq, Repr, Inhabited

/-- The contexts made so far. -/
structure Family where
  members : List Member := []
  /-- Number of tokens made so far. -/
  tokens : Nat := 0
  /-- The tokens given up and the instants of that, earliest first. -/
  ended : List (Nat × Instant) := []
  deriving DecidableEq, Repr, Inhabited

namespace Family

/-- The member of a number. -/
def member (f : Family) (i : Nat) : Member := (f.members[i]?).getD ⟨none, []⟩

/-- When a member is given up: when the first of its tokens is. -/
def cancelledAt (f : Family) (m : Member) : Option Instant :=
  (f.ended.find? fun e => m.tokens.contains e.1).map Prod.snd

/-- A member as a context. -/
def context (f : Family) (m : Member) : Context := ⟨m.deadline, f.cancelledAt m⟩

/-- One more member with a token of its own. -/
def add (f : Family) (deadline : Option Instant) (parents : List Nat) : Family :=
  { f with members := f.members ++ [⟨deadline, f.tokens :: parents⟩], tokens := f.tokens + 1 }

/-- A context that nothing bounds. -/
def background (f : Family) : Family := f.add none []

/-- The same context under another number; both share their end. -/
def clone (f : Family) (i : Nat) : Family := { f with members := f.members ++ [f.member i] }

/-- A context derived from a member by a tighter bound, if that can be told. -/
def derive (f : Family) (i : Nat) (bound : Context → Outcome Error Context) :
    Outcome Error Family :=
  (bound (f.context (f.member i))).map fun c => f.add c.deadline (f.member i).tokens

/-- A member is given up. -/
def cancel (f : Family) (i : Nat) (now : Instant) : Family :=
  match (f.member i).tokens with
  | token :: _ => { f with ended := f.ended ++ [(token, now)] }
  | [] => f

end Family

end SwitchTestbed
