import SwitchTestbed.Proofs.Rpc.CallDefaults
import SwitchTestbed.Remote.Channel

/-!
# What a channel sends

* `Carried` : the lines of a call that tell its timeout, as the peer sees them. A call whose own
  lines give the name of that line to one connection only arrives without it
  (`Channel.carried_head`);
* `Channel.call_begun`, `Channel.read_begun` : a call that can begin is made once;
* `Channel.call_aborted`, `Channel.read_aborted` : one that cannot changes nothing.
-/

namespace SwitchTestbed.Remote

open Rpc

/-! ## Heads -/

/-- The names that a call gives to one connection only. -/
def namedWith (given : StringMap String) (m : Metadata) : List String :=
  Metadata.connectionNames
    ((begunWith given m Metadata.connectionHeader).map (Metadata.connectionHeader, ·))

/-- The lines that tell a peer the timeout of a call with a bound. -/
structure Carried (given : StringMap String) (bound : Duration) (m : Metadata)
    (lines : List String) : Prop where
  kept : timeoutHeader ∉ namedWith given m → TimeoutLines given bound m lines
  dropped : timeoutHeader ∈ namedWith given m → lines = []

theorem connectionNames_eq_namedWith {given : StringMap String} {m m' : Metadata}
    (h : m'.values Metadata.connectionHeader = begunWith given m Metadata.connectionHeader) :
    m'.connectionNames = namedWith given m := by
  refine Metadata.connectionNames_congr ?_
  rw [h, Metadata.values_map]

namespace Channel

variable (c : Channel)

theorem values_head (m : Metadata) : (c.head m).metadata.values timeoutHeader =
    if timeoutHeader ∈ m.connectionNames then [] else m.values timeoutHeader := by
  let sent : Metadata := m.filter fun line => !reservedHeaders.contains line.1
  have hsent : ∀ name, sent.values name =
      if !reservedHeaders.contains name then m.values name else [] :=
    fun name => m.values_filter name fun key => !reservedHeaders.contains key
  have hnames : sent.connectionNames = m.connectionNames :=
    Metadata.connectionNames_congr (hsent Metadata.connectionHeader)
  have htimeout : sent.values timeoutHeader = m.values timeoutHeader := hsent timeoutHeader
  have hkept : Metadata.connectionHeaders.contains timeoutHeader = false := by decide
  show sent.withoutConnection.values timeoutHeader = _
  rw [Metadata.values_withoutConnection, hnames, htimeout, hkept]
  by_cases hnamed : timeoutHeader ∈ m.connectionNames <;> simp [hnamed]

/-- **What a call tells of its timeout arrives**, unless the call gives it to one connection
only. -/
theorem carried_head {given : StringMap String} {bound : Duration} {m m' : Metadata}
    (htimeout : TimeoutLines given bound m (m'.values timeoutHeader))
    (hothers : ∀ name, name ≠ timeoutHeader → m'.values name = begunWith given m name) :
    Carried given bound m ((c.head m').metadata.values timeoutHeader) := by
  have hnamed := connectionNames_eq_namedWith (hothers Metadata.connectionHeader (by decide))
  rw [c.values_head, hnamed]
  constructor
  · intro hkept
    rwa [if_neg hkept]
  · intro hdropped
    rw [if_pos hdropped]

/-! ## Calls -/

variable {ω κ : Type} {c} (peer : Peer ω κ)

theorem ofExcept_ne_aborted {ε α : Type} (r : Except ε α) : Outcome.ofExcept r ≠ .aborted := by
  cases r <;> nofun

theorem call_begun {α β : Type} {u : Unary α β} {q q' : Request α}
    (h : c.defaults.begun .unary q = .ok q') (w : ω) :
    (c.call peer u q w).1 = (peer.unary u (c.head q'.metadata) q'.message w).1 ∧
      (c.call peer u q w).2 ≠ .aborted := by
  have hunary : c.defaults.unary q = .ok q' := h
  unfold call
  rw [hunary]
  exact ⟨rfl, ofExcept_ne_aborted _⟩

theorem call_aborted {α β : Type} {u : Unary α β} {q : Request α}
    (h : c.defaults.begun .unary q = .aborted) (w : ω) : c.call peer u q w = (w, .aborted) := by
  have hunary : c.defaults.unary q = .aborted := h
  unfold call
  rw [hunary]

theorem read_begun {q q' : Request P4Runtime.ReadRequest}
    (h : c.defaults.begun .streaming q = .ok q') (w : ω) :
    (c.read peer q w).1 = (peer.read (c.head q'.metadata) q'.message w).1 ∧
      (c.read peer q w).2 ≠ .aborted := by
  have hstreaming : c.defaults.streaming q = .ok q' := h
  unfold read
  rw [hstreaming]
  exact ⟨rfl, ofExcept_ne_aborted _⟩

theorem read_aborted {q : Request P4Runtime.ReadRequest}
    (h : c.defaults.begun .streaming q = .aborted) (w : ω) : c.read peer q w = (w, .aborted) := by
  have hstreaming : c.defaults.streaming q = .aborted := h
  unfold read
  rw [hstreaming]

end Channel

end SwitchTestbed.Remote
