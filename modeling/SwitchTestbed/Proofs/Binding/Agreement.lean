import Mathlib.Data.List.Forall2
import SwitchTestbed.Proofs.Binding.Lifecycle

/-!
# Agreement of a binding with its pool

* `Binding.Agrees` : the binding holds a reservation exactly if the pool has one in force, and under
  the same identifier; every run keeps it (`Binding.agrees_run`);
* `Answer.unnamed` : an answer without identifiers and ends of reservations;
* `Stock.Alike`, `Call.Alike` : stocks and calls that differ in no more than such; so do the answers
  (`Binding.call_alike`, `Binding.run_alike`);
* `held_agrees_with_pool` : the main result.
-/

namespace SwitchTestbed

variable {ω τ : Type}

/-- A binding over an inventory, before any call. -/
def Binding.fresh (inv : Inventory) (clients : ω) : Binding (Stock ω) := ⟨⟨⟨inv, none⟩, clients⟩, none⟩

/-! ## The invariant -/

namespace Binding

/-- The binding holds a reservation exactly if the pool has one in force, and under the same
identifier. -/
def Agrees (b : Binding (Stock ω)) : Prop :=
  b.held.map Reservation.id = b.backend.pool.active.map ActiveReservation.id

/-- What calls do not change: the inventory and the clients. -/
def Over (inv : Inventory) (clients : ω) (b : Binding (Stock ω)) : Prop :=
  b.backend.pool.inventory = inv ∧ b.backend.clients = clients

theorem fresh_agrees (inv : Inventory) (clients : ω) : (fresh inv clients).Agrees := rfl

theorem fresh_over (inv : Inventory) (clients : ω) : (fresh inv clients).Over inv clients :=
  ⟨rfl, rfl⟩

section Invariant

variable (S : Stubs ω τ) (connect : String → Work (Except String Console))

/-- **One call keeps the agreement.** -/
theorem agrees_call {b : Binding (Stock ω)} (x : Call) (h : b.Agrees) :
    (b.call (inventoryBackend S connect) x).1.Agrees := by
  rcases call_cases S connect b x with
    ⟨t, used, r, -, hr, heq⟩ | ⟨a, -, heq⟩ | ⟨e, heq⟩ | heq
  · rw [heq]
    exact congrArg some (Reservation.ofTopology_ok hr).1
  · rw [heq]
    rfl
  · rw [heq]
    exact h
  · rw [heq]
    exact h

theorem agrees_run {b : Binding (Stock ω)} (h : b.Agrees) (xs : List Call) :
    (b.run (inventoryBackend S connect) xs).1.Agrees :=
  run_induction (fun _ x hb => agrees_call S connect x hb) h xs

/-- One call keeps the inventory and the clients. -/
theorem over_call {inv : Inventory} {clients : ω} {b : Binding (Stock ω)} (x : Call)
    (h : b.Over inv clients) : (b.call (inventoryBackend S connect) x).1.Over inv clients := by
  rcases call_cases S connect b x with
    ⟨t, used, r, -, -, heq⟩ | ⟨a, -, heq⟩ | ⟨e, heq⟩ | heq <;> rw [heq] <;> exact h

theorem over_run {inv : Inventory} {clients : ω} {b : Binding (Stock ω)}
    (h : b.Over inv clients) (xs : List Call) :
    (b.run (inventoryBackend S connect) xs).1.Over inv clients :=
  run_induction (fun _ x hb => over_call S connect x hb) h xs

/-- A release that succeeds restores the first state. -/
theorem release_restores {inv : Inventory} {clients : ω} {b : Binding (Stock ω)} {c : Context}
    {now : Instant} (hover : b.Over inv clients)
    (h : (b.release (inventoryBackend S connect) c now).2 = .ok ()) :
    (b.release (inventoryBackend S connect) c now).1 = fresh inv clients := by
  obtain ⟨rfl, rfl⟩ := hover
  rcases release_cases S connect b c now with ⟨a, -, heq⟩ | ⟨e, heq⟩
  · rw [heq]
    rfl
  · rw [heq] at h
    cases h

end Invariant

end Binding

/-! ## Identifiers and times aside -/

/-- An answer without identifiers and ends of reservations. -/
def Answer.unnamed (a : Answer) : Answer :=
  (a.map fun r => r.map Reservation.unnamed).mapError Error.unnamed

/-- Calls of one kind that differ in contexts, times and identifiers at most, of which either has
given up or neither has. -/
inductive Call.Alike : Call → Call → Prop where
  | reserve {c c' : Context} {now now' : Instant} {d d' : Demand} (fixed : StringMap String)
      (cancelled : c.isCancelled now = c'.isCancelled now') (testbed : d.testbed = d'.testbed)
      (ends : expiry d.today d.runtime ≠ .aborted) (ends' : expiry d'.today d'.runtime ≠ .aborted) :
      Alike (.reserve c now fixed d) (.reserve c' now' fixed d')
  | release {c c' : Context} {now now' : Instant}
      (cancelled : c.isCancelled now = c'.isCancelled now') :
      Alike (.release c now) (.release c' now')

/-- Two stocks with the same devices, of which either has a reservation in force or neither. -/
structure Stock.Alike (s s' : Stock ω) : Prop where
  inventory : s.pool.inventory = s'.pool.inventory
  active : s.pool.active.isSome = s'.pool.active.isSome

theorem Stock.Alike.active_cases {s s' : Stock ω} (h : s.Alike s') :
    (s.pool.active = none ∧ s'.pool.active = none) ∨
      ∃ a a', s.pool.active = some a ∧ s'.pool.active = some a' := by
  have hactive := h.active
  cases ha : s.pool.active with
  | none => exact Or.inl ⟨rfl, by simpa [ha] using hactive.symm⟩
  | some a =>
    obtain ⟨a', ha'⟩ : ∃ a', s'.pool.active = some a' :=
      Option.isSome_iff_exists.mp (by rw [← hactive, ha]; rfl)
    exact Or.inr ⟨a, a', rfl, ha'⟩

theorem Stock.Alike.withActive {s s' : Stock ω} (h : s.Alike s') {a a' : Option ActiveReservation}
    (ha : a.isSome = a'.isSome) : (s.withActive a).Alike (s'.withActive a') where
  inventory := h.inventory
  active := ha

section Simulation

variable (S : Stubs ω τ) (connect : String → Work (Except String Console))

/-- Alike stocks grant the same devices, or refuse alike. -/
theorem stock_reserve_alike {s s' : Stock ω} {c c' : Context} {now now' : Instant} {d d' : Demand}
    (h : s.Alike s') (hcancelled : c.isCancelled now = c'.isCancelled now')
    (htestbed : d.testbed = d'.testbed) (hends : expiry d.today d.runtime ≠ .aborted)
    (hends' : expiry d'.today d'.runtime ≠ .aborted) :
    (∃ duts ates used expiresAt expiresAt',
      (inventoryBackend S connect).reserve c now d s =
        (s.withActive (some ⟨d.freshId, used⟩), .ok ⟨d.freshId, duts, ates, expiresAt⟩) ∧
      (inventoryBackend S connect).reserve c' now' d' s' =
        (s'.withActive (some ⟨d'.freshId, used⟩), .ok ⟨d'.freshId, duts, ates, expiresAt'⟩)) ∨
    ∃ e e', e.unnamed = e'.unnamed ∧
      (inventoryBackend S connect).reserve c now d s = (s, .error e) ∧
      (inventoryBackend S connect).reserve c' now' d' s' = (s', .error e') := by
  simp only [inventoryBackend, hcancelled]
  cases c'.isCancelled now' with
  | true => exact Or.inr ⟨_, _, rfl, rfl, rfl⟩
  | false =>
    rcases h.active_cases with ⟨ha, ha'⟩ | ⟨a, a', ha, ha'⟩
    · have hsame : s'.pool.place d'.testbed = s.pool.place d.testbed := by
        rw [Pool.place_eq, Pool.place_eq, h.inventory, htestbed]
      cases hplace : s.pool.place d.testbed with
      | error e =>
        rw [Pool.reserve_unplaced ha hplace, Pool.reserve_unplaced ha' (hsame.trans hplace)]
        exact Or.inr ⟨_, _, rfl, rfl, rfl⟩
      | ok r =>
        obtain ⟨duts, ates, used⟩ := r
        obtain ⟨expiresAt, hexp⟩ := Pool.exists_expiry hends
        obtain ⟨expiresAt', hexp'⟩ := Pool.exists_expiry hends'
        rw [Pool.reserve_placed ha hplace hexp, Pool.reserve_placed ha' (hsame.trans hplace) hexp']
        exact Or.inl ⟨duts, ates, used, expiresAt, expiresAt', rfl, rfl⟩
    · rw [Pool.reserve_active ha, Pool.reserve_active ha']
      exact Or.inr ⟨.allocation (.stillActive a.id), .allocation (.stillActive a'.id), rfl, rfl, rfl⟩

namespace Binding

/-- Asked alike, bindings over alike stocks answer alike. -/
theorem reserve_alike {b b' : Binding (Stock ω)} {c c' : Context} {now now' : Instant}
    {d d' : Demand} (fixed : StringMap String) (h : b.backend.Alike b'.backend)
    (hcancelled : c.isCancelled now = c'.isCancelled now') (htestbed : d.testbed = d'.testbed)
    (hends : expiry d.today d.runtime ≠ .aborted)
    (hends' : expiry d'.today d'.runtime ≠ .aborted) :
    (b.reserve (inventoryBackend S connect) c now fixed d).1.backend.Alike
        (b'.reserve (inventoryBackend S connect) c' now' fixed d').1.backend ∧
      Answer.unnamed ((b.reserve (inventoryBackend S connect) c now fixed d).2.map some) =
        Answer.unnamed ((b'.reserve (inventoryBackend S connect) c' now' fixed d').2.map some) := by
  cases hfixed : fixed.isEmpty with
  | false =>
    rw [reserve_fixed hfixed, reserve_fixed hfixed]
    exact ⟨h, rfl⟩
  | true =>
    cases hlive : c.isCancelled now with
    | true =>
      rw [reserve_cancelled hfixed hlive, reserve_cancelled hfixed (hcancelled.symm.trans hlive)]
      exact ⟨h, rfl⟩
    | false =>
      have hlive' := hcancelled.symm.trans hlive
      rcases stock_reserve_alike S connect h hcancelled htestbed hends hends' with
        ⟨duts, ates, used, expiresAt, expiresAt', heq, heq'⟩ | ⟨e, e', he, heq, heq'⟩
      · -- both have granted the same devices, which decide whether they make a reservation
        rcases Reservation.ofTopology_alike d.freshId d'.freshId duts ates expiresAt expiresAt' with
          ⟨r, r', hr, hr', hsame⟩ | ⟨e, hr, hr'⟩
        · rw [reserve_granted hfixed hlive heq hr, reserve_granted hfixed hlive' heq' hr']
          exact ⟨h.withActive rfl, congrArg (Outcome.ok ∘ some) hsame⟩
        · rw [reserve_rejected hfixed hlive heq hr, reserve_rejected hfixed hlive' heq' hr',
            release_of_active S connect (Stock.withActive_pool_active _ _),
            release_of_active S connect (Stock.withActive_pool_active _ _)]
          exact ⟨(h.withActive rfl).withActive rfl, rfl⟩
      · rw [reserve_refused hfixed hlive heq, reserve_refused hfixed hlive' heq']
        exact ⟨h, congrArg Outcome.error he⟩

theorem release_alike {b b' : Binding (Stock ω)} {c c' : Context} {now now' : Instant}
    (h : b.backend.Alike b'.backend) (hcancelled : c.isCancelled now = c'.isCancelled now') :
    (b.release (inventoryBackend S connect) c now).1.backend.Alike
        (b'.release (inventoryBackend S connect) c' now').1.backend ∧
      (b.release (inventoryBackend S connect) c now).2 =
        (b'.release (inventoryBackend S connect) c' now').2 := by
  cases hlive : c.isCancelled now with
  | true =>
    rw [release_cancelled hlive, release_cancelled (hcancelled.symm.trans hlive)]
    exact ⟨h, rfl⟩
  | false =>
    have hlive' := hcancelled.symm.trans hlive
    rcases h.active_cases with ⟨ha, ha'⟩ | ⟨a, a', ha, ha'⟩
    · rw [release_refused hlive (release_of_free S connect ha),
        release_refused hlive' (release_of_free S connect ha')]
      exact ⟨h, rfl⟩
    · rw [release_done hlive (release_of_active S connect ha),
        release_done hlive' (release_of_active S connect ha')]
      exact ⟨h.withActive rfl, rfl⟩

/-- **Alike calls keep bindings alike**, and are answered alike. -/
theorem call_alike {b b' : Binding (Stock ω)} {x x' : Call} (h : b.backend.Alike b'.backend)
    (hx : x.Alike x') :
    (b.call (inventoryBackend S connect) x).1.backend.Alike
        (b'.call (inventoryBackend S connect) x').1.backend ∧
      (b.call (inventoryBackend S connect) x).2.unnamed =
        (b'.call (inventoryBackend S connect) x').2.unnamed := by
  cases hx with
  | reserve fixed cancelled testbed ends ends' =>
    exact reserve_alike S connect fixed h cancelled testbed ends ends'
  | release cancelled =>
    obtain ⟨hstock, hanswer⟩ := release_alike S connect h cancelled
    refine ⟨hstock, ?_⟩
    simp only [call]
    rw [hanswer]

theorem run_alike {b b' : Binding (Stock ω)} {xs xs' : List Call}
    (h : b.backend.Alike b'.backend) (hxs : List.Forall₂ Call.Alike xs xs') :
    (b.run (inventoryBackend S connect) xs).2.map Answer.unnamed =
      (b'.run (inventoryBackend S connect) xs').2.map Answer.unnamed := by
  induction hxs generalizing b b' with
  | nil => rfl
  | cons hx _ ih =>
    obtain ⟨hstock, hanswer⟩ := call_alike S connect h hx
    rw [run_cons, run_cons, List.map_cons, List.map_cons, hanswer, ih hstock]

end Binding

/-- **A binding and its pool agree.** After any run the binding holds a reservation exactly if the
pool has one in force, and under the same identifier. A release that succeeds restores the first
state, from which the same testbeds are answered with the same devices. -/
theorem held_agrees_with_pool (inv : Inventory) (clients : ω) (xs : List Call) :
    let b := ((Binding.fresh inv clients).run (inventoryBackend S connect) xs).1
    b.held.map Reservation.id = b.backend.pool.active.map ActiveReservation.id ∧
    ∀ c now, (b.release (inventoryBackend S connect) c now).2 = .ok () →
      (b.release (inventoryBackend S connect) c now).1 = Binding.fresh inv clients ∧
      ∀ later later', List.Forall₂ Call.Alike later later' →
        ((b.release (inventoryBackend S connect) c now).1.run (inventoryBackend S connect)
            later).2.map Answer.unnamed =
          ((Binding.fresh inv clients).run (inventoryBackend S connect) later').2.map
            Answer.unnamed := by
  intro b
  have hagrees : b.Agrees := Binding.agrees_run S connect (Binding.fresh_agrees inv clients) xs
  have hover : b.Over inv clients := Binding.over_run S connect (Binding.fresh_over inv clients) xs
  refine ⟨hagrees, fun c now h => ?_⟩
  have hfresh := Binding.release_restores S connect hover h
  refine ⟨hfresh, fun later later' hlater => ?_⟩
  rw [hfresh]
  exact Binding.run_alike S connect ⟨rfl, rfl⟩ hlater

theorem held_agrees_with_pool_pair :
    let b := ((Binding.fresh rack ()).run silentBackend [.reserve {} 0 ∅ pairDemand]).1
    (b.release silentBackend {} 1).2 = .ok () ∧
    (b.release silentBackend {} 1).1 = Binding.fresh rack () ∧
    ((b.release silentBackend {} 1).1.run silentBackend
        [.reserve {} 2 ∅ { pairDemand with freshId := "r2" }]).2.map Answer.unnamed =
      ((Binding.fresh rack ()).run silentBackend
        [.reserve {} 0 ∅ pairDemand]).2.map Answer.unnamed := by
  intro b
  have hrack : silentBackend.reserve {} 0 pairDemand (Binding.fresh rack ()).backend =
      (⟨⟨rack, some ⟨"r1", ["s1", "s2", "g1"]⟩⟩, ()⟩, .ok ⟨"r1", pairDuts, pairAtes, none⟩) :=
    stock_reserve_placed .unsupported _ rfl rfl (rack_place none) rfl
  have hheld : b.backend.pool.active = some ⟨"r1", ["s1", "s2", "g1"]⟩ := by
    simp only [b, Binding.run_cons, Binding.call]
    rw [Binding.reserve_granted rfl rfl hrack rfl]
    rfl
  have hdone : (b.release silentBackend {} 1).2 = .ok () :=
    congrArg Prod.snd (Binding.release_done rfl (release_of_active .unsupported _ hheld))
  obtain ⟨-, hrelease⟩ := held_agrees_with_pool .unsupported noConsoles
    rack () [.reserve {} 0 ∅ pairDemand]
  obtain ⟨hfresh, hlater⟩ := hrelease {} 1 hdone
  exact ⟨hdone, hfresh, hlater _ _ (.cons (.reserve ∅ rfl rfl (by decide) (by decide)) .nil)⟩

end Simulation

end SwitchTestbed
