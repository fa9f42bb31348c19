import SwitchTestbed.Proofs.Binding.Calls
import SwitchTestbed.Proofs.Pool
import SwitchTestbed.Proofs.Reservation

/-!
# A binding over a pool

* `Stock.withActive` : a stock with another reservation in force;
* `Binding.reserve_cases`, `Binding.release_cases`, `Binding.call_cases` : all that a call can do;
* `Binding.call_failed` : a call that does not succeed changes nothing;
* `Binding.reserve_repeated` : a testbed that names two devices alike is never granted;
* `failed_call_leaves_no_trace` : the main result.
-/

namespace SwitchTestbed

variable {ω τ : Type}

/-! ## The reservation in force -/

namespace Stock

/-- The stock with another reservation in force, or none. -/
def withActive (s : Stock ω) (a : Option ActiveReservation) : Stock ω :=
  { s with pool := { s.pool with active := a } }

@[simp] theorem withActive_pool_active (s : Stock ω) (a : Option ActiveReservation) :
    (s.withActive a).pool.active = a := rfl

@[simp] theorem withActive_pool_inventory (s : Stock ω) (a : Option ActiveReservation) :
    (s.withActive a).pool.inventory = s.pool.inventory := rfl

@[simp] theorem withActive_withActive (s : Stock ω) (a a' : Option ActiveReservation) :
    (s.withActive a).withActive a' = s.withActive a' := rfl

theorem withActive_self {s : Stock ω} {a : Option ActiveReservation} (h : s.pool.active = a) :
    s.withActive a = s := by
  subst h
  rfl

end Stock

section Backend

variable (S : Stubs ω τ) (connect : String → Work (Except String Console))

theorem release_of_active {s : Stock ω} {a : ActiveReservation} (h : s.pool.active = some a) :
    (inventoryBackend S connect).release s = (s.withActive none, .ok ()) := by
  simp only [inventoryBackend, Pool.release, h]
  rfl

theorem release_of_free {s : Stock ω} (h : s.pool.active = none) :
    (inventoryBackend S connect).release s = (s, .error .noReservation) := by
  simp only [inventoryBackend, Pool.release, h]

theorem stock_reserve_placed {c : Context} {now : Instant} {d : Demand} {s : Stock ω}
    {duts ates : List ReservedDevice} {used : List String} {expiresAt : Option Timestamp}
    (hlive : c.isCancelled now = false) (hfree : s.pool.active = none)
    (h : s.pool.place d.testbed = .ok (duts, ates, used))
    (hexp : expiry d.today d.runtime = .ok expiresAt) :
    (inventoryBackend S connect).reserve c now d s =
      (s.withActive (some ⟨d.freshId, used⟩), .ok ⟨d.freshId, duts, ates, expiresAt⟩) := by
  simp only [inventoryBackend, hlive]
  rw [Pool.reserve_placed hfree h hexp]
  rfl

/-- All that an attempt to reserve can do to a stock. -/
theorem stock_reserve_cases (c : Context) (now : Instant) (d : Demand) (s : Stock ω) :
    (∃ duts ates used expiresAt, s.pool.active = none ∧
      s.pool.place d.testbed = .ok (duts, ates, used) ∧
      (inventoryBackend S connect).reserve c now d s =
        (s.withActive (some ⟨d.freshId, used⟩), .ok ⟨d.freshId, duts, ates, expiresAt⟩)) ∨
    (∃ e, (inventoryBackend S connect).reserve c now d s = (s, .error e)) ∨
    (inventoryBackend S connect).reserve c now d s = (s, .aborted) := by
  simp only [inventoryBackend]
  rcases Pool.reserve_cases s.pool (c.isCancelled now) d with
    ⟨duts, ates, used, expiresAt, hfree, hplace, heq⟩ | ⟨e, heq⟩ | heq
  · rw [heq]
    exact Or.inl ⟨duts, ates, used, expiresAt, hfree, hplace, rfl⟩
  · rw [heq]
    exact Or.inr (Or.inl ⟨e, rfl⟩)
  · rw [heq]
    exact Or.inr (Or.inr rfl)

end Backend

namespace Binding

/-! ## What a call can do -/

section Cases

variable (S : Stubs ω τ) (connect : String → Work (Except String Console))

/-- **All that an attempt to reserve can do**: the binding holds what a free pool has granted, or
all is as before. A topology that makes no reservation was granted by a free pool, so that giving it
back restores the pool. -/
theorem reserve_cases (b : Binding (Stock ω)) (c : Context) (now : Instant)
    (fixed : StringMap String) (d : Demand) :
    (∃ duts ates used expiresAt r, b.backend.pool.active = none ∧
      b.backend.pool.place d.testbed = .ok (duts, ates, used) ∧
      Reservation.ofTopology ⟨d.freshId, duts, ates, expiresAt⟩ = .ok r ∧
      b.reserve (inventoryBackend S connect) c now fixed d =
        (⟨b.backend.withActive (some ⟨d.freshId, used⟩), some r⟩, .ok r)) ∨
    (∃ e, b.reserve (inventoryBackend S connect) c now fixed d = (b, .error e)) ∨
    b.reserve (inventoryBackend S connect) c now fixed d = (b, .aborted) := by
  cases hfixed : fixed.isEmpty with
  | false => exact Or.inr (Or.inl ⟨_, reserve_fixed hfixed⟩)
  | true =>
    cases hlive : c.isCancelled now with
    | true => exact Or.inr (Or.inl ⟨_, reserve_cancelled hfixed hlive⟩)
    | false =>
      rcases stock_reserve_cases S connect c now d b.backend with
        ⟨duts, ates, used, expiresAt, hfree, hplace, heq⟩ | ⟨e, heq⟩ | heq
      · cases hr : Reservation.ofTopology ⟨d.freshId, duts, ates, expiresAt⟩ with
        | ok r =>
          exact Or.inl ⟨duts, ates, used, expiresAt, r, hfree, hplace, hr,
            reserve_granted hfixed hlive heq hr⟩
        | error e =>
          refine Or.inr (Or.inl ⟨e, ?_⟩)
          rw [reserve_rejected hfixed hlive heq hr,
            release_of_active S connect (Stock.withActive_pool_active _ _),
            Stock.withActive_withActive, Stock.withActive_self hfree]
      · exact Or.inr (Or.inl ⟨e, reserve_refused hfixed hlive heq⟩)
      · exact Or.inr (Or.inr (reserve_aborted hfixed hlive heq))

/-- **All that a release can do.** -/
theorem release_cases (b : Binding (Stock ω)) (c : Context) (now : Instant) :
    (∃ a, b.backend.pool.active = some a ∧ b.release (inventoryBackend S connect) c now =
      (⟨b.backend.withActive none, none⟩, .ok ())) ∨
    ∃ e, b.release (inventoryBackend S connect) c now = (b, .error e) := by
  cases hlive : c.isCancelled now with
  | true => exact Or.inr ⟨_, release_cancelled hlive⟩
  | false =>
    cases hactive : b.backend.pool.active with
    | none => exact Or.inr ⟨_, release_refused hlive (release_of_free S connect hactive)⟩
    | some a => exact Or.inl ⟨a, rfl, release_done hlive (release_of_active S connect hactive)⟩

/-- **All that a call can do**: a free pool grants, a pool in use takes back, or all is as before. -/
theorem call_cases (b : Binding (Stock ω)) (x : Call) :
    (∃ t used r, b.backend.pool.active = none ∧ Reservation.ofTopology t = .ok r ∧
      b.call (inventoryBackend S connect) x =
        (⟨b.backend.withActive (some ⟨t.id, used⟩), some r⟩, .ok (some r))) ∨
    (∃ a, b.backend.pool.active = some a ∧
      b.call (inventoryBackend S connect) x = (⟨b.backend.withActive none, none⟩, .ok none)) ∨
    (∃ e, b.call (inventoryBackend S connect) x = (b, .error e)) ∨
    b.call (inventoryBackend S connect) x = (b, .aborted) := by
  cases x with
  | reserve c now fixed d =>
    simp only [call]
    rcases reserve_cases S connect b c now fixed d with
      ⟨duts, ates, used, expiresAt, r, hfree, -, hr, heq⟩ | ⟨e, heq⟩ | heq
    · rw [heq]
      exact Or.inl ⟨_, used, r, hfree, hr, rfl⟩
    · rw [heq]
      exact Or.inr (Or.inr (Or.inl ⟨e, rfl⟩))
    · rw [heq]
      exact Or.inr (Or.inr (Or.inr rfl))
  | release c now =>
    simp only [call]
    rcases release_cases S connect b c now with ⟨a, hactive, heq⟩ | ⟨e, heq⟩
    · rw [heq]
      exact Or.inr (Or.inl ⟨a, hactive, rfl⟩)
    · rw [heq]
      exact Or.inr (Or.inr (Or.inl ⟨e, rfl⟩))

/-- A call that does not succeed changes nothing. -/
theorem call_failed {b : Binding (Stock ω)} {x : Call} {e : Error}
    (h : (b.call (inventoryBackend S connect) x).2 = .error e) :
    (b.call (inventoryBackend S connect) x).1 = b := by
  rcases call_cases S connect b x with
    ⟨t, used, r, -, -, heq⟩ | ⟨a, -, heq⟩ | ⟨e', heq⟩ | heq
  · rw [heq] at h
    cases h
  · rw [heq] at h
    cases h
  · rw [heq]
  · rw [heq]

/-- What is granted has different identifiers within either role, so that a testbed without is never
granted, and asking for it changes nothing. -/
theorem reserve_repeated {b : Binding (Stock ω)} {c : Context} {now : Instant}
    {fixed : StringMap String} {d : Demand}
    (h : ¬(d.testbed.duts.map DeviceRequirement.id).Nodup ∨
      ¬(d.testbed.ates.map DeviceRequirement.id).Nodup) :
    (∀ r, (b.reserve (inventoryBackend S connect) c now fixed d).2 ≠ .ok r) ∧
      (b.reserve (inventoryBackend S connect) c now fixed d).1 = b := by
  rcases reserve_cases S connect b c now fixed d with
    ⟨duts, ates, used, expiresAt, r, -, hplace, hr, -⟩ | ⟨e, heq⟩ | heq
  · obtain ⟨-, hduts, hates⟩ := Reservation.ofTopology_ok hr
    obtain ⟨q, q', -, hq, hq'⟩ := Pool.place_follows hplace
    rw [hq.map_id] at hduts
    rw [hq'.map_id] at hates
    exact (h.elim (fun h => h hduts) fun h => h hates).elim
  · rw [heq]
    exact ⟨fun r => by simp, rfl⟩
  · rw [heq]
    exact ⟨fun r => by simp, rfl⟩

end Cases

end Binding

/-! ## Main result -/

/-- **A call that fails leaves no trace.** In whatever state, a call that is answered by an error
leaves the binding and the pool as they are, and all later calls are answered as if it had not been
made. In particular, a testbed that names two devices of a role alike is never granted, and
whatever is held stays. -/
theorem failed_call_leaves_no_trace (S : Stubs ω τ) (connect : String → Work (Except String Console))
    (b : Binding (Stock ω)) :
    (∀ x e, (b.call (inventoryBackend S connect) x).2 = .error e →
      (b.call (inventoryBackend S connect) x).1 = b ∧
      ∀ later, b.run (inventoryBackend S connect) (x :: later) =
        ((b.run (inventoryBackend S connect) later).1,
          .error e :: (b.run (inventoryBackend S connect) later).2)) ∧
    ∀ c now fixed d, ¬(d.testbed.duts.map DeviceRequirement.id).Nodup ∨
        ¬(d.testbed.ates.map DeviceRequirement.id).Nodup →
      (∀ r, (b.reserve (inventoryBackend S connect) c now fixed d).2 ≠ .ok r) ∧
      (b.reserve (inventoryBackend S connect) c now fixed d).1 = b := by
  refine ⟨fun x e h => ?_, fun c now fixed d h => Binding.reserve_repeated S connect h⟩
  have hsame := Binding.call_failed S connect h
  refine ⟨hsame, fun later => ?_⟩
  rw [Binding.run_cons, hsame, h]

/-- Twins are granted neither while other devices are held nor otherwise. -/
theorem failed_call_leaves_no_trace_twins :
    let twins : Demand :=
      { testbed := { duts := [{ id := "a" }, { id := "a" }] }, freshId := "r2", today := 0 }
    let free : Binding (Stock Unit) := ⟨⟨⟨rack, none⟩, ()⟩, none⟩
    let full : Binding (Stock Unit) := ⟨⟨⟨rack, some ⟨"r1", ["s1"]⟩⟩, ()⟩, some ⟨"r1", ∅, ∅, none⟩⟩
    (full.call silentBackend (.reserve {} 0 ∅ twins)).2 = .error (.allocation (.stillActive "r1")) ∧
    (full.call silentBackend (.reserve {} 0 ∅ twins)).1 = full ∧
    ¬(twins.testbed.duts.map DeviceRequirement.id).Nodup ∧
    ∀ r, (free.reserve silentBackend {} 0 ∅ twins).2 ≠ .ok r := by
  intro twins free full
  have hanswer : (full.call silentBackend (.reserve {} 0 ∅ twins)).2 =
      .error (.allocation (.stillActive "r1")) := rfl
  have htwins : ¬(twins.testbed.duts.map DeviceRequirement.id).Nodup := by decide
  exact ⟨hanswer, ((failed_call_leaves_no_trace .unsupported _ full).1 _ _ hanswer).1, htwins,
    ((failed_call_leaves_no_trace .unsupported _ free).2 {} 0 ∅ twins (Or.inl htwins)).1⟩

end SwitchTestbed
