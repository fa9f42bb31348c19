import SwitchTestbed.Proofs.StringMap
import SwitchTestbed.Reservation.Basic

/-!
# Reservations of granted topologies

* `ReservedDevice.keyed_ok` : devices are kept by identifier only if no two have the same;
* `ReservedDevice.get?_keyed_iff`, `ReservedDevice.keys_keyed_perm` : what is kept are the devices
  that are given;
* `Reservation.ofTopology_ok`, `Reservation.ofTopology_keyed` : what is known of a topology that
  makes a reservation;
* `Reservation.unnamed`, `Error.unnamed` : a reservation without its identifier and end, and an
  error without the identifier of another reservation;
* `Reservation.ofTopology_alike` : the devices decide whether a topology makes a reservation.
-/

namespace SwitchTestbed

/-- Devices that can be kept by identifier differ in it. -/
theorem ReservedDevice.keyed_ok {α : Type} {make : ReservedDevice → α} :
    ∀ {ds : List ReservedDevice} {m m' : StringMap α}, keyed make ds m = .ok m' →
      (ds.map ReservedDevice.id).Nodup ∧ ∀ d ∈ ds, m.contains d.id = false := by
  intro ds
  induction ds with
  | nil => exact fun _ => ⟨List.nodup_nil, fun _ hd => by cases hd⟩
  | cons d ds ih =>
    intro m m' h
    rw [keyed] at h
    split at h
    · cases h
    rename_i hnew
    rw [Bool.not_eq_true] at hnew
    obtain ⟨hnodup, hrest⟩ := ih h
    -- the map that the rest is added to has the identifier of `d`
    have hne : ∀ e ∈ ds, e.id ≠ d.id := by
      intro e he hid
      have hcontains := hrest e he
      rw [hid, StringMap.contains, StringMap.get?_insert_self] at hcontains
      cases hcontains
    refine ⟨List.nodup_cons.mpr ⟨fun hmem => ?_, hnodup⟩, fun e he => ?_⟩
    · obtain ⟨e, he, hid⟩ := List.mem_map.mp hmem
      exact hne e he hid
    · rcases List.mem_cons.mp he with rfl | he
      · exact hnew
      · have hcontains := hrest e he
        rwa [StringMap.contains, StringMap.get?_insert_of_ne _ _ (hne e he)] at hcontains

/-- What is kept under an identifier was there before or is a device of that identifier. -/
theorem ReservedDevice.keyed_get?_iff {α : Type} {make : ReservedDevice → α} {k : String} {x : α} :
    ∀ {ds : List ReservedDevice} {m m' : StringMap α}, keyed make ds m = .ok m' →
      (m'.get? k = some x ↔ m.get? k = some x ∨ ∃ d ∈ ds, d.id = k ∧ make d = x) := by
  intro ds
  induction ds with
  | nil =>
    intro m m' h
    cases h
    simp
  | cons d ds ih =>
    intro m m' h
    rw [keyed] at h
    split at h
    · cases h
    rename_i hnew
    rw [ih h, StringMap.get?_insert]
    by_cases hk : k = d.id
    · have hnone : m.get? d.id = none := by simpa [StringMap.contains] using hnew
      simp [hk, hnone]
    · simp [hk, Ne.symm hk]

section Kept

variable {α : Type} {make : ReservedDevice → α} {ds : List ReservedDevice} {m : StringMap α}
  (h : ReservedDevice.keyed make ds ∅ = .ok m)

include h

/-- What is kept is made of a device of the identifier. -/
theorem ReservedDevice.get?_keyed_iff {k : String} {x : α} :
    m.get? k = some x ↔ ∃ d ∈ ds, d.id = k ∧ make d = x :=
  (keyed_get?_iff h).trans (or_iff_right nofun)

/-- The identifiers are those of the devices, each once. -/
theorem ReservedDevice.keys_keyed_perm : m.keys.Perm (ds.map ReservedDevice.id) := by
  refine (List.perm_ext_iff_of_nodup m.nodup_keys (keyed_ok h).1).mpr fun k => ?_
  rw [StringMap.mem_keys_iff, Option.isSome_iff_exists, List.mem_map]
  constructor
  · rintro ⟨x, hx⟩
    obtain ⟨d, hd, hid, -⟩ := (get?_keyed_iff h).mp hx
    exact ⟨d, hd, hid⟩
  · rintro ⟨d, hd, hid⟩
    exact ⟨make d, (get?_keyed_iff h).mpr ⟨d, hd, hid, rfl⟩⟩

theorem ReservedDevice.id_of_get?_keyed {id : α → String} (hid : ∀ d, id (make d) = d.id)
    {k : String} {x : α} (hx : m.get? k = some x) : id x = k := by
  obtain ⟨d, -, hk, rfl⟩ := (get?_keyed_iff h).mp hx
  exact (hid d).trans hk

theorem ReservedDevice.get?_mapWithKey_keyed {β : Type} (f : α → β) {d : ReservedDevice}
    (hd : d ∈ ds) : (m.mapWithKey fun _ x => f x).get? d.id = some (f (make d)) := by
  rw [StringMap.get?_mapWithKey, (get?_keyed_iff h).mpr ⟨d, hd, rfl, rfl⟩, Option.map_some]

end Kept

/-- An error without the identifier of another reservation. -/
def Error.unnamed : Error → Error
  | .allocation (.stillActive _) => .allocation (.stillActive "")
  | e => e

namespace Reservation

/-- A reservation without its identifier and its end. -/
def unnamed (r : Reservation) : Reservation := { r with id := "", expiresAt := none }

theorem ofTopology_ok {t : Topology} {r : Reservation} (h : ofTopology t = .ok r) :
    r.id = t.id ∧ (t.duts.map ReservedDevice.id).Nodup ∧ (t.ates.map ReservedDevice.id).Nodup := by
  unfold ofTopology at h
  split at h
  · cases h
  rename_i hduts
  split at h
  · cases h
  rename_i hates
  cases h
  exact ⟨rfl, (ReservedDevice.keyed_ok hduts).1, (ReservedDevice.keyed_ok hates).1⟩

/-- A reservation keeps the devices of its topology by identifier. -/
theorem ofTopology_keyed {t : Topology} {r : Reservation} (h : ofTopology t = .ok r) :
    ReservedDevice.keyed ReservedDevice.toDut t.duts ∅ = .ok r.duts ∧
      ReservedDevice.keyed ReservedDevice.toAte t.ates ∅ = .ok r.ates := by
  unfold ofTopology at h
  split at h
  · cases h
  rename_i hduts
  split at h
  · cases h
  rename_i hates
  cases h
  exact ⟨hduts, hates⟩

/-- The devices decide whether a topology makes a reservation; its identifier and end do not
matter. -/
theorem ofTopology_alike (id id' : String) (duts ates : List ReservedDevice)
    (expiresAt expiresAt' : Option Timestamp) :
    (∃ r r', ofTopology ⟨id, duts, ates, expiresAt⟩ = .ok r ∧
      ofTopology ⟨id', duts, ates, expiresAt'⟩ = .ok r' ∧ r.unnamed = r'.unnamed) ∨
    ∃ e, ofTopology ⟨id, duts, ates, expiresAt⟩ = .error e ∧
      ofTopology ⟨id', duts, ates, expiresAt'⟩ = .error e := by
  unfold ofTopology
  dsimp only
  cases ReservedDevice.keyed ReservedDevice.toDut duts ∅ with
  | error k => exact Or.inr ⟨_, rfl, rfl⟩
  | ok ds =>
    cases ReservedDevice.keyed ReservedDevice.toAte ates ∅ with
    | error k => exact Or.inr ⟨_, rfl, rfl⟩
    | ok as => exact Or.inl ⟨_, _, rfl, rfl, rfl⟩

end Reservation

end SwitchTestbed
