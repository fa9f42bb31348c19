import SwitchTestbed.Proofs.Binding.Reached
import SwitchTestbed.Simulated.Backend

/-!
# What is published about a reservation

* `ReservedDevice.PublishedAs`, `Topology.PublishedAs` : what is published are the devices of a
  topology with all that they are, and nothing else;
* `Reservation.WellKeyed` : every device stands under its own identifier
  (`Reservation.wellKeyed_of_ofTopology`), so that there is something to publish
  (`Reservation.resolve_of_wellKeyed`);
* `resolve_published` : whatever has been called before, a binding that holds something publishes
  the topology that was granted for it.
-/

namespace SwitchTestbed

variable {σ τ : Type}

/-! ## Published topologies -/

/-- The address of an entry, if there is one. -/
def registeredAddress (g : ServiceRegistry) (p : Protocol) : String :=
  ((g.get? p).map ServiceEntry.address).getD ""

/-- The services of a switch: gNMI and P4Runtime, by calls and without proxies. -/
def switchServices (g : ServiceRegistry) : List Service :=
  [⟨"gnmi.gNMI", .proxiedGrpc (registeredAddress g .gnmi) []⟩,
    ⟨"p4.v1.P4Runtime", .proxiedGrpc (registeredAddress g .p4rt) []⟩]

/-- The service of a traffic generator. -/
def generatorServices (http : String) : List Service := [⟨"http", .httpOverGrpc http⟩]

/-- The published device is the granted one, with these services and no others. -/
structure ReservedDevice.PublishedAs (d : ReservedDevice) (services : List Service)
    (D : ResolvedDevice) : Prop where
  id : D.id = d.id
  name : D.name = d.dims.name
  vendor : D.vendor = d.dims.vendor
  hardwareModel : D.hardwareModel = d.dims.hardwareModel
  softwareVersion : D.softwareVersion = d.dims.softwareVersion
  ports : ∀ k, D.ports.get? k = (d.dims.ports.get? k).map fun p => ⟨k, p.speed, p.name⟩
  services : D.services.toList = services.map fun s => (s.id, s)

/-- Of either role exactly the granted devices are published, each once and under its identifier. -/
structure Topology.PublishedAs (t : Topology) (R : ResolvedReservation) : Prop where
  id : R.id = t.id
  dutIds : R.devices.keys.Perm (t.duts.map ReservedDevice.id)
  ateIds : R.ates.keys.Perm (t.ates.map ReservedDevice.id)
  duts : ∀ d ∈ t.duts, ∃ D, R.devices.get? d.id = some D ∧ d.PublishedAs (switchServices d.grpc) D
  ates : ∀ d ∈ t.ates, ∃ D, R.ates.get? d.id = some D ∧ d.PublishedAs (generatorServices d.http) D

theorem Dut.resolve_services (d : Dut) : d.resolve.services.toList =
    [("gnmi.gNMI", d.service "gnmi.gNMI" .gnmi),
      ("p4.v1.P4Runtime", d.service "p4.v1.P4Runtime" .p4rt)] := by
  refine StringMap.toList_ofList ?_
  show List.Pairwise (· < ·) ["gnmi.gNMI", "p4.v1.P4Runtime"]
  decide

theorem resolve_toDut_publishedAs (d : ReservedDevice) :
    d.PublishedAs (switchServices d.grpc) d.toDut.resolve where
  id := rfl
  name := rfl
  vendor := rfl
  hardwareModel := rfl
  softwareVersion := rfl
  ports k := StringMap.get?_mapWithKey _ _ k
  services := by
    simp only [switchServices, registeredAddress, ← ServiceRegistry.address_eq]
    exact d.toDut.resolve_services

theorem resolve_toAte_publishedAs (d : ReservedDevice) :
    d.PublishedAs (generatorServices d.http) d.toAte.resolve where
  id := rfl
  name := rfl
  vendor := rfl
  hardwareModel := rfl
  softwareVersion := rfl
  ports k := StringMap.get?_mapWithKey _ _ k
  services := rfl

/-! ## Reservations -/

namespace Reservation

/-- Every device stands under its own identifier. -/
structure WellKeyed (r : Reservation) : Prop where
  duts : ∀ k d, r.duts.get? k = some d → d.id = k
  ates : ∀ k a, r.ates.get? k = some a → a.id = k

theorem wellKeyed_of_ofTopology {t : Topology} {r : Reservation} (h : ofTopology t = .ok r) :
    r.WellKeyed := by
  obtain ⟨hduts, hates⟩ := ofTopology_keyed h
  exact ⟨fun _ _ hx => ReservedDevice.id_of_get?_keyed hduts (fun _ => rfl) hx,
    fun _ _ hx => ReservedDevice.id_of_get?_keyed hates (fun _ => rfl) hx⟩

theorem keyMismatch_eq_none {α : Type} {id : α → String} {m : StringMap α}
    (h : ∀ k x, m.get? k = some x → id x = k) : keyMismatch id m = none := by
  rw [keyMismatch, Option.map_eq_none_iff, List.find?_eq_none]
  intro e he
  simp [h e.1 e.2 (StringMap.get?_eq_some_iff.mpr he)]

theorem resolve_of_wellKeyed {r : Reservation} (h : r.WellKeyed) : r.resolve = .ok
    ⟨r.id, r.duts.mapWithKey fun _ d => d.resolve, r.ates.mapWithKey fun _ a => a.resolve⟩ := by
  rw [resolve, keyMismatch_eq_none h.duts, keyMismatch_eq_none h.ates]

/-- **A reservation publishes its topology.** -/
theorem publishedAs_of_ofTopology {t : Topology} {r : Reservation} (h : ofTopology t = .ok r) :
    ∃ R, r.resolve = .ok R ∧ R.id = r.id ∧ R.devices.keys = r.duts.keys ∧
      R.ates.keys = r.ates.keys ∧ t.PublishedAs R := by
  obtain ⟨hduts, hates⟩ := ofTopology_keyed h
  refine ⟨_, resolve_of_wellKeyed (wellKeyed_of_ofTopology h), rfl,
    StringMap.keys_mapWithKey _ _, StringMap.keys_mapWithKey _ _, ?_⟩
  constructor
  · exact (ofTopology_ok h).1
  · rw [StringMap.keys_mapWithKey]
    exact ReservedDevice.keys_keyed_perm hduts
  · rw [StringMap.keys_mapWithKey]
    exact ReservedDevice.keys_keyed_perm hates
  · intro d hd
    exact ⟨_, ReservedDevice.get?_mapWithKey_keyed hduts Dut.resolve hd,
      resolve_toDut_publishedAs d⟩
  · intro d hd
    exact ⟨_, ReservedDevice.get?_mapWithKey_keyed hates Ate.resolve hd,
      resolve_toAte_publishedAs d⟩

end Reservation

/-! ## Main result -/

/-- **What is held is published, all of it and nothing else.** Over any backend and after any calls,
a binding publishes something exactly if it holds a reservation, and the only other answer is that
it holds none. What it publishes is the topology that the backend has granted for it. -/
theorem resolve_published {B : Backend σ τ} {b : Binding σ} (h : b.Reached B fun _ => True) :
    ((∃ R, b.resolve = .ok R) ↔ b.held.isSome = true) ∧
    (∀ e, b.resolve = .error e → e = .noReservation) ∧
    ∀ R, b.resolve = .ok R → ∃ t r, b.held = some r ∧
      B.Grants (fun _ => True) t ∧ Reservation.ofTopology t = .ok r ∧
      R.id = r.id ∧ R.devices.keys = r.duts.keys ∧ R.ates.keys = r.ates.keys ∧ t.PublishedAs R := by
  unfold Binding.resolve
  cases hheld : b.held with
  | none => simp [eq_comm]
  | some r =>
    obtain ⟨t, hgrant, hr⟩ := h.held_granted (B.keeps_of_forall fun _ => trivial) hheld
    obtain ⟨R, hresolve, hpublished⟩ := Reservation.publishedAs_of_ofTopology hr
    dsimp only
    rw [hresolve]
    refine ⟨iff_of_true ⟨R, rfl⟩ rfl, nofun, fun R' hR' => ?_⟩
    cases hR'
    exact ⟨t, r, rfl, hgrant, hr, hpublished⟩

/-- A switch without gNMI and a traffic generator of the same identifier. -/
def namesakes : Topology where
  id := "r1"
  duts :=
    [{ id := "x"
       dims := { name := "leaf1", ports := .ofList [("p0", ⟨"e0", .gb100⟩)] }
       grpc := { p4rt := some ⟨"10.0.0.1:9559", none⟩ } }]
  ates := [{ id := "x", dims := { name := "gen1" }, http := "10.0.0.2:443" }]

/-- A binding that holds the two. -/
def namesakesHeld : Binding Simulation :=
  (Binding.call simulatedBackend ⟨{ topology := some namesakes }, none⟩
    (.reserve {} 0 ∅ { testbed := {}, freshId := "r1", today := 0 })).1

theorem reached_namesakesHeld : namesakesHeld.Reached simulatedBackend fun _ => True :=
  .call (.start trivial) _

theorem resolve_published_namesakes :
    namesakesHeld.Reached simulatedBackend (fun _ => True) ∧
    ∃ R, namesakesHeld.resolve = .ok R ∧ R.devices.keys = ["x"] ∧ R.ates.keys = ["x"] ∧
      ∃ t, simulatedBackend.Grants (fun _ => True) t ∧ t.PublishedAs R := by
  obtain ⟨hheld, -, hpublished⟩ := resolve_published reached_namesakesHeld
  obtain ⟨R, hR⟩ := hheld.mpr rfl
  obtain ⟨t, r, hr, hgrant, -, -, hduts, hates, ht⟩ := hpublished R hR
  cases hr
  exact ⟨reached_namesakesHeld, R, hR, hduts, hates, t, hgrant, ht⟩

end SwitchTestbed
