import SwitchTestbed.Proofs.Binding.Agreement
import SwitchTestbed.Proofs.Binding.Published

/-!
# The shape of what is granted

* `ReservedDevice.Serves`, `Topology.Serves` : a device has the identifier, the ports and the speeds
  that a requirement asks for; a topology has such a device for every requirement, in their order.
  What a pool grants serves the testbed (`Pool.reserve_serves`), and so does what is made up for it
  (`synthesize_serves`);
* `ReservedDevice.SameShape`, `Topology.SameShape` : the same identifiers and ports, in the same
  order; topologies that serve one testbed are of one shape (`Topology.Serves.sameShape`);
* `Topology.Distinct` : no role has two devices of one identifier. Exactly then there is a
  reservation of the topology (`Reservation.exists_ofTopology_iff`);
* `ResolvedReservation.SameKeys` : the same keys at every level of two descriptions;
* `simulation_shaped_like_grant` : the main result.
-/

namespace SwitchTestbed

variable {ω τ : Type}

/-! ## Devices for a requirement -/

/-- The device has the identifier and the ports that are asked for. Of several requested ports with
one identifier the last counts: if it asks for a speed, the port has that speed. -/
structure ReservedDevice.Serves (d : ReservedDevice) (req : DeviceRequirement) : Prop where
  id : d.id = req.id
  portIds : ∀ k, k ∈ d.dims.ports.keys ↔ ∃ w ∈ req.ports, w.id = k
  speeds : ∀ i : Fin req.ports.length,
    (∀ j, i < j → (req.ports.get j).id ≠ (req.ports.get i).id) →
    ∀ s, (req.ports.get i).speed = some s →
      ∃ p, d.dims.ports.get? (req.ports.get i).id = some p ∧ p.speed = s

theorem Placement.Describes.serves {d : InventoryDevice} {req : DeviceRequirement}
    {ports : Placement.PortPlan req.ports d.ports} {r : ReservedDevice}
    (h : Placement.Describes d req ports r) : r.Serves req where
  id := h.id
  portIds k := by
    rw [StringMap.mem_keys_iff, Option.isSome_iff_exists]
    exact h.portIds k
  speeds i hlast s hs := ⟨_, h.ports i hlast, ports.speed i s hs⟩

/-- The ports of a made-up device, as they are entered one after the other. -/
def madeUpPorts (req : DeviceRequirement) : List (String × Port) :=
  List.ofFn fun i : Fin req.ports.length => ((req.ports.get i).id,
    ⟨"Ethernet" ++ toString (8 * i.val), (req.ports.get i).speed.getD .unspecified⟩)

theorem madeUpPorts_eq (req : DeviceRequirement) : madeUpPorts req =
    req.ports.zipIdx.map fun (w, i) =>
      (w.id, ⟨"Ethernet" ++ toString (8 * i), w.speed.getD .unspecified⟩) :=
  List.ext_getElem (by simp [madeUpPorts]) fun i _ _ => by simp [madeUpPorts]

theorem serves_of_madeUpPorts {d : ReservedDevice} {req : DeviceRequirement} (hid : d.id = req.id)
    (hports : d.dims.ports = .ofList (madeUpPorts req)) : d.Serves req where
  id := hid
  portIds k := by
    have hkeys : (madeUpPorts req).map Prod.fst = req.ports.map PortRequirement.id := by
      rw [madeUpPorts, List.map_ofFn]
      exact List.ext_getElem (by simp) fun i _ _ => by simp
    rw [hports, StringMap.mem_keys_ofList, hkeys, List.mem_map]
  speeds i hlast s hs := by
    rw [hports]
    refine ⟨_, StringMap.get?_ofList_ofFn hlast, ?_⟩
    show (req.ports.get i).speed.getD .unspecified = s
    rw [hs, Option.getD_some]

/-! ## Topologies for a testbed -/

structure Topology.Serves (t : Topology) (b : Testbed) : Prop where
  duts : List.Forall₂ ReservedDevice.Serves t.duts b.duts
  ates : List.Forall₂ ReservedDevice.Serves t.ates b.ates

theorem Placement.Follows.serves {inv : Inventory} {role : Role} {reqs : List DeviceRequirement}
    {p : Placement.DevicePlan inv role reqs} {granted : List ReservedDevice}
    (h : Placement.Follows p granted) : List.Forall₂ ReservedDevice.Serves granted reqs := by
  refine List.forall₂_of_length_eq_of_get h.length fun i hi hi' => ?_
  obtain ⟨r, hr, hdescribes⟩ := h.describes ⟨i, hi'⟩
  rw [List.getElem?_eq_getElem hi] at hr
  cases hr
  exact hdescribes.serves

/-- **What a pool grants serves the testbed.** -/
theorem Pool.reserve_serves {p p' : Pool} {cancelled : Bool} {d : Demand} {t : Topology}
    (h : p.reserve cancelled d = (p', .ok t)) : t.Serves d.testbed := by
  obtain ⟨-, q, q', hduts, hates, -⟩ := reserve_entries h
  exact ⟨hduts.serves, hates.serves⟩

/-- **What is made up for a testbed serves it.** -/
theorem synthesize_serves (b : Testbed) : (synthesize b).Serves b where
  duts := List.forall₂_map_left_iff.mpr (List.forall₂_same.mpr fun req _ =>
    serves_of_madeUpPorts rfl (congrArg _ (madeUpPorts_eq req).symm))
  ates := List.forall₂_map_left_iff.mpr (List.forall₂_same.mpr fun req _ =>
    serves_of_madeUpPorts rfl (congrArg _ (madeUpPorts_eq req).symm))

/-! ## Shapes -/

/-- The same identifier, and ports under the same identifiers. -/
structure ReservedDevice.SameShape (d d' : ReservedDevice) : Prop where
  id : d.id = d'.id
  portIds : d.dims.ports.keys = d'.dims.ports.keys

theorem ReservedDevice.Serves.sameShape {d d' : ReservedDevice} {req : DeviceRequirement}
    (h : d.Serves req) (h' : d'.Serves req) : d.SameShape d' where
  id := h.id.trans h'.id.symm
  portIds := StringMap.keys_eq_of_mem_iff fun k => (h.portIds k).trans (h'.portIds k).symm

structure Topology.SameShape (t t' : Topology) : Prop where
  duts : List.Forall₂ ReservedDevice.SameShape t.duts t'.duts
  ates : List.Forall₂ ReservedDevice.SameShape t.ates t'.ates

theorem forall₂_sameShape {ds ds' : List ReservedDevice} {reqs : List DeviceRequirement}
    (h : List.Forall₂ ReservedDevice.Serves ds reqs)
    (h' : List.Forall₂ ReservedDevice.Serves ds' reqs) :
    List.Forall₂ ReservedDevice.SameShape ds ds' := by
  induction h generalizing ds' with
  | nil =>
    cases h'
    exact .nil
  | cons hd _ ih =>
    cases h' with
    | cons hd' hds' => exact .cons (hd.sameShape hd') (ih hds')

/-- **Topologies that serve one testbed are of one shape.** -/
theorem Topology.Serves.sameShape {t t' : Topology} {b : Testbed} (h : t.Serves b)
    (h' : t'.Serves b) : t.SameShape t' :=
  ⟨forall₂_sameShape h.duts h'.duts, forall₂_sameShape h.ates h'.ates⟩

theorem map_id_of_sameShape {ds ds' : List ReservedDevice}
    (h : List.Forall₂ ReservedDevice.SameShape ds ds') :
    ds.map ReservedDevice.id = ds'.map ReservedDevice.id := by
  induction h with
  | nil => rfl
  | cons hd _ ih => rw [List.map_cons, List.map_cons, hd.id, ih]

/-! ## Reservations -/

theorem ReservedDevice.exists_keyed_from {α : Type} (make : ReservedDevice → α) :
    ∀ {ds : List ReservedDevice} {m : StringMap α}, (ds.map ReservedDevice.id).Nodup →
      (∀ d ∈ ds, m.contains d.id = false) → ∃ m', keyed make ds m = .ok m' := by
  intro ds
  induction ds with
  | nil => exact fun _ _ => ⟨_, rfl⟩
  | cons d ds ih =>
    intro m hnodup hnew
    obtain ⟨hd, hds⟩ := List.nodup_cons.mp hnodup
    rw [keyed, if_neg (by rw [hnew d List.mem_cons_self]; exact Bool.false_ne_true)]
    refine ih hds fun e he => ?_
    have hne : e.id ≠ d.id := fun hid => hd (hid ▸ List.mem_map_of_mem he)
    rw [StringMap.contains, StringMap.get?_insert_of_ne _ _ hne]
    exact hnew e (List.mem_cons_of_mem d he)

theorem ReservedDevice.exists_keyed {α : Type} (make : ReservedDevice → α)
    {ds : List ReservedDevice} (h : (ds.map ReservedDevice.id).Nodup) :
    ∃ m, keyed make ds ∅ = .ok m :=
  exists_keyed_from make h fun _ _ => rfl

/-- No role has two devices of one identifier. -/
def Topology.Distinct (t : Topology) : Prop :=
  (t.duts.map ReservedDevice.id).Nodup ∧ (t.ates.map ReservedDevice.id).Nodup

theorem Topology.SameShape.distinct_iff {t t' : Topology} (h : t.SameShape t') :
    t.Distinct ↔ t'.Distinct := by
  rw [Distinct, Distinct, map_id_of_sameShape h.duts, map_id_of_sameShape h.ates]

namespace Reservation

/-- **There is a reservation of a topology exactly if no identifier comes twice in a role.** -/
theorem exists_ofTopology_iff {t : Topology} : (∃ r, ofTopology t = .ok r) ↔ t.Distinct := by
  constructor
  · rintro ⟨r, hr⟩
    exact (ofTopology_ok hr).2
  · rintro ⟨hduts, hates⟩
    obtain ⟨duts, hd⟩ := ReservedDevice.exists_keyed ReservedDevice.toDut hduts
    obtain ⟨ates, ha⟩ := ReservedDevice.exists_keyed ReservedDevice.toAte hates
    exact ⟨⟨t.id, duts, ates, t.expiresAt⟩, by rw [ofTopology, hd, ha]⟩

end Reservation

structure ResolvedDevice.SameKeys (D D' : ResolvedDevice) : Prop where
  ports : D.ports.keys = D'.ports.keys
  services : D.services.keys = D'.services.keys

/-- Devices of the same names, and in them ports and services of the same names. -/
structure ResolvedReservation.SameKeys (R R' : ResolvedReservation) : Prop where
  devices : R.devices.keys = R'.devices.keys
  ates : R.ates.keys = R'.ates.keys
  device : ∀ k D D', R.devices.get? k = some D → R'.devices.get? k = some D' → D.SameKeys D'
  ate : ∀ k D D', R.ates.get? k = some D → R'.ates.get? k = some D' → D.SameKeys D'

theorem ReservedDevice.PublishedAs.port_keys {d : ReservedDevice} {services : List Service}
    {D : ResolvedDevice} (h : d.PublishedAs services D) : D.ports.keys = d.dims.ports.keys := by
  refine StringMap.keys_eq_of_mem_iff fun k => ?_
  rw [StringMap.mem_keys_iff, StringMap.mem_keys_iff, h.ports, Option.isSome_map]

theorem ReservedDevice.PublishedAs.service_keys {d : ReservedDevice} {services : List Service}
    {D : ResolvedDevice} (h : d.PublishedAs services D) :
    D.services.keys = services.map Service.id := by
  have hkeys := congrArg (List.map Prod.fst) h.services
  rwa [List.map_map] at hkeys

theorem exists_sameShape_of_mem {ds ds' : List ReservedDevice} {d : ReservedDevice}
    (h : List.Forall₂ ReservedDevice.SameShape ds ds') (hd : d ∈ ds) :
    ∃ d' ∈ ds', d.SameShape d' := by
  obtain ⟨i, hi, rfl⟩ := List.getElem_of_mem hd
  exact ⟨_, List.getElem_mem (h.length_eq ▸ hi), h.get hi (h.length_eq ▸ hi)⟩

theorem sameKeys_of_published {ds ds' : List ReservedDevice} {m m' : StringMap ResolvedDevice}
    (services : ReservedDevice → List Service)
    (hshape : List.Forall₂ ReservedDevice.SameShape ds ds')
    (hkeys : m.keys.Perm (ds.map ReservedDevice.id))
    (hkeys' : m'.keys.Perm (ds'.map ReservedDevice.id))
    (hservices : ∀ d d', (services d).map Service.id = (services d').map Service.id)
    (h : ∀ d ∈ ds, ∃ D, m.get? d.id = some D ∧ d.PublishedAs (services d) D)
    (h' : ∀ d ∈ ds', ∃ D, m'.get? d.id = some D ∧ d.PublishedAs (services d) D) :
    m.keys = m'.keys ∧
      ∀ k D D', m.get? k = some D → m'.get? k = some D' → D.SameKeys D' := by
  constructor
  · refine StringMap.keys_eq_of_mem_iff fun k => ?_
    rw [hkeys.mem_iff, hkeys'.mem_iff, map_id_of_sameShape hshape]
  · intro k D D' hD hD'
    have hk : k ∈ ds.map ReservedDevice.id := by
      rw [← hkeys.mem_iff, StringMap.mem_keys_iff, hD, Option.isSome_some]
    obtain ⟨d, hd, rfl⟩ := List.mem_map.mp hk
    obtain ⟨d', hd', hdd'⟩ := exists_sameShape_of_mem hshape hd
    obtain ⟨E, hE, hpublished⟩ := h d hd
    obtain ⟨E', hE', hpublished'⟩ := h' d' hd'
    rw [hD] at hE
    rw [← hdd'.id, hD'] at hE'
    cases hE
    cases hE'
    constructor
    · rw [hpublished.port_keys, hpublished'.port_keys, hdd'.portIds]
    · rw [hpublished.service_keys, hpublished'.service_keys, hservices d d']

/-- **Topologies of one shape are published under the same names.** -/
theorem Topology.PublishedAs.sameKeys {t t' : Topology} {R R' : ResolvedReservation}
    (h : t.PublishedAs R) (h' : t'.PublishedAs R') (hshape : t.SameShape t') : R.SameKeys R' := by
  obtain ⟨hdevices, hdevice⟩ := sameKeys_of_published (fun d => switchServices d.grpc)
    hshape.duts h.dutIds h'.dutIds (fun _ _ => rfl) h.duts h'.duts
  obtain ⟨hates, hate⟩ := sameKeys_of_published (fun d => generatorServices d.http)
    hshape.ates h.ateIds h'.ateIds (fun _ _ => rfl) h.ates h'.ates
  exact ⟨hdevices, hates, hdevice, hate⟩

namespace Binding

variable {σ : Type} {B : Backend σ τ} {b : Binding σ} {c : Context} {now : Instant} {d : Demand}
  {s : σ} {t : Topology}

/-- **A binding accepts what it is granted exactly if no identifier comes twice in a role.** -/
theorem reserve_accepts_iff (hlive : c.isCancelled now = false)
    (h : B.reserve c now d b.backend = (s, .ok t)) :
    (∃ r, (b.reserve B c now ∅ d).2 = .ok r) ↔ t.Distinct := by
  have hfixed : (∅ : StringMap String).isEmpty = true := rfl
  rw [← Reservation.exists_ofTopology_iff]
  cases hr : Reservation.ofTopology t with
  | ok r => simp [reserve_granted hfixed hlive h hr]
  | error e => simp [reserve_rejected hfixed hlive h hr]

theorem resolve_reserve (hlive : c.isCancelled now = false)
    (h : B.reserve c now d b.backend = (s, .ok t)) (hdistinct : t.Distinct) :
    ∃ R, (b.reserve B c now ∅ d).1.resolve = .ok R ∧ t.PublishedAs R := by
  obtain ⟨r, hr⟩ := Reservation.exists_ofTopology_iff.mpr hdistinct
  obtain ⟨R, hresolve, -, -, -, hpublished⟩ := Reservation.publishedAs_of_ofTopology hr
  have hfixed : (∅ : StringMap String).isEmpty = true := rfl
  rw [reserve_granted hfixed hlive h hr]
  exact ⟨R, hresolve, hpublished⟩

end Binding

/-! ## Main result -/

def Binding.simulated : Binding Simulation := ⟨{}, none⟩

/-- **What is made up for a testbed has the shape of what a pool grants for it.** Whenever a pool
grants a testbed, in whatever state and under whatever circumstances, a fresh simulation grants it,
too. Both topologies serve the testbed: a device for every requirement and in their order, with its
identifier and with ports under exactly the identifiers that are asked for, each of the speed that
the last request of its identifier asks for. Therefore their shapes are the same, and of bindings
over the two backends either both accept their topologies, which they do exactly if none names two
devices of a role alike, or neither does; and what they then publish has the same names everywhere. -/
theorem simulation_shaped_like_grant (S : Stubs ω τ)
    (connect : String → Work (Except String Console)) {c c' : Context} {now now' : Instant}
    {d d' : Demand} {b : Binding (Stock ω)} {s : Stock ω} {t : Topology}
    (hgrant : (inventoryBackend S connect).reserve c now d b.backend = (s, .ok t))
    (hlive : c'.isCancelled now' = false) (htestbed : d'.testbed = d.testbed) :
    ∃ t', (simulatedBackend.reserve c' now' d' {}).2 = .ok t' ∧
      t.Serves d.testbed ∧ t'.Serves d.testbed ∧ t.SameShape t' ∧
      ((∃ r, (b.reserve (inventoryBackend S connect) c now ∅ d).2 = .ok r) ↔ t.Distinct) ∧
      ((∃ r, (Binding.simulated.reserve simulatedBackend c' now' ∅ d').2 = .ok r) ↔ t.Distinct) ∧
      (t.Distinct → ∃ R R',
        (b.reserve (inventoryBackend S connect) c now ∅ d).1.resolve = .ok R ∧
        (Binding.simulated.reserve simulatedBackend c' now' ∅ d').1.resolve = .ok R' ∧
        R.SameKeys R') := by
  have hpool : b.backend.pool.reserve (c.isCancelled now) d = (s.pool, .ok t) := by
    simp only [inventoryBackend, Prod.mk.injEq] at hgrant
    exact Prod.ext (congrArg Stock.pool hgrant.1) hgrant.2
  have hasked : c.isCancelled now = false := by
    rw [← Bool.not_eq_true]
    intro hcancelled
    rw [hcancelled, Pool.reserve_cancelled] at hpool
    cases congrArg Prod.snd hpool
  have hserves := Pool.reserve_serves hpool
  have hmade := synthesize_serves d.testbed
  have hshape := hserves.sameShape hmade
  have hsimulated : simulatedBackend.reserve c' now' d' Binding.simulated.backend =
      ({ reserves := 1, testbeds := [d'.testbed] }, .ok (synthesize d.testbed)) := by
    rw [← htestbed]
    rfl
  have haccepts := Binding.reserve_accepts_iff hlive hsimulated
  refine ⟨synthesize d.testbed, congrArg Prod.snd hsimulated, hserves, hmade, hshape,
    Binding.reserve_accepts_iff hasked hgrant, haccepts.trans hshape.distinct_iff.symm,
    fun hdistinct => ?_⟩
  obtain ⟨R, hR, hpublished⟩ := Binding.resolve_reserve hasked hgrant hdistinct
  obtain ⟨R', hR', hpublished'⟩ :=
    Binding.resolve_reserve hlive hsimulated (hshape.distinct_iff.mp hdistinct)
  exact ⟨R, R', hR, hR', hpublished.sameKeys hpublished' hshape⟩

/-- A switch with two requested ports of one identifier and two speeds, and a traffic generator of
the identifier of the switch. -/
def twinPorts : Testbed where
  duts := [{ id := "a", ports := [⟨"p", some .gb400⟩, ⟨"p", some .gb100⟩] }]
  ates := [{ id := "a" }]

def twinPortsGranted : Topology where
  id := "r1"
  duts := List.zipWith (Placement.reserved · · [1, 0]) rack.devices twinPorts.duts
  ates := List.zipWith (Placement.reserved · · []) (rack.devices.drop 2) twinPorts.ates

def twinPortsDemand : Demand where
  testbed := twinPorts
  freshId := "r1"
  today := 0

def rackBinding : Binding (Stock Unit) := .fresh rack ()

theorem silentBackend_grants_twinPorts :
    silentBackend.reserve {} 0 twinPortsDemand rackBinding.backend =
      (rackBinding.backend.withActive (some ⟨"r1", ["s1", "g1"]⟩), .ok twinPortsGranted) := by
  have hplace : Pool.place ⟨rack, none⟩ twinPorts =
      .ok (twinPortsGranted.duts, twinPortsGranted.ates, ["s1", "g1"]) :=
    Pool.place_of_sorted ["s1"] (by decide) (by decide) rfl rfl
  exact stock_reserve_placed (d := twinPortsDemand) _ _ rfl rfl hplace rfl

theorem simulation_shaped_like_grant_twinPorts :
    (silentBackend.reserve {} 0 twinPortsDemand rackBinding.backend).2 = .ok twinPortsGranted ∧
    twinPortsGranted.Distinct ∧ twinPortsGranted.SameShape (synthesize twinPorts) ∧
    ∃ R R', (rackBinding.reserve silentBackend {} 0 ∅ twinPortsDemand).1.resolve = .ok R ∧
      (Binding.simulated.reserve simulatedBackend {} 0 ∅ twinPortsDemand).1.resolve = .ok R' ∧
      R.SameKeys R' := by
  have hdistinct : twinPortsGranted.Distinct := ⟨by decide, by decide⟩
  obtain ⟨t', ht', -, -, hshape, -, -, hpublished⟩ :=
    simulation_shaped_like_grant .unsupported _ silentBackend_grants_twinPorts
      (rfl : Context.isCancelled {} 0 = false) (rfl : twinPortsDemand.testbed = twinPorts)
  cases ht'
  exact ⟨congrArg Prod.snd silentBackend_grants_twinPorts, hdistinct, hshape, hpublished hdistinct⟩

end SwitchTestbed
