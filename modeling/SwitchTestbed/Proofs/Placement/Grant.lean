import SwitchTestbed.Proofs.Inventory
import SwitchTestbed.Proofs.Placement.Allocation
import SwitchTestbed.Proofs.StringMap

/-!
# Granted devices

* `Describes` : a granted device is a device of the inventory, known under the identifiers of the
  requirement (`reserved_describes`);
* `Follows` : the granted devices are those of a plan, in the order of the requirements
  (`allocate_follows`), and have their identifiers (`Follows.map_id`).
-/

namespace SwitchTestbed.Placement

/-- A granted device is the device of the inventory in all but its identifier, which is that of
the requirement, and its ports, which are those of the plan under the identifiers that are asked
for. Of several requested ports with one identifier the last counts. -/
structure Describes (d : InventoryDevice) (req : DeviceRequirement)
    (ports : PortPlan req.ports d.ports) (r : ReservedDevice) : Prop where
  id : r.id = req.id
  name : r.dims.name = d.name
  vendor : r.dims.vendor = d.vendor
  hardwareModel : r.dims.hardwareModel = d.hardwareModel
  softwareVersion : r.dims.softwareVersion = d.softwareVersion
  services : ∀ p, r.grpc.get? p = (d.services.configured p).map ServiceConfig.entry
  http : r.http = d.http.getD ""
  portIds : ∀ k, (∃ port, r.dims.ports.get? k = some port) ↔ ∃ w ∈ req.ports, w.id = k
  ports : ∀ i, (∀ j, i < j → (req.ports.get j).id ≠ (req.ports.get i).id) →
    r.dims.ports.get? (req.ports.get i).id = some (d.ports.get (ports.port i))

/-- The granted devices are those of a plan, one for every requirement and in their order. -/
structure Follows {inv : Inventory} {role : Role} {reqs : List DeviceRequirement}
    (p : DevicePlan inv role reqs) (granted : List ReservedDevice) : Prop where
  length : granted.length = reqs.length
  describes : ∀ i : Fin reqs.length, ∃ r, granted[i.val]? = some r ∧
    Describes (inv.devices.get (p.device i)) (reqs.get i) (p.ports i) r

section Reserved

variable {d : InventoryDevice} {req : DeviceRequirement}

/-- The ports of a granted device, as they are entered one after the other. -/
def portEntries (req : DeviceRequirement) (d : InventoryDevice)
    (ports : PortPlan req.ports d.ports) : List (String × Port) :=
  List.ofFn fun i => ((req.ports.get i).id, d.ports.get (ports.port i))

theorem reserved_ports (ports : PortPlan req.ports d.ports) :
    (reserved d req ports.positions).dims.ports = .ofList (portEntries req d ports) := by
  simp only [reserved, portEntries]
  congr 1
  refine List.ext_getElem (by simp [PortPlan.positions]) fun i hi _ => ?_
  simp [PortPlan.positions]

theorem reserved_describes (ports : PortPlan req.ports d.ports) :
    Describes d req ports (reserved d req ports.positions) where
  id := rfl
  name := rfl
  vendor := rfl
  hardwareModel := rfl
  softwareVersion := rfl
  services := d.services.get?_registry
  http := rfl
  portIds := by
    intro k
    have hkeys : (portEntries req d ports).map Prod.fst = req.ports.map PortRequirement.id := by
      rw [portEntries, List.map_ofFn]
      exact List.ext_getElem (by simp) fun i _ _ => by simp
    rw [reserved_ports, StringMap.exists_get?_ofList_iff, hkeys, List.mem_map]
  ports := by
    intro i hlast
    rw [reserved_ports]
    exact StringMap.get?_ofList_ofFn hlast

end Reserved

/-- The identifiers of the granted devices are those of the requirements. -/
theorem Follows.map_id {inv : Inventory} {role : Role} {reqs : List DeviceRequirement}
    {p : DevicePlan inv role reqs} {granted : List ReservedDevice} (h : Follows p granted) :
    granted.map ReservedDevice.id = reqs.map DeviceRequirement.id := by
  refine List.ext_getElem (by simp [h.length]) fun i hi hi' => ?_
  rw [List.length_map] at hi hi'
  obtain ⟨r, hr, hdescribes⟩ := h.describes ⟨i, hi'⟩
  rw [List.getElem?_eq_getElem hi] at hr
  rw [List.getElem_map, List.getElem_map, Option.some.inj hr]
  exact hdescribes.id

/-- Every granted device is one of the plan. -/
theorem Follows.describes_of_mem {inv : Inventory} {role : Role} {reqs : List DeviceRequirement}
    {p : DevicePlan inv role reqs} {granted : List ReservedDevice} (h : Follows p granted)
    {r : ReservedDevice} (hr : r ∈ granted) :
    ∃ i, Describes (inv.devices.get (p.device i)) (reqs.get i) (p.ports i) r := by
  obtain ⟨i, hi, rfl⟩ := List.getElem_of_mem hr
  obtain ⟨r, hget, hdescribes⟩ := h.describes ⟨i, h.length ▸ hi⟩
  rw [List.getElem?_eq_getElem hi] at hget
  cases hget
  exact ⟨_, hdescribes⟩

/-- The devices of a plan, as they are reserved, follow it. -/
theorem follows_ofFn {inv : Inventory} {role : Role} {reqs : List DeviceRequirement}
    (p : DevicePlan inv role reqs) : Follows p (List.ofFn fun i =>
      reserved (inv.devices.get (p.device i)) (reqs.get i) (p.ports i).positions) where
  length := List.length_ofFn
  describes := fun i => ⟨_, by simp, reserved_describes (p.ports i)⟩

/-- **What is granted to a role follows a plan without the identifiers in use.** -/
theorem allocate_follows {inv : Inventory} {role : Role} {reqs : List DeviceRequirement}
    {used used' : List String} {granted : List ReservedDevice}
    (h : allocate inv role reqs used = .ok (granted, used')) :
    ∃ p : DevicePlan inv role reqs, Follows p granted ∧
      used' = used ++ List.ofFn fun i => (inv.devices.get (p.device i)).id := by
  obtain ⟨p, -, rfl, hused⟩ := allocate_ok h
  exact ⟨p, follows_ofFn p, hused⟩

end SwitchTestbed.Placement
