import Mathlib.Data.Fintype.Card
import SwitchTestbed.Placement.Assignment
import SwitchTestbed.Proofs.Placement.PortMatching

/-!
# Plans

* `PortPlan` : a port of a device for every requested one; `matchPorts_some`,
  `exists_matchPorts` : `matchPorts` finds one exactly if there is one;
* `HasAttributes` : a device has every attribute that is asked for; `satisfies_some`,
  `exists_satisfies`;
* `Suits` : a device of the role that meets a requirement; `suits_of_mem_candidates`,
  `exists_candidate` : the candidates are the devices that suit and are not in use;
* `DevicePlan` : a device for every requirement of a role.
-/

namespace SwitchTestbed.Placement

/-! ## Ports -/

/-- A port of a device for every requested one: all different, and each of the speed that is asked
for, if one is. -/
structure PortPlan (want : List PortRequirement) (ports : List Port) where
  port : Fin want.length ↪ Fin ports.length
  speed : ∀ i s, (want.get i).speed = some s → (ports.get (port i)).speed = s

/-- The positions of the ports, in the order of the requests. -/
def PortPlan.positions {want : List PortRequirement} {ports : List Port}
    (p : PortPlan want ports) : List Nat :=
  List.ofFn fun i => (p.port i).val

section Ports

variable {want : List PortRequirement} {ports : List Port}

theorem portFits_iff {i j : Nat} (hi : i < want.length) (hj : j < ports.length) :
    portFits want ports i j = true ↔ ∀ s, want[i].speed = some s → ports[j].speed = s := by
  rw [portFits, List.getElem?_eq_getElem hi, List.getElem?_eq_getElem hj]
  cases hs : want[i].speed with
  | none => simp [hs]
  | some s =>
    simp only [hs, decide_eq_true_eq, Option.some.injEq, forall_eq']
    exact eq_comm

theorem lt_of_portFits {i j : Nat} (h : portFits want ports i j = true) : i < want.length := by
  refine Nat.lt_of_not_le fun hle => ?_
  rw [portFits, List.getElem?_eq_none hle] at h
  cases h

theorem matchPorts_of_le (h : want.length ≤ ports.length) : matchPorts want ports =
    (placeAll (portFits want ports) (List.range ports.length) (List.range want.length) {}).map
      fun m => (List.range want.length).map (portOf (List.range ports.length) m) :=
  if_neg (Nat.not_lt.mpr h)

theorem length_le_of_matchPorts {ps : List Nat} (h : matchPorts want ports = some ps) :
    want.length ≤ ports.length := by
  unfold matchPorts at h
  split at h
  · cases h
  · omega

theorem matchPorts_some {ps : List Nat} (h : matchPorts want ports = some ps) :
    ∃ p : PortPlan want ports, ps = p.positions := by
  rw [matchPorts_of_le (length_le_of_matchPorts h)] at h
  obtain ⟨m, hm, rfl⟩ := Option.map_eq_some_iff.mp h
  have hspec := placed_of_placeAll List.nodup_range hm
  have hport : ∀ i : Fin want.length, ∃ j : Fin ports.length, m.owner j = some i.val ∧
      portOf (List.range ports.length) m i = j ∧ portFits want ports i j = true := by
    intro i
    obtain ⟨j, hj, ho⟩ := (hspec.hasPort_iff i).mpr (by simp)
    obtain ⟨hmem, hfit⟩ := hspec.matching.fit j i hj ho
    exact ⟨⟨j, List.mem_range.mp hmem⟩, ho, portOf_eq hspec.matching ho, hfit⟩
  choose port hown hpos hfit using hport
  refine ⟨⟨⟨port, fun i k hik => ?_⟩, fun i => (portFits_iff i.2 (port i).2).mp (hfit i)⟩, ?_⟩
  · have hsome := (hown i).symm.trans (hik ▸ hown k)
    exact Fin.ext (Option.some.inj hsome)
  · refine List.ext_getElem (by simp [PortPlan.positions]) fun i hi _ => ?_
    simp only [List.length_map, List.length_range] at hi
    rw [List.getElem_map, List.getElem_range]
    simp only [PortPlan.positions, List.getElem_ofFn]
    exact hpos ⟨i, hi⟩

/-- **Whenever the requested ports can be told apart on the device, a choice is found.** -/
theorem exists_matchPorts (p : PortPlan want ports) : ∃ ps, matchPorts want ports = some ps := by
  rw [matchPorts_of_le (by simpa using Fintype.card_le_of_embedding p.port)]
  cases hm : placeAll (portFits want ports) (List.range ports.length) (List.range want.length) {} with
  | some m => exact ⟨_, rfl⟩
  | none =>
    let f : Nat → Nat := fun r => if h : r < want.length then (p.port ⟨r, h⟩).val else 0
    have hf : ∀ {r} (h : r < want.length), f r = (p.port ⟨r, h⟩).val := fun h => dif_pos h
    refine ((placeAll_spec (List.range want.length) [] {} (by simpa using List.nodup_range)
      placed_none).2 hm f (fun r hr => ?_) fun r hr s hs hrs => ?_).elim
    · have hr : r < want.length := by simpa using hr
      rw [hf hr]
      refine ⟨List.mem_range.mpr (p.port _).2, (portFits_iff hr (p.port _).2).mpr ?_⟩
      exact p.speed ⟨r, hr⟩
    · have hr : r < want.length := by simpa using hr
      have hs : s < want.length := by simpa using hs
      rw [hf hr, hf hs] at hrs
      exact congrArg Fin.val (p.port.injective (Fin.ext hrs))

end Ports

/-! ## Devices -/

/-- A wish, if there is one, is met up to the case of ASCII letters. -/
def Granted (wish : Option String) (actual : String) : Prop :=
  ∀ w, wish = some w → Text.lower w = Text.lower actual

theorem meets_iff {wish : Option String} {actual : String} :
    meets wish actual = true ↔ Granted wish actual := by
  cases wish with
  | none => simp [meets, Granted]
  | some w => simp [meets, Granted, Text.equalUpToCase]

/-- The device has every attribute that is asked for. -/
structure HasAttributes (d : InventoryDevice) (req : DeviceRequirement) : Prop where
  vendor : Granted req.vendor d.vendor
  hardwareModel : Granted req.hardwareModel d.hardwareModel
  softwareVersion : Granted req.softwareVersion d.softwareVersion

section Devices

variable {d : InventoryDevice} {req : DeviceRequirement}

theorem hasAttributes_iff : (meets req.vendor d.vendor && meets req.hardwareModel d.hardwareModel
    && meets req.softwareVersion d.softwareVersion) = true ↔ HasAttributes d req := by
  rw [Bool.and_eq_true, Bool.and_eq_true, meets_iff, meets_iff, meets_iff]
  exact ⟨fun h => ⟨h.1.1, h.1.2, h.2⟩, fun h => ⟨⟨h.vendor, h.hardwareModel⟩, h.softwareVersion⟩⟩

theorem satisfies_some {ps : List Nat} (h : satisfies d req = some ps) :
    HasAttributes d req ∧ ∃ p : PortPlan req.ports d.ports, ps = p.positions := by
  unfold satisfies at h
  split at h
  · rename_i hattr
    exact ⟨hasAttributes_iff.mp hattr, matchPorts_some h⟩
  · cases h

theorem exists_satisfies (hattr : HasAttributes d req) (p : PortPlan req.ports d.ports) :
    ∃ ps, satisfies d req = some ps := by
  unfold satisfies
  rw [if_pos (hasAttributes_iff.mpr hattr)]
  exact exists_matchPorts p

/-- A device of the role that meets the requirement on its own. -/
structure Suits (role : Role) (d : InventoryDevice) (req : DeviceRequirement) : Prop where
  role : d.role = role
  attributes : HasAttributes d req
  ports : Nonempty (PortPlan req.ports d.ports)

end Devices

/-! ## Candidates -/

section Candidates

variable {inv : Inventory} {role : Role} {used : List String} {req : DeviceRequirement}

theorem suits_of_mem_candidates {c : Candidate} (h : c ∈ candidates inv role used req) :
    ∃ hc : c.device < inv.devices.length, inv.devices[c.device].id ∉ used ∧
      Suits role inv.devices[c.device] req ∧
      ∃ p : PortPlan req.ports inv.devices[c.device].ports, c.ports = p.positions := by
  obtain ⟨⟨d, i⟩, hmem, hc⟩ := List.mem_filterMap.mp h
  obtain ⟨hi, rfl⟩ : ∃ hi : i < inv.devices.length, inv.devices[i] = d := by
    simpa [List.getElem?_eq_some_iff] using List.mem_zipIdx_iff_getElem?.mp hmem
  dsimp only at hc
  split at hc
  · rename_i hrole
    simp only [Bool.and_eq_true, decide_eq_true_eq, Bool.not_eq_true', List.contains_eq_mem,
      decide_eq_false_iff_not] at hrole
    obtain ⟨ps, hps, rfl⟩ := Option.map_eq_some_iff.mp hc
    obtain ⟨hattr, p, rfl⟩ := satisfies_some hps
    exact ⟨hi, hrole.2, ⟨hrole.1, hattr, ⟨p⟩⟩, p, rfl⟩
  · cases hc

theorem exists_candidate {i : Nat} (hi : i < inv.devices.length)
    (hunused : inv.devices[i].id ∉ used) (h : Suits role inv.devices[i] req) :
    ∃ c ∈ candidates inv role used req, c.device = i := by
  obtain ⟨hrole, hattr, ⟨p⟩⟩ := h
  obtain ⟨ps, hps⟩ := exists_satisfies hattr p
  refine ⟨⟨i, ps⟩, List.mem_filterMap.mpr ⟨(inv.devices[i], i), ?_, ?_⟩, rfl⟩
  · exact List.mem_zipIdx_iff_getElem?.mpr (List.getElem?_eq_getElem hi)
  · dsimp only
    rw [if_pos (by simp [hrole, hunused]), hps]
    rfl

/-- While no device of the role is in use, there is no candidate exactly if no device suits the
requirement. -/
theorem candidates_eq_nil_iff (hfree : ∀ d ∈ inv.devices, d.role = role → d.id ∉ used) :
    candidates inv role used req = [] ↔ ∀ d ∈ inv.devices, ¬Suits role d req := by
  constructor
  · intro h d hd hsuits
    obtain ⟨i, hi, rfl⟩ := List.getElem_of_mem hd
    obtain ⟨c, hc, -⟩ := exists_candidate hi (hfree _ hd hsuits.role) hsuits
    rw [h] at hc
    cases hc
  · intro h
    refine List.eq_nil_iff_forall_not_mem.mpr fun c hc => ?_
    obtain ⟨hi, -, hsuits, -⟩ := suits_of_mem_candidates hc
    exact h _ (List.getElem_mem hi) hsuits

end Candidates

/-- A device of the role for every requirement: all different, each with the attributes that are
asked for and with ports for the requested ones. -/
structure DevicePlan (inv : Inventory) (role : Role) (reqs : List DeviceRequirement) where
  device : Fin reqs.length ↪ Fin inv.devices.length
  role_eq : ∀ i, (inv.devices.get (device i)).role = role
  attributes : ∀ i, HasAttributes (inv.devices.get (device i)) (reqs.get i)
  ports : ∀ i, PortPlan (reqs.get i).ports (inv.devices.get (device i)).ports

end SwitchTestbed.Placement
