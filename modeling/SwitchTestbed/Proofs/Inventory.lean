import Mathlib.Data.List.Nodup
import SwitchTestbed.Inventory

/-!
# Inventories that pass the check

* `deviceProblem_eq_none_iff` : when nothing is wrong with a device after those already seen;
* `nodup_id_of_validate`, `nodup_name_of_validate` : no two devices of a checked inventory have the
  same identifier or the same name;
* `ServicesConfig.configured` : the configured service of a protocol, as the registry of the
  device has it (`get?_registry`);
* `address_ne_of_validate` : in a checked inventory every configured service has an address.
-/

namespace SwitchTestbed

namespace Inventory

theorem deviceProblem_eq_none_iff {seen : List InventoryDevice} {d : InventoryDevice} :
    deviceProblem seen d = none ↔ (∀ e ∈ seen, e.id ≠ d.id) ∧ (∀ e ∈ seen, e.name ≠ d.name) ∧
      ∀ s ∈ d.services.toList, s.2.address.isEmpty = false := by
  unfold deviceProblem
  split
  · rename_i hid
    simp only [reduceCtorEq, false_iff, not_and]
    intro hids
    simp only [List.any_eq_true, decide_eq_true_eq] at hid
    obtain ⟨e, he, heq⟩ := hid
    exact absurd heq (hids e he)
  · rename_i hid
    have hids : ∀ e ∈ seen, e.id ≠ d.id := by simpa using hid
    split
    · rename_i hname
      simp only [reduceCtorEq, false_iff, not_and]
      intro _ hnames
      simp only [List.any_eq_true, decide_eq_true_eq] at hname
      obtain ⟨e, he, heq⟩ := hname
      exact absurd heq (hnames e he)
    · rename_i hname
      have hnames : ∀ e ∈ seen, e.name ≠ d.name := by simpa using hname
      simp only [Option.map_eq_none_iff, List.find?_eq_none, Bool.not_eq_true]
      exact ⟨fun h => ⟨hids, hnames, h⟩, fun h => h.2.2⟩

/-- Devices with nothing wrong differ, in whatever the check compares, from one another and from
those seen. -/
theorem pairwise_of_firstProblem {f : InventoryDevice → String}
    (hf : ∀ seen d, deviceProblem seen d = none → ∀ e ∈ seen, f e ≠ f d) :
    ∀ {ds seen : List InventoryDevice}, firstProblem seen ds = none →
      ds.Pairwise (fun d e => f d ≠ f e) ∧ ∀ d ∈ ds, ∀ e ∈ seen, f e ≠ f d := by
  intro ds
  induction ds with
  | nil => exact fun _ => ⟨List.Pairwise.nil, fun _ hd => by cases hd⟩
  | cons d ds ih =>
    intro seen h
    rw [firstProblem] at h
    split at h
    · cases h
    · rename_i hnone
      obtain ⟨hpair, hseen⟩ := ih h
      refine ⟨List.pairwise_cons.mpr ⟨fun e he => hseen e he d (by simp), hpair⟩, ?_⟩
      intro e he e' he'
      rcases List.mem_cons.mp he with rfl | he
      · exact hf seen e hnone e' he'
      · exact hseen e he e' (by simp [he'])

/-- With no device anything is wrong. -/
theorem deviceProblem_of_firstProblem : ∀ {ds seen : List InventoryDevice},
    firstProblem seen ds = none → ∀ d ∈ ds, ∃ seen', deviceProblem seen' d = none := by
  intro ds
  induction ds with
  | nil => exact fun _ _ hd => by cases hd
  | cons d ds ih =>
    intro seen h
    rw [firstProblem] at h
    split at h
    · cases h
    · rename_i hnone
      intro e he
      rcases List.mem_cons.mp he with rfl | he
      · exact ⟨seen, hnone⟩
      · exact ih h e he

section Validate

variable {inv : Inventory} (h : inv.validate = .ok ())

include h

theorem firstProblem_of_validate : firstProblem [] inv.devices = none := by
  unfold validate at h
  split at h
  · cases h
  · rename_i hnone
    exact hnone

theorem nodup_id_of_validate : (inv.devices.map InventoryDevice.id).Nodup :=
  List.pairwise_map.mpr (pairwise_of_firstProblem
    (fun _ _ hd => (deviceProblem_eq_none_iff.mp hd).1) (firstProblem_of_validate h)).1

theorem nodup_name_of_validate : (inv.devices.map InventoryDevice.name).Nodup :=
  List.pairwise_map.mpr (pairwise_of_firstProblem
    (fun _ _ hd => (deviceProblem_eq_none_iff.mp hd).2.1) (firstProblem_of_validate h)).1

/-- A device of a checked inventory is known by its identifier. -/
theorem eq_of_id_eq {d e : InventoryDevice} (hd : d ∈ inv.devices) (he : e ∈ inv.devices)
    (hid : d.id = e.id) : d = e :=
  List.inj_on_of_nodup_map (nodup_id_of_validate h) hd he hid

/-- A device of a checked inventory is known by its name. -/
theorem eq_of_name_eq {d e : InventoryDevice} (hd : d ∈ inv.devices) (he : e ∈ inv.devices)
    (hname : d.name = e.name) : d = e :=
  List.inj_on_of_nodup_map (nodup_name_of_validate h) hd he hname

end Validate

end Inventory

namespace ServicesConfig

/-- The configured service of a protocol. -/
def configured (c : ServicesConfig) : Protocol → Option ServiceConfig
  | .gnmi => c.gnmi
  | .gnoi => c.gnoi
  | .p4rt => c.p4rt
  | .http => none
  | .console => none

theorem get?_registry (c : ServicesConfig) (p : Protocol) :
    c.registry.get? p = (c.configured p).map ServiceConfig.entry := by
  obtain ⟨gnmi, gnoi, p4rt⟩ := c
  cases gnmi <;> cases gnoi <;> cases p4rt <;> cases p <;> rfl

theorem mem_toList {c : ServicesConfig} {p : Protocol} {s : ServiceConfig}
    (h : c.configured p = some s) : (p, s) ∈ c.toList := by
  cases p <;> simp_all [configured, toList]

end ServicesConfig

/-- No service of a checked inventory is configured without an address. -/
theorem Inventory.address_ne_of_validate {inv : Inventory} (h : inv.validate = .ok ())
    {d : InventoryDevice} (hd : d ∈ inv.devices) {p : Protocol} {s : ServiceConfig}
    (hs : d.services.configured p = some s) : s.address ≠ "" := by
  obtain ⟨seen, hnone⟩ := deviceProblem_of_firstProblem (firstProblem_of_validate h) d hd
  obtain ⟨-, -, haddresses⟩ := deviceProblem_eq_none_iff.mp hnone
  simpa using haddresses (p, s) (ServicesConfig.mem_toList hs)

end SwitchTestbed
