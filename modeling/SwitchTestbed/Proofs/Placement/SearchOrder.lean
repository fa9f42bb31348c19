import Mathlib.Data.List.NodupEquivFin
import Mathlib.SetTheory.Cardinal.Finite
import SwitchTestbed.Proofs.Placement.Grant

/-!
# The first placement in search order

* `Available` : a device that suits a requirement and is not in use; `length_candidates` : a
  requirement has as many candidates as there are available devices, in the order of the inventory
  (`pairwise_candidates`);
* `FewestFirst` : the order in which requirements are searched (`fewestFirst_requirementOrder`);
* `devices_notAfter` : choices are compared like the devices that they have;
* `placement_first_in_search_order` : devices are placed where the search, going through
  requirements and devices in their order, could place them first.
-/

namespace SwitchTestbed.Placement

/-! ## Candidates -/

/-- The device suits the requirement, and its identifier is not in use. -/
structure Available (inv : Inventory) (role : Role) (used : List String) (req : DeviceRequirement)
    (i : Fin inv.devices.length) : Prop where
  unused : (inv.devices.get i).id ∉ used
  suits : Suits role (inv.devices.get i) req

/-- How many devices are available for a requirement. -/
noncomputable def availableCount (inv : Inventory) (role : Role) (used : List String)
    (req : DeviceRequirement) : Nat :=
  Nat.card {i // Available inv role used req i}

section Candidates

variable {inv : Inventory} {role : Role} {used : List String} {req : DeviceRequirement}

/-- Candidates stand in the order of the inventory. -/
theorem pairwise_candidates (inv : Inventory) (role : Role) (used : List String)
    (req : DeviceRequirement) :
    (candidates inv role used req).Pairwise fun b c => b.device < c.device := by
  have hplaces : inv.devices.zipIdx.Pairwise fun a b => a.2 < b.2 := by
    rw [← List.pairwise_map, List.zipIdx_map_snd]
    exact List.pairwise_lt_range' 1
  have hplace : ∀ {d : InventoryDevice} {i : Nat} {c : Candidate},
      (if d.role = role && !used.contains d.id then (satisfies d req).map (⟨i, ·⟩) else none) =
        some c → c.device = i := by
    intro d i c hc
    split at hc
    · obtain ⟨ps, -, rfl⟩ := Option.map_eq_some_iff.mp hc
      rfl
    · cases hc
  refine List.pairwise_filterMap.mpr (hplaces.imp fun hab b hb c hc => ?_)
  rw [hplace hb, hplace hc]
  exact hab

/-- A candidate at a later position is a later device. -/
theorem device_lt_of_position_lt {j k : Nat} {b c : Candidate} (hjk : j < k)
    (hb : (candidates inv role used req)[j]? = some b)
    (hc : (candidates inv role used req)[k]? = some c) : b.device < c.device := by
  obtain ⟨hj, rfl⟩ := List.getElem?_eq_some_iff.mp hb
  obtain ⟨hk, rfl⟩ := List.getElem?_eq_some_iff.mp hc
  exact List.pairwise_iff_getElem.mp (pairwise_candidates inv role used req) j k hj hk hjk

theorem mem_map_device_iff (i : Fin inv.devices.length) :
    i.val ∈ (candidates inv role used req).map Candidate.device ↔
      Available inv role used req i := by
  rw [List.mem_map]
  constructor
  · rintro ⟨c, hc, hi⟩
    obtain ⟨hlt, hunused, hsuits, -⟩ := suits_of_mem_candidates hc
    obtain rfl : ⟨c.device, hlt⟩ = i := Fin.ext hi
    exact ⟨hunused, hsuits⟩
  · rintro ⟨hunused, hsuits⟩
    exact exists_candidate i.2 hunused hsuits

/-- A requirement has one candidate for each available device. -/
theorem length_candidates (inv : Inventory) (role : Role) (used : List String)
    (req : DeviceRequirement) :
    (candidates inv role used req).length = availableCount inv role used req := by
  let devices := (candidates inv role used req).map Candidate.device
  have hnodup : devices.Nodup :=
    List.pairwise_map.mpr ((pairwise_candidates inv role used req).imp Nat.ne_of_lt)
  have hlt : ∀ d ∈ devices, d < inv.devices.length := by
    intro d hd
    obtain ⟨c, hc, rfl⟩ := List.mem_map.mp hd
    exact (suits_of_mem_candidates hc).1
  let e : {d // d ∈ devices} ≃ {i // Available inv role used req i} :=
    { toFun := fun d => ⟨⟨d.1, hlt d.1 d.2⟩, (mem_map_device_iff ⟨d.1, hlt d.1 d.2⟩).mp d.2⟩
      invFun := fun i => ⟨i.1, (mem_map_device_iff i.1).mpr i.2⟩
      left_inv := fun _ => rfl
      right_inv := fun _ => rfl }
  rw [availableCount, ← Nat.card_congr ((hnodup.getEquiv devices).trans e), Nat.card_fin,
    List.length_map]

end Candidates

/-! ## The order of the search -/

/-- Every requirement once: those with fewer available devices first, and of those with equally many
the one that stands earlier. -/
structure FewestFirst (inv : Inventory) (role : Role) (used : List String)
    (reqs : List DeviceRequirement) (order : List (Fin reqs.length)) : Prop where
  all : order.Perm (List.finRange reqs.length)
  sorted : order.Pairwise fun i k =>
    availableCount inv role used (reqs.get i) < availableCount inv role used (reqs.get k) ∨
      availableCount inv role used (reqs.get i) = availableCount inv role used (reqs.get k) ∧ i < k

/-- The requirements in the order of the search. -/
def requirementOrder (inv : Inventory) (role : Role) (used : List String)
    (reqs : List DeviceRequirement) : List (Fin reqs.length) :=
  (List.finRange reqs.length).mergeSort fun i k =>
    (candidates inv role used (reqs.get i)).length ≤ (candidates inv role used (reqs.get k)).length

section Order

variable {inv : Inventory} {role : Role} {used : List String} {reqs : List DeviceRequirement}

theorem searchPlaces_eq : searchPlaces inv role used reqs =
    (requirementOrder inv role used reqs).map Fin.val := by
  have hrows : searchOrder (requirementRows inv role used reqs) =
      (requirementOrder inv role used reqs).map (rowAt inv role used reqs) := by
    rw [requirementRows_eq_ofFn, List.ofFn_eq_map]
    refine (List.map_mergeSort ?_).symm
    exact fun _ _ _ _ => rfl
  rw [searchPlaces, hrows, List.map_map]
  rfl

/-- Sorting by a number keeps equals in their order. -/
theorem pairwise_mergeSort_finRange {n : Nat} (count : Fin n → Nat) :
    ((List.finRange n).mergeSort fun i k => count i ≤ count k).Pairwise fun i k =>
      count i < count k ∨ count i = count k ∧ i < k := by
  let le : Fin n → Fin n → Bool := fun i k => count i ≤ count k
  have htrans : ∀ i k l, le i k = true → le k l = true → le i l = true := by
    simp only [le, decide_eq_true_eq]
    omega
  have htotal : ∀ i k, (le i k || le k i) = true := by
    simp only [le, Bool.or_eq_true, decide_eq_true_eq]
    omega
  have hsorted := List.pairwise_mergeSort htrans htotal (List.finRange n)
  -- those of one number are in the result as they were before
  have hstable : ∀ m, ((List.finRange n).mergeSort le).filter (count · = m) =
      (List.finRange n).filter (count · = m) := by
    intro m
    have hequal : ((List.finRange n).filter (count · = m)).Pairwise fun i k => le i k = true := by
      refine List.pairwise_of_forall_mem_list fun i hi k hk => ?_
      have hi : count i = m := by simpa using (List.mem_filter.mp hi).2
      have hk : count k = m := by simpa using (List.mem_filter.mp hk).2
      simp [le, hi, hk]
    have hkept := List.sublist_mergeSort htrans htotal hequal List.filter_sublist
    have hsub := hkept.filter (count · = m)
    simp only [List.filter_filter, Bool.and_self] at hsub
    exact (hsub.eq_of_length ((List.mergeSort_perm _ le).filter _).length_eq.symm).symm
  rw [List.pairwise_iff_forall_sublist]
  intro i k hik
  have hle : count i ≤ count k := by
    simpa [le] using List.pairwise_iff_forall_sublist.mp hsorted hik
  rcases Nat.lt_or_eq_of_le hle with hlt | heq
  · exact .inl hlt
  · refine .inr ⟨heq, ?_⟩
    have hkept := hik.filter (count · = count k)
    rw [hstable] at hkept
    have hpair : [i, k].Sublist (List.finRange n) := by
      refine List.Sublist.trans ?_ (List.filter_sublist (p := (count · = count k)))
      simpa [heq] using hkept
    exact List.pairwise_iff_forall_sublist.mp (List.pairwise_lt_finRange n) hpair

theorem fewestFirst_requirementOrder (inv : Inventory) (role : Role) (used : List String)
    (reqs : List DeviceRequirement) :
    FewestFirst inv role used reqs (requirementOrder inv role used reqs) where
  all := List.mergeSort_perm _ _
  sorted := by
    simp only [requirementOrder, length_candidates]
    exact pairwise_mergeSort_finRange fun i => availableCount inv role used (reqs.get i)

/-- Positions are compared like the numbers that stand there, if these grow with the position. -/
theorem NotAfter.map {α : Type} {f g f' g' : α → Nat} (heq : ∀ a, f a = g a → f' a = g' a)
    (hlt : ∀ a, f a < g a → f' a < g' a) : ∀ {l : List α}, NotAfter (l.map f) (l.map g) →
      NotAfter (l.map f') (l.map g') := by
  intro l
  induction l with
  | nil => exact fun _ => .inl rfl
  | cons a l ih =>
    simp only [List.map_cons, notAfter_cons_iff]
    rintro (h | ⟨h, hrest⟩)
    · exact .inl (hlt a h)
    · exact .inr ⟨heq a h, ih hrest⟩

/-- The plan of the first choice has the first devices. -/
theorem devices_notAfter {p : DevicePlan inv role reqs} {f : Nat → Nat}
    (hfirst : FirstChoice (candidateTable inv role used reqs) (searchPlaces inv role used reqs) []
      f)
    (hp : ∀ i : Fin reqs.length, candidateAt? (candidateTable inv role used reqs) i (f i) =
      some ⟨p.device i, (p.ports i).positions⟩)
    (q : DevicePlan inv role reqs) (hq : q.Avoids used) :
    NotAfter ((requirementOrder inv role used reqs).map fun i => (p.device i).val)
      ((requirementOrder inv role used reqs).map fun i => (q.device i).val) := by
  obtain ⟨g, hg, hgdevice⟩ := exists_choice_of_plan (fun _ => lt_of_mem_searchPlaces) q hq
  have hleast := hfirst.least g hg
  rw [searchPlaces_eq, List.map_map, List.map_map] at hleast
  refine hleast.map (fun i hi => ?_) fun i hi => ?_
  · obtain ⟨c, hc, hdevice⟩ := hgdevice i
    have hi : f i = g i := hi
    rw [← hi, hp i] at hc
    cases hc
    exact hdevice
  · obtain ⟨c, hc, hdevice⟩ := hgdevice i
    rw [candidateAt?_table] at hc
    rw [← hdevice]
    exact device_lt_of_position_lt hi ((candidateAt?_table i (f i)).symm.trans (hp i)) hc

end Order

/-! ## Main result -/

/-- **Devices are placed where the search could place them first.** Whatever the table, the order of
its rows and the devices taken, the search succeeds if and only if there is a choice, chooses the
first one in the lexicographic order of positions, and leaves the devices taken as they were if
there is none. So the devices granted for the requirements of a role are those of the plan that
comes first when requirements are compared in the order of the search. -/
theorem placement_first_in_search_order :
    (∀ (table : List (List Candidate)) (order : List Nat) (s : Selection), order.Nodup →
      (∀ r ∈ order, r < s.chosen.length) →
      ((select table order s).1 = true ↔ ∃ f, Choice table order s.taken f) ∧
      ((select table order s).1 = true →
        FirstChoice table order s.taken (select table order s).2.position) ∧
      ((select table order s).1 = false → (select table order s).2.taken = s.taken)) ∧
    ∀ (inv : Inventory) (role : Role) (used : List String) (reqs : List DeviceRequirement),
      ∃ order, FewestFirst inv role used reqs order ∧
        ((∃ r, allocate inv role reqs used = .ok r) ↔
          ∃ p : DevicePlan inv role reqs, p.Avoids used) ∧
        ∀ granted used', allocate inv role reqs used = .ok (granted, used') →
          ∃ p : DevicePlan inv role reqs, p.Avoids used ∧ Follows p granted ∧
            used' = used ++ List.ofFn (fun i => (inv.devices.get (p.device i)).id) ∧
            ∀ q : DevicePlan inv role reqs, q.Avoids used →
              NotAfter (order.map fun i => (p.device i).val)
                (order.map fun i => (q.device i).val) := by
  constructor
  · intro table order s hnodup hlt
    obtain ⟨-, -, hfound, hlost⟩ := select_spec table order s hnodup hlt
    refine ⟨⟨fun h => ⟨_, (hfound h).choice⟩, fun ⟨f, hf⟩ => ?_⟩, hfound, fun h => (hlost h).1⟩
    by_contra hfalse
    exact (hlost (Bool.not_eq_true _ ▸ hfalse)).2 f hf
  · intro inv role used reqs
    refine ⟨requirementOrder inv role used reqs, fewestFirst_requirementOrder inv role used reqs,
      ⟨?_, fun ⟨p, hp⟩ => exists_allocate p hp⟩, fun granted used' h => ?_⟩
    · rintro ⟨⟨granted, used'⟩, h⟩
      obtain ⟨p, hp, -⟩ := allocate_ok h
      exact ⟨p, hp⟩
    · obtain ⟨p, f, havoids, hfirst, hp, rfl, hused⟩ := allocate_first h
      exact ⟨p, havoids, follows_ofFn p, hused, devices_notAfter hfirst hp⟩

/-- The first row has to give up the device that it finds first; another device is not to be had. -/
def contested : List (List Candidate) := [[⟨2, []⟩, ⟨0, []⟩, ⟨1, []⟩], [⟨0, []⟩]]

/-- Two switches. -/
def vendors : Inventory where
  devices :=
    [{ id := "s1", name := "leaf1", vendor := "ARISTA" },
      { id := "s2", name := "leaf2", vendor := "CISCO" }]

/-- Any switch, and one that only the first switch is. -/
def anyThenArista : List DeviceRequirement :=
  [{ id := "a" }, { id := "b", vendor := some "arista" }]

def vendorsGranted : List ReservedDevice :=
  List.zipWith (reserved · · []) vendors.devices.reverse anyThenArista

theorem searchOrder_pair {a b : Row} (h : b.candidates.length < a.candidates.length) :
    searchOrder [a, b] = [b, a] := by
  have hnot : ¬a.candidates.length ≤ b.candidates.length := Nat.not_le.mpr h
  simp [searchOrder, List.mergeSort, hnot]

theorem vendors_allocate :
    allocate vendors .dut anyThenArista [] = .ok (vendorsGranted, ["s2", "s1"]) := by
  have hrows : requirementRows vendors .dut [] anyThenArista =
      [⟨0, anyThenArista[0], [⟨0, []⟩, ⟨1, []⟩]⟩, ⟨1, anyThenArista[1], [⟨0, []⟩]⟩] := rfl
  rw [allocate_eq, hrows, searchOrder_pair (by decide)]
  rfl

theorem placement_first_in_search_order_contested :
    select contested [0, 1] ⟨[2], [0, 0]⟩ = (true, ⟨[0, 1, 2], [2, 0]⟩) ∧
    FirstChoice contested [0, 1] [2] (Selection.position ⟨[0, 1, 2], [2, 0]⟩) ∧
    allocate vendors .dut anyThenArista [] = .ok (vendorsGranted, ["s2", "s1"]) ∧
    ∃ order, FewestFirst vendors .dut [] anyThenArista order ∧
      ∃ p : DevicePlan vendors .dut anyThenArista, Follows p vendorsGranted ∧
        ∀ q : DevicePlan vendors .dut anyThenArista, q.Avoids [] →
          NotAfter (order.map fun i => (p.device i).val) (order.map fun i => (q.device i).val) := by
  obtain ⟨hsearch, hallocate⟩ := placement_first_in_search_order
  obtain ⟨-, hfirst, -⟩ := hsearch contested [0, 1] ⟨[2], [0, 0]⟩ (by decide) (by decide)
  obtain ⟨order, horder, -, hplaced⟩ := hallocate vendors .dut [] anyThenArista
  obtain ⟨p, -, hp, -, hleast⟩ := hplaced vendorsGranted ["s2", "s1"] vendors_allocate
  exact ⟨rfl, hfirst rfl, vendors_allocate, order, horder, p, hp, hleast⟩

end SwitchTestbed.Placement
