import Mathlib.Data.List.FinRange
import SwitchTestbed.Proofs.Placement.Plan
import SwitchTestbed.Proofs.Placement.Selection

/-!
# Devices for the requirements of a role

* `requirementRows` : the requirements with their candidates; `searchOrder_perm` : the search order
  loses none of them;
* `exists_plan_of_choice`, `exists_choice_of_plan` : choices of candidates are plans on devices
  whose identifiers are not in use;
* `Refusal` : why a role gets no devices, and the words for it;
* `allocate_of_sorted` : `allocate` where the requirements stand in the order of the search;
* `allocate_ok`, `isEmpty_of_allocate`, `refusal_of_allocate` : `allocate` follows a plan, finds
  one if there is one, and refuses for the first reason; `allocate_first` : the plan is that of the
  first choice.
-/

namespace SwitchTestbed.Placement

/-! ## The order of the search -/

/-- The requirements at their places, with their candidates. -/
def requirementRows (inv : Inventory) (role : Role) (used : List String)
    (reqs : List DeviceRequirement) : List Row :=
  reqs.zipIdx.map fun (req, i) => ⟨i, req, candidates inv role used req⟩

/-- The requirement at one place. -/
def rowAt (inv : Inventory) (role : Role) (used : List String) (reqs : List DeviceRequirement)
    (i : Fin reqs.length) : Row :=
  ⟨i, reqs.get i, candidates inv role used (reqs.get i)⟩

/-- The places of the requirements in the order of the search. -/
def searchPlaces (inv : Inventory) (role : Role) (used : List String)
    (reqs : List DeviceRequirement) : List Nat :=
  (searchOrder (requirementRows inv role used reqs)).map Row.place

/-- The candidates of the requirements, by their places. -/
def candidateTable (inv : Inventory) (role : Role) (used : List String)
    (reqs : List DeviceRequirement) : List (List Candidate) :=
  (requirementRows inv role used reqs).map Row.candidates

section Rows

variable {inv : Inventory} {role : Role} {used : List String} {reqs : List DeviceRequirement}

theorem requirementRows_eq_ofFn :
    requirementRows inv role used reqs = List.ofFn (rowAt inv role used reqs) :=
  List.ext_getElem (by simp [requirementRows]) fun i _ _ => by simp [requirementRows, rowAt]

theorem mem_requirementRows {row : Row} :
    row ∈ requirementRows inv role used reqs ↔ ∃ i, rowAt inv role used reqs i = row := by
  rw [requirementRows_eq_ofFn, List.mem_ofFn]

theorem map_requirement_requirementRows :
    (requirementRows inv role used reqs).map Row.requirement = reqs := by
  rw [requirementRows_eq_ofFn, List.map_ofFn]
  exact List.ofFn_getElem

/-- Sorting by the number of candidates keeps every requirement. -/
theorem searchOrder_perm (rows : List Row) : (searchOrder rows).Perm rows :=
  List.mergeSort_perm rows _

/-- No row has fewer candidates than one before it. -/
def Sorted (rows : List Row) : Prop :=
  rows.Pairwise fun a b => a.candidates.length ≤ b.candidates.length

instance (rows : List Row) : Decidable (Sorted rows) := inferInstanceAs (Decidable (rows.Pairwise _))

theorem searchOrder_of_sorted {rows : List Row} (h : Sorted rows) : searchOrder rows = rows :=
  List.mergeSort_of_pairwise (h.imp fun hab => decide_eq_true hab)

theorem searchPlaces_perm (inv : Inventory) (role : Role) (used : List String)
    (reqs : List DeviceRequirement) :
    (searchPlaces inv role used reqs).Perm (List.range reqs.length) := by
  have hrows : (requirementRows inv role used reqs).map Row.place = List.range reqs.length := by
    rw [requirementRows_eq_ofFn, List.map_ofFn]
    exact List.ext_getElem (by simp) fun i _ _ => by simp [rowAt]
  exact hrows ▸ (searchOrder_perm _).map Row.place

theorem mem_searchPlaces (i : Fin reqs.length) : i.val ∈ searchPlaces inv role used reqs :=
  (searchPlaces_perm inv role used reqs).mem_iff.mpr (List.mem_range.mpr i.2)

theorem lt_of_mem_searchPlaces {r : Nat} (h : r ∈ searchPlaces inv role used reqs) :
    r < reqs.length :=
  List.mem_range.mp ((searchPlaces_perm inv role used reqs).mem_iff.mp h)

theorem candidateAt?_table (i : Fin reqs.length) (position : Nat) :
    candidateAt? (candidateTable inv role used reqs) i position =
      (candidates inv role used (reqs.get i))[position]? := by
  simp [candidateAt?, candidateTable, requirementRows_eq_ofFn, List.getD_eq_getElem?_getD, rowAt]

end Rows

/-! ## Plans and choices -/

/-- The identifiers of the devices are not in use. -/
def DevicePlan.Avoids {inv : Inventory} {role : Role} {reqs : List DeviceRequirement}
    (p : DevicePlan inv role reqs) (used : List String) : Prop :=
  ∀ i, (inv.devices.get (p.device i)).id ∉ used

section Plans

variable {inv : Inventory} {role : Role} {used : List String} {reqs : List DeviceRequirement}
  {order : List Nat}

/-- A choice for all requirements is a plan. -/
theorem exists_plan_of_choice {f : Nat → Nat} (hall : ∀ i : Fin reqs.length, i.val ∈ order)
    (h : Choice (candidateTable inv role used reqs) order [] f) :
    ∃ p : DevicePlan inv role reqs, p.Avoids used ∧ ∀ i : Fin reqs.length,
      candidateAt? (candidateTable inv role used reqs) i (f i) =
        some ⟨p.device i, (p.ports i).positions⟩ := by
  choose c hc _ using fun i : Fin reqs.length => h.free i (hall i)
  have hmem : ∀ i, c i ∈ candidates inv role used (reqs.get i) := fun i =>
    List.mem_of_getElem? ((candidateAt?_table i (f i)).symm.trans (hc i))
  choose hlt hunused hsuits ports hports using fun i => suits_of_mem_candidates (hmem i)
  let device : Fin reqs.length → Fin inv.devices.length := fun i => ⟨(c i).device, hlt i⟩
  have hinj : Function.Injective device := fun i k hik =>
    Fin.ext (h.distinct i (hall i) k (hall k) _ _ (hc i) (hc k) (congrArg Fin.val hik))
  refine ⟨⟨⟨device, hinj⟩, fun i => (hsuits i).role, fun i => (hsuits i).attributes, ports⟩,
    hunused, fun i => (hc i).trans (congrArg some ?_)⟩
  show c i = ⟨(c i).device, (ports i).positions⟩
  rw [← hports i]

/-- A plan is a choice of candidates, in whatever order the requirements are searched. -/
theorem exists_choice_of_plan (hlt : ∀ r ∈ order, r < reqs.length) (p : DevicePlan inv role reqs)
    (hp : p.Avoids used) : ∃ f, Choice (candidateTable inv role used reqs) order [] f ∧
      ∀ i : Fin reqs.length, ∃ c,
        candidateAt? (candidateTable inv role used reqs) i (f i) = some c ∧
          c.device = p.device i := by
  have hcand : ∀ i, ∃ (position : Nat) (c : Candidate),
      (candidates inv role used (reqs.get i))[position]? = some c ∧ c.device = p.device i := by
    intro i
    obtain ⟨c, hc, hdevice⟩ := exists_candidate (p.device i).2 (hp i)
      ⟨p.role_eq i, p.attributes i, ⟨p.ports i⟩⟩
    obtain ⟨position, hposition⟩ := List.getElem?_of_mem hc
    exact ⟨position, c, hposition, hdevice⟩
  choose position c hc hdevice using hcand
  let f : Nat → Nat := fun r => if h : r < reqs.length then position ⟨r, h⟩ else 0
  have hf : ∀ i : Fin reqs.length,
      candidateAt? (candidateTable inv role used reqs) i (f i) = some (c i) := by
    intro i
    rw [candidateAt?_table, show f i = position i from dif_pos i.2]
    exact hc i
  refine ⟨f, ⟨fun r hr => ⟨c ⟨r, hlt r hr⟩, hf ⟨r, hlt r hr⟩, List.not_mem_nil⟩, ?_⟩,
    fun i => ⟨c i, hf i, hdevice i⟩⟩
  intro r hr r' hr' e e' he he' hee
  obtain rfl := Option.some.inj ((hf ⟨r, hlt r hr⟩).symm.trans he)
  obtain rfl := Option.some.inj ((hf ⟨r', hlt r' hr'⟩).symm.trans he')
  rw [hdevice, hdevice] at hee
  exact congrArg Fin.val (p.device.injective (Fin.ext hee))

end Plans

/-! ## Allocation -/

/-- Why the requirements of a role get no devices, and the words for it, where the role goes by
`title`: the first requirement that no device suits on its own is named, and only if there is none,
it is said that they do not go together. -/
inductive Refusal (inv : Inventory) (role : Role) (title : String)
    (reqs : List DeviceRequirement) : AllocationError → String → Prop where
  | noDevice (before : List DeviceRequirement) (req : DeviceRequirement)
      (after : List DeviceRequirement) (split : reqs = before ++ req :: after)
      (earlier : ∀ r ∈ before, ∃ d ∈ inv.devices, Suits role d r)
      (unsuited : ∀ d ∈ inv.devices, ¬Suits role d req) :
      Refusal inv role title reqs (.noDevice role req.id)
        ("no free inventory device satisfies " ++ title ++ " " ++ Text.quote req.id)
  | notTogether (each : ∀ r ∈ reqs, ∃ d ∈ inv.devices, Suits role d r) :
      Refusal inv role title reqs (.notTogether role reqs.length)
        ("free inventory devices cannot satisfy all " ++ toString reqs.length ++ " " ++ title
          ++ " requirements together")

section Allocate

variable {inv : Inventory} {role : Role} {reqs : List DeviceRequirement} {used used' : List String}
  {granted : List ReservedDevice} {e : AllocationError}

/-- What is known about the device chosen for a requirement. -/
def grantAt (inv : Inventory) (s : Selection) (row : Row) : Option (ReservedDevice × String) := do
  let c ← row.candidates[s.position row.place]?
  let d ← inv.devices[c.device]?
  some (reserved d row.requirement c.ports, d.id)

theorem grantAt_eq {s : Selection} {row : Row} {c : Candidate}
    (hc : row.candidates[s.position row.place]? = some c) (hlt : c.device < inv.devices.length) :
    grantAt inv s row = some (reserved inv.devices[c.device] row.requirement c.ports,
      inv.devices[c.device].id) := by
  simp [grantAt, hc, hlt]

/-- What is known about the chosen devices, in the order of the requirements. -/
def grants (inv : Inventory) (s : Selection) (rows : List Row) : List (ReservedDevice × String) :=
  rows.filterMap (grantAt inv s)

theorem grants_eq_ofFn {s : Selection} {g : Fin reqs.length → ReservedDevice × String}
    (h : ∀ i, grantAt inv s (rowAt inv role used reqs i) = some (g i)) :
    grants inv s (requirementRows inv role used reqs) = List.ofFn g := by
  rw [grants, requirementRows_eq_ofFn, List.ofFn_eq_map, List.ofFn_eq_map, List.filterMap_map,
    ← List.filterMap_eq_map]
  exact List.filterMap_congr fun i _ => h i

theorem allocate_eq : allocate inv role reqs used =
    match (requirementRows inv role used reqs).find? fun r => r.candidates.isEmpty with
    | some r => .error (.noDevice role r.requirement.id)
    | none =>
      match select (candidateTable inv role used reqs)
        ((searchOrder (requirementRows inv role used reqs)).map Row.place) (.start reqs.length) with
      | (false, _) => .error (.notTogether role reqs.length)
      | (true, s) =>
        .ok ((grants inv s (requirementRows inv role used reqs)).map Prod.fst,
          used ++ (grants inv s (requirementRows inv role used reqs)).map Prod.snd) := rfl

/-- `allocate` without the sort: the requirements are searched in their own order. -/
def allocateAsListed (inv : Inventory) (role : Role) (reqs : List DeviceRequirement)
    (used : List String) : Except AllocationError (List ReservedDevice × List String) :=
  let rows := requirementRows inv role used reqs
  match rows.find? fun r => r.candidates.isEmpty with
  | some r => .error (.noDevice role r.requirement.id)
  | none =>
    match select (candidateTable inv role used reqs) (rows.map Row.place) (.start reqs.length) with
    | (false, _) => .error (.notTogether role reqs.length)
    | (true, s) => .ok ((grants inv s rows).map Prod.fst, used ++ (grants inv s rows).map Prod.snd)

/-- Requirements that stand in the order of the search are searched as they stand. A sort is not
computed by reduction, so that this is how `allocate` is worked out on given devices. -/
theorem allocate_of_sorted (h : Sorted (requirementRows inv role used reqs)) :
    allocate inv role reqs used = allocateAsListed inv role reqs used := by
  rw [allocate_eq, searchOrder_of_sorted h]
  rfl

/-- What the search for the requirements leaves behind. -/
theorem selected_requirements (inv : Inventory) (role : Role) (used : List String)
    (reqs : List DeviceRequirement) :
    Selected (candidateTable inv role used reqs) (searchPlaces inv role used reqs)
      (.start reqs.length) (select (candidateTable inv role used reqs)
        ((searchOrder (requirementRows inv role used reqs)).map Row.place)
        (.start reqs.length)) := by
  refine select_spec _ (searchPlaces inv role used reqs) _ ?_ fun r hr => ?_
  · exact (searchPlaces_perm inv role used reqs).nodup_iff.mpr List.nodup_range
  · rw [Selection.start, List.length_replicate]
    exact lt_of_mem_searchPlaces hr

/-- **What is granted follows the plan of the first choice.** -/
theorem allocate_first (h : allocate inv role reqs used = .ok (granted, used')) :
    ∃ (p : DevicePlan inv role reqs) (f : Nat → Nat), p.Avoids used ∧
      FirstChoice (candidateTable inv role used reqs) (searchPlaces inv role used reqs) [] f ∧
      (∀ i : Fin reqs.length, candidateAt? (candidateTable inv role used reqs) i (f i) =
        some ⟨p.device i, (p.ports i).positions⟩) ∧
      granted = List.ofFn (fun i =>
        reserved (inv.devices.get (p.device i)) (reqs.get i) (p.ports i).positions) ∧
      used' = used ++ List.ofFn fun i => (inv.devices.get (p.device i)).id := by
  have hselected := selected_requirements inv role used reqs
  rw [allocate_eq] at h
  split at h
  · cases h
  split at h
  · cases h
  rename_i s hsearch
  rw [hsearch] at hselected
  have hfirst := hselected.found rfl
  obtain ⟨p, havoids, hp⟩ := exists_plan_of_choice mem_searchPlaces hfirst.choice
  have hgrant : ∀ i, grantAt inv s (rowAt inv role used reqs i) =
      some (reserved (inv.devices.get (p.device i)) (reqs.get i) (p.ports i).positions,
        (inv.devices.get (p.device i)).id) := by
    intro i
    have hc : (rowAt inv role used reqs i).candidates[s.position i]? =
        some ⟨p.device i, (p.ports i).positions⟩ := (candidateAt?_table i _).symm.trans (hp i)
    exact grantAt_eq hc (p.device i).2
  simp only [grants_eq_ofFn hgrant, List.map_ofFn] at h
  obtain ⟨rfl, rfl⟩ := Prod.mk.inj (Except.ok.inj h)
  exact ⟨p, s.position, havoids, hfirst, hp, rfl, rfl⟩

/-- **What is granted follows a plan.** -/
theorem allocate_ok (h : allocate inv role reqs used = .ok (granted, used')) :
    ∃ p : DevicePlan inv role reqs, p.Avoids used ∧
      granted = List.ofFn (fun i =>
        reserved (inv.devices.get (p.device i)) (reqs.get i) (p.ports i).positions) ∧
      used' = used ++ List.ofFn fun i => (inv.devices.get (p.device i)).id := by
  obtain ⟨p, -, havoids, -, -, hgranted, hused⟩ := allocate_first h
  exact ⟨p, havoids, hgranted, hused⟩

/-- **If there are devices that are not in use, they are granted.** -/
theorem exists_allocate (p : DevicePlan inv role reqs) (hp : p.Avoids used) :
    ∃ r, allocate inv role reqs used = .ok r := by
  have hfind :
      (requirementRows inv role used reqs).find? (fun r => r.candidates.isEmpty) = none := by
    rw [List.find?_eq_none]
    intro row hrow hempty
    obtain ⟨i, rfl⟩ := mem_requirementRows.mp hrow
    obtain ⟨c, hc, -⟩ := exists_candidate (p.device i).2 (hp i)
      ⟨p.role_eq i, p.attributes i, ⟨p.ports i⟩⟩
    rw [show candidates inv role used (reqs.get i) = [] from List.isEmpty_iff.mp hempty] at hc
    cases hc
  have hselected := selected_requirements inv role used reqs
  obtain ⟨f, hf, -⟩ := exists_choice_of_plan (fun _ => lt_of_mem_searchPlaces) p hp
  rw [allocate_eq, hfind]
  dsimp only
  split
  · rename_i r hsearch
    rw [hsearch] at hselected
    exact absurd hf ((hselected.lost rfl).2 f)
  · exact ⟨_, rfl⟩

theorem isEmpty_of_allocate (hfree : ∀ d ∈ inv.devices, d.role = role → d.id ∉ used)
    (h : allocate inv role reqs used = .error e) : IsEmpty (DevicePlan inv role reqs) := by
  refine ⟨fun p => ?_⟩
  obtain ⟨r, hr⟩ := exists_allocate p fun i => hfree _ (List.getElem_mem _) (p.role_eq i)
  rw [h] at hr
  cases hr

/-- While no device of the role is in use, a requirement has candidates exactly if some device
suits it. -/
theorem isEmpty_candidates_eq_false {row : Row}
    (hfree : ∀ d ∈ inv.devices, d.role = role → d.id ∉ used)
    (hrow : row ∈ requirementRows inv role used reqs) (h : row.candidates.isEmpty = false) :
    ∃ d ∈ inv.devices, Suits role d row.requirement := by
  obtain ⟨i, rfl⟩ := mem_requirementRows.mp hrow
  by_contra hnone
  push Not at hnone
  have hnil : candidates inv role used (reqs.get i) = [] := (candidates_eq_nil_iff hfree).mpr hnone
  simp only [rowAt, hnil, List.isEmpty_nil, Bool.true_eq_false] at h

/-- **A refusal names its reason**, and so does its text. -/
theorem refusal_of_allocate (hfree : ∀ d ∈ inv.devices, d.role = role → d.id ∉ used)
    (h : allocate inv role reqs used = .error e) :
    Refusal inv role role.title reqs e e.message := by
  rw [allocate_eq] at h
  split at h
  · rename_i row hfind
    cases h
    obtain ⟨hempty, before, after, hsplit, hbefore⟩ := List.find?_eq_some_iff_append.mp hfind
    have hmem : ∀ r, r ∈ before ∨ r = row → r ∈ requirementRows inv role used reqs := by
      intro r hr
      rw [hsplit]
      rcases hr with hr | rfl
      · simp [hr]
      · simp
    refine .noDevice (before.map Row.requirement) row.requirement (after.map Row.requirement)
      ?_ ?_ ?_
    · rw [← List.map_cons, ← List.map_append, ← hsplit, map_requirement_requirementRows]
    · intro r hr
      obtain ⟨row', hrow', rfl⟩ := List.mem_map.mp hr
      exact isEmpty_candidates_eq_false hfree (hmem row' (Or.inl hrow'))
        (by simpa using hbefore row' hrow')
    · obtain ⟨i, rfl⟩ := mem_requirementRows.mp (hmem row (Or.inr rfl))
      exact (candidates_eq_nil_iff hfree).mp (List.isEmpty_iff.mp hempty)
  · rename_i hfind
    split at h
    · cases h
      refine .notTogether fun r hr => ?_
      have hr' : r ∈ (requirementRows inv role used reqs).map Row.requirement := by
        rwa [map_requirement_requirementRows]
      obtain ⟨row, hrow, rfl⟩ := List.mem_map.mp hr'
      exact isEmpty_candidates_eq_false hfree hrow
        (by simpa using List.find?_eq_none.mp hfind row hrow)
    · cases h

end Allocate

end SwitchTestbed.Placement
