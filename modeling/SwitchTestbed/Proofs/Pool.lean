import SwitchTestbed.Backend
import SwitchTestbed.Proofs.Placement.Grant

/-!
# What a pool grants

* `Placeable` : there is a plan for either role of a testbed;
* `TestbedRefusal` : why a testbed gets no devices, and the words for it, the devices under test
  being judged first;
* `Pool.place_of_sorted` : the devices for a testbed whose requirements need not be sorted;
* `Pool.place_entries`, `Pool.place_follows`, `Pool.refusal_of_place` : the devices for a testbed
  follow plans, and if there are none, there is no plan;
* `Pool.reserve_cases`, `Pool.reserve_entries` : all that an attempt to reserve can do, and what it
  grants;
* `rack`, `pair` : a small inventory and a testbed that it has devices for;
* `reserve_complete` : a free pool grants a testbed exactly if there is a plan for it;
* `reserve_sound` : whatever a pool grants follows a plan.
-/

namespace SwitchTestbed

open Placement

/-- There is a plan for either role. -/
def Placeable (inv : Inventory) (t : Testbed) : Prop :=
  Nonempty (DevicePlan inv .dut t.duts) ∧ Nonempty (DevicePlan inv .ate t.ates)

/-- Why a testbed gets no devices, and the words for it: the devices under test are judged first. -/
inductive TestbedRefusal (inv : Inventory) (t : Testbed) (e : AllocationError) (text : String) :
    Prop where
  | duts (unplaceable : IsEmpty (DevicePlan inv .dut t.duts))
      (reason : Refusal inv .dut "Dut" t.duts e text)
  | ates (duts : Nonempty (DevicePlan inv .dut t.duts))
      (unplaceable : IsEmpty (DevicePlan inv .ate t.ates))
      (reason : Refusal inv .ate "Ate" t.ates e text)

theorem TestbedRefusal.not_placeable {inv : Inventory} {t : Testbed} {e : AllocationError}
    {text : String} (h : TestbedRefusal inv t e text) : ¬Placeable inv t := by
  rintro ⟨⟨q⟩, ⟨q'⟩⟩
  cases h with
  | duts unplaceable reason => exact unplaceable.false q
  | ates duts unplaceable reason => exact unplaceable.false q'

namespace Pool

/-! ## Devices for a testbed -/

section Place

variable {p : Pool} {t : Testbed} {duts ates : List ReservedDevice} {used : List String}
  {e : AllocationError}

theorem place_eq (p : Pool) (t : Testbed) : p.place t =
    match allocate p.inventory .dut t.duts [] with
    | .error e => .error e
    | .ok (duts, used) =>
      match allocate p.inventory .ate t.ates used with
      | .error e => .error e
      | .ok (ates, used) => .ok (duts, ates, used) := by
  unfold place
  cases allocate p.inventory .dut t.duts [] with
  | error e => rfl
  | ok r =>
    obtain ⟨duts, used⟩ := r
    dsimp only [bind, Except.bind]
    cases allocate p.inventory .ate t.ates used <;> rfl

/-- The devices of either role where the requirements stand in the order of the search. -/
theorem place_of_sorted {inv : Inventory} {active : Option ActiveReservation}
    (used : List String) {used' : List String}
    (hduts : Sorted (requirementRows inv .dut [] t.duts))
    (hates : Sorted (requirementRows inv .ate used t.ates))
    (hd : allocateAsListed inv .dut t.duts [] = .ok (duts, used))
    (ha : allocateAsListed inv .ate t.ates used = .ok (ates, used')) :
    place ⟨inv, active⟩ t = .ok (duts, ates, used') := by
  rw [place_eq, allocate_of_sorted hduts, hd]
  dsimp only
  rw [allocate_of_sorted hates, ha]

/-- The identifiers of the entries that the devices of a plan are granted from. -/
def entryIds {inv : Inventory} {role : Role} {reqs : List DeviceRequirement}
    (plan : DevicePlan inv role reqs) : List String :=
  List.ofFn fun i => (inv.devices.get (plan.device i)).id

/-- Devices for a testbed follow a plan for either role, whose entries are in use then. -/
theorem place_entries (h : p.place t = .ok (duts, ates, used)) :
    ∃ (q : DevicePlan p.inventory .dut t.duts) (q' : DevicePlan p.inventory .ate t.ates),
      Follows q duts ∧ Follows q' ates ∧ used = entryIds q ++ entryIds q' := by
  rw [place_eq] at h
  split at h
  · cases h
  rename_i hd
  split at h
  · cases h
  rename_i ha
  cases h
  obtain ⟨q, hq, rfl⟩ := allocate_follows hd
  obtain ⟨q', hq', hused⟩ := allocate_follows ha
  exact ⟨q, q', hq, hq', hused⟩

/-- **Devices for a testbed follow a plan for either role**, and no device serves in both. -/
theorem place_follows (h : p.place t = .ok (duts, ates, used)) :
    ∃ (q : DevicePlan p.inventory .dut t.duts) (q' : DevicePlan p.inventory .ate t.ates),
      (∀ i k, q.device i ≠ q'.device k) ∧ Follows q duts ∧ Follows q' ates := by
  obtain ⟨q, q', hq, hq', -⟩ := place_entries h
  refine ⟨q, q', fun i k hik => ?_, hq, hq'⟩
  have hrole := congrArg (fun j => (p.inventory.devices.get j).role) hik
  simp only [q.role_eq, q'.role_eq] at hrole
  cases hrole

/-- In a checked inventory no traffic generator has the identifier of a device under test. -/
theorem ates_unused {inv : Inventory} (hvalid : inv.validate = .ok ())
    (q : DevicePlan inv .dut t.duts) :
    ∀ d ∈ inv.devices, d.role = .ate →
      d.id ∉ [] ++ List.ofFn fun i => (inv.devices.get (q.device i)).id := by
  intro d hd hrole hmem
  rw [List.nil_append, List.mem_ofFn] at hmem
  obtain ⟨i, hi⟩ := hmem
  have heq : inv.devices.get (q.device i) = d :=
    Inventory.eq_of_id_eq hvalid (List.getElem_mem _) hd hi
  have hdut := q.role_eq i
  rw [heq, hrole] at hdut
  cases hdut

/-- **If there are no devices for a testbed, there is no plan for it.** -/
theorem refusal_of_place (hvalid : p.inventory.validate = .ok ()) (h : p.place t = .error e) :
    TestbedRefusal p.inventory t e e.message := by
  have hnone : ∀ d ∈ p.inventory.devices, d.role = .dut → d.id ∉ [] := fun _ _ _ =>
    List.not_mem_nil
  rw [place_eq] at h
  split at h
  · rename_i hd
    cases h
    exact .duts (isEmpty_of_allocate hnone hd) (refusal_of_allocate hnone hd)
  rename_i hd
  split at h
  · rename_i ha
    cases h
    obtain ⟨q, -, rfl⟩ := allocate_follows hd
    have hunused := ates_unused hvalid q
    exact .ates ⟨q⟩ (isEmpty_of_allocate hunused ha) (refusal_of_allocate hunused ha)
  · cases h

end Place

/-! ## Reservations of a pool -/

/-- The end of a reservation is never an error. -/
theorem exists_expiry {today : Timestamp} {runtime : Duration}
    (h : expiry today runtime ≠ .aborted) : ∃ expiresAt, expiry today runtime = .ok expiresAt := by
  unfold expiry at h ⊢
  split
  · exact ⟨none, rfl⟩
  · rename_i hlong
    rw [if_neg hlong] at h
    split
    · exact ⟨_, rfl⟩
    · rename_i hlast
      rw [if_neg hlast] at h
      exact absurd rfl h

section Reserve

variable {p : Pool} {d : Demand}

theorem reserve_cancelled (p : Pool) (d : Demand) : p.reserve true d = (p, .error .cancelled) := rfl

theorem reserve_active {a : ActiveReservation} (h : p.active = some a) :
    p.reserve false d = (p, .error (.allocation (.stillActive a.id))) := by
  simp [reserve, h]

theorem reserve_unplaced {e : AllocationError} (hfree : p.active = none)
    (h : p.place d.testbed = .error e) : p.reserve false d = (p, .error (.allocation e)) := by
  simp [reserve, hfree, h]

theorem reserve_placed {duts ates : List ReservedDevice} {used : List String}
    {expiresAt : Option Timestamp} (hfree : p.active = none)
    (h : p.place d.testbed = .ok (duts, ates, used))
    (hexp : expiry d.today d.runtime = .ok expiresAt) :
    p.reserve false d = ({ p with active := some ⟨d.freshId, used⟩ },
      .ok ⟨d.freshId, duts, ates, expiresAt⟩) := by
  simp [reserve, hfree, h, hexp]

end Reserve

/-- **All that an attempt to reserve can do**: it grants devices of a free pool, or it leaves the
pool as it is. -/
theorem reserve_cases (p : Pool) (cancelled : Bool) (d : Demand) :
    (∃ duts ates used expiresAt, p.active = none ∧ p.place d.testbed = .ok (duts, ates, used) ∧
      p.reserve cancelled d = ({ p with active := some ⟨d.freshId, used⟩ },
        .ok ⟨d.freshId, duts, ates, expiresAt⟩)) ∨
    (∃ e, p.reserve cancelled d = (p, .error e)) ∨ p.reserve cancelled d = (p, .aborted) := by
  unfold reserve
  split
  · exact Or.inr (Or.inl ⟨_, rfl⟩)
  split
  · exact Or.inr (Or.inl ⟨_, rfl⟩)
  rename_i hactive
  split
  · exact Or.inr (Or.inl ⟨_, rfl⟩)
  rename_i duts ates used hplace
  split
  · rename_i expiresAt hexpiry
    exact Or.inl ⟨duts, ates, used, expiresAt, hactive, hplace, rfl⟩
  · exact Or.inr (Or.inl ⟨_, rfl⟩)
  · exact Or.inr (Or.inr rfl)

/-- What is granted follows plans for whose entries the pool keeps account of. -/
theorem reserve_entries {p p' : Pool} {cancelled : Bool} {d : Demand} {t : Topology}
    (h : p.reserve cancelled d = (p', .ok t)) : p'.inventory = p.inventory ∧
      ∃ (q : DevicePlan p.inventory .dut d.testbed.duts)
        (q' : DevicePlan p.inventory .ate d.testbed.ates),
        Follows q t.duts ∧ Follows q' t.ates ∧
        p'.active = some ⟨t.id, entryIds q ++ entryIds q'⟩ := by
  rcases reserve_cases p cancelled d with
    ⟨duts, ates, used, expiresAt, -, hplace, heq⟩ | ⟨e, heq⟩ | heq <;> rw [heq] at h <;> cases h
  obtain ⟨q, q', hq, hq', rfl⟩ := place_entries hplace
  exact ⟨rfl, q, q', hq, hq', rfl⟩

end Pool

/-! ## A rack -/

/-- Two switches and a traffic generator. -/
def rack : Inventory where
  devices :=
    [{ id := "s1", name := "leaf1", vendor := "ARISTA", ports := [⟨"e0", .gb100⟩, ⟨"e1", .gb400⟩] },
      { id := "s2", name := "leaf2", ports := [⟨"e0", .gb100⟩] },
      { id := "g1", name := "gen1", role := .ate }]

/-- Two switches, of which the first gives its slower port to the second of two requested ones. -/
def pair : Testbed where
  duts :=
    [{ id := "a", vendor := some "arista", ports := [⟨"p0", none⟩, ⟨"p1", some .gb100⟩] },
      { id := "b" }]
  ates := [{ id := "g" }]

/-- The switches of the rack for `pair`. -/
def pairDuts : List ReservedDevice :=
  [reserved rack.devices[0] pair.duts[0] [1, 0], reserved rack.devices[1] pair.duts[1] []]

/-- The traffic generator of the rack for `pair`. -/
def pairAtes : List ReservedDevice := [reserved rack.devices[2] pair.ates[0] []]

theorem rack_place (a : Option ActiveReservation) :
    Pool.place ⟨rack, a⟩ pair = .ok (pairDuts, pairAtes, ["s1", "s2", "g1"]) :=
  Pool.place_of_sorted ["s1", "s2"] (by decide) (by decide) rfl rfl

/-- What is asked for when `pair` is reserved. -/
def pairDemand : Demand where
  testbed := pair
  freshId := "r1"
  today := 0

/-- A backend whose devices answer nothing. -/
def silentBackend : Backend (Stock Unit) Unit :=
  inventoryBackend .unsupported noConsoles

/-! ## Main results -/

section Main

variable {ω τ : Type} (S : Stubs ω τ) (connect : String → Work (Except String Console))

/-- **A free pool over a checked inventory grants a testbed exactly if there is a plan for it**, and
otherwise its error and the text of it name the reason. -/
theorem reserve_complete (c : Context) (now : Instant) (d : Demand) (s : Stock ω)
    (hvalid : s.pool.inventory.validate = .ok ()) (hfree : s.pool.active = none)
    (hlive : c.isCancelled now = false) (hexp : expiry d.today d.runtime ≠ .aborted) :
    ((∃ t, ((inventoryBackend S connect).reserve c now d s).2 = .ok t) ↔
      Placeable s.pool.inventory d.testbed) ∧
    (¬Placeable s.pool.inventory d.testbed → ∃ e text,
      ((inventoryBackend S connect).reserve c now d s).2 = .error (.allocation e) ∧
        TestbedRefusal s.pool.inventory d.testbed e text ∧
        (Error.allocation e).message = "Failed to reserve topology: " ++ text) := by
  have hanswer : ((inventoryBackend S connect).reserve c now d s).2 =
      (s.pool.reserve false d).2 := by
    rw [← hlive]
    rfl
  rw [hanswer]
  cases hplace : s.pool.place d.testbed with
  | ok r =>
    obtain ⟨duts, ates, used⟩ := r
    obtain ⟨expiresAt, hexpiry⟩ := Pool.exists_expiry hexp
    obtain ⟨q, q', -, -, -⟩ := Pool.place_follows hplace
    have hplaceable : Placeable s.pool.inventory d.testbed := ⟨⟨q⟩, ⟨q'⟩⟩
    rw [Pool.reserve_placed hfree hplace hexpiry]
    exact ⟨⟨fun _ => hplaceable, fun _ => ⟨_, rfl⟩⟩, fun h => absurd hplaceable h⟩
  | error e =>
    have hrefusal := Pool.refusal_of_place hvalid hplace
    rw [Pool.reserve_unplaced hfree hplace]
    refine ⟨⟨fun h => ?_, fun h => absurd h hrefusal.not_placeable⟩,
      fun _ => ⟨e, e.message, rfl, hrefusal, rfl⟩⟩
    obtain ⟨t, ht⟩ := h
    cases ht

theorem reserve_complete_pair :
    rack.validate = .ok () ∧
    ((∃ t, (silentBackend.reserve {} 0 pairDemand ⟨⟨rack, none⟩, ()⟩).2 = .ok t) ↔
      Placeable rack pair) :=
  ⟨rfl, (reserve_complete .unsupported noConsoles {} 0 pairDemand
    ⟨⟨rack, none⟩, ()⟩ rfl rfl rfl (by decide)).1⟩

/-- **Whatever a pool grants follows a plan**, over any inventory: one device of the right role for
every requirement and in their order, each with the attributes and ports that are asked for, and
none of them for two requirements. -/
theorem reserve_sound (c : Context) (now : Instant) (d : Demand) (s : Stock ω) (t : Topology)
    (h : ((inventoryBackend S connect).reserve c now d s).2 = .ok t) :
    ∃ (duts : DevicePlan s.pool.inventory .dut d.testbed.duts)
      (ates : DevicePlan s.pool.inventory .ate d.testbed.ates),
      (∀ i k, duts.device i ≠ ates.device k) ∧ Follows duts t.duts ∧ Follows ates t.ates := by
  have hanswer : (s.pool.reserve (c.isCancelled now) d).2 = .ok t := h
  rcases Pool.reserve_cases s.pool (c.isCancelled now) d with
    ⟨duts, ates, used, expiresAt, -, hplace, heq⟩ | ⟨e, heq⟩ | heq
  · rw [heq] at hanswer
    cases hanswer
    exact Pool.place_follows hplace
  · rw [heq] at hanswer
    cases hanswer
  · rw [heq] at hanswer
    cases hanswer

theorem reserve_sound_pair :
    (silentBackend.reserve {} 0 pairDemand ⟨⟨rack, none⟩, ()⟩).2 =
      .ok ⟨"r1", pairDuts, pairAtes, none⟩ ∧
    ∃ (duts : DevicePlan rack .dut pair.duts) (ates : DevicePlan rack .ate pair.ates),
      (∀ i k, duts.device i ≠ ates.device k) ∧ Follows duts pairDuts ∧ Follows ates pairAtes := by
  have hgranted : (silentBackend.reserve {} 0 pairDemand ⟨⟨rack, none⟩, ()⟩).2 =
      .ok ⟨"r1", pairDuts, pairAtes, none⟩ :=
    congrArg Prod.snd (Pool.reserve_placed (d := pairDemand) rfl (rack_place none) rfl)
  exact ⟨hgranted, reserve_sound .unsupported _ {} 0 pairDemand ⟨⟨rack, none⟩, ()⟩ _ hgranted⟩

end Main

end SwitchTestbed
