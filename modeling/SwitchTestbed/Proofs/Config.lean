import SwitchTestbed.Config
import SwitchTestbed.Proofs.Inventory

/-!
# Configurations that are accepted

* `ServicesConfig.find?_toList` : services are looked through in the order of their protocols;
* `Flaw` : what may be wrong with a device behind others, and its rank;
* `Inventory.deviceProblem_eq_some_iff` : of the flaws of a device the check reports that of least
  rank;
* `FirstFlaw` : of those of many devices, the first of the earliest device that has one
  (`Inventory.firstProblem_eq_some_iff`);
* `Config.Usable` : a backend that there is, devices that are told apart, services with addresses;
* `accepts_usable` : the main result.
-/

namespace SwitchTestbed

/-! ## Services in their order -/

namespace ServicesConfig

variable {c : ServicesConfig} {p : Protocol} {s : ServiceConfig}

theorem mem_toList_iff : (p, s) ∈ c.toList ↔ c.configured p = some s := by
  refine ⟨fun h => ?_, mem_toList⟩
  cases p <;> simp [toList, configured] at h ⊢ <;> exact h

theorem pairwise_toList (c : ServicesConfig) :
    c.toList.Pairwise fun a b => a.1.index < b.1.index := by
  have hkept : ∀ (a : Protocol × Option ServiceConfig) b, b ∈ a.2.map (a.1, ·) → b.1 = a.1 := by
    rintro ⟨p, s⟩ b hb
    obtain ⟨s', -, rfl⟩ := Option.map_eq_some_iff.mp hb
    rfl
  refine List.Pairwise.filterMap _ (R := fun a b => a.1.index < b.1.index) ?_ ?_
  · intro a a' hlt b hb b' hb'
    rw [hkept a b hb, hkept a' b' hb']
    exact hlt
  · have hgnmi : Protocol.gnmi.index < Protocol.gnoi.index := by decide
    have hgnoi : Protocol.gnoi.index < Protocol.p4rt.index := by decide
    simp [hgnmi, hgnoi, Nat.lt_trans hgnmi hgnoi]

/-- The first service that is looked for comes before all others of its kind. -/
theorem find?_toList {found : Protocol × ServiceConfig → Bool}
    (h : c.toList.find? found = some (p, s)) :
    c.configured p = some s ∧ found (p, s) = true ∧
      ∀ q t, c.configured q = some t → found (q, t) = true → p.index ≤ q.index := by
  obtain ⟨hfound, before, after, hsplit, hbefore⟩ := List.find?_eq_some_iff_append.mp h
  have hmem : (p, s) ∈ c.toList := List.mem_of_find?_eq_some h
  refine ⟨mem_toList_iff.mp hmem, hfound, fun q t hq ht => ?_⟩
  have hall : (q, t) ∈ before ++ (p, s) :: after := hsplit ▸ mem_toList_iff.mpr hq
  have hsorted := hsplit ▸ c.pairwise_toList
  rcases List.mem_append.mp hall with hmem | hmem
  · have hnot := hbefore _ hmem
    simp [ht] at hnot
  · rcases List.mem_cons.mp hmem with heq | hmem
    · cases heq
      exact Nat.le_refl _
    · have hcons := (List.pairwise_append.mp hsorted).2.1
      exact Nat.le_of_lt ((List.pairwise_cons.mp hcons).1 _ hmem)

end ServicesConfig

/-! ## One device -/

/-- What may be wrong with a device. -/
inductive Flaw where
  | repeatedId
  | repeatedName
  | unaddressed (p : Protocol)

namespace Flaw

/-- Whether a device that stands behind others has a flaw. -/
def Mars (before : List InventoryDevice) (d : InventoryDevice) : Flaw → Prop
  | repeatedId => ∃ e ∈ before, e.id = d.id
  | repeatedName => ∃ e ∈ before, e.name = d.name
  | unaddressed p => ∃ s, d.services.configured p = some s ∧ s.address = ""

/-- Which of the flaws of a device comes first. -/
def rank : Flaw → Nat
  | repeatedId => 0
  | repeatedName => 1
  | unaddressed p => 2 + p.index

/-- How a flaw of a device is reported. -/
def error (d : InventoryDevice) : Flaw → ConfigError
  | repeatedId => .duplicateId d.id
  | repeatedName => .duplicateName d.name
  | unaddressed p => .emptyAddress d.id p

theorem rank_injective {f g : Flaw} (h : f.rank = g.rank) : f = g := by
  have hindex : ∀ p q : Protocol, p.index = q.index → p = q := by
    intro p q
    cases p <;> cases q <;> decide
  cases f <;> cases g <;> simp only [rank] at h
  case unaddressed.unaddressed p q => rw [hindex p q (Nat.add_left_cancel h)]
  all_goals first | rfl | omega

theorem mars_congr {before before' : List InventoryDevice} (h : ∀ x, x ∈ before ↔ x ∈ before')
    (d : InventoryDevice) (f : Flaw) : f.Mars before d ↔ f.Mars before' d := by
  cases f <;> simp [Mars, h]

/-- Of all flaws of a device it is the first. -/
structure IsFirst (before : List InventoryDevice) (d : InventoryDevice) (f : Flaw) : Prop where
  mars : f.Mars before d
  least : ∀ g : Flaw, g.Mars before d → f.rank ≤ g.rank

theorem IsFirst.unique {before : List InventoryDevice} {d : InventoryDevice} {f g : Flaw}
    (hf : f.IsFirst before d) (hg : g.IsFirst before d) : f = g :=
  rank_injective (Nat.le_antisymm (hf.least g hg.mars) (hg.least f hf.mars))

end Flaw

namespace Inventory

variable {seen : List InventoryDevice} {d : InventoryDevice}

theorem deviceProblem_none_iff_not_mars :
    deviceProblem seen d = none ↔ ∀ f : Flaw, ¬f.Mars seen d := by
  rw [deviceProblem_eq_none_iff]
  constructor
  · rintro ⟨hids, hnames, haddresses⟩ (_ | _ | p)
    · rintro ⟨e, he, heq⟩
      exact hids e he heq
    · rintro ⟨e, he, heq⟩
      exact hnames e he heq
    · rintro ⟨s, hs, hempty⟩
      have haddress := haddresses (p, s) (ServicesConfig.mem_toList hs)
      simp [hempty] at haddress
  · intro hnone
    refine ⟨fun e he heq => hnone .repeatedId ⟨e, he, heq⟩,
      fun e he heq => hnone .repeatedName ⟨e, he, heq⟩, ?_⟩
    rintro ⟨p, s⟩ hs
    have haddress : s.address ≠ "" := fun hempty =>
      hnone (.unaddressed p) ⟨s, ServicesConfig.mem_toList_iff.mp hs, hempty⟩
    simpa using haddress

/-- What is reported of a device is its first flaw. -/
theorem exists_isFirst_of_deviceProblem {cause : ConfigError}
    (h : deviceProblem seen d = some cause) : ∃ f : Flaw, f.IsFirst seen d ∧ cause = f.error d := by
  unfold deviceProblem at h
  by_cases hid : seen.any fun e => e.id = d.id
  · rw [if_pos hid] at h
    cases h
    exact ⟨.repeatedId, ⟨by simpa [Flaw.Mars] using hid, fun _ _ => Nat.zero_le _⟩, rfl⟩
  rw [if_neg hid] at h
  have hids : ¬Flaw.repeatedId.Mars seen d := by simpa [Flaw.Mars] using hid
  by_cases hname : seen.any fun e => e.name = d.name
  · rw [if_pos hname] at h
    cases h
    refine ⟨.repeatedName, ⟨by simpa [Flaw.Mars] using hname, fun g hg => ?_⟩, rfl⟩
    cases g with
    | repeatedId => exact absurd hg hids
    | repeatedName => exact Nat.le_refl _
    | unaddressed p => exact Nat.le_add_right_of_le (by decide)
  · rw [if_neg hname] at h
    have hnames : ¬Flaw.repeatedName.Mars seen d := by simpa [Flaw.Mars] using hname
    obtain ⟨⟨p, s⟩, hfound, rfl⟩ := Option.map_eq_some_iff.mp h
    obtain ⟨hs, hempty, hleast⟩ := ServicesConfig.find?_toList hfound
    refine ⟨.unaddressed p, ⟨⟨s, hs, by simpa using hempty⟩, fun g hg => ?_⟩, rfl⟩
    cases g with
    | repeatedId => exact absurd hg hids
    | repeatedName => exact absurd hg hnames
    | unaddressed q =>
      obtain ⟨t, ht, htempty⟩ := hg
      exact Nat.add_le_add_left (hleast q t ht (by simp [htempty])) 2

theorem deviceProblem_eq_some_iff {cause : ConfigError} :
    deviceProblem seen d = some cause ↔ ∃ f : Flaw, f.IsFirst seen d ∧ cause = f.error d := by
  refine ⟨exists_isFirst_of_deviceProblem, ?_⟩
  rintro ⟨f, hf, rfl⟩
  cases hproblem : deviceProblem seen d with
  | none => exact absurd hf.mars (deviceProblem_none_iff_not_mars.mp hproblem f)
  | some cause =>
    obtain ⟨g, hg, rfl⟩ := exists_isFirst_of_deviceProblem hproblem
    rw [hg.unique hf]

end Inventory

/-! ## Many devices -/

/-- A device of a list has a flaw, given those before it and others before the list. -/
def Flaw.MarsAt (seen ds : List InventoryDevice) (i : Nat) (d : InventoryDevice) (f : Flaw) :
    Prop :=
  ds[i]? = some d ∧ f.Mars (seen ++ ds.take i) d

/-- The error for the first flaw of the earliest device that has any. -/
def FirstFlaw (seen ds : List InventoryDevice) (cause : ConfigError) : Prop :=
  ∃ i d f, Flaw.MarsAt seen ds i d f ∧ cause = f.error d ∧
    ∀ j d' g, Flaw.MarsAt seen ds j d' g → i < j ∨ i = j ∧ f.rank ≤ g.rank

namespace Flaw

variable {seen ds : List InventoryDevice} {d d' : InventoryDevice} {f : Flaw}

theorem marsAt_zero : MarsAt seen (d :: ds) 0 d' f ↔ d = d' ∧ f.Mars seen d := by
  simp only [MarsAt, List.getElem?_cons_zero, Option.some.injEq, List.take_zero, List.append_nil]
  constructor
  · rintro ⟨rfl, h⟩
    exact ⟨rfl, h⟩
  · rintro ⟨rfl, h⟩
    exact ⟨rfl, h⟩

theorem marsAt_succ {i : Nat} :
    MarsAt seen (d :: ds) (i + 1) d' f ↔ MarsAt (d :: seen) ds i d' f := by
  have hmem : ∀ x, x ∈ seen ++ (d :: ds).take (i + 1) ↔ x ∈ d :: seen ++ ds.take i := by
    intro x
    simp only [List.take_succ_cons, List.mem_append, List.mem_cons]
    tauto
  simp only [MarsAt, List.getElem?_cons_succ, mars_congr hmem]

end Flaw

namespace Inventory

variable {seen ds : List InventoryDevice}

theorem firstProblem_eq_none_iff :
    firstProblem seen ds = none ↔ ∀ i d f, ¬Flaw.MarsAt seen ds i d f := by
  induction ds generalizing seen with
  | nil => simp [firstProblem, Flaw.MarsAt]
  | cons d ds ih =>
    rw [firstProblem]
    cases hproblem : deviceProblem seen d with
    | none =>
      have hnone := deviceProblem_none_iff_not_mars.mp hproblem
      rw [ih]
      constructor
      · rintro hrest (_ | i) d' f hmars
        · exact hnone f (Flaw.marsAt_zero.mp hmars).2
        · exact hrest i d' f (Flaw.marsAt_succ.mp hmars)
      · exact fun hall i d' f hmars => hall (i + 1) d' f (Flaw.marsAt_succ.mpr hmars)
    | some cause =>
      obtain ⟨f, hf, -⟩ := deviceProblem_eq_some_iff.mp hproblem
      simp only [reduceCtorEq, false_iff]
      exact fun hall => hall 0 d f (Flaw.marsAt_zero.mpr ⟨rfl, hf.mars⟩)

/-- **What is reported of many devices is the first flaw of the earliest.** -/
theorem firstProblem_eq_some_iff {cause : ConfigError} :
    firstProblem seen ds = some cause ↔ FirstFlaw seen ds cause := by
  induction ds generalizing seen with
  | nil => simp [firstProblem, FirstFlaw, Flaw.MarsAt]
  | cons d ds ih =>
    rw [firstProblem]
    cases hproblem : deviceProblem seen d with
    | none =>
      have hnone := deviceProblem_none_iff_not_mars.mp hproblem
      rw [ih]
      constructor
      · rintro ⟨i, d', f, hmars, rfl, hleast⟩
        refine ⟨i + 1, d', f, Flaw.marsAt_succ.mpr hmars, rfl, ?_⟩
        rintro (_ | j) d'' g hg
        · exact absurd (Flaw.marsAt_zero.mp hg).2 (hnone g)
        · have hj := hleast j d'' g (Flaw.marsAt_succ.mp hg)
          omega
      · rintro ⟨_ | i, d', f, hmars, rfl, hleast⟩
        · exact absurd (Flaw.marsAt_zero.mp hmars).2 (hnone f)
        · refine ⟨i, d', f, Flaw.marsAt_succ.mp hmars, rfl, fun j d'' g hg => ?_⟩
          have hj := hleast (j + 1) d'' g (Flaw.marsAt_succ.mpr hg)
          omega
    | some reported =>
      obtain ⟨f, hf, rfl⟩ := deviceProblem_eq_some_iff.mp hproblem
      have hhere : Flaw.MarsAt seen (d :: ds) 0 d f := Flaw.marsAt_zero.mpr ⟨rfl, hf.mars⟩
      simp only [Option.some.injEq]
      constructor
      · rintro rfl
        refine ⟨0, d, f, hhere, rfl, ?_⟩
        rintro (_ | j) d' g hg
        · exact .inr ⟨rfl, hf.least g (Flaw.marsAt_zero.mp hg).2⟩
        · exact .inl (Nat.zero_lt_succ j)
      · rintro ⟨i, d', g, hg, rfl, hleast⟩
        -- nothing comes before the first device
        obtain ⟨rfl, hrank⟩ := (hleast 0 d f hhere).resolve_left (Nat.not_lt_zero i)
        obtain ⟨rfl, hmars⟩ := Flaw.marsAt_zero.mp hg
        rw [Flaw.rank_injective (Nat.le_antisymm (hf.least g hmars) hrank)]

end Inventory

/-! ## Main result -/

/-- A backend that there is, devices that are told apart, and services with addresses. -/
structure Config.Usable (c : Config) : Prop where
  backend : c.backend = "pins"
  ids : (c.inventory.devices.map InventoryDevice.id).Nodup
  names : (c.inventory.devices.map InventoryDevice.name).Nodup
  addresses : ∀ d ∈ c.inventory.devices, ∀ p s, d.services.configured p = some s → s.address ≠ ""

/-- No value stands twice exactly if none stands behind itself. -/
theorem nodup_map_iff_take {α β : Type} (f : α → β) (xs : List α) :
    (xs.map f).Nodup ↔ ∀ i x, xs[i]? = some x → ∀ y ∈ xs.take i, f y ≠ f x := by
  rw [List.Nodup, List.pairwise_map, List.pairwise_iff_getElem]
  constructor
  · intro hpair i x hx y hy
    obtain ⟨hi, rfl⟩ := List.getElem?_eq_some_iff.mp hx
    obtain ⟨j, hj, rfl⟩ := List.mem_take_iff_getElem.mp hy
    exact hpair j i (by omega) hi (by omega)
  · intro hbehind i j hi hj hlt
    exact hbehind j xs[j] (List.getElem?_eq_getElem hj) xs[i]
      (List.mem_take_iff_getElem.mpr ⟨i, by omega, rfl⟩)

theorem Config.usable_iff_not_marsAt {c : Config} (h : c.backend = "pins") :
    c.Usable ↔ ∀ i d f, ¬Flaw.MarsAt [] c.inventory.devices i d f := by
  constructor
  · rintro hc i d (_ | _ | p) ⟨hd, hmars⟩
    · obtain ⟨e, he, heq⟩ := hmars
      exact (nodup_map_iff_take _ _).mp hc.ids i d hd e he heq
    · obtain ⟨e, he, heq⟩ := hmars
      exact (nodup_map_iff_take _ _).mp hc.names i d hd e he heq
    · obtain ⟨s, hs, hempty⟩ := hmars
      exact hc.addresses d (List.mem_of_getElem? hd) p s hs hempty
  · intro hnone
    refine ⟨h, ?_, ?_, fun d hd p s hs hempty => ?_⟩
    · exact (nodup_map_iff_take _ _).mpr fun i d hd e he heq =>
        hnone i d .repeatedId ⟨hd, e, he, heq⟩
    · exact (nodup_map_iff_take _ _).mpr fun i d hd e he heq =>
        hnone i d .repeatedName ⟨hd, e, he, heq⟩
    · obtain ⟨i, hi⟩ := List.getElem?_of_mem hd
      exact hnone i d (.unaddressed p) ⟨hi, s, hs, hempty⟩

namespace Config

variable {c : Config}

theorem validate_unknown (h : c.backend ≠ "pins") :
    c.validate = .error (.unknownBackend c.backend) := by
  have hkind : c.backendKind = .error (.unknownBackend c.backend) := if_neg h
  rw [validate, hkind]
  rfl

theorem validate_known (h : c.backend = "pins") : c.validate = c.inventory.validate := by
  have hkind : c.backendKind = .ok .pins := if_pos h
  rw [validate, hkind]
  rfl

end Config

/-- **A configuration is accepted exactly if it is usable.** Otherwise the error says what is wrong:
the backend first, as it was named, and then the first flaw of the earliest device that has one. -/
theorem accepts_usable (c : Config) :
    (c.validate = .ok () ↔ c.Usable) ∧
    ∀ e, c.validate = .error e ↔
      (c.backend ≠ "pins" ∧ e = .unknownBackend c.backend) ∨
      (c.backend = "pins" ∧
        ∃ cause, FirstFlaw [] c.inventory.devices cause ∧ e = .config cause) := by
  by_cases hbackend : c.backend = "pins"
  · rw [Config.validate_known hbackend, Config.usable_iff_not_marsAt hbackend,
      ← Inventory.firstProblem_eq_none_iff, Inventory.validate]
    cases hproblem : Inventory.firstProblem [] c.inventory.devices with
    | none =>
      refine ⟨by simp, fun e => ?_⟩
      have hnoFlaw : ∀ cause, ¬FirstFlaw [] c.inventory.devices cause := fun cause hcause => by
        rw [Inventory.firstProblem_eq_some_iff.mpr hcause] at hproblem
        cases hproblem
      simp [hbackend, hnoFlaw]
    | some reported =>
      refine ⟨by simp, fun e => ?_⟩
      have honly : ∀ cause, FirstFlaw [] c.inventory.devices cause ↔ reported = cause :=
        fun cause => by rw [← Inventory.firstProblem_eq_some_iff, hproblem, Option.some.injEq]
      simp [hbackend, honly, eq_comm]
  · rw [Config.validate_unknown hbackend]
    have hunusable : ¬c.Usable := fun hc => hbackend hc.backend
    exact ⟨by simp [hunusable], fun e => by simp [hbackend, eq_comm]⟩

end SwitchTestbed
