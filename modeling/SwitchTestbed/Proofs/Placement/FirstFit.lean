import Mathlib.Data.List.Nodup
import SwitchTestbed.Proofs.Placement.Plan

/-!
# First fit

* `firstFit` : each requested port in turn gets the first port that is still free and has its speed;
* `Tracks` : the ports held are those of a list, in the order of the requests;
* `placeAll_of_firstFit`, `matchPorts_of_firstFit` : where first fit finds a port for every request,
  no port is moved;
* `ports_matched_stably` : ports are found exactly if they can be told apart, and they are those of
  first fit where that finds them.
-/

namespace SwitchTestbed.Placement

/-- Whether a port has the speed that is asked for, if one is. -/
def hasSpeed (w : PortRequirement) (p : Port) : Bool := w.speed.all (· = p.speed)

/-- Each requested port in turn gets the first port that is not taken and has its speed. -/
def firstFit (ports : List Port) : List PortRequirement → List Nat → Option (List Nat)
  | [], _ => some []
  | w :: want, taken =>
    match (List.range ports.length).find? fun j =>
      !taken.contains j && (ports[j]?).any (hasSpeed w) with
    | some j => (firstFit ports want (j :: taken)).map (j :: ·)
    | none => none

section FirstFit

variable {want : List PortRequirement} {ports : List Port} {m : PortMatching} {js : List Nat}

theorem portFits_eq {i : Nat} {w : PortRequirement} (hw : want[i]? = some w) (j : Nat) :
    portFits want ports i j = (ports[j]?).any (hasSpeed w) := by
  rw [portFits, hw]
  cases ports[j]? with
  | none => rfl
  | some p => cases hs : w.speed <;> simp [hasSpeed, hs]

/-- The requests before some number hold the ports of a list, and nobody else holds a port. -/
def Tracks (m : PortMatching) (js : List Nat) : Prop :=
  ∀ j r, m.owner j = some r ↔ js[r]? = some j

theorem Tracks.owner_isNone (h : Tracks m js) (j : Nat) :
    (m.owner j).isNone = !js.reverse.contains j := by
  rw [Bool.eq_iff_iff, Option.isNone_iff_eq_none, Option.eq_none_iff_forall_ne_some]
  simp only [List.contains_eq_mem, List.mem_reverse, Bool.not_eq_true', decide_eq_false_iff_not]
  rw [List.mem_iff_getElem?, not_exists]
  exact forall_congr' fun r => not_congr (h j r)

theorem Tracks.give {j : Nat} (h : Tracks m js) (hj : j ∉ js) :
    Tracks (m.give j js.length) (js ++ [j]) := by
  intro k r
  show (if k = j then some js.length else m.owner k) = some r ↔ _
  by_cases hr : r < js.length
  · rw [List.getElem?_append_left hr, ← h k r]
    by_cases hk : k = j
    · have hnone : m.owner j ≠ some r := fun ho => hj (List.mem_of_getElem? ((h j r).mp ho))
      simp [hk, hnone, Nat.ne_of_gt hr]
    · rw [if_neg hk]
  · have hnone : m.owner k ≠ some r := fun ho => by
      have := (List.getElem?_eq_some_iff.mp ((h k r).mp ho)).1
      omega
    rw [List.getElem?_append_right (Nat.le_of_not_lt hr), List.getElem?_singleton]
    by_cases hk : k = j
    · simp only [hk, if_true, Option.some.injEq]
      constructor
      · rintro rfl
        simp
      · intro hsome
        split at hsome
        · omega
        · cases hsome
    · rw [if_neg hk]
      refine iff_of_false hnone fun hsome => ?_
      split at hsome
      · exact hk (Option.some.inj hsome).symm
      · cases hsome

theorem Tracks.nodup (h : Tracks m js) : js.Nodup := by
  refine List.nodup_iff_getElem?_ne_getElem?.mpr fun r s hrs hs heq => ?_
  have hsome := List.getElem?_eq_getElem hs
  have hr := (h _ r).mpr (heq.trans hsome)
  rw [(h _ s).mpr hsome] at hr
  have := Option.some.inj hr
  omega

theorem augment_freePort {fits : Nat → Nat → Bool} {positions : List Nat} {depth i j : Nat}
    (h : freePort fits positions m i = some j) :
    augment fits positions depth i m = (true, m.give j i) := by
  cases depth <;> simp only [augment, h]

/-- A step of first fit is a search that finds a free port. -/
theorem placeAll_of_firstFit (want : List PortRequirement) : ∀ (ws pre : List PortRequirement)
    (js ks : List Nat) (m : PortMatching), want = pre ++ ws → js.length = pre.length → Tracks m js →
      firstFit ports ws js.reverse = some ks →
        ∃ m', placeAll (portFits want ports) (List.range ports.length)
          (List.range' pre.length ws.length) m = some m' ∧ Tracks m' (js ++ ks) := by
  -- over the requests still to come, whatever ports those before them hold
  intro ws
  induction ws with
  | nil =>
    intro pre js ks m _ _ htracks h
    cases h
    exact ⟨m, rfl, by rwa [List.append_nil]⟩
  | cons w ws ih =>
    intro pre js ks m hwant hlength htracks h
    have hw : want[pre.length]? = some w := by simp [hwant]
    rw [firstFit] at h
    split at h
    · rename_i j hfind
      obtain ⟨ks, hks, rfl⟩ := Option.map_eq_some_iff.mp h
      have hfree : freePort (portFits want ports) (List.range ports.length) m.unmarked pre.length =
          some j := by
        rw [← hfind, freePort]
        congr 1
        funext k
        rw [portFits_eq hw]
        exact congrArg (· && _) (htracks.owner_isNone k)
      have hj : j ∉ js := by
        have := List.find?_some hfind
        simp only [Bool.and_eq_true, Bool.not_eq_true', List.contains_eq_mem, List.mem_reverse,
          decide_eq_false_iff_not] at this
        exact this.1
      obtain ⟨m', hm', htracks'⟩ := ih (pre ++ [w]) (js ++ [j]) ks (m.unmarked.give j pre.length)
        (by simp [hwant]) (by simp [hlength]) (hlength ▸ htracks.give hj) (by simpa using hks)
      refine ⟨m', ?_, by simpa using htracks'⟩
      rw [List.length_cons, List.range'_succ, placeAll, augment_freePort hfree]
      simpa using hm'
    · cases h

/-- **Where first fit finds ports, they are the ones matched.** -/
theorem matchPorts_of_firstFit {ps : List Nat} (h : firstFit ports want [] = some ps) :
    matchPorts want ports = some ps := by
  have htracks : Tracks {} [] := fun j r => by simp
  obtain ⟨m, hm, hps⟩ := placeAll_of_firstFit want want [] [] ps {} rfl rfl htracks h
  rw [List.nil_append] at hps
  rw [List.length_nil, ← List.range_eq_range'] at hm
  have hplaced := placed_of_placeAll List.nodup_range hm
  have hhas : ∀ r, r < want.length ↔ r < ps.length := by
    intro r
    rw [← List.mem_range, ← hplaced.hasPort_iff r]
    constructor
    · rintro ⟨j, -, ho⟩
      exact (List.getElem?_eq_some_iff.mp ((hps j r).mp ho)).1
    · intro hr
      exact ⟨ps[r], List.not_mem_nil, (hps _ r).mpr (List.getElem?_eq_getElem hr)⟩
  have hlength : ps.length = want.length := by
    have := hhas ps.length
    have := hhas want.length
    omega
  have hsub : ps ⊆ List.range ports.length := by
    intro j hj
    obtain ⟨r, hr⟩ := List.getElem?_of_mem hj
    exact (hplaced.matching.fit j r List.not_mem_nil ((hps j r).mpr hr)).1
  have hle : want.length ≤ ports.length := by
    simpa [hlength] using (hps.nodup.subperm hsub).length_le
  rw [matchPorts_of_le hle, hm, Option.map_some, Option.some.injEq]
  refine List.ext_getElem (by simp [hlength]) fun r _ hr => ?_
  rw [List.getElem_map, List.getElem_range]
  exact portOf_eq hplaced.matching ((hps _ r).mpr (List.getElem?_eq_getElem hr))

end FirstFit

/-! ## Main result -/

/-- **Ports are matched exactly and stably**: they are found if and only if every requested port can
have one of its own with the speed that is asked for, what is found is such a choice, and where the
requests get ports one after the other, each the first free one that fits, it is that choice. -/
theorem ports_matched_stably (want : List PortRequirement) (ports : List Port) :
    ((∃ ps, matchPorts want ports = some ps) ↔ Nonempty (PortPlan want ports)) ∧
    (∀ ps, matchPorts want ports = some ps → ∃ p : PortPlan want ports, ps = p.positions) ∧
    ∀ ps, firstFit ports want [] = some ps → matchPorts want ports = some ps := by
  refine ⟨⟨?_, fun ⟨p⟩ => exists_matchPorts p⟩, fun _ => matchPorts_some,
    fun _ => matchPorts_of_firstFit⟩
  rintro ⟨ps, h⟩
  obtain ⟨p, -⟩ := matchPorts_some h
  exact ⟨p⟩

/-- Two slower ports before a faster one. -/
def mixedPorts : List Port := [⟨"e0", .gb100⟩, ⟨"e8", .gb100⟩, ⟨"e16", .gb400⟩]

/-- Any port, the faster one and a slower one. -/
def mixedWishes : List PortRequirement := [⟨"p1", none⟩, ⟨"p2", some .gb400⟩, ⟨"p3", some .gb100⟩]

theorem ports_matched_stably_mixed :
    firstFit mixedPorts mixedWishes [] = some [0, 2, 1] ∧
    matchPorts mixedWishes mixedPorts = some [0, 2, 1] ∧
    ∃ p : PortPlan mixedWishes mixedPorts, [0, 2, 1] = p.positions := by
  obtain ⟨-, hplan, hstable⟩ := ports_matched_stably mixedWishes mixedPorts
  have hmatched := hstable [0, 2, 1] (by decide)
  exact ⟨by decide, hmatched, hplan _ hmatched⟩

end SwitchTestbed.Placement
