import Mathlib.Data.Finset.Card
import Mathlib.Data.Finset.Image
import SwitchTestbed.Placement.PortMatching

/-!
# The search for a free port

* `Matches avoid owner` : outside the ports `avoid`, every port in use fits its request and no
  request has two; `HasPort avoid owner r` : the request `r` has a port outside `avoid`;
* `Gains` : what a search that succeeds does (`Gains.give`, `Gains.move`, `Gains.mono`);
* `Blocked` : what a search that fails leaves behind (`Blocked.cons`);
* `displace_spec`, `augment_spec` : a search ends in one of the two;
* `placeAll_spec`, `placed_of_placeAll` : requests get ports exactly if they can.
-/

namespace SwitchTestbed.Placement

section Search

variable {fits : Nat → Nat → Bool} {ports avoid avoid' : List Nat} {owner after : Nat → Option Nat}

/-! ## Partial matchings -/

/-- Outside the ports to avoid, every port in use fits its request, and no request has two. -/
structure Matches (fits : Nat → Nat → Bool) (ports avoid : List Nat)
    (owner : Nat → Option Nat) : Prop where
  fit : ∀ j r, j ∉ avoid → owner j = some r → j ∈ ports ∧ fits r j = true
  unique : ∀ j k r, j ∉ avoid → k ∉ avoid → owner j = some r → owner k = some r → j = k

/-- The request has a port outside those to avoid. -/
def HasPort (avoid : List Nat) (owner : Nat → Option Nat) (r : Nat) : Prop :=
  ∃ j, j ∉ avoid ∧ owner j = some r

theorem Matches.mono (h : Matches fits ports avoid owner) (hsub : avoid ⊆ avoid') :
    Matches fits ports avoid' owner where
  fit := fun j r hj => h.fit j r fun hm => hj (hsub hm)
  unique := fun j k r hj hk => h.unique j k r (fun hm => hj (hsub hm)) fun hm => hk (hsub hm)

theorem HasPort.mono {r : Nat} (h : HasPort avoid' owner r) (hsub : avoid ⊆ avoid') :
    HasPort avoid owner r := by
  obtain ⟨j, hj, ho⟩ := h
  exact ⟨j, fun hm => hj (hsub hm), ho⟩

theorem matches_none : Matches fits ports [] fun _ => none where
  fit := fun _ _ _ h => by cases h
  unique := fun _ _ _ _ _ h => by cases h

/-- Once the only port of a request is avoided, the request has none. -/
theorem not_hasPort_cons {j r : Nat} (h : Matches fits ports avoid owner) (hj : j ∉ avoid)
    (ho : owner j = some r) : ¬HasPort (j :: avoid) owner r := by
  rintro ⟨k, hk, hok⟩
  rw [List.mem_cons, not_or] at hk
  exact hk.1 (h.unique k j r hk.2 hj hok ho)

/-! ## A search that succeeds -/

/-- The request `i` has a port as well from now on, by way of ports that are not to be avoided.
No other request has lost its port, and one more port is in use. -/
structure Gains (fits : Nat → Nat → Bool) (ports avoid : List Nat)
    (owner after : Nat → Option Nat) (i : Nat) : Prop where
  keeps : Matches fits ports avoid after
  hasPort_iff : ∀ r, HasPort avoid after r ↔ r = i ∨ HasPort avoid owner r
  untouched : ∀ j ∈ avoid, after j = owner j
  grows : ∃ q ∈ ports, owner q = none ∧ ∀ j, after j ≠ none ↔ owner j ≠ none ∨ j = q

/-- A port that is given away. -/
theorem give_owner (m : PortMatching) (j i k : Nat) :
    (m.give j i).owner k = if k = j then some i else m.owner k := rfl

@[simp] theorem mark_owner (m : PortMatching) (j : Nat) : (m.mark j).owner = m.owner := rfl

@[simp] theorem mark_marked (m : PortMatching) (j : Nat) :
    (m.mark j).marked = j :: m.marked := rfl

@[simp] theorem unmarked_owner (m : PortMatching) : m.unmarked.owner = m.owner := rfl

@[simp] theorem unmarked_marked (m : PortMatching) : m.unmarked.marked = [] := rfl

/-- The port `j` is given to the request `i`, after those outside `avoid` and `j` were settled. -/
theorem matches_give {m : PortMatching} {i j : Nat} (h : Matches fits ports (j :: avoid) m.owner)
    (hi : ¬HasPort (j :: avoid) m.owner i) (hj : j ∈ ports) (hf : fits i j = true) :
    Matches fits ports avoid (m.give j i).owner := by
  have hout : ∀ {k}, k ∉ avoid → k ≠ j → k ∉ j :: avoid := fun hk hne hm =>
    (List.mem_cons.mp hm).elim hne hk
  constructor
  · intro k r hk ho
    rw [give_owner] at ho
    split at ho
    · rename_i hkj
      cases ho
      exact ⟨hkj ▸ hj, hkj ▸ hf⟩
    · rename_i hkj
      exact h.fit k r (hout hk hkj) ho
  · intro k l r hk hl hok hol
    rw [give_owner] at hok hol
    split at hok <;> split at hol
    · rename_i hkj hlj
      exact hkj.trans hlj.symm
    · rename_i hkj hlj
      cases hok
      exact absurd ⟨l, hout hl hlj, hol⟩ hi
    · rename_i hkj hlj
      cases hol
      exact absurd ⟨k, hout hk hkj, hok⟩ hi
    · rename_i hkj hlj
      exact h.unique k l r (hout hk hkj) (hout hl hlj) hok hol

theorem hasPort_give {m : PortMatching} {i j r : Nat} (hj : j ∉ avoid) :
    HasPort avoid (m.give j i).owner r ↔ r = i ∨ HasPort (j :: avoid) m.owner r := by
  constructor
  · rintro ⟨k, hk, ho⟩
    rw [give_owner] at ho
    split at ho
    · cases ho
      exact Or.inl rfl
    · rename_i hkj
      exact Or.inr ⟨k, by simp [hkj, hk], ho⟩
  · rintro (rfl | ⟨k, hk, ho⟩)
    · exact ⟨j, hj, by rw [give_owner, if_pos rfl]⟩
    · rw [List.mem_cons, not_or] at hk
      exact ⟨k, hk.2, by rw [give_owner, if_neg hk.1, ho]⟩

/-- A free port goes to the request. -/
theorem Gains.give {m : PortMatching} {i j : Nat} (h : Matches fits ports avoid m.owner)
    (hi : ¬HasPort avoid m.owner i) (hj : j ∈ ports) (hf : fits i j = true)
    (hfree : m.owner j = none) (hout : j ∉ avoid) :
    Gains fits ports avoid m.owner (m.give j i).owner i := by
  have hsub : avoid ⊆ j :: avoid := List.subset_cons_self j avoid
  have hcons : ∀ r, HasPort (j :: avoid) m.owner r ↔ HasPort avoid m.owner r := by
    intro r
    refine ⟨fun hr => hr.mono hsub, ?_⟩
    rintro ⟨k, hk, ho⟩
    refine ⟨k, ?_, ho⟩
    rw [List.mem_cons, not_or]
    refine ⟨fun hkj => ?_, hk⟩
    rw [hkj, hfree] at ho
    cases ho
  refine ⟨matches_give (h.mono hsub) (fun hr => hi (hr.mono hsub)) hj hf, ?_, ?_, ?_⟩
  · intro r
    rw [hasPort_give hout, hcons]
  · intro k hk
    rw [give_owner, if_neg fun hkj : k = j => hout (hkj ▸ hk)]
  · refine ⟨j, hj, hfree, fun k => ?_⟩
    rw [give_owner]
    by_cases hkj : k = j <;> simp [hkj]

/-- The holder `k` of a port found another one, and its port goes to the request. While the
holder was looking, it was as good as without a port, since its own was to be avoided. -/
theorem Gains.move {m : PortMatching} {i j k : Nat} (hi : ¬HasPort avoid owner i) (hj : j ∈ ports)
    (hf : fits i j = true) (hout : j ∉ avoid) (ho : owner j = some k)
    (hk : Gains fits ports (j :: avoid) owner m.owner k) :
    Gains fits ports avoid owner (m.give j i).owner i := by
  have hsub : avoid ⊆ j :: avoid := List.subset_cons_self j avoid
  -- the holder has a port again, so the requests with a port are those from before
  have hback : ∀ r, HasPort (j :: avoid) m.owner r ↔ HasPort avoid owner r := by
    intro r
    rw [hk.hasPort_iff]
    constructor
    · rintro (rfl | hr)
      · exact ⟨j, hout, ho⟩
      · exact hr.mono hsub
    · rintro ⟨l, hl, hol⟩
      by_cases hlj : l = j
      · left
        rw [hlj, ho] at hol
        exact (Option.some.inj hol).symm
      · exact Or.inr ⟨l, by simp [hlj, hl], hol⟩
  refine ⟨matches_give hk.keeps (fun hr => hi ((hback i).mp hr)) hj hf, ?_, ?_, ?_⟩
  · intro r
    rw [hasPort_give hout, hback]
  · intro l hl
    rw [give_owner, if_neg fun hlj : l = j => hout (hlj ▸ hl)]
    exact hk.untouched l (hsub hl)
  · obtain ⟨q, hq, hfree, hgrows⟩ := hk.grows
    refine ⟨q, hq, hfree, fun l => ?_⟩
    rw [give_owner]
    by_cases hlj : l = j
    · simp [hlj, ho]
    · rw [if_neg hlj, hgrows]

/-- Ports that were avoided need not have been. -/
theorem Gains.mono {i : Nat} (hg : Gains fits ports avoid' owner after i)
    (h : Matches fits ports avoid owner) (hi : ¬HasPort avoid owner i) (hsub : avoid ⊆ avoid') :
    Gains fits ports avoid owner after i := by
  -- a port that was avoided is as it was, and its request is neither `i` nor has another port
  have hclash : ∀ j k r, j ∉ avoid → j ∈ avoid' → k ∉ avoid' → after j = some r →
      after k = some r → False := by
    intro j k r hj hj' hk hoj hok
    rw [hg.untouched j hj'] at hoj
    rcases (hg.hasPort_iff r).mp ⟨k, hk, hok⟩ with rfl | ⟨l, hl, hol⟩
    · exact hi ⟨j, hj, hoj⟩
    · have hjl := h.unique j l r hj (fun hm => hl (hsub hm)) hoj hol
      exact hl (hjl ▸ hj')
  refine ⟨⟨?_, ?_⟩, ?_, fun j hj => hg.untouched j (hsub hj), hg.grows⟩
  · intro j r hj ho
    by_cases hj' : j ∈ avoid'
    · exact h.fit j r hj (hg.untouched j hj' ▸ ho)
    · exact hg.keeps.fit j r hj' ho
  · intro j k r hj hk hoj hok
    by_cases hj' : j ∈ avoid' <;> by_cases hk' : k ∈ avoid'
    · rw [hg.untouched j hj'] at hoj
      rw [hg.untouched k hk'] at hok
      exact h.unique j k r hj hk hoj hok
    · exact (hclash j k r hj hj' hk' hoj hok).elim
    · exact (hclash k j r hk hk' hj' hok hoj).elim
    · exact hg.keeps.unique j k r hj' hk' hoj hok
  · intro r
    constructor
    · rintro ⟨j, hj, ho⟩
      by_cases hj' : j ∈ avoid'
      · exact Or.inr ⟨j, hj, hg.untouched j hj' ▸ ho⟩
      · exact ((hg.hasPort_iff r).mp ⟨j, hj', ho⟩).imp_right fun hr => hr.mono hsub
    · rintro (rfl | ⟨j, hj, ho⟩)
      · exact ((hg.hasPort_iff r).mpr (Or.inl rfl)).mono hsub
      · by_cases hj' : j ∈ avoid'
        · exact ⟨j, hj, (hg.untouched j hj').trans ho⟩
        · exact ((hg.hasPort_iff r).mpr (Or.inr ⟨j, hj', ho⟩)).mono hsub

/-! ## A search that fails -/

/-- Nothing is given away, and of the ports `js` all that fit the request `i` are marked. Every
newly marked port is in use, and all ports that fit its holder are marked too. -/
structure Blocked (fits : Nat → Nat → Bool) (ports js : List Nat) (m m' : PortMatching)
    (i : Nat) : Prop where
  owner : m'.owner = m.owner
  marks : m.marked ⊆ m'.marked
  closed : ∀ j ∈ js, fits i j = true → j ∈ m'.marked
  holders : ∀ j ∈ m'.marked, j ∈ m.marked ∨
    ∃ k, m.owner j = some k ∧ ∀ l ∈ ports, fits k l = true → l ∈ m'.marked

theorem Blocked.nil (m : PortMatching) (i : Nat) : Blocked fits ports [] m m i where
  owner := rfl
  marks := List.Subset.refl m.marked
  closed := fun j hj => by cases hj
  holders := fun _ hj => Or.inl hj

/-- A port that is marked or does not fit is passed over. -/
theorem Blocked.skip {m m' : PortMatching} {i j : Nat} {js : List Nat}
    (hj : j ∈ m.marked ∨ fits i j = false) (h : Blocked fits ports js m m' i) :
    Blocked fits ports (j :: js) m m' i := by
  refine ⟨h.owner, h.marks, fun l hl hf => ?_, h.holders⟩
  rcases List.mem_cons.mp hl with rfl | hl
  · rcases hj with hj | hj
    · exact h.marks hj
    · rw [hj] at hf
      cases hf
  · exact h.closed l hl hf

/-- A port whose holder could not be moved is left to its holder. -/
theorem Blocked.cons {m m₁ m₂ : PortMatching} {i j k : Nat} {js : List Nat}
    (ho : m.owner j = some k) (h₁ : Blocked fits ports ports (m.mark j) m₁ k)
    (h₂ : Blocked fits ports js m₁ m₂ i) : Blocked fits ports (j :: js) m m₂ i := by
  have howner : m₁.owner = m.owner := h₁.owner
  have hjm : j ∈ m₁.marked := h₁.marks (by simp)
  refine ⟨h₂.owner.trans howner, fun l hl => h₂.marks (h₁.marks (by simp [hl])), ?_, ?_⟩
  · intro l hl hf
    rcases List.mem_cons.mp hl with rfl | hl
    · exact h₂.marks hjm
    · exact h₂.closed l hl hf
  · intro l hl
    rcases h₂.holders l hl with hl | ⟨r, hr, hall⟩
    · rcases h₁.holders l hl with hl | ⟨r, hr, hall⟩
      · rcases List.mem_cons.mp hl with rfl | hl
        · exact Or.inr ⟨k, ho, fun x hx hf => h₂.marks (h₁.closed x hx hf)⟩
        · exact Or.inl hl
      · exact Or.inr ⟨r, hr, fun x hx hf => h₂.marks (hall x hx hf)⟩
    · exact Or.inr ⟨r, howner ▸ hr, hall⟩

/-- Marked ports stay ports in use. -/
theorem Blocked.inUse {m m' : PortMatching} {i : Nat} {js : List Nat}
    (h : Blocked fits ports js m m' i) (hm : ∀ j ∈ m.marked, m.owner j ≠ none) :
    ∀ j ∈ m'.marked, m'.owner j ≠ none := by
  intro j hj
  rw [h.owner]
  rcases h.holders j hj with hj | ⟨k, hk, -⟩
  · exact hm j hj
  · rw [hk]
    exact Option.some_ne_none k

/-- After a search without marks, the request and the holders of marked ports fit only marked ports. -/
theorem Blocked.fits_marked {m m' : PortMatching} {i r l : Nat}
    (h : Blocked fits ports ports m m' i) (hstart : m.marked = [])
    (hr : r = i ∨ ∃ j ∈ m'.marked, m'.owner j = some r) (hl : l ∈ ports) (hf : fits r l = true) :
    l ∈ m'.marked := by
  rcases hr with rfl | ⟨j, hj, ho⟩
  · exact h.closed l hl hf
  · rw [h.owner] at ho
    rcases h.holders j hj with hm | ⟨k, hk, hall⟩
    · rw [hstart] at hm
      cases hm
    · rw [ho] at hk
      cases hk
      exact hall l hl hf

/-! ## How far a search goes -/

/-- The number of ports that a search may still mark. -/
def unmarkedCount (ports : List Nat) (m : PortMatching) : Nat :=
  (ports.toFinset \ m.marked.toFinset).card

theorem unmarkedCount_le_length (ports : List Nat) (m : PortMatching) :
    unmarkedCount ports m ≤ ports.length :=
  (Finset.card_le_card Finset.sdiff_subset).trans ports.toFinset_card_le

theorem unmarkedCount_le (ports : List Nat) {m m' : PortMatching} (h : m.marked ⊆ m'.marked) :
    unmarkedCount ports m' ≤ unmarkedCount ports m := by
  refine Finset.card_le_card (Finset.sdiff_subset_sdiff (Finset.Subset.refl _) fun j hj => ?_)
  rw [List.mem_toFinset] at hj ⊢
  exact h hj

/-- Marking a port uses up one of those left. -/
theorem unmarkedCount_mark {m : PortMatching} {j : Nat} (hj : j ∈ ports) (hm : j ∉ m.marked) :
    unmarkedCount ports (m.mark j) < unmarkedCount ports m := by
  refine Finset.card_lt_card ((Finset.ssubset_iff_of_subset ?_).mpr ⟨j, ?_, ?_⟩)
  · intro k hk
    simp only [mark_marked, List.toFinset_cons, Finset.mem_sdiff, Finset.mem_insert,
      not_or] at hk
    exact Finset.mem_sdiff.mpr ⟨hk.1, hk.2.2⟩
  · simp [hj, hm]
  · simp

theorem mem_marked_of_unmarkedCount {m : PortMatching} (h : unmarkedCount ports m = 0) {j : Nat}
    (hj : j ∈ ports) : j ∈ m.marked := by
  have hsub := Finset.sdiff_eq_empty_iff_subset.mp (Finset.card_eq_zero.mp h)
  exact List.mem_toFinset.mp (hsub (List.mem_toFinset.mpr hj))

/-! ## One search -/

/-- How a search for a port for the request `i` ends, of which `js` are looked at. -/
def Searched (fits : Nat → Nat → Bool) (ports js : List Nat) (m : PortMatching) (i : Nat) :
    Bool × PortMatching → Prop
  | (true, m') => Gains fits ports m.marked m.owner m'.owner i
  | (false, m') => Blocked fits ports js m m' i

theorem Searched.imp {js js' : List Nat} {m m' : PortMatching} {i : Nat} {r : Bool × PortMatching}
    (h : Searched fits ports js m i r)
    (hg : ∀ after, Gains fits ports m.marked m.owner after i →
      Gains fits ports m'.marked m'.owner after i)
    (hb : ∀ m₁, Blocked fits ports js m m₁ i → Blocked fits ports js' m' m₁ i) :
    Searched fits ports js' m' i r := by
  obtain ⟨ok, m₁⟩ := r
  cases ok with
  | true => exact hg _ h
  | false => exact hb _ h

/-- What a search for a port for the request `i` relies on: ports that are not marked form a
partial matching without `i`, and marked ports are in use. -/
structure Ready (fits : Nat → Nat → Bool) (ports : List Nat) (m : PortMatching) (i : Nat) :
    Prop where
  matching : Matches fits ports m.marked m.owner
  waiting : ¬HasPort m.marked m.owner i
  inUse : ∀ j ∈ m.marked, m.owner j ≠ none

/-- Once a port is marked, the search may go on with its holder. -/
theorem Ready.mark {m : PortMatching} {i j k : Nat} (h : Ready fits ports m i)
    (hj : j ∉ m.marked) (ho : m.owner j = some k) : Ready fits ports (m.mark j) k where
  matching := h.matching.mono (List.subset_cons_self j m.marked)
  waiting := not_hasPort_cons h.matching hj ho
  inUse := by
    intro l hl
    rcases List.mem_cons.mp hl with rfl | hl
    · simp [ho]
    · exact h.inUse l hl

/-- After a failure below, the search goes on with more marks. -/
theorem Ready.blocked {m m' : PortMatching} {i j k : Nat} (h : Ready fits ports m i)
    (hj : j ∉ m.marked) (ho : m.owner j = some k)
    (hb : Blocked fits ports ports (m.mark j) m' k) : Ready fits ports m' i := by
  have hsub : m.marked ⊆ m'.marked := fun l hl => hb.marks (by simp [hl])
  refine ⟨?_, ?_, hb.inUse (h.mark hj ho).inUse⟩
  · rw [hb.owner]
    exact h.matching.mono hsub
  · rw [hb.owner]
    exact fun hr => h.waiting (hr.mono hsub)

/-- A port that a search comes to is passed over, or the search may go on with its holder and has one
port less to mark. -/
theorem Ready.port_cases {m : PortMatching} {i j : Nat} (h : Ready fits ports m i) (hj : j ∈ ports)
    (hfull : fits i j = true → m.owner j ≠ none) : (j ∈ m.marked ∨ fits i j = false) ∨
      ∃ k, j ∉ m.marked ∧ fits i j = true ∧ m.owner j = some k ∧
        Ready fits ports (m.mark j) k ∧ unmarkedCount ports (m.mark j) < unmarkedCount ports m := by
  refine or_iff_not_imp_left.mpr fun hskip => ?_
  rw [not_or, Bool.not_eq_false] at hskip
  obtain ⟨hmark, hf⟩ := hskip
  obtain ⟨k, ho⟩ := Option.ne_none_iff_exists'.mp (hfull hf)
  exact ⟨k, hmark, hf, ho, h.mark hmark ho, unmarkedCount_mark hj hmark⟩

section Displace

variable {move : Nat → PortMatching → Bool × PortMatching} {m m' : PortMatching} {i j k : Nat}
  {js : List Nat}

theorem displace_skip (h : j ∈ m.marked ∨ fits i j = false) :
    displace fits move i (j :: js) m = displace fits move i js m := by
  rw [displace, if_pos (by simpa using h)]

theorem displace_of_marked : ∀ {js : List Nat}, js ⊆ m.marked →
    displace fits move i js m = (false, m) := by
  intro js
  induction js with
  | nil => exact fun _ => rfl
  | cons j js ih =>
    intro hjs
    rw [displace_skip (.inl (hjs (by simp)))]
    exact ih fun l hl => hjs (by simp [hl])

theorem displace_moved (hj : j ∉ m.marked) (hf : fits i j = true) (ho : m.owner j = some k)
    (hm : move k (m.mark j) = (true, m')) :
    displace fits move i (j :: js) m = (true, m'.give j i) := by
  rw [displace, if_neg (by simp [hj, hf])]
  simp only [ho, hm]

theorem displace_stayed (hj : j ∉ m.marked) (hf : fits i j = true) (ho : m.owner j = some k)
    (hm : move k (m.mark j) = (false, m')) :
    displace fits move i (j :: js) m = displace fits move i js m' := by
  rw [displace, if_neg (by simp [hj, hf])]
  simp only [ho, hm]

end Displace

/-- A search through `js` ends well if every search for another port does. -/
theorem displace_spec {move : Nat → PortMatching → Bool × PortMatching} {depth i : Nat}
    (hmove : ∀ k m, unmarkedCount ports m ≤ depth → Ready fits ports m k →
      Searched fits ports ports m k (move k m)) :
    ∀ (js : List Nat) (m : PortMatching), js ⊆ ports → unmarkedCount ports m ≤ depth + 1 →
      Ready fits ports m i → (∀ j ∈ js, fits i j = true → m.owner j ≠ none) →
      Searched fits ports js m i (displace fits move i js m) := by
  intro js
  induction js with
  | nil => exact fun m _ _ _ _ => Blocked.nil m i
  | cons j js ih =>
    intro m hjs hcount hready hfull
    have hj : j ∈ ports := hjs (by simp)
    have hjs' : js ⊆ ports := fun l hl => hjs (by simp [hl])
    rcases hready.port_cases hj (hfull j (by simp)) with
      hskip | ⟨k, hmark, hf, ho, hready', hless⟩
    · rw [displace_skip hskip]
      have hrest := ih m hjs' hcount hready fun l hl => hfull l (by simp [hl])
      exact hrest.imp (fun _ h => h) fun _ h => h.skip hskip
    · have hk := hmove k (m.mark j) (by omega) hready'
      cases hm : move k (m.mark j) with
      | mk ok m₁ =>
        rw [hm] at hk
        cases ok with
        | true =>
          rw [displace_moved hmark hf ho hm]
          exact Gains.move hready.waiting hj hf hmark ho hk
        | false =>
          rw [displace_stayed hmark hf ho hm]
          have hb : Blocked fits ports ports (m.mark j) m₁ k := hk
          have howner : m₁.owner = m.owner := hb.owner
          have hsub : m.marked ⊆ m₁.marked := fun l hl => hb.marks (by simp [hl])
          have hrest := ih m₁ hjs' ((unmarkedCount_le ports hsub).trans hcount)
            (hready.blocked hmark ho hb) fun l hl hfl => howner ▸ hfull l (by simp [hl]) hfl
          refine hrest.imp (fun after h => ?_) fun _ h => Blocked.cons ho hb h
          rw [howner] at h
          exact h.mono hready.matching hready.waiting hsub

/-! ## One search from its start -/

theorem freePort_some {m : PortMatching} {i j : Nat} (h : freePort fits ports m i = some j) :
    j ∈ ports ∧ m.owner j = none ∧ fits i j = true := by
  have hp := List.find?_some h
  simp only [Bool.and_eq_true, Option.isNone_iff_eq_none] at hp
  exact ⟨List.mem_of_find?_eq_some h, hp⟩

theorem freePort_none {m : PortMatching} {i : Nat} (h : freePort fits ports m i = none) :
    ∀ j ∈ ports, fits i j = true → m.owner j ≠ none := by
  intro j hj hf ho
  have := List.find?_eq_none.mp h j hj
  simp [ho, hf] at this

/-- **A search either gives the request a port or marks every port that could help.** -/
theorem augment_spec (depth : Nat) : ∀ (i : Nat) (m : PortMatching),
    unmarkedCount ports m ≤ depth → Ready fits ports m i →
      Searched fits ports ports m i (augment fits ports depth i m) := by
  have hgive : ∀ {i j : Nat} {m : PortMatching}, Ready fits ports m i →
      freePort fits ports m i = some j → Gains fits ports m.marked m.owner (m.give j i).owner i := by
    intro i j m hready hfree
    obtain ⟨hj, ho, hf⟩ := freePort_some hfree
    exact Gains.give hready.matching hready.waiting hj hf ho fun hm => hready.inUse j hm ho
  induction depth with
  | zero =>
    intro i m hcount hready
    rw [augment]
    cases hfree : freePort fits ports m i with
    | some j => exact hgive hready hfree
    | none =>
      refine ⟨rfl, List.Subset.refl _, fun j hj _ => ?_, fun j hj => Or.inl hj⟩
      exact mem_marked_of_unmarkedCount (Nat.le_zero.mp hcount) hj
  | succ depth ih =>
    intro i m hcount hready
    rw [augment]
    cases hfree : freePort fits ports m i with
    | some j => exact hgive hready hfree
    | none =>
      exact displace_spec ih ports m (List.Subset.refl ports) hcount hready (freePort_none hfree)

/-- The requests that a search without marks cannot please: there are more of them than ports that
fit any of them. -/
theorem Blocked.no_choice {m m' : PortMatching} {i : Nat} (hready : Ready fits ports m i)
    (hstart : m.marked = []) (hb : Blocked fits ports ports m m' i) (f : Nat → Nat)
    (hfit : ∀ r, r = i ∨ HasPort [] m.owner r → f r ∈ ports ∧ fits r (f r) = true)
    (hinj : ∀ r s, r = i ∨ HasPort [] m.owner r → s = i ∨ HasPort [] m.owner s →
      f r = f s → r = s) : False := by
  obtain ⟨hmatch, hwait, -⟩ := hready
  rw [hstart] at hmatch hwait
  have hholder : ∀ j ∈ m'.marked, ∃ k, m.owner j = some k ∧
      ∀ l ∈ ports, fits k l = true → l ∈ m'.marked := by
    intro j hj
    rcases hb.holders j hj with hj | hk
    · rw [hstart] at hj
      cases hj
    · exact hk
  let marks := m'.marked.toFinset
  let holder : Nat → Nat := fun j => (m.owner j).getD 0
  have hmem : ∀ r ∈ insert i (marks.image holder), (r = i ∨ HasPort [] m.owner r) ∧
      ∀ l ∈ ports, fits r l = true → l ∈ marks := by
    intro r hr
    rcases Finset.mem_insert.mp hr with rfl | hr
    · exact ⟨Or.inl rfl, fun l hl hf => List.mem_toFinset.mpr (hb.closed l hl hf)⟩
    · obtain ⟨j, hj, rfl⟩ := Finset.mem_image.mp hr
      obtain ⟨k, hk, hall⟩ := hholder j (List.mem_toFinset.mp hj)
      have hkj : holder j = k := by simp [holder, hk]
      rw [hkj]
      exact ⟨Or.inr ⟨j, List.not_mem_nil, hk⟩, fun l hl hf => List.mem_toFinset.mpr (hall l hl hf)⟩
  have hcard : (insert i (marks.image holder)).card = marks.card + 1 := by
    rw [Finset.card_insert_of_notMem, Finset.card_image_of_injOn]
    · intro j hj l hl hjl
      obtain ⟨k, hk, -⟩ := hholder j (List.mem_toFinset.mp hj)
      obtain ⟨k', hk', -⟩ := hholder l (List.mem_toFinset.mp hl)
      have hkk : k = k' := by simpa [holder, hk, hk'] using hjl
      exact hmatch.unique j l k List.not_mem_nil List.not_mem_nil hk (hkk ▸ hk')
    · intro hi
      obtain ⟨j, hj, hji⟩ := Finset.mem_image.mp hi
      obtain ⟨k, hk, -⟩ := hholder j (List.mem_toFinset.mp hj)
      have hki : k = i := by simpa [holder, hk] using hji
      exact hwait ⟨j, List.not_mem_nil, hki ▸ hk⟩
  have hle : (insert i (marks.image holder)).card ≤ marks.card := by
    refine Finset.card_le_card_of_injOn f (fun r hr => ?_) fun r hr s hs hrs => ?_
    · obtain ⟨hor, hall⟩ := hmem r hr
      exact hall (f r) (hfit r hor).1 (hfit r hor).2
    · exact hinj r s (hmem r hr).1 (hmem s hs).1 hrs
  omega

/-! ## All requests -/

/-- The requests that have a port are just those of a list. -/
structure Placed (fits : Nat → Nat → Bool) (ports : List Nat) (m : PortMatching)
    (requests : List Nat) : Prop where
  matching : Matches fits ports [] m.owner
  hasPort_iff : ∀ r, HasPort [] m.owner r ↔ r ∈ requests

theorem placed_none : Placed fits ports {} [] where
  matching := matches_none
  hasPort_iff := by
    intro r
    simp [HasPort]

/-- A new request may be searched a port for. -/
theorem Placed.ready {m : PortMatching} {done : List Nat} {i : Nat}
    (h : Placed fits ports m done) (hi : i ∉ done) : Ready fits ports m.unmarked i where
  matching := h.matching
  waiting := fun hr => hi ((h.hasPort_iff i).mp hr)
  inUse := fun _ hj => by cases hj

theorem Placed.gains {m m' : PortMatching} {done : List Nat} {i : Nat}
    (h : Placed fits ports m done) (hg : Gains fits ports [] m.owner m'.owner i) :
    Placed fits ports m' (done ++ [i]) where
  matching := hg.keeps
  hasPort_iff := by
    intro r
    rw [hg.hasPort_iff, h.hasPort_iff, List.mem_append, List.mem_singleton, or_comm]

/-- **Requests get ports exactly if there is a choice of different ports that fit.** -/
theorem placeAll_spec : ∀ (is done : List Nat) (m : PortMatching), (done ++ is).Nodup →
    Placed fits ports m done →
      (∀ m', placeAll fits ports is m = some m' → Placed fits ports m' (done ++ is)) ∧
      (placeAll fits ports is m = none → ∀ f : Nat → Nat,
        (∀ r ∈ done ++ is, f r ∈ ports ∧ fits r (f r) = true) →
        ¬∀ r ∈ done ++ is, ∀ s ∈ done ++ is, f r = f s → r = s) := by
  intro is
  induction is with
  | nil =>
    intro done m _ hplaced
    refine ⟨fun m' hm => ?_, fun hm => by cases hm⟩
    cases hm
    rwa [List.append_nil]
  | cons i is ih =>
    intro done m hnodup hplaced
    have hi : i ∉ done := by
      intro hmem
      exact (List.nodup_append.mp hnodup).2.2 i hmem i (by simp) rfl
    have hready := hplaced.ready hi
    have hspec := augment_spec ports.length i m.unmarked (unmarkedCount_le_length _ _) hready
    have happend : done ++ i :: is = (done ++ [i]) ++ is := by simp
    rw [placeAll]
    cases haug : augment fits ports ports.length i m.unmarked with
    | mk ok m₁ =>
      rw [haug] at hspec
      cases ok with
      | true =>
        rw [happend] at hnodup ⊢
        exact ih (done ++ [i]) m₁ hnodup (hplaced.gains hspec)
      | false =>
        refine ⟨fun m' hm => absurd hm (by simp), fun _ f hfit hinj => ?_⟩
        have hb : Blocked fits ports ports m.unmarked m₁ i := hspec
        have hmem : ∀ r, r = i ∨ HasPort [] m.owner r → r ∈ done ++ i :: is := by
          rintro r (rfl | hr)
          · simp
          · simp [(hplaced.hasPort_iff r).mp hr]
        exact hb.no_choice hready rfl f (fun r hr => hfit r (hmem r hr))
          fun r s hr hs => hinj r (hmem r hr) s (hmem s hs)

theorem placed_of_placeAll {is : List Nat} {m : PortMatching} (hnodup : is.Nodup)
    (h : placeAll fits ports is {} = some m) : Placed fits ports m is := by
  have hspec := (placeAll_spec is [] {} (by simpa using hnodup) placed_none).1 m h
  rwa [List.nil_append] at hspec

/-- The port of a request is the one that it holds. -/
theorem portOf_eq {m : PortMatching} (h : Matches fits ports [] m.owner) {i j : Nat}
    (ho : m.owner j = some i) : portOf ports m i = j := by
  have hj : j ∈ ports.filter fun k => m.owner k = some i := by
    simp [(h.fit j i List.not_mem_nil ho).1, ho]
  have hall : ∀ k ∈ ports.filter fun k => m.owner k = some i, k = j := by
    intro k hk
    have hok : m.owner k = some i := by simpa using (List.mem_filter.mp hk).2
    exact h.unique k j i List.not_mem_nil List.not_mem_nil hok ho
  rw [portOf, List.getLast?_eq_some_getLast (List.ne_nil_of_mem hj), Option.getD_some]
  exact hall _ (List.getLast_mem _)

end Search

end SwitchTestbed.Placement
