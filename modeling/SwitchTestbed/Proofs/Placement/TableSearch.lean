import Mathlib.Data.List.Nodup
import SwitchTestbed.Proofs.Placement.FirstFit

/-!
# The search over tables

`augment` is told how deep it may go, and its state holds a function. Here the same search runs over
tables with one entry for each port: every position is checked, and only the room for its calls
bounds it.

* `Tables` : who holds each port and which ports are marked; `Fault` : why a search is broken off;
* `Calls` : the searches that a search starts; `Calls.Fresh` : each is for the holder of a port that
  was marked just before and not earlier;
* `searchAt`, `passAt` : the search over tables;
* `Ends`, `Passes` : it ends without a fault, as `augment` and `displace` do; `exists_passes`,
  `exists_ends` : every search that starts from a partial matching does;
* `search_ends_within_tables` : what one search of `matchPorts` does, and how far it goes.
-/

namespace SwitchTestbed.Placement

/-! ## Tables -/

/-- Why a search is broken off. -/
inductive Fault where
  /-- A position outside a table. -/
  | outside
  /-- A call that there is no room for. -/
  | tooDeep
  deriving DecidableEq, Repr

/-- The entry of a table at a position. -/
def entry {α : Type} (table : List α) (i : Nat) : Except Fault α :=
  match table[i]? with
  | some x => .ok x
  | none => .error .outside

/-- The table with another entry at a position. -/
def withEntry {α : Type} (table : List α) (i : Nat) (x : α) : Except Fault (List α) :=
  if i < table.length then .ok (table.set i x) else .error .outside

/-- For each port the request that holds it, and whether it is marked. -/
structure Tables where
  owner : List (Option Nat)
  marked : List Bool
  deriving DecidableEq, Repr

namespace Tables

/-- The tables of `n` ports. -/
def ofMatching (n : Nat) (m : PortMatching) : Tables where
  owner := (List.range n).map m.owner
  marked := (List.range n).map fun j => m.marked.contains j

/-- The port is held by the request from now on. -/
def give (t : Tables) (port request : Nat) : Except Fault Tables := do
  return { t with owner := ← withEntry t.owner port (some request) }

/-- The port is not looked at again in this search. -/
def mark (t : Tables) (port : Nat) : Except Fault Tables := do
  return { t with marked := ← withEntry t.marked port true }

end Tables

section Tables

variable {n i j : Nat} {m : PortMatching}

theorem entry_map_range {α : Type} (f : Nat → α) (hj : j < n) :
    entry ((List.range n).map f) j = .ok (f j) := by
  simp [entry, hj]

theorem withEntry_map_range {α : Type} {f g : Nat → α} {x : α} (hj : j < n) (hx : g j = x)
    (hg : ∀ k, k ≠ j → g k = f k) :
    withEntry ((List.range n).map f) j x = .ok ((List.range n).map g) := by
  have hlength : j < ((List.range n).map f).length := by simpa using hj
  rw [withEntry, if_pos hlength]
  congr 1
  refine List.ext_getElem (by simp) fun k hk _ => ?_
  rw [List.getElem_set]
  by_cases hkj : j = k
  · subst hkj
    simp [hx]
  · simp [hkj, hg k (Ne.symm hkj)]

theorem entry_owner (hj : j < n) :
    entry (Tables.ofMatching n m).owner j = .ok (m.owner j) :=
  entry_map_range m.owner hj

theorem entry_marked (hj : j < n) :
    entry (Tables.ofMatching n m).marked j = .ok (m.marked.contains j) :=
  entry_map_range _ hj

theorem give_ofMatching (hj : j < n) :
    (Tables.ofMatching n m).give j i = .ok (Tables.ofMatching n (m.give j i)) := by
  have howner : withEntry (Tables.ofMatching n m).owner j (some i) =
      .ok (Tables.ofMatching n (m.give j i)).owner :=
    withEntry_map_range hj (if_pos rfl) fun _ hk => if_neg hk
  rw [Tables.give, howner]
  rfl

theorem mark_ofMatching (hj : j < n) :
    (Tables.ofMatching n m).mark j = .ok (Tables.ofMatching n (m.mark j)) := by
  have hmarked : withEntry (Tables.ofMatching n m).marked j true =
      .ok (Tables.ofMatching n (m.mark j)).marked :=
    withEntry_map_range hj (by simp) fun k hk => by simp [hk]
  rw [Tables.mark, hmarked]
  rfl

end Tables

/-! ## Calls -/

/-- The searches for other requests that a search starts, one after the other. -/
inductive Calls where
  | nil
  /-- The port is marked and another one is searched for its holder. That search starts those
  `inside`; those of the `rest` are started after it. -/
  | cons (port holder : Nat) (inside rest : Calls)
  deriving DecidableEq, Repr

namespace Calls

/-- How many searches are under way at most, besides the first one. -/
def depth : Calls → Nat
  | nil => 0
  | cons _ _ inside rest => max (inside.depth + 1) rest.depth

/-- Each search is for the holder of a port that was marked just before and not earlier. The lists
are the marked ports `before` the searches and `after` them. -/
inductive Fresh (owner : Nat → Option Nat) (n : Nat) : List Nat → Calls → List Nat → Prop where
  | nil {marked : List Nat} : Fresh owner n marked .nil marked
  | cons {before between after : List Nat} {port holder : Nat} {inside rest : Calls}
      (bound : port < n) (unmarked : port ∉ before) (holds : owner port = some holder)
      (inner : Fresh owner n (port :: before) inside between)
      (outer : Fresh owner n between rest after) :
      Fresh owner n before (.cons port holder inside rest) after

section Fresh

variable {owner : Nat → Option Nat} {n : Nat} {before after : List Nat} {calls : Calls}

theorem Fresh.subset (h : calls.Fresh owner n before after) : before ⊆ after := by
  induction h with
  | nil => exact List.Subset.refl _
  | cons _ _ _ _ _ inside rest => exact fun l hl => rest (inside (List.mem_cons_of_mem _ hl))

theorem Fresh.nodup (h : calls.Fresh owner n before after) (hb : before.Nodup) : after.Nodup := by
  induction h with
  | nil => exact hb
  | cons _ unmarked _ _ _ inside rest => exact rest (inside (List.nodup_cons.mpr ⟨unmarked, hb⟩))

theorem Fresh.lt (h : calls.Fresh owner n before after) (hb : ∀ j ∈ before, j < n) :
    ∀ j ∈ after, j < n := by
  induction h with
  | nil => exact hb
  | cons bound _ _ _ _ inside rest => exact rest (inside (List.forall_mem_cons.mpr ⟨bound, hb⟩))

/-- Every search under way has marked a port. -/
theorem Fresh.depth_add_le (h : calls.Fresh owner n before after) :
    calls.depth + before.length ≤ after.length := by
  induction h with
  | nil => simp [depth]
  | cons _ _ _ _ _ inside rest =>
    rw [List.length_cons] at inside
    rw [depth]
    omega

/-- A search that starts without marks is never deeper than there are ports. -/
theorem Fresh.depth_le (h : calls.Fresh owner n [] after) : calls.depth ≤ n := by
  have hnodup := h.nodup List.nodup_nil
  have hsub : after ⊆ List.range n := fun j hj =>
    List.mem_range.mpr (h.lt (fun _ hb => by cases hb) j hj)
  have hlength := hnodup.length_le_of_subset hsub
  have hdepth := h.depth_add_le
  simp only [List.length_nil, List.length_range] at hdepth hlength
  omega

end Fresh

end Calls

/-! ## The search -/

/-- How a search over tables ends: whether it found a port, the tables it leaves, and the searches
that it started. -/
structure Ending where
  found : Bool
  tables : Tables
  calls : Calls
  deriving DecidableEq, Repr

section Search

variable (want : List PortRequirement) (ports : List Port)

/-- Whether a port is good enough for a request. -/
def fitsAt (i j : Nat) : Except Fault Bool := do
  match (← entry want i).speed with
  | some s => return decide (s = (← entry ports j).speed)
  | none => return true

/-- The first free port that fits a request. -/
def freeAt (t : Tables) (i : Nat) : List Nat → Except Fault (Option Nat)
  | [] => return none
  | j :: js => do
    match ← entry t.owner j with
    | some _ => freeAt t i js
    | none => if ← fitsAt want ports i j then return some j else freeAt t i js

/-- Goes through ports that fit a request and are not marked, marks each, and starts a search for
its holder. The first port whose holder found another one goes to the request. -/
def passAt (search : Nat → Tables → Except Fault Ending) (i : Nat) :
    List Nat → Tables → Except Fault Ending
  | [], t => return ⟨false, t, .nil⟩
  | j :: js, t => do
    if (← entry t.marked j) || !(← fitsAt want ports i j) then passAt search i js t
    else
      let t ← t.mark j
      match ← entry t.owner j with
      | none => passAt search i js t
      | some k =>
        let moved ← search k t
        if moved.found then
          return ⟨true, ← moved.tables.give j i, .cons j k moved.calls .nil⟩
        else
          let ending ← passAt search i js moved.tables
          return { ending with calls := .cons j k moved.calls ending.calls }

/-- Gives a request a port: a free one, or one whose holder finds another. Every call needs room,
and there is no other bound. -/
def searchAt : Nat → Nat → Tables → Except Fault Ending
  | 0, _, _ => .error .tooDeep
  | room + 1, i, t => do
    let positions := List.range ports.length
    match ← freeAt want ports t i positions with
    | some j => return ⟨true, ← t.give j i, .nil⟩
    | none => passAt want ports (searchAt room) i positions t

end Search

section Entries

variable {want : List PortRequirement} {ports : List Port} {m m' : PortMatching} {i j k : Nat}
  {js : List Nat} {search : Nat → Tables → Except Fault Ending} {inside : Calls}

theorem ok_bind {α β : Type} (x : α) (f : α → Except Fault β) : (Except.ok x >>= f) = f x := rfl

theorem fitsAt_eq (hi : i < want.length) (hj : j < ports.length) :
    fitsAt want ports i j = .ok (portFits want ports i j) := by
  have hw : want[i]? = some want[i] := List.getElem?_eq_getElem hi
  have hp : ports[j]? = some ports[j] := List.getElem?_eq_getElem hj
  simp only [fitsAt, portFits, entry, hw, hp, ok_bind]
  cases want[i].speed <;> rfl

theorem freeAt_eq (hi : i < want.length) : ∀ js : List Nat, (∀ j ∈ js, j < ports.length) →
    freeAt want ports (Tables.ofMatching ports.length m) i js =
      .ok (freePort (portFits want ports) js m i) := by
  intro js
  induction js with
  | nil => exact fun _ => rfl
  | cons j js ih =>
    intro hjs
    have hj : j < ports.length := hjs j (by simp)
    have hrest := ih fun l hl => hjs l (by simp [hl])
    rw [freeAt, entry_owner hj, ok_bind, freePort, List.find?_cons]
    cases ho : m.owner j with
    | some k => exact hrest
    | none =>
      dsimp only
      rw [fitsAt_eq hi hj, ok_bind]
      cases hf : portFits want ports i j with
      | true => rfl
      | false => exact hrest

theorem passAt_skip (hi : i < want.length) (hj : j < ports.length)
    (h : j ∈ m.marked ∨ portFits want ports i j = false) :
    passAt want ports search i (j :: js) (Tables.ofMatching ports.length m) =
      passAt want ports search i js (Tables.ofMatching ports.length m) := by
  rw [passAt, entry_marked hj, ok_bind, fitsAt_eq hi hj, ok_bind]
  exact if_pos (by simpa using h)

theorem passAt_cons (hi : i < want.length) (hj : j < ports.length) (hm : j ∉ m.marked)
    (hf : portFits want ports i j = true) (ho : m.owner j = some k) :
    passAt want ports search i (j :: js) (Tables.ofMatching ports.length m) = do
      let moved ← search k (Tables.ofMatching ports.length (m.mark j))
      if moved.found then
        return ⟨true, ← moved.tables.give j i, .cons j k moved.calls .nil⟩
      else
        let ending ← passAt want ports search i js moved.tables
        return { ending with calls := .cons j k moved.calls ending.calls } := by
  rw [passAt, entry_marked hj, ok_bind, fitsAt_eq hi hj, ok_bind, if_neg (by simp [hm, hf]),
    mark_ofMatching hj, ok_bind, entry_owner hj, mark_owner, ho, ok_bind]

theorem passAt_moved (hi : i < want.length) (hj : j < ports.length) (hm : j ∉ m.marked)
    (hf : portFits want ports i j = true) (ho : m.owner j = some k)
    (hs : search k (Tables.ofMatching ports.length (m.mark j)) =
      .ok ⟨true, Tables.ofMatching ports.length m', inside⟩) :
    passAt want ports search i (j :: js) (Tables.ofMatching ports.length m) =
      .ok ⟨true, Tables.ofMatching ports.length (m'.give j i), .cons j k inside .nil⟩ := by
  rw [passAt_cons hi hj hm hf ho, hs, ok_bind, if_pos rfl, give_ofMatching hj]
  rfl

theorem passAt_stayed {ending : Ending} (hi : i < want.length) (hj : j < ports.length)
    (hm : j ∉ m.marked) (hf : portFits want ports i j = true) (ho : m.owner j = some k)
    (hs : search k (Tables.ofMatching ports.length (m.mark j)) =
      .ok ⟨false, Tables.ofMatching ports.length m', inside⟩)
    (hrest : passAt want ports search i js (Tables.ofMatching ports.length m') = .ok ending) :
    passAt want ports search i (j :: js) (Tables.ofMatching ports.length m) =
      .ok { ending with calls := .cons j k inside ending.calls } := by
  rw [passAt_cons hi hj hm hf ho, hs, ok_bind, if_neg Bool.false_ne_true, hrest]
  rfl

end Entries

/-! ## Every search ends -/

/-- The search for a port for the request `i` ends: over tables, given room for one call more than
there are ports not marked, and `augment` comes to the same end at every depth from their number
on. -/
structure Ends (want : List PortRequirement) (ports : List Port) (i : Nat) (m : PortMatching)
    (found : Bool) (m' : PortMatching) (calls : Calls) : Prop where
  plain : ∀ depth, unmarkedCount (List.range ports.length) m ≤ depth →
    augment (portFits want ports) (List.range ports.length) depth i m = (found, m')
  tables : ∀ room, unmarkedCount (List.range ports.length) m < room →
    searchAt want ports room i (Tables.ofMatching ports.length m) =
      .ok ⟨found, Tables.ofMatching ports.length m', calls⟩
  fresh : calls.Fresh m.owner ports.length m.marked m'.marked

/-- The same of going through the ports `js`: a search that is started there has one port less to
mark. -/
structure Passes (want : List PortRequirement) (ports : List Port) (i : Nat) (js : List Nat)
    (m : PortMatching) (found : Bool) (m' : PortMatching) (calls : Calls) : Prop where
  plain : ∀ depth, unmarkedCount (List.range ports.length) m ≤ depth + 1 →
    displace (portFits want ports) (augment (portFits want ports) (List.range ports.length) depth)
      i js m = (found, m')
  tables : ∀ room, unmarkedCount (List.range ports.length) m ≤ room →
    passAt want ports (searchAt want ports room) i js (Tables.ofMatching ports.length m) =
      .ok ⟨found, Tables.ofMatching ports.length m', calls⟩
  fresh : calls.Fresh m.owner ports.length m.marked m'.marked

section Passes

variable {want : List PortRequirement} {ports : List Port} {m m₁ m₂ : PortMatching} {i j k : Nat}
  {js : List Nat} {found : Bool} {inside rest : Calls}

theorem Passes.nil (i : Nat) (m : PortMatching) : Passes want ports i [] m false m .nil where
  plain := fun _ _ => rfl
  tables := fun _ _ => rfl
  fresh := .nil

theorem Passes.skip (hi : i < want.length) (hj : j < ports.length)
    (h : j ∈ m.marked ∨ portFits want ports i j = false)
    (hrest : Passes want ports i js m found m₁ rest) :
    Passes want ports i (j :: js) m found m₁ rest where
  plain := fun depth hdepth => (displace_skip h).trans (hrest.plain depth hdepth)
  tables := fun room hroom => (passAt_skip hi hj h).trans (hrest.tables room hroom)
  fresh := hrest.fresh

theorem Passes.moved (hi : i < want.length) (hj : j < ports.length) (hm : j ∉ m.marked)
    (hf : portFits want ports i j = true) (ho : m.owner j = some k)
    (h : Ends want ports k (m.mark j) true m₁ inside) :
    Passes want ports i (j :: js) m true (m₁.give j i) (.cons j k inside .nil) := by
  have hless := unmarkedCount_mark (List.mem_range.mpr hj) hm
  constructor
  · intro depth hdepth
    exact displace_moved hm hf ho (h.plain depth (by omega))
  · intro room hroom
    exact passAt_moved hi hj hm hf ho (h.tables room (by omega))
  · exact .cons hj hm ho h.fresh .nil

theorem Passes.stayed (hi : i < want.length) (hj : j < ports.length) (hm : j ∉ m.marked)
    (hf : portFits want ports i j = true) (ho : m.owner j = some k)
    (h : Ends want ports k (m.mark j) false m₁ inside) (howner : m₁.owner = m.owner)
    (hrest : Passes want ports i js m₁ found m₂ rest) :
    Passes want ports i (j :: js) m found m₂ (.cons j k inside rest) := by
  have hless := unmarkedCount_mark (List.mem_range.mpr hj) hm
  have hmore := unmarkedCount_le (List.range ports.length) h.fresh.subset
  constructor
  -- the holder has its port still, and the search goes on with the marks that it left
  · intro depth hdepth
    rw [displace_stayed hm hf ho (h.plain depth (by omega))]
    exact hrest.plain depth (by omega)
  · intro room hroom
    exact passAt_stayed hi hj hm hf ho (h.tables room (by omega)) (hrest.tables room (by omega))
  · exact .cons hj hm ho h.fresh (howner ▸ hrest.fresh)

/-- A search through ports ends if every search that it may start does. -/
theorem exists_passes {count : Nat}
    (hends : ∀ k m, unmarkedCount (List.range ports.length) m < count → k < want.length →
      Ready (portFits want ports) (List.range ports.length) m k →
        ∃ found m' calls, Ends want ports k m found m' calls) (hi : i < want.length) :
    ∀ (js : List Nat) (m : PortMatching), (∀ j ∈ js, j < ports.length) →
      unmarkedCount (List.range ports.length) m ≤ count →
      Ready (portFits want ports) (List.range ports.length) m i →
      (∀ j ∈ js, portFits want ports i j = true → m.owner j ≠ none) →
        ∃ found m' calls, Passes want ports i js m found m' calls := by
  intro js
  induction js with
  | nil => exact fun m _ _ _ _ => ⟨false, m, .nil, .nil i m⟩
  | cons j js ih =>
    intro m hjs hcount hready hfull
    have hj : j < ports.length := hjs j (by simp)
    have hjs' : ∀ l ∈ js, l < ports.length := fun l hl => hjs l (by simp [hl])
    rcases hready.port_cases (List.mem_range.mpr hj) (hfull j (by simp)) with
      hskip | ⟨k, hm, hf, ho, hready', hless⟩
    · obtain ⟨found, m₁, rest, hrest⟩ := ih m hjs' hcount hready fun l hl => hfull l (by simp [hl])
      exact ⟨found, m₁, rest, hrest.skip hi hj hskip⟩
    · have hk : k < want.length := lt_of_portFits (hready.matching.fit j k hm ho).2
      obtain ⟨moved, m₁, inside, hends₁⟩ := hends k (m.mark j) (by omega) hk hready'
      cases moved with
      | true => exact ⟨true, m₁.give j i, .cons j k inside .nil, .moved hi hj hm hf ho hends₁⟩
      | false =>
        have hb : Blocked (portFits want ports) (List.range ports.length) (List.range ports.length)
            (m.mark j) m₁ k := by
          have hspec := augment_spec _ k (m.mark j) (Nat.le_refl _) hready'
          rwa [hends₁.plain _ (Nat.le_refl _)] at hspec
        have howner : m₁.owner = m.owner := hb.owner
        have hmore := unmarkedCount_le (List.range ports.length) hends₁.fresh.subset
        obtain ⟨found, m₂, rest, hrest⟩ := ih m₁ hjs' (by omega) (hready.blocked hm ho hb)
          fun l hl hfl => howner ▸ hfull l (by simp [hl]) hfl
        exact ⟨found, m₂, .cons j k inside rest, .stayed hi hj hm hf ho hends₁ howner hrest⟩

theorem Ends.free (hi : i < want.length)
    (h : freePort (portFits want ports) (List.range ports.length) m i = some j) :
    Ends want ports i m true (m.give j i) .nil where
  plain := fun _ _ => augment_freePort h
  tables := by
    intro room hroom
    cases room with
    | zero => exact absurd hroom (Nat.not_lt_zero _)
    | succ room =>
      have hj : j < ports.length := List.mem_range.mp (freePort_some h).1
      rw [searchAt, freeAt_eq hi _ fun l hl => List.mem_range.mp hl, ok_bind, h]
      dsimp only
      rw [give_ofMatching hj]
      rfl
  fresh := .nil

/-- Without a free port the search goes through all of them. -/
theorem Ends.passes (hi : i < want.length)
    (h : freePort (portFits want ports) (List.range ports.length) m i = none)
    (hpasses : Passes want ports i (List.range ports.length) m found m₁ rest) :
    Ends want ports i m found m₁ rest where
  plain := by
    intro depth hdepth
    cases depth with
    | zero =>
      -- no port is left to be marked, so going through them does nothing
      have hmarked : List.range ports.length ⊆ m.marked := fun l hl =>
        mem_marked_of_unmarkedCount (Nat.le_zero.mp hdepth) hl
      have hend := hpasses.plain 0 (by omega)
      rw [displace_of_marked hmarked] at hend
      rw [augment, h]
      exact hend
    | succ depth =>
      rw [augment, h]
      exact hpasses.plain depth hdepth
  tables := by
    intro room hroom
    cases room with
    | zero => exact absurd hroom (Nat.not_lt_zero _)
    | succ room =>
      rw [searchAt, freeAt_eq hi _ fun l hl => List.mem_range.mp hl, ok_bind, h]
      exact hpasses.tables room (Nat.le_of_lt_succ hroom)
  fresh := hpasses.fresh

/-- **Every search ends.** By induction on the ports that are not marked: a search starts others
only after it has marked one more. -/
theorem exists_ends (hi : i < want.length)
    (hready : Ready (portFits want ports) (List.range ports.length) m i) :
    ∃ found m' calls, Ends want ports i m found m' calls := by
  induction hcount : unmarkedCount (List.range ports.length) m using Nat.strong_induction_on
    generalizing i m with
  | _ count ih =>
    cases hfree : freePort (portFits want ports) (List.range ports.length) m i with
    | some j => exact ⟨true, m.give j i, .nil, .free hi hfree⟩
    | none =>
      have hfull := freePort_none hfree
      obtain ⟨found, m', calls, hpasses⟩ := exists_passes
        (fun k m hless hk hready => ih _ hless hk hready rfl) hi (List.range ports.length) m
        (fun l hl => List.mem_range.mp hl) (Nat.le_of_eq hcount) hready hfull
      exact ⟨found, m', calls, .passes hi hfree hpasses⟩

end Passes

/-! ## Main result -/

/-- What the search for the request `i` does in the loop of `matchPorts`, when the requests before
it have their ports. -/
structure PortSearch (want : List PortRequirement) (ports : List Port) (i : Nat)
    (m : PortMatching) (found : Bool) (m' : PortMatching) (calls : Calls) : Prop where
  result : augment (portFits want ports) (List.range ports.length) ports.length i m.unmarked =
    (found, m')
  /-- Room for one call more than there are ports is enough, and no position is outside a table. -/
  ends : ∀ room, ports.length < room →
    searchAt want ports room i (Tables.ofMatching ports.length m.unmarked) =
      .ok ⟨found, Tables.ofMatching ports.length m', calls⟩
  fresh : calls.Fresh m.owner ports.length [] m'.marked
  depth : calls.depth + 1 ≤ ports.length + 1
  gained : found = true →
    Placed (portFits want ports) (List.range ports.length) m' (List.range (i + 1)) ∧
      ∃ q < ports.length, m.owner q = none ∧ ∀ j, m'.owner j ≠ none ↔ m.owner j ≠ none ∨ j = q
  /-- The request and the holders of marked ports could only be helped by marked ports. -/
  blocked : found = false → m'.owner = m.owner ∧
    ∀ r, (r = i ∨ ∃ j ∈ m'.marked, m'.owner j = some r) →
      ∀ j < ports.length, portFits want ports r j = true → j ∈ m'.marked

/-- **Every search for a port ends within its tables.** The calls inside one another are at most one
more than the ports, since each but the first has marked another port. A search that succeeds gives
the request a port, leaves everybody else with one and brings one more port into use. One that fails
gives nothing away, and the marked ports are all that fit the request or one of their holders. The
loop searches only in states where the requests so far have different ports that fit. -/
theorem search_ends_within_tables (want : List PortRequirement) (ports : List Port) :
    (∀ i m, placeAll (portFits want ports) (List.range ports.length) (List.range i) {} = some m →
      Placed (portFits want ports) (List.range ports.length) m (List.range i)) ∧
    ∀ i m, i < want.length →
      Placed (portFits want ports) (List.range ports.length) m (List.range i) →
        ∃ found m' calls, PortSearch want ports i m found m' calls := by
  refine ⟨fun i m hm => placed_of_placeAll List.nodup_range hm, fun i m hi hplaced => ?_⟩
  have hready := hplaced.ready (i := i) (by simp)
  obtain ⟨found, m', calls, hends⟩ := exists_ends hi hready
  have hcount := unmarkedCount_le_length (List.range ports.length) m.unmarked
  rw [List.length_range] at hcount
  have hresult := hends.plain ports.length hcount
  have hspec := augment_spec ports.length i m.unmarked hcount hready
  rw [hresult] at hspec
  refine ⟨found, m', calls, hresult, fun room hroom => hends.tables room (by omega), hends.fresh,
    Nat.succ_le_succ hends.fresh.depth_le, ?_, ?_⟩
  · rintro rfl
    have hg : Gains (portFits want ports) (List.range ports.length) [] m.owner m'.owner i := hspec
    obtain ⟨q, hq, hgrows⟩ := hg.grows
    exact ⟨List.range_succ ▸ hplaced.gains hg, q, List.mem_range.mp hq, hgrows⟩
  · rintro rfl
    have hb : Blocked (portFits want ports) (List.range ports.length) (List.range ports.length)
        m.unmarked m' i := hspec
    exact ⟨hb.owner, fun r hr j hj hf => hb.fits_marked rfl hr (List.mem_range.mpr hj) hf⟩

/-- A slower port, any port and another slower one. -/
def chainedWishes : List PortRequirement := [⟨"p1", some .gb100⟩, ⟨"p2", none⟩, ⟨"p3", some .gb100⟩]

/-- The third request asks the first one for its port, and that one asks the second. -/
theorem search_ends_within_tables_chained : ∃ m m',
    placeAll (portFits chainedWishes mixedPorts) (List.range 3) (List.range 2) {} = some m ∧
    PortSearch chainedWishes mixedPorts 2 m true m' (.cons 0 0 (.cons 1 1 .nil .nil) .nil) := by
  obtain ⟨hloop, hsearch⟩ := search_ends_within_tables chainedWishes mixedPorts
  let m := (({} : PortMatching).unmarked.give 0 0).unmarked.give 1 1
  have hm : placeAll (portFits chainedWishes mixedPorts) (List.range 3) (List.range 2) {} =
      some m := rfl
  obtain ⟨found, m', calls, h⟩ := hsearch 2 m (by decide) (hloop 2 m hm)
  have hrun : searchAt chainedWishes mixedPorts 4 2 (Tables.ofMatching 3 m.unmarked) =
      .ok ⟨true, ⟨[some 2, some 0, some 1], [true, true, false]⟩,
        .cons 0 0 (.cons 1 1 .nil .nil) .nil⟩ := rfl
  injection Except.ok.inj ((h.ends 4 (by decide)).symm.trans hrun) with hfound _ hcalls
  subst hfound hcalls
  exact ⟨m, m', hm, h⟩

/-- With room for two calls only, the second one could not be asked. -/
example : searchAt chainedWishes mixedPorts 2 2 ⟨[some 0, some 1, none], [false, false, false]⟩ =
    .error .tooDeep := rfl

end SwitchTestbed.Placement
