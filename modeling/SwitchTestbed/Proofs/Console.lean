import SwitchTestbed.Proofs.Context
import SwitchTestbed.Proofs.Pool

/-!
# Consoles of granted devices

* `Inventory.get?_consoles` : a checked inventory has the console of every device under its name;
* `watchedConnect` : connecting that keeps the addresses it is tried with;
* `ReachesConsole` : what comes of dialing the console of a device, given the console of an entry of
  the inventory (`reachesConsole`);
* `consoles_reach_granted_devices` : the main result.
-/

namespace SwitchTestbed

open Placement

/-! ## The consoles of an inventory -/

namespace Inventory

variable {inv : Inventory} {e : InventoryDevice} {name address : String}

theorem mem_consoles_iff :
    (name, address) ∈ inv.devices.filterMap (fun d => d.console.map (d.name, ·)) ↔
      ∃ d ∈ inv.devices, d.name = name ∧ d.console = some address := by
  simp only [List.mem_filterMap, Option.map_eq_some_iff, Prod.mk.injEq]
  constructor
  · rintro ⟨d, hd, a, ha, hname, rfl⟩
    exact ⟨d, hd, hname, ha⟩
  · rintro ⟨d, hd, hname, ha⟩
    exact ⟨d, hd, address, ha, hname, rfl⟩

/-- **No entry of a checked inventory hides the console of another.** -/
theorem get?_consoles (hvalid : inv.validate = .ok ()) (he : e ∈ inv.devices) :
    inv.consoles.get? e.name = e.console := by
  cases hfound : inv.consoles.get? e.name with
  | some address =>
    obtain ⟨d, hd, hname, hconsole⟩ := mem_consoles_iff.mp (StringMap.mem_of_get?_ofList hfound)
    rw [← eq_of_name_eq hvalid hd he hname, hconsole]
  | none =>
    cases hconsole : e.console with
    | none => rfl
    | some address =>
      have hmem := mem_consoles_iff.mpr ⟨e, he, rfl, hconsole⟩
      obtain ⟨a, ha⟩ := StringMap.exists_get?_ofList (List.mem_map_of_mem hmem)
      cases hfound.symm.trans ha

end Inventory

/-! ## One dial -/

section Dial

variable {σ γ : Type} {p : Pool} {c : Context} {now : Instant} {device address : String}

namespace Pool

theorem openConsole_none (h : p.inventory.consoles.get? device = none)
    (connect : String → σ → σ × Work (Except String γ)) (s : σ) :
    p.openConsole connect c now device s =
      (s, now, .error (.serviceNotRegistered .console device)) := by
  rw [openConsole, h]

theorem openConsole_bounded (h : p.inventory.consoles.get? device = some address)
    (hbound : c.Boundable now defaultServiceTimeout)
    (connect : String → σ → σ × Work (Except String γ)) (s : σ) :
    let start := fun s => ((connect address s).1, consoleWork address (connect address s).2)
    let ended := (c.bounded now defaultServiceTimeout).perform now start s
    p.openConsole connect c now device s = (ended.1, ended.2.1, .ofExcept ended.2.2) := by
  rw [openConsole, h]
  exact Context.performWithin_of_boundable hbound _ s

theorem openConsole_aborted (h : p.inventory.consoles.get? device = some address)
    (hbound : ¬c.Boundable now defaultServiceTimeout)
    (connect : String → σ → σ × Work (Except String γ)) (s : σ) :
    p.openConsole connect c now device s = (s, now, .aborted) := by
  rw [openConsole, h]
  exact Context.performWithin_aborted hbound _ s

/-- A failure to connect names the address. -/
theorem consoleWork_error {w : Work (Except String γ)} {e : Error}
    (h : (consoleWork address w).result = .error e) :
    ∃ reason, w.result = .error reason ∧ e = .transport (.console address reason) := by
  have hresult : w.result.mapError (fun reason => Error.transport (.console address reason)) =
      .error e := h
  cases hw : w.result with
  | ok console =>
    rw [hw] at hresult
    cases hresult
  | error reason =>
    rw [hw] at hresult
    cases hresult
    exact ⟨reason, rfl, rfl⟩

end Pool

/-- Connecting that keeps the addresses it is tried with, the last one at the end. -/
def watchedConnect (connect : String → Work (Except String γ)) (address : String)
    (seen : List String) : List String × Work (Except String γ) :=
  (seen ++ [address], connect address)

/-- No end of connecting is taken for a console that is missing. -/
theorem Context.run_consoleWork_ne {w : Work (Except String γ)} {protocol : Protocol}
    (hlive : c.isCancelled now = false) :
    (c.run now (Pool.consoleWork address w)).verdict.toExcept ≠
      .error (.serviceNotRegistered protocol device) := by
  intro hanswer
  rcases run_verdict hlive (Pool.consoleWork address w) with hverdict | hverdict | hverdict <;>
    rw [hverdict] at hanswer
  · obtain ⟨reason, -, hcause⟩ := Pool.consoleWork_error hanswer
    cases hcause
  · cases hanswer
  · cases hanswer

end Dial

section Reach

variable {ω τ : Type}

/-- Dialing the console of a device comes to one connection to the console that is given, under the
default bound, or to none if none is given, which is told. A bound whose end cannot be told ends the
program before. -/
structure ReachesConsole (S : Stubs ω τ) (connect : String → Work (Except String Console))
    (s : Stock ω) (dims : Dims) (console : Option String) : Prop where
  attempted : ∀ c now seen, c.isCancelled now = false →
    s.pool.openConsole (watchedConnect connect) c now dims.name seen =
      (seen ++ (if c.Boundable now defaultServiceTimeout then console.toList else []),
        ((inventoryBackend S connect).dialConsole c now dims s).2)
  answered : ∀ address, console = some address → ∀ c now,
    c.Boundable now defaultServiceTimeout →
      let work := Pool.consoleWork address (connect address)
      let ending := (c.bounded now defaultServiceTimeout).run now work
      (inventoryBackend S connect).dialConsole c now dims s =
        (s, ending.time, .ofExcept ending.verdict.toExcept)
  aborted : ∀ address, console = some address → ∀ c now,
    ¬c.Boundable now defaultServiceTimeout →
      (inventoryBackend S connect).dialConsole c now dims s = (s, now, .aborted)
  refused : ∀ c now, c.isCancelled now = false →
    (((inventoryBackend S connect).dialConsole c now dims s).2.2 =
      .error (.serviceNotRegistered .console dims.name) ↔ console = none)

variable (S : Stubs ω τ) (connect : String → Work (Except String Console)) {s : Stock ω}
  {dims : Dims}

theorem dialConsole_inventory (c : Context) (now : Instant) (dims : Dims) (s : Stock ω) :
    (inventoryBackend S connect).dialConsole c now dims s =
      (s, (s.pool.openConsole (fun address s => (s, connect address)) c now dims.name ()).2) :=
  rfl

/-- Without a console there is nothing to connect to, and that is told. -/
theorem reachesConsole_none (h : s.pool.inventory.consoles.get? dims.name = none) :
    ReachesConsole S connect s dims none where
  attempted c now seen _ := by
    rw [dialConsole_inventory, Pool.openConsole_none h, Pool.openConsole_none h,
      Option.toList_none, ite_self, List.append_nil]
  answered := nofun
  aborted := nofun
  refused c now _ := by
    rw [dialConsole_inventory, Pool.openConsole_none h]
    exact ⟨fun _ => rfl, fun _ => rfl⟩

theorem dialConsole_bounded {address : String}
    (h : s.pool.inventory.consoles.get? dims.name = some address) {c : Context} {now : Instant}
    (hbound : c.Boundable now defaultServiceTimeout) :
    let work := Pool.consoleWork address (connect address)
    let ending := (c.bounded now defaultServiceTimeout).run now work
    (inventoryBackend S connect).dialConsole c now dims s =
      (s, ending.time, .ofExcept ending.verdict.toExcept) := by
  rw [dialConsole_inventory, Pool.openConsole_bounded h hbound]
  dsimp only
  rw [Context.perform_untouched]

theorem reachesConsole_some {address : String}
    (h : s.pool.inventory.consoles.get? dims.name = some address) :
    ReachesConsole S connect s dims (some address) where
  attempted c now seen hlive := by
    by_cases hbound : c.Boundable now defaultServiceTimeout
    · have hlive' : (c.bounded now defaultServiceTimeout).isCancelled now = false := hlive
      rw [dialConsole_bounded S connect h hbound, Pool.openConsole_bounded h hbound, if_pos hbound,
        Context.perform_live hlive']
      rfl
    · rw [dialConsole_inventory, Pool.openConsole_aborted h hbound,
        Pool.openConsole_aborted h hbound, if_neg hbound, List.append_nil]
  answered a ha c now hbound := by
    cases ha
    exact dialConsole_bounded S connect h hbound
  aborted a _ c now hbound := by
    rw [dialConsole_inventory, Pool.openConsole_aborted h hbound]
  refused c now hlive := by
    refine ⟨fun hanswer => ?_, nofun⟩
    by_cases hbound : c.Boundable now defaultServiceTimeout
    · rw [dialConsole_bounded S connect h hbound] at hanswer
      have hlive' : (c.bounded now defaultServiceTimeout).isCancelled now = false := hlive
      exact absurd (Outcome.ofExcept_eq_error.mp hanswer) (Context.run_consoleWork_ne hlive')
    · rw [dialConsole_inventory, Pool.openConsole_aborted h hbound] at hanswer
      cases hanswer

theorem reachesConsole :
    ReachesConsole S connect s dims (s.pool.inventory.consoles.get? dims.name) := by
  cases hconsole : s.pool.inventory.consoles.get? dims.name with
  | none => exact reachesConsole_none S connect hconsole
  | some address => exact reachesConsole_some S connect hconsole

/-- Granted devices that follow a plan over a checked inventory reach the consoles of its
entries. -/
theorem Placement.Follows.reachesConsole {inv : Inventory} {role : Role}
    {reqs : List DeviceRequirement} {plan : DevicePlan inv role reqs}
    {granted : List ReservedDevice} (hfollows : Follows plan granted) (hvalid : inv.validate = .ok ())
    (hinv : s.pool.inventory = inv) {i : Fin reqs.length} {r : ReservedDevice} (hr : granted[i.val]? = some r) :
    ReachesConsole S connect s r.dims (inv.devices.get (plan.device i)).console := by
  obtain ⟨r', hr', hdescribes⟩ := hfollows.describes i
  cases hr.symm.trans hr'
  have hentry := Inventory.get?_consoles hvalid (List.get_mem _ (plan.device i))
  rw [← hentry, ← hdescribes.name, ← hinv]
  exact SwitchTestbed.reachesConsole S connect

/-! ## Main result -/

/-- **The console of a granted device is that of the entry it was granted from.** Whatever is
granted over a checked inventory, and however the pool stands when the console is dialed: there is
one attempt to connect, to the console of that entry and under the default bound, unless the entry
has none. Only then no console is found, under the name of the device. The entries are those that
the pool keeps account of while the reservation is in force. -/
theorem consoles_reach_granted_devices (c : Context) (now : Instant) (d : Demand)
    (s s' : Stock ω) (t : Topology)
    (hvalid : s.pool.inventory.validate = .ok ())
    (h : (inventoryBackend S connect).reserve c now d s = (s', .ok t)) :
    s'.pool.inventory = s.pool.inventory ∧
    ∃ (duts : DevicePlan s.pool.inventory .dut d.testbed.duts)
      (ates : DevicePlan s.pool.inventory .ate d.testbed.ates),
      Follows duts t.duts ∧ Follows ates t.ates ∧
      s'.pool.active = some ⟨t.id, Pool.entryIds duts ++ Pool.entryIds ates⟩ ∧
      ∀ later : Stock ω, later.pool.inventory = s.pool.inventory →
        (∀ i r, t.duts[i.val]? = some r → ReachesConsole S connect later r.dims
          (s.pool.inventory.devices.get (duts.device i)).console) ∧
        (∀ i r, t.ates[i.val]? = some r → ReachesConsole S connect later r.dims
          (s.pool.inventory.devices.get (ates.device i)).console) := by
  have hpool : s.pool.reserve (c.isCancelled now) d = (s'.pool, .ok t) :=
    congrArg (fun answer => (answer.1.pool, answer.2)) h
  obtain ⟨hinventory, duts, ates, hduts, hates, hactive⟩ := Pool.reserve_entries hpool
  exact ⟨hinventory, duts, ates, hduts, hates, hactive, fun later hinv =>
    ⟨fun i r hr => hduts.reachesConsole S connect hvalid hinv hr,
      fun i r hr => hates.reachesConsole S connect hvalid hinv hr⟩⟩

end Reach

/-- Two switches with consoles, and a traffic generator without. -/
def consoleRack : Inventory where
  devices :=
    [{ id := "s1", name := "leaf1", console := some "10.0.0.9:7001" },
      { id := "s2", name := "leaf2", console := some "10.0.0.9:7002" },
      { id := "g1", name := "gen1", role := .ate }]

/-- A switch and a traffic generator. -/
def couple : Testbed where
  duts := [{ id := "a" }]
  ates := [{ id := "g" }]

def coupleDut : ReservedDevice := reserved consoleRack.devices[0] couple.duts[0] []

def coupleAte : ReservedDevice := reserved consoleRack.devices[2] couple.ates[0] []

theorem consoleRack_place :
    Pool.place ⟨consoleRack, none⟩ couple = .ok ([coupleDut], [coupleAte], ["s1", "g1"]) :=
  Pool.place_of_sorted ["s1"] (by decide) (by decide) rfl rfl

/-- Connecting that takes a while and succeeds. -/
def connectSlowly (address : String) : Work (Except String Console) := ⟨1, .ok (.remote address)⟩

theorem consoles_reach_granted_devices_couple :
    let demand : Demand := { testbed := couple, freshId := "r1", today := 0 }
    let stock : Stock Unit := ⟨⟨consoleRack, none⟩, ()⟩
    let taken : Stock Unit := ⟨⟨consoleRack, some ⟨"r1", ["s1", "g1"]⟩⟩, ()⟩
    let S : Stubs Unit Unit := .unsupported
    consoleRack.validate = .ok () ∧
    (inventoryBackend S connectSlowly).reserve {} 0 demand stock =
      (taken, .ok ⟨"r1", [coupleDut], [coupleAte], none⟩) ∧
    ReachesConsole S connectSlowly taken coupleDut.dims (some "10.0.0.9:7001") ∧
    ReachesConsole S connectSlowly taken coupleAte.dims none := by
  intro demand stock taken S
  have hvalid : consoleRack.validate = .ok () := rfl
  have hgranted : (inventoryBackend S connectSlowly).reserve {} 0 demand stock =
      (taken, .ok ⟨"r1", [coupleDut], [coupleAte], none⟩) :=
    congrArg (fun answer => ((⟨answer.1, ()⟩ : Stock Unit), answer.2))
      (Pool.reserve_placed (d := demand) rfl consoleRack_place rfl)
  obtain ⟨-, duts, ates, hduts, hates, -, hreach⟩ := consoles_reach_granted_devices S connectSlowly
    {} 0 demand stock taken _ hvalid hgranted
  have hentry : ∀ i, ∀ e ∈ consoleRack.devices, e.name = (consoleRack.devices.get i).name →
      consoleRack.devices.get i = e := fun i e he hname =>
    Inventory.eq_of_name_eq hvalid (List.get_mem _ i) he hname.symm
  obtain ⟨hdut, hate⟩ := hreach taken rfl
  refine ⟨hvalid, hgranted, ?_, ?_⟩
  · obtain ⟨r, hr, hdescribes⟩ := hduts.describes (0 : Fin 1)
    cases hr
    have hleaf := hentry _ consoleRack.devices[0] (List.getElem_mem _) hdescribes.name
    have hconsole := hdut (0 : Fin 1) coupleDut rfl
    rw [hleaf] at hconsole
    exact hconsole
  · obtain ⟨r, hr, hdescribes⟩ := hates.describes (0 : Fin 1)
    cases hr
    have hgen := hentry _ consoleRack.devices[2] (List.getElem_mem _) hdescribes.name
    have hconsole := hate (0 : Fin 1) coupleAte rfl
    rw [hgen] at hconsole
    exact hconsole

end SwitchTestbed
