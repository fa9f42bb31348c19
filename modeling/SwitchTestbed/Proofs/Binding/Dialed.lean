import SwitchTestbed.Proofs.Backend.Watched
import SwitchTestbed.Proofs.Binding.Published

/-!
# What is published is what is dialed

* `Binding.published` : the address that is published for a service of a switch;
* `DialFollows` : dialing a service does what its address says. Without one nothing is dialed, and
  otherwise exactly this address is;
* `Dut.dialGnmi_follows`, `Dut.dialP4rt_follows` : so it is for the address in the registry;
* `dial_reaches_published` : so it is for the published address, which over a checked inventory is
  missing only for services that are not configured.
-/

namespace SwitchTestbed

open Rpc

variable {σ τ ω β γ : Type}

/-! ## Published addresses -/

/-- The address that is published for a service of a switch. -/
def Binding.published (b : Binding σ) (id service : String) : Option String :=
  match b.resolve with
  | .ok R => (R.devices.get? id).bind fun D =>
      (D.services.get? service).map fun s => s.endpoint.address
  | .error _ => none

/-- The services of a switch that are published, and their protocols. -/
def switchProtocols : List (String × Protocol) := [("gnmi.gNMI", .gnmi), ("p4.v1.P4Runtime", .p4rt)]

theorem Dut.get?_resolve_services (d : Dut) {service : String} {p : Protocol}
    (h : (service, p) ∈ switchProtocols) :
    d.resolve.services.get? service = some (d.service service p) := by
  have hservices : d.resolve.services.entries = _ := d.resolve_services
  rw [StringMap.get?_eq_some_iff, hservices]
  simp only [switchProtocols, List.mem_cons, Prod.mk.injEq, List.not_mem_nil, or_false] at h ⊢
  rcases h with ⟨rfl, rfl⟩ | ⟨rfl, rfl⟩
  · exact Or.inl ⟨rfl, rfl⟩
  · exact Or.inr ⟨rfl, rfl⟩

/-- What is published is the address in the registry, empty if there is none. -/
theorem Binding.Reached.published_eq {B : Backend σ τ} {P : σ → Prop} (hkeep : B.Keeps P)
    {b : Binding σ} (h : b.Reached B P) {id : String} {d : Dut} (hd : b.dut? id = some d)
    {service : String} {p : Protocol} (hs : (service, p) ∈ switchProtocols) :
    b.published id service = some (d.grpc.address p) := by
  obtain ⟨r, hheld, hget⟩ := Option.bind_eq_some_iff.mp hd
  obtain ⟨t, -, hr⟩ := h.held_granted hkeep hheld
  have hresolve : b.resolve = r.resolve := by rw [Binding.resolve, hheld]
  rw [Binding.published, hresolve,
    Reservation.resolve_of_wellKeyed (Reservation.wellKeyed_of_ofTopology hr)]
  dsimp only
  rw [StringMap.get?_mapWithKey, hget, Option.map_some, Option.bind_some,
    d.get?_resolve_services hs]
  rfl

/-! ## Dials -/

/-- Without an address nothing happens but an error that names the protocol and the device. With
one, a caller who has not given up has it dialed once, whatever the options and whatever comes of
it, if the end of the time limit can be told; else the program ends, and nothing has been dialed.
The same dial through a watched backend tells what is dialed. -/
structure DialFollows (p : Protocol) (device address : String) (limit : Duration)
    (dial : Context → Instant → DialOptions → σ → σ × Instant × Outcome Error β)
    (watched : Context → Instant → DialOptions → Watched σ → Watched σ × Instant × Outcome Error γ) :
    Prop where
  unserved : address = "" → ∀ c now o s,
    dial c now o s = (s, now, .error (.serviceNotRegistered p device))
  silent : address = "" → ∀ c now o w, (watched c now o w).1 = w
  served : address ≠ "" → ∀ c now o w, c.Boundable now limit → c.isCancelled now = false →
    ∃ o', (watched c now o w).1.2 = w.2 ++ [.dialed address o']
  aborted : address ≠ "" → ∀ c now o s w, ¬c.Boundable now limit →
    dial c now o s = (s, now, .aborted) ∧ (watched c now o w).1 = w

namespace Dut

variable (B : Backend σ τ) (d : Dut)

/-- The clients over a connection are no deed of the backend. -/
theorem dialWith_follows (p : Protocol) (make : Connection → σ → σ × Except Error β)
    {make' : Connection → Watched σ → Watched σ × Except Error γ}
    (hmake : ∀ conn w, (make' conn w).1.2 = w.2) :
    DialFollows p d.name (d.grpc.address p) (d.grpc.timeLimit p) (d.dialWith B p make)
      (d.dialWith B.watched p make') where
  unserved h c now o s := dialWith_unserved h make c now o s
  silent h c now o w := congrArg Prod.fst (dialWith_unserved h make' c now o w)
  served h c now o w hbound hlive := by
    obtain ⟨e, he, haddress⟩ := ServiceRegistry.exists_get?_of_address_ne h
    rw [ServiceRegistry.timeLimit, he] at hbound
    obtain ⟨o', hconnect⟩ :=
      connect_served (B := B.watched) he (haddress ▸ h) hbound hlive o w
    refine ⟨o', ?_⟩
    rw [dialWith_state hmake, hconnect, dial_watched, haddress]
  aborted h c now o s w hbound := by
    obtain ⟨e, he, haddress⟩ := ServiceRegistry.exists_get?_of_address_ne h
    rw [ServiceRegistry.timeLimit, he] at hbound
    exact ⟨dialWith_aborted he (haddress ▸ h) hbound make o s,
      congrArg Prod.fst (dialWith_aborted he (haddress ▸ h) hbound make' o w)⟩

theorem dialGnmi_follows :
    DialFollows .gnmi d.name (d.grpc.address .gnmi) (d.grpc.timeLimit .gnmi) (d.dialGnmi B)
      (d.dialGnmi B.watched) := by
  unfold dialGnmi
  exact dialWith_follows B d .gnmi _ fun _ _ => rfl

theorem dialP4rt_follows :
    DialFollows .p4rt d.name (d.grpc.address .p4rt) (d.grpc.timeLimit .p4rt) (d.dialP4rt B)
      (d.dialP4rt B.watched) :=
  dialWith_follows B d .p4rt _ fun _ _ => rfl

end Dut

/-! ## Switches of an inventory -/

section Inventory

variable {S : Stubs ω τ} {connect : String → Work (Except String Console)} {inv : Inventory}

/-- A switch that a pool grants has the services of a device of its inventory. -/
theorem device_of_grants {t : Topology}
    (h : (inventoryBackend S connect).Grants (fun s => s.pool.inventory = inv) t)
    {r : ReservedDevice} (hr : r ∈ t.duts) :
    ∃ e ∈ inv.devices, e.role = .dut ∧ e.name = r.dims.name ∧
      ∀ p, r.grpc.get? p = (e.services.configured p).map ServiceConfig.entry := by
  obtain ⟨c, now, d, s, rfl, hgrant⟩ := h
  rcases stock_reserve_cases S connect c now d s with
    ⟨duts, ates, used, expiresAt, -, hplace, heq⟩ | ⟨e, heq⟩ | heq
  · rw [heq] at hgrant
    cases hgrant
    obtain ⟨q, q', -, hfollows, -⟩ := Pool.place_follows hplace
    obtain ⟨i, hdescribes⟩ := hfollows.describes_of_mem hr
    exact ⟨_, List.get_mem _ _, q.role_eq i, hdescribes.name.symm, hdescribes.services⟩
  · rw [heq] at hgrant
    cases hgrant
  · rw [heq] at hgrant
    cases hgrant

/-- So has a switch that a binding over such a pool holds. -/
theorem device_of_held {b : Binding (Stock ω)}
    (h : b.Reached (inventoryBackend S connect) fun s => s.pool.inventory = inv) {id : String}
    {d : Dut} (hd : b.dut? id = some d) :
    ∃ e ∈ inv.devices, e.role = .dut ∧ e.name = d.name ∧
      ∀ p, d.grpc.get? p = (e.services.configured p).map ServiceConfig.entry := by
  obtain ⟨r, hheld, hget⟩ := Option.bind_eq_some_iff.mp hd
  obtain ⟨t, hgrant, hr⟩ := h.held_granted (inventoryBackend_keeps S connect inv) hheld
  obtain ⟨x, hx, -, rfl⟩ :=
    (ReservedDevice.get?_keyed_iff (Reservation.ofTopology_keyed hr).1).mp hget
  exact device_of_grants hgrant hx

theorem address_eq_empty_iff (hvalid : inv.validate = .ok ()) {e : InventoryDevice}
    (he : e ∈ inv.devices) {g : ServiceRegistry} {p : Protocol}
    (hg : g.get? p = (e.services.configured p).map ServiceConfig.entry) :
    g.address p = "" ↔ e.services.configured p = none := by
  rw [ServiceRegistry.address_eq, hg]
  cases hs : e.services.configured p with
  | none => simp
  | some s => simpa [ServiceConfig.entry] using Inventory.address_ne_of_validate hvalid he hs

end Inventory

/-! ## Main result -/

/-- **What is published is what is dialed.** Whatever a binding has been through, over any backend,
dialing gNMI or P4Runtime of a switch that it holds does what the published address says. Over a
checked inventory, whatever else the pool is used for, the address is empty exactly if the device of
the switch's name configures no such service. -/
theorem dial_reaches_published :
    (∀ {σ τ : Type} (B : Backend σ τ) (b : Binding σ), b.Reached B (fun _ => True) →
      ∀ id d, b.dut? id = some d →
        (∃ address, b.published id "gnmi.gNMI" = some address ∧
          DialFollows .gnmi d.name address (d.grpc.timeLimit .gnmi) (d.dialGnmi B)
            (d.dialGnmi B.watched)) ∧
        ∃ address, b.published id "p4.v1.P4Runtime" = some address ∧
          DialFollows .p4rt d.name address (d.grpc.timeLimit .p4rt) (d.dialP4rt B)
            (d.dialP4rt B.watched)) ∧
    ∀ {ω τ : Type} (S : Stubs ω τ) (connect : String → Work (Except String Console))
      (inv : Inventory) (b : Binding (Stock ω)), inv.validate = .ok () →
      b.Reached (inventoryBackend S connect) (fun s => s.pool.inventory = inv) →
      ∀ id d, b.dut? id = some d → ∃ e ∈ inv.devices, e.role = .dut ∧ e.name = d.name ∧
        (∀ e' ∈ inv.devices, e'.name = d.name → e' = e) ∧
        (b.published id "gnmi.gNMI" = some "" ↔ e.services.gnmi = none) ∧
        (b.published id "p4.v1.P4Runtime" = some "" ↔ e.services.p4rt = none) := by
  constructor
  · intro σ τ B b h id d hd
    have hkeep : B.Keeps fun _ => True := B.keeps_of_forall fun _ => trivial
    exact ⟨⟨_, h.published_eq hkeep hd (by simp [switchProtocols]), d.dialGnmi_follows B⟩,
      _, h.published_eq hkeep hd (by simp [switchProtocols]), d.dialP4rt_follows B⟩
  · intro ω τ S connect inv b hvalid h id d hd
    have hkeep := inventoryBackend_keeps S connect inv
    obtain ⟨e, he, hrole, hname, hservices⟩ := device_of_held h hd
    refine ⟨e, he, hrole, hname,
      fun e' he' hname' => Inventory.eq_of_name_eq hvalid he' he (hname'.trans hname.symm), ?_, ?_⟩
    · rw [h.published_eq hkeep hd (p := .gnmi) (by simp [switchProtocols]), Option.some_inj]
      exact address_eq_empty_iff hvalid he (hservices .gnmi)
    · rw [h.published_eq hkeep hd (p := .p4rt) (by simp [switchProtocols]), Option.some_inj]
      exact address_eq_empty_iff hvalid he (hservices .p4rt)

theorem dial_reaches_published_namesakes :
    (∃ d, namesakesHeld.dut? "x" = some d ∧
      (∀ c now o s, d.dialGnmi simulatedBackend c now o s =
        (s, now, .error (.serviceNotRegistered .gnmi "leaf1"))) ∧
      (∀ c now o w, (d.dialGnmi simulatedBackend.watched c now o w).1 = w) ∧
      ∃ o', (d.dialP4rt simulatedBackend.watched {} 0 {} ({}, [])).1.2 =
        [.dialed "10.0.0.1:9559" o']) ∧
    ∃ b : Binding (Stock Unit), ∃ d, b.dut? "a" = some d ∧ d.name = "leaf1" ∧
      ∃ e ∈ rack.devices, e.name = "leaf1" ∧
        (b.published "a" "gnmi.gNMI" = some "" ↔ e.services.gnmi = none) := by
  constructor
  · obtain ⟨⟨gnmi, hgnmi, hdial⟩, p4rt, hp4rt, hdial'⟩ :=
      dial_reaches_published.1 simulatedBackend namesakesHeld reached_namesakesHeld "x" _ rfl
    cases hgnmi
    cases hp4rt
    exact ⟨_, rfl, hdial.unserved rfl, hdial.silent rfl,
      hdial'.served (by decide) {} 0 {} ({}, []) (by decide) rfl⟩
  · let s : Stock Unit := ⟨⟨rack, none⟩, ()⟩
    let b := (Binding.call silentBackend ⟨s, none⟩ (.reserve {} 0 ∅ pairDemand)).1
    have hgrant : silentBackend.reserve {} 0 pairDemand s =
        (⟨⟨rack, some ⟨"r1", ["s1", "s2", "g1"]⟩⟩, ()⟩, .ok ⟨"r1", pairDuts, pairAtes, none⟩) :=
      stock_reserve_placed .unsupported _ rfl rfl (rack_place none) rfl
    have hstart : Binding.Reached silentBackend (fun s => s.pool.inventory = rack) ⟨s, none⟩ :=
      .start rfl
    have hdut : ∃ d, b.dut? "a" = some d ∧ d.name = "leaf1" := by
      simp only [b, Binding.call]
      rw [Binding.reserve_granted rfl rfl hgrant rfl]
      exact ⟨_, rfl, rfl⟩
    obtain ⟨d, hd, hname⟩ := hdut
    obtain ⟨e, he, -, hname', -, hgnmi, -⟩ :=
      dial_reaches_published.2 .unsupported _ rack b rfl (hstart.call _) "a" d hd
    exact ⟨b, d, hd, hname, e, he, hname'.trans hname, hgnmi⟩

end SwitchTestbed
