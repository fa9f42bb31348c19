import SwitchTestbed.Inventory
import SwitchTestbed.Proofs.Document.Form
import SwitchTestbed.Testbed

/-!
# Testbeds, inventories and reservations are read back

Each type with defaulted fields has, beside its `toDoc`, a `form` in which fields of the names in
`skip` are left out where they have their defaults; without such names it is the `toDoc`.

* `Testbed.isForm`, `Inventory.isForm`, `ResolvedReservation.isForm` : what is read back from these;
* `json_texts_decode_back` : they are read back from JSON texts.
-/

namespace SwitchTestbed

variable {n : Nat} (skip : String → Bool)

/-! ## Ports -/

theorem PortSpeed.isForm (s : PortSpeed) : s.toDoc.IsForm n decoder s :=
  isForm_variant (by cases s <;> rfl)

namespace Port

/-- A record of the name and the speed. -/
def form (p : Port) : Doc :=
  .record [("name", some (.text p.name)),
    ("speed", kept (skip "speed") .unspecified p.speed p.speed.toDoc)]

theorem isForm (p : Port) (recordName : String) :
    (p.form skip).IsForm (n + 1) (decoderNamed recordName) p :=
  isForm_record (by simp) (.seq (.map (.required rfl (isForm_text _))) (.kept rfl p.speed.isForm))

end Port

/-! ## Testbeds -/

theorem PortRequirement.isForm (r : PortRequirement) : r.toDoc.IsForm (n + 1) decoder r :=
  isForm_record (by simp)
    (.seq (.map (.required rfl (isForm_text _))) (.nullable rfl fun s _ => s.isForm))

namespace DeviceRequirement

/-- A record of the identifier, the wishes and the ports. -/
def form (r : DeviceRequirement) : Doc :=
  .record
    [("id", some (.text r.id)), ("vendor", r.vendor.map .text),
      ("hardware_model", r.hardwareModel.map .text),
      ("software_version", r.softwareVersion.map .text),
      ("ports", kept (skip "ports") [] r.ports (.seq (r.ports.map PortRequirement.toDoc)))]

theorem isForm (r : DeviceRequirement) : (r.form skip).IsForm (n + 3) decoder r := by
  refine isForm_record (by simp)
    (.seq (.seq (.seq (.seq (.map ?id) ?vendor) ?model) ?software) ?ports)
  case id => exact .required rfl (isForm_text _)
  case vendor => exact .nullable rfl fun _ _ => isForm_text _
  case model => exact .nullable rfl fun _ _ => isForm_text _
  case software => exact .nullable rfl fun _ _ => isForm_text _
  case ports => exact .kept rfl (isForm_list fun p _ => p.isForm)

end DeviceRequirement

namespace Testbed

/-- A record of the requirements of both roles. -/
def form (t : Testbed) : Doc :=
  .record
    [("duts", kept (skip "duts") [] t.duts (.seq (t.duts.map (DeviceRequirement.form skip)))),
      ("ates", kept (skip "ates") [] t.ates (.seq (t.ates.map (DeviceRequirement.form skip))))]

theorem isForm (t : Testbed) : (t.form skip).IsForm (n + 5) decoder t :=
  isForm_record (by simp)
    (.seq (.map (.kept rfl (isForm_list fun r _ => r.isForm skip)))
      (.kept rfl (isForm_list fun r _ => r.isForm skip)))

theorem form_none (t : Testbed) : t.form (fun _ => false) = t.toDoc := rfl

end Testbed

/-! ## Inventories -/

theorem Role.isForm (r : Role) : r.toDoc.IsForm n decoder r :=
  isForm_variant (by cases r <;> rfl)

theorem ServiceConfig.isForm (c : ServiceConfig) : c.toDoc.IsForm (n + 1) decoder c :=
  isForm_record (by simp)
    (.seq (.map (.required rfl (isForm_text _))) (.nullable rfl fun _ _ => isForm_uint64 _))

theorem ServicesConfig.isForm (c : ServicesConfig) : c.toDoc.IsForm (n + 2) decoder c :=
  isForm_record (by simp)
    (.seq (.seq (.map (.nullable rfl fun s _ => s.isForm)) (.nullable rfl fun s _ => s.isForm))
      (.nullable rfl fun s _ => s.isForm))

namespace InventoryDevice

/-- A record of everything known about the device. -/
def form (d : InventoryDevice) : Doc :=
  .record
    [("id", some (.text d.id)), ("role", kept (skip "role") .dut d.role d.role.toDoc),
      ("name", some (.text d.name)), ("vendor", kept (skip "vendor") "" d.vendor (.text d.vendor)),
      ("hardware_model", kept (skip "hardware_model") "" d.hardwareModel (.text d.hardwareModel)),
      ("software_version",
        kept (skip "software_version") "" d.softwareVersion (.text d.softwareVersion)),
      ("ports", kept (skip "ports") [] d.ports (.seq (d.ports.map (Port.form skip)))),
      ("services", kept (skip "services") {} d.services d.services.toDoc),
      ("http", d.http.map .text), ("console", d.console.map .text)]

theorem isForm (d : InventoryDevice) : (d.form skip).IsForm (n + 3) decoder d := by
  refine isForm_record (by simp)
    (.seq (.seq (.seq (.seq (.seq (.seq (.seq (.seq (.seq (.map ?id) ?role) ?name) ?vendor) ?model)
      ?software) ?ports) ?services) ?http) ?console)
  case id => exact .required rfl (isForm_text _)
  case role => exact .kept rfl d.role.isForm
  case name => exact .required rfl (isForm_text _)
  case vendor => exact .kept rfl (isForm_text _)
  case model => exact .kept rfl (isForm_text _)
  case software => exact .kept rfl (isForm_text _)
  case ports => exact .kept rfl (isForm_list fun p _ => p.isForm skip _)
  case services => exact .kept rfl d.services.isForm
  case http => exact .nullable rfl fun _ _ => isForm_text _
  case console => exact .nullable rfl fun _ _ => isForm_text _

end InventoryDevice

namespace Inventory

/-- A record of the devices. -/
def form (inv : Inventory) : Doc :=
  .record [("devices",
    kept (skip "devices") [] inv.devices (.seq (inv.devices.map (InventoryDevice.form skip))))]

theorem isForm (inv : Inventory) : (inv.form skip).IsForm (n + 5) decoder inv :=
  isForm_record (by simp) (.map (.kept rfl (isForm_list fun d _ => d.isForm skip)))

theorem form_none (inv : Inventory) : inv.form (fun _ => false) = inv.toDoc := rfl

end Inventory

/-! ## Reservations -/

namespace Endpoint

theorem decoder_map {δ : Dialect} {ms : List (String × Doc)} {name : String} {kind : Kind}
    (htag : lookupEntry kindMember ms = some (.text name))
    (hkind : lookupEntry name Kind.keyed = some kind) :
    decoder δ (.map ms) = kind.rest δ.aside (.map (ms.filter fun m => m.1 ≠ kindMember)) := by
  have hname : Kind.decoder δ (.text name) = .ok kind := by
    show Decoder.variantOf Kind.keyed name = .ok kind
    rw [Decoder.variantOf, hkind]
  unfold decoder
  simp only [htag]
  show (Kind.decoder δ (.text name) >>= _) = _
  rw [hname]
  rfl

/-- Behind its kind an endpoint is a record. -/
theorem isForm_kind {kind : Kind} {name : String} {fields : List (String × Option Doc)}
    {s : RecordShape} {read : RecordShape → Dialect → Fields → Reading Endpoint} {e : Endpoint}
    (hkind : lookupEntry name Kind.keyed = some kind) (hrest : kind.rest = .record s read)
    (hnodup : (((kindMember, some (Doc.text name)) :: fields).map Prod.fst).Nodup)
    (h : RecordForm fields n fields.length (read s) e) :
    (Doc.record ((kindMember, some (.text name)) :: fields)).IsForm (n + 1) decoder e where
  integral := integral_record
    (List.forall_mem_cons.mpr ⟨by rintro _ ⟨⟩; trivial, by simpa using h.integral⟩)
  depth := depth_record_le
    (List.forall_mem_cons.mpr ⟨by rintro _ ⟨⟩; exact Nat.zero_le n, by simpa using h.depth⟩)
  notNull := nofun
  reads δ := by
    obtain ⟨htag, hfields⟩ := List.forall_mem_cons.mp (holds_record hnodup)
    have hne : ∀ f ∈ fields, f.1 ≠ kindMember := by
      intro f hf heq
      have hmem : f.1 ∈ fields.map Prod.fst := List.mem_map_of_mem hf
      rw [heq] at hmem
      exact (List.nodup_cons.mp hnodup).1 hmem
    have hread := h.reads δ.aside _ fun f hf =>
      (StringMap.lookupEntry_filter (hne f hf) _).trans (hfields f hf)
    show decoder δ (.map _) = .ok e
    rw [decoder_map htag hkind, hrest]
    show (read s δ.aside (.named _)).toExcept = .ok e
    rw [hread]
    rfl

theorem isForm (e : Endpoint) : e.toDoc.IsForm (n + 2) decoder e := by
  cases e with
  | proxiedGrpc address proxy =>
    have hdoc : (proxiedGrpc address proxy).toDoc =
        .record ((kindMember, some (.text "proxied_grpc")) :: [("address", some (.text address)),
          ("proxy", kept true [] proxy (.seq (proxy.map .text)))]) := by
      cases proxy <;> rfl
    rw [hdoc]
    refine isForm_kind rfl Kind.rest.eq_1 (by simp [kindMember]) (.seq (.map ?address) ?proxy)
    case address => exact .required rfl (isForm_text _)
    case proxy => exact .kept rfl (isForm_list fun p _ => isForm_text p)
  | httpOverGrpc address =>
    show (Doc.record ((kindMember, some (.text "http_over_grpc")) ::
      [("address", some (.text address))])).IsForm _ _ _
    exact isForm_kind rfl Kind.rest.eq_2 (by simp [kindMember])
      (.map (.required rfl (isForm_text _)))

end Endpoint

theorem Service.isForm (s : Service) : s.toDoc.IsForm (n + 3) decoder s := by
  show (Doc.record [("id", some (.text s.id)), ("endpoint", some s.endpoint.toDoc)]).IsForm _ _ _
  exact isForm_record (by simp)
    (.seq (.map (.required rfl (isForm_text _))) (.required rfl s.endpoint.isForm))

theorem ResolvedPort.isForm (p : ResolvedPort) : p.toDoc.IsForm (n + 1) decoder p := by
  show (Doc.record [("id", some (.text p.id)), ("speed", some p.speed.toDoc),
    ("name", some (.text p.name))]).IsForm _ _ _
  refine isForm_record (by simp) (.seq (.seq (.map ?id) ?speed) ?name)
  case id => exact .required rfl (isForm_text _)
  case speed => exact .required rfl p.speed.isForm
  case name => exact .required rfl (isForm_text _)

namespace ResolvedDevice

/-- A record of what is published about a device. -/
def form (d : ResolvedDevice) : Doc :=
  .record
    [("id", some (.text d.id)), ("hardware_model", some (.text d.hardwareModel)),
      ("vendor", some (.text d.vendor)), ("software_version", some (.text d.softwareVersion)),
      ("name", some (.text d.name)),
      ("ports", kept (skip "ports") ∅ d.ports (d.ports.toDoc ResolvedPort.toDoc)),
      ("services", kept (skip "services") ∅ d.services (d.services.toDoc Service.toDoc))]

theorem isForm (d : ResolvedDevice) : (d.form skip).IsForm (n + 5) decoder d := by
  refine isForm_record (by simp)
    (.seq (.seq (.seq (.seq (.seq (.seq (.map ?id) ?model) ?vendor) ?software) ?name) ?ports)
      ?services)
  case id => exact .required rfl (isForm_text _)
  case model => exact .required rfl (isForm_text _)
  case vendor => exact .required rfl (isForm_text _)
  case software => exact .required rfl (isForm_text _)
  case name => exact .required rfl (isForm_text _)
  case ports => exact .kept rfl (isForm_stringMap fun e _ => e.2.isForm)
  case services => exact .kept rfl (isForm_stringMap fun e _ => e.2.isForm)

end ResolvedDevice

namespace ResolvedReservation

/-- A record of the identifier and the devices of both roles. -/
def form (r : ResolvedReservation) : Doc :=
  .record
    [("id", some (.text r.id)),
      ("devices", kept (skip "devices") ∅ r.devices (r.devices.toDoc (ResolvedDevice.form skip))),
      ("ates", kept (skip "ates") ∅ r.ates (r.ates.toDoc (ResolvedDevice.form skip)))]

theorem isForm (r : ResolvedReservation) : (r.form skip).IsForm (n + 7) decoder r := by
  refine isForm_record (by simp) (.seq (.seq (.map ?id) ?devices) ?ates)
  case id => exact .required rfl (isForm_text _)
  case devices => exact .kept rfl (isForm_stringMap fun e _ => e.2.isForm skip)
  case ates => exact .kept rfl (isForm_stringMap fun e _ => e.2.isForm skip)

theorem form_none (r : ResolvedReservation) : r.form (fun _ => false) = r.toDoc := rfl

end ResolvedReservation

/-- **Testbeds, inventories and reservations are read back from JSON**, both from what is written
and with fields of any names left out where they have their defaults. -/
theorem json_texts_decode_back (skip : String → Bool) :
    (∀ r : ResolvedReservation, ResolvedReservation.decoder.ReadsJson (Json.render r.toDoc) r ∧
      ResolvedReservation.decoder.ReadsJson (Json.render (r.form skip)) r) ∧
    (∀ t : Testbed, Testbed.decoder.ReadsJson (Json.render t.toDoc) t ∧
      Testbed.decoder.ReadsJson (Json.render (t.form skip)) t) ∧
    ∀ inv : Inventory, Inventory.decoder.ReadsJson (Json.render inv.toDoc) inv ∧
      Inventory.decoder.ReadsJson (Json.render (inv.form skip)) inv := by
  refine ⟨fun r => ⟨?_, ?_⟩, fun t => ⟨?_, ?_⟩, fun inv => ⟨?_, ?_⟩⟩
  · rw [← r.form_none]
    exact (r.isForm (n := 0) _).readsJson (by decide)
  · exact (r.isForm (n := 0) skip).readsJson (by decide)
  · rw [← t.form_none]
    exact (t.isForm (n := 0) _).readsJson (by decide)
  · exact (t.isForm (n := 0) skip).readsJson (by decide)
  · rw [← inv.form_none]
    exact (inv.isForm (n := 0) _).readsJson (by decide)
  · exact (inv.isForm (n := 0) skip).readsJson (by decide)

end SwitchTestbed
