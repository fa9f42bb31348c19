import SwitchTestbed.Proofs.Rpc.Metadata
import SwitchTestbed.Proofs.Rpc.Timeout
import SwitchTestbed.Rpc.CallDefaults

/-!
# What a call begins with

* `CallKind`, `Preset` : which bound a call has, and what every call gets from the dial
  (`Preset.of_ofOptions`);
* `begunWith` : the lines of a name that a call begins with, its own or that of the dial
  (`Preset.values_fill`);
* `TimeoutLines` : the lines that tell its timeout, which may have to be written;
* `Sendable` : whether they can be told; if not, the call ends the program (`Preset.sendable`,
  `Preset.overlong`).
-/

namespace SwitchTestbed.Rpc

/-! ## Options of a dial -/

theorem Metadata.lower_of_key? {key k : String} (h : Metadata.key? key = some k) :
    Text.lower key = k := by
  simp only [Metadata.key?] at h
  split at h
  · cases h
  · exact Option.some.inj h

def lowered (pair : String × String) : String × String := (Text.lower pair.1, pair.2)

namespace CallDefaults

variable {d d' : CallDefaults}

theorem of_withMetadata {key value : String} (h : d.withMetadata key value = .ok d') :
    d' = { d with metadata := d.metadata ++ [lowered (key, value)] } := by
  unfold withMetadata at h
  cases hkey : Metadata.key? key with
  | none => simp [hkey] at h
  | some k =>
    have hk : Text.lower key = k := Metadata.lower_of_key? hkey
    by_cases hvalue : Metadata.isValue value = true
    · simpa [hkey, hvalue, lowered, hk] using h.symm
    · simp [hkey, hvalue] at h

theorem of_withAll {pairs : List (String × String)} (h : d.withAll pairs = .ok d') :
    d' = { d with metadata := d.metadata ++ pairs.map lowered } := by
  induction pairs generalizing d with
  | nil =>
    cases h
    rw [List.map_nil, List.append_nil]
  | cons pair pairs ih =>
    unfold withAll at h
    cases hpair : d.withMetadata pair.1 pair.2 with
    | error e =>
      rw [hpair] at h
      cases h
    | ok next =>
      rw [hpair] at h
      rw [ih h, of_withMetadata hpair, List.append_assoc]
      rfl

theorem of_ofOptions {o : DialOptions} (h : ofOptions o = .ok d) :
    d = ⟨o.unaryTimeout, o.streamTimeout, o.maxReceive, o.metadata.entries.map lowered⟩ :=
  of_withAll h

end CallDefaults

/-- The kinds of calls, each with a bound of its own. -/
inductive CallKind where
  | unary
  | streaming

/-- A request with what it leaves open filled in, as its kind has it. -/
def CallDefaults.begun {α : Type} (d : CallDefaults) :
    CallKind → Request α → Outcome Status (Request α)
  | .unary => d.unary
  | .streaming => d.streaming

/-- What every call gets from a dial: the metadata that was given, and the bound of its kind. -/
structure Preset (d : CallDefaults) (given : StringMap String) (bound : CallKind → Duration) :
    Prop where
  metadata : d.metadata = given.entries.map lowered
  unary : d.unaryTimeout = some (bound .unary)
  streaming : d.streamTimeout = some (bound .streaming)

theorem Preset.of_ofOptions {o : DialOptions} {d : CallDefaults} {bound : CallKind → Duration}
    (h : CallDefaults.ofOptions o = .ok d) (hunary : o.unaryTimeout = some (bound .unary))
    (hstreaming : o.streamTimeout = some (bound .streaming)) : Preset d o.metadata bound := by
  rw [CallDefaults.of_ofOptions h]
  exact ⟨rfl, hunary, hstreaming⟩

/-! ## Lines of a call -/

/-- The value of the first key of a dial, in the order of keys, that is the name up to case. -/
def dialLine? (given : StringMap String) (name : String) : Option String :=
  (given.entries.find? fun pair => Text.lower pair.1 = name).map Prod.snd

/-- The lines of a name that a call begins with: its own, or else that of the dial. -/
def begunWith (given : StringMap String) (m : Metadata) (name : String) : List String :=
  if m.values name = [] then (dialLine? given name).toList else m.values name

/-- What a call with a bound tells of its timeout: lines of its own, or else that of the dial, or
else the bound. -/
inductive TimeoutLines (given : StringMap String) (bound : Duration) (m : Metadata) :
    List String → Prop where
  | own (h : m.values timeoutHeader ≠ []) : TimeoutLines given bound m (m.values timeoutHeader)
  | dialed {value : String} (hown : m.values timeoutHeader = [])
      (h : dialLine? given timeoutHeader = some value) : TimeoutLines given bound m [value]
  | written {text : String} (hown : m.values timeoutHeader = [])
      (hdial : dialLine? given timeoutHeader = none) (h : timeoutText? bound = some text) :
      TimeoutLines given bound m [text]

/-- Whether a call can tell its timeout: what it begins with does, or the bound can be written. -/
def Sendable (given : StringMap String) (bound : Duration) (m : Metadata) : Prop :=
  begunWith given m timeoutHeader ≠ [] ∨ bound / Duration.hour ≤ 99999999

section Lines

variable {given : StringMap String} {m : Metadata}

theorem begunWith_eq_nil_iff {name : String} :
    begunWith given m name = [] ↔ m.values name = [] ∧ dialLine? given name = none := by
  unfold begunWith
  by_cases hown : m.values name = [] <;> simp [hown]

theorem TimeoutLines.of_begunWith (bound : Duration) (h : begunWith given m timeoutHeader ≠ []) :
    TimeoutLines given bound m (begunWith given m timeoutHeader) := by
  unfold begunWith at h ⊢
  by_cases hown : m.values timeoutHeader = []
  · rw [if_pos hown] at h ⊢
    cases hdial : dialLine? given timeoutHeader with
    | none => simp [hdial] at h
    | some value => exact .dialed hown hdial
  · rw [if_neg hown]
    exact .own hown

/-- What a call does not bring itself comes from the metadata of the dial. -/
theorem values_fill_of_metadata {d : CallDefaults} (h : d.metadata = given.entries.map lowered)
    (m : Metadata) (name : String) : (d.fill m).values name = begunWith given m name := by
  have hline : Metadata.get? (given.entries.map lowered) name = dialLine? given name := by
    rw [Metadata.get?, dialLine?, List.find?_map, Option.map_map]
    rfl
  rw [CallDefaults.fill, Metadata.values_foldl_insertNew, begunWith, h, hline]

end Lines

/-! ## Deadlines -/

namespace CallDefaults

variable {timeout : Option Duration} {bound : Duration} {m : Metadata}

theorem withDeadline_told (h : timeout = none ∨ m.contains timeoutHeader = true) :
    withDeadline timeout m = .ok m := by
  cases timeout with
  | none => rfl
  | some bound =>
    have hcontains := h.resolve_left (Option.some_ne_none bound)
    rw [withDeadline, if_pos hcontains]

theorem withDeadline_written {text : String} (h : m.contains timeoutHeader = false)
    (htext : timeoutText? bound = some text) :
    withDeadline (some bound) m = .ok (m ++ [(timeoutHeader, text)]) := by
  simp [withDeadline, h, htext]

theorem withDeadline_overlong (h : m.contains timeoutHeader = false)
    (hlong : 99999999 < bound / Duration.hour) : withDeadline (some bound) m = .aborted := by
  simp [withDeadline, h, timeoutText?_overlong hlong]

theorem withDeadline_cases (timeout : Option Duration) (m : Metadata) :
    (∃ m', withDeadline timeout m = .ok m') ∨ withDeadline timeout m = .aborted := by
  cases timeout with
  | none => exact .inl ⟨m, rfl⟩
  | some bound =>
    cases hcontains : m.contains timeoutHeader with
    | true => exact .inl ⟨m, withDeadline_told (.inr hcontains)⟩
    | false =>
      cases htext : timeoutText? bound with
      | none => exact .inr (by simp [withDeadline, hcontains, htext])
      | some text => exact .inl ⟨_, withDeadline_written hcontains htext⟩

/-- A call begins with its message as it is, unless the program ends. -/
theorem begun_cases {α : Type} (d : CallDefaults) (kind : CallKind) (q : Request α) :
    (∃ m, d.begun kind q = .ok { q with metadata := m }) ∨ d.begun kind q = .aborted := by
  have happly : ∀ timeout, (∃ m, d.apply timeout q = .ok { q with metadata := m }) ∨
      d.apply timeout q = .aborted := by
    intro timeout
    unfold apply
    rcases withDeadline_cases timeout (d.fill q.metadata) with ⟨m, hm⟩ | haborted
    · exact .inl ⟨m, by rw [hm]; rfl⟩
    · exact .inr (by rw [haborted]; rfl)
  cases kind with
  | unary => exact happly d.unaryTimeout
  | streaming => exact happly d.streamTimeout

end CallDefaults

namespace Preset

variable {α : Type} {d : CallDefaults} {given : StringMap String} {bound : CallKind → Duration}
  {kind : CallKind} {q : Request α}

theorem begun_eq (h : Preset d given bound) (kind : CallKind) (q : Request α) :
    d.begun kind q = d.apply (some (bound kind)) q := by
  cases kind with
  | unary => rw [CallDefaults.begun, CallDefaults.unary, h.unary]
  | streaming => rw [CallDefaults.begun, CallDefaults.streaming, h.streaming]

theorem values_fill (h : Preset d given bound) (m : Metadata) (name : String) :
    (d.fill m).values name = begunWith given m name :=
  values_fill_of_metadata h.metadata m name

theorem contains_fill_eq_false_iff (h : Preset d given bound) (m : Metadata) (name : String) :
    (d.fill m).contains name = false ↔ begunWith given m name = [] := by
  rw [Metadata.contains_eq_false_iff, h.values_fill]

/-- **A call that can tell its timeout does**, and begins with the other lines as they are. -/
theorem sendable (h : Preset d given bound) (hs : Sendable given (bound kind) q.metadata) :
    ∃ m, d.begun kind q = .ok { q with metadata := m } ∧
      TimeoutLines given (bound kind) q.metadata (m.values timeoutHeader) ∧
      ∀ name, name ≠ timeoutHeader → m.values name = begunWith given q.metadata name := by
  have hfill := h.values_fill q.metadata
  rw [h.begun_eq]
  cases hcontains : (d.fill q.metadata).contains timeoutHeader with
  | true =>
    have hbegun : begunWith given q.metadata timeoutHeader ≠ [] := by
      intro hnil
      rw [(h.contains_fill_eq_false_iff _ _).mpr hnil] at hcontains
      cases hcontains
    refine ⟨d.fill q.metadata, ?_, ?_, fun name _ => hfill name⟩
    · rw [CallDefaults.apply, CallDefaults.withDeadline_told (.inr hcontains)]
      rfl
    · rw [hfill]
      exact .of_begunWith _ hbegun
  | false =>
    have hbegun := (h.contains_fill_eq_false_iff _ _).mp hcontains
    obtain ⟨hown, hdial⟩ := begunWith_eq_nil_iff.mp hbegun
    obtain ⟨text, htext⟩ := exists_timeoutText? (hs.resolve_left (not_not_intro hbegun))
    refine ⟨d.fill q.metadata ++ [(timeoutHeader, text)], ?_, ?_, fun name hname => ?_⟩
    · rw [CallDefaults.apply, CallDefaults.withDeadline_written hcontains htext]
      rfl
    · rw [Metadata.values_concat_self, hfill, hbegun]
      exact .written hown hdial htext
    · rw [Metadata.values_concat_of_ne _ _ _ hname, hfill]

/-- **A call that cannot ends the program.** -/
theorem overlong (h : Preset d given bound) (hs : ¬Sendable given (bound kind) q.metadata) :
    d.begun kind q = .aborted := by
  obtain ⟨hbegun, hlong⟩ := not_or.mp hs
  have hcontains := (h.contains_fill_eq_false_iff _ _).mpr (Classical.not_not.mp hbegun)
  rw [h.begun_eq, CallDefaults.apply,
    CallDefaults.withDeadline_overlong hcontains (Nat.not_le.mp hlong)]
  rfl

end Preset

end SwitchTestbed.Rpc
