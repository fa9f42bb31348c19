import SwitchTestbed.Proofs.Bytes
import SwitchTestbed.Proofs.Rpc.CallDefaults
import SwitchTestbed.Proofs.StringMap
import SwitchTestbed.Rpc.Connection

/-!
# What a call leaves open

* `Metadata.IsName`, `Metadata.IsValue` : which pairs a call may carry;
* `FirstOffence` : the first pair of a dial, in the order of the bytes of its keys, that no call may
  carry (`CallDefaults.exists_ofOptions_iff`, `CallDefaults.ofOptions_eq_error_iff`);
* `DialsFirst` : of the keys of a dial that are a name up to case the first one counts
  (`dialLine?_eq_some_iff`);
* `Filled` : metadata and the same with what it leaves open (`CallDefaults.apply_filled`);
* `Overlong` : a timeout would have to be written and cannot be (`CallDefaults.apply_overlong`);
* `defaults_fill_gaps` : the main result.
-/

namespace SwitchTestbed.Rpc

/-! ## Pairs that a call may carry -/

namespace Metadata

/-- A name of lines with text for their values: without the ending of names of binary values, in
whichever case. -/
structure IsName (s : String) : Prop where
  nonempty : s ≠ ""
  short : s.utf8ByteSize ≤ 65535
  chars : ∀ c ∈ s.toList, isNameChar c = true
  textual : ¬"-bin".toList <:+ (Text.lower s).toList

def IsValue (s : String) : Prop := ∀ c ∈ s.toList, c = '\t' ∨ 0x20 ≤ c.toNat ∧ c.toNat ≠ 0x7f

variable {s : String}

theorem isValue_iff : isValue s = true ↔ IsValue s := by
  simp [isValue, IsValue]

theorem isName_iff : IsName s ↔ key? s = some (Text.lower s) := by
  have hkey : key? s = some (Text.lower s) ↔ s ≠ "" ∧ s.utf8ByteSize ≤ maxNameLength ∧
      (∀ c ∈ s.toList, isNameChar c = true) ∧ ¬"-bin".toList <:+ (Text.lower s).toList := by
    simp [key?, binaryEnding, and_assoc]
  rw [hkey]
  constructor
  · intro h
    exact ⟨h.nonempty, h.short, h.chars, h.textual⟩
  · rintro ⟨hnonempty, hshort, hchars, htextual⟩
    exact ⟨hnonempty, hshort, hchars, htextual⟩

theorem key?_of_not_isName (h : ¬IsName s) : key? s = none := by
  cases hkey : key? s with
  | none => rfl
  | some k =>
    obtain rfl := lower_of_key? hkey
    exact absurd (isName_iff.mpr hkey) h

end Metadata

open Metadata (IsName IsValue)

/-- What is wrong with a pair; a wrong name counts before a wrong value. -/
inductive Offence (key value : String) : MetadataError → Prop where
  | name (h : ¬IsName key) : Offence key value (.invalidKey key)
  | value (hname : IsName key) (h : ¬IsValue value) :
      Offence key value (.invalidValue (Text.lower key))

/-- A dial has a pair that no call may carry, and none under a key with smaller bytes. -/
def FirstOffence (given : StringMap String) (e : MetadataError) : Prop :=
  ∃ key value, given.get? key = some value ∧ Offence key value e ∧
    ∀ key' value', given.get? key' = some value' → key'.toUTF8.toList < key.toUTF8.toList →
      IsName key' ∧ IsValue value'

section Offence

variable {key value : String} {e : MetadataError}

theorem carried_or_offence (key value : String) :
    (IsName key ∧ IsValue value) ∨ ∃ e, Offence key value e := by
  by_cases hname : IsName key
  · by_cases hvalue : IsValue value
    · exact .inl ⟨hname, hvalue⟩
    · exact .inr ⟨_, .value hname hvalue⟩
  · exact .inr ⟨_, .name hname⟩

theorem Offence.not_carried (h : Offence key value e) : ¬(IsName key ∧ IsValue value) := by
  cases h with
  | name h => exact fun hcarried => h hcarried.1
  | value _ h => exact fun hcarried => h hcarried.2

end Offence

namespace CallDefaults

variable {d d' : CallDefaults} {e : MetadataError} {o : DialOptions}

theorem withMetadata_carried {key value : String} (hname : IsName key) (hvalue : IsValue value) :
    d.withMetadata key value = .ok { d with metadata := d.metadata ++ [lowered (key, value)] } := by
  rw [withMetadata, Metadata.isName_iff.mp hname]
  exact if_pos (Metadata.isValue_iff.mpr hvalue)

theorem withMetadata_offence {key value : String} (h : Offence key value e) :
    d.withMetadata key value = .error e := by
  cases h with
  | name h => rw [withMetadata, Metadata.key?_of_not_isName h]
  | value hname h =>
    rw [withMetadata, Metadata.isName_iff.mp hname]
    exact if_neg (mt Metadata.isValue_iff.mp h)

/-- The pairs up to the first one that no call may carry decide. -/
theorem withAll_offence {key value : String} {before after : List (String × String)}
    (hbefore : ∀ pair ∈ before, IsName pair.1 ∧ IsValue pair.2) (h : Offence key value e) :
    d.withAll (before ++ (key, value) :: after) = .error e := by
  induction before generalizing d with
  | nil => rw [List.nil_append, withAll, withMetadata_offence h]
  | cons pair before ih =>
    obtain ⟨hname, hvalue⟩ := hbefore pair List.mem_cons_self
    rw [List.cons_append, withAll, withMetadata_carried hname hvalue]
    exact ih fun pair hmem => hbefore pair (List.mem_cons_of_mem _ hmem)

theorem withAll_cases (d : CallDefaults) (pairs : List (String × String)) :
    ((∀ pair ∈ pairs, IsName pair.1 ∧ IsValue pair.2) ∧ ∃ d', d.withAll pairs = .ok d') ∨
      ∃ key value e, (∃ before after, pairs = before ++ (key, value) :: after ∧
        ∀ pair ∈ before, IsName pair.1 ∧ IsValue pair.2) ∧ Offence key value e := by
  induction pairs generalizing d with
  | nil => exact .inl ⟨fun _ hmem => absurd hmem List.not_mem_nil, d, rfl⟩
  | cons pair pairs ih =>
    rcases carried_or_offence pair.1 pair.2 with hpair | ⟨e, he⟩
    · rcases ih { d with metadata := d.metadata ++ [lowered pair] } with
        ⟨hall, d', hd'⟩ | ⟨key, value, e, ⟨before, after, rfl, hbefore⟩, he⟩
      · refine .inl ⟨List.forall_mem_cons.mpr ⟨hpair, hall⟩, d', ?_⟩
        rw [withAll, withMetadata_carried hpair.1 hpair.2]
        exact hd'
      · exact .inr ⟨key, value, e,
          ⟨pair :: before, after, rfl, List.forall_mem_cons.mpr ⟨hpair, hbefore⟩⟩, he⟩
    · exact .inr ⟨pair.1, pair.2, e,
        ⟨[], pairs, rfl, fun _ hmem => absurd hmem List.not_mem_nil⟩, he⟩

theorem firstOffence_iff {given : StringMap String} : FirstOffence given e ↔
    ∃ key value, (∃ before after, given.entries = before ++ (key, value) :: after ∧
      ∀ pair ∈ before, IsName pair.1 ∧ IsValue pair.2) ∧ Offence key value e := by
  have hsplit (key value : String) := StringMap.exists_split_iff (m := given) (k := key)
    (v := value) (p := fun key' value' => IsName key' ∧ IsValue value')
  simp only [FirstOffence, ← Text.lt_iff_bytes_lt, hsplit]
  constructor
  · rintro ⟨key, value, hget, he, hsmaller⟩
    exact ⟨key, value, ⟨hget, hsmaller⟩, he⟩
  · rintro ⟨key, value, ⟨hget, hsmaller⟩, he⟩
    exact ⟨key, value, hget, he, hsmaller⟩

theorem ofOptions_of_firstOffence (h : FirstOffence o.metadata e) : ofOptions o = .error e := by
  obtain ⟨key, value, ⟨before, after, heq, hbefore⟩, he⟩ := firstOffence_iff.mp h
  rw [ofOptions, heq]
  exact withAll_offence hbefore he

/-- Either every pair of a dial may be carried, or there is a first one that may not. -/
theorem ofOptions_cases (o : DialOptions) :
    ((∀ key value, o.metadata.get? key = some value → IsName key ∧ IsValue value) ∧
        ∃ d, ofOptions o = .ok d) ∨
      ∃ e, FirstOffence o.metadata e := by
  rcases withAll_cases ⟨o.unaryTimeout, o.streamTimeout, o.maxReceive, []⟩ o.metadata.entries with
    ⟨hall, hd⟩ | ⟨key, value, e, hsplit, he⟩
  · exact .inl ⟨fun key value hget => hall _ (StringMap.get?_eq_some_iff.mp hget), hd⟩
  · exact .inr ⟨e, firstOffence_iff.mpr ⟨key, value, hsplit, he⟩⟩

/-- **A dial tells what its calls begin with exactly if they may carry all its pairs.** -/
theorem exists_ofOptions_iff : (∃ d, ofOptions o = .ok d) ↔
    ∀ key value, o.metadata.get? key = some value → IsName key ∧ IsValue value := by
  rcases ofOptions_cases o with ⟨hall, hd⟩ | ⟨e, he⟩
  · exact ⟨fun _ => hall, fun _ => hd⟩
  · have herror := ofOptions_of_firstOffence he
    obtain ⟨key, value, hget, hoffence, -⟩ := he
    refine ⟨?_, fun hall => absurd (hall key value hget) hoffence.not_carried⟩
    rintro ⟨d, hd⟩
    rw [herror] at hd
    cases hd

/-- **Otherwise the first pair that they may not carry is named.** -/
theorem ofOptions_eq_error_iff : ofOptions o = .error e ↔ FirstOffence o.metadata e := by
  refine ⟨fun h => ?_, ofOptions_of_firstOffence⟩
  rcases ofOptions_cases o with ⟨-, d, hd⟩ | ⟨e', he'⟩
  · rw [hd] at h
    cases h
  · rw [ofOptions_of_firstOffence he'] at h
    cases h
    exact he'

end CallDefaults

/-! ## Lines that a call gets -/

/-- The value of a dial for a name: that of the key with the smallest bytes among those that are the
name up to case. -/
def DialsFirst (given : StringMap String) (name value : String) : Prop :=
  ∃ key, given.get? key = some value ∧ Text.lower key = name ∧
    ∀ key' value', given.get? key' = some value' → key'.toUTF8.toList < key.toUTF8.toList →
      Text.lower key' ≠ name

/-- Metadata `m'` is `m` with what it leaves open, and nothing else. -/
structure Filled (given : StringMap String) (timeout : Option Duration) (m m' : Metadata) :
    Prop where
  ahead : m <+: m'
  own {name : String} (h : m.values name ≠ []) : m'.values name = m.values name
  dialed {name value : String} (h : m.values name = []) (hdial : DialsFirst given name value) :
    m'.values name = [value]
  timed {bound : Duration} (h : m.values timeoutHeader = [])
    (hdial : ∀ value, ¬DialsFirst given timeoutHeader value) (hbound : timeout = some bound) :
    ∃ text, Encodes bound text ∧ m'.values timeoutHeader = [text]
  others {name : String} (h : m.values name = []) (hdial : ∀ value, ¬DialsFirst given name value)
    (htimeout : name = timeoutHeader → timeout = none) : m'.values name = []

/-- Neither a call nor its dial tells a timeout, and that of its kind cannot be written. -/
structure Overlong (given : StringMap String) (timeout : Option Duration) (m : Metadata) :
    Prop where
  own : m.values timeoutHeader = []
  undialed : ∀ value, ¬DialsFirst given timeoutHeader value
  unwritten : ∃ bound, timeout = some bound ∧ 99999999 < bound / Duration.hour

section Lines

variable {given : StringMap String} {name value : String} {m : Metadata}

theorem dialLine?_eq_some_iff :
    dialLine? given name = some value ↔ DialsFirst given name value := by
  have hsplit (key : String) := StringMap.exists_split_iff (m := given) (k := key) (v := value)
    (p := fun key' _ => Text.lower key' ≠ name)
  simp only [dialLine?, DialsFirst, ← Text.lt_iff_bytes_lt, Option.map_eq_some_iff,
    List.find?_eq_some_iff_append]
  constructor
  · rintro ⟨⟨key, _⟩, ⟨hname, before, after, heq, hbefore⟩, rfl⟩
    obtain ⟨hget, hsmaller⟩ := (hsplit key).mp ⟨before, after, heq, by simpa using hbefore⟩
    exact ⟨key, hget, by simpa using hname, hsmaller⟩
  · rintro ⟨key, hget, hname, hsmaller⟩
    obtain ⟨before, after, heq, hbefore⟩ := (hsplit key).mpr ⟨hget, hsmaller⟩
    exact ⟨(key, value), ⟨by simpa using hname, before, after, heq, by simpa using hbefore⟩, rfl⟩

theorem dialLine?_eq_none_iff :
    dialLine? given name = none ↔ ∀ value, ¬DialsFirst given name value := by
  simp only [← dialLine?_eq_some_iff, Option.eq_none_iff_forall_ne_some, ne_eq]

theorem begunWith_own (h : m.values name ≠ []) : begunWith given m name = m.values name :=
  if_neg h

theorem begunWith_dialed (h : m.values name = []) (hdial : DialsFirst given name value) :
    begunWith given m name = [value] := by
  rw [begunWith, if_pos h, dialLine?_eq_some_iff.mpr hdial]
  rfl

theorem begunWith_open (h : m.values name = []) (hdial : ∀ value, ¬DialsFirst given name value) :
    begunWith given m name = [] :=
  begunWith_eq_nil_iff.mpr ⟨h, dialLine?_eq_none_iff.mpr hdial⟩

end Lines

namespace CallDefaults

variable {α : Type} {d : CallDefaults} {given : StringMap String} {timeout : Option Duration}
  {m : Metadata}

/-- A fill goes on when it has a timeout or needs none. -/
theorem filled_told (hd : d.metadata = given.entries.map lowered)
    (h : timeout = none ∨ (d.fill m).contains timeoutHeader = true) :
    Filled given timeout m (d.fill m) where
  ahead := m.prefix_foldl_insertNew d.metadata
  own hown := by rw [values_fill_of_metadata hd, begunWith_own hown]
  dialed hown hdial := by rw [values_fill_of_metadata hd, begunWith_dialed hown hdial]
  timed hown hdial hbound := by
    have hnone : (d.fill m).contains timeoutHeader = false := by
      rw [Metadata.contains_eq_false_iff, values_fill_of_metadata hd, begunWith_open hown hdial]
    rcases h with h | h
    · rw [h] at hbound
      cases hbound
    · rw [hnone] at h
      cases h
  others hown hdial _ := by rw [values_fill_of_metadata hd, begunWith_open hown hdial]

theorem filled_written {bound : Duration} {text : String}
    (hd : d.metadata = given.entries.map lowered)
    (h : (d.fill m).contains timeoutHeader = false) (htext : timeoutText? bound = some text) :
    Filled given (some bound) m (d.fill m ++ [(timeoutHeader, text)]) := by
  have hopen : begunWith given m timeoutHeader = [] := by
    rw [← values_fill_of_metadata hd, ← Metadata.contains_eq_false_iff, h]
  obtain ⟨hnone, hundialed⟩ := begunWith_eq_nil_iff.mp hopen
  -- the line that is written stands for a name that nothing else is there for
  have hother {name : String} (hname : name ≠ timeoutHeader) :
      Metadata.values (d.fill m ++ [(timeoutHeader, text)]) name = begunWith given m name := by
    rw [Metadata.values_concat_of_ne _ _ _ hname, values_fill_of_metadata hd]
  exact {
    ahead := (m.prefix_foldl_insertNew d.metadata).trans (List.prefix_append _ _)
    own := fun {name} hown => by
      have hname : name ≠ timeoutHeader := fun heq => hown (heq ▸ hnone)
      rw [hother hname, begunWith_own hown]
    dialed := fun {name value} hown hdial => by
      have hname : name ≠ timeoutHeader := fun heq =>
        dialLine?_eq_none_iff.mp hundialed value (heq ▸ hdial)
      rw [hother hname, begunWith_dialed hown hdial]
    timed := fun _ _ hbound => by
      cases hbound
      refine ⟨text, encodes_of_timeoutText? htext, ?_⟩
      rw [Metadata.values_concat_self, values_fill_of_metadata hd, hopen, List.nil_append]
    others := fun {name} hown hdial htimeout => by
      have hname : name ≠ timeoutHeader := fun heq => Option.some_ne_none _ (htimeout heq)
      rw [hother hname, begunWith_open hown hdial] }

theorem fill_again {m' : Metadata} (h : d.fill m <+: m') : d.fill m' = m' :=
  Metadata.foldl_insertNew_of_contains _ fun _ hline =>
    Metadata.contains_of_prefix h (Metadata.contains_foldl_insertNew _ hline)

/-- **A call gets what it leaves open, and nothing else**, unless its timeout is overlong. -/
theorem apply_filled (hd : d.metadata = given.entries.map lowered) (q : Request α)
    (h : ¬Overlong given timeout q.metadata) :
    ∃ m, d.apply timeout q = .ok { q with metadata := m } ∧ Filled given timeout q.metadata m ∧
      d.fill m = m := by
  by_cases htold : timeout = none ∨ (d.fill q.metadata).contains timeoutHeader = true
  · refine ⟨d.fill q.metadata, ?_, filled_told hd htold, fill_again List.prefix_rfl⟩
    rw [apply, withDeadline_told htold]
    rfl
  · obtain ⟨htimeout, hcontains⟩ := not_or.mp htold
    rw [Bool.not_eq_true] at hcontains
    obtain ⟨bound, rfl⟩ := Option.ne_none_iff_exists'.mp htimeout
    have hopen := (Metadata.contains_eq_false_iff _ _).mp hcontains
    rw [values_fill_of_metadata hd, begunWith_eq_nil_iff, dialLine?_eq_none_iff] at hopen
    have hshort : bound / Duration.hour ≤ 99999999 := by
      by_contra hlong
      exact h ⟨hopen.1, hopen.2, bound, rfl, Nat.not_le.mp hlong⟩
    obtain ⟨text, htext⟩ := exists_timeoutText? hshort
    refine ⟨d.fill q.metadata ++ [(timeoutHeader, text)], ?_, filled_written hd hcontains htext,
      fill_again (List.prefix_append _ _)⟩
    rw [apply, withDeadline_written hcontains htext]
    rfl

/-- **An overlong timeout ends the program.** -/
theorem apply_overlong (hd : d.metadata = given.entries.map lowered) {q : Request α}
    (h : Overlong given timeout q.metadata) : d.apply timeout q = .aborted := by
  obtain ⟨bound, rfl, hlong⟩ := h.unwritten
  have hcontains : (d.fill q.metadata).contains timeoutHeader = false := by
    rw [Metadata.contains_eq_false_iff, values_fill_of_metadata hd,
      begunWith_open h.own h.undialed]
  rw [apply, withDeadline_overlong hcontains hlong]
  rfl

/-- **What has been filled stays as it is** once it has a timeout, whatever the bound. -/
theorem apply_again {q : Request α} (hfill : d.fill m = m) (h : m.values timeoutHeader ≠ []) :
    d.apply timeout { q with metadata := m } = .ok { q with metadata := m } := by
  have hcontains : m.contains timeoutHeader = true := by
    rw [← Bool.not_eq_false]
    exact mt (Metadata.contains_eq_false_iff m timeoutHeader).mp h
  rw [apply, hfill, withDeadline_told (.inr hcontains)]
  rfl

end CallDefaults

/-! ## Every call of a dial -/

/-- The deadline that a dial sets for calls of a kind. -/
def CallKind.timeout (o : DialOptions) : CallKind → Option Duration
  | .unary => o.unaryTimeout
  | .streaming => o.streamTimeout

theorem CallDefaults.begun_eq {α : Type} {o : DialOptions} {d : CallDefaults}
    (h : ofOptions o = .ok d) (kind : CallKind) (q : Request α) :
    d.begun kind q = d.apply (kind.timeout o) q := by
  rw [of_ofOptions h]
  cases kind <;> rfl

/-- **What every call over a connection begins with only fills gaps.** -/
theorem defaults_fill_gaps (o : DialOptions) :
    ((∃ d, CallDefaults.ofOptions o = .ok d) ↔
      ∀ key value, o.metadata.get? key = some value → IsName key ∧ IsValue value) ∧
    (∀ e, CallDefaults.ofOptions o = .error e ↔ FirstOffence o.metadata e) ∧
    (∀ target e, isAddress target = true → o.userAgent.all Metadata.isValue = true →
      (Connection.channel target o = .error e ↔
        ∃ cause, FirstOffence o.metadata cause ∧ e = .transport (.metadata cause))) ∧
    ∀ d, CallDefaults.ofOptions o = .ok d → ∀ (α : Type) (kind : CallKind) (q : Request α),
      (Overlong o.metadata (kind.timeout o) q.metadata → d.begun kind q = .aborted) ∧
      (¬Overlong o.metadata (kind.timeout o) q.metadata →
        ∃ m, d.begun kind q = .ok { q with metadata := m } ∧
          Filled o.metadata (kind.timeout o) q.metadata m ∧
          (m.values timeoutHeader ≠ [] → ∀ kind' : CallKind,
            d.begun kind' { q with metadata := m } = .ok { q with metadata := m })) := by
  refine ⟨CallDefaults.exists_ofOptions_iff, fun e => CallDefaults.ofOptions_eq_error_iff,
    fun target e haddress hagent => ?_, fun d hd α kind q => ?_⟩
  · simp only [← CallDefaults.ofOptions_eq_error_iff]
    cases hoptions : CallDefaults.ofOptions o with
    | ok d => simp [Connection.channel, haddress, hagent, hoptions]
    | error cause => simp [Connection.channel, haddress, hagent, hoptions, eq_comm]
  · have hmetadata : d.metadata = o.metadata.entries.map lowered := by
      rw [CallDefaults.of_ofOptions hd]
    simp only [CallDefaults.begun_eq hd]
    refine ⟨CallDefaults.apply_overlong hmetadata, fun hshort => ?_⟩
    obtain ⟨m, hm, hfilled, hfill⟩ := CallDefaults.apply_filled hmetadata q hshort
    exact ⟨m, hm, hfilled, fun htimeout kind' => CallDefaults.apply_again hfill htimeout⟩

/-- Two keys that are one name up to case. -/
def twinNames : DialOptions where
  unaryTimeout := some (Duration.ofMillis 5000)
  metadata := .ofList [("x-owner", "ci"), ("X-Owner", "alice")]

theorem defaults_fill_gaps_twinNames :
    ∃ d m, CallDefaults.ofOptions twinNames = .ok d ∧
      d.begun .unary ⟨(), [("x-testbed", "pins")]⟩ = .ok ⟨(), m⟩ ∧
      [("x-testbed", "pins")] <+: m ∧ m.values "x-owner" = ["alice"] ∧
      (∃ text, Encodes (Duration.ofMillis 5000) text ∧ m.values timeoutHeader = [text]) ∧
      d.begun .streaming ⟨(), m⟩ = .ok ⟨(), m⟩ := by
  obtain ⟨hok, -, -, hcalls⟩ := defaults_fill_gaps twinNames
  obtain ⟨d, hd⟩ := hok.mpr fun key value hget => by
    have hmem : (key, value) ∈ [("X-Owner", "alice"), ("x-owner", "ci")] :=
      StringMap.get?_eq_some_iff.mp hget
    have hall : ∀ pair ∈ [("X-Owner", "alice"), ("x-owner", "ci")],
        Metadata.key? pair.1 = some (Text.lower pair.1) ∧ Metadata.isValue pair.2 = true := by
      decide
    obtain ⟨hname, hvalue⟩ := hall _ hmem
    exact ⟨Metadata.isName_iff.mpr hname, Metadata.isValue_iff.mp hvalue⟩
  have hundialed : ∀ value, ¬DialsFirst twinNames.metadata timeoutHeader value :=
    dialLine?_eq_none_iff.mp (by decide)
  have howner : DialsFirst twinNames.metadata "x-owner" "alice" :=
    dialLine?_eq_some_iff.mp (by decide)
  have hshort : ¬Overlong twinNames.metadata (CallKind.unary.timeout twinNames)
      [("x-testbed", "pins")] := by
    rintro ⟨-, -, bound, hbound, hlong⟩
    cases hbound
    exact absurd hlong (by decide)
  obtain ⟨m, hm, hfilled, hagain⟩ :=
    (hcalls d hd Unit .unary ⟨(), [("x-testbed", "pins")]⟩).2 hshort
  have htimed := hfilled.timed (by decide) hundialed rfl
  refine ⟨d, m, hd, hm, hfilled.ahead, hfilled.dialed (by decide) howner, htimed,
    hagain ?_ .streaming⟩
  obtain ⟨text, -, htext⟩ := htimed
  rw [htext]
  exact List.cons_ne_nil text []

/-- A deadline that cannot be written leaves no call to fill. -/
theorem overlong_default_ends_program :
    ∃ d, CallDefaults.ofOptions
        { unaryTimeout := some (Duration.ofMillis 18446744073709551615)
          metadata := .ofList [("x-owner", "ci")] } = .ok d ∧
      d.begun .unary ⟨(), [("x-testbed", "pins")]⟩ = .aborted :=
  ⟨⟨some (Duration.ofMillis 18446744073709551615), none, none, [("x-owner", "ci")]⟩,
    by decide, by decide⟩

end SwitchTestbed.Rpc
