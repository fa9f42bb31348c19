import Mathlib.Data.List.Forall2
import SwitchTestbed.Gnmi.Payload

/-!
# Requests with all their documents wrapped

* `FirstFault` : the error at the first element of a list where a function fails; `mapM` gives it
  (`mapM_eq_error_iff`), or else the value at every element (`mapM_eq_ok_iff`);
* `Update.Undecodable` : why an entry has an error (`Update.wrapped_eq_error_iff`);
* `SetRequest.entries` : the entries of a request, `replace` before `update`;
* `SetRequest.isWrappable` : whether every entry can be wrapped;
* `SetRequest.WrappedAs` : a request and the same with every entry wrapped once;
* `SetRequest.wrapped_eq_ok_iff`, `SetRequest.wrapped_eq_error_iff` : when a request can be wrapped,
  and what is wrong with it otherwise; `SetRequest.exists_first_undecodable` : its first bad entry.
-/

namespace SwitchTestbed.Gnmi

/-! ## Functions that fail, over a list -/

section MapM

variable {ε α β : Type} {f : α → Except ε β} {x : α} {xs : List α}

/-- The error at the first element where the function fails. -/
def FirstFault (f : α → Except ε β) (xs : List α) (e : ε) : Prop :=
  ∃ before x after, xs = before ++ x :: after ∧ (∀ y ∈ before, ∃ z, f y = .ok z) ∧ f x = .error e

theorem mapM_cons_error {e : ε} (h : f x = .error e) : (x :: xs).mapM f = .error e := by
  rw [List.mapM_cons, h]
  rfl

theorem mapM_cons_ok {z : β} (h : f x = .ok z) :
    (x :: xs).mapM f = (xs.mapM f).map (z :: ·) := by
  rw [List.mapM_cons, h]
  cases xs.mapM f <;> rfl

theorem mapM_eq_ok_iff {ys : List β} :
    xs.mapM f = .ok ys ↔ List.Forall₂ (fun x y => f x = .ok y) xs ys := by
  induction xs generalizing ys with
  | nil =>
    rw [List.mapM_nil, List.forall₂_nil_left_iff]
    exact ⟨fun h => (Except.ok.inj h).symm, fun h => congrArg Except.ok h.symm⟩
  | cons x xs ih =>
    rw [List.forall₂_cons_left_iff]
    cases hx : f x with
    | error e =>
      rw [mapM_cons_error hx]
      simp
    | ok z =>
      simp only [mapM_cons_ok hx, Except.ok.injEq, ← ih]
      cases xs.mapM f with
      | error e => simp [Except.map]
      | ok zs => simp [Except.map, eq_comm]

theorem firstFault_cons_ok {z : β} {e : ε} (h : f x = .ok z) :
    FirstFault f (x :: xs) e ↔ FirstFault f xs e := by
  constructor
  · rintro ⟨before, y, after, heq, hbefore, hy⟩
    cases before with
    | nil =>
      obtain ⟨rfl, rfl⟩ := List.cons.inj heq
      rw [h] at hy
      cases hy
    | cons b before =>
      obtain ⟨rfl, rfl⟩ := List.cons.inj heq
      exact ⟨before, y, after, rfl, fun w hw => hbefore w (List.mem_cons_of_mem _ hw), hy⟩
  · rintro ⟨before, y, after, rfl, hbefore, hy⟩
    refine ⟨x :: before, y, after, rfl, fun w hw => ?_, hy⟩
    rcases List.mem_cons.mp hw with rfl | hw
    · exact ⟨z, h⟩
    · exact hbefore w hw

theorem firstFault_cons_error {e e' : ε} (h : f x = .error e') :
    FirstFault f (x :: xs) e ↔ e' = e := by
  constructor
  · rintro ⟨before, y, after, heq, hbefore, hy⟩
    cases before with
    | nil =>
      obtain ⟨rfl, rfl⟩ := List.cons.inj heq
      rw [h] at hy
      exact Except.error.inj hy
    | cons b before =>
      obtain ⟨rfl, rfl⟩ := List.cons.inj heq
      obtain ⟨z, hz⟩ := hbefore x List.mem_cons_self
      rw [h] at hz
      cases hz
  · rintro rfl
    exact ⟨[], x, xs, rfl, fun _ hy => absurd hy List.not_mem_nil, h⟩

theorem mapM_eq_error_iff {e : ε} : xs.mapM f = .error e ↔ FirstFault f xs e := by
  induction xs with
  | nil =>
    refine ⟨nofun, ?_⟩
    rintro ⟨before, x, after, heq, -⟩
    exact absurd heq.symm (List.append_ne_nil_of_right_ne_nil before (List.cons_ne_nil x after))
  | cons x xs ih =>
    cases hx : f x with
    | error e' => rw [mapM_cons_error hx, firstFault_cons_error hx, Except.error.injEq]
    | ok z =>
      rw [mapM_cons_ok hx, firstFault_cons_ok hx, ← ih]
      cases xs.mapM f <;> simp [Except.map]

/-- A function that fails nowhere has a value at every element. -/
theorem exists_ok_of_mapM {ys : List β} (h : xs.mapM f = .ok ys) : ∀ x ∈ xs, ∃ y, f x = .ok y := by
  intro x hx
  cases hfx : f x with
  | ok y => exact ⟨y, rfl⟩
  | error e =>
    obtain ⟨k, hk, rfl⟩ := List.getElem_of_mem hx
    have hvalues := mapM_eq_ok_iff.mp h
    have hvalue := hvalues.get hk (hvalues.length_eq ▸ hk)
    rw [List.get_eq_getElem, hfx] at hvalue
    cases hvalue

end MapM

/-! ## Requests -/

/-- Whether the document of an entry can be wrapped. -/
def Update.isWrappable (u : Update) : Bool :=
  match u.wrapped with
  | .ok _ => true
  | .error _ => false

theorem Update.isWrappable_iff {u : Update} : u.isWrappable = true ↔ ∃ v, u.wrapped = .ok v := by
  unfold isWrappable
  cases u.wrapped <;> simp

/-- An entry is for a step of a path, and its document cannot be read. -/
structure Update.Undecodable (u : Update) (elem : PathElem) (cause : JsonError) : Prop where
  step : u.path.bind Path.lastElem? = some elem
  unread : Json.parse (documentOf u.val) = .error cause

/-- An entry has an error exactly if its document cannot be read: the error holds the name of the
step, and why. -/
theorem Update.wrapped_eq_error_iff {u : Update} {e : PayloadError} :
    u.wrapped = .error e ↔ ∃ elem cause, u.Undecodable elem cause ∧ e = ⟨elem.name, cause⟩ := by
  unfold wrapped wrap
  constructor
  · intro h
    split at h
    · cases h
    rename_i elem hstep
    split at h
    · cases h
    rename_i cause hunread
    cases h
    exact ⟨elem, cause, ⟨hstep, hunread⟩, rfl⟩
  · rintro ⟨elem, cause, ⟨hstep, hunread⟩, rfl⟩
    simp only [hstep, hunread]
    rfl

namespace SetRequest

/-- All entries of a request, `replace` before `update`. -/
def entries (r : SetRequest) : List Update := r.replace ++ r.update

/-- Whether every entry can be wrapped. -/
def isWrappable (r : SetRequest) : Bool := r.entries.all Update.isWrappable

/-- The second request is the first one with every entry wrapped once, each in its place, and
nothing else changed. -/
structure WrappedAs (r m : SetRequest) : Prop where
  base : m.base = r.base
  delete : m.delete = r.delete
  replace : List.Forall₂ (fun u v => u.wrapped = .ok v) r.replace m.replace
  update : List.Forall₂ (fun u v => u.wrapped = .ok v) r.update m.update

theorem wrapped_eq (r : SetRequest) : r.wrapped =
    match r.replace.mapM Update.wrapped with
    | .error e => .error e
    | .ok replace =>
      match r.update.mapM Update.wrapped with
      | .error e => .error e
      | .ok update => .ok { r with replace, update } := by
  unfold wrapped
  cases r.replace.mapM Update.wrapped with
  | error e => rfl
  | ok replace => cases r.update.mapM Update.wrapped <;> rfl

/-- **A request is wrapped entry by entry.** -/
theorem wrapped_eq_ok_iff {r m : SetRequest} : r.wrapped = .ok m ↔ r.WrappedAs m := by
  rw [wrapped_eq]
  constructor
  · intro h
    split at h
    · cases h
    rename_i replace hreplace
    split at h
    · cases h
    rename_i update hupdate
    cases h
    exact ⟨rfl, rfl, mapM_eq_ok_iff.mp hreplace, mapM_eq_ok_iff.mp hupdate⟩
  · intro h
    rw [mapM_eq_ok_iff.mpr h.replace, mapM_eq_ok_iff.mpr h.update]
    simp only [← h.base, ← h.delete]

theorem mapM_entries (r : SetRequest) : r.entries.mapM Update.wrapped =
    match r.replace.mapM Update.wrapped with
    | .error e => .error e
    | .ok replace => (r.update.mapM Update.wrapped).map (replace ++ ·) := by
  rw [entries, List.mapM_append]
  cases r.replace.mapM Update.wrapped with
  | error e => rfl
  | ok replace => cases r.update.mapM Update.wrapped <;> rfl

/-- **A request that cannot be wrapped has the error of its first entry that cannot.** -/
theorem wrapped_eq_error_iff {r : SetRequest} {e : PayloadError} :
    r.wrapped = .error e ↔ FirstFault Update.wrapped r.entries e := by
  rw [wrapped_eq, ← mapM_eq_error_iff, mapM_entries]
  cases r.replace.mapM Update.wrapped with
  | error e' => simp
  | ok replace => cases r.update.mapM Update.wrapped <;> simp [Except.map]

theorem isWrappable_iff {r : SetRequest} : r.isWrappable = true ↔ ∃ m, r.WrappedAs m := by
  rw [isWrappable, List.all_eq_true]
  simp only [Update.isWrappable_iff]
  constructor
  · intro h
    cases hr : r.wrapped with
    | ok m => exact ⟨m, wrapped_eq_ok_iff.mp hr⟩
    | error e =>
      -- the first entry at fault would be one that can be wrapped
      obtain ⟨before, u, after, hentries, -, hu⟩ := wrapped_eq_error_iff.mp hr
      obtain ⟨v, hv⟩ := h u (by simp [hentries])
      rw [hv] at hu
      cases hu
  · rintro ⟨m, hm⟩ u hu
    rcases List.mem_append.mp hu with hu | hu
    · exact exists_ok_of_mapM (mapM_eq_ok_iff.mpr hm.replace) u hu
    · exact exists_ok_of_mapM (mapM_eq_ok_iff.mpr hm.update) u hu

/-- A request of which some entry cannot be wrapped has the error of the first such entry. -/
theorem exists_first_undecodable {r : SetRequest} (h : r.isWrappable = false) :
    ∃ u elem cause, r.entries.find? (fun u => !u.isWrappable) = some u ∧
      u.Undecodable elem cause ∧ r.wrapped = .error ⟨elem.name, cause⟩ := by
  cases hr : r.wrapped with
  | error e =>
    obtain ⟨before, u, after, hsplit, hbefore, hu⟩ := wrapped_eq_error_iff.mp hr
    obtain ⟨elem, cause, hundecodable, rfl⟩ := Update.wrapped_eq_error_iff.mp hu
    refine ⟨u, elem, cause, List.find?_eq_some_iff_append.mpr ⟨?_, before, after, hsplit, ?_⟩,
      hundecodable, rfl⟩
    · simp [Update.isWrappable, hu]
    · intro v hv
      simp [Update.isWrappable_iff.mpr (hbefore v hv)]
  | ok m =>
    rw [isWrappable_iff.mpr ⟨m, wrapped_eq_ok_iff.mp hr⟩] at h
    cases h

end SetRequest

end SwitchTestbed.Gnmi
