import SwitchTestbed.Context.Basic

/-!
# Work under a context

* `Context.perform_cancelled`, `Context.perform_state`, `Context.perform_live` : work is started
  unless the caller has given up, whatever comes of it (`Context.perform_untouched`);
* `Context.Boundable`, `Context.bounded` : whether a default bound can be told, and the context with
  it (`Context.withDefaultTimeout_eq`, `Context.performWithin_of_boundable`);
* `Context.run_verdict` : how work that was started can end;
* `Context.run_time_le` : work under a deadline is over when the deadline is;
* `Context.run_expired` : work that takes too long ends there.
-/

namespace SwitchTestbed

namespace Context

variable {σ α ρ : Type} {c : Context} {now : Instant}

/-! ## Starting -/

theorem perform_cancelled (h : c.isCancelled now = true) (start : σ → σ × Work (Except Error α))
    (s : σ) : c.perform now start s = (s, now, .error .cancelled) := by
  simp [perform, h]

theorem perform_live (h : c.isCancelled now = false) (start : σ → σ × Work (Except Error α))
    (s : σ) : c.perform now start s =
      ((start s).1, (c.run now (start s).2).time, (c.run now (start s).2).verdict.toExcept) := by
  simp [perform, h]

theorem perform_state (h : c.isCancelled now = false) (start : σ → σ × Work (Except Error α))
    (s : σ) : (c.perform now start s).1 = (start s).1 := by
  rw [perform_live h]

/-- Work that starts without a trace ends as it would under the context alone. -/
theorem perform_untouched (w : Work (Except Error α)) (s : σ) :
    c.perform now (fun s => (s, w)) s =
      (s, (c.run now w).time, (c.run now w).verdict.toExcept) := by
  cases hgiven : c.isCancelled now with
  | true => simp [perform, run, hgiven, Verdict.toExcept]
  | false => rw [perform_live hgiven]

/-! ## Default bounds -/

/-- There is a deadline, or the one that a default bound brings can be told. -/
def Boundable (c : Context) (now : Instant) (t : Duration) : Prop :=
  c.deadline = none → now + t ≤ lastInstant

instance (c : Context) (now : Instant) (t : Duration) : Decidable (c.Boundable now t) :=
  inferInstanceAs (Decidable (c.deadline = none → now + t ≤ lastInstant))

/-- The context with its deadline, or with the one that a default bound brings. -/
def bounded (c : Context) (now : Instant) (t : Duration) : Context :=
  { c with deadline := some (c.deadline.getD (now + t)) }

@[simp] theorem deadline_bounded (c : Context) (now : Instant) (t : Duration) :
    (c.bounded now t).deadline = some (c.deadline.getD (now + t)) := rfl

@[simp] theorem cancelledAt_bounded (c : Context) (now : Instant) (t : Duration) :
    (c.bounded now t).cancelledAt = c.cancelledAt := rfl

@[simp] theorem isCancelled_bounded (c : Context) (now later : Instant) (t : Duration) :
    (c.bounded now t).isCancelled later = c.isCancelled later := rfl

theorem boundable_of_deadline {d : Instant} (h : c.deadline = some d) (t : Duration) :
    c.Boundable now t := fun hnone => by rw [h] at hnone; cases hnone

theorem withDefaultTimeout_eq (c : Context) (now : Instant) (t : Duration) :
    c.withDefaultTimeout now t = if c.Boundable now t then .ok (c.bounded now t) else .aborted := by
  cases c with
  | mk deadline cancelledAt =>
    cases deadline with
    | some d => exact (if_pos (boundable_of_deadline rfl t)).symm
    | none => simp [withDefaultTimeout, withTimeout, withDeadline, Boundable, bounded]

theorem withDefaultTimeout_eq_ok {c' : Context} {t : Duration}
    (h : c.withDefaultTimeout now t = .ok c') : c' = c.bounded now t := by
  rw [withDefaultTimeout_eq] at h
  split at h <;> cases h
  rfl

theorem withTimeout_eq_ok {c' : Context} {t : Duration} (h : c.withTimeout now t = .ok c') :
    c' = c.withDeadline (now + t) := by
  rw [withTimeout] at h
  split at h <;> cases h
  rfl

theorem performWithin_of_boundable {t : Duration} (h : c.Boundable now t)
    (start : Context → σ → σ × Work (Except Error α)) (s : σ) :
    let ended := (c.bounded now t).perform now (start (c.bounded now t)) s
    c.performWithin now t start s = (ended.1, ended.2.1, .ofExcept ended.2.2) := by
  rw [performWithin, withDefaultTimeout_eq, if_pos h]

theorem performWithin_aborted {t : Duration} (h : ¬c.Boundable now t)
    (start : Context → σ → σ × Work (Except Error α)) (s : σ) :
    c.performWithin now t start s = (s, now, .aborted) := by
  rw [performWithin, withDefaultTimeout_eq, if_neg h]

/-! ## The end of work -/

/-- Work that was started ends by itself, at the deadline, or when the caller gives up. -/
theorem run_verdict (h : c.isCancelled now = false) (w : Work ρ) :
    (c.run now w).verdict = .finished w.result ∨ (c.run now w).verdict = .expired ∨
      (c.run now w).verdict = .cancelled := by
  unfold run
  rw [if_neg (by simp [h])]
  by_cases hdelay : w.delay = 0
  · simp [hdelay]
  rw [if_neg hdelay]
  cases c.cancelledAt with
  | none => by_cases hin : within (now + w.delay) c.deadline <;> simp [hin]
  | some u =>
    by_cases hgiven : u < now + w.delay ∧ before u (c.deadline.map (max · now))
    · simp [hgiven]
    · by_cases hin : within (now + w.delay) c.deadline <;> simp [hgiven, hin]

/-- A deadline that has passed before ends the work at once. -/
theorem run_time_le {d : Instant} (hd : c.deadline = some d) (w : Work ρ) :
    (c.run now w).time ≤ max now d := by
  have hexpiry : max d now = max now d := Nat.max_comm d now
  have hdone : now + w.delay ≤ d → now + w.delay ≤ max now d := fun h =>
    Nat.le_trans h (Nat.le_max_right now d)
  unfold run
  simp only [hd, within, before, Option.map_some, Option.getD_some, decide_eq_true_eq, hexpiry]
  by_cases hcancelled : c.isCancelled now = true
  · rw [if_pos hcancelled]
    exact Nat.le_max_left now d
  by_cases hdelay : w.delay = 0
  · rw [if_neg hcancelled, if_pos hdelay]
    exact Nat.le_max_left now d
  rw [if_neg hcancelled, if_neg hdelay]
  cases c.cancelledAt with
  | none =>
    by_cases hin : now + w.delay ≤ d
    · simpa only [if_pos hin] using hdone hin
    · simp [if_neg hin]
  | some u =>
    by_cases hgiven : u < now + w.delay ∧ u < max now d
    · simpa only [if_pos hgiven] using Nat.le_of_lt hgiven.2
    · by_cases hin : now + w.delay ≤ d
      · simpa only [if_neg hgiven, if_pos hin] using hdone hin
      · simp only [if_neg hgiven, if_neg hin, Nat.le_refl]

/-- Work that is not done at the deadline ends there, if the caller does not give up before. -/
theorem run_expired {d : Instant} {w : Work ρ} (hlive : c.isCancelled now = false)
    (hd : c.deadline = some d) (hslow : 0 < w.delay) (hlate : d < now + w.delay)
    (hgiven : ∀ u, c.cancelledAt = some u → max now d < u) :
    c.run now w = ⟨max now d, .expired⟩ := by
  have hexpiry : max d now = max now d := Nat.max_comm d now
  have hin : ¬now + w.delay ≤ d := Nat.not_le.mpr hlate
  unfold run
  rw [if_neg (by simp [hlive]), if_neg (Nat.ne_of_gt hslow)]
  simp only [hd, within, before, Option.map_some, Option.getD_some, decide_eq_true_eq, hexpiry,
    if_neg hin]
  cases hcancelled : c.cancelledAt with
  | none => rfl
  | some u =>
    have hlater : ¬u < max now d := Nat.lt_asymm (hgiven u hcancelled)
    simp [hlater]

end Context

end SwitchTestbed
