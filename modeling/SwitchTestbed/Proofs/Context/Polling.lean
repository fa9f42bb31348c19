import SwitchTestbed.Proofs.Context

/-!
# Work that is polled

Whoever waits for work under a context asks again and again whether one of three things has
happened: the caller has given up, the work is done, the deadline has passed.

* `Poll`, `Poll.Resolves` : something that can be asked at any instant, and its first answer;
* `Poll.either`, `Poll.timed` : two of them, asked in an order that may change from one instant to
  the next, and one with a deadline, which is asked last;
* `Context.awaited`, `Context.Awaits` : the whole of what is asked, and how it ends;
* `FirstEvent` : the ending that the earliest event gives (`FirstEvent.exists_of_apart`);
* `FirstEvent.awaits`, `FirstEvent.run` : polled in whichever order, and as `Context.run` has it,
  work ends so;
* `earliest_event_decides` : the main result.
-/

namespace SwitchTestbed

/-! ## Polls -/

abbrev Poll (β : Type) := Instant → Option β

namespace Poll

variable {β : Type}

/-- Ready from an instant on. -/
def since (e : Instant) (b : β) : Poll β := fun t => if e ≤ t then some b else none

/-- Two of them, either of which may be asked first. -/
def either (leftFirst : Instant → Bool) (p q : Poll β) : Poll β := fun t =>
  if leftFirst t then (p t).or (q t) else (q t).or (p t)

/-- One that has `late` for its answer once a deadline has passed without another. -/
def timed (p : Poll β) (d : Instant) (late : β) : Poll β := fun t => (p t).or (since d late t)

/-- Asked from `s` on, it is ready at `t` for the first time. -/
structure Resolves (p : Poll β) (s t : Instant) (b : β) : Prop where
  started : s ≤ t
  ready : p t = some b
  pending : ∀ u, s ≤ u → u < t → p u = none

theorem since_of_le {e t : Instant} (h : e ≤ t) (b : β) : since e b t = some b := if_pos h

theorem since_of_lt {e t : Instant} (h : t < e) (b : β) : since e b t = none :=
  if_neg (Nat.not_le.mpr h)

theorem either_left {p q : Poll β} {t : Instant} (leftFirst : Instant → Bool) (h : q t = none) :
    either leftFirst p q t = p t := by
  simp [either, h]

theorem either_right {p q : Poll β} {t : Instant} (leftFirst : Instant → Bool) (h : p t = none) :
    either leftFirst p q t = q t := by
  simp [either, h]

theorem Resolves.unique {p : Poll β} {s t t' : Instant} {b b' : β} (h : p.Resolves s t b)
    (h' : p.Resolves s t' b') : t = t' ∧ b = b' := by
  have hle : ∀ {t t' : Instant} {b b' : β}, p.Resolves s t b → p.Resolves s t' b' → t ≤ t' := by
    intro t t' b b' h h'
    refine Nat.not_lt.mp fun hlt => ?_
    have hnone := h.pending t' h'.started hlt
    rw [h'.ready] at hnone
    cases hnone
  have htime : t = t' := Nat.le_antisymm (hle h h') (hle h' h)
  subst htime
  exact ⟨rfl, Option.some.inj (h.ready.symm.trans h'.ready)⟩

end Poll

/-! ## Waiting for work -/

namespace Context

variable {ρ : Type} (c : Context)

def givenUp : Poll (Verdict ρ) := fun t => if c.isCancelled t then some .cancelled else none

/-- What work is asked for that has its result at `e`, with and without a deadline. -/
def awaited (callerFirst : Instant → Bool) (e : Instant) (r : ρ) : Poll (Verdict ρ) :=
  match c.deadline with
  | some d => .either callerFirst c.givenUp (.timed (.since e (.finished r)) d .expired)
  | none => .either callerFirst c.givenUp (.since e (.finished r))

/-- How work ends that starts at `s`, would have its result at `e` and is polled. -/
inductive Awaits (callerFirst : Instant → Bool) (s e : Instant) (r : ρ) : Ending ρ → Prop
  | refused (hgiven : c.isCancelled s = true) : Awaits callerFirst s e r ⟨s, .refused⟩
  | polled {t : Instant} {v : Verdict ρ} (hlive : c.isCancelled s = false)
      (h : (c.awaited callerFirst e r).Resolves s t v) : Awaits callerFirst s e r ⟨t, v⟩

/-- The caller does not give up just when the work ends or the deadline passes. -/
def Apart (s e : Instant) : Prop :=
  ∀ u, c.cancelledAt = some u → s < u → u ≠ e ∧ c.deadline ≠ some u

variable {c}

theorem isCancelled_eq_false_iff {t : Instant} :
    c.isCancelled t = false ↔ ∀ u, c.cancelledAt = some u → t < u := by
  unfold isCancelled
  cases c.cancelledAt <;> simp

theorem isCancelled_of_le {t u : Instant} (hu : c.cancelledAt = some u) (h : u ≤ t) :
    c.isCancelled t = true := by
  simp [isCancelled, hu, h]

theorem givenUp_live {t : Instant} (h : c.isCancelled t = false) :
    (c.givenUp t : Option (Verdict ρ)) = none := by
  simp [givenUp, h]

theorem Awaits.unique {callerFirst : Instant → Bool} {s e : Instant} {r : ρ} {x y : Ending ρ}
    (hx : c.Awaits callerFirst s e r x) (hy : c.Awaits callerFirst s e r y) : x = y := by
  cases hx with
  | refused hgiven =>
    cases hy with
    | refused => rfl
    | polled hlive => rw [hgiven] at hlive; cases hlive
  | polled hlive hx =>
    cases hy with
    | refused hgiven => rw [hgiven] at hlive; cases hlive
    | polled _ hy =>
      obtain ⟨rfl, rfl⟩ := hx.unique hy
      rfl

section Awaited

variable {callerFirst : Instant → Bool} {e t : Instant} {r : ρ}

theorem awaited_of_none (hd : c.deadline = none) : c.awaited callerFirst e r t =
    Poll.either callerFirst c.givenUp (.since e (.finished r)) t := by
  simp only [awaited, hd]

theorem awaited_of_some {d : Instant} (hd : c.deadline = some d) : c.awaited callerFirst e r t =
    Poll.either callerFirst c.givenUp (.timed (.since e (.finished r)) d .expired) t := by
  simp only [awaited, hd]

theorem timed_none {d : Instant} (hwork : t < e) (hdeadline : t < d) :
    Poll.timed (.since e (Verdict.finished r)) d .expired t = none := by
  rw [Poll.timed, Poll.since_of_lt hwork, Poll.since_of_lt hdeadline, Option.none_or]

theorem awaited_none (hlive : c.isCancelled t = false) (hwork : t < e)
    (hdeadline : ∀ d, c.deadline = some d → t < d) : c.awaited callerFirst e r t = none := by
  have hgiven : (c.givenUp t : Option (Verdict ρ)) = none := givenUp_live hlive
  cases hd : c.deadline with
  | none => rw [awaited_of_none hd, Poll.either_right _ hgiven, Poll.since_of_lt hwork]
  | some d =>
    rw [awaited_of_some hd, Poll.either_right _ hgiven, timed_none hwork (hdeadline d hd)]

theorem awaited_finished (hlive : c.isCancelled t = false) (hwork : e ≤ t) :
    c.awaited callerFirst e r t = some (.finished r) := by
  have hgiven : (c.givenUp t : Option (Verdict ρ)) = none := givenUp_live hlive
  cases hd : c.deadline with
  | none => rw [awaited_of_none hd, Poll.either_right _ hgiven, Poll.since_of_le hwork]
  | some d =>
    rw [awaited_of_some hd, Poll.either_right _ hgiven, Poll.timed, Poll.since_of_le hwork,
      Option.some_or]

theorem awaited_cancelled (hgiven : c.isCancelled t = true) (hwork : t < e)
    (hdeadline : ∀ d, c.deadline = some d → t < d) :
    c.awaited callerFirst e r t = some .cancelled := by
  have hready : c.givenUp t = some (.cancelled : Verdict ρ) := if_pos hgiven
  cases hd : c.deadline with
  | none => rw [awaited_of_none hd, Poll.either_left _ (Poll.since_of_lt hwork _), hready]
  | some d =>
    rw [awaited_of_some hd, Poll.either_left _ (timed_none hwork (hdeadline d hd)), hready]

theorem awaited_expired {d : Instant} (hd : c.deadline = some d) (hlive : c.isCancelled t = false)
    (hwork : t < e) (hdeadline : d ≤ t) : c.awaited callerFirst e r t = some .expired := by
  have hgiven : (c.givenUp t : Option (Verdict ρ)) = none := givenUp_live hlive
  rw [awaited_of_some hd, Poll.either_right _ hgiven, Poll.timed, Poll.since_of_lt hwork,
    Option.none_or, Poll.since_of_le hdeadline]

end Awaited

end Context

/-! ## The earliest event -/

/-- The ending that the earliest event gives to work that starts at `s` and would have its result
at `e`. A deadline or a caller that is not there never comes, and a deadline before `s` comes at
`s`. -/
inductive FirstEvent {ρ : Type} (c : Context) (s e : Instant) (r : ρ) : Ending ρ → Prop
  | refused {u : Instant} (hu : c.cancelledAt = some u) (h : u ≤ s) :
      FirstEvent c s e r ⟨s, .refused⟩
  | finished (hlive : ∀ u, c.cancelledAt = some u → s < u)
      (h : e = s ∨
        (∀ u, c.cancelledAt = some u → e < u) ∧ ∀ d, c.deadline = some d → e ≤ d) :
      FirstEvent c s e r ⟨e, .finished r⟩
  | cancelled {u : Instant} (hu : c.cancelledAt = some u) (hlive : s < u) (hwork : u < e)
      (hdeadline : ∀ d, c.deadline = some d → u < max d s) : FirstEvent c s e r ⟨u, .cancelled⟩
  | expired {d : Instant} (hd : c.deadline = some d) (hwork : max d s < e)
      (hgiven : ∀ u, c.cancelledAt = some u → max d s < u) : FirstEvent c s e r ⟨max d s, .expired⟩

/-- Of a completion, a deadline and a caller who gives up one comes first. -/
theorem earliest_cases {s e d u : Nat} (hstart : s ≤ e) (hlive : s < u) (hwork : u ≠ e)
    (hdeadline : u ≠ d) :
    (e = s ∨ e < u ∧ e ≤ d) ∨ (u < e ∧ u < max d s) ∨ (max d s < e ∧ max d s < u) := by
  omega

theorem completion_cases {s e : Nat} (d : Nat) (hstart : s ≤ e) :
    (e = s ∨ e ≤ d) ∨ max d s < e := by
  omega

theorem lt_left_of_lt_max {t u d s : Nat} (h : t ≤ u) (hs : s < u) (hd : u < max d s) : t < d := by
  omega

theorem lt_left_of_lt {t d s : Nat} (hs : s ≤ t) (h : t < max d s) : t < d := by
  omega

namespace FirstEvent

variable {ρ : Type} {c : Context} {s e : Instant} {r : ρ} {x : Ending ρ}

/-- Some event is the earliest one, if no two of them that would matter come together. -/
theorem exists_of_apart (hstart : s ≤ e) (hapart : c.Apart s e) (r : ρ) :
    ∃ x, FirstEvent c s e r x := by
  have hnever : ∀ {o : Option Instant} {P : Instant → Prop}, o = none → ∀ t, o = some t → P t := by
    rintro o P rfl t ht
    cases ht
  have honly : ∀ {o : Option Instant} {P : Instant → Prop} {t : Instant}, o = some t → P t →
      ∀ t', o = some t' → P t' := by
    rintro o P t rfl hP t' ht
    cases ht
    exact hP
  cases hu : c.cancelledAt with
  | none =>
    cases hd : c.deadline with
    | none => exact ⟨_, finished (hnever hu) (.inr ⟨hnever hu, hnever hd⟩)⟩
    | some d =>
      rcases completion_cases d hstart with hdone | hlate
      · exact ⟨_, finished (hnever hu) (hdone.imp_right fun h => ⟨hnever hu, honly hd h⟩)⟩
      · exact ⟨_, expired hd hlate (hnever hu)⟩
  | some u =>
    by_cases hbefore : u ≤ s
    · exact ⟨_, refused hu hbefore⟩
    have hlive : s < u := Nat.not_le.mp hbefore
    obtain ⟨hwork, hdeadline⟩ := hapart u hu hlive
    cases hd : c.deadline with
    | none =>
      rcases Nat.lt_or_gt_of_ne hwork with hgiven | hdone
      · exact ⟨_, cancelled hu hlive hgiven (hnever hd)⟩
      · exact ⟨_, finished (honly hu hlive) (.inr ⟨honly hu hdone, hnever hd⟩)⟩
    | some d =>
      have hne : u ≠ d := fun heq => hdeadline (heq ▸ hd)
      rcases earliest_cases hstart hlive hwork hne with hdone | ⟨hgiven, hearly⟩ | ⟨hlate, hkept⟩
      · exact ⟨_, finished (honly hu hlive)
          (hdone.imp_right fun h => ⟨honly hu h.1, honly hd h.2⟩)⟩
      · exact ⟨_, cancelled hu hlive hgiven (honly hd hearly)⟩
      · exact ⟨_, expired hd hlate (honly hu hkept)⟩

/-- **Polled in whichever order, work ends with the earliest event.** -/
theorem awaits (hstart : s ≤ e) (h : FirstEvent c s e r x) (callerFirst : Instant → Bool) :
    c.Awaits callerFirst s e r x := by
  cases h with
  | refused hu h => exact .refused (Context.isCancelled_of_le hu h)
  | finished hlive h =>
    have hliveAt : ∀ t, s ≤ t → t ≤ e → c.isCancelled t = false := by
      intro t hst hte
      refine Context.isCancelled_eq_false_iff.mpr fun u hu => ?_
      rcases h with rfl | ⟨hgiven, -⟩
      · exact Nat.lt_of_le_of_lt hte (hlive u hu)
      · exact Nat.lt_of_le_of_lt hte (hgiven u hu)
    refine .polled (hliveAt s (Nat.le_refl s) hstart) ⟨hstart,
      Context.awaited_finished (hliveAt e hstart (Nat.le_refl e)) (Nat.le_refl e), ?_⟩
    intro t hst hte
    refine Context.awaited_none (hliveAt t hst (Nat.le_of_lt hte)) hte fun d hd => ?_
    rcases h with rfl | ⟨-, hdeadline⟩
    · exact absurd hst (Nat.not_le.mpr hte)
    · exact Nat.lt_of_lt_of_le hte (hdeadline d hd)
  | @cancelled u hu hlive hwork hdeadline =>
    have hliveAt : ∀ t, t < u → c.isCancelled t = false := by
      intro t ht
      refine Context.isCancelled_eq_false_iff.mpr fun u' hu' => ?_
      rw [hu] at hu'
      cases hu'
      exact ht
    have hbefore : ∀ t, t ≤ u → ∀ d, c.deadline = some d → t < d := fun t ht d hd =>
      lt_left_of_lt_max ht hlive (hdeadline d hd)
    refine .polled (hliveAt s hlive) ⟨Nat.le_of_lt hlive,
      Context.awaited_cancelled (Context.isCancelled_of_le hu (Nat.le_refl u)) hwork
        (hbefore u (Nat.le_refl u)), ?_⟩
    intro t _ ht
    exact Context.awaited_none (hliveAt t ht) (Nat.lt_trans ht hwork) (hbefore t (Nat.le_of_lt ht))
  | @expired d hd hwork hgiven =>
    have hliveAt : ∀ t, t ≤ max d s → c.isCancelled t = false := fun t ht =>
      Context.isCancelled_eq_false_iff.mpr fun u hu => Nat.lt_of_le_of_lt ht (hgiven u hu)
    refine .polled (hliveAt s (Nat.le_max_right d s)) ⟨Nat.le_max_right d s,
      Context.awaited_expired hd (hliveAt _ (Nat.le_refl _)) hwork (Nat.le_max_left d s), ?_⟩
    intro t hst ht
    refine Context.awaited_none (hliveAt t (Nat.le_of_lt ht)) (Nat.lt_trans ht hwork)
      fun d' hd' => ?_
    rw [hd] at hd'
    cases hd'
    exact lt_left_of_lt hst ht

/-- **Work that is run ends with the earliest event.** -/
theorem run {w : Work ρ} (h : FirstEvent c s (s + w.delay) w.result x) : c.run s w = x := by
  have hlive_of : (∀ u, c.cancelledAt = some u → s < u) → ¬c.isCancelled s = true := fun hlive => by
    simp [Context.isCancelled_eq_false_iff.mpr hlive]
  cases h with
  | refused hu h => rw [Context.run, if_pos (Context.isCancelled_of_le hu h)]
  | finished hlive h =>
    rw [Context.run, if_neg (hlive_of hlive)]
    by_cases hdelay : w.delay = 0
    · rw [if_pos hdelay, Nat.add_eq_left.mpr hdelay]
    · have hlong : s + w.delay ≠ s := fun heq => hdelay (Nat.add_eq_left.mp heq)
      obtain ⟨hgiven, hdeadline⟩ := h.resolve_left hlong
      have hin : Context.within (s + w.delay) c.deadline = true := by
        cases hd : c.deadline with
        | none => rfl
        | some d => exact decide_eq_true (hdeadline d hd)
      rw [if_neg hdelay]
      cases hu : c.cancelledAt with
      | none => simp only [hin, if_true]
      | some u =>
        have hlater : ¬u < s + w.delay := Nat.lt_asymm (hgiven u hu)
        simp only [hlater, false_and, if_false, hin, if_true]
  | @cancelled u hu hlive hwork hdeadline =>
    have hdelay : ¬w.delay = 0 := by
      intro heq
      rw [Nat.add_eq_left.mpr heq] at hwork
      exact Nat.lt_asymm hlive hwork
    have hbefore : Context.before u (c.deadline.map (max · s)) = true := by
      cases hd : c.deadline with
      | none => rfl
      | some d => exact decide_eq_true (hdeadline d hd)
    have hstarted : ∀ u', c.cancelledAt = some u' → s < u' := fun u' hu' => by
      rw [hu] at hu'
      cases hu'
      exact hlive
    rw [Context.run, if_neg (hlive_of hstarted), if_neg hdelay]
    simp only [hu, hwork, hbefore, and_self, if_true]
  | @expired d hd hwork hgiven =>
    have hdelay : 0 < w.delay := by
      refine Nat.pos_of_ne_zero fun heq => ?_
      rw [Nat.add_eq_left.mpr heq] at hwork
      exact Nat.not_lt.mpr (Nat.le_max_right d s) hwork
    have hlive := hlive_of fun u hu => Nat.lt_of_le_of_lt (Nat.le_max_right d s) (hgiven u hu)
    rw [Nat.max_comm]
    exact Context.run_expired (Bool.eq_false_iff.mpr hlive) hd hdelay
      (Nat.lt_of_le_of_lt (Nat.le_max_left d s) hwork)
      fun u hu => Nat.max_comm d s ▸ hgiven u hu

end FirstEvent

/-! ## Main result -/

/-- **The earliest event decides.** Unless the caller gives up just when the work ends or the
deadline passes, polling ends as the first of the three events says, with or without a deadline and
whatever is asked first, and so does work that is run. Work is started unless the caller had given
up before. -/
theorem earliest_event_decides (c : Context) (s e : Instant) (hstart : s ≤ e)
    (hapart : c.Apart s e) :
    (∀ {ρ : Type} (callerFirst : Instant → Bool) (r : ρ) (x : Ending ρ),
      c.Awaits callerFirst s e r x ↔ FirstEvent c s e r x) ∧
    (∀ {ρ : Type} (w : Work ρ), s + w.delay = e → ∀ x : Ending ρ,
      c.run s w = x ↔ FirstEvent c s e w.result x) ∧
    ∀ {σ α : Type} (start : σ → σ × Work (Except Error α)) (a : σ),
      s + (start a).2.delay = e → ∀ x, FirstEvent c s e (start a).2.result x →
        c.perform s start a =
          (if c.isCancelled s then a else (start a).1, x.time, x.verdict.toExcept) := by
  refine ⟨fun callerFirst r x => ?_, fun w he x => ?_, fun start a he x hx => ?_⟩
  · obtain ⟨y, hy⟩ := FirstEvent.exists_of_apart hstart hapart r
    refine ⟨fun hx => ?_, fun hx => hx.awaits hstart callerFirst⟩
    rwa [hx.unique (hy.awaits hstart callerFirst)]
  · subst he
    obtain ⟨y, hy⟩ := FirstEvent.exists_of_apart hstart hapart w.result
    refine ⟨fun hx => ?_, fun hx => hx.run⟩
    rwa [← hx, hy.run]
  · subst he
    cases hlive : c.isCancelled s with
    | false => rw [Context.perform_live hlive, hx.run, if_neg Bool.false_ne_true]
    | true =>
      have hrefused : x = ⟨s, .refused⟩ := by rw [← hx.run, Context.run, if_pos hlive]
      rw [Context.perform_cancelled hlive, hrefused, if_pos rfl]
      rfl

def hurried : Context := { deadline := some 10, cancelledAt := some 14 }

/-- Work that ends at the deadline, work that would end behind it, work that takes no time behind
it, and work that is not started. -/
theorem earliest_event_decides_hurried :
    let count : Nat → Nat × Work (Except Error String) := fun n => (n + 1, ⟨0, .ok "at once"⟩)
    (3 ≤ 10 ∧ hurried.Apart 3 10 ∧ hurried.run 3 ⟨7, "in time"⟩ = ⟨10, .finished "in time"⟩) ∧
    (3 ≤ 12 ∧ hurried.Apart 3 12 ∧
      ∀ callerFirst, hurried.Awaits callerFirst 3 12 "too late" ⟨10, .expired⟩) ∧
    (hurried.Apart 12 12 ∧ hurried.perform 12 count 0 = (1, 12, .ok "at once")) ∧
    (hurried.Apart 14 14 ∧ hurried.perform 14 count 0 = (0, 14, .error .cancelled)) := by
  intro count
  have hapart : ∀ s e, e ≠ 14 → hurried.Apart s e := by
    rintro s e he u hu -
    cases hu
    exact ⟨he.symm, by decide⟩
  have hgiven : hurried.Apart 14 14 := by
    rintro u hu hlate
    cases hu
    exact absurd hlate (by decide)
  have hlive : ∀ {t : Instant}, t < 14 → ∀ u, hurried.cancelledAt = some u → t < u := by
    rintro t ht u hu
    cases hu
    exact ht
  have hdeadline : ∀ d, hurried.deadline = some d → 10 ≤ d := by
    rintro d hd
    cases hd
    decide
  obtain ⟨-, hrun, -⟩ := earliest_event_decides hurried 3 10 (by decide) (hapart 3 10 (by decide))
  obtain ⟨hawaits, -, -⟩ :=
    earliest_event_decides hurried 3 12 (by decide) (hapart 3 12 (by decide))
  obtain ⟨-, -, hatOnce⟩ :=
    earliest_event_decides hurried 12 12 (by decide) (hapart 12 12 (by decide))
  obtain ⟨-, -, hrefused⟩ := earliest_event_decides hurried 14 14 (by decide) hgiven
  refine ⟨⟨by decide, hapart 3 10 (by decide), (hrun _ (by decide) _).mpr ?_⟩,
    ⟨by decide, hapart 3 12 (by decide), fun callerFirst => (hawaits callerFirst _ _).mpr ?_⟩,
    ⟨hapart 12 12 (by decide), ?_⟩, hgiven, ?_⟩
  · exact .finished (hlive (by decide)) (.inr ⟨hlive (by decide), hdeadline⟩)
  · exact .expired (d := 10) rfl (by decide) (hlive (by decide))
  · exact hatOnce count 0 rfl _ (.finished (hlive (by decide)) (.inl rfl))
  · exact hrefused count 0 rfl _ (.refused rfl (Nat.le_refl 14))

end SwitchTestbed
