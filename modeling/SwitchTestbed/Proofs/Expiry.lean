import SwitchTestbed.Proofs.Pool

/-!
# When reservations end

* `OffCalendar` : runtimes that are kept track of and end after the last year of the calendar;
* `promisedEnd` : the end that a reservation tells, if there is one to tell;
* `expiry_of_not_offCalendar`, `expiry_offCalendar` : the end is told, or the program ends;
* `Pool.reserve_timeless_cases` : what a runtime changes about a reservation;
* `reserve_ends_unless_offCalendar` : the main result, over every stock and demand;
* `late_end_ends_program` : a runtime of whole seconds that is not survived.
-/

namespace SwitchTestbed

/-! ## Ends -/

/-- The runtime is short enough to be kept track of, and too long for the calendar. -/
def OffCalendar (today : Timestamp) (runtime : Duration) : Prop :=
  runtime ≠ 0 ∧ runtime ≤ maxRuntime ∧ lastTimestamp < today + runtime

/-- The end after a runtime, unless there is no runtime or the calendar does not have the end. -/
def promisedEnd (today : Timestamp) (runtime : Duration) : Option Timestamp :=
  if runtime = 0 ∨ lastTimestamp < today + runtime then none else some (today + runtime)

theorem lastTimestamp_lt_maxRuntime : lastTimestamp < maxRuntime := by decide

theorem expiry_offCalendar {today : Timestamp} {runtime : Duration}
    (h : OffCalendar today runtime) :
    expiry today runtime = .aborted := by
  obtain ⟨hzero, hmax, hlast⟩ := h
  have hkept : ¬(runtime = 0 ∨ maxRuntime < runtime) := not_or.mpr ⟨hzero, Nat.not_lt.mpr hmax⟩
  rw [expiry, if_neg hkept, if_neg (Nat.not_le.mpr hlast)]

/-- A runtime that is not kept track of ends after the last year of the calendar, too. -/
theorem expiry_of_not_offCalendar {today : Timestamp} {runtime : Duration}
    (h : ¬OffCalendar today runtime) :
    expiry today runtime = .ok (promisedEnd today runtime) := by
  by_cases hkept : runtime = 0 ∨ maxRuntime < runtime
  · have hnone : runtime = 0 ∨ lastTimestamp < today + runtime := by
      rcases hkept with hzero | hmax
      · exact Or.inl hzero
      · have hlate : lastTimestamp < runtime := Nat.lt_trans lastTimestamp_lt_maxRuntime hmax
        exact Or.inr (Nat.lt_of_lt_of_le hlate (Nat.le_add_left runtime today))
    rw [expiry, if_pos hkept, promisedEnd, if_pos hnone]
  · have hzero : runtime ≠ 0 := fun hzero => hkept (Or.inl hzero)
    have hmax : runtime ≤ maxRuntime := Nat.not_lt.mp fun hmax => hkept (Or.inr hmax)
    have hlast : today + runtime ≤ lastTimestamp :=
      Nat.not_lt.mp fun hlast => h ⟨hzero, hmax, hlast⟩
    have hsome : ¬(runtime = 0 ∨ lastTimestamp < today + runtime) :=
      not_or.mpr ⟨hzero, Nat.not_lt.mpr hlast⟩
    rw [expiry, if_neg hkept, if_pos hlast, promisedEnd, if_neg hsome]

/-- In whole seconds, from a day of the calendar on. -/
theorem offCalendar_ofSeconds_iff {today : Timestamp} (h : today ≤ lastTimestamp) (n : Nat) :
    OffCalendar today (Duration.ofSeconds n) ↔
      n ≤ 9223372036854775 ∧
        Duration.ofSeconds 8210266876800 ≤ today + Duration.ofSeconds n := by
  have hsecond : Duration.second = 1000000000 := by decide
  have hmax : maxRuntime = 9223372036854775807000000 := by decide
  have hlast : lastTimestamp = 8210266876799999999999 := by decide
  have hseconds : ∀ today n : Nat, today ≤ 8210266876799999999999 →
      (n * 1000000000 ≠ 0 ∧ n * 1000000000 ≤ 9223372036854775807000000 ∧
          8210266876799999999999 < today + n * 1000000000 ↔
        n ≤ 9223372036854775 ∧ 8210266876800 * 1000000000 ≤ today + n * 1000000000) := by
    omega
  rw [hlast] at h
  rw [OffCalendar, hmax, hlast, Duration.ofSeconds, Duration.ofSeconds, hsecond]
  exact hseconds today n h

/-! ## Reservations -/

/-- The same demand without a runtime. -/
def Demand.timeless (d : Demand) : Demand := { d with runtime := 0 }

namespace Pool

/-- A demand whose end the calendar does not have ends the program, and changes nothing, once
devices have been found for it. -/
theorem reserve_offCalendar {p : Pool} {d : Demand}
    {devices : List ReservedDevice × List ReservedDevice × List String} (hfree : p.active = none)
    (h : p.place d.testbed = .ok devices) (hoff : OffCalendar d.today d.runtime) :
    p.reserve false d = (p, .aborted) := by
  simp [reserve, hfree, h, expiry_offCalendar hoff]

/-- **What a runtime changes**: a refusal stays as it is, and what is granted gets an end or ends
the program. -/
theorem reserve_timeless_cases (p : Pool) (cancelled : Bool) (d : Demand) :
    (∃ e, p.reserve cancelled d.timeless = (p, .error e) ∧ p.reserve cancelled d = (p, .error e)) ∨
    ∃ p' t, p.reserve cancelled d.timeless = (p', .ok t) ∧
      ((OffCalendar d.today d.runtime ∧ p.reserve cancelled d = (p, .aborted)) ∨
        (¬OffCalendar d.today d.runtime ∧ p.reserve cancelled d =
          (p', .ok { t with expiresAt := promisedEnd d.today d.runtime }))) := by
  cases cancelled with
  | true => exact Or.inl ⟨_, reserve_cancelled p _, reserve_cancelled p d⟩
  | false =>
    cases hactive : p.active with
    | some a => exact Or.inl ⟨_, reserve_active hactive, reserve_active hactive⟩
    | none =>
      cases hplace : p.place d.testbed with
      | error e =>
        exact Or.inl ⟨_, reserve_unplaced hactive hplace, reserve_unplaced hactive hplace⟩
      | ok devices =>
        obtain ⟨duts, ates, used⟩ := devices
        have htimeless : p.reserve false d.timeless = _ :=
          reserve_placed (d := d.timeless) hactive hplace rfl
        refine Or.inr ⟨_, _, htimeless, ?_⟩
        by_cases hoff : OffCalendar d.today d.runtime
        · exact Or.inl ⟨hoff, reserve_offCalendar hactive hplace hoff⟩
        · have hexpiry := expiry_of_not_offCalendar hoff
          exact Or.inr ⟨hoff, reserve_placed hactive hplace hexpiry⟩

end Pool

/-! ## Main result -/

/-- **A reservation tells its end, or ends the program.** Whatever is asked of a stock, a runtime
that does not fall off the calendar changes nothing but the end that is told. One that does ends the
program exactly where the demand would be granted without it, and leaves the stock as it is. In
whole seconds these are the runtimes of at most 9223372036854775 that end after the year 262142. -/
theorem reserve_ends_unless_offCalendar {ω τ : Type} (S : Stubs ω τ)
    (connect : String → Work (Except String Console)) (c : Context) (now : Instant) (d : Demand)
    (s : Stock ω) :
    let reserve := fun d => (inventoryBackend S connect).reserve c now d s
    ((reserve d).2 = .aborted ↔
      OffCalendar d.today d.runtime ∧ ∃ t, (reserve d.timeless).2 = .ok t) ∧
    ((reserve d).2 = .aborted → (reserve d).1 = s) ∧
    (∀ t, (reserve d).2 = .ok t → t.expiresAt = promisedEnd d.today d.runtime) ∧
    (¬OffCalendar d.today d.runtime → (reserve d).1 = (reserve d.timeless).1 ∧
      (reserve d).2 = (reserve d.timeless).2.map
        fun t => { t with expiresAt := promisedEnd d.today d.runtime }) ∧
    (d.today ≤ lastTimestamp → ∀ n, OffCalendar d.today (Duration.ofSeconds n) ↔
      n ≤ 9223372036854775 ∧
        Duration.ofSeconds 8210266876800 ≤ d.today + Duration.ofSeconds n) := by
  intro reserve
  have hreserve : ∀ d, reserve d = ({ s with pool := (s.pool.reserve (c.isCancelled now) d).1 },
      (s.pool.reserve (c.isCancelled now) d).2) := fun _ => rfl
  rw [hreserve d, hreserve d.timeless]
  rcases s.pool.reserve_timeless_cases (c.isCancelled now) d with
    ⟨e, htimeless, h⟩ | ⟨p', t, htimeless, ⟨hoff, h⟩ | ⟨hon, h⟩⟩
  · rw [h, htimeless]
    refine ⟨⟨nofun, fun hgranted => ?_⟩, nofun, nofun, fun _ => ⟨rfl, rfl⟩,
      offCalendar_ofSeconds_iff⟩
    obtain ⟨-, t, ht⟩ := hgranted
    cases ht
  · rw [h, htimeless]
    exact ⟨⟨fun _ => ⟨hoff, t, rfl⟩, fun _ => rfl⟩, fun _ => rfl, nofun,
      fun hon => absurd hoff hon, offCalendar_ofSeconds_iff⟩
  · rw [h, htimeless]
    refine ⟨⟨nofun, fun hoff => absurd hoff.1 hon⟩, nofun, fun t' ht' => ?_, fun _ => ⟨rfl, rfl⟩,
      offCalendar_ofSeconds_iff⟩
    cases ht'
    rfl

/-- The demand for `pair` over whole seconds. -/
def pairFor (seconds : Nat) : Demand := { pairDemand with runtime := Duration.ofSeconds seconds }

theorem pairFor_timeless (seconds : Nat) :
    (silentBackend.reserve {} 0 (pairFor seconds).timeless ⟨⟨rack, none⟩, ()⟩).2 =
      .ok ⟨"r1", pairDuts, pairAtes, none⟩ :=
  congrArg Prod.snd
    (Pool.reserve_placed (d := (pairFor seconds).timeless) rfl (rack_place none) rfl)

theorem reserve_ends_unless_offCalendar_hour :
    ¬OffCalendar 0 (Duration.ofSeconds 3600) ∧
    (silentBackend.reserve {} 0 (pairFor 3600) ⟨⟨rack, none⟩, ()⟩).2 =
      .ok ⟨"r1", pairDuts, pairAtes, some (Duration.ofSeconds 3600)⟩ := by
  obtain ⟨-, -, -, hanswer, hseconds⟩ := reserve_ends_unless_offCalendar .unsupported
    noConsoles {} 0 (pairFor 3600) ⟨⟨rack, none⟩, ()⟩
  have hon : ¬OffCalendar 0 (Duration.ofSeconds 3600) := fun hoff =>
    absurd ((hseconds (by decide) 3600).mp hoff).2 (by decide)
  refine ⟨hon, (hanswer hon).2.trans ?_⟩
  show ((silentBackend.reserve {} 0 (pairFor 3600).timeless ⟨⟨rack, none⟩, ()⟩).2).map _ = _
  rw [pairFor_timeless]
  rfl

/-- **A reservation of ten million million seconds ends the program**, though the devices are
there. -/
theorem late_end_ends_program :
    (∃ t, (silentBackend.reserve {} 0 (pairFor 10000000000000).timeless ⟨⟨rack, none⟩, ()⟩).2 =
      .ok t) ∧
    silentBackend.reserve {} 0 (pairFor 10000000000000) ⟨⟨rack, none⟩, ()⟩ =
      (⟨⟨rack, none⟩, ()⟩, .aborted) := by
  have hoff : OffCalendar 0 (Duration.ofSeconds 10000000000000) :=
    (offCalendar_ofSeconds_iff (by decide) 10000000000000).mpr (by decide)
  have hpool : Pool.reserve ⟨rack, none⟩ false (pairFor 10000000000000) =
      (⟨rack, none⟩, .aborted) :=
    Pool.reserve_offCalendar rfl (rack_place none) hoff
  exact ⟨⟨_, pairFor_timeless 10000000000000⟩,
    congrArg (fun answer => ((⟨answer.1, ()⟩ : Stock Unit), answer.2)) hpool⟩

end SwitchTestbed
