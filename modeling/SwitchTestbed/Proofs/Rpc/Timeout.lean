import SwitchTestbed.Rpc.CallDefaults

/-!
# Timeouts that can be written

* `Encodes` : a text stands for a length of time, as closely as eight digits allow;
* `encodes_of_timeoutText?` : what is written does;
* `exists_timeoutText?`, `timeoutText?_overlong` : something is written up to 99999999 whole hours,
  and nothing above.
-/

namespace SwitchTestbed.Rpc

variable {d : Duration}

/-- A text stands for a length of time. It has at most eight digits and a unit, and falls short by
less than one of them; in no finer unit do eight digits suffice. -/
inductive Encodes (d : Duration) : String → Prop where
  | mk {u : TimeoutUnit} {digits : List Char} (unit : u ∈ timeoutUnits)
      (decimal : ∀ c ∈ digits, c.isDigit = true) (nonempty : digits ≠ [])
      (short : digits.length ≤ 8)
      (below : Nat.ofDigitChars 10 digits 0 * u.length ≤ d)
      (near : d < Nat.ofDigitChars 10 digits 0 * u.length + u.length)
      (finest : ∀ u' ∈ timeoutUnits, u'.length < u.length → 99999999 < d / u'.length) :
      Encodes d (String.ofList (digits ++ [u.letter]))

/-! ## Units -/

theorem timeoutUnit_length_pos {u : TimeoutUnit} (h : u ∈ timeoutUnits) : 0 < u.length := by
  have hall : ∀ u ∈ timeoutUnits, 0 < u.length := by decide
  exact hall u h

theorem timeoutUnit_length_le_hour {u : TimeoutUnit} (h : u ∈ timeoutUnits) :
    u.length ≤ Duration.hour := by
  have hall : ∀ u ∈ timeoutUnits, u.length ≤ Duration.hour := by decide
  exact hall u h

theorem timeoutUnits_sorted : timeoutUnits.Pairwise fun u u' => u.length < u'.length := by
  decide

/-- A unit is passed over only if eight digits do not suffice in it. -/
theorem timeoutUnit?_finest {u u' : TimeoutUnit} (h : timeoutUnit? d = some u)
    (hu' : u' ∈ timeoutUnits) (hfiner : u'.length < u.length) :
    maxTimeoutCount < d / u'.length := by
  obtain ⟨-, before, after, hsplit, hpassed⟩ := List.find?_eq_some_iff_append.mp h
  have hsorted := timeoutUnits_sorted
  rw [hsplit] at hu' hsorted
  obtain ⟨-, htail, -⟩ := List.pairwise_append.mp hsorted
  rcases List.mem_append.mp hu' with hu' | hu'
  · simpa using hpassed u' hu'
  · -- what stands behind is coarser
    rcases List.mem_cons.mp hu' with rfl | hu'
    · exact absurd hfiner (Nat.lt_irrefl _)
    · exact absurd hfiner (Nat.lt_asymm (List.rel_of_pairwise_cons htail hu'))

theorem timeoutUnit?_eq_none_iff :
    timeoutUnit? d = none ↔ maxTimeoutCount < d / Duration.hour := by
  rw [timeoutUnit?, List.find?_eq_none]
  constructor
  · intro h
    simpa using h ⟨'H', Duration.hour⟩ (by decide)
  · intro h u hu
    have hcoarser : d / Duration.hour ≤ d / u.length :=
      Nat.div_le_div_left (timeoutUnit_length_le_hour hu) (timeoutUnit_length_pos hu)
    simpa using Nat.lt_of_lt_of_le h hcoarser

/-! ## Texts -/

theorem encodes_of_timeoutText? {text : String} (h : timeoutText? d = some text) :
    Encodes d text := by
  obtain ⟨u, hunit, rfl⟩ := Option.map_eq_some_iff.mp h
  have hu : u ∈ timeoutUnits := List.mem_of_find?_eq_some hunit
  have hfits : d / u.length ≤ maxTimeoutCount := by
    have hfound := List.find?_some hunit
    simpa using hfound
  have hread : Nat.ofDigitChars 10 (Decimal.natDigits (d / u.length)) 0 = d / u.length :=
    Nat.ofDigitChars_ten_toDigits
  have hsplit : d / u.length * u.length + d % u.length = d := Nat.div_add_mod' d u.length
  have hrest : d % u.length < u.length := Nat.mod_lt d (timeoutUnit_length_pos hu)
  refine .mk hu ?_ Nat.toDigits_ne_nil ?_ ?_ ?_ fun u' hu' => timeoutUnit?_finest hunit hu'
  · exact fun c hc => Nat.isDigit_of_mem_toDigits (by decide) (by decide) hc
  · have hlength := Nat.length_toDigits_le_iff (n := d / u.length) (b := 10) (k := 8)
      (by decide) (by decide)
    exact hlength.mpr (Nat.lt_succ_iff.mpr hfits)
  · rw [hread]
    exact Nat.div_mul_le_self d u.length
  · rw [hread]
    calc d = d / u.length * u.length + d % u.length := hsplit.symm
      _ < d / u.length * u.length + u.length := Nat.add_lt_add_left hrest _

theorem exists_timeoutText? (h : d / Duration.hour ≤ 99999999) :
    ∃ text, timeoutText? d = some text := by
  cases hunit : timeoutUnit? d with
  | none => exact absurd (timeoutUnit?_eq_none_iff.mp hunit) (Nat.not_lt.mpr h)
  | some u => exact ⟨_, by rw [timeoutText?, hunit]; rfl⟩

theorem timeoutText?_overlong (h : 99999999 < d / Duration.hour) : timeoutText? d = none := by
  rw [timeoutText?, timeoutUnit?_eq_none_iff.mpr h]
  rfl

end SwitchTestbed.Rpc
