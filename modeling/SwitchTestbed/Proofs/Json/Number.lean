import SwitchTestbed.Proofs.Json.Text

/-!
# Integers are read as they are written

* `exists_isDecimal` : the digits of a natural, of which only zero begins with a zero;
* `EndsNumber` : what follows a number does not go on with it;
* `scan_natDigits`, `value_nonnegative`, `value_negative` : the digits of an integer are read back,
  and stand for it if it fits 64 bits.
-/

namespace SwitchTestbed.Json

/-! ## Digits -/

/-- Values of the digits with which a natural is written. -/
structure IsDecimal (n : Nat) (ds : List Nat) : Prop where
  bytes : bytesOf (Decimal.natDigits n) = ds.map fun d => UInt8.ofNat (0x30 + d)
  small : ∀ d ∈ ds, d < 10
  value : natOfDigits 10 ds = n
  leading : ds = [0] ∨ ∃ d rest, ds = d :: rest ∧ d ≠ 0

theorem utf8EncodeChar_digitChar : ∀ d : Fin 10,
    String.utf8EncodeChar d.val.digitChar = [UInt8.ofNat (0x30 + d.val)] := by
  decide

theorem byteDigit?_ofNat : ∀ d : Fin 10, byteDigit? (UInt8.ofNat (0x30 + d.val)) = some d.val := by
  decide

theorem exists_isDecimal (n : Nat) : ∃ ds, IsDecimal n ds := by
  induction n using Nat.strongRecOn with
  | ind n ih =>
    by_cases hn : n < 10
    · refine ⟨[n], ?_, by simpa using hn, by simp [natOfDigits], ?_⟩
      · rw [Decimal.natDigits, Nat.toDigits_of_lt_base hn, bytesOf_cons,
          utf8EncodeChar_digitChar ⟨n, hn⟩]
        rfl
      · by_cases hzero : n = 0
        · exact .inl (by rw [hzero])
        · exact .inr ⟨n, [], rfl, hzero⟩
    · obtain ⟨ds, hds⟩ := ih (n / 10) (by omega)
      have hlast : n % 10 < 10 := Nat.mod_lt n (by decide)
      refine ⟨ds ++ [n % 10], ?_, ?_, ?_, ?_⟩
      · rw [Decimal.natDigits, Nat.toDigits_of_base_le (by decide) (by omega), bytesOf_append,
          ← Decimal.natDigits, hds.bytes, bytesOf_cons, utf8EncodeChar_digitChar ⟨n % 10, hlast⟩,
          List.map_append]
        rfl
      · intro d hd
        rcases List.mem_append.mp hd with hd | hd
        · exact hds.small d hd
        · rw [List.mem_singleton.mp hd]
          exact hlast
      · rw [natOfDigits_concat, hds.value]
        omega
      · rcases hds.leading with rfl | ⟨d, rest, rfl, hd⟩
        · -- the natural would be below ten
          have hvalue := hds.value
          simp only [natOfDigits, List.foldl_cons, List.foldl_nil] at hvalue
          omega
        · exact .inr ⟨d, rest ++ [n % 10], List.cons_append, hd⟩

/-! ## Numbers as they are written -/

/-- What follows a number does not go on with it. -/
def EndsNumber (s : List UInt8) : Prop :=
  ∀ b ∈ s.head?, byteDigit? b = none ∧ b ≠ 0x2e ∧ b ≠ 0x65 ∧ b ≠ 0x45

theorem scanDigits_map {ds : List Nat} (hds : ∀ d ∈ ds, d < 10) {rest : List UInt8}
    (hrest : EndsNumber rest) :
    scanDigits ((ds.map fun d => UInt8.ofNat (0x30 + d)) ++ rest) = (ds, rest) := by
  induction ds with
  | nil =>
    cases rest with
    | nil => rfl
    | cons b rest =>
      rw [List.map_nil, List.nil_append, scanDigits, (hrest b rfl).1]
  | cons d ds ih =>
    obtain ⟨hd, hds⟩ := List.forall_mem_cons.mp hds
    rw [List.map_cons, List.cons_append, scanDigits, byteDigit?_ofNat ⟨d, hd⟩, ih hds]

theorem scanFraction_of_endsNumber {s : List UInt8} (h : EndsNumber s) :
    scanFraction s = .ok ([], s) := by
  unfold scanFraction
  split
  · exact absurd rfl (h _ rfl).2.1
  · rfl

theorem scanExponent_of_endsNumber {s : List UInt8} (h : EndsNumber s) :
    scanExponent s = .ok (none, s) := by
  unfold scanExponent
  split
  · rename_i b rest
    obtain ⟨-, -, hlower, hupper⟩ := h b rfl
    rw [if_neg (not_or.mpr ⟨hlower, hupper⟩)]
  · rfl

theorem scanInteger_natDigits {n : Nat} {ds : List Nat} (hds : IsDecimal n ds) {rest : List UInt8}
    (hrest : EndsNumber rest) :
    scanInteger (bytesOf (Decimal.natDigits n) ++ rest) = .ok (ds, rest) := by
  have hscan := scanDigits_map hds.small hrest
  rw [← hds.bytes] at hscan
  have hone : scanDigits1 (bytesOf (Decimal.natDigits n) ++ rest) = .ok (ds, rest) := by
    rw [scanDigits1, hscan]
    rcases hds.leading with rfl | ⟨d, rest, rfl, -⟩ <;> rfl
  rw [scanInteger, hone]
  rcases hds.leading with rfl | ⟨d, ds, rfl, hd⟩
  · rfl
  · obtain ⟨d, rfl⟩ := Nat.exists_eq_succ_of_ne_zero hd
    rfl

theorem scan_natDigits (negative : Bool) {n : Nat} {ds : List Nat} (hds : IsDecimal n ds)
    {rest : List UInt8} (hrest : EndsNumber rest) :
    Numeral.scan negative (bytesOf (Decimal.natDigits n) ++ rest) =
      .ok (⟨negative, ds, [], none⟩, rest) := by
  rw [Numeral.scan, scanInteger_natDigits hds hrest]
  show (scanFraction rest).bind _ = _
  rw [scanFraction_of_endsNumber hrest]
  show (scanExponent rest).bind _ = _
  rw [scanExponent_of_endsNumber hrest]
  rfl

/-! ## Their values -/

theorem value_nonnegative {n : Nat} {ds : List Nat} (hds : IsDecimal n ds) (hn : n ≤ maxUInt64) :
    (⟨false, ds, [], none⟩ : Numeral).value = .ok (.int n) := by
  simp [Numeral.value, hds.value, hn]
  rfl

theorem value_negative {n : Nat} {ds : List Nat} (hds : IsDecimal n ds) (hzero : n ≠ 0)
    (hn : n ≤ 0x8000000000000000) :
    (⟨true, ds, [], none⟩ : Numeral).value = .ok (.int (-(n : Int))) := by
  simp [Numeral.value, hds.value, hzero, hn]
  rfl

end SwitchTestbed.Json
