import SwitchTestbed.Proofs.Bytes
import SwitchTestbed.Wire.Value

/-!
# Fields are read as they are written

* `readVarint_varint` : a word is read back, whatever follows it;
* `takeDelimited_varint` : so are bytes behind their number;
* `Value.payload` : what a value is read as; `readRecord_encodeField` : a field is read back;
* `length_body_le` : the bytes of a value are no more than those of its field;
* `length_encodeFields` : the bytes of fields are counted without writing them.
-/

namespace SwitchTestbed.Wire

/-! ## Varints -/

theorem varint_ne_nil (n : Nat) : varint n ≠ [] := by
  rw [varint]
  split <;> exact List.cons_ne_nil _ _

/-- Each byte adds its group at its place. At the tenth place there is room for one bit, and no more
is left of a number of 64 bits. -/
theorem readVarintFrom_varint (n : Nat) : ∀ (place sum : Nat) (rest : List UInt8), place ≤ 9 →
    n * Nat.pow 128 place < UInt64.size → readVarintFrom place sum (varint n ++ rest) =
      some ((sum + n * Nat.pow 128 place).toUInt64, rest) := by
  induction n using Nat.strongRecOn with
  | ind n ih =>
    intro place sum rest hplace hsize
    have hlast : place = 9 → n < 2 := by
      rintro rfl
      have hpow : Nat.pow 128 9 = 9223372036854775808 := rfl
      rw [hpow, UInt64.size] at hsize
      omega
    rw [varint]
    split
    · rename_i hn
      have hbyte : n.toUInt8.toNat = n := by simp; omega
      have hlow : n.toUInt8 < 0x80 := UInt8.lt_iff_toNat_lt.mpr (by rw [hbyte]; exact hn)
      have hfits : ¬(place = 9 ∧ 2 ≤ n.toUInt8) := by
        rintro ⟨hp, hle⟩
        have hle := UInt8.le_iff_toNat_le.mp hle
        rw [hbyte] at hle
        exact absurd (hlast hp) (Nat.not_lt.mpr hle)
      rw [List.singleton_append, readVarintFrom, if_pos hlow, if_neg hfits, hbyte,
        Nat.mod_eq_of_lt hn]
    · rename_i hn
      have hbyte : (n % 128 + 128).toUInt8.toNat = n % 128 + 128 := by simp; omega
      have hhigh : ¬(n % 128 + 128).toUInt8 < 0x80 := by
        rw [UInt8.lt_iff_toNat_lt, hbyte]
        exact Nat.not_lt.mpr (Nat.le_add_left 128 _)
      have hnine : place ≠ 9 := fun hp => absurd (hlast hp) (by omega)
      have hstep : n % 128 * Nat.pow 128 place + n / 128 * Nat.pow 128 (place + 1) =
          n * Nat.pow 128 place := by
        have hpow : Nat.pow 128 (place + 1) = 128 * Nat.pow 128 place := Nat.mul_comm _ _
        rw [hpow, ← Nat.mul_assoc, ← Nat.add_mul, Nat.mul_comm (n / 128), Nat.mod_add_div]
      rw [List.cons_append, readVarintFrom, if_neg hhigh, if_neg hnine, hbyte,
        ih (n / 128) (by omega) (place + 1) _ rest (by omega) (by omega), Nat.add_mod_right,
        Nat.mod_mod, Nat.add_assoc, hstep]

theorem readVarint_varint {n : Nat} (h : n < UInt64.size) (rest : List UInt8) :
    readVarint (varint n ++ rest) = some (n.toUInt64, rest) := by
  have hone : Nat.pow 128 0 = 1 := rfl
  rw [readVarint, readVarintFrom_varint n 0 0 rest (by omega) (by rwa [hone, Nat.mul_one]), hone,
    Nat.mul_one, Nat.zero_add]

theorem readVarint_toNat (n : UInt64) (rest : List UInt8) :
    readVarint (varint n.toNat ++ rest) = some (n, rest) := by
  rw [readVarint_varint n.toNat_lt rest, Nat.toUInt64, UInt64.ofNat_toNat]

/-! ## Words and bytes -/

theorem takeBytes_append (b rest : List UInt8) :
    takeBytes b.length (b ++ rest) = some (b, rest) := by
  rw [takeBytes, if_pos (by simp), List.splitAt_eq, List.take_left, List.drop_left]

theorem takeDelimited_varint {b : List UInt8} (h : b.length < UInt64.size) (rest : List UInt8) :
    takeDelimited (varint b.length ++ (b ++ rest)) = some (b, rest) := by
  have hlength : b.length.toUInt64.toNat = b.length := by
    simp only [Nat.toUInt64, UInt64.toNat_ofNat']
    exact Nat.mod_eq_of_lt h
  simp only [takeDelimited, readVarint_varint h, Option.bind_eq_bind, Option.bind_some, hlength,
    takeBytes_append]

theorem wordOf_littleEndian (n : UInt64) : wordOf (littleEndian n) = n := by
  have hbyte : ∀ k, (n.toNat / Nat.pow 256 k % 256).toUInt8.toNat = n.toNat / Nat.pow 256 k % 256 :=
    fun k => by simp
  have hlt := n.toNat_lt
  rw [wordOf]
  refine UInt64.toNat_inj.mp ?_
  simp only [littleEndian, List.range_succ, List.range_zero, List.nil_append, List.map_append,
    List.map_cons, List.map_nil, List.foldr_append, List.foldr_cons, List.foldr_nil, hbyte]
  simp only [show Nat.pow 256 0 = 1 from rfl, show Nat.pow 256 1 = 256 from rfl,
    show Nat.pow 256 2 = 65536 from rfl, show Nat.pow 256 3 = 16777216 from rfl,
    show Nat.pow 256 4 = 4294967296 from rfl, show Nat.pow 256 5 = 1099511627776 from rfl,
    show Nat.pow 256 6 = 281474976710656 from rfl, show Nat.pow 256 7 = 72057594037927936 from rfl]
  simp
  omega

theorem length_littleEndian (n : UInt64) : (littleEndian n).length = 8 := by simp [littleEndian]

/-! ## Fields -/

namespace Value

/-- How a value is delimited. -/
def wireType : Value → Nat
  | .varint _ => wireVarint
  | .fixed64 _ => wireFixed64
  | .bytes _ => wireBytes
  | .message _ => wireBytes

/-- What a value is read as. -/
def payload : Value → Payload
  | .varint n => .varint n
  | .fixed64 n => .fixed64 n
  | .bytes b => .bytes b.toList
  | .message fs => .bytes (encodeFields fs)

/-- What follows the key of a value. -/
def body : Value → List UInt8
  | .varint n => Wire.varint n.toNat
  | .fixed64 n => littleEndian n
  | .bytes b => Wire.varint b.size ++ b.toList
  | .message fs => Wire.varint (encodeFields fs).length ++ encodeFields fs

theorem wireType_le (v : Value) : v.wireType ≤ wireBytes := by
  cases v <;> simp [wireType, wireVarint, wireFixed64, wireBytes]

end Value

theorem encodeField_eq (number : Nat) (v : Value) :
    encodeField number v = varint (fieldKey number v.wireType) ++ v.body := by
  cases v <;> simp only [encodeField, Value.wireType, Value.body, List.append_assoc]

theorem readKey_varint {number wireType : Nat} (hpos : 0 < number)
    (hkey : fieldKey number wireBytes < 0x100000000) (htype : wireType ≤ wireBytes)
    (rest : List UInt8) :
    readKey (varint (fieldKey number wireType) ++ rest) = some (number, wireType, rest) := by
  simp only [fieldKey, wireBytes] at hkey htype ⊢
  have hword : (number * 8 + wireType).toUInt64.toNat = number * 8 + wireType := by
    simp only [Nat.toUInt64, UInt64.toNat_ofNat']
    omega
  have hfits : number * 8 + wireType < 0x100000000 ∧ (number * 8 + wireType) / 8 ≠ 0 := by omega
  rw [readKey, readVarint_varint (by rw [UInt64.size]; omega)]
  simp only [Option.bind_eq_bind, Option.bind_some, hword, if_pos hfits]
  congr 3 <;> omega

/-- A value that is written as its length and as many bytes. -/
theorem Value.body_of_wireBytes {v : Value} (h : v.wireType = wireBytes) :
    ∃ b, v.payload = .bytes b ∧ v.body = Wire.varint b.length ++ b := by
  cases v with
  | varint _ => cases h
  | fixed64 _ => cases h
  | bytes b => exact ⟨b.toList, rfl, by rw [body, Bytes.length_toList]⟩
  | message fs => exact ⟨encodeFields fs, rfl, rfl⟩

/-- A field is read back, whatever follows it, if the number has a key of 32 bits and the length a
word. -/
theorem readRecord_encodeField {delimited : Nat → Bool} {number : Nat} {v : Value} (depth : Nat)
    (hpos : 0 < number) (hkey : fieldKey number wireBytes < 0x100000000)
    (hbytes : delimited number → v.wireType = wireBytes)
    (hsize : v.body.length < UInt64.size) (rest : List UInt8) :
    readRecord delimited depth (encodeField number v ++ rest) =
      some (⟨number, v.payload⟩, rest) := by
  have hread := readKey_varint hpos hkey v.wireType_le (v.body ++ rest)
  rw [← List.append_assoc, ← encodeField_eq] at hread
  simp only [readRecord, hread, Option.bind_eq_bind, Option.bind_some]
  by_cases htype : v.wireType = wireBytes
  · obtain ⟨b, hpayload, hbody⟩ := Value.body_of_wireBytes htype
    have htake : takeDelimited (v.body ++ rest) = some (b, rest) := by
      rw [hbody, List.length_append] at hsize
      rw [hbody, List.append_assoc]
      exact takeDelimited_varint (by omega) rest
    simp only [htype, htake, hpayload, Option.bind_some]
    split <;> rfl
  · have hfree : ¬(delimited number = true ∧ v.wireType ≤ wireFixed32) :=
      fun h => htype (hbytes h.1)
    rw [if_neg hfree]
    cases v with
    | varint n =>
      simp only [Value.wireType, Value.body, Value.payload, if_true, readVarint_toNat,
        Option.bind_some]
    | fixed64 n =>
      have htake := takeBytes_append (littleEndian n) rest
      rw [length_littleEndian] at htake
      simp only [Value.wireType, Value.body, Value.payload, htake, Option.bind_some,
        wordOf_littleEndian]
      rfl
    | bytes b => exact absurd rfl htype
    | message fs => exact absurd rfl htype

/-! ## Lengths -/

theorem length_body_le (number : Nat) (v : Value) :
    v.body.length ≤ (encodeField number v).length := by
  rw [encodeField_eq, List.length_append]
  exact Nat.le_add_left _ _

theorem encodeField_ne_nil (number : Nat) (v : Value) : encodeField number v ≠ [] := by
  rw [encodeField_eq]
  exact List.append_ne_nil_of_left_ne_nil (varint_ne_nil _) _

theorem length_varint (n : Nat) : (varint n).length = varintSize n := by
  induction n using varint.induct with
  | case1 n hn => rw [varint, varintSize, if_pos hn, if_pos hn, List.length_singleton]
  | case2 n hn ih =>
    rw [varint, varintSize, if_neg hn, if_neg hn, List.length_cons, ih, Nat.add_comm]

mutual

theorem length_encodeField (number : Nat) :
    (v : Value) → (encodeField number v).length = sizeField number v
  | .varint n => by simp [encodeField, sizeField, length_varint]
  | .fixed64 n => by simp [encodeField, sizeField, length_varint, length_littleEndian]
  | .bytes b => by simp [encodeField, sizeField, length_varint]
  | .message fs => by
    simp [encodeField, sizeField, length_varint, length_encodeFields fs]

theorem length_encodeFields :
    (fs : List (Nat × Value)) → (encodeFields fs).length = sizeFields fs
  | [] => by rw [encodeFields, sizeFields, List.length_nil]
  | (number, v) :: rest => by
    rw [encodeFields, sizeFields, List.length_append, length_encodeField number v,
      length_encodeFields rest]

end

end SwitchTestbed.Wire
