import Mathlib.Tactic.SplitIfs
import SwitchTestbed.Data.StringMap

/-!
# Bytes of texts

* `Bytes.toList_eq`, `Bytes.toByteArray_toList`, `Bytes.toList_toByteArray` : byte arrays and the
  lists of their bytes;
* `Bytes.fromUTF8?_toUTF8` : a text is read back from its bytes;
* `Bytes.toList_toUTF8` : the bytes of a text are those of its characters;
* `Text.utf8EncodeChar_lt` : of two characters the smaller one has the smaller bytes, whatever
  follows;
* `Text.lt_iff_bytes_lt` : texts stand in the order of their bytes.
-/

namespace SwitchTestbed.Bytes

theorem toList_loop (b : ByteArray) (i : Nat) (acc : List UInt8) :
    ByteArray.toList.loop b i acc = acc.reverse ++ b.data.toList.drop i := by
  fun_induction ByteArray.toList.loop b i acc with
  | case1 i acc hi ih =>
    have hget : b.data.toList.drop i = b.get! i :: b.data.toList.drop (i + 1) := by
      rw [List.drop_eq_getElem_cons (by simpa using hi)]
      congr 1
      simp [ByteArray.get!, getElem!_pos b.data i hi]
    rw [ih, hget, List.reverse_cons, List.append_assoc, List.singleton_append]
  | case2 i acc hi =>
    rw [List.drop_of_length_le (by simpa using Nat.not_lt.mp hi), List.append_nil]

theorem toList_eq (b : ByteArray) : b.toList = b.data.toList := by
  rw [ByteArray.toList, toList_loop, List.reverse_nil, List.nil_append, List.drop_zero]

@[simp] theorem toByteArray_toList (b : ByteArray) : b.toList.toByteArray = b := by
  rw [toList_eq]
  ext1
  rw [List.data_toByteArray, Array.toArray_toList]

@[simp] theorem toList_toByteArray (bs : List UInt8) : bs.toByteArray.toList = bs := by
  rw [toList_eq, List.data_toByteArray, List.toList_toArray]

@[simp] theorem length_toList (b : ByteArray) : b.toList.length = b.size := by
  rw [toList_eq, Array.length_toList]
  rfl

@[simp] theorem fromUTF8?_toUTF8 (s : String) : String.fromUTF8? s.toUTF8 = some s :=
  dif_pos s.isValidUTF8

theorem toList_toUTF8 (s : String) : s.toUTF8.toList = s.toList.flatMap String.utf8EncodeChar := by
  rw [String.toUTF8_eq_toByteArray, ← String.utf8Encode_toList, List.utf8Encode, toList_toByteArray]

end SwitchTestbed.Bytes

namespace SwitchTestbed.Text

/-! ## The order of texts -/

theorem byte_cons_lt_iff {a b : Nat} (ha : a < 256) (hb : b < 256) {xs ys : List UInt8} :
    UInt8.ofNat a :: xs < UInt8.ofNat b :: ys ↔ a < b ∨ a = b ∧ xs < ys := by
  have hlt : UInt8.ofNat a < UInt8.ofNat b ↔ a < b := by
    rw [UInt8.lt_iff_toNat_lt, UInt8.toNat_ofNat_of_lt' ha, UInt8.toNat_ofNat_of_lt' hb]
  have heq : UInt8.ofNat a = UInt8.ofNat b ↔ a = b := by
    rw [← UInt8.toNat_inj, UInt8.toNat_ofNat_of_lt' ha, UInt8.toNat_ofNat_of_lt' hb]
  rw [List.cons_lt_cons_iff, hlt, heq]

theorem utf8EncodeChar_lt {c d : Char} (h : c < d) (xs ys : List UInt8) :
    String.utf8EncodeChar c ++ xs < String.utf8EncodeChar d ++ ys := by
  have hlt : c.val.toNat < d.val.toNat := h
  have hmax : d.val.toNat < 0x110000 := by
    have hvalid := d.valid
    unfold UInt32.isValidChar Nat.isValidChar at hvalid
    omega
  unfold String.utf8EncodeChar
  generalize c.val.toNat = v, d.val.toNat = w at *
  -- the bytes hold the digits of the code points to the base 64
  have hdigits : ∀ n < 0x110000, n / 4096 = n / 64 / 64 ∧ n / 262144 % 8 = n / 64 / 64 / 64 := by
    omega
  obtain ⟨hv, hv'⟩ := hdigits v (Nat.lt_trans hlt hmax)
  obtain ⟨hw, hw'⟩ := hdigits w hmax
  dsimp only
  rw [hv, hv', hw, hw']
  split_ifs <;> simp (disch := omega) only [List.cons_append, List.nil_append, byte_cons_lt_iff] <;>
    omega

theorem flatMap_utf8EncodeChar_lt {cs ds : List Char} (h : cs < ds) :
    cs.flatMap String.utf8EncodeChar < ds.flatMap String.utf8EncodeChar := by
  induction cs generalizing ds with
  | nil =>
    cases ds with
    | nil => exact absurd h (List.lt_irrefl [])
    | cons d ds =>
      rw [List.flatMap_nil, List.flatMap_cons]
      cases hbytes : String.utf8EncodeChar d with
      | nil => exact absurd hbytes String.utf8EncodeChar_ne_nil
      | cons b bs => exact List.nil_lt_cons b _
  | cons c cs ih =>
    cases ds with
    | nil => exact absurd h (List.not_lt_nil _)
    | cons d ds =>
      rw [List.flatMap_cons, List.flatMap_cons]
      rcases List.cons_lt_cons_iff.mp h with hlt | ⟨rfl, hlt⟩
      · exact utf8EncodeChar_lt hlt _ _
      · exact List.append_left_lt (ih hlt)

theorem toUTF8_lt {s t : String} (h : s < t) : s.toUTF8.toList < t.toUTF8.toList := by
  rw [Bytes.toList_toUTF8, Bytes.toList_toUTF8]
  exact flatMap_utf8EncodeChar_lt h

/-- **Texts stand in the order of their bytes.** -/
theorem lt_iff_bytes_lt {s t : String} : s < t ↔ s.toUTF8.toList < t.toUTF8.toList := by
  refine ⟨toUTF8_lt, fun h => ?_⟩
  by_cases hlt : s < t
  · exact hlt
  by_cases heq : s = t
  · subst heq
    exact absurd h (List.lt_irrefl _)
  · exact absurd h (List.lt_asymm (toUTF8_lt (key_lt_of_not_lt hlt heq)))

end SwitchTestbed.Text
