import SwitchTestbed.Json.Printer
import SwitchTestbed.Json.Reader
import SwitchTestbed.Proofs.Bytes

/-!
# Strings are read as they are written

* `bytesOf` : the bytes of characters;
* `readText_escape` : a character is read back from however it stands in a string;
* `readString_string` : a string is read back, whatever follows it.
-/

namespace SwitchTestbed.Json

/-! ## Bytes of characters -/

/-- The bytes of characters. -/
def bytesOf (cs : List Char) : List UInt8 := cs.flatMap String.utf8EncodeChar

@[simp] theorem bytesOf_nil : bytesOf [] = [] := rfl

@[simp] theorem bytesOf_cons (c : Char) (cs : List Char) :
    bytesOf (c :: cs) = String.utf8EncodeChar c ++ bytesOf cs := rfl

@[simp] theorem bytesOf_append (cs ds : List Char) : bytesOf (cs ++ ds) = bytesOf cs ++ bytesOf ds :=
  List.flatMap_append

theorem bytesOf_toList (s : String) : bytesOf s.toList = s.toUTF8.toList :=
  (Bytes.toList_toUTF8 s).symm

theorem text_bytesOf (s : String) : text (bytesOf s.toList) = .ok s := by
  rw [bytesOf_toList, text, Bytes.toByteArray_toList, Bytes.fromUTF8?_toUTF8]

/-! ## Characters in strings -/

/-- A byte that stands for itself in a string. -/
structure IsRaw (b : UInt8) : Prop where
  notQuote : b ≠ 0x22
  notBackslash : b ≠ 0x5c
  notControl : ¬b < 0x20

theorem readText_cons_raw {b : UInt8} (hb : IsRaw b) (acc rest : List UInt8) :
    readText acc (b :: rest) = readText (b :: acc) rest := by
  rw [readText.eq_def]
  simp only [if_neg hb.notQuote, if_neg hb.notBackslash, if_neg hb.notControl]

theorem readText_raw {bs : List UInt8} (h : ∀ b ∈ bs, IsRaw b) (acc rest : List UInt8) :
    readText acc (bs ++ rest) = readText (bs.reverse ++ acc) rest := by
  induction bs generalizing acc with
  | nil => rfl
  | cons b bs ih =>
    obtain ⟨hb, hbs⟩ := List.forall_mem_cons.mp h
    rw [List.cons_append, readText_cons_raw hb, ih hbs, List.reverse_cons, List.append_assoc,
      List.singleton_append]

theorem readText_quote (acc rest : List UInt8) :
    readText acc (0x22 :: rest) = .ok (acc.reverse, rest) := by
  rw [readText.eq_def]
  simp

theorem readText_simple {e b : UInt8} (he : e ≠ 0x75) (h : simpleEscape? e = some b)
    (acc rest : List UInt8) : readText acc (0x5c :: e :: rest) = readText (b :: acc) rest := by
  rw [readText.eq_def]
  simp [he, h]

theorem readText_unicode {h₁ h₂ h₃ h₄ : UInt8} {n : Nat} (h : hex4? h₁ h₂ h₃ h₄ = some n)
    (hlow : isLowSurrogate n = false) (hhigh : isHighSurrogate n = false) (acc rest : List UInt8) :
    readText acc (0x5c :: 0x75 :: h₁ :: h₂ :: h₃ :: h₄ :: rest) =
      readText (encodedRev n ++ acc) rest := by
  rw [readText.eq_def]
  simp [h, hlow, hhigh]

theorem isRaw_ofNat {n : Nat} (hsize : n < 256) (hquote : n ≠ 0x22) (hbackslash : n ≠ 0x5c)
    (hcontrol : 0x20 ≤ n) : IsRaw (UInt8.ofNat n) := by
  have hn : (UInt8.ofNat n).toNat = n := by
    rw [UInt8.toNat_ofNat']
    exact Nat.mod_eq_of_lt hsize
  refine ⟨?_, ?_, ?_⟩
  · rwa [Ne, ← UInt8.toNat_inj, hn]
  · rwa [Ne, ← UInt8.toNat_inj, hn]
  · rw [UInt8.lt_iff_toNat_lt, hn]
    exact Nat.not_lt.mpr hcontrol

/-- The bytes of a character beyond ASCII are beyond ASCII. -/
theorem isRaw_of_mem_utf8EncodeChar {c : Char} (hquote : c ≠ '"') (hbackslash : c ≠ '\\')
    (hcontrol : ¬c.toNat < 0x20) {b : UInt8} (hb : b ∈ String.utf8EncodeChar c) : IsRaw b := by
  have hquote : c.toNat ≠ 0x22 := fun h => hquote (Char.toNat_inj.mp h)
  have hbackslash : c.toNat ≠ 0x5c := fun h => hbackslash (Char.toNat_inj.mp h)
  have hval : c.val.toNat = c.toNat := rfl
  simp only [String.utf8EncodeChar, hval] at hb
  split at hb
  · rw [List.mem_singleton] at hb
    rw [hb]
    exact isRaw_ofNat (by omega) hquote hbackslash (by omega)
  · split at hb
    · simp only [List.mem_cons, List.not_mem_nil, or_false] at hb
      rcases hb with rfl | rfl <;> exact isRaw_ofNat (by omega) (by omega) (by omega) (by omega)
    · split at hb <;> simp only [List.mem_cons, List.not_mem_nil, or_false] at hb
      · rcases hb with rfl | rfl | rfl <;>
          exact isRaw_ofNat (by omega) (by omega) (by omega) (by omega)
      · rcases hb with rfl | rfl | rfl | rfl <;>
          exact isRaw_ofNat (by omega) (by omega) (by omega) (by omega)

/-- The two digits of a control are read as its number. -/
theorem hex4?_hex2 : ∀ n : Fin 32, (match bytesOf (hex2 n) with
    | [h₁, h₂] => hex4? 0x30 0x30 h₁ h₂
    | _ => none) = some n.val := by
  decide

theorem readText_control {c : Char} (h : c.toNat < 0x20) (acc rest : List UInt8) :
    readText acc (0x5c :: 0x75 :: 0x30 :: 0x30 :: (bytesOf (hex2 c.toNat) ++ rest)) =
      readText ((String.utf8EncodeChar c).reverse ++ acc) rest := by
  have hdigits := hex4?_hex2 ⟨c.toNat, h⟩
  split at hdigits
  · rename_i h₁ h₂ hbytes
    have hlow : isLowSurrogate c.toNat = false := by simp [isLowSurrogate]; omega
    have hhigh : isHighSurrogate c.toNat = false := by simp [isHighSurrogate]; omega
    have hchar : encodedRev c.toNat = (String.utf8EncodeChar c).reverse := by
      rw [encodedRev, Char.ofNat_toNat]
    rw [show bytesOf (hex2 c.toNat) = [h₁, h₂] from hbytes, ← hchar]
    exact readText_unicode hdigits hlow hhigh acc rest
  · cases hdigits

/-- **A character is read back from how it stands in a string.** -/
theorem readText_escape (c : Char) (acc rest : List UInt8) :
    readText acc (bytesOf (escape c) ++ rest) =
      readText ((String.utf8EncodeChar c).reverse ++ acc) rest := by
  unfold escape
  -- the quote, the backslash and five controls have letters of their own
  iterate 7
    split
    · rename_i hc
      subst hc
      exact readText_simple (by decide) rfl acc rest
  split
  · rename_i hc
    rw [bytesOf_append, List.append_assoc]
    exact readText_control hc acc rest
  · rename_i hquote hbackslash _ _ _ _ _ hcontrol
    rw [bytesOf_cons, bytesOf_nil, List.append_nil]
    exact readText_raw (fun _ => isRaw_of_mem_utf8EncodeChar hquote hbackslash hcontrol) acc rest

theorem readText_flatMap_escape (cs : List Char) (acc rest : List UInt8) :
    readText acc (bytesOf (cs.flatMap escape) ++ rest) =
      readText ((bytesOf cs).reverse ++ acc) rest := by
  induction cs generalizing acc with
  | nil => rfl
  | cons c cs ih =>
    rw [List.flatMap_cons, bytesOf_append, List.append_assoc, readText_escape, ih, bytesOf_cons,
      List.reverse_append, List.append_assoc]

/-! ## Strings -/

theorem bytesOf_string (s : String) :
    bytesOf (string s) = 0x22 :: (bytesOf (s.toList.flatMap escape) ++ [0x22]) := by
  rw [string, bytesOf_append]
  rfl

/-- **A string is read back**, whatever follows it. -/
theorem readString_string (s : String) (rest : List UInt8) :
    readString (bytesOf (s.toList.flatMap escape) ++ 0x22 :: rest) = .ok (s, rest) := by
  rw [readString, readText_flatMap_escape, readText_quote, List.append_nil, List.reverse_reverse]
  show (text (bytesOf s.toList)).bind _ = _
  rw [text_bytesOf]
  rfl

end SwitchTestbed.Json
