import SwitchTestbed.Proofs.Json.Number

/-!
# Documents are read as they are written

* `Doc.Integral` : all numbers are integers of 64 bits;
* `Doc.asRead` : what a document is read as. Of members with one name the last stays, members are
  ordered by name, and a date is text;
* `parse_render` : such a document is read back exactly if it is not too deep.

Values, elements and members are read by recursion on the document. The fuel that a part needs is
three steps for each of its bytes, and each step takes at least one byte away.
-/

namespace SwitchTestbed

/-! ## Documents of integers -/

namespace Doc

mutual

/-- Every number is an integer that fits 64 bits, with a sign or without. -/
def Integral : Doc → Prop
  | int i => -0x8000000000000000 ≤ i ∧ i ≤ 0xffffffffffffffff
  | float _ => False
  | seq es => IntegralElements es
  | map ms => IntegralMembers ms
  | _ => True

/-- The same for all elements of a sequence. -/
def IntegralElements : List Doc → Prop
  | [] => True
  | d :: es => d.Integral ∧ IntegralElements es

/-- The same for all members of a map. -/
def IntegralMembers : List (String × Doc) → Prop
  | [] => True
  | (_, d) :: ms => d.Integral ∧ IntegralMembers ms

end

mutual

/-- What a document is read as. -/
def asRead : Doc → Doc
  | null => .null
  | bool b => .bool b
  | int i => .int i
  | float x => .float x
  | text s => .text s
  | seq es => .seq (elementsAsRead es)
  | map ms => .map (membersAsRead [] ms)
  | dateTime s => .text s

/-- What the elements of a sequence are read as. -/
def elementsAsRead : List Doc → List Doc
  | [] => []
  | d :: es => d.asRead :: elementsAsRead es

/-- What the members of a map are read as behind those that have been read. -/
def membersAsRead (acc : List (String × Doc)) : List (String × Doc) → List (String × Doc)
  | [] => acc
  | (k, d) :: ms => membersAsRead (insertEntry k d.asRead acc) ms

end

end Doc

namespace Json

/-! ## Readings of a depth -/

/-- A value that is `depth` levels deep, of which `limit` are allowed. -/
def upTo {α : Type} (limit depth : Nat) (a : α) : Except JsonError α :=
  if depth ≤ limit then .ok a else .error .tooDeep

theorem upTo_eq_ok_iff {α : Type} {limit depth : Nat} {a b : α} :
    upTo limit depth a = .ok b ↔ depth ≤ limit ∧ b = a := by
  unfold upTo
  split <;> simp [*, eq_comm]

theorem upTo_zero {α : Type} (limit : Nat) (a : α) : upTo limit 0 a = .ok a :=
  if_pos (Nat.zero_le _)

theorem upTo_zero_succ {α : Type} (depth : Nat) (a : α) : upTo 0 (depth + 1) a = .error .tooDeep :=
  if_neg (Nat.not_succ_le_zero depth)

theorem upTo_bind {α β : Type} {limit m : Nat} {a : α} {b : β} {f : α → Except JsonError β}
    (h : f a = upTo limit m b) (n : Nat) : (upTo limit n a >>= f) = upTo limit (max n m) b := by
  by_cases hn : n ≤ limit
  · rw [show upTo limit n a = .ok a from if_pos hn]
    refine h.trans ?_
    simp only [upTo, Nat.max_le, hn, true_and]
  · rw [show upTo limit n a = .error .tooDeep from if_neg hn]
    simp only [upTo, Nat.max_le, hn, false_and, if_false]
    rfl

theorem upTo_map {α β : Type} (limit n : Nat) (a : α) (f : α → β) :
    f <$> upTo limit n a = upTo limit n (f a) := by
  unfold upTo
  split <;> rfl

theorem upTo_succ {α : Type} (limit n : Nat) (a : α) :
    upTo (limit + 1) (n + 1) a = upTo limit n a := by
  simp only [upTo, Nat.add_le_add_iff_right]

/-! ## White space -/

theorem skipBlank_newline (level : Nat) (s : List UInt8) :
    skipBlank (bytesOf (newline level) ++ s) = skipBlank s := by
  refine List.dropWhile_append_of_pos fun b hb => ?_
  obtain ⟨c, hc, hb⟩ := List.mem_flatMap.mp hb
  rcases List.mem_cons.mp hc with rfl | hc
  · rw [List.mem_singleton.mp (show b ∈ [0x0a] from hb)]
    rfl
  · rw [List.eq_of_mem_replicate hc] at hb
    rw [List.mem_singleton.mp (show b ∈ [0x20] from hb)]
    rfl

theorem skipBlank_space (s : List UInt8) : skipBlank (0x20 :: s) = skipBlank s := rfl

theorem skipBlank_cons {b : UInt8} (hb : isBlank b = false) (s : List UInt8) :
    skipBlank (b :: s) = b :: s := by
  rw [skipBlank, List.dropWhile_cons_of_neg (by simp [hb])]

/-- White space in front of a value does not matter. -/
theorem readValue_congr {s t : List UInt8} (h : skipBlank s = skipBlank t) (fuel depth : Nat) :
    readValue fuel depth s = readValue fuel depth t := by
  cases fuel with
  | zero => rw [readValue, readValue]
  | succ fuel => rw [readValue, readValue, h]

/-! ## Scalars -/

theorem readValue_null (fuel depth : Nat) (rest : List UInt8) :
    readValue (fuel + 1) depth (bytesOf "null".toList ++ rest) = .ok (.null, rest) := by
  have hbytes : bytesOf "null".toList = [0x6e, 0x75, 0x6c, 0x6c] := by decide
  rw [hbytes, List.cons_append, readValue, skipBlank_cons rfl]
  rfl

theorem readValue_bool (b : Bool) (fuel depth : Nat) (rest : List UInt8) :
    readValue (fuel + 1) depth (bytesOf (if b then "true" else "false").toList ++ rest) =
      .ok (.bool b, rest) := by
  have htrue : bytesOf "true".toList = [0x74, 0x72, 0x75, 0x65] := by decide
  have hfalse : bytesOf "false".toList = [0x66, 0x61, 0x6c, 0x73, 0x65] := by decide
  cases b with
  | true =>
    rw [if_pos rfl, htrue, List.cons_append, readValue, skipBlank_cons rfl]
    rfl
  | false =>
    rw [if_neg Bool.false_ne_true, hfalse, List.cons_append, readValue, skipBlank_cons rfl]
    rfl

theorem readValue_text (t : String) (fuel depth : Nat) (rest : List UInt8) :
    readValue (fuel + 1) depth (bytesOf (string t) ++ rest) = .ok (.text t, rest) := by
  rw [bytesOf_string, List.cons_append, List.append_assoc, List.singleton_append, readValue,
    skipBlank_cons rfl]
  simp [readString_string, byteDigit?]
  rfl

/-- The bytes of digits begin neither a word nor a string, and follow no blank. -/
theorem digit_opens : ∀ d : Fin 10, let b := UInt8.ofNat (0x30 + d.val)
    isBlank b = false ∧ b ≠ 0x6e ∧ b ≠ 0x74 ∧ b ≠ 0x66 ∧ b ≠ 0x2d ∧ b ≠ 0x5d ∧
      (byteDigit? b).isSome = true := by
  decide

theorem exists_natDigits_eq_cons (n : Nat) : ∃ d : Fin 10, ∃ t,
    bytesOf (Decimal.natDigits n) = UInt8.ofNat (0x30 + d.val) :: t := by
  obtain ⟨ds, hds⟩ := exists_isDecimal n
  obtain ⟨d, t, rfl⟩ : ∃ d t, ds = d :: t := by
    rcases hds.leading with rfl | ⟨d, t, rfl, -⟩ <;> exact ⟨_, _, rfl⟩
  exact ⟨⟨d, hds.small d List.mem_cons_self⟩, _, hds.bytes⟩

theorem readValue_natural {n : Nat} (hn : n ≤ maxUInt64) (fuel depth : Nat) {rest : List UInt8}
    (hrest : EndsNumber rest) :
    readValue (fuel + 1) depth (bytesOf (Decimal.natDigits n) ++ rest) = .ok (.int n, rest) := by
  obtain ⟨ds, hds⟩ := exists_isDecimal n
  obtain ⟨d, t, hbytes⟩ := exists_natDigits_eq_cons n
  obtain ⟨hblank, hnull, htrue, hfalse, hminus, -, hdigit⟩ := digit_opens d
  have hscan := scan_natDigits false hds hrest
  rw [hbytes, List.cons_append] at hscan ⊢
  rw [readValue, skipBlank_cons hblank]
  simp only [if_neg hnull, if_neg htrue, if_neg hfalse, if_neg hminus, if_pos hdigit, hscan]
  show (Numeral.value _).bind _ = _
  rw [value_nonnegative hds hn]
  rfl

theorem readValue_negative {n : Nat} (hzero : n ≠ 0) (hn : n ≤ 0x8000000000000000)
    (fuel depth : Nat) {rest : List UInt8} (hrest : EndsNumber rest) :
    readValue (fuel + 1) depth (0x2d :: (bytesOf (Decimal.natDigits n) ++ rest)) =
      .ok (.int (-(n : Int)), rest) := by
  obtain ⟨ds, hds⟩ := exists_isDecimal n
  have hscan := scan_natDigits true hds hrest
  rw [readValue, skipBlank_cons rfl]
  simp only [if_neg (show (0x2d : UInt8) ≠ 0x6e by decide),
    if_neg (show (0x2d : UInt8) ≠ 0x74 by decide), if_neg (show (0x2d : UInt8) ≠ 0x66 by decide),
    if_true, hscan]
  show (Numeral.value _).bind _ = _
  rw [value_negative hds hzero hn]
  rfl

theorem readValue_integer {i : Int} (hlow : -0x8000000000000000 ≤ i)
    (hhigh : i ≤ 0xffffffffffffffff) (fuel depth : Nat) {rest : List UInt8}
    (hrest : EndsNumber rest) :
    readValue (fuel + 1) depth (bytesOf (integer i) ++ rest) = .ok (.int i, rest) := by
  cases i with
  | ofNat n =>
    rw [Int.ofNat_eq_natCast] at hhigh
    exact readValue_natural (by rw [maxUInt64]; omega) fuel depth hrest
  | negSucc n => exact readValue_negative (Nat.succ_ne_zero n) (by omega) fuel depth hrest

/-! ## Openings -/

theorem renderAt_opens {d : Doc} (hd : d.Integral) (level : Nat) :
    ∃ b t, bytesOf (renderAt level d) = b :: t ∧ isBlank b = false ∧ b ≠ 0x5d := by
  cases d with
  | null => exact ⟨_, _, rfl, by decide, by decide⟩
  | bool b => cases b <;> exact ⟨_, _, rfl, by decide, by decide⟩
  | int i =>
    cases i with
    | ofNat n =>
      obtain ⟨d, t, hbytes⟩ := exists_natDigits_eq_cons n
      obtain ⟨hblank, -, -, -, -, hend, -⟩ := digit_opens d
      exact ⟨_, t, hbytes, hblank, hend⟩
    | negSucc n => exact ⟨_, _, rfl, by decide, by decide⟩
  | float x => exact hd.elim
  | text s => exact ⟨_, _, bytesOf_string s, by decide, by decide⟩
  | seq es => cases es <;> exact ⟨_, _, rfl, by decide, by decide⟩
  | map ms =>
    cases ms with
    | nil => exact ⟨_, _, rfl, by decide, by decide⟩
    | cons m ms => exact ⟨_, _, rfl, by decide, by decide⟩
  | dateTime s => exact ⟨_, _, bytesOf_string s, by decide, by decide⟩

/-! ## Steps of the reader -/

/-- What stands next in an array or an object, behind a comma unless it is the first there. -/
inductive StandsNext : Bool → List UInt8 → List UInt8 → Prop where
  | first {s t : List UInt8} : skipBlank s = t → StandsNext true s t
  | comma {s s' t : List UInt8} : skipBlank s = 0x2c :: s' → skipBlank s' = t → StandsNext false s t

section Steps

variable {s t : List UInt8} {b : UInt8} {k : String} (fuel depth : Nat) (first : Bool)
  (elements : List Doc) (members : List (String × Doc))

theorem readValue_tooDeep (h : skipBlank s = b :: t) (hb : b = 0x5b ∨ b = 0x7b) :
    readValue (fuel + 1) 0 s = .error .tooDeep := by
  rw [readValue, h]
  rcases hb with rfl | rfl <;> rfl

theorem readValue_seq (h : skipBlank s = 0x5b :: t) : readValue (fuel + 1) (depth + 1) s =
    (fun r => (Doc.seq r.1, r.2)) <$> readElements fuel depth true [] t := by
  rw [readValue, h]
  rfl

theorem readValue_map (h : skipBlank s = 0x7b :: t) : readValue (fuel + 1) (depth + 1) s =
    (fun r => (Doc.map r.1, r.2)) <$> readMembers fuel depth true [] t := by
  rw [readValue, h]
  rfl

theorem readElements_close (h : skipBlank s = 0x5d :: t) :
    readElements (fuel + 1) depth first elements s = .ok (elements.reverse, t) := by
  rw [readElements, h]
  rfl

theorem readElements_next (h : StandsNext first s (b :: t)) (hb : b ≠ 0x5d) :
    readElements (fuel + 1) depth first elements s = (readValue fuel depth (b :: t) >>= fun r =>
      readElements fuel depth false (r.1 :: elements) r.2) := by
  cases h with
  | first h =>
    rw [readElements, h]
    simp only [if_neg hb, if_true]
  | comma h h' =>
    rw [readElements, h]
    simp only [if_neg (show (0x2c : UInt8) ≠ 0x5d by decide), Bool.false_eq_true, if_false, if_true,
      h']
    split
    · rename_i heq
      cases heq
    · rename_i heq
      exact absurd (List.cons.inj heq).1 hb
    · rfl

theorem readMembers_close (h : skipBlank s = 0x7d :: t) :
    readMembers (fuel + 1) depth first members s = .ok (members, t) := by
  rw [readMembers, h]
  rfl

theorem readMembers_next (h : StandsNext first s (0x22 :: t)) :
    readMembers (fuel + 1) depth first members s = readMember fuel depth members t := by
  cases h with
  | first h =>
    rw [readMembers, h]
    rfl
  | comma h h' =>
    rw [readMembers, h]
    simp only [if_neg (show (0x2c : UInt8) ≠ 0x7d by decide), Bool.false_eq_true, if_false, if_true,
      h']

theorem readMember_colon (h : readString s = .ok (k, 0x3a :: t)) :
    readMember (fuel + 1) depth members s = (readValue fuel depth t >>= fun r =>
      readMembers fuel depth false (insertEntry k r.1 members) r.2) := by
  rw [readMember, h]
  rfl

end Steps

/-! ## Documents -/

theorem bytesOf_seq (level : Nat) (e : Doc) (es : List Doc) :
    bytesOf (renderAt level (.seq (e :: es))) =
      0x5b :: (bytesOf (newline (level + 1)) ++ (bytesOf (renderAt (level + 1) e) ++
        (bytesOf (renderElements level es) ++ (bytesOf (newline level) ++ [0x5d])))) := by
  simp only [renderAt, bytesOf_append, bytesOf_cons, bytesOf_nil, List.append_assoc]
  rfl

theorem bytesOf_elements (level : Nat) (e : Doc) (es : List Doc) :
    bytesOf (renderElements level (e :: es)) =
      0x2c :: (bytesOf (newline (level + 1)) ++ (bytesOf (renderAt (level + 1) e) ++
        bytesOf (renderElements level es))) := by
  simp only [renderElements, bytesOf_append, bytesOf_cons, List.append_assoc]
  rfl

theorem bytesOf_map (level : Nat) (k : String) (d : Doc) (ms : List (String × Doc)) :
    bytesOf (renderAt level (.map ((k, d) :: ms))) =
      0x7b :: (bytesOf (newline (level + 1)) ++ 0x22 :: (bytesOf (k.toList.flatMap escape) ++
        0x22 :: 0x3a :: 0x20 :: (bytesOf (renderAt (level + 1) d) ++
          (bytesOf (renderMembers level ms) ++ (bytesOf (newline level) ++ [0x7d]))))) := by
  simp only [renderAt, bytesOf_append, bytesOf_cons, bytesOf_nil, List.append_assoc, bytesOf_string,
    List.cons_append]
  rfl

theorem bytesOf_members (level : Nat) (k : String) (d : Doc) (ms : List (String × Doc)) :
    bytesOf (renderMembers level ((k, d) :: ms)) =
      0x2c :: (bytesOf (newline (level + 1)) ++ 0x22 :: (bytesOf (k.toList.flatMap escape) ++
        0x22 :: 0x3a :: 0x20 :: (bytesOf (renderAt (level + 1) d) ++
          bytesOf (renderMembers level ms)))) := by
  simp only [renderMembers, bytesOf_append, bytesOf_cons, bytesOf_nil, List.append_assoc,
    bytesOf_string, List.cons_append]
  rfl

theorem endsNumber_elements (level : Nat) (es : List Doc) (rest : List UInt8) :
    EndsNumber (bytesOf (renderElements level es) ++ (bytesOf (newline level) ++ rest)) := by
  cases es with
  | nil =>
    rintro _ ⟨⟩
    decide
  | cons e es =>
    rw [bytesOf_elements]
    rintro _ ⟨⟩
    decide

theorem endsNumber_members (level : Nat) (ms : List (String × Doc)) (rest : List UInt8) :
    EndsNumber (bytesOf (renderMembers level ms) ++ (bytesOf (newline level) ++ rest)) := by
  cases ms with
  | nil =>
    rintro _ ⟨⟩
    decide
  | cons m ms =>
    rw [bytesOf_members]
    rintro _ ⟨⟩
    decide

section Values

variable {d : Doc} {level fuel depth n m : Nat} {s s' : List UInt8}

/-- An element and those behind it. -/
theorem readElements_value (hd : d.Integral) {first : Bool} {whole : List UInt8}
    (hnext : StandsNext first whole (skipBlank (bytesOf (renderAt (level + 1) d) ++ s)))
    {acc : List Doc} {r : List Doc × List UInt8}
    (hvalue : readValue fuel depth (bytesOf (renderAt (level + 1) d) ++ s) =
      upTo depth n (d.asRead, s'))
    (hrest : readElements fuel depth false (d.asRead :: acc) s' = upTo depth m r) :
    readElements (fuel + 1) depth first acc whole = upTo depth (max n m) r := by
  obtain ⟨b, t, hbytes, hblank, hb⟩ := renderAt_opens hd (level + 1)
  rw [hbytes, List.cons_append] at hnext hvalue
  rw [skipBlank_cons hblank] at hnext
  rw [readElements_next _ _ _ _ hnext hb, hvalue]
  refine upTo_bind ?_ n
  exact hrest

/-- A member behind the opening quote of its name, and those behind it. -/
theorem readMember_value {k : String} {acc : List (String × Doc)}
    {r : List (String × Doc) × List UInt8}
    (hvalue : readValue fuel depth (bytesOf (renderAt (level + 1) d) ++ s) =
      upTo depth n (d.asRead, s'))
    (hrest : readMembers fuel depth false (insertEntry k d.asRead acc) s' = upTo depth m r) :
    readMember (fuel + 1) depth acc (bytesOf (k.toList.flatMap escape) ++
        0x22 :: 0x3a :: 0x20 :: (bytesOf (renderAt (level + 1) d) ++ s)) =
      upTo depth (max n m) r := by
  have hblank : readValue fuel depth (0x20 :: (bytesOf (renderAt (level + 1) d) ++ s)) =
      readValue fuel depth (bytesOf (renderAt (level + 1) d) ++ s) :=
    readValue_congr (skipBlank_space _) fuel depth
  rw [readMember_colon _ _ _ (readString_string k _), hblank, hvalue]
  refine upTo_bind ?_ n
  exact hrest

end Values

/-- What opens an array or an object goes one level deeper. -/
theorem readValue_nested {s t : List UInt8} {b : UInt8} (h : skipBlank s = b :: t)
    (hb : b = 0x5b ∨ b = 0x7b) {fuel limit depth : Nat} {r : Doc × List UInt8}
    (hinside : ∀ inner, limit = inner + 1 →
      readValue (fuel + 1) (inner + 1) s = upTo inner depth r) :
    readValue (fuel + 1) limit s = upTo limit (depth + 1) r := by
  cases limit with
  | zero => rw [readValue_tooDeep _ h hb, upTo_zero_succ]
  | succ inner => rw [hinside inner rfl, upTo_succ]

mutual

/-- A document is read back up to its depth. -/
theorem readValue_renderAt : ∀ (d : Doc), d.Integral →
    ∀ (level depth fuel : Nat) (rest : List UInt8), EndsNumber rest →
      3 * (bytesOf (renderAt level d)).length ≤ fuel + 3 →
      readValue (fuel + 1) depth (bytesOf (renderAt level d) ++ rest) =
        upTo depth d.depth (d.asRead, rest)
  | .null, _, _, _, _, _, _, _ => (readValue_null _ _ _).trans (upTo_zero _ _).symm
  | .bool b, _, _, _, _, _, _, _ => (readValue_bool b _ _ _).trans (upTo_zero _ _).symm
  | .int _, h, _, _, _, _, hrest, _ =>
    (readValue_integer h.1 h.2 _ _ hrest).trans (upTo_zero _ _).symm
  | .float _, h, _, _, _, _, _, _ => h.elim
  | .text t, _, _, _, _, _, _, _ => (readValue_text t _ _ _).trans (upTo_zero _ _).symm
  | .dateTime t, _, _, _, _, _, _, _ => (readValue_text t _ _ _).trans (upTo_zero _ _).symm
  | .seq [], _, level, _, fuel, rest, _, hfuel => by
    rw [show bytesOf (renderAt level (.seq [])) = [0x5b, 0x5d] from rfl] at hfuel ⊢
    simp only [List.length_cons, List.length_nil, List.cons_append, List.nil_append] at hfuel ⊢
    obtain ⟨fuel, rfl⟩ : ∃ f, fuel = f + 1 := ⟨fuel - 1, by omega⟩
    refine readValue_nested (skipBlank_cons rfl _) (.inl rfl) fun inner _ => ?_
    rw [readValue_seq _ _ (skipBlank_cons rfl _), readElements_close _ _ _ _ (skipBlank_cons rfl _),
      Doc.depthElements, upTo_zero]
    rfl
  | .seq (e :: es), h, level, limit, fuel, rest, _, hfuel => by
    rw [bytesOf_seq] at hfuel ⊢
    simp only [List.length_cons, List.length_append] at hfuel
    simp only [List.cons_append, List.append_assoc, List.nil_append]
    obtain ⟨fuel, rfl⟩ : ∃ f, fuel = f + 2 := ⟨fuel - 2, by omega⟩
    refine readValue_nested (skipBlank_cons rfl _) (.inl rfl) fun inner _ => ?_
    have hes := readElements_renderElements es h.2 level inner fuel [e.asRead] rest (by omega)
    have he := readValue_renderAt e h.1 (level + 1) inner fuel _
      (endsNumber_elements level es (0x5d :: rest)) (by omega)
    rw [readValue_seq _ _ (skipBlank_cons rfl _),
      readElements_value h.1 (.first (skipBlank_newline _ _)) he hes, upTo_map]
    rfl
  | .map [], _, level, _, fuel, rest, _, hfuel => by
    rw [show bytesOf (renderAt level (.map [])) = [0x7b, 0x7d] from rfl] at hfuel ⊢
    simp only [List.length_cons, List.length_nil, List.cons_append, List.nil_append] at hfuel ⊢
    obtain ⟨fuel, rfl⟩ : ∃ f, fuel = f + 1 := ⟨fuel - 1, by omega⟩
    refine readValue_nested (skipBlank_cons rfl _) (.inr rfl) fun inner _ => ?_
    rw [readValue_map _ _ (skipBlank_cons rfl _), readMembers_close _ _ _ _ (skipBlank_cons rfl _),
      Doc.depthMembers, upTo_zero]
    rfl
  | .map ((k, d) :: ms), h, level, limit, fuel, rest, _, hfuel => by
    rw [bytesOf_map] at hfuel ⊢
    simp only [List.length_cons, List.length_append] at hfuel
    simp only [List.cons_append, List.append_assoc, List.nil_append]
    obtain ⟨fuel, rfl⟩ : ∃ f, fuel = f + 3 := ⟨fuel - 3, by omega⟩
    refine readValue_nested (skipBlank_cons rfl _) (.inr rfl) fun inner _ => ?_
    have hms := readMembers_renderMembers ms h.2 level inner fuel (insertEntry k d.asRead []) rest
      (by omega)
    have hd := readValue_renderAt d h.1 (level + 1) inner fuel _
      (endsNumber_members level ms (0x7d :: rest)) (by omega)
    rw [readValue_map _ _ (skipBlank_cons rfl _),
      readMembers_next _ _ _ _ (.first ((skipBlank_newline _ _).trans (skipBlank_cons rfl _))),
      readMember_value hd hms, upTo_map]
    rfl

theorem readElements_renderElements : ∀ (es : List Doc), Doc.IntegralElements es →
    ∀ (level depth fuel : Nat) (acc : List Doc) (rest : List UInt8),
      3 * (bytesOf (renderElements level es)).length ≤ fuel →
        readElements (fuel + 1) depth false acc
            (bytesOf (renderElements level es) ++ (bytesOf (newline level) ++ 0x5d :: rest)) =
          upTo depth (Doc.depthElements es) (acc.reverse ++ Doc.elementsAsRead es, rest)
  | [], _, _, _, _, _, _, _ => by
    rw [Doc.depthElements, upTo_zero, Doc.elementsAsRead, List.append_nil]
    exact readElements_close _ _ _ _ ((skipBlank_newline _ _).trans (skipBlank_cons rfl _))
  | e :: es, h, level, depth, fuel, acc, rest, hfuel => by
    rw [bytesOf_elements] at hfuel ⊢
    simp only [List.length_cons, List.length_append] at hfuel
    obtain ⟨fuel, rfl⟩ : ∃ f, fuel = f + 1 := ⟨fuel - 1, by omega⟩
    have hes := readElements_renderElements es h.2 level depth fuel (e.asRead :: acc) rest
      (by omega)
    have he := readValue_renderAt e h.1 (level + 1) depth fuel _
      (endsNumber_elements level es (0x5d :: rest)) (by omega)
    simp only [List.cons_append, List.append_assoc]
    rw [readElements_value h.1 (.comma (skipBlank_cons rfl _) (skipBlank_newline _ _)) he hes,
      Doc.depthElements, Doc.elementsAsRead, List.reverse_cons, List.append_assoc,
      List.singleton_append]

theorem readMembers_renderMembers : ∀ (ms : List (String × Doc)), Doc.IntegralMembers ms →
    ∀ (level depth fuel : Nat) (acc : List (String × Doc)) (rest : List UInt8),
      3 * (bytesOf (renderMembers level ms)).length ≤ fuel →
        readMembers (fuel + 1) depth false acc
            (bytesOf (renderMembers level ms) ++ (bytesOf (newline level) ++ 0x7d :: rest)) =
          upTo depth (Doc.depthMembers ms) (Doc.membersAsRead acc ms, rest)
  | [], _, _, _, _, _, _, _ => by
    rw [Doc.depthMembers, upTo_zero, Doc.membersAsRead]
    exact readMembers_close _ _ _ _ ((skipBlank_newline _ _).trans (skipBlank_cons rfl _))
  | (k, d) :: ms, h, level, depth, fuel, acc, rest, hfuel => by
    rw [bytesOf_members] at hfuel ⊢
    simp only [List.length_cons, List.length_append] at hfuel
    obtain ⟨fuel, rfl⟩ : ∃ f, fuel = f + 2 := ⟨fuel - 2, by omega⟩
    have hms := readMembers_renderMembers ms h.2 level depth fuel (insertEntry k d.asRead acc) rest
      (by omega)
    have hd := readValue_renderAt d h.1 (level + 1) depth fuel _
      (endsNumber_members level ms (0x7d :: rest)) (by omega)
    simp only [List.cons_append, List.append_assoc]
    rw [readMembers_next _ _ _ _ (.comma (skipBlank_cons rfl _)
      ((skipBlank_newline _ _).trans (skipBlank_cons rfl _))), readMember_value hd hms,
      Doc.depthMembers, Doc.membersAsRead]

end

/-- **A document of integers is read back** unless it is too deep. -/
theorem parse_render {d : Doc} (h : d.Integral) :
    parse (render d).toUTF8.toList = upTo maxDepth d.depth d.asRead := by
  have hbytes : (render d).toUTF8.toList = bytesOf (renderAt 0 d) := by
    rw [← bytesOf_toList, render, String.toList_ofList]
  have hread := readValue_renderAt d h 0 maxDepth (3 * (bytesOf (renderAt 0 d)).length + 2) []
    (by rintro _ ⟨⟩) (by omega)
  rw [List.append_nil] at hread
  rw [hbytes, parse, stepBound, hread]
  refine (upTo_bind (m := 0) ?_ d.depth).trans (by rw [Nat.max_zero])
  rw [upTo_zero]
  rfl

end Json

end SwitchTestbed
