import SwitchTestbed.Gnmi.Payload
import SwitchTestbed.Proofs.Json.Ordered

/-!
# Wrapped documents mean the same

* `keyed_integral`, `depth_keyed`, `asRead_keyed` : the object around a document;
* `wrap_root`, `wrap_document`, `wrap_undecodable` : what happens to an entry;
* `wrap_preserves_meaning` : the document of an entry is still there after wrapping, one or two
  levels deeper, and an entry that cannot be wrapped is left alone.
-/

namespace SwitchTestbed.Gnmi

/-! ## The object around a document -/

section Keyed

variable {elem : PathElem} {d : Doc}

theorem keyed_integral (h : d.Integral) : (keyed elem d).Integral := by
  rw [keyed]
  split <;> simp only [Doc.Integral, Doc.IntegralMembers, Doc.IntegralElements, h, and_self]

theorem depth_keyed :
    (keyed elem d).depth = d.depth + if elem.isListMember then 2 else 1 := by
  rw [keyed]
  split <;> simp only [Doc.depth, Doc.depthMembers, Doc.depthElements, Nat.max_zero]

theorem asRead_keyed (h : d.asRead = d) : (keyed elem d).asRead = keyed elem d := by
  refine Doc.asRead_map ⟨List.pairwise_singleton _ _, List.forall_mem_singleton.mpr ?_⟩
  dsimp only
  split
  · exact Doc.asRead_seq (List.forall_mem_singleton.mpr h)
  · exact h

end Keyed

/-! ## Entries -/

section Entries

variable {u : Update} {elem : PathElem}

theorem wrap_root (h : u.path.bind Path.lastElem? = none) : u.wrap = (.ok (), u) := by
  rw [Update.wrap, h]

theorem wrap_document (h : u.path.bind Path.lastElem? = some elem) {d : Doc}
    (hd : Json.parse (documentOf u.val) = .ok d) : u.wrap =
      (.ok (), { u with val := some (.jsonIetf (Json.render (keyed elem d)).toUTF8) }) := by
  rw [Update.wrap, h]
  simp only [hd]

theorem wrap_undecodable (h : u.path.bind Path.lastElem? = some elem) {cause : JsonError}
    (hd : Json.parse (documentOf u.val) = .error cause) :
    u.wrap = (.error ⟨elem.name, cause⟩, u) := by
  rw [Update.wrap, h]
  simp only [hd]

theorem documentOf_jsonIetf (b : ByteArray) : documentOf (some (.jsonIetf b)) = b.toList := rfl

theorem documentOf_eq_nil {val : Option TypedValue} (h : val.bind TypedValue.jsonIetf? = none) :
    documentOf val = [] := by
  rw [documentOf, h]

theorem parse_nil : Json.parse [] = .error .endInValue := by
  rw [Json.parse, Json.stepBound, List.length_nil, Json.readValue]
  rfl

end Entries

/-- **Wrapping keeps the meaning of an entry.** A document of integers is read back inside the object
unless that is too deep; whatever cannot be wrapped stays as it was. -/
theorem wrap_preserves_meaning (u : Update) :
    ((u.path = none ∨ ∃ p, u.path = some p ∧ p.elem = []) → u.wrap = (.ok (), u)) ∧
    ∀ p elem, u.path = some p → p.elem.getLast? = some elem →
      (∀ b v, u.val = some (.jsonIetf b) → Json.parse b.toList = .ok v → v.Integral →
        ∃ w, u.wrap = (.ok (), { u with val := some (.jsonIetf w) }) ∧
          ((∃ d, Json.parse w.toList = .ok d) ↔
            v.depth + (if elem.isListMember then 2 else 1) ≤ 127) ∧
          ∀ d, Json.parse w.toList = .ok d →
            d = .map [(elem.name, if elem.isListMember then .seq [v] else v)]) ∧
      (u.val.bind TypedValue.jsonIetf? = none →
        u.wrap = (.error ⟨elem.name, .endInValue⟩, u)) ∧
      ∀ b cause, u.val = some (.jsonIetf b) → Json.parse b.toList = .error cause →
        u.wrap = (.error ⟨elem.name, cause⟩, u) := by
  refine ⟨?_, fun p elem hpath hlast => ?_⟩
  · rintro (hpath | ⟨p, hpath, hroot⟩)
    · exact wrap_root (by rw [hpath, Option.bind_none])
    · exact wrap_root (by rw [hpath, Option.bind_some, Path.lastElem?, hroot, List.getLast?_nil])
  · have helem : u.path.bind Path.lastElem? = some elem := by
      rw [hpath, Option.bind_some, Path.lastElem?, hlast]
    refine ⟨fun b v hval hparse hv => ?_, fun hval => ?_, fun b cause hval hparse => ?_⟩
    · have hdocument : Json.parse (documentOf u.val) = .ok v := by
        rw [hval, documentOf_jsonIetf, hparse]
      refine ⟨_, wrap_document helem hdocument, ?_⟩
      -- what is read back is the object that was written, up to the limit
      have hkeyed : (keyed elem v).Integral := keyed_integral hv
      have hread := Json.parse_render hkeyed
      rw [asRead_keyed (Json.asRead_of_parse hparse), depth_keyed] at hread
      rw [hread]
      simp only [Json.upTo_eq_ok_iff]
      exact ⟨⟨fun ⟨_, hdepth, _⟩ => hdepth, fun hdepth => ⟨_, hdepth, rfl⟩⟩, fun _ hd => hd.2⟩
    · exact wrap_undecodable helem (by rw [documentOf_eq_nil hval, parse_nil])
    · exact wrap_undecodable helem (by rw [hval, documentOf_jsonIetf, hparse])

/-- A member of a list, its key and its document not plain ASCII. -/
def listMember (val : Option TypedValue) : Update :=
  { path := some { elem := [⟨"a\"\n\u00fc", .ofList [("k", "v")]⟩] }, val }

theorem wrap_preserves_meaning_listMember :
    let v : Doc := .map [("x", .seq [.int (-7), .null])]
    let written := listMember (some (.jsonIetf (Json.render v).toUTF8))
    let blank := listMember (some (.jsonIetf ([] : List UInt8).toByteArray))
    ({} : Update).wrap = (.ok (), {}) ∧
      (v.Integral ∧ ∃ w, written.wrap = (.ok (), { written with val := some (.jsonIetf w) }) ∧
        Json.parse w.toList = .ok (.map [("a\"\n\u00fc", .seq [v])])) ∧
      (listMember none).wrap = (.error ⟨"a\"\n\u00fc", .endInValue⟩, listMember none) ∧
      blank.wrap = (.error ⟨"a\"\n\u00fc", .endInValue⟩, blank) := by
  intro v written blank
  have hv : v.Integral := by
    simp [v, Doc.Integral, Doc.IntegralMembers, Doc.IntegralElements]
  obtain ⟨w, hw, hread, hmeaning⟩ :=
    ((wrap_preserves_meaning written).2 _ _ rfl rfl).1 _ v rfl (Json.parse_render hv) hv
  obtain ⟨d, hd⟩ := hread.mpr (by decide)
  refine ⟨(wrap_preserves_meaning {}).1 (.inl rfl), ⟨hv, w, hw, ?_⟩, ?_, ?_⟩
  · rw [hd, hmeaning d hd]
    rfl
  · exact ((wrap_preserves_meaning (listMember none)).2 _ _ rfl rfl).2.1 rfl
  · refine ((wrap_preserves_meaning blank).2 _ _ rfl rfl).2.2 _ _ rfl ?_
    rw [Bytes.toList_toByteArray, parse_nil]

end SwitchTestbed.Gnmi
