import SwitchTestbed.Gnmi.Wire
import SwitchTestbed.Gnoi
import SwitchTestbed.P4Runtime
import SwitchTestbed.Proofs.Wire.Kinds

/-!
# The messages of the three schemas are read back

Each message is read back as one of its fields after the other is filled in. `MessageType` lists the
messages, so that `messages_decode_back` speaks of all of them.
-/

namespace SwitchTestbed

open Wire

/-! ## gNMI -/

namespace Gnmi

open Field

instance : ReadsBack PathElem 1 where
  carried _ := .cons carries_scalar (.cons carries_map .nil)

instance : ReadsBack Path 2 where
  carried _ := .cons carries_scalar (.cons carries_repeated (.cons carries_scalar .nil))

/-- A kind is written by its own field, and read as a value of that kind. -/
theorem TypedValue.alternative_cases {β : Type} {number : Nat} {c : Codec β} [c.Lawful]
    {get : Scalar → Option β} {make : β → Scalar} (hmake : ∀ s b, get s = some b → make b = s)
    (v : TypedValue) :
    ((alternative number c get make).write v = [] ∧
        ∀ m, (alternative number c get make).Carries 0 v m m) ∨
      ∀ m, (alternative number c get make).Carries 0 v m v := by
  cases hget : v.value.bind get with
  | none =>
    refine .inl ⟨?_, fun _ => carries_silent_alternative hget⟩
    show ((v.value.bind get).map c.write).toList = []
    rw [hget]
    rfl
  | some b =>
    obtain ⟨s, hs, hb⟩ := Option.bind_eq_some_iff.mp hget
    obtain rfl : v = ⟨some (make b)⟩ := by rw [hmake s b hb, ← hs]
    exact .inr fun _ => carries_alternative hget

instance : ReadsBack TypedValue 0 where
  carried v := by
    refine .of_alternatives ?_ fun hsilent => ?_
    · simp only [Message.fields, List.forall_mem_cons]
      refine ⟨?_, ?_, ?_, ?_, ?_, ?_, ?_, ?_, ?_, by simp⟩ <;>
        exact TypedValue.alternative_cases (by grind) v
    · simp only [Message.fields, List.forall_mem_cons] at hsilent
      obtain ⟨_ | s⟩ := v
      · rfl
      · cases s <;> simp [TypedValue.alternative, alternative] at hsilent

instance : ReadsBack Update 3 where
  carried _ := .cons carries_nested (.cons carries_nested (.cons carries_scalar .nil))

instance : ReadsBack Notification 4 where
  carried _ := .cons carries_scalar (.cons carries_nested (.cons carries_repeated
    (.cons carries_repeated (.cons carries_scalar .nil))))

instance : ReadsBack SetRequest 4 where
  carried _ := .cons carries_nested (.cons carries_repeated (.cons carries_repeated
    (.cons carries_repeated .nil)))

instance : ReadsBack UpdateResult 3 where
  carried _ := .cons carries_nested (.cons carries_scalar .nil)

instance : ReadsBack SetResponse 4 where
  carried _ := .cons carries_nested (.cons carries_repeated (.cons carries_scalar .nil))

instance : ReadsBack GetRequest 3 where
  carried _ := .cons carries_nested (.cons carries_repeated (.cons carries_scalar
    (.cons carries_scalar .nil)))

instance : ReadsBack GetResponse 5 where
  carried _ := .cons carries_repeated .nil

instance : ReadsBack CapabilityRequest 0 where
  carried _ := .nil

instance : ReadsBack ModelData 0 where
  carried _ := .cons carries_scalar (.cons carries_scalar (.cons carries_scalar .nil))

instance : ReadsBack CapabilityResponse 1 where
  carried _ := .cons carries_repeated (.cons carries_packed (.cons carries_scalar .nil))

instance : ReadsBack SubscribedPath 3 where
  carried _ := .cons carries_nested (.cons carries_scalar (.cons carries_scalar .nil))

instance : ReadsBack SubscriptionList 4 where
  carried _ := .cons carries_nested (.cons carries_repeated (.cons carries_scalar
    (.cons carries_scalar (.cons carries_scalar .nil))))

instance : ReadsBack Poll 0 where
  carried _ := .nil

instance : ReadsBack SubscribeRequest 5 where
  carried
    | ⟨none⟩ => .cons carries_nested (.cons carries_nested .nil)
    | ⟨some (.subscribe _)⟩ => .cons carries_nested (.cons (carries_silent_nested rfl) .nil)
    | ⟨some (.poll _)⟩ => .cons carries_nested (.cons carries_nested .nil)

instance : ReadsBack SubscribeResponse 5 where
  carried
    | ⟨none⟩ => .cons carries_nested (.cons (carries_silent_alternative rfl) .nil)
    | ⟨some (.update _)⟩ => .cons carries_nested (.cons (carries_silent_alternative rfl) .nil)
    | ⟨some (.sync _)⟩ => .cons carries_nested (.cons (carries_alternative rfl) .nil)

end Gnmi

/-! ## gNOI -/

namespace Gnoi

open Field

instance : ReadsBack TimeRequest 0 where
  carried _ := .nil

instance : ReadsBack TimeResponse 0 where
  carried _ := .cons carries_scalar .nil

instance : ReadsBack RebootRequest 0 where
  carried _ := .cons carries_scalar (.cons carries_scalar (.cons carries_scalar
    (.cons carries_scalar .nil)))

instance : ReadsBack RebootResponse 0 where
  carried _ := .nil

instance : ReadsBack RebootStatusRequest 0 where
  carried _ := .nil

instance : ReadsBack RebootStatusResponse 0 where
  carried _ := .cons carries_scalar (.cons carries_scalar (.cons carries_scalar
    (.cons carries_scalar (.cons carries_scalar .nil))))

end Gnoi

/-! ## P4Runtime -/

namespace P4Runtime

open Field

instance : ReadsBack UInt128 0 where
  carried _ := .cons carries_scalar (.cons carries_scalar .nil)

instance : ReadsBack TableEntry 0 where
  carried _ := .cons carries_scalar (.cons carries_scalar (.cons carries_scalar
    (.cons carries_scalar .nil)))

instance : ReadsBack Entity 1 where
  carried _ := .cons carries_nested .nil

instance : ReadsBack Update 2 where
  carried _ := .cons carries_scalar (.cons carries_nested .nil)

instance : ReadsBack WriteRequest 3 where
  carried _ := .cons carries_scalar (.cons carries_nested (.cons carries_repeated
    (.cons carries_scalar .nil)))

instance : ReadsBack WriteResponse 0 where
  carried _ := .nil

instance : ReadsBack ReadRequest 2 where
  carried _ := .cons carries_scalar (.cons carries_repeated (.cons carries_scalar .nil))

instance : ReadsBack ReadResponse 2 where
  carried _ := .cons carries_repeated .nil

instance : ReadsBack CapabilitiesRequest 0 where
  carried _ := .nil

instance : ReadsBack CapabilitiesResponse 0 where
  carried _ := .cons carries_scalar .nil

end P4Runtime

/-! ## All messages -/

namespace Wire

/-- The messages of the schemas. -/
inductive MessageType where
  | gnmiNotification | gnmiUpdate | gnmiTypedValue | gnmiPath | gnmiPathElem
  | gnmiSubscribeRequest | gnmiPoll | gnmiSubscribeResponse | gnmiSubscriptionList | gnmiSubscription
  | gnmiSetRequest | gnmiSetResponse | gnmiUpdateResult
  | gnmiGetRequest | gnmiGetResponse
  | gnmiCapabilityRequest | gnmiCapabilityResponse | gnmiModelData
  | gnoiTimeRequest | gnoiTimeResponse | gnoiRebootRequest | gnoiRebootResponse
  | gnoiRebootStatusRequest | gnoiRebootStatusResponse
  | p4WriteRequest | p4WriteResponse | p4ReadRequest | p4ReadResponse
  | p4Update | p4Entity | p4TableEntry | p4UInt128
  | p4CapabilitiesRequest | p4CapabilitiesResponse

namespace MessageType

/-- The values of a message. -/
@[reducible] def Carrier : MessageType → Type
  | gnmiNotification => Gnmi.Notification
  | gnmiUpdate => Gnmi.Update
  | gnmiTypedValue => Gnmi.TypedValue
  | gnmiPath => Gnmi.Path
  | gnmiPathElem => Gnmi.PathElem
  | gnmiSubscribeRequest => Gnmi.SubscribeRequest
  | gnmiPoll => Gnmi.Poll
  | gnmiSubscribeResponse => Gnmi.SubscribeResponse
  | gnmiSubscriptionList => Gnmi.SubscriptionList
  | gnmiSubscription => Gnmi.SubscribedPath
  | gnmiSetRequest => Gnmi.SetRequest
  | gnmiSetResponse => Gnmi.SetResponse
  | gnmiUpdateResult => Gnmi.UpdateResult
  | gnmiGetRequest => Gnmi.GetRequest
  | gnmiGetResponse => Gnmi.GetResponse
  | gnmiCapabilityRequest => Gnmi.CapabilityRequest
  | gnmiCapabilityResponse => Gnmi.CapabilityResponse
  | gnmiModelData => Gnmi.ModelData
  | gnoiTimeRequest => Gnoi.TimeRequest
  | gnoiTimeResponse => Gnoi.TimeResponse
  | gnoiRebootRequest => Gnoi.RebootRequest
  | gnoiRebootResponse => Gnoi.RebootResponse
  | gnoiRebootStatusRequest => Gnoi.RebootStatusRequest
  | gnoiRebootStatusResponse => Gnoi.RebootStatusResponse
  | p4WriteRequest => P4Runtime.WriteRequest
  | p4WriteResponse => P4Runtime.WriteResponse
  | p4ReadRequest => P4Runtime.ReadRequest
  | p4ReadResponse => P4Runtime.ReadResponse
  | p4Update => P4Runtime.Update
  | p4Entity => P4Runtime.Entity
  | p4TableEntry => P4Runtime.TableEntry
  | p4UInt128 => P4Runtime.UInt128
  | p4CapabilitiesRequest => P4Runtime.CapabilitiesRequest
  | p4CapabilitiesResponse => P4Runtime.CapabilitiesResponse

instance (t : MessageType) : Message t.Carrier := by
  cases t <;> exact inferInstance

end MessageType

/-- **Every message is read back from its bytes**, in whichever order the entries of its maps stand
there; its own encoding has one of these orders. The length of a message is a word on the wire, so
that no message has more bytes than a word can count. -/
theorem messages_decode_back (t : MessageType) (m : t.Carrier) :
    Encodes m (encode m) ∧ ∀ s, Encodes m s → s.length < UInt64.size → decode s = some m := by
  cases t <;>
    exact ⟨encodes_encode m, fun s hs hsize => decode_of_encodes hs hsize (by decide)⟩

/-- A member of a list under two keys, with a negative value. -/
def twoKeys : Gnmi.Update :=
  { path := some ⟨"", [⟨"member", .ofList [("a", "x"), ("b", "y")]⟩], ""⟩
    val := some ⟨some (.int (-1))⟩ }

/-- The same with its keys the other way around. -/
def twoKeysReversed : List UInt8 :=
  let keys : List Value := [.message (valuesOf (⟨"b", "y"⟩ : MapEntry)),
    .message (valuesOf (⟨"a", "x"⟩ : MapEntry))]
  let elem : Value := .message ([(1, .bytes "member".toUTF8)] ++ keys.map (2, ·))
  encodeFields [(1, .message [(3, elem)]), (3, .message [(2, .varint (-1))])]

theorem encodes_twoKeysReversed : Encodes twoKeys twoKeysReversed :=
  ⟨_, .cons (.cons (.cons rfl (.cons (.cons (.cons rfl (.cons ⟨_, .swap _ _ [], rfl⟩ .nil)) .nil)
    (.cons rfl .nil))) .nil) (.cons (.cons (written_valuesOf _) .nil) (.cons rfl .nil)), by rfl⟩

theorem messages_decode_back_twoKeys :
    twoKeysReversed.length < UInt64.size ∧ decode twoKeysReversed = some twoKeys :=
  have hsize : twoKeysReversed.length < UInt64.size := by decide +kernel
  ⟨hsize, (messages_decode_back .gnmiUpdate twoKeys).2 _ encodes_twoKeysReversed hsize⟩

end Wire

end SwitchTestbed
