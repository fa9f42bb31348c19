import Mathlib.Tactic.SplitIfs
import SwitchTestbed.Gnmi.Payload
import SwitchTestbed.Service

/-!
# Errors name what they are about

* `Text.unescape` : the character that stands at the front of quoted text (`Text.unescape_escape`);
* `Text.quote_append_inj` : where a quoted text ends shows, so that no two texts are quoted alike;
* `Text.Mentions` : a text stands somewhere in another one;
* `AllocationError.message_mentions`, `ConfigError.message_mentions` and the like: the text of an
  error has in it each of the `subjects` of the error, which are the devices, requirements, services,
  addresses and causes that it is about; `Error.message_mentions` : so does the text of an error that
  wraps others, down to the last of them;
* `AllocationError.noDevice_message_inj`, `ConfigError.emptyAddress_message_inj`,
  `Gnmi.PayloadError.message_inj` : the requirement, the service or the step is told from the text.
-/

namespace SwitchTestbed

namespace Text

/-! ## Quoted texts -/

theorem digit?_digitChar : ∀ d : Fin 16, digit? 16 d.val.digitChar = some d.val := by
  decide

/-- The number that hexadecimal digits stand for. -/
def hexValue (ds : List Char) : Nat := natOfDigits 16 (ds.filterMap (digit? 16))

theorem hexValue_concat_digitChar (ds : List Char) {d : Nat} (h : d < 16) :
    hexValue (ds ++ [d.digitChar]) = hexValue ds * 16 + d := by
  rw [hexValue, List.filterMap_append,
    List.filterMap_cons_some (digit?_digitChar ⟨d, h⟩), List.filterMap_nil, natOfDigits_concat]
  rfl

theorem hexDigits_of_lt {n : Nat} (h : n < 16) : hexDigits n = [] ++ [n.digitChar] :=
  Nat.toDigits_of_lt_base h

theorem hexDigits_of_le {n : Nat} (h : 16 ≤ n) :
    hexDigits n = hexDigits (n / 16) ++ [(n % 16).digitChar] :=
  Nat.toDigits_of_base_le (by decide) h

theorem hexValue_hexDigits (n : Nat) : hexValue (hexDigits n) = n := by
  induction n using Nat.strongRecOn with
  | ind n ih =>
    rcases Nat.lt_or_ge n 16 with hn | hn
    · rw [hexDigits_of_lt hn, hexValue_concat_digitChar [] hn]
      exact Nat.zero_add n
    · rw [hexDigits_of_le hn, hexValue_concat_digitChar _ (Nat.mod_lt n (by decide)),
        ih (n / 16) (by omega)]
      omega

theorem ne_brace_of_mem_hexDigits (n : Nat) : ∀ c ∈ hexDigits n, c ≠ '\x7d' := by
  have hdigit : ∀ d : Fin 16, d.val.digitChar ≠ '\x7d' := by decide
  induction n using Nat.strongRecOn with
  | ind n ih =>
    intro c hc
    rcases Nat.lt_or_ge n 16 with hn | hn
    · rw [hexDigits_of_lt hn, List.nil_append, List.mem_singleton] at hc
      exact hc ▸ hdigit ⟨n, hn⟩
    · rw [hexDigits_of_le hn, List.mem_append, List.mem_singleton] at hc
      rcases hc with hc | rfl
      · exact ih (n / 16) (by omega) c hc
      · exact hdigit ⟨n % 16, Nat.mod_lt n (by decide)⟩

/-- What stands behind a backslash: a code point between braces, or a letter for a character. -/
def unescapeTail : List Char → Option (Char × List Char)
  | 'u' :: _ :: rest =>
    some (.ofNat (hexValue (rest.takeWhile (· ≠ '\x7d'))), (rest.dropWhile (· ≠ '\x7d')).drop 1)
  | 'n' :: rest => some ('\n', rest)
  | 'r' :: rest => some ('\r', rest)
  | 't' :: rest => some ('\t', rest)
  | '0' :: rest => some ('\x00', rest)
  | c :: rest => some (c, rest)
  | [] => none

/-- The character at the front of quoted text, unless the text ends there, and what follows it. -/
def unescape : List Char → Option (Char × List Char)
  | [] => none
  | c :: rest =>
    if c = '"' then none else if c = '\\' then unescapeTail rest else some (c, rest)

theorem unescapeTail_hexDigits (n : Nat) (rest : List Char) :
    unescapeTail ('u' :: '\x7b' :: (hexDigits n ++ '\x7d' :: rest)) = some (.ofNat n, rest) := by
  have hdigits : ∀ d ∈ hexDigits n, decide (d ≠ '\x7d') = true := fun d hd =>
    decide_eq_true (ne_brace_of_mem_hexDigits n d hd)
  rw [unescapeTail, List.takeWhile_append_of_pos hdigits, List.takeWhile_cons_of_neg (by simp),
    List.dropWhile_append_of_pos hdigits, List.dropWhile_cons_of_neg (by simp), List.append_nil,
    hexValue_hexDigits]
  rfl

/-- **An escaped character is read back**, whatever follows it. -/
theorem unescape_escape (c : Char) (rest : List Char) :
    unescape (escape c ++ rest) = some (c, rest) := by
  have hcode : unescape (['\\', 'u', '\x7b'] ++ hexDigits c.toNat ++ ['\x7d'] ++ rest) =
      some (c, rest) := by
    have hread := unescapeTail_hexDigits c.toNat rest
    rw [Char.ofNat_toNat] at hread
    simpa [unescape] using hread
  unfold escape
  split_ifs
  case neg => exact hcode
  all_goals simp [unescape, unescapeTail, *]

theorem flatMap_escape_append_inj {s t u v : List Char}
    (h : s.flatMap escape ++ '"' :: u = t.flatMap escape ++ '"' :: v) : s = t ∧ u = v := by
  -- both sides are read from the front, and at the closing quotes nothing is read
  induction s generalizing t with
  | nil =>
    cases t with
    | nil => exact ⟨rfl, (List.cons.inj h).2⟩
    | cons d t =>
      have hread := congrArg unescape h
      rw [List.flatMap_cons, List.append_assoc, unescape_escape] at hread
      cases hread
  | cons c s ih =>
    have hread := congrArg unescape h
    rw [List.flatMap_cons, List.append_assoc, unescape_escape] at hread
    cases t with
    | nil => cases hread
    | cons d t =>
      rw [List.flatMap_cons, List.append_assoc, unescape_escape] at hread
      obtain ⟨rfl, hrest⟩ := Prod.mk.inj (Option.some.inj hread)
      obtain ⟨rfl, huv⟩ := ih hrest
      exact ⟨rfl, huv⟩

/-- **A quoted text shows where it ends**, and no two texts are quoted alike. -/
theorem quote_append_inj {s t u v : String} (h : quote s ++ u = quote t ++ v) :
    s = t ∧ u = v := by
  have hlists := congrArg String.toList h
  simp only [quote, String.toList_append, String.toList_ofList, List.cons_append, List.cons.injEq,
    true_and, List.append_assoc, List.nil_append] at hlists
  obtain ⟨hst, huv⟩ := flatMap_escape_append_inj hlists
  exact ⟨String.toList_inj.mp hst, String.toList_inj.mp huv⟩

theorem quote_injective : Function.Injective quote := fun s t h =>
  (quote_append_inj (u := "") (v := "") (by rw [h])).1

/-! ## Mentions -/

/-- The first text has the second one somewhere in it. -/
def Mentions (s t : String) : Prop := ∃ before after, s = before ++ t ++ after

namespace Mentions

variable {s t x : String}

theorem refl : Mentions s s := ⟨"", "", by rw [String.empty_append, String.append_empty]⟩

theorem left (h : Mentions s x) : Mentions (s ++ t) x := by
  obtain ⟨before, after, rfl⟩ := h
  exact ⟨before, after ++ t, String.append_assoc⟩

theorem right (h : Mentions t x) : Mentions (s ++ t) x := by
  obtain ⟨before, after, rfl⟩ := h
  exact ⟨s ++ before, after, by simp only [String.append_assoc]⟩

end Mentions

/-- A text mentions each of some others. -/
def MentionsAll (s : String) (xs : List String) : Prop := ∀ x ∈ xs, Mentions s x

namespace MentionsAll

variable {s t x y : String} {xs : List String}

theorem nil : MentionsAll s [] := fun _ hx => absurd hx List.not_mem_nil

theorem cons (h : Mentions s x) (hs : MentionsAll s xs) : MentionsAll s (x :: xs) :=
  List.forall_mem_cons.mpr ⟨h, hs⟩

theorem one (h : Mentions s x) : MentionsAll s [x] := cons h nil

theorem two (h : Mentions s x) (h' : Mentions s y) : MentionsAll s [x, y] := cons h (one h')

theorem left (h : MentionsAll s xs) : MentionsAll (s ++ t) xs := fun x hx => (h x hx).left

theorem right (h : MentionsAll t xs) : MentionsAll (s ++ t) xs := fun x hx => (h x hx).right

end MentionsAll

theorem intercalate_mentions (sep : String) (xs : List String) :
    MentionsAll (sep.intercalate xs) xs := by
  induction xs with
  | nil => exact .nil
  | cons x xs ih =>
    cases xs with
    | nil =>
      rw [String.intercalate_singleton]
      exact .one .refl
    | cons y xs =>
      rw [String.intercalate_cons_cons]
      exact .cons (.left (.left .refl)) ih.right

end Text

open Text

/-! ## What errors are about -/

theorem ShapeError.oneOf_mentions (names : List String) :
    MentionsAll (oneOf names) (names.map ticked) := by
  unfold oneOf
  split
  · exact .one .refl
  · exact .two (.left (.left .refl)) (.right .refl)
  · exact (intercalate_mentions ", " _).right

/-- What a text on the shape of a document has to name. -/
def ShapeError.subjects : ShapeError → List String
  | missingField name => [ticked name]
  | unknownVariant name known => ticked name :: known.map ticked
  | invalidType found wanted => [found.describe, wanted]
  | invalidValue found wanted => [found.describe, wanted]
  | invalidLength length wanted => [toString length, wanted]
  | notVariant => []
  | variantTable => []

theorem ShapeError.message_mentions (e : ShapeError) : MentionsAll e.message e.subjects := by
  cases e with
  | missingField name => exact .one (.right .refl)
  | unknownVariant name known =>
    exact .cons (.left (.left (.right .refl))) (oneOf_mentions known).right
  | invalidType found wanted => exact .two (.left (.left (.right .refl))) (.right .refl)
  | invalidValue found wanted => exact .two (.left (.left (.right .refl))) (.right .refl)
  | invalidLength length wanted => exact .two (.left (.left (.right .refl))) (.right .refl)
  | notVariant => exact .nil
  | variantTable => exact .nil

/-- What a text on an allocation has to name. -/
def AllocationError.subjects : AllocationError → List String
  | stillActive id => [id]
  | noDevice role requirement => [role.title, quote requirement]
  | notTogether role count => [toString count, role.title]
  | returnedTwice role id => [role.acronym, quote id]
  | stated reason => [reason]

theorem AllocationError.message_mentions (e : AllocationError) :
    MentionsAll e.message e.subjects := by
  cases e with
  | stillActive id => exact .one (.left (.right .refl))
  | noDevice role requirement => exact .two (.left (.left (.right .refl))) (.right .refl)
  | notTogether role count =>
    exact .two (.left (.left (.left (.right .refl)))) (.left (.right .refl))
  | returnedTwice role id => exact .two (.left (.left (.left (.right .refl)))) (.left (.right .refl))
  | stated reason => exact .one .refl

theorem Role.title_append_inj {r r' : Role} {u v : String} (h : r.title ++ u = r'.title ++ v) :
    r = r' ∧ u = v := by
  have hlists := congrArg String.toList h
  cases r <;> cases r'
  case dut.dut => exact ⟨rfl, (String.append_right_inj _).mp h⟩
  case ate.ate => exact ⟨rfl, (String.append_right_inj _).mp h⟩
  all_goals simp [title] at hlists

/-- A requirement that no device fits is told from the text about it. -/
theorem AllocationError.noDevice_message_inj {r r' : Role} {id id' : String}
    (h : (noDevice r id).message = (noDevice r' id').message) : r = r' ∧ id = id' := by
  dsimp only [message] at h
  simp only [String.append_assoc, String.append_right_inj] at h
  obtain ⟨hrole, hid⟩ := Role.title_append_inj h
  exact ⟨hrole, quote_injective ((String.append_right_inj _).mp hid)⟩

/-- What a text on something that could not be sent has to name. -/
def TransportError.subjects : TransportError → List String
  | invalidAddress address => [quote address]
  | invalidUserAgent => ["user agent"]
  | metadata (.invalidKey key) => [quote key]
  | metadata (.invalidValue key) => [quote key]
  | refused address => [address]
  | console address reason => [address, reason]
  | requestFailed url => [url]
  | stated reason => [reason]

theorem TransportError.message_mentions (e : TransportError) :
    MentionsAll e.message e.subjects := by
  cases e with
  | invalidAddress address => exact .one (.left (.right .refl))
  | invalidUserAgent =>
    exact .one ⟨"invalid ", ": user agent is not a valid header value", rfl⟩
  | metadata cause => cases cause <;> exact .one (.right .refl)
  | refused address => exact .one (.right .refl)
  | console address reason => exact .two (.left (.left (.right .refl))) (.right .refl)
  | requestFailed url => exact .one (.left (.right .refl))
  | stated reason => exact .one .refl

/-- What a text on a description has to name. -/
def ResolutionError.subjects : ResolutionError → List String
  | keyMismatch key id => [quote key, quote id]
  | stated reason => [reason]

theorem ResolutionError.message_mentions (e : ResolutionError) :
    MentionsAll e.message e.subjects := by
  cases e with
  | keyMismatch key id => exact .two (.left (.left (.right .refl))) (.right .refl)
  | stated reason => exact .one .refl

/-- What a text on a configuration has to name. Of one that is not TOML, or not of the right shape,
this is that it should have been. -/
def ConfigError.subjects : ConfigError → List String
  | file path cause => [path, cause.message]
  | toml _ => ["TOML"]
  | duplicateId id => [quote id]
  | duplicateName name => [quote name]
  | emptyAddress device protocol => [quote device, protocol.name]
  | stated reason => [reason]

theorem Protocol.name_injective : Function.Injective Protocol.name := by
  intro p q h
  cases p <;> cases q <;> first | rfl | simp [name] at h

theorem TomlError.message_mentions (e : TomlError) : Mentions e.message "TOML" := by
  have hsyntax : Mentions "TOML syntax error" "TOML" := ⟨"", " syntax error", rfl⟩
  have hshape : Mentions "TOML: " "TOML" := ⟨"", ": ", rfl⟩
  unfold message
  split
  · exact hsyntax
  · exact hsyntax
  · exact hshape.left

theorem ConfigError.message_mentions (e : ConfigError) : MentionsAll e.message e.subjects := by
  cases e with
  | file path cause => exact .two (.left (.left .refl)) (.right .refl)
  | toml cause => exact .one cause.message_mentions
  | duplicateId id => exact .one (.right .refl)
  | duplicateName name => exact .one (.right .refl)
  | emptyAddress device protocol =>
    exact .two (.left (.left (.left (.right .refl)))) (.left (.right .refl))
  | stated reason => exact .one .refl

/-- A service without an address is told from the text about it. -/
theorem ConfigError.emptyAddress_message_inj {d d' : String} {p p' : Protocol}
    (h : (emptyAddress d p).message = (emptyAddress d' p').message) : d = d' ∧ p = p' := by
  dsimp only [message] at h
  simp only [String.append_assoc, String.append_right_inj] at h
  obtain ⟨hdevice, hprotocol⟩ := quote_append_inj h
  simp only [String.append_right_inj, String.append_left_inj] at hprotocol
  exact ⟨hdevice, Protocol.name_injective hprotocol⟩

/-- What a text on something unsupported has to name. -/
def Unsupported.subjects : Unsupported → List String
  | notAChannel target => [target]
  | stated what => [what]
  | what => [what.message]

theorem Unsupported.message_mentions (e : Unsupported) : MentionsAll e.message e.subjects := by
  cases e with
  | notAChannel target => exact .one (.left (.right .refl))
  | _ => exact .one .refl

/-- **The text about a document that cannot be read** names the step it was meant for, and says what
is wrong with it. -/
theorem Gnmi.PayloadError.message_mentions (e : Gnmi.PayloadError) :
    MentionsAll e.message [quote e.elem, e.cause.message] :=
  .two (.left (.left (.right .refl))) (.right .refl)

/-- The text about a document that cannot be read is that of one step only. -/
theorem Gnmi.PayloadError.message_inj {e e' : Gnmi.PayloadError} (h : e.message = e'.message) :
    e.elem = e'.elem ∧ e.cause.message = e'.cause.message := by
  dsimp only [message] at h
  simp only [String.append_assoc, String.append_right_inj] at h
  obtain ⟨helem, hcause⟩ := quote_append_inj h
  exact ⟨helem, (String.append_right_inj _).mp hcause⟩

/-- What the text of an error has to name: what its cause is about, or the service and the device,
and then whatever the error that it wraps is about. -/
def Error.subjects : Error → List String
  | allocation cause => cause.subjects
  | serviceNotRegistered protocol device => [protocol.name, quote device]
  | dial protocol device source => protocol.name :: quote device :: source.subjects
  | transport cause => cause.subjects
  | resolution cause => cause.subjects
  | unknownBackend name => [quote name]
  | config cause => cause.subjects
  | unsupported what => what.subjects
  | internal reason => [reason]
  | _ => []

/-- **The text of an error names all that the error is about**, however often it is wrapped. -/
theorem Error.message_mentions (e : Error) : MentionsAll e.message e.subjects := by
  induction e with
  | allocation cause => exact cause.message_mentions.right
  | serviceNotRegistered protocol device => exact .two (.left (.left .refl)) (.right .refl)
  | dial protocol device source ih =>
    exact .cons (.left (.left (.left (.left (.right .refl)))))
      (.cons (.left (.left (.right .refl))) ih.right)
  | transport cause => exact cause.message_mentions.right
  | resolution cause => exact cause.message_mentions.right
  | unknownBackend name => exact .one (.right .refl)
  | config cause => exact cause.message_mentions.right
  | unsupported what => exact what.message_mentions.right
  | internal reason => exact .one (.right .refl)
  | _ => exact .nil

end SwitchTestbed
