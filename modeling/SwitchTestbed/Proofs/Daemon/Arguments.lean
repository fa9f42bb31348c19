import SwitchTestbed.Daemon.Arguments

/-!
# What an argument list asks for

* `isValue`, `Awaits` : which arguments are values of output options, told from their positions;
* `At` : an argument of a kind at a position; those of two lists one after the other
  (`At.append_cases`);
* `Request.after` : a request and one behind it, which counts where it says anything;
* `words_append`, `Request.ofWords_append` : the words of two lists, and what words ask for;
* `Meant` : a request, as the positions of the arguments tell it (`meant_ofList`);
* `Scanned`, `Composes`, `arguments_compose` : the main result.
-/

namespace SwitchTestbed.Daemon

/-! ## Positions -/

/-- Whether the argument at a position is a value: before it stands an output option that is not a
value itself. -/
def isValue (args : List String) : Nat → Bool
  | 0 => false
  | i + 1 => args[i]?.any isOutputOption && !isValue args i

/-- The next argument would be a value. -/
def Awaits (args : List String) : Prop := isValue args args.length = true

instance (args : List String) : Decidable (Awaits args) :=
  inferInstanceAs (Decidable (isValue args args.length = true))

/-- An argument of a kind at a position where a value stands, or where none does. -/
def At (kind : String → Bool) (value : Bool) (args : List String) (i : Nat) (s : String) : Prop :=
  args[i]? = some s ∧ kind s = true ∧ isValue args i = value

section Positions

variable {xs ys : List String}

theorem isValue_append_left (ys : List String) {i : Nat} (h : i ≤ xs.length) :
    isValue (xs ++ ys) i = isValue xs i := by
  induction i with
  | zero => rfl
  | succ i ih => rw [isValue, isValue, ih (Nat.le_of_succ_le h), List.getElem?_append_left h]

theorem isValue_append_right (h : ¬Awaits xs) (ys : List String) (i : Nat) :
    isValue (xs ++ ys) (xs.length + i) = isValue ys i := by
  induction i with
  | zero =>
    rw [Nat.add_zero, isValue_append_left ys (Nat.le_refl _)]
    exact Bool.not_eq_true _ ▸ h
  | succ i ih =>
    rw [← Nat.add_assoc, isValue, isValue, ih, List.getElem?_append_right (Nat.le_add_right _ _),
      Nat.add_sub_cancel_left]

theorem awaits_append (h : ¬Awaits xs) (ys : List String) :
    Awaits (xs ++ ys) ↔ Awaits ys := by
  rw [Awaits, Awaits, List.length_append, isValue_append_right h]

theorem awaits_singleton (s : String) : Awaits [s] ↔ isOutputOption s = true := by
  simp [Awaits, isValue]

/-- An option takes its value, whatever that is. -/
theorem not_awaits_pair {o : String} (h : isOutputOption o = true) (v : String) :
    ¬Awaits [o, v] := by
  simp [Awaits, isValue, h]

variable {kind : String → Bool} {value : Bool} {i : Nat} {s : String}

theorem At.append_left (h : At kind value xs i s) (ys : List String) :
    At kind value (xs ++ ys) i s := by
  obtain ⟨hs, hkind, hvalue⟩ := h
  have hi : i < xs.length := (List.getElem?_eq_some_iff.mp hs).1
  exact ⟨(List.getElem?_append_left hi).trans hs, hkind,
    (isValue_append_left ys (Nat.le_of_lt hi)).trans hvalue⟩

theorem at_append_right (h : ¬Awaits xs) :
    At kind value (xs ++ ys) (xs.length + i) s ↔ At kind value ys i s := by
  rw [At, At, isValue_append_right h, List.getElem?_append_right (Nat.le_add_right _ _),
    Nat.add_sub_cancel_left]

theorem At.append_cases (h : At kind value (xs ++ ys) i s) (hxs : ¬Awaits xs) :
    At kind value xs i s ∨ ∃ j, i = xs.length + j ∧ At kind value ys j s := by
  rcases Nat.lt_or_ge i xs.length with hi | hi
  · obtain ⟨hs, hkind, hvalue⟩ := h
    rw [List.getElem?_append_left hi] at hs
    rw [isValue_append_left ys (Nat.le_of_lt hi)] at hvalue
    exact .inl ⟨hs, hkind, hvalue⟩
  · obtain ⟨j, rfl⟩ := Nat.exists_eq_add_of_le hi
    exact .inr ⟨j, rfl, (at_append_right hxs).mp h⟩

theorem at_nil : ¬At kind value [] i s := by
  rintro ⟨hs, -, -⟩
  cases hs

theorem at_singleton {t : String} :
    At kind value [t] i s ↔ i = 0 ∧ t = s ∧ kind s = true ∧ value = false := by
  cases i with
  | zero => simp [At, isValue]
  | succ i => simp [At]

theorem at_pair {o v : String} (h : isOutputOption o = true) :
    At kind value [o, v] i s ↔ (i = 0 ∧ o = s ∧ kind s = true ∧ value = false) ∨
      (i = 1 ∧ v = s ∧ kind s = true ∧ value = true) := by
  match i with
  | 0 => simp [At, isValue]
  | 1 => simp [At, isValue, h]
  | i + 2 => simp [At]

end Positions

/-- The argument at the last position with a property, if there is such a position. -/
inductive Last (P : Nat → String → Prop) : Option String → Prop where
  | here {i : Nat} {s : String} (h : P i s) (hlast : ∀ j t, P j t → j ≤ i) : Last P (some s)
  | nowhere (h : ∀ i s, ¬P i s) : Last P none

theorem Last.append {kind : String → Bool} {value : Bool} {xs ys : List String}
    {o o' : Option String} (h : ¬Awaits xs) (hxs : Last (At kind value xs) o)
    (hys : Last (At kind value ys) o') : Last (At kind value (xs ++ ys)) (o'.or o) := by
  cases hys with
  | @here i s hi hlast =>
    -- every position of the first list is before those of the second
    refine .here ((at_append_right h).mpr hi) fun j t hj => ?_
    rcases hj.append_cases h with ⟨hj, -⟩ | ⟨k, rfl, hk⟩
    · have hlt : j < xs.length := (List.getElem?_eq_some_iff.mp hj).1
      omega
    · exact Nat.add_le_add_left (hlast k t hk) _
  | nowhere hnone =>
    cases hxs with
    | @here i s hi hlast =>
      refine .here (hi.append_left ys) fun j t hj => ?_
      rcases hj.append_cases h with hj | ⟨k, -, hk⟩
      · exact hlast j t hj
      · exact absurd hk (hnone k t)
    | nowhere hnone' =>
      refine .nowhere fun j t hj => ?_
      rcases hj.append_cases h with hj | ⟨k, -, hk⟩
      · exact hnone' j t hj
      · exact hnone k t hk

/-! ## Requests -/

/-- What is said, and before it what it leaves open. -/
def Arguments.after (later earlier : Arguments) : Arguments :=
  ⟨later.config.or earlier.config, later.output.or earlier.output⟩

/-- A request behind another. One for help is never taken back. -/
def Request.after : Request → Request → Request
  | hold later, hold earlier => hold (later.after earlier)
  | _, _ => help

namespace Request

variable {xs ys : List String}

theorem after_help (r : Request) : r.after help = help := by cases r <;> rfl

theorem after_nothing (r : Request) : r.after (hold {}) = r := by
  cases r with
  | help => rfl
  | hold a => simp [after, Arguments.after]

theorem nothing_after (r : Request) : (hold {}).after r = r := by
  cases r with
  | help => rfl
  | hold a => simp [after, Arguments.after]

theorem after_assoc (r s t : Request) : (r.after s).after t = r.after (s.after t) := by
  cases r <;> cases s <;> cases t <;> simp [after, Arguments.after, Option.or_assoc]

theorem add_eq_after (a : Arguments) (w : Word) :
    hold (a.add w) = (hold (({} : Arguments).add w)).after (hold a) := by
  cases w <;> simp [Arguments.add, after, Arguments.after]

theorem ofWords_cons_of_help {w : Word} (h : w.asksForHelp = true) (a : Arguments)
    (ws : List Word) : ofWords a (w :: ws) = help := if_pos h

theorem ofWords_cons_of_not_help {w : Word} (h : ¬w.asksForHelp = true) (a : Arguments)
    (ws : List Word) : ofWords a (w :: ws) = ofWords (a.add w) ws := if_neg h

/-- What was said before counts where the words say nothing. -/
theorem ofWords_eq_after (a : Arguments) (ws : List Word) :
    ofWords a ws = (ofWords {} ws).after (hold a) := by
  induction ws generalizing a with
  | nil => exact (nothing_after (hold a)).symm
  | cons w ws ih =>
    by_cases hhelp : w.asksForHelp = true
    · rw [ofWords_cons_of_help hhelp, ofWords_cons_of_help hhelp]
      rfl
    · rw [ofWords_cons_of_not_help hhelp, ofWords_cons_of_not_help hhelp, ih (a.add w),
        ih (({} : Arguments).add w), after_assoc, ← add_eq_after]

theorem ofWords_append (a : Arguments) (ws ws' : List Word) :
    ofWords a (ws ++ ws') = (ofWords {} ws').after (ofWords a ws) := by
  induction ws generalizing a with
  | nil => exact ofWords_eq_after a ws'
  | cons w ws ih =>
    rw [List.cons_append]
    by_cases hhelp : w.asksForHelp = true
    · rw [ofWords_cons_of_help hhelp, ofWords_cons_of_help hhelp, after_help]
    · rw [ofWords_cons_of_not_help hhelp, ofWords_cons_of_not_help hhelp, ih]

end Request

/-! ## Words -/

section Words

variable {s o v : String}

theorem words_cons (h : isOutputOption s = false) (rest : List String) :
    words (s :: rest) = Word.ofArgument s :: words rest := by
  cases rest <;> simp [words, h]

theorem words_output (h : isOutputOption o = true) (v : String) (rest : List String) :
    words (o :: v :: rest) = .output o v :: words rest := by
  simp [words, h]

/-- The words of two lists are those of the first and those of the second, unless a value is missing
between them. -/
theorem words_append (xs ys : List String) (h : ¬Awaits xs) :
    words (xs ++ ys) = words xs ++ words ys := by
  induction xs using words.induct with
  | case1 => rfl
  | case2 s =>
    have hplain : isOutputOption s = false := by simpa [awaits_singleton] using h
    rw [List.singleton_append, words_cons hplain, words_cons hplain]
    rfl
  -- an option with its value awaits nothing, nor does any other argument but such an option
  | case3 s t rest houtput ih =>
    have hrest : ¬Awaits rest := mt (awaits_append (not_awaits_pair houtput t) rest).mpr h
    calc words (s :: t :: (rest ++ ys))
        = .output s t :: words (rest ++ ys) := words_output houtput t _
      _ = .output s t :: words rest ++ words ys := congrArg _ (ih hrest)
      _ = words (s :: t :: rest) ++ words ys := by rw [words_output houtput]
  | case4 s t rest hplain ih =>
    rw [Bool.not_eq_true] at hplain
    have hsingle : ¬Awaits [s] := by simp [awaits_singleton, hplain]
    have hrest : ¬Awaits (t :: rest) := mt (awaits_append hsingle (t :: rest)).mpr h
    calc words (s :: (t :: rest ++ ys))
        = .ofArgument s :: words (t :: rest ++ ys) := words_cons hplain _
      _ = .ofArgument s :: words (t :: rest) ++ words ys := congrArg _ (ih hrest)
      _ = words (s :: t :: rest) ++ words ys := by rw [words_cons hplain]

theorem Request.ofList_append (xs ys : List String) (h : ¬Awaits xs) :
    ofList (xs ++ ys) = (ofList ys).after (ofList xs) := by
  rw [ofList, words_append xs ys h, ofWords_append]
  rfl

end Words

/-! ## Positions and requests -/

/-- A request, as the positions of the arguments tell it. -/
inductive Meant (args : List String) : Request → Prop where
  | help {i : Nat} {s : String} (h : At isHelpOption false args i s) : Meant args .help
  | hold {a : Arguments} (h : ∀ i s, ¬At isHelpOption false args i s)
      (hconfig : Last (At (fun s => !isOption s) false args) a.config)
      (houtput : Last (At (fun _ => true) true args) a.output) : Meant args (.hold a)

theorem Meant.append {xs ys : List String} {r r' : Request} (h : ¬Awaits xs) (hxs : Meant xs r)
    (hys : Meant ys r') : Meant (xs ++ ys) (r'.after r) := by
  cases hxs with
  | help hat =>
    rw [Request.after_help]
    exact .help (hat.append_left ys)
  | hold hnone hconfig houtput =>
    cases hys with
    | help hat => exact .help ((at_append_right h).mpr hat)
    | hold hnone' hconfig' houtput' =>
      refine .hold (fun i s hat => ?_) (hconfig.append h hconfig') (houtput.append h houtput')
      rcases hat.append_cases h with hat | ⟨j, -, hat⟩
      · exact hnone i s hat
      · exact hnone' j s hat

section Options

variable {s o v : String}

theorem isOption_of_output (h : isOutputOption s = true) :
    isOption s = true ∧ isHelpOption s = false := by
  have hs : s = "--output" ∨ s = "-o" := by simpa [isOutputOption] using h
  rcases hs with rfl | rfl <;> decide

theorem isOption_of_help (h : isHelpOption s = true) :
    isOption s = true ∧ isOutputOption s = false := by
  have hs : s = "--help" ∨ s = "-h" := by simpa [isHelpOption] using h
  rcases hs with rfl | rfl <;> decide

theorem kinds_of_not_option (h : isOption s = false) :
    isOutputOption s = false ∧ isHelpOption s = false := by
  constructor <;> rw [Bool.eq_false_iff] <;> intro hkind
  · rw [(isOption_of_output hkind).1] at h
    cases h
  · rw [(isOption_of_help hkind).1] at h
    cases h

theorem ofList_output (h : isOutputOption o = true) : Request.ofList [o] = .hold {} := by
  simp [Request.ofList, words, h, Request.ofWords, Word.asksForHelp, Arguments.add]

theorem ofList_pair (h : isOutputOption o = true) (v : String) :
    Request.ofList [o, v] = .hold { output := some v } := by
  simp [Request.ofList, words, h, Request.ofWords, Word.asksForHelp, Arguments.add]

theorem ofList_help (h : isHelpOption s = true) : Request.ofList [s] = .help := by
  have houtput : isOutputOption s = false := (isOption_of_help h).2
  simp [Request.ofList, words, houtput, Word.ofArgument, h, Request.ofWords, Word.asksForHelp]

theorem ofList_unknown (houtput : isOutputOption s = false) (hhelp : isHelpOption s = false)
    (h : isOption s = true) : Request.ofList [s] = .hold {} := by
  simp [Request.ofList, words, houtput, Word.ofArgument, hhelp, h, Request.ofWords,
    Word.asksForHelp, Arguments.add]

theorem ofList_path (h : isOption s = false) : Request.ofList [s] = .hold { config := some s } := by
  obtain ⟨houtput, hhelp⟩ := kinds_of_not_option h
  simp [Request.ofList, words, houtput, Word.ofArgument, hhelp, h, Request.ofWords,
    Word.asksForHelp, Arguments.add]

/-- An option that does not ask for help says nothing on its own. -/
theorem meant_option (hhelp : isHelpOption s = false) (h : isOption s = true) :
    Meant [s] (.hold {}) := by
  refine .hold (fun i t hat => ?_) (.nowhere fun i t hat => ?_) (.nowhere fun i t hat => ?_)
  · obtain ⟨-, rfl, hkind, -⟩ := at_singleton.mp hat
    exact Bool.false_ne_true (hhelp.symm.trans hkind)
  · obtain ⟨-, rfl, hkind, -⟩ := at_singleton.mp hat
    simp [h] at hkind
  · obtain ⟨-, -, -, hvalue⟩ := at_singleton.mp hat
    cases hvalue

theorem meant_singleton (s : String) : Meant [s] (Request.ofList [s]) := by
  cases houtput : isOutputOption s with
  | true =>
    obtain ⟨hoption, hhelp⟩ := isOption_of_output houtput
    rw [ofList_output houtput]
    exact meant_option hhelp hoption
  | false =>
    cases hhelp : isHelpOption s with
    | true =>
      rw [ofList_help hhelp]
      exact .help (at_singleton.mpr ⟨rfl, rfl, hhelp, rfl⟩)
    | false =>
      cases hoption : isOption s with
      | true =>
        rw [ofList_unknown houtput hhelp hoption]
        exact meant_option hhelp hoption
      | false =>
        rw [ofList_path hoption]
        refine .hold (fun i t hat => ?_) (.here (at_singleton.mpr ⟨rfl, rfl, ?_, rfl⟩) ?_)
          (.nowhere fun i t hat => ?_)
        · obtain ⟨-, rfl, hkind, -⟩ := at_singleton.mp hat
          exact Bool.false_ne_true (hhelp.symm.trans hkind)
        · simp [hoption]
        · intro j t hat
          exact Nat.le_of_eq (at_singleton.mp hat).1
        · obtain ⟨-, -, -, hvalue⟩ := at_singleton.mp hat
          cases hvalue

theorem meant_pair (h : isOutputOption o = true) (v : String) :
    Meant [o, v] (Request.ofList [o, v]) := by
  obtain ⟨hoption, hhelp⟩ := isOption_of_output h
  rw [ofList_pair h]
  refine .hold ?_ (.nowhere ?_) (.here ((at_pair h).mpr (.inr ⟨rfl, rfl, rfl, rfl⟩)) ?_)
  · simp [at_pair h, hhelp]
  · simp [at_pair h, hoption]
  · simp [at_pair h]

/-- **What an argument list asks for** is told by the positions of its arguments. -/
theorem meant_ofList (args : List String) : Meant args (Request.ofList args) := by
  induction args using words.induct with
  | case1 =>
    exact .hold (fun _ _ => at_nil) (.nowhere fun _ _ => at_nil) (.nowhere fun _ _ => at_nil)
  | case2 s => exact meant_singleton s
  | case3 s t rest houtput ih =>
    have hpair := not_awaits_pair houtput t
    have hmeant := (meant_pair houtput t).append hpair ih
    rwa [← Request.ofList_append [s, t] rest hpair] at hmeant
  | case4 s t rest hplain ih =>
    have hsingle : ¬Awaits [s] := by simpa [awaits_singleton] using hplain
    have hmeant := (meant_singleton s).append hsingle ih
    rwa [← Request.ofList_append [s] (t :: rest) hsingle] at hmeant

end Options

/-! ## Main result -/

/-- An argument list is read as a whole, and what it asks for is told by its positions. -/
structure Scanned (args : List String) : Prop where
  /-- Every argument belongs to one word, in order. -/
  consumed : (words args).flatMap Word.arguments = args
  help : Request.ofList args = .help ↔ ∃ i s, At isHelpOption false args i s
  /-- The last argument that is neither an option nor a value counts. -/
  config : ∀ a, Request.ofList args = .hold a →
    Last (At (fun s => !isOption s) false args) a.config
  /-- The last value counts, whatever it looks like. -/
  output : ∀ a, Request.ofList args = .hold a → Last (At (fun _ => true) true args) a.output

/-- What arguments behind an argument list add to what it asks for. -/
structure Composes (xs : List String) : Prop where
  append : ∀ ys, Request.ofList (xs ++ ys) = (Request.ofList ys).after (Request.ofList xs)
  config : ∀ s a, isOption s = false → Request.ofList xs = .hold a →
    Request.ofList (xs ++ [s]) = .hold { a with config := some s }
  output : ∀ o v a, isOutputOption o = true → Request.ofList xs = .hold a →
    Request.ofList (xs ++ [o, v]) = .hold { a with output := some v }
  unfinished : ∀ o, isOutputOption o = true → Request.ofList (xs ++ [o]) = Request.ofList xs
  unknown : ∀ s ys, isOption s = true → isOutputOption s = false → isHelpOption s = false →
    Request.ofList (xs ++ s :: ys) = Request.ofList (xs ++ ys)

theorem scanned (args : List String) : Scanned args := by
  have hmeant := meant_ofList args
  refine ⟨flatMap_arguments_words args, ?_, ?_, ?_⟩
  · constructor
    · intro hhelp
      rw [hhelp] at hmeant
      cases hmeant with
      | help h => exact ⟨_, _, h⟩
    · rintro ⟨i, s, h⟩
      cases hrequest : Request.ofList args with
      | help => rfl
      | hold a =>
        rw [hrequest] at hmeant
        cases hmeant with
        | hold hnone => exact absurd h (hnone i s)
  · intro a ha
    rw [ha] at hmeant
    cases hmeant with
    | hold _ hconfig => exact hconfig
  · intro a ha
    rw [ha] at hmeant
    cases hmeant with
    | hold _ _ houtput => exact houtput

theorem composes {xs : List String} (h : ¬Awaits xs) : Composes xs where
  append ys := Request.ofList_append xs ys h
  config s a hs ha := by
    rw [Request.ofList_append xs [s] h, ofList_path hs, ha]
    simp [Request.after, Arguments.after]
  output o v a ho ha := by
    rw [Request.ofList_append xs [o, v] h, ofList_pair ho, ha]
    simp [Request.after, Arguments.after]
  unfinished o ho := by rw [Request.ofList_append xs [o] h, ofList_output ho, Request.nothing_after]
  unknown s ys hoption houtput hhelp := by
    have hsingle : ¬Awaits [s] := by simp [awaits_singleton, houtput]
    have hys : Request.ofList (s :: ys) = Request.ofList ys := by
      have happend := Request.ofList_append [s] ys hsingle
      rwa [ofList_unknown houtput hhelp hoption, Request.after_nothing] at happend
    rw [Request.ofList_append xs (s :: ys) h, Request.ofList_append xs ys h, hys]

/-- **Argument lists compose**: what stands behind a list counts before it, unless its first
argument is the value that the list still awaits. -/
theorem arguments_compose :
    (∀ args, Scanned args) ∧ ∀ xs, ¬Awaits xs → Composes xs :=
  ⟨scanned, fun _ => composes⟩

/-- The value of the first option asks for no help, and the last option stays without a value. -/
theorem arguments_compose_dashed :
    ¬Awaits ["-o", "-h", "--fast"] ∧
      Request.ofList (["-o", "-h", "--fast"] ++ ["lab.toml", "-o"]) =
        .hold ⟨some "lab.toml", some "-h"⟩ :=
  ⟨by decide, ((arguments_compose.2 ["-o", "-h", "--fast"] (by decide)).append _).trans (by decide)⟩

end SwitchTestbed.Daemon
