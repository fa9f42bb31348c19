import SwitchTestbed.Proofs.Binding.Lifecycle
import SwitchTestbed.Proofs.Dial

/-!
# Reachable bindings

* `Backend.Keeps` : a property of the state that no operation of a backend ends;
* `Binding.Reached` : what calls and dials lead to, in any order and number. In between the backend
  may be used by others, as long as a given property of its state stays;
* `Binding.Reached.held_granted` : what is held is what the backend has granted;
* `inventoryBackend_keeps` : a pool keeps its inventory.
-/

namespace SwitchTestbed

variable {σ τ ω : Type}

/-- No operation of the backend ends the property of its state. -/
structure Backend.Keeps (B : Backend σ τ) (P : σ → Prop) : Prop where
  reserve : ∀ c now d s, P s → P (B.reserve c now d s).1
  release : ∀ s, P s → P (B.release s).1
  dial : ∀ address o s, P s → P (B.dial address o s).1

theorem Backend.keeps_of_forall (B : Backend σ τ) {P : σ → Prop} (h : ∀ s, P s) : B.Keeps P where
  reserve _ _ _ _ _ := h _
  release _ _ := h _
  dial _ _ _ _ := h _

/-- The backend may grant the topology in a state of the property. -/
def Backend.Grants (B : Backend σ τ) (P : σ → Prop) (t : Topology) : Prop :=
  ∃ c now d s, P s ∧ (B.reserve c now d s).2 = .ok t

namespace Binding

/-- A binding that calls and dials lead to. -/
inductive Reached (B : Backend σ τ) (P : σ → Prop) : Binding σ → Prop where
  | start {s : σ} (hs : P s) : Reached B P ⟨s, none⟩
  | call {b : Binding σ} (h : Reached B P b) (x : Call) : Reached B P (b.call B x).1
  | dial {b : Binding σ} (h : Reached B P b) (c : Context) (now : Instant) (address : String)
      (o : DialOptions) : Reached B P (b.dial B c now address o).1
  /-- The devices are used, or somebody else asks the backend. -/
  | aside {b : Binding σ} (h : Reached B P b) {s : σ} (hs : P s) :
      Reached B P { b with backend := s }

/-- Its backend has the property, and what it holds was granted by a backend that had. -/
structure Sound (B : Backend σ τ) (P : σ → Prop) (b : Binding σ) : Prop where
  backend : P b.backend
  held : ∀ r, b.held = some r → ∃ t, B.Grants P t ∧ Reservation.ofTopology t = .ok r

section Sound

variable {B : Backend σ τ} {P : σ → Prop} {b : Binding σ}

theorem Sound.withBackend (h : b.Sound B P) {s : σ} (hs : P s) :
    Sound B P { b with backend := s } where
  backend := hs
  held := h.held

/-- **One call** holds nothing but what is granted. -/
theorem Sound.call (hkeep : B.Keeps P) (h : b.Sound B P) (x : Call) :
    (b.call B x).1.Sound B P := by
  cases x with
  | reserve c now fixed d =>
    simp only [Binding.call]
    rcases reserve_outcome B b c now fixed d with ⟨t, r, hgrant, hr, heq⟩ | ⟨s, heq, hs⟩
    · rw [heq]
      refine ⟨hkeep.reserve c now d _ h.backend, fun r' hr' => ?_⟩
      cases hr'
      exact ⟨t, ⟨c, now, d, b.backend, h.backend, hgrant⟩, hr⟩
    · -- what was granted may have been given back at once
      rw [heq]
      refine h.withBackend ?_
      rcases hs with rfl | rfl | rfl
      · exact h.backend
      · exact hkeep.reserve c now d _ h.backend
      · exact hkeep.release _ (hkeep.reserve c now d _ h.backend)
  | release c now =>
    simp only [Binding.call]
    rcases release_outcome B b c now with heq | ⟨s, heq, hs⟩
    · rw [heq]
      refine ⟨hkeep.release _ h.backend, fun r' hr' => ?_⟩
      cases hr'
    · rw [heq]
      refine h.withBackend ?_
      rcases hs with rfl | rfl
      · exact h.backend
      · exact hkeep.release _ h.backend

theorem Sound.dial (hkeep : B.Keeps P) (h : b.Sound B P) (c : Context) (now : Instant)
    (address : String) (o : DialOptions) : (b.dial B c now address o).1.Sound B P := by
  refine h.withBackend (s := (c.perform now (B.dial address o) b.backend).1) ?_
  cases hlive : c.isCancelled now with
  | true =>
    rw [Context.perform_cancelled hlive]
    exact h.backend
  | false =>
    rw [Context.perform_state hlive]
    exact hkeep.dial address o _ h.backend

theorem Reached.sound (hkeep : B.Keeps P) (h : b.Reached B P) : b.Sound B P := by
  induction h with
  | start hs => exact ⟨hs, nofun⟩
  | call _ x ih => exact ih.call hkeep x
  | dial _ c now address o ih => exact ih.dial hkeep c now address o
  | aside _ hs ih => exact ih.withBackend hs

theorem Reached.held_granted (hkeep : B.Keeps P) (h : b.Reached B P) {r : Reservation}
    (hr : b.held = some r) : ∃ t, B.Grants P t ∧ Reservation.ofTopology t = .ok r :=
  (h.sound hkeep).held r hr

end Sound

end Binding

/-- Whatever is asked of a pool, it keeps its inventory. -/
theorem inventoryBackend_keeps (S : Stubs ω τ) (connect : String → Work (Except String Console))
    (inv : Inventory) : (inventoryBackend S connect).Keeps fun s => s.pool.inventory = inv where
  reserve c now d s h := by
    rcases stock_reserve_cases S connect c now d s with
      ⟨duts, ates, used, expiresAt, -, -, heq⟩ | ⟨e, heq⟩ | heq <;> rw [heq] <;> exact h
  release s h := by
    cases hactive : s.pool.active with
    | none =>
      rw [release_of_free S connect hactive]
      exact h
    | some a =>
      rw [release_of_active S connect hactive]
      exact h
  dial _ _ _ h := h

end SwitchTestbed
