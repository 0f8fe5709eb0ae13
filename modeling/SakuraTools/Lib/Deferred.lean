import Mathlib.Logic.Basic
import Mathlib.Order.Defs.Unbundled
import Mathlib.Tactic.Common

/-!
# Computations with faults that are noticed later

An operation of a computation may fail without a throw: it returns something and leaves a fault
in the state, which stays there until the computation looks for it and throws.  A computation is
described by the condition under which it does all of its work: then it returns a certain value
and changes nothing, and otherwise it has thrown or the fault is in the state.
-/

namespace SakuraTools
namespace Deferred

variable {ε σ α β : Type}

section Faults

variable (bad : σ → Prop) (R : σ → σ → Prop)

/-- The computation has thrown, or has left a fault in the state. -/
def Spoilt (s : σ) : EStateM.Result ε σ α → Prop
  | .ok _ s' => bad s' ∧ R s s'
  | .error _ s' => R s s'

/-- The computation throws. -/
def Throws (x : EStateM ε σ α) (s : σ) : Prop := ∃ e s', x s = .error e s' ∧ R s s'

/-- A fault that is there stays there, unless the computation throws. -/
def Sticky (x : EStateM ε σ α) : Prop := ∀ s, bad s → Spoilt bad R s (x s)

/-- A fault that is there is noticed. -/
def Notices (x : EStateM ε σ α) : Prop := ∀ s, bad s → Throws R x s

/-- Under the condition `p`, and only then, the computation returns without a fault; it returns
`a` and changes nothing. -/
structure Does (p : Prop) (a : α) (x : EStateM ε σ α) (s : σ) : Prop where
  returns : p → x s = .ok a s
  fails : ¬ p → Spoilt bad R s (x s)

/-- Under the condition `p`, and only then, the computation returns; it returns `a` and changes
nothing. -/
structure Settles (p : Prop) (a : α) (x : EStateM ε σ α) (s : σ) : Prop where
  returns : p → x s = .ok a s
  fails : ¬ p → Throws R x s

end Faults

variable {bad : σ → Prop} {R : σ → σ → Prop} {x : EStateM ε σ α} {f : α → EStateM ε σ β} {s : σ}
  {p q : Prop} {a : α} {b : β}

/-! ## Sequences -/

lemma bind_of_ok {s' : σ} (h : x s = .ok a s') : (x >>= f) s = f a s' := by
  show EStateM.bind x f s = _
  rw [EStateM.bind, h]

lemma bind_of_error {e : ε} {s' : σ} (h : x s = .error e s') : (x >>= f) s = .error e s' := by
  show EStateM.bind x f s = _
  rw [EStateM.bind, h]

lemma Throws.bind (h : Throws R x s) (f : α → EStateM ε σ β) : Throws R (x >>= f) s := by
  obtain ⟨e, s', hx, hR⟩ := h
  exact ⟨e, s', bind_of_error hx, hR⟩

lemma Throws.trans [IsTrans σ R] {s' : σ} (hR : R s s') (h : Throws R x s') :
    ∃ e s'', x s' = .error e s'' ∧ R s s'' := by
  obtain ⟨e, s'', hx, hR'⟩ := h
  exact ⟨e, s'', hx, IsTrans.trans _ _ _ hR hR'⟩

lemma Throws.spoilt (h : Throws R x s) : Spoilt bad R s (x s) := by
  obtain ⟨e, s', hx, hR⟩ := h
  rw [hx]
  exact hR

lemma Spoilt.trans [IsTrans σ R] {s' : σ} (hR : R s s') {r : EStateM.Result ε σ α}
    (h : Spoilt bad R s' r) : Spoilt bad R s r := by
  cases r with
  | ok a s'' => exact ⟨h.1, IsTrans.trans _ _ _ hR h.2⟩
  | error e s'' => exact IsTrans.trans _ _ _ hR h

lemma Notices.sticky (h : Notices bad R x) : Sticky bad R x := fun s hs => (h s hs).spoilt

lemma Notices.bind (h : Notices bad R x) (f : α → EStateM ε σ β) : Notices bad R (x >>= f) :=
  fun s hs => (h s hs).bind f

lemma sticky_pure [Std.Refl R] (a : α) : Sticky bad R (pure a : EStateM ε σ α) :=
  fun s hs => ⟨hs, refl_of R s⟩

lemma spoilt_bind [IsTrans σ R] (hx : Spoilt bad R s (x s)) (hf : ∀ a, Sticky bad R (f a)) :
    Spoilt bad R s ((x >>= f) s) := by
  cases hrun : x s with
  | ok a s' =>
    rw [hrun] at hx
    rw [bind_of_ok hrun]
    exact (hf a s' hx.1).trans hx.2
  | error e s' =>
    rw [hrun] at hx
    rw [bind_of_error hrun]
    exact hx

lemma Sticky.bind [IsTrans σ R] (hx : Sticky bad R x) (hf : ∀ a, Sticky bad R (f a)) :
    Sticky bad R (x >>= f) := fun s hs => spoilt_bind (hx s hs) hf

lemma throws_bind [IsTrans σ R] (hx : Spoilt bad R s (x s)) (hf : ∀ a, Notices bad R (f a)) :
    Throws R (x >>= f) s := by
  cases hrun : x s with
  | ok a s' =>
    rw [hrun] at hx
    obtain ⟨e, s'', hrun', hR⟩ := (hf a s' hx.1).trans hx.2
    exact ⟨e, s'', (bind_of_ok hrun).trans hrun', hR⟩
  | error e s' =>
    rw [hrun] at hx
    exact ⟨e, s', bind_of_error hrun, hx⟩

/-- A fault is noticed when something behind it looks for it. -/
lemma Sticky.bind_notices [IsTrans σ R] (hx : Sticky bad R x)
    (hf : ∀ a, Notices bad R (f a)) : Notices bad R (x >>= f) :=
  fun s hs => throws_bind (hx s hs) hf

/-! ## Conditions -/

lemma does_pure (a : α) (s : σ) : Does bad R True a (pure a : EStateM ε σ α) s :=
  ⟨fun _ => rfl, fun h => absurd trivial h⟩

lemma settles_pure (a : α) (s : σ) : Settles R True a (pure a : EStateM ε σ α) s :=
  ⟨fun _ => rfl, fun h => absurd trivial h⟩

lemma Settles.does (h : Settles R p a x s) : Does bad R p a x s :=
  ⟨h.returns, fun hp => (h.fails hp).spoilt⟩

lemma Does.congr (h : Does bad R p a x s) (hq : p ↔ q) : Does bad R q a x s := by
  rwa [← propext hq]

lemma Settles.congr (h : Settles R p a x s) (hq : p ↔ q) : Settles R q a x s := by
  rwa [← propext hq]

lemma Does.bind [IsTrans σ R] (hx : Does bad R p a x s) (hf : Does bad R q b (f a) s)
    (hsticky : ∀ a, Sticky bad R (f a)) : Does bad R (p ∧ q) b (x >>= f) s := by
  refine ⟨fun h => (bind_of_ok (hx.returns h.1)).trans (hf.returns h.2), fun h => ?_⟩
  by_cases hp : p
  · rw [bind_of_ok (hx.returns hp)]
    exact hf.fails fun hq => h ⟨hp, hq⟩
  · exact spoilt_bind (hx.fails hp) hsticky

lemma Settles.bind (hx : Settles R p a x s) (hf : Settles R q b (f a) s) :
    Settles R (p ∧ q) b (x >>= f) s := by
  refine ⟨fun h => (bind_of_ok (hx.returns h.1)).trans (hf.returns h.2), fun h => ?_⟩
  by_cases hp : p
  · obtain ⟨e, s', hrun, hR⟩ := hf.fails fun hq => h ⟨hp, hq⟩
    exact ⟨e, s', (bind_of_ok (hx.returns hp)).trans hrun, hR⟩
  · exact (hx.fails hp).bind f

/-- What is behind a computation notices the faults of it. -/
lemma Does.bind_settles [IsTrans σ R] (hx : Does bad R p a x s) (hf : Settles R q b (f a) s)
    (hnotices : ∀ a, Notices bad R (f a)) : Settles R (p ∧ q) b (x >>= f) s := by
  refine ⟨fun h => (bind_of_ok (hx.returns h.1)).trans (hf.returns h.2), fun h => ?_⟩
  by_cases hp : p
  · obtain ⟨e, s', hrun, hR⟩ := hf.fails fun hq => h ⟨hp, hq⟩
    exact ⟨e, s', (bind_of_ok (hx.returns hp)).trans hrun, hR⟩
  · exact throws_bind (hx.fails hp) hnotices

/-! ## Loops -/

/-- A computation for each item of a list, with the number of the item. -/
def each (f : ℕ → α → EStateM ε σ β) : ℕ → List α → EStateM ε σ (List β)
  | _, [] => pure []
  | i, a :: l => do
    let b ← f i a
    let bs ← each f (i + 1) l
    pure (b :: bs)

section Each

variable {f : ℕ → α → EStateM ε σ β}

lemma sticky_each [Std.Refl R] [IsTrans σ R] (hf : ∀ i a, Sticky bad R (f i a)) (i : ℕ)
    (l : List α) : Sticky bad R (each f i l) := by
  induction l generalizing i with
  | nil => exact sticky_pure []
  | cons a l ih =>
    exact (hf i a).bind fun b => (ih (i + 1)).bind fun bs => sticky_pure (b :: bs)

lemma forall_range_succ {p : ℕ → Prop} {i n : ℕ} :
    (p i ∧ ∀ j, i + 1 ≤ j → j < i + 1 + n → p j) ↔ ∀ j, i ≤ j → j < i + (n + 1) → p j := by
  constructor
  · rintro ⟨hi, hrest⟩ j hj hlt
    rcases Nat.eq_or_lt_of_le hj with rfl | hj
    · exact hi
    · exact hrest j hj (by omega)
  · intro h
    exact ⟨h i (Nat.le_refl i) (by omega), fun j hj hlt => h j (by omega) (by omega)⟩

/-- A loop does its work when every round does. -/
lemma does_each [Std.Refl R] [IsTrans σ R] {p : ℕ → Prop} {g : α → β}
    (hf : ∀ i a, Does bad R (p i) (g a) (f i a) s) (hsticky : ∀ i a, Sticky bad R (f i a))
    (i : ℕ) (l : List α) :
    Does bad R (∀ j, i ≤ j → j < i + l.length → p j) (l.map g) (each f i l) s := by
  induction l generalizing i with
  | nil => exact (does_pure [] s).congr (iff_of_true trivial fun j h h' => by simp at h'; omega)
  | cons a l ih =>
    have hrest : Does bad R (∀ j, i + 1 ≤ j → j < i + 1 + l.length → p j) (g a :: l.map g)
        (each f (i + 1) l >>= fun bs => pure (g a :: bs)) s :=
      Does.congr (Does.bind (ih (i + 1)) (does_pure _ s) fun bs => sticky_pure _)
        (iff_of_eq (and_true _))
    exact Does.congr (Does.bind (hf i a) hrest fun b => (sticky_each hsticky (i + 1) l).bind
      fun bs => sticky_pure (b :: bs)) forall_range_succ

end Each

end Deferred
end SakuraTools
