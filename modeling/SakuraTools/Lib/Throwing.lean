import Mathlib.Order.Defs.Unbundled

/-!
# Computations that may throw

A computation over a state that may throw leaves the state as it is then, not as it was before.
If every operation keeps an invariant and only goes forward, then so does a caller who catches what
is thrown.
-/

namespace SakuraTools
namespace Throwing

variable {ε σ α β : Type}

/-! ## The state that is left -/

/-- The state that is left, after a return or a throw. -/
def left : EStateM.Result ε σ α → σ
  | .ok _ s => s
  | .error _ s => s

/-- What is returned, if nothing is thrown. -/
def value : EStateM.Result ε σ α → Except ε α
  | .ok a _ => .ok a
  | .error e _ => .error e

/-- The computation without the state that is left by a throw. -/
def drop (x : EStateM ε σ α) (s : σ) : Except ε (α × σ) :=
  match x s with
  | .ok a s' => .ok (a, s')
  | .error e _ => .error e

lemma drop_bind (x : EStateM ε σ α) (f : α → EStateM ε σ β) (s : σ) :
    drop (x >>= f) s = drop x s >>= fun r => drop (f r.1) r.2 := by
  show drop (EStateM.bind x f) s = _
  rw [drop, EStateM.bind, drop]
  cases x s with
  | ok a s' => rfl
  | error e s' => rfl

lemma drop_bind_of {x : EStateM ε σ α} {f : α → EStateM ε σ β} {s : σ}
    {y : Except ε (α × σ)} {g : α × σ → Except ε (β × σ)} (hx : drop x s = y)
    (hf : ∀ a s', drop (f a) s' = g (a, s')) : drop (x >>= f) s = y >>= g := by
  rw [drop_bind, hx]
  cases y with
  | ok r => exact hf r.1 r.2
  | error e => rfl

lemma drop_map (g : α → β) (x : EStateM ε σ α) (s : σ) :
    drop (g <$> x) s = (drop x s).map fun r => (g r.1, r.2) := by
  show drop (EStateM.map g x) s = _
  rw [drop, EStateM.map, drop]
  cases x s with
  | ok a s' => rfl
  | error e s' => rfl

lemma drop_get_bind (f : σ → EStateM ε σ α) (s : σ) : drop (get >>= f) s = drop (f s) s := rfl

lemma drop_eq_ok {x : EStateM ε σ α} {s s' : σ} {a : α} :
    drop x s = .ok (a, s') ↔ x s = .ok a s' := by
  rw [drop]
  cases x s with
  | ok a₁ s₁ => simp
  | error e s₁ => simp

/-! ## What is kept -/

/-- Whether it returns or throws, the computation keeps `I` and goes forward in `R`.  What it
returns satisfies `Q`. -/
structure Keeps (I : σ → Prop) (R : σ → σ → Prop) (x : EStateM ε σ α) (s : σ)
    (Q : α → σ → Prop) : Prop where
  inv : I (left (x s))
  rel : R s (left (x s))
  returns : ∀ a s', x s = .ok a s' → Q a s'

section Keeps

variable {I : σ → Prop} {R : σ → σ → Prop} {x : EStateM ε σ α} {s : σ} {Q Q' : α → σ → Prop}

lemma Keeps.mono (h : Keeps I R x s Q) (hQ : ∀ a s', I s' → R s s' → Q a s' → Q' a s') :
    Keeps I R x s Q' where
  inv := h.inv
  rel := h.rel
  returns a s' hx := by
    have hinv := h.inv
    have hrel := h.rel
    rw [hx] at hinv hrel
    exact hQ a s' hinv hrel (h.returns a s' hx)

/-- What is known of a computation from what it does in one state. -/
lemma keeps_of_ok {s' : σ} {a : α} (hrun : x s = .ok a s') (hinv : I s') (hrel : R s s')
    (hQ : Q a s') : Keeps I R x s Q where
  inv := by rwa [hrun]
  rel := by rwa [hrun]
  returns _ _ ha := by
    cases hrun.symm.trans ha
    exact hQ

lemma keeps_of_error {s' : σ} {e : ε} (hrun : x s = .error e s') (hinv : I s') (hrel : R s s') :
    Keeps I R x s Q where
  inv := by rwa [hrun]
  rel := by rwa [hrun]
  returns _ _ ha := by cases hrun.symm.trans ha

lemma keeps_pure [Std.Refl R] (hs : I s) {a : α} (ha : Q a s) :
    Keeps I R (pure a : EStateM ε σ α) s Q where
  inv := hs
  rel := refl_of R s
  returns _ _ hx := by
    cases hx
    exact ha

lemma keeps_throw [Std.Refl R] (hs : I s) (e : ε) :
    Keeps I R (throw e : EStateM ε σ α) s Q where
  inv := hs
  rel := refl_of R s
  returns _ _ hx := by cases hx

lemma Keeps.get_bind {f : σ → EStateM ε σ α} (h : Keeps I R (f s) s Q) :
    Keeps I R (get >>= f) s Q := ⟨h.inv, h.rel, h.returns⟩

lemma keeps_modify {g : σ → σ} (hinv : I (g s)) (hrel : R s (g s)) {Q : PUnit → σ → Prop}
    (hQ : Q ⟨⟩ (g s)) : Keeps I R (modify g : EStateM ε σ PUnit) s Q where
  inv := hinv
  rel := hrel
  returns _ _ hx := by
    cases hx
    exact hQ

/-- The second computation starts where the first has returned. -/
lemma Keeps.bind [IsTrans σ R] {f : α → EStateM ε σ β} {P : β → σ → Prop}
    (hx : Keeps I R x s Q)
    (hf : ∀ a s', I s' → R s s' → Q a s' → Keeps I R (f a) s' P) : Keeps I R (x >>= f) s P := by
  have hinv := hx.inv
  have hrel := hx.rel
  have hbind : (x >>= f) s = EStateM.bind x f s := rfl
  rw [EStateM.bind] at hbind
  cases hrun : x s with
  | ok a s' =>
    rw [hrun] at hinv hrel hbind
    have h := hf a s' hinv hrel (hx.returns a s' hrun)
    refine ⟨?_, ?_, fun b s'' hb => h.returns b s'' (hbind.symm.trans hb)⟩
    · rw [hbind]
      exact h.inv
    · rw [hbind]
      exact IsTrans.trans _ _ _ hrel h.rel
  | error e s' =>
    rw [hrun] at hinv hrel hbind
    refine ⟨?_, ?_, fun b s'' hb => ?_⟩
    · rw [hbind]
      exact hinv
    · rw [hbind]
      exact hrel
    · cases hbind.symm.trans hb

lemma Keeps.map {g : α → β} {P : β → σ → Prop} (h : Keeps I R x s Q)
    (hP : ∀ a s', Q a s' → P (g a) s') : Keeps I R (g <$> x) s P := by
  have hinv := h.inv
  have hrel := h.rel
  have hmap : (g <$> x) s = EStateM.map g x s := rfl
  rw [EStateM.map] at hmap
  cases hrun : x s with
  | ok a s' =>
    rw [hrun] at hinv hrel hmap
    refine ⟨by rwa [hmap], by rwa [hmap], fun b s'' hb => ?_⟩
    cases hmap.symm.trans hb
    exact hP a s' (h.returns a s' hrun)
  | error e s' =>
    rw [hrun] at hinv hrel hmap
    refine ⟨by rwa [hmap], by rwa [hmap], fun b s'' hb => ?_⟩
    cases hmap.symm.trans hb

end Keeps

end Throwing
end SakuraTools
