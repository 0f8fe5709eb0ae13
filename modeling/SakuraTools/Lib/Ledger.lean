import SakuraTools.Lib.Transition

/-!
# Components and what they hold

A system of components that move one at a time: what every component keeps in its own moves, it
keeps in every run.  An account of a trace counts what was acquired and released; as long as every
move balances, what was acquired is what was released and what is still held.
-/

namespace SakuraTools

/-! ## Components -/

section Family

variable {ι σ τ α ε : Type} [DecidableEq ι]

/-- The events of a component. -/
def eventsOf (i : ι) (tr : List (ι × ε)) : List ε :=
  (tr.filter fun e => e.1 = i).map Prod.snd

lemma eventsOf_append (i : ι) (tr tr' : List (ι × ε)) :
    eventsOf i (tr ++ tr') = eventsOf i tr ++ eventsOf i tr' := by
  simp [eventsOf]

lemma eventsOf_self (i : ι) (es : List ε) : eventsOf i (es.map (Prod.mk i)) = es := by
  simp [eventsOf, List.filter_map, Function.comp_def]

lemma eventsOf_of_ne {i k : ι} (h : i ≠ k) (es : List ε) :
    eventsOf k (es.map (Prod.mk i)) = [] := by
  simp [eventsOf, h]

lemma mem_eventsOf {i : ι} {e : ε} {tr : List (ι × ε)} : e ∈ eventsOf i tr ↔ (i, e) ∈ tr := by
  simp [eventsOf]

/-- Every step is a move of one component, which alone has its events. -/
def Family (step : Step σ (ι × α) (ι × ε)) (view : σ → ι → τ) (move : τ → List ε → τ → Prop) :
    Prop :=
  ∀ s i a s' es, step s (i, a) = some (s', es) →
    (∃ es₀, es = es₀.map (Prod.mk i) ∧ move (view s i) es₀ (view s' i)) ∧
      ∀ k, k ≠ i → view s' k = view s k

/-- What a component keeps in its moves, it keeps in every run. -/
theorem Family.invariant {step : Step σ (ι × α) (ι × ε)} {view : σ → ι → τ}
    {move : τ → List ε → τ → Prop} (h : Family step view move) {I : List ε → τ → Prop} {s₀ s : σ}
    {tr : List (ι × ε)} (hrun : Step.Run step s₀ tr s) {i : ι} (h₀ : I [] (view s₀ i))
    (hI : ∀ tr x es x', I tr x → move x es x' → I (tr ++ es) x') :
    I (eventsOf i tr) (view s i) := by
  refine hrun.invariant (I := fun tr s => I (eventsOf i tr) (view s i)) h₀ ?_
  rintro tr s ⟨k, a⟩ s' es ih hstep
  obtain ⟨⟨es₀, rfl, hmove⟩, hother⟩ := h s k a s' es hstep
  rw [eventsOf_append]
  by_cases hik : i = k
  · subst hik
    rw [eventsOf_self]
    exact hI _ _ _ _ ih hmove
  · rw [eventsOf_of_ne (Ne.symm hik), List.append_nil, hother i hik]
    exact ih

end Family

/-! ## Accounts -/

section Account

variable {σ ε : Type}

/-- A quantity of a trace is the sum of those of its parts. -/
structure Additive (f : List ε → ℕ) : Prop where
  nil : f [] = 0
  append : ∀ tr tr', f (tr ++ tr') = f tr + f tr'

lemma additive_count [BEq ε] (e : ε) : Additive (List.count e) :=
  ⟨List.count_nil, fun _ _ => List.count_append⟩

lemma Additive.add {f g : List ε → ℕ} (hf : Additive f) (hg : Additive g) :
    Additive fun tr => f tr + g tr where
  nil := by rw [hf.nil, hg.nil]
  append tr tr' := by
    rw [hf.append, hg.append]
    omega

/-- What was acquired is what was released and what is held. -/
def Balanced (acquired released : List ε → ℕ) (held : σ → ℕ) (tr : List ε) (s : σ) : Prop :=
  acquired tr = released tr + held s

variable {acquired released : List ε → ℕ} {held : σ → ℕ} {s s' : σ} {tr es : List ε}

lemma Balanced.start (hacquired : Additive acquired) (hreleased : Additive released)
    (h : held s = 0) : Balanced acquired released held [] s := by
  rw [Balanced, hacquired.nil, hreleased.nil, h]

lemma Balanced.step (hacquired : Additive acquired) (hreleased : Additive released)
    (h : Balanced acquired released held tr s)
    (hmove : acquired es + held s = released es + held s') :
    Balanced acquired released held (tr ++ es) s' := by
  rw [Balanced] at h ⊢
  rw [hacquired.append, hreleased.append]
  omega

end Account

end SakuraTools
