import Mathlib.Data.List.Basic
import Mathlib.Tactic.Common

/-!
# Runs of systems whose steps emit events

A system is a partial step function that returns the events of the step.  The trace of a run
is the list of its events.  An invariant may speak of the trace; often it speaks of it only
through a monitor, a function that reads the events one after the other.
-/

namespace SakuraTools

/-! ## Traces -/

section Trace

variable {ε μ : Type}

/-- Every event of the trace is allowed in the state that a monitor has reached before it. -/
def Along (next : μ → ε → μ) (ok : μ → ε → Prop) : μ → List ε → Prop
  | _, [] => True
  | x, e :: tr => ok x e ∧ Along next ok (next x e) tr

lemma along_append {next : μ → ε → μ} {ok : μ → ε → Prop} {x : μ} {tr tr' : List ε} :
    Along next ok x (tr ++ tr') ↔
      Along next ok x tr ∧ Along next ok (tr.foldl next x) tr' := by
  induction tr generalizing x with
  | nil => simp [Along]
  | cons e tr ih => simp [Along, ih, and_assoc]

/-- The events `ms` occur in the trace in this order, with nothing but quiet events before,
between and after them. -/
def Since (quiet : ε → Prop) : List ε → List ε → Prop
  | [], tr => ∀ e ∈ tr, quiet e
  | m :: ms, tr => ∃ t t', tr = t ++ m :: t' ∧ (∀ e ∈ t, quiet e) ∧ Since quiet ms t'

lemma Since.quiet {quiet : ε → Prop} {ms tr : List ε} {e : ε} (h : Since quiet ms tr)
    (he : quiet e) : Since quiet ms (tr ++ [e]) := by
  induction ms generalizing tr with
  | nil =>
    intro e' he'
    rcases List.mem_append.mp he' with he' | he'
    · exact h e' he'
    · rwa [List.mem_singleton.mp he']
  | cons m ms ih =>
    obtain ⟨t, t', rfl, ht, ht'⟩ := h
    exact ⟨t, t' ++ [e], by simp, ht, ih ht'⟩

lemma Since.mark {quiet : ε → Prop} {ms tr : List ε} (h : Since quiet ms tr) (m : ε) :
    Since quiet (ms ++ [m]) (tr ++ [m]) := by
  induction ms generalizing tr with
  | nil => exact ⟨tr, [], rfl, h, by simp [Since]⟩
  | cons m' ms ih =>
    obtain ⟨t, t', rfl, ht, ht'⟩ := h
    exact ⟨t, t' ++ [m], by simp, ht, ih ht'⟩

lemma Since.mem {quiet : ε → Prop} {ms tr : List ε} {e : ε} (h : Since quiet ms tr)
    (he : e ∈ tr) : e ∈ ms ∨ quiet e := by
  induction ms generalizing tr with
  | nil => exact .inr (h e he)
  | cons m ms ih =>
    obtain ⟨t, t', rfl, ht, ht'⟩ := h
    rcases List.mem_append.mp he with he | he
    · exact .inr (ht e he)
    · rcases List.mem_cons.mp he with rfl | he
      · exact .inl List.mem_cons_self
      · exact (ih ht' he).imp_left (List.mem_cons_of_mem _)

end Trace

/-! ## Runs -/

/-- The effect of an action on a state, with the events it emits, if the action is enabled. -/
abbrev Step (σ α ε : Type) := σ → α → Option (σ × List ε)

namespace Step

variable {σ α ε μ : Type} (step : Step σ α ε)

/-- A run from `s₀` with its trace. -/
inductive Run (s₀ : σ) : List ε → σ → Prop
  | start : Run s₀ [] s₀
  | step {tr : List ε} {s s' : σ} {a : α} {es : List ε} (hrun : Run s₀ tr s)
      (hstep : step s a = some (s', es)) : Run s₀ (tr ++ es) s'

/-- The state after a sequence of actions, with the trace. -/
def exec : σ → List α → Option (σ × List ε)
  | s, [] => some (s, [])
  | s, a :: as =>
    match step s a with
    | none => none
    | some (s', es) => (exec s' as).map fun r => (r.1, es ++ r.2)

variable {step}

namespace Run

variable {s₀ s : σ} {tr : List ε}

/-- What holds at the start and is kept by every step holds in every run. -/
theorem invariant {I : List ε → σ → Prop} (hrun : Run step s₀ tr s) (h₀ : I [] s₀)
    (hI : ∀ tr s a s' es, I tr s → step s a = some (s', es) → I (tr ++ es) s') : I tr s := by
  induction hrun with
  | start => exact h₀
  | step _ hstep ih => exact hI _ _ _ _ _ ih hstep

/-- An invariant that depends on the trace through a monitor, when it also tells which events a
step may emit. -/
theorem along {next : μ → ε → μ} {ok : μ → ε → Prop} {x₀ : μ} {I : μ → σ → Prop}
    (hrun : Run step s₀ tr s) (h₀ : I x₀ s₀)
    (hI : ∀ x s a s' es, I x s → step s a = some (s', es) →
      I (es.foldl next x) s' ∧ Along next ok x es) :
    I (tr.foldl next x₀) s ∧ Along next ok x₀ tr := by
  refine hrun.invariant (I := fun tr s => I (tr.foldl next x₀) s ∧ Along next ok x₀ tr)
    ⟨h₀, trivial⟩ ?_
  rintro tr s a s' es ⟨hs, halong⟩ hstep
  obtain ⟨hs', hes⟩ := hI _ s a s' es hs hstep
  rw [List.foldl_append, along_append]
  exact ⟨hs', halong, hes⟩

/-- An invariant of the trace, when it also tells what has happened before each event. -/
theorem history {I : List ε → σ → Prop} {P : List ε → ε → Prop} (hrun : Run step s₀ tr s)
    (h₀ : I [] s₀)
    (hI : ∀ tr s a s' es, I tr s → step s a = some (s', es) →
      I (tr ++ es) s' ∧ ∀ pre e post, es = pre ++ e :: post → P (tr ++ pre) e) :
    I tr s ∧ ∀ pre e post, tr = pre ++ e :: post → P pre e := by
  refine hrun.invariant (I := fun tr s => I tr s ∧ ∀ pre e post, tr = pre ++ e :: post → P pre e)
    ⟨h₀, fun pre e post h => by simp at h⟩ ?_
  rintro tr s a s' es ⟨hs, hpast⟩ hstep
  obtain ⟨hs', hes⟩ := hI tr s a s' es hs hstep
  refine ⟨hs', fun pre e post htr => ?_⟩
  rcases List.append_eq_append_iff.mp htr with ⟨mid, rfl, hmid⟩ | ⟨mid, rfl, hmid⟩
  · exact hes mid e post hmid
  · -- the event is one of the trace before, or the first of the step
    cases mid with
    | nil =>
      simpa using hes [] e post (by simpa using hmid.symm)
    | cons e' mid =>
      obtain ⟨rfl, rfl⟩ := List.cons.inj hmid
      exact hpast pre e mid rfl

theorem append {s₁ s₂ : σ} {tr' : List ε} (h : Run step s₀ tr s₁) (h' : Run step s₁ tr' s₂) :
    Run step s₀ (tr ++ tr') s₂ := by
  induction h' with
  | start => rwa [List.append_nil]
  | step _ hstep ih =>
    rw [← List.append_assoc]
    exact ih.step hstep

/-- When a step emits one event at most, an event of the trace belongs to a step of the run. -/
theorem exists_step {pre post : List ε} {e : ε} (hrun : Run step s₀ tr s)
    (hone : ∀ s a s' es, step s a = some (s', es) → es.length ≤ 1)
    (htr : tr = pre ++ e :: post) :
    ∃ s a s', Run step s₀ pre s ∧ step s a = some (s', [e]) := by
  induction hrun generalizing post with
  | start => simp at htr
  | @step tr s s' a es hrun hstep ih =>
    have hlength := hone s a s' es hstep
    cases es with
    | nil => exact ih (by simpa using htr)
    | cons e' es =>
      cases List.length_eq_zero_iff.mp (Nat.le_zero.mp (Nat.le_of_succ_le_succ hlength))
      rcases List.eq_nil_or_concat post with rfl | ⟨post, x, rfl⟩
      · obtain ⟨rfl, heq⟩ := List.append_inj' htr rfl
        cases heq
        exact ⟨s, a, s', hrun, hstep⟩
      · have htr' : tr ++ [e'] = (pre ++ e :: post) ++ [x] := by simpa using htr
        exact ih (List.append_inj' htr' rfl).1

end Run

/-- The system that takes only the steps which meet a condition. -/
def restrict (ok : σ → α → Bool) (step : Step σ α ε) : Step σ α ε :=
  fun s a => if ok s a then step s a else none

lemma restrict_eq_some {ok : σ → α → Bool} {s s' : σ} {a : α} {es : List ε} :
    restrict ok step s a = some (s', es) ↔ ok s a = true ∧ step s a = some (s', es) := by
  simp only [restrict, Option.ite_none_right_eq_some]

lemma Run.of_restrict {ok : σ → α → Bool} {s₀ s : σ} {tr : List ε}
    (hrun : Run (restrict ok step) s₀ tr s) : Run step s₀ tr s := by
  induction hrun with
  | start => exact .start
  | step _ hstep ih => exact ih.step (restrict_eq_some.mp hstep).2

/-- A part of a system runs by itself when every step either leaves it alone and is silent, or is
a step of the part with the same events. -/
theorem Run.project {τ β : Type} {part : Step τ β ε} {s₀ s : σ} {tr : List ε}
    (hrun : Run step s₀ tr s) (view : σ → τ)
    (hview : ∀ s a s' es, step s a = some (s', es) →
      (view s' = view s ∧ es = []) ∨ ∃ b, part (view s) b = some (view s', es)) :
    Run part (view s₀) tr (view s) := by
  induction hrun with
  | start => exact .start
  | @step tr s s' a es _ hstep ih =>
    rcases hview s a s' es hstep with ⟨hsame, rfl⟩ | ⟨b, hb⟩
    · rwa [hsame, List.append_nil]
    · exact ih.step hb

lemma exec_cons {s s' : σ} {a : α} {as : List α} {tr : List ε}
    (h : exec step s (a :: as) = some (s', tr)) :
    ∃ s₁ es tr', step s a = some (s₁, es) ∧ exec step s₁ as = some (s', tr') ∧ tr = es ++ tr' := by
  rw [exec] at h
  cases hstep : step s a with
  | none => simp [hstep] at h
  | some r =>
    rw [hstep] at h
    obtain ⟨⟨t, tr'⟩, hexec, heq⟩ := Option.map_eq_some_iff.mp h
    cases heq
    exact ⟨r.1, r.2, tr', rfl, hexec, rfl⟩

lemma run_of_exec {s s' : σ} {as : List α} {tr : List ε} (h : exec step s as = some (s', tr)) :
    Run step s tr s' := by
  induction as generalizing s tr with
  | nil =>
    cases h
    exact .start
  | cons a as ih =>
    -- the first action makes a run of one step, the others a run from there
    obtain ⟨s₁, es, tr', hstep, hexec, rfl⟩ := exec_cons h
    have hone : Run step s es s₁ := by
      simpa using Run.start.step hstep
    exact hone.append (ih hexec)

lemma run_of_trace {s : σ} {as : List α} {tr : List ε}
    (h : (exec step s as).map Prod.snd = some tr) : ∃ s', Run step s tr s' := by
  obtain ⟨r, hr, rfl⟩ := Option.map_eq_some_iff.mp h
  exact ⟨r.1, run_of_exec hr⟩

end Step
end SakuraTools
