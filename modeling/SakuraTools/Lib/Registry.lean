import Mathlib.Data.List.Basic
import Mathlib.Tactic.Common

/-!
# Registries of what is still to be undone

A registry lists the objects that owe something.  It is complete when it lists all of them; only
then does an empty registry mean that nothing is owed.  A pass over the registry tries to settle
each entry and keeps those that it could not settle.
-/

namespace SakuraTools
namespace Registry

variable {α σ : Type}

/-! ## Completeness -/

/-- Whatever owes something is listed. -/
def Covers (owes : α → Prop) (l : List α) : Prop := ∀ x, owes x → x ∈ l

namespace Covers

variable {owes owes' : α → Prop} {l l' : List α}

lemma not_owes_of_nil (h : Covers owes []) (x : α) : ¬ owes x :=
  fun hx => List.not_mem_nil (h x hx)

/-- Debts are settled, and entries are dropped that do not owe anything. -/
lemma prune (h : Covers owes l) (howes : ∀ x, owes' x → owes x)
    (hl : ∀ x ∈ l, owes' x → x ∈ l') : Covers owes' l' :=
  fun x hx => hl x (h x (howes x hx)) hx

/-- There is one new debt, and it is entered. -/
lemma enter (h : Covers owes l) {x : α} (howes : ∀ y, y ≠ x → owes' y → owes y) :
    Covers owes' (l ++ [x]) := by
  intro y hy
  by_cases hyx : y = x
  · rw [hyx]
    exact List.mem_append_right l List.mem_cons_self
  · exact List.mem_append_left [x] (h y (howes y hyx hy))

end Covers

/-! ## A pass -/

/-- One pass over the registry: the attempt for an entry changes the state and tells whether the
entry is settled. -/
def sweep (attempt : σ → α → Bool × σ) : σ → List α → List α × σ
  | s, [] => ([], s)
  | s, x :: xs =>
    let tried := attempt s x
    let rest := sweep attempt tried.2 xs
    (if tried.1 then rest.1 else x :: rest.1, rest.2)

variable {attempt : σ → α → Bool × σ} {s : σ} {l : List α}

lemma sweep_sublist : ((sweep attempt s l).1).Sublist l := by
  induction l generalizing s with
  | nil => exact List.Sublist.refl []
  | cons x xs ih =>
    simp only [sweep]
    split
    · exact ih.cons x
    · exact ih.cons_cons x

/-- What every attempt keeps, the pass keeps. -/
lemma sweep_invariant {J : σ → Prop} (hs : J s) (hJ : ∀ s x, x ∈ l → J s → J (attempt s x).2) :
    J (sweep attempt s l).2 := by
  induction l generalizing s with
  | nil => exact hs
  | cons x xs ih =>
    exact ih (hJ s x List.mem_cons_self hs) fun s y hy => hJ s y (List.mem_cons_of_mem x hy)

/-- In the middle of a pass the entries `kept` are those that it has gone by and not settled. -/
lemma Covers.append_sweep {owes : σ → α → Prop} {J : σ → Prop} {kept : List α} (hs : J s)
    (hJ : ∀ s x, x ∈ l → J s → J (attempt s x).2)
    (hmono : ∀ s x y, owes (attempt s x).2 y → owes s y)
    (hsettled : ∀ s x, x ∈ l → J s → (attempt s x).1 = true → ¬ owes (attempt s x).2 x)
    (h : Covers (owes s) (kept ++ l)) :
    Covers (owes (Registry.sweep attempt s l).2) (kept ++ (Registry.sweep attempt s l).1) := by
  induction l generalizing s kept with
  | nil => exact h
  | cons x xs ih =>
    have hJs := hJ s x List.mem_cons_self hs
    have hJxs := fun s y (hy : y ∈ xs) => hJ s y (List.mem_cons_of_mem x hy)
    have hxs := fun s y (hy : y ∈ xs) => hsettled s y (List.mem_cons_of_mem x hy)
    have hnext : Covers (owes (attempt s x).2) (kept ++ x :: xs) :=
      h.prune (hmono s x) fun y hy _ => hy
    simp only [Registry.sweep]
    split
    · rename_i hdone
      refine ih hJs hJxs hxs (hnext.prune (fun y hy => hy) fun y hy howes => ?_)
      have hyx : y ≠ x := fun hyx => hsettled s x List.mem_cons_self hs hdone (hyx ▸ howes)
      simpa [hyx] using hy
    · have hkept : Covers (owes (attempt s x).2) ((kept ++ [x]) ++ xs) := by
        simpa using hnext
      simpa using ih hJs hJxs hxs hkept

/-- A pass keeps the registry complete when no attempt makes a debt and an entry that counts as
settled does not owe anything any more. -/
theorem Covers.sweep {owes : σ → α → Prop} {J : σ → Prop} (hs : J s)
    (hJ : ∀ s x, x ∈ l → J s → J (attempt s x).2)
    (hmono : ∀ s x y, owes (attempt s x).2 y → owes s y)
    (hsettled : ∀ s x, x ∈ l → J s → (attempt s x).1 = true → ¬ owes (attempt s x).2 x)
    (h : Covers (owes s) l) :
    Covers (owes (Registry.sweep attempt s l).2) (Registry.sweep attempt s l).1 := by
  have hpass : Covers _ ([] ++ _) := Covers.append_sweep hs hJ hmono hsettled h
  exact hpass

/-- An entry that every attempt takes for settled is dropped. -/
lemma not_mem_sweep {J : σ → Prop} {x : α} (hs : J s) (hJ : ∀ s y, J s → J (attempt s y).2)
    (hsettled : ∀ s, J s → (attempt s x).1 = true) : x ∉ (sweep attempt s l).1 := by
  induction l generalizing s with
  | nil => exact List.not_mem_nil
  | cons y ys ih =>
    have hys := ih (hJ s y hs)
    simp only [sweep]
    split
    · exact hys
    · rename_i hopen
      have hxy : x ≠ y := fun hxy => hopen (hxy ▸ hsettled s hs)
      simpa [hxy] using hys

end Registry
end SakuraTools
