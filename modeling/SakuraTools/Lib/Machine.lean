import Mathlib.Data.List.Find
import Mathlib.Tactic.Common

/-!
# Programs whose instructions have places

A program says which instruction is at a place, and which handlers cover the place.  What an
instruction does depends on the data only, not on where the instruction is, and it names the
places where it goes on.  A program that is embedded into another one, with all its places
renamed, therefore runs there as it runs on its own.
-/

namespace SakuraTools
namespace Machine

/-- What an instruction does to the data, and where control goes: behind the instruction, to one
of its targets, to a handler, or out of the program. -/
inductive Effect (σ ε : Type) where
  | next (s : σ)
  | jump (k : ℕ) (s : σ)
  | throw (e : ε) (s : σ)
  | exit (s : σ)

/-- What the instructions and the handlers of a machine mean. -/
structure Semantics (ι η σ ε : Type) where
  /-- The effects that an instruction can have. -/
  effect : ι → σ → Effect σ ε → Prop
  /-- Whether a handler takes an exception. -/
  catches : η → ε → Bool
  /-- The data with which the handler begins. -/
  enter : ε → σ → σ

/-- An instruction at a place, with the places where it can go on. -/
structure Line (ι π : Type) where
  instr : ι
  next : π
  targets : List π

/-- A program: the lines at its places, and the handlers that cover a place, in their order. -/
structure Program (ι η π : Type) where
  fetch : π → Option (Line ι π)
  handlers : π → List (π × η)

/-- How far a run has come. -/
inductive Control (σ ε π : Type) where
  | at (pc : π) (s : σ)
  | exited (s : σ)
  | threw (e : ε) (s : σ)

section

variable {ι η σ ε π ρ : Type}

/-- The handler that takes the exception: the first one that catches it. -/
def Program.handler (p : Program ι η π) (m : Semantics ι η σ ε) (pc : π) (e : ε) : Option π :=
  ((p.handlers pc).find? fun h => m.catches h.2 e).map Prod.fst

/-- One instruction. -/
inductive StepsTo (m : Semantics ι η σ ε) (p : Program ι η π) :
    Control σ ε π → Control σ ε π → Prop
  | next {pc : π} {s s' : σ} {l : Line ι π} (hl : p.fetch pc = some l)
      (heffect : m.effect l.instr s (.next s')) : StepsTo m p (.at pc s) (.at l.next s')
  | jump {pc t : π} {s s' : σ} {l : Line ι π} {k : ℕ} (hl : p.fetch pc = some l)
      (heffect : m.effect l.instr s (.jump k s')) (ht : l.targets[k]? = some t) :
      StepsTo m p (.at pc s) (.at t s')
  | exit {pc : π} {s s' : σ} {l : Line ι π} (hl : p.fetch pc = some l)
      (heffect : m.effect l.instr s (.exit s')) : StepsTo m p (.at pc s) (.exited s')
  | caught {pc t : π} {s s' : σ} {l : Line ι π} {e : ε} (hl : p.fetch pc = some l)
      (heffect : m.effect l.instr s (.throw e s')) (ht : p.handler m pc e = some t) :
      StepsTo m p (.at pc s) (.at t (m.enter e s'))
  | uncaught {pc : π} {s s' : σ} {l : Line ι π} {e : ε} (hl : p.fetch pc = some l)
      (heffect : m.effect l.instr s (.throw e s')) (hnone : p.handler m pc e = none) :
      StepsTo m p (.at pc s) (.threw e s')

/-- A run of `n` instructions. -/
inductive Runs (m : Semantics ι η σ ε) (p : Program ι η π) :
    ℕ → Control σ ε π → Control σ ε π → Prop
  | refl (c : Control σ ε π) : Runs m p 0 c c
  | step {n : ℕ} {c c' c'' : Control σ ε π} (h : StepsTo m p c c') (hrest : Runs m p n c' c'') :
      Runs m p (n + 1) c c''

variable {m : Semantics ι η σ ε} {p : Program ι η π}

/-- What a run has come to when it is over. -/
inductive Result (σ ε : Type) where
  | exited (s : σ)
  | threw (e : ε) (s : σ)

def Result.control : Result σ ε → Control σ ε π
  | exited s => .exited s
  | threw e s => .threw e s

/-- The program can come to the result. -/
def Ends (m : Semantics ι η σ ε) (p : Program ι η π) (c : Control σ ε π) (r : Result σ ε) : Prop :=
  ∃ n, Runs m p n c r.control

def Line.map (f : π → ρ) (l : Line ι π) : Line ι ρ := ⟨l.instr, f l.next, l.targets.map f⟩

def Control.map (f : π → ρ) : Control σ ε π → Control σ ε ρ
  | .at pc s => .at (f pc) s
  | .exited s => .exited s
  | .threw e s => .threw e s

/-- The part `D` of the program `p` is found in `q` under the names that `f` gives to its places,
with instructions that mean the same, and is not left but for good. -/
structure Embeds (m : Semantics ι η σ ε) (p : Program ι η π) (m' : Semantics ι η σ ε)
    (q : Program ι η ρ) (f : π → ρ) (D : π → Prop) : Prop where
  fetch : ∀ pc, D pc → q.fetch (f pc) = (p.fetch pc).map (Line.map f)
  handlers : ∀ pc, D pc → q.handlers (f pc) = (p.handlers pc).map fun h => (f h.1, h.2)
  effect : ∀ pc l, D pc → p.fetch pc = some l → ∀ s r, m'.effect l.instr s r ↔ m.effect l.instr s r
  catches : ∀ pc, D pc → ∀ h ∈ p.handlers pc, ∀ e, m'.catches h.2 e = m.catches h.2 e
  enter : m'.enter = m.enter
  next : ∀ pc l, D pc → p.fetch pc = some l → D l.next
  targets : ∀ pc l, D pc → p.fetch pc = some l → ∀ t ∈ l.targets, D t
  handled : ∀ pc, D pc → ∀ h ∈ p.handlers pc, D h.1

namespace Embeds

variable {m' : Semantics ι η σ ε} {q : Program ι η ρ} {f : π → ρ} {D : π → Prop}

lemma handler_eq (h : Embeds m p m' q f D) {pc : π} (hpc : D pc) (e : ε) :
    q.handler m' (f pc) e = (p.handler m pc e).map f := by
  have hfind : (p.handlers pc).find? (fun c => m'.catches c.2 e) =
      (p.handlers pc).find? fun c => m.catches c.2 e :=
    List.find?_congr fun c hc => h.catches pc hpc c hc e
  rw [Program.handler, Program.handler, h.handlers pc hpc, List.find?_map, Option.map_map,
    Option.map_map, ← hfind]
  rfl

lemma handler_mem (h : Embeds m p m' q f D) {pc t : π} (hpc : D pc) {e : ε}
    (ht : p.handler m pc e = some t) : D t := by
  obtain ⟨⟨t', c⟩, hfind, rfl⟩ := Option.map_eq_some_iff.mp ht
  exact h.handled pc hpc _ (List.mem_of_find?_eq_some hfind)

/-- The control is in the part, or has left the program. -/
def Inside (D : π → Prop) : Control σ ε π → Prop
  | .at pc _ => D pc
  | _ => True

lemma fetch_map (h : Embeds m p m' q f D) {pc : π} (hpc : D pc) {l : Line ι π}
    (hl : p.fetch pc = some l) : q.fetch (f pc) = some (l.map f) := by
  rw [h.fetch pc hpc, hl]
  rfl

/-- What the program does, the embedded one does, and it stays in the part. -/
lemma step (h : Embeds m p m' q f D) {c c' : Control σ ε π} (hc : Inside D c)
    (hstep : StepsTo m p c c') : StepsTo m' q (c.map f) (c'.map f) ∧ Inside D c' := by
  cases hstep with
  | @next pc s s' l hl heffect =>
    have heffect' := (h.effect pc l hc hl _ _).mpr heffect
    exact ⟨.next (l := l.map f) (h.fetch_map hc hl) heffect', h.next pc l hc hl⟩
  | @jump pc t s s' l k hl heffect ht =>
    have heffect' := (h.effect pc l hc hl _ _).mpr heffect
    refine ⟨.jump (l := l.map f) (h.fetch_map hc hl) heffect' ?_,
      h.targets pc l hc hl t (List.mem_of_getElem? ht)⟩
    rw [Line.map, List.getElem?_map, ht]
    rfl
  | @exit pc s s' l hl heffect =>
    have heffect' := (h.effect pc l hc hl _ _).mpr heffect
    exact ⟨.exit (l := l.map f) (h.fetch_map hc hl) heffect', trivial⟩
  | @caught pc t s s' l e hl heffect ht =>
    have heffect' := (h.effect pc l hc hl _ _).mpr heffect
    have ht' : q.handler m' (f pc) e = some (f t) := by
      rw [h.handler_eq hc, ht]
      rfl
    have hstep' := StepsTo.caught (l := l.map f) (h.fetch_map hc hl) heffect' ht'
    rw [h.enter] at hstep'
    exact ⟨hstep', h.handler_mem hc ht⟩
  | @uncaught pc s s' l e hl heffect hnone =>
    have heffect' := (h.effect pc l hc hl _ _).mpr heffect
    refine ⟨.uncaught (l := l.map f) (h.fetch_map hc hl) heffect' ?_, trivial⟩
    rw [h.handler_eq hc, hnone]
    rfl

/-- A run of the program is a run of the embedded one. -/
lemma runs (h : Embeds m p m' q f D) {n : ℕ} {c c' : Control σ ε π} (hc : Inside D c)
    (hrun : Runs m p n c c') : Runs m' q n (c.map f) (c'.map f) := by
  induction hrun with
  | refl c => exact .refl _
  | step hstep _ ih =>
    obtain ⟨hstep', hc'⟩ := h.step hc hstep
    exact .step hstep' (ih hc')

end Embeds

end

end Machine
end SakuraTools
