import Mathlib.Data.List.Basic
import Mathlib.Tactic.Common

/-!
# Step parsers over a sequence of symbols

A parser consumes a prefix of its input and returns a value, or fails with a fault.  The
relation `Reads p b x` says that `p` consumes exactly `b` and returns `x`, whatever follows.
It composes along the monadic structure of a parser, so that a parser is shown to read the
output of a printer piece by piece.
-/

namespace SakuraTools

/-- A parser over symbols `β` that may fail with a fault in `ε`. -/
abbrev Parser (ε β : Type) := StateT (List β) (Except ε)

lemma exists_of_map_ok {ε α β : Type} {x : Except ε α} {g : α → β} {y : β}
    (h : x.map g = .ok y) : ∃ a, x = .ok a ∧ g a = y := by
  cases x with
  | error e => cases h
  | ok a => exact ⟨a, rfl, Except.ok.inj h⟩

namespace Parser

variable {ε β α γ : Type}

/-- The parser `p` consumes exactly `b` and returns `x`, whatever follows `b`. -/
def Reads (p : Parser ε β α) (b : List β) (x : α) : Prop :=
  ∀ r, p (b ++ r) = .ok (x, r)

lemma Reads.run {p : Parser ε β α} {b : List β} {x : α} (h : Reads p b x) :
    p b = .ok (x, []) := by
  simpa using h []

lemma reads_pure (x : α) : Reads (pure x : Parser ε β α) [] x := fun _ => rfl

lemma bind_apply (p : Parser ε β α) (f : α → Parser ε β γ) (s : List β) :
    (p >>= f) s = (p s).bind fun r => f r.1 r.2 := rfl

lemma Reads.bind {p : Parser ε β α} {f : α → Parser ε β γ} {b c : List β} {x : α} {y : γ}
    (hp : Reads p b x) (hf : Reads (f x) c y) : Reads (p >>= f) (b ++ c) y := by
  intro r
  rw [bind_apply, List.append_assoc, hp]
  exact hf r

/-- The rest of the computation is run on what follows. -/
lemma Reads.bind_append {p : Parser ε β α} {b : List β} {x : α} (hp : Reads p b x)
    (f : α → Parser ε β γ) (s : List β) : (p >>= f) (b ++ s) = f x s := by
  rw [bind_apply, hp s]
  rfl

/-- A parser after which the rest of the computation only looks at the value. -/
lemma Reads.bind_nil {p : Parser ε β α} {f : α → Parser ε β γ} {b : List β} {x : α} {y : γ}
    (hp : Reads p b x) (hf : Reads (f x) [] y) : Reads (p >>= f) b y := by
  simpa using hp.bind hf

/-- A parser that looks at the input without consuming it. -/
lemma Reads.nil_bind {p : Parser ε β α} {f : α → Parser ε β γ} {b : List β} {x : α} {y : γ}
    (hp : Reads p [] x) (hf : Reads (f x) b y) : Reads (p >>= f) b y := by
  simpa using hp.bind hf

lemma Reads.map {p : Parser ε β α} {b : List β} {x : α} (hp : Reads p b x) (g : α → γ) :
    Reads (g <$> p) b (g x) := by
  intro r
  change (p (b ++ r)).bind _ = _
  rw [hp r]
  rfl

/-- A computation on values inside a parser. -/
def lift (x : Except ε α) : Parser ε β α := fun s => x.map fun a => (a, s)

lemma reads_lift {x : Except ε α} {a : α} (h : x = .ok a) :
    Reads (lift x : Parser ε β α) [] a := by
  subst h
  exact fun _ => rfl

/-- A run of a sequence of two parsers is a run of each. -/
lemma bind_ok {p : Parser ε β α} {f : α → Parser ε β γ} {s r : List β} {y : γ}
    (h : (p >>= f) s = .ok (y, r)) : ∃ x t, p s = .ok (x, t) ∧ f x t = .ok (y, r) := by
  rw [bind_apply] at h
  cases hp : p s with
  | error e => simp [hp, Except.bind] at h
  | ok xt => exact ⟨xt.1, xt.2, rfl, by simpa [hp, Except.bind] using h⟩

lemma pure_ok {x y : α} {s r : List β} (h : (pure x : Parser ε β α) s = .ok (y, r)) :
    y = x ∧ r = s := by
  cases h
  exact ⟨rfl, rfl⟩

/-- Every run of `p` takes `k` symbols. -/
def Takes (p : Parser ε β α) (k : ℕ) : Prop :=
  ∀ ⦃s x r⦄, p s = .ok (x, r) → s.length = k + r.length

lemma Takes.bind_pure {p : Parser ε β α} {k : ℕ} (hp : Takes p k) (g : α → γ) :
    Takes (do let x ← p; pure (g x)) k := by
  intro s y r h
  obtain ⟨x, t, h₁, h₂⟩ := bind_ok h
  obtain ⟨-, rfl⟩ := pure_ok h₂
  exact hp h₁

lemma Takes.bind {p : Parser ε β α} {f : α → Parser ε β γ} {k l : ℕ} (hp : Takes p k)
    (hf : ∀ x, Takes (f x) l) : Takes (p >>= f) (k + l) := by
  intro s y r h
  obtain ⟨x, t, h₁, h₂⟩ := bind_ok h
  have hk := hp h₁
  have hl := hf x h₂
  omega

/-! ## Symbols and blocks -/

/-- Fail. -/
def fail (e : ε) : Parser ε β α := fun _ => .error e

/-- The next symbol, or the fault `e` at the end of the input. -/
def item (e : ε) : Parser ε β β
  | [] => .error e
  | b :: s => .ok (b, s)

lemma takes_item (e : ε) : Takes (item (β := β) e) 1 := by
  intro s x r h
  cases s with
  | nil => simp [item] at h
  | cons b s =>
    cases h
    simp only [List.length_cons]
    omega

/-- The next `n` symbols, or the fault `e` when there are fewer. -/
def block (e : ε) (n : ℕ) : Parser ε β (List β) := fun s =>
  if n ≤ s.length then .ok (s.take n, s.drop n) else .error e

lemma reads_block (e : ε) (b : List β) : Reads (block e b.length) b b := by
  intro r
  simp [block]

lemma reads_block' (e : ε) {n : ℕ} {b : List β} (h : n = b.length) :
    Reads (block e n) b b := h ▸ reads_block e b

lemma block_ok {e : ε} {n : ℕ} {s b r : List β} (h : block e n s = .ok (b, r)) :
    b.length = n ∧ s = b ++ r := by
  unfold block at h
  split at h
  · rename_i hn
    cases h
    exact ⟨List.length_take_of_le hn, (List.take_append_drop n s).symm⟩
  · cases h

lemma takes_block (e : ε) (n : ℕ) : Takes (block (β := β) e n) n := by
  intro s b r h
  obtain ⟨hn, rfl⟩ := block_ok h
  simp [hn]

/-- The symbols that a parser consumes. -/
def consumed (p : Parser ε β α) : Parser ε β (List β) := fun s =>
  match p s with
  | .error e => .error e
  | .ok (_, r) => .ok (s.take (s.length - r.length), r)

lemma Reads.consumed {p : Parser ε β α} {b : List β} {x : α} (hp : Reads p b x) :
    Reads p.consumed b b := by
  intro r
  simp [Parser.consumed, hp r]

/-! ## Counted repetition -/

/-- Run a parser `n` times. -/
def times (p : Parser ε β α) : ℕ → Parser ε β (List α)
  | 0 => pure []
  | n + 1 => do
    let x ← p
    let xs ← times p n
    pure (x :: xs)

/-- A parser that reads what is printed for each item of a list reads the whole list. -/
lemma reads_times {p : Parser ε β α} {print : γ → List β} {value : γ → α} (l : List γ)
    (h : ∀ x ∈ l, Reads p (print x) (value x)) :
    Reads (times p l.length) (l.flatMap print) (l.map value) := by
  induction l with
  | nil => exact reads_pure []
  | cons x l ih =>
    have hx := h x List.mem_cons_self
    have hl := ih fun y hy => h y (List.mem_cons_of_mem x hy)
    exact hx.bind (hl.bind_nil (reads_pure _))

lemma reads_times' {p : Parser ε β α} {print : γ → List β} {value : γ → α} {n : ℕ}
    (l : List γ) (hn : n = l.length) (h : ∀ x ∈ l, Reads p (print x) (value x)) :
    Reads (times p n) (l.flatMap print) (l.map value) := hn ▸ reads_times l h

/-- Counted repetition where what is read for an item is only known to exist. -/
lemma reads_times_forall₂ {p : Parser ε β α} {print : γ → List β} {Q : γ → α → Prop}
    (l : List γ) (h : ∀ x ∈ l, ∃ y, Reads p (print x) y ∧ Q x y) :
    ∃ ys, Reads (times p l.length) (l.flatMap print) ys ∧ List.Forall₂ Q l ys := by
  induction l with
  | nil => exact ⟨[], reads_pure [], .nil⟩
  | cons x l ih =>
    obtain ⟨y, hy, hQ⟩ := h x List.mem_cons_self
    obtain ⟨ys, hys, hQs⟩ := ih fun z hz => h z (List.mem_cons_of_mem x hz)
    exact ⟨y :: ys, hy.bind (hys.bind_nil (reads_pure _)), .cons hQ hQs⟩

lemma times_ok {p : Parser ε β α} {k n : ℕ} (hp : Takes p k) {s r : List β} {xs : List α}
    (h : times p n s = .ok (xs, r)) : xs.length = n ∧ s.length = k * n + r.length := by
  induction n generalizing s xs with
  | zero =>
    obtain ⟨rfl, rfl⟩ := pure_ok h
    simp
  | succ n ih =>
    obtain ⟨x, t, h₁, h⟩ := bind_ok h
    obtain ⟨ys, u, h₂, h₃⟩ := bind_ok h
    obtain ⟨rfl, rfl⟩ := pure_ok h₃
    obtain ⟨hlen, hu⟩ := ih h₂
    have ht := hp h₁
    refine ⟨by simp [hlen], ?_⟩
    rw [Nat.mul_succ]
    omega

/-- A function that rewrites a table record by record.  The rewritten table is read record by
record, and is as long as the old one. -/
lemma times_rewrite {p : Parser ε β α} {k : ℕ} (hp : Takes p k)
    {rewrite : ℕ → List β → List β} {g : α → α} (hnil : ∀ s, rewrite 0 s = s)
    (hcons : ∀ n s x r, p s = .ok (x, r) →
      ∃ b, Reads p b (g x) ∧ b.length = k ∧ rewrite (n + 1) s = b ++ rewrite n r)
    {n : ℕ} {s r : List β} {xs : List α} (h : times p n s = .ok (xs, r)) :
    times p n (rewrite n s) = .ok (xs.map g, r) ∧ (rewrite n s).length = s.length := by
  induction n generalizing s xs with
  | zero =>
    obtain ⟨rfl, rfl⟩ := pure_ok h
    rw [hnil]
    exact ⟨rfl, rfl⟩
  | succ n ih =>
    obtain ⟨x, t, h₁, h⟩ := bind_ok h
    obtain ⟨ys, u, h₂, h₃⟩ := bind_ok h
    obtain ⟨rfl, rfl⟩ := pure_ok h₃
    obtain ⟨hread, hlen⟩ := ih h₂
    obtain ⟨b, hb, hk, heq⟩ := hcons n s x t h₁
    have ht := hp h₁
    constructor
    · rw [heq, times, bind_apply, hb]
      change (times p n (rewrite n t)).bind _ = _
      rw [hread]
      rfl
    · rw [heq, List.length_append]
      omega

/-! ## Inverting a parser -/

/-- Whatever `p` consumes is what is printed for an item with the value that it returns. -/
def Inverts (p : Parser ε β α) (print : γ → List β) (value : γ → α) : Prop :=
  ∀ ⦃s x r⦄, p s = .ok (x, r) → ∃ y, s = print y ++ r ∧ x = value y

lemma Inverts.times {p : Parser ε β α} {print : γ → List β} {value : γ → α}
    (hp : Inverts p print value) {n : ℕ} {s r : List β} {xs : List α}
    (h : times p n s = .ok (xs, r)) :
    ∃ l : List γ, l.length = n ∧ s = l.flatMap print ++ r ∧ xs = l.map value := by
  induction n generalizing s xs with
  | zero =>
    obtain ⟨rfl, rfl⟩ := pure_ok h
    exact ⟨[], rfl, rfl, rfl⟩
  | succ n ih =>
    obtain ⟨x, t, h₁, h⟩ := bind_ok h
    obtain ⟨ys, u, h₂, h₃⟩ := bind_ok h
    obtain ⟨rfl, rfl⟩ := pure_ok h₃
    obtain ⟨y, rfl, rfl⟩ := hp h₁
    obtain ⟨l, rfl, rfl, rfl⟩ := ih h₂
    refine ⟨y :: l, rfl, ?_, rfl⟩
    rw [List.flatMap_cons, List.append_assoc]

/-- The symbols consumed are the ones in front of what is left. -/
lemma consumed_ok {p : Parser ε β α} {s b r : List β} (h : p.consumed s = .ok (b, r)) :
    ∃ x, p s = .ok (x, r) ∧ ∀ b', s = b' ++ r → b = b' := by
  rw [consumed] at h
  cases hp : p s with
  | error e =>
    rw [hp] at h
    cases h
  | ok xr =>
    rw [hp] at h
    cases h
    refine ⟨xr.1, rfl, ?_⟩
    rintro b' rfl
    rw [List.length_append, Nat.add_sub_cancel, List.take_left]

lemma lift_ok {x : Except ε α} {s r : List β} {a : α} (h : lift x s = .ok (a, r)) :
    x = .ok a ∧ r = s := by
  cases x with
  | error e => cases h
  | ok b =>
    cases h
    exact ⟨rfl, rfl⟩

/-! ## Faults -/

/-- Every fault of `p` is in `F`. -/
def FaultsIn (p : Parser ε β α) (F : ε → Prop) : Prop := ∀ ⦃s e⦄, p s = .error e → F e

/-- A sequence of two parsers fails where one of them does. -/
lemma bind_error {p : Parser ε β α} {f : α → Parser ε β γ} {s : List β} {e : ε}
    (h : (p >>= f) s = .error e) :
    p s = .error e ∨ ∃ x t, p s = .ok (x, t) ∧ f x t = .error e := by
  rw [bind_apply] at h
  cases hp : p s with
  | error e' =>
    rw [hp] at h
    cases h
    exact .inl rfl
  | ok xt =>
    rw [hp] at h
    exact .inr ⟨xt.1, xt.2, rfl, h⟩

section FaultsIn

variable {F : ε → Prop}

lemma faultsIn_pure (x : α) : FaultsIn (pure x : Parser ε β α) F := by
  intro s e h
  cases h

lemma FaultsIn.bind {p : Parser ε β α} {f : α → Parser ε β γ} (hp : FaultsIn p F)
    (hf : ∀ x, FaultsIn (f x) F) : FaultsIn (p >>= f) F := by
  intro s e h
  rcases bind_error h with h | ⟨x, t, -, h⟩
  · exact hp h
  · exact hf x h

lemma faultsIn_item {e : ε} (he : F e) : FaultsIn (item e : Parser ε β β) F := by
  intro s e' h
  cases s with
  | nil =>
    cases h
    exact he
  | cons b s => cases h

lemma faultsIn_block {e : ε} (he : F e) (n : ℕ) : FaultsIn (block e n : Parser ε β (List β)) F := by
  intro s e' h
  rw [block] at h
  split at h
  · cases h
  · cases h
    exact he

lemma FaultsIn.consumed {p : Parser ε β α} (hp : FaultsIn p F) : FaultsIn p.consumed F := by
  intro s e h
  rw [Parser.consumed] at h
  cases hs : p s with
  | error e' =>
    rw [hs] at h
    cases h
    exact hp hs
  | ok xr =>
    rw [hs] at h
    cases h

lemma FaultsIn.times {p : Parser ε β α} (hp : FaultsIn p F) (n : ℕ) : FaultsIn (times p n) F := by
  induction n with
  | zero => exact faultsIn_pure []
  | succ n ih => exact hp.bind fun x => ih.bind fun xs => faultsIn_pure _

lemma faultsIn_lift {x : Except ε α} (hx : ∀ e, x = .error e → F e) :
    FaultsIn (lift x : Parser ε β α) F := by
  intro s e h
  cases x with
  | error e' =>
    cases h
    exact hx e rfl
  | ok a => cases h

end FaultsIn

end Parser
end SakuraTools
