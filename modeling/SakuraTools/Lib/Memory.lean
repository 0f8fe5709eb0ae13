import Mathlib.Algebra.Ring.Nat
import Mathlib.Logic.Function.Basic
import Mathlib.Data.List.Basic
import Mathlib.Tactic.Common

/-!
# Byte memory

A memory gives a byte for every address.  Words are read and written with the lowest byte first.
A patch rewrites one word from what it was; patches that lie apart do not disturb each other.
-/

namespace SakuraTools

abbrev Memory := ℕ → UInt8

namespace Memory

variable {m m' : Memory} {a n v x : ℕ}

/-! ## Words -/

/-- The word of `n` bytes at an address. -/
def read (m : Memory) : ℕ → ℕ → ℕ
  | _, 0 => 0
  | a, n + 1 => (m a).toNat + 256 * m.read (a + 1) n

def write (m : Memory) (a n v : ℕ) : Memory :=
  fun x => if a ≤ x ∧ x < a + n then UInt8.ofNat (v / 256 ^ (x - a)) else m x

lemma read_lt (m : Memory) (a n : ℕ) : m.read a n < 256 ^ n := by
  induction n generalizing a with
  | zero => exact Nat.one_pos
  | succ n ih =>
    have hbyte := (m a).toNat_lt
    have hrest := ih (a + 1)
    rw [read, Nat.pow_succ]
    omega

/-- Words are the same just when their bytes are. -/
lemma read_eq_iff {a' : ℕ} : m.read a n = m'.read a' n ↔ ∀ i < n, m (a + i) = m' (a' + i) := by
  induction n generalizing a a' with
  | zero => simp [read]
  | succ n ih =>
    have hbyte := (m a).toNat_lt
    have hbyte' := (m' a').toNat_lt
    rw [read, read]
    constructor
    · intro h i hi
      cases i with
      | zero =>
        show m a = m' a'
        exact UInt8.toNat_inj.mp (by omega)
      | succ i =>
        have hrest := ih.mp (show m.read (a + 1) n = m'.read (a' + 1) n by omega) i (by omega)
        rw [show a + (i + 1) = a + 1 + i by omega, show a' + (i + 1) = a' + 1 + i by omega]
        exact hrest
    · intro h
      have hfirst : m a = m' a' := h 0 (Nat.succ_pos n)
      have hrest : m.read (a + 1) n = m'.read (a' + 1) n := ih.mpr fun i hi => by
        have := h (i + 1) (by omega)
        rwa [show a + (i + 1) = a + 1 + i by omega, show a' + (i + 1) = a' + 1 + i by omega] at this
      rw [hfirst, hrest]

lemma read_congr {a' : ℕ} (h : ∀ i < n, m (a + i) = m' (a' + i)) : m.read a n = m'.read a' n :=
  read_eq_iff.mpr h

lemma read_of_bytes (h : ∀ i < n, m (a + i) = UInt8.ofNat (v / 256 ^ i)) :
    m.read a n = v % 256 ^ n := by
  induction n generalizing a v with
  | zero => simp [read, Nat.mod_one]
  | succ n ih =>
    have hfirst : m a = UInt8.ofNat v := by simpa using h 0 (Nat.succ_pos n)
    have hrest : m.read (a + 1) n = v / 256 % 256 ^ n := by
      refine ih fun i hi => ?_
      have hi' := h (i + 1) (by omega)
      rwa [show a + (i + 1) = a + 1 + i by omega, Nat.pow_succ, Nat.mul_comm,
        ← Nat.div_div_eq_div_mul] at hi'
    rw [read, hfirst, hrest, Nat.pow_succ, Nat.mul_comm (256 ^ n), Nat.mod_mul]
    rfl

lemma write_of_not (h : ¬ (a ≤ x ∧ x < a + n)) : m.write a n v x = m x := if_neg h

lemma read_write : (m.write a n v).read a n = v % 256 ^ n := by
  refine read_of_bytes fun i hi => ?_
  rw [write, if_pos ⟨Nat.le_add_right a i, by omega⟩, Nat.add_sub_cancel_left]

/-! ## Copying -/

/-- The block of a memory at `base` has the bytes of `img`, which is a memory with addresses from
the beginning of the block. -/
def Holds (m : Memory) (base size : ℕ) (img : Memory) : Prop := ∀ i < size, m (base + i) = img i

namespace Holds

variable {base size : ℕ} {img : Memory}

lemma read (h : m.Holds base size img) (hle : a + n ≤ size) : m.read (base + a) n = img.read a n :=
  read_congr fun i hi => by
    rw [Nat.add_assoc]
    exact h (a + i) (by omega)

lemma write (h : m.Holds base size img) :
    (m.write (base + a) n v).Holds base size (img.write a n v) := by
  intro i hi
  simp only [Memory.write]
  by_cases hin : a ≤ i ∧ i < a + n
  · rw [if_pos (by omega), if_pos hin, Nat.add_sub_add_left]
  · rw [if_neg (by omega), if_neg hin]
    exact h i hi

lemma congr (h : m.Holds base size img) (hsame : ∀ x, base ≤ x → x < base + size → m' x = m x) :
    m'.Holds base size img := by
  intro i hi
  rw [hsame (base + i) (Nat.le_add_right _ _) (by omega)]
  exact h i hi

end Holds

/-! ## Patches -/

/-- A word and what becomes of it. -/
structure Patch where
  addr : ℕ
  width : ℕ
  change : ℕ → ℕ

namespace Patch

def apply (m : Memory) (p : Patch) : Memory :=
  m.write p.addr p.width (p.change (m.read p.addr p.width))

/-- The patch leaves a range alone. -/
def Spares (p : Patch) (a n : ℕ) : Prop := p.addr + p.width ≤ a ∨ a + n ≤ p.addr

instance (p : Patch) (a n : ℕ) : Decidable (p.Spares a n) :=
  inferInstanceAs (Decidable (_ ∨ _))

def Apart (p q : Patch) : Prop := p.Spares q.addr q.width

instance (p q : Patch) : Decidable (p.Apart q) := inferInstanceAs (Decidable (p.Spares _ _))

def Covers (p : Patch) (x : ℕ) : Prop := p.addr ≤ x ∧ x < p.addr + p.width

/-- The patches, one after the other. -/
def applyAll (m : Memory) (ps : List Patch) : Memory := ps.foldl apply m

lemma Apart.symm {p q : Patch} (h : p.Apart q) : q.Apart p := Or.symm h

lemma Spares.mono {p : Patch} (h : p.Spares a n) {b k : ℕ} (hle : a ≤ b) (hle' : b + k ≤ a + n) :
    p.Spares b k :=
  h.imp (fun h => Nat.le_trans h hle) fun h => Nat.le_trans hle' h

lemma read_apply (m : Memory) (p : Patch) :
    (p.apply m).read p.addr p.width = p.change (m.read p.addr p.width) % 256 ^ p.width :=
  read_write

lemma apply_of_not_covers {p : Patch} (h : ¬ p.Covers x) : p.apply m x = m x := write_of_not h

lemma apply_of_spares {p : Patch} (h : p.Spares a n) {i : ℕ} (hi : i < n) :
    p.apply m (a + i) = m (a + i) :=
  write_of_not fun hin => by
    obtain h | h := h
    · omega
    · omega

lemma read_apply_of_spares {p : Patch} (h : p.Spares a n) : (p.apply m).read a n = m.read a n :=
  read_congr fun _ hi => apply_of_spares h hi

lemma applyAll_of_not_covers {ps : List Patch} (h : ∀ p ∈ ps, ¬ p.Covers x) :
    applyAll m ps x = m x := by
  induction ps generalizing m with
  | nil => rfl
  | cons p ps ih =>
    have hrest := ih (m := p.apply m) fun q hq => h q (List.mem_cons_of_mem p hq)
    exact hrest.trans (apply_of_not_covers (h p List.mem_cons_self))

lemma applyAll_of_spares {ps : List Patch} (h : ∀ p ∈ ps, p.Spares a n) {i : ℕ} (hi : i < n) :
    applyAll m ps (a + i) = m (a + i) :=
  applyAll_of_not_covers fun p hp hcovers => by
    obtain ⟨hge, hlt⟩ := hcovers
    obtain h | h := h p hp
    · omega
    · omega

lemma read_applyAll_of_spares {ps : List Patch} (h : ∀ p ∈ ps, p.Spares a n) :
    (applyAll m ps).read a n = m.read a n :=
  read_congr fun _ hi => applyAll_of_spares h hi

/-- Among patches that lie apart, each one does to its word what it does alone. -/
theorem read_applyAll {ps : List Patch} (hps : ps.Pairwise Apart) {p : Patch} (hp : p ∈ ps) :
    (applyAll m ps).read p.addr p.width = p.change (m.read p.addr p.width) % 256 ^ p.width := by
  induction ps generalizing m with
  | nil => cases hp
  | cons q ps ih =>
    obtain ⟨hq, hps⟩ := List.pairwise_cons.mp hps
    rcases List.mem_cons.mp hp with rfl | hp
    · have hlater : (applyAll (p.apply m) ps).read p.addr p.width =
          (p.apply m).read p.addr p.width :=
        read_applyAll_of_spares fun r hr => (hq r hr).symm
      exact hlater.trans (read_apply m p)
    · have hrest := ih (m := q.apply m) hps hp
      rwa [read_apply_of_spares (hq p hp)] at hrest

/-- The patches of an image, done in a block that holds it. -/
def shift (base : ℕ) (p : Patch) : Patch := { p with addr := base + p.addr }

end Patch
end Memory
end SakuraTools
