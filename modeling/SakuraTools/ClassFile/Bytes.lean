import Mathlib.Tactic.Ring
import SakuraTools.Lib.Parser

/-!
# The bytes of a class file

The helpers `rd16`, `rd32`, `wr16`, `wr32` and `copyN` of `native/class_edit.cpp`, with the
numbers `u1`, `u2`, `u4` of `native/classfile.h` as fixed-width integers.  A read beyond the
end of the vector is undefined in the source; here it is a fault.
-/

namespace SakuraTools
namespace ClassFile

/-- `std::vector<u1>` -/
abbrev Bytes := List UInt8

/-- The ways a function of the editor can fail to return. -/
inductive Fault where
  /-- A read outside the vector the pointer belongs to. -/
  | outOfBounds
  /-- A `std::runtime_error`. -/
  | thrown (what : String)
  /-- A loop that never ends. -/
  | diverges
deriving DecidableEq, Repr

/-- The computation returns a value with the property `P`, unless it runs forever. -/
def Yields {α : Type} (x : Except Fault α) (P : α → Prop) : Prop :=
  x = .error .diverges ∨ ∃ a, x = .ok a ∧ P a

namespace Yields

variable {α β : Type} {x : Except Fault α} {P : α → Prop}

lemma ok {a : α} (h : P a) : Yields (.ok a) P := .inr ⟨a, rfl, h⟩

lemma mono {Q : α → Prop} (h : Yields x P) (hPQ : ∀ a, P a → Q a) : Yields x Q := by
  rcases h with h | ⟨a, ha, hP⟩
  · exact .inl h
  · exact .inr ⟨a, ha, hPQ a hP⟩

lemma bind {f : α → Except Fault β} {Q : β → Prop} (h : Yields x P)
    (hf : ∀ a, P a → Yields (f a) Q) : Yields (x >>= f) Q := by
  rcases h with rfl | ⟨a, rfl, hP⟩
  · exact .inl rfl
  · exact hf a hP

lemma of_ok (h : Yields x P) {a : α} (ha : x = .ok a) : P a := by
  rcases h with h | ⟨b, hb, hP⟩
  · cases ha.symm.trans h
  · cases ha.symm.trans hb
    exact hP

lemma of_error (h : Yields x P) {e : Fault} (he : x = .error e) : e = .diverges := by
  rcases h with h | ⟨b, hb, -⟩
  · cases he.symm.trans h
    rfl
  · cases he.symm.trans hb

end Yields

/-- A property of the value of a computation, if it returns one. -/
def decidableForallOk {α : Type} (x : Except Fault α) (P : α → Prop) [∀ a, Decidable (P a)] :
    Decidable (∀ a, x = .ok a → P a) :=
  match x with
  | .ok a => decidable_of_iff (P a) ⟨fun h _ hb => Except.ok.inj hb ▸ h, fun h => h a rfl⟩
  | .error _ => isTrue fun _ h => nomatch h

/-- A function that advances the read pointer `p`. -/
abbrev Reader := Parser Fault UInt8

/-- `*p++` -/
def rd8 : Reader UInt8 := Parser.item .outOfBounds

/-- `(u2(p[0]) << 8) | p[1]` -/
def be16 (a b : UInt8) : UInt16 := (a.toUInt16 <<< 8) ||| b.toUInt16

/-- `(u4(p[0]) << 24) | (u4(p[1]) << 16) | (u4(p[2]) << 8) | p[3]` -/
def be32 (a b c d : UInt8) : UInt32 :=
  (a.toUInt32 <<< 24) ||| (b.toUInt32 <<< 16) ||| (c.toUInt32 <<< 8) ||| d.toUInt32

/-- `ClassFileEditor::rd16` -/
def rd16 : Reader UInt16 := do
  let a ← rd8
  let b ← rd8
  pure (be16 a b)

/-- `ClassFileEditor::rd32` -/
def rd32 : Reader UInt32 := do
  let a ← rd8
  let b ← rd8
  let c ← rd8
  let d ← rd8
  pure (be32 a b c d)

/-- `ClassFileEditor::wr16` -/
def wr16 (v : UInt16) : Bytes := [(v >>> 8).toUInt8, (v &&& 0xFF).toUInt8]

/-- `ClassFileEditor::wr32` -/
def wr32 (v : UInt32) : Bytes :=
  [((v >>> 24) &&& 0xFF).toUInt8, ((v >>> 16) &&& 0xFF).toUInt8,
    ((v >>> 8) &&& 0xFF).toUInt8, (v &&& 0xFF).toUInt8]

/-- `ClassFileEditor::copyN` -/
def copyN (n : ℕ) : Reader Bytes := Parser.block .outOfBounds n

/-! ## Reading what was written -/

lemma toNat_be16 (a b : UInt8) : (be16 a b).toNat = 256 * a.toNat + b.toNat := by
  have ha := a.toNat_lt
  have hb := b.toNat_lt
  have hshift : (a.toNat <<< 8) % 2 ^ 16 = a.toNat <<< 8 := by
    rw [Nat.shiftLeft_eq]
    omega
  simp only [be16, UInt16.toNat_or, UInt16.toNat_shiftLeft, UInt8.toNat_toUInt16]
  change (a.toNat <<< 8) % 2 ^ 16 ||| b.toNat = _
  rw [hshift, ← Nat.shiftLeft_add_eq_or_of_lt (by omega), Nat.shiftLeft_eq]
  omega

lemma be16_wr16 (v : UInt16) : be16 (v >>> 8).toUInt8 (v &&& 0xFF).toUInt8 = v := by
  apply UInt16.toNat_inj.mp
  have hv := v.toNat_lt
  rw [toNat_be16]
  simp only [UInt16.toNat_toUInt8, UInt16.toNat_shiftRight, UInt16.toNat_and]
  change 256 * ((v.toNat >>> 8) % 256) + (v.toNat &&& (2 ^ 8 - 1)) % 256 = v.toNat
  rw [Nat.shiftRight_eq_div_pow, Nat.and_two_pow_sub_one_eq_mod]
  omega

lemma reads_rd16 (v : UInt16) : Parser.Reads rd16 (wr16 v) v := by
  intro r
  change Except.ok (be16 _ _, r) = _
  rw [be16_wr16]

@[simp] lemma length_wr16 (v : UInt16) : (wr16 v).length = 2 := rfl

@[simp] lemma length_wr32 (v : UInt32) : (wr32 v).length = 4 := rfl

lemma toNat_be32 (a b c d : UInt8) :
    (be32 a b c d).toNat = 16777216 * a.toNat + 65536 * b.toNat + 256 * c.toNat + d.toNat := by
  have ha := a.toNat_lt
  have hb := b.toNat_lt
  have hc := c.toNat_lt
  have hd := d.toNat_lt
  have h24 : (a.toNat <<< 24) % 2 ^ 32 = a.toNat <<< 24 := by
    rw [Nat.shiftLeft_eq]
    omega
  have h16 : (b.toNat <<< 16) % 2 ^ 32 = b.toNat <<< 16 := by
    rw [Nat.shiftLeft_eq]
    omega
  have h8 : (c.toNat <<< 8) % 2 ^ 32 = c.toNat <<< 8 := by
    rw [Nat.shiftLeft_eq]
    omega
  simp only [be32, UInt32.toNat_or, UInt32.toNat_shiftLeft, UInt8.toNat_toUInt32]
  change (a.toNat <<< 24) % 2 ^ 32 ||| (b.toNat <<< 16) % 2 ^ 32 |||
    (c.toNat <<< 8) % 2 ^ 32 ||| d.toNat = _
  rw [h24, h16, h8, Nat.or_assoc, Nat.or_assoc]
  have hcd : c.toNat <<< 8 ||| d.toNat = 256 * c.toNat + d.toNat := by
    rw [← Nat.shiftLeft_add_eq_or_of_lt (by omega), Nat.shiftLeft_eq]
    omega
  have hbcd : b.toNat <<< 16 ||| (256 * c.toNat + d.toNat) =
      65536 * b.toNat + 256 * c.toNat + d.toNat := by
    rw [← Nat.shiftLeft_add_eq_or_of_lt (by omega), Nat.shiftLeft_eq]
    omega
  rw [hcd, hbcd, ← Nat.shiftLeft_add_eq_or_of_lt (by omega), Nat.shiftLeft_eq]
  omega

lemma reads_rd32 (v : UInt32) : Parser.Reads rd32 (wr32 v) v := by
  intro r
  change Except.ok (be32 _ _ _ _, r) = _
  congr 2
  apply UInt32.toNat_inj.mp
  have hv := v.toNat_lt
  rw [toNat_be32]
  simp only [UInt32.toNat_toUInt8, UInt32.toNat_shiftRight, UInt32.toNat_and]
  change 16777216 * ((v.toNat >>> 24 &&& (2 ^ 8 - 1)) % 256) +
    65536 * ((v.toNat >>> 16 &&& (2 ^ 8 - 1)) % 256) +
    256 * ((v.toNat >>> 8 &&& (2 ^ 8 - 1)) % 256) + (v.toNat &&& (2 ^ 8 - 1)) % 256 = v.toNat
  simp only [Nat.shiftRight_eq_div_pow, Nat.and_two_pow_sub_one_eq_mod]
  omega

/-- A number that fits in 16 bits is read back from its two bytes. -/
lemma toNat_ofNat_u2 {n : ℕ} (h : n < 65536) : (UInt16.ofNat n).toNat = n :=
  UInt16.toNat_ofNat_of_lt' h

lemma toNat_ofNat_u4 {n : ℕ} (h : n < 4294967296) : (UInt32.ofNat n).toNat = n :=
  UInt32.toNat_ofNat_of_lt' h

end ClassFile
end SakuraTools
