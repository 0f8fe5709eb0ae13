import Mathlib.Logic.Equiv.Defs
import Mathlib.Tactic.Ring
import SakuraTools.Lib.Parser

/-!
# Codecs

A writer and a parser that reads what the writer puts out.  The parser may read a value from
other symbols too, but never from fewer than the writer puts out.
-/

namespace SakuraTools

/-- A writer of values, and a parser that reads them back. -/
structure Codec (ε β α : Type) where
  write : α → List β
  read : Parser ε β α
  reads : ∀ a, Parser.Reads read (write a) a
  shortest : ∀ s a r, read s = .ok (a, r) → (write a).length + r.length ≤ s.length
  ne_nil : ∀ a, write a ≠ []

namespace Codec

open SakuraTools.Parser

variable {ε β α γ : Type}

lemma length_pos (c : Codec ε β α) (a : α) : 0 < (c.write a).length :=
  List.length_pos_of_ne_nil (c.ne_nil a)

/-- A single symbol. -/
def item (e : ε) : Codec ε β β where
  write b := [b]
  read := Parser.item e
  reads _ _ := rfl
  shortest s b r h := by
    rw [takes_item e h]
    exact Nat.le_refl _
  ne_nil b := List.cons_ne_nil b []

/-- The same values under other names. -/
def map (c : Codec ε β α) (f : α ≃ γ) : Codec ε β γ where
  write x := c.write (f.symm x)
  read := f <$> c.read
  reads x := by simpa using (c.reads (f.symm x)).map f
  shortest s x r h := by
    obtain ⟨a, t, ha, h⟩ := bind_ok (f := fun a => pure (f a)) h
    obtain ⟨rfl, rfl⟩ := pure_ok h
    rw [Equiv.symm_apply_apply]
    exact c.shortest s a _ ha
  ne_nil x := c.ne_nil (f.symm x)

/-- A truth value in a byte; every byte but 0 is read as true. -/
def bool (e : ε) : Codec ε UInt8 Bool where
  write b := [if b then 1 else 0]
  read := (fun b : UInt8 => decide (b ≠ 0)) <$> Parser.item e
  reads b := by
    cases b <;> exact fun _ => rfl
  shortest s b r h := by
    obtain ⟨a, t, ha, h⟩ := bind_ok (f := fun a => pure (decide (a ≠ 0))) h
    obtain ⟨-, rfl⟩ := pure_ok h
    rw [takes_item e ha]
    exact Nat.le_refl _
  ne_nil b := List.cons_ne_nil _ _

/-- A block of `n` symbols. -/
def block (e : ε) (n : ℕ) (hn : 0 < n) : Codec ε β { l : List β // l.length = n } where
  write l := l.1
  read s :=
    if h : n ≤ s.length then .ok (⟨s.take n, List.length_take_of_le h⟩, s.drop n) else .error e
  reads l r := by
    obtain ⟨l, rfl⟩ := l
    simp
  shortest s l r h := by
    split at h
    next hs =>
      cases h
      simp only [List.length_take, List.length_drop]
      omega
    next => cases h
  ne_nil l := List.ne_nil_of_length_pos (by rw [l.2]; exact hn)

/-! ## Numbers in groups of seven bits -/

/-- The groups of seven bits of a number, the lowest first, in at most `k` bytes.  The highest
bit of a byte says that there are more. -/
def writeSevens : ℕ → ℕ → List UInt8
  | 0, _ => []
  | k + 1, n => if n < 128 then [n.toUInt8] else (n % 128 + 128).toUInt8 :: writeSevens k (n / 128)

def readSevens (e : ε) : ℕ → Parser ε UInt8 ℕ
  | 0 => fail e
  | k + 1 => do
    let b ← Parser.item e
    if b.toNat < 128 then pure b.toNat
    else do
      let n ← readSevens e k
      pure (b.toNat - 128 + 128 * n)

lemma toNat_toUInt8_of_lt {n : ℕ} (h : n < 256) : n.toUInt8.toNat = n := Nat.mod_eq_of_lt h

lemma reads_sevens (e : ε) (k n : ℕ) (h : n < 128 ^ (k + 1)) :
    Reads (readSevens e (k + 1)) (writeSevens (k + 1) n) n := by
  induction k generalizing n with
  | zero =>
    have hn : n < 128 := by simpa using h
    intro r
    rw [writeSevens, if_pos hn, readSevens]
    show (if n.toUInt8.toNat < 128 then _ else _ : Parser ε UInt8 ℕ) r = _
    rw [toNat_toUInt8_of_lt (by omega), if_pos hn]
    rfl
  | succ k ih =>
    intro r
    rw [writeSevens, readSevens]
    by_cases hn : n < 128
    · rw [if_pos hn]
      show (if n.toUInt8.toNat < 128 then _ else _ : Parser ε UInt8 ℕ) r = _
      rw [toNat_toUInt8_of_lt (by omega), if_pos hn]
      rfl
    · have hrest : n / 128 < 128 ^ (k + 1) := by
        rw [Nat.div_lt_iff_lt_mul (by decide)]
        rwa [Nat.pow_succ] at h
      rw [if_neg hn]
      show (if (n % 128 + 128).toUInt8.toNat < 128 then _ else _ : Parser ε UInt8 ℕ)
        (writeSevens (k + 1) (n / 128) ++ r) = _
      rw [toNat_toUInt8_of_lt (by omega), if_neg (by omega), (ih _ hrest).bind_append]
      show Except.ok (n % 128 + 128 - 128 + 128 * (n / 128), r) = _
      rw [Nat.add_sub_cancel, Nat.mod_add_div]

lemma length_writeSevens_le (k : ℕ) {n j : ℕ} (hj : 0 < j) (h : n < 128 ^ j) :
    (writeSevens k n).length ≤ j := by
  induction k generalizing n j with
  | zero => exact Nat.zero_le j
  | succ k ih =>
    rw [writeSevens]
    split
    next => exact hj
    next hn =>
      obtain ⟨j, rfl⟩ := Nat.exists_eq_succ_of_ne_zero hj.ne'
      have hj : 0 < j := by
        rcases j with _ | j
        · exact absurd (by simpa using h) hn
        · exact Nat.succ_pos j
      have hrest : n / 128 < 128 ^ j := by
        rw [Nat.div_lt_iff_lt_mul (by decide)]
        rwa [Nat.pow_succ] at h
      exact Nat.succ_le_succ (ih hj hrest)

/-- What is read from `j` bytes has at most `j` groups. -/
lemma readSevens_lt {e : ε} {k n : ℕ} {s r : List UInt8} (h : readSevens e k s = .ok (n, r)) :
    ∃ j, 0 < j ∧ s.length = j + r.length ∧ n < 128 ^ j := by
  induction k generalizing n s with
  | zero => cases h
  | succ k ih =>
    obtain ⟨b, t, hb, h⟩ := bind_ok h
    have ht := takes_item e hb
    split at h
    next hlt =>
      obtain ⟨rfl, rfl⟩ := pure_ok h
      exact ⟨1, Nat.one_pos, ht, by omega⟩
    next hge =>
      obtain ⟨m, u, hm, h⟩ := bind_ok h
      obtain ⟨rfl, rfl⟩ := pure_ok h
      obtain ⟨j, hj, hlen, hlt⟩ := ih hm
      have hbyte := b.toNat_lt
      refine ⟨j + 1, Nat.succ_pos j, by omega, ?_⟩
      rw [Nat.pow_succ]
      omega

lemma writeSevens_ne_nil (k n : ℕ) : writeSevens (k + 1) n ≠ [] := by
  rw [writeSevens]
  split <;> exact List.cons_ne_nil _ _

/-- A 32-bit number in one to five bytes. -/
def varInt (e : ε) : Codec ε UInt8 UInt32 where
  write v := writeSevens 5 v.toNat
  read := UInt32.ofNat <$> readSevens e 5
  reads v := by
    have hv := v.toNat_lt
    simpa using (reads_sevens e 4 v.toNat (by omega)).map UInt32.ofNat
  shortest s v r h := by
    obtain ⟨n, t, hn, h⟩ := bind_ok (f := fun n => pure (UInt32.ofNat n)) h
    obtain ⟨rfl, rfl⟩ := pure_ok h
    obtain ⟨j, hj, hlen, hlt⟩ := readSevens_lt hn
    have hle := length_writeSevens_le 5 hj ((Nat.mod_le n (2 ^ 32)).trans_lt hlt)
    rw [UInt32.toNat_ofNat']
    omega
  ne_nil v := writeSevens_ne_nil 4 v.toNat

/-- A number of bytes that comes first, and the bytes. -/
def counted (e : ε) : Codec ε UInt8 { l : List UInt8 // l.length < 2 ^ 32 } where
  write l := (varInt e).write (UInt32.ofNat l.1.length) ++ l.1
  read := do
    let n ← (varInt e).read
    fun s =>
      if h : n.toNat ≤ s.length then
        .ok (⟨s.take n.toNat, (List.length_take_le _ _).trans_lt n.toNat_lt⟩, s.drop n.toNat)
      else .error e
  reads l := by
    obtain ⟨l, hl⟩ := l
    intro r
    have hn : (UInt32.ofNat l.length).toNat = l.length := by
      rw [UInt32.toNat_ofNat', Nat.mod_eq_of_lt hl]
    rw [List.append_assoc, ((varInt e).reads _).bind_append]
    simp [hn]
  shortest s l r h := by
    obtain ⟨n, t, hn, h⟩ := bind_ok h
    have hlen := (varInt e).shortest s n t hn
    split at h
    next ht =>
      cases h
      have hcount : UInt32.ofNat (t.take n.toNat).length = n := by
        rw [List.length_take_of_le ht, UInt32.ofNat_toNat]
      show ((varInt e).write (UInt32.ofNat (t.take n.toNat).length) ++ t.take n.toNat).length +
        (t.drop n.toNat).length ≤ s.length
      rw [List.length_append, hcount, List.length_take_of_le ht, List.length_drop]
      omega
    next => cases h
  ne_nil l h := (varInt e).ne_nil _ (List.append_eq_nil_iff.mp h).1

end Codec
end SakuraTools
