import Mathlib.Logic.Basic

/-!
# Index tables

A table from keys to the places of entries.  What a key stands for is held at its place; a key
that is in the table keeps its place when another one is added.
-/

namespace SakuraTools

variable {K V α : Type}

/-- Every key has the place of the entry that it stands for, `holds` being what is where. -/
def Indexed (holds : V → α → Prop) (entry : K → α) (index : List (K × V)) : Prop :=
  ∀ p ∈ index, holds p.2 (entry p.1)

/-- A new key with its place.  An entry with the key is left as it is. -/
def emplace [BEq K] (index : List (K × V)) (key : K) (place : V) : List (K × V) :=
  if (index.lookup key).isSome then index else (key, place) :: index

section emplace

variable [BEq K] [LawfulBEq K] {index : List (K × V)} {key : K} {place : V}

lemma lookup_emplace_self (h : index.lookup key = none) :
    (emplace index key place).lookup key = some place := by
  rw [emplace, h]
  exact List.lookup_cons_self

/-- A key that is in the table keeps its place. -/
lemma lookup_emplace_of_some {key' : K} {place' : V} (h : index.lookup key' = some place') :
    (emplace index key place).lookup key' = some place' := by
  rw [emplace]
  split
  · exact h
  · rename_i hnew
    have hne : (key' == key) = false := by
      rw [beq_eq_false_iff_ne]
      rintro rfl
      rw [h] at hnew
      exact hnew rfl
    rw [List.lookup_cons, hne]
    exact h

end emplace

namespace Indexed

variable {holds holds' : V → α → Prop} {entry : K → α} {index : List (K × V)}

lemma nil : Indexed holds entry [] := by
  intro p hp
  cases hp

lemma mono (h : Indexed holds entry index) (hmono : ∀ v a, holds v a → holds' v a) :
    Indexed holds' entry index :=
  fun p hp => hmono p.2 (entry p.1) (h p hp)

lemma emplace [BEq K] (h : Indexed holds entry index) {key : K} {place : V}
    (hplace : holds place (entry key)) : Indexed holds entry (emplace index key place) := by
  intro p hp
  rw [SakuraTools.emplace] at hp
  split at hp
  · exact h p hp
  · rcases List.mem_cons.mp hp with rfl | hp
    · exact hplace
    · exact h p hp

lemma of_lookup [BEq K] [LawfulBEq K] (h : Indexed holds entry index) {key : K} {place : V}
    (hlookup : index.lookup key = some place) : holds place (entry key) := by
  obtain ⟨l₁, l₂, rfl, -⟩ := List.lookup_eq_some_iff.mp hlookup
  exact h (key, place) (List.mem_append_right l₁ List.mem_cons_self)

end Indexed

/-- The table has the keys whose entries are at a place, each with that place, and no other key.
The keys that can occur are those with `isKey`. -/
structure Exact (holds : V → α → Prop) (entry : K → α) (isKey : K → Prop)
    (index : List (K × V)) : Prop where
  mem_iff : ∀ k v, (k, v) ∈ index ↔ isKey k ∧ holds v (entry k)
  nodup : (index.map Prod.fst).Nodup

namespace Exact

variable {holds holds' : V → α → Prop} {entry : K → α} {isKey : K → Prop} {index : List (K × V)}

lemma nil (h : ∀ k v, isKey k → ¬ holds v (entry k)) : Exact holds entry isKey [] where
  mem_iff k v := by
    constructor
    · intro hmem
      cases hmem
    · rintro ⟨hk, hv⟩
      exact absurd hv (h k v hk)
  nodup := List.nodup_nil

/-- Nothing changes when no entry with a key comes or goes. -/
lemma congr (h : Exact holds entry isKey index)
    (hholds : ∀ k v, isKey k → (holds' v (entry k) ↔ holds v (entry k))) :
    Exact holds' entry isKey index where
  mem_iff k v := by
    rw [h.mem_iff]
    exact and_congr_right fun hk => (hholds k v hk).symm
  nodup := h.nodup

variable [BEq K] [LawfulBEq K]

lemma lookup_iff (h : Exact holds entry isKey index) {k : K} {v : V} :
    index.lookup k = some v ↔ isKey k ∧ holds v (entry k) := by
  rw [← h.mem_iff]
  constructor
  · intro hlookup
    obtain ⟨l₁, l₂, rfl, -⟩ := List.lookup_eq_some_iff.mp hlookup
    exact List.mem_append_right l₁ List.mem_cons_self
  · intro hmem
    obtain ⟨l₁, l₂, rfl⟩ := List.append_of_mem hmem
    refine List.lookup_eq_some_iff.mpr ⟨l₁, l₂, rfl, ?_⟩
    intro p hp
    have hnodup := h.nodup
    rw [List.map_append, List.map_cons, List.nodup_append] at hnodup
    rw [bne_iff_ne]
    rintro rfl
    exact hnodup.2.2 p.1 (List.mem_map_of_mem hp) p.1 List.mem_cons_self rfl

/-- An entry is at one place. -/
lemma unique (h : Exact holds entry isKey index) {k : K} {v v' : V} (hk : isKey k)
    (hv : holds v (entry k)) (hv' : holds v' (entry k)) : v = v' :=
  Option.some.inj ((h.lookup_iff.mpr ⟨hk, hv⟩).symm.trans (h.lookup_iff.mpr ⟨hk, hv'⟩))

/-- One more entry, under its key. -/
lemma emplace (h : Exact holds entry isKey index) {key : K} {place : V}
    (hnew : index.lookup key = none) (hkey : isKey key)
    (hholds : ∀ k v, isKey k →
      (holds' v (entry k) ↔ holds v (entry k) ∨ (k = key ∧ v = place))) :
    Exact holds' entry isKey (emplace index key place) := by
  rw [SakuraTools.emplace, hnew, if_neg (by simp)]
  have hfresh : ∀ p ∈ index, p.1 ≠ key := by
    intro p hp
    have := List.lookup_eq_none_iff.mp hnew p hp
    rintro rfl
    simp at this
  constructor
  · intro k v
    rw [List.mem_cons, h.mem_iff, Prod.mk.injEq]
    constructor
    · rintro (⟨rfl, rfl⟩ | ⟨hk, hv⟩)
      · exact ⟨hkey, (hholds k v hkey).mpr (.inr ⟨rfl, rfl⟩)⟩
      · exact ⟨hk, (hholds k v hk).mpr (.inl hv)⟩
    · rintro ⟨hk, hv⟩
      rcases (hholds k v hk).mp hv with hv | heq
      · exact .inr ⟨hk, hv⟩
      · exact .inl heq
  · rw [List.map_cons, List.nodup_cons]
    refine ⟨?_, h.nodup⟩
    intro hmem
    obtain ⟨p, hp, heq⟩ := List.mem_map.mp hmem
    exact hfresh p hp heq

end Exact

end SakuraTools
