import SakuraTools.ClassFile.BuilderPool
import SakuraTools.Lib.Interning

/-!
# Adding constants

The constant pool of the editor as a table of interned terms: a Utf8 constant is a leaf, and the
other constants refer to their parts by index.  Adding a constant interns its term, as long as the
pool has no more than 65535 slots.
-/

namespace SakuraTools
namespace ClassFile

open Interning

/-! ## Constants as terms -/

/-- A constant with everything that it refers to. -/
abbrev Const := Term Bytes UInt8

namespace Const

def utf8 (s : Bytes) : Const := .leaf s

def klass (name : Bytes) : Const := .one CP_Class (utf8 name)

def nameAndType (name desc : Bytes) : Const := .two CP_NameAndType (utf8 name) (utf8 desc)

def ref (tag : UInt8) (className name desc : Bytes) : Const :=
  .two tag (klass className) (nameAndType name desc)

def methodRef (className name desc : Bytes) : Const := ref CP_Methodref className name desc

end Const

/-- The string of a Utf8 constant. -/
def leafNode : Bytes → Option (Node Bytes UInt8)
  | a :: b :: t =>
    if (be16 a b).toNat ≤ t.length then some (.leaf (t.take (be16 a b).toNat)) else none
  | _ => none

/-- The index of a constant of one index. -/
def oneNode (tag : UInt8) : Bytes → Option (Node Bytes UInt8)
  | [a, b] => some (.one tag (be16 a b).toNat)
  | _ => none

/-- The indices of a constant of two. -/
def twoNode (tag : UInt8) : Bytes → Option (Node Bytes UInt8)
  | [a, b, c, d] => some (.two tag (be16 a b).toNat (be16 c d).toNat)
  | _ => none

/-- The node that an entry holds, if it is a Utf8 constant or one of the constants of indices. -/
def CpEntry.node (e : CpEntry) : Option (Node Bytes UInt8) :=
  if e.tag = CP_Utf8 then leafNode e.body
  else if e.tag = CP_Class ∨ e.tag = CP_String then oneNode e.tag e.body
  else if e.tag = CP_NameAndType ∨ e.tag = CP_Methodref ∨ e.tag = CP_Fieldref then
    twoNode e.tag e.body
  else none

/-- The pool as a table. -/
def table (cp : List CpEntry) : Table Bytes UInt8 := cp.map CpEntry.node

/-- A pool of constants of the right size, whose indices are inside it. -/
structure PoolWellFormed (cp : List CpEntry) : Prop where
  slots : ∃ pool, cp = poolSlots pool
  linked : Linked (table cp)

@[simp] lemma length_table (cp : List CpEntry) : (table cp).length = cp.length := by
  rw [table, List.length_map]

lemma table_append (cp new : List CpEntry) : table (cp ++ new) = table cp ++ table new := by
  rw [table, List.map_append]
  rfl

/-! ## Indices in bytes -/

lemma wr16_be16 (a b : UInt8) : wr16 (be16 a b) = [a, b] := by
  have ha := a.toNat_lt
  have hb := b.toNat_lt
  have hv := toNat_be16 a b
  have hhigh : (be16 a b >>> 8).toUInt8 = a := by
    apply UInt8.toNat_inj.mp
    rw [UInt16.toNat_toUInt8, UInt16.toNat_shiftRight, hv]
    change (_ >>> 8) % 256 = _
    rw [Nat.shiftRight_eq_div_pow]
    omega
  have hlow : (be16 a b &&& 0xFF).toUInt8 = b := by
    apply UInt8.toNat_inj.mp
    rw [UInt16.toNat_toUInt8, UInt16.toNat_and, hv]
    change (_ &&& (2 ^ 8 - 1)) % 256 = _
    rw [Nat.and_two_pow_sub_one_eq_mod]
    omega
  rw [wr16, hhigh, hlow]

lemma eq_wr16 {a b : UInt8} {v : UInt16} (h : be16 a b = v) : [a, b] = wr16 v := by
  rw [← h, wr16_be16]

lemma exists_wr16 {b : Bytes} (h : b.length = 2) : ∃ v, b = wr16 v := by
  obtain ⟨x, y, rfl⟩ := List.length_eq_two.mp h
  exact ⟨be16 x y, (wr16_be16 x y).symm⟩

/-! ## The tests of the searches -/

lemma leafNode_cases {body : Bytes} {x : Node Bytes UInt8} (h : leafNode body = some x) :
    ∃ a b t, body = a :: b :: t ∧ (be16 a b).toNat ≤ t.length ∧
      x = .leaf (t.take (be16 a b).toNat) := by
  rcases body with _ | ⟨a, _ | ⟨b, t⟩⟩
  · cases h
  · cases h
  · rw [leafNode] at h
    split at h
    · rename_i hle
      exact ⟨a, b, t, rfl, hle, (Option.some.inj h).symm⟩
    · cases h

lemma oneNode_cases {tag : UInt8} {body : Bytes} {x : Node Bytes UInt8}
    (h : oneNode tag body = some x) : ∃ j, body = wr16 j ∧ x = .one tag j.toNat := by
  rcases body with _ | ⟨a, _ | ⟨b, _ | ⟨c, t⟩⟩⟩
  · cases h
  · cases h
  · exact ⟨be16 a b, (wr16_be16 a b).symm, (Option.some.inj h).symm⟩
  · cases h

lemma twoNode_cases {tag : UInt8} {body : Bytes} {x : Node Bytes UInt8}
    (h : twoNode tag body = some x) :
    ∃ j k, body = wr16 j ++ wr16 k ∧ x = .two tag j.toNat k.toNat := by
  rcases body with _ | ⟨a, _ | ⟨b, _ | ⟨c, _ | ⟨d, _ | ⟨e, t⟩⟩⟩⟩⟩
  · cases h
  · cases h
  · cases h
  · cases h
  · refine ⟨be16 a b, be16 c d, ?_, (Option.some.inj h).symm⟩
    rw [wr16_be16, wr16_be16]
    rfl
  · cases h

lemma oneNode_wr16 (tag : UInt8) (j : UInt16) : oneNode tag (wr16 j) = some (.one tag j.toNat) := by
  change some (Node.one tag (be16 _ _).toNat) = _
  rw [be16_wr16]

lemma twoNode_wr16 (tag : UInt8) (j k : UInt16) :
    twoNode tag (wr16 j ++ wr16 k) = some (.two tag j.toNat k.toNat) := by
  change some (Node.two tag (be16 _ _).toNat (be16 _ _).toNat) = _
  rw [be16_wr16, be16_wr16]

/-- The kinds of entries. -/
lemma node_cases {e : CpEntry} {x : Node Bytes UInt8} (h : e.node = some x) :
    (e.tag = CP_Utf8 ∧ leafNode e.body = some x) ∨
      ((e.tag = CP_Class ∨ e.tag = CP_String) ∧ oneNode e.tag e.body = some x) ∨
      ((e.tag = CP_NameAndType ∨ e.tag = CP_Methodref ∨ e.tag = CP_Fieldref) ∧
        twoNode e.tag e.body = some x) := by
  rw [CpEntry.node] at h
  split at h
  · rename_i htag
    exact .inl ⟨htag, h⟩
  · split at h
    · rename_i htag
      exact .inr (.inl ⟨htag, h⟩)
    · split at h
      · rename_i htag
        exact .inr (.inr ⟨htag, h⟩)
      · cases h

lemma node_leaf {e : CpEntry} {s : Bytes} (h : e.node = some (.leaf s)) :
    e.tag = CP_Utf8 ∧ ∃ a b t, e.body = a :: b :: t ∧ (be16 a b).toNat ≤ t.length ∧
      s = t.take (be16 a b).toNat := by
  rcases node_cases h with ⟨htag, hnode⟩ | ⟨-, hnode⟩ | ⟨-, hnode⟩
  · obtain ⟨a, b, t, hbody, hle, hs⟩ := leafNode_cases hnode
    cases hs
    exact ⟨htag, a, b, t, hbody, hle, rfl⟩
  · obtain ⟨j, -, hx⟩ := oneNode_cases hnode
    cases hx
  · obtain ⟨j, k, -, hx⟩ := twoNode_cases hnode
    cases hx

lemma node_one {e : CpEntry} {tag : UInt8} {n : ℕ} (h : e.node = some (.one tag n)) :
    e.tag = tag ∧ (tag = CP_Class ∨ tag = CP_String) ∧
      ∃ j : UInt16, e.body = wr16 j ∧ n = j.toNat := by
  rcases node_cases h with ⟨-, hnode⟩ | ⟨htag, hnode⟩ | ⟨-, hnode⟩
  · obtain ⟨a, b, t, -, -, hx⟩ := leafNode_cases hnode
    cases hx
  · obtain ⟨j, hbody, hx⟩ := oneNode_cases hnode
    cases hx
    exact ⟨rfl, htag, j, hbody, rfl⟩
  · obtain ⟨j, k, -, hx⟩ := twoNode_cases hnode
    cases hx

lemma node_two {e : CpEntry} {tag : UInt8} {m n : ℕ} (h : e.node = some (.two tag m n)) :
    e.tag = tag ∧ (tag = CP_NameAndType ∨ tag = CP_Methodref ∨ tag = CP_Fieldref) ∧
      ∃ j k : UInt16, e.body = wr16 j ++ wr16 k ∧ m = j.toNat ∧ n = k.toNat := by
  rcases node_cases h with ⟨-, hnode⟩ | ⟨-, hnode⟩ | ⟨htag, hnode⟩
  · obtain ⟨a, b, t, -, -, hx⟩ := leafNode_cases hnode
    cases hx
  · obtain ⟨j, -, hx⟩ := oneNode_cases hnode
    cases hx
  · obtain ⟨j, k, hbody, hx⟩ := twoNode_cases hnode
    cases hx
    exact ⟨rfl, htag, j, k, hbody, rfl, rfl⟩

lemma node_of_class {tag : UInt8} (htag : tag = CP_Class ∨ tag = CP_String) (j : UInt16)
    (wide : Bool) : (⟨tag, wr16 j, wide⟩ : CpEntry).node = some (.one tag j.toNat) := by
  rcases htag with rfl | rfl
  · exact oneNode_wr16 CP_Class j
  · exact oneNode_wr16 CP_String j

lemma node_of_pair {tag : UInt8}
    (htag : tag = CP_NameAndType ∨ tag = CP_Methodref ∨ tag = CP_Fieldref) (j k : UInt16)
    (wide : Bool) :
    (⟨tag, wr16 j ++ wr16 k, wide⟩ : CpEntry).node = some (.two tag j.toNat k.toNat) := by
  rcases htag with rfl | rfl | rfl
  · exact twoNode_wr16 CP_NameAndType j k
  · exact twoNode_wr16 CP_Methodref j k
  · exact twoNode_wr16 CP_Fieldref j k

lemma isUtf8_iff {e : CpEntry} {s : Bytes} : e.isUtf8 s = true ↔ e.node = some (.leaf s) := by
  obtain ⟨tag, body, wide⟩ := e
  constructor
  · intro h
    rcases body with _ | ⟨a, _ | ⟨b, t⟩⟩
    · cases h
    · cases h
    · simp only [CpEntry.isUtf8, Bool.and_eq_true, beq_iff_eq] at h
      obtain ⟨⟨rfl, hlen⟩, htake⟩ := h
      have hle : s.length ≤ t.length := by
        rw [← htake, List.length_take]
        omega
      change (if (be16 a b).toNat ≤ t.length then
        some (Node.leaf (T := UInt8) (t.take (be16 a b).toNat)) else none) = _
      rw [hlen, if_pos hle, htake]
  · intro h
    obtain ⟨htag, a, b, t, hbody, hle, hs⟩ := node_leaf h
    simp only at htag hbody
    simp [CpEntry.isUtf8, htag, hbody, hs, hle]

lemma isClass_iff {e : CpEntry} {j : UInt16} :
    e.isClass j = true ↔ e.node = some (.one CP_Class j.toNat) := by
  obtain ⟨tag, body, wide⟩ := e
  constructor
  · intro h
    rcases body with _ | ⟨a, _ | ⟨b, _ | ⟨c, t⟩⟩⟩
    · cases h
    · cases h
    · simp only [CpEntry.isClass, Bool.and_eq_true, beq_iff_eq] at h
      rw [h.1, eq_wr16 h.2]
      exact node_of_class (.inl rfl) j wide
    · cases h
  · intro h
    obtain ⟨htag, -, j', hbody, hj⟩ := node_one h
    simp only at htag hbody
    rw [htag, hbody, UInt16.toNat_inj.mp hj]
    change (CP_Class == CP_Class && be16 _ _ == j') = true
    rw [be16_wr16]
    simp

lemma isPair_iff {tag : UInt8}
    (htag : tag = CP_NameAndType ∨ tag = CP_Methodref ∨ tag = CP_Fieldref) {e : CpEntry}
    {j k : UInt16} : e.isPair tag j k = true ↔ e.node = some (.two tag j.toNat k.toNat) := by
  obtain ⟨tag', body, wide⟩ := e
  constructor
  · intro h
    rcases body with _ | ⟨a, _ | ⟨b, _ | ⟨c, _ | ⟨d, _ | ⟨f, t⟩⟩⟩⟩⟩
    · cases h
    · cases h
    · cases h
    · cases h
    · simp only [CpEntry.isPair, Bool.and_eq_true, beq_iff_eq] at h
      obtain ⟨⟨rfl, rfl⟩, rfl⟩ := h
      have hbody : [a, b, c, d] = wr16 (be16 a b) ++ wr16 (be16 c d) := by
        rw [wr16_be16, wr16_be16]
        rfl
      rw [hbody]
      exact node_of_pair htag (be16 a b) (be16 c d) wide
    · cases h
  · intro h
    obtain ⟨htag', -, j', k', hbody, hj, hk⟩ := node_two h
    simp only at htag' hbody
    rw [htag', hbody, UInt16.toNat_inj.mp hj, UInt16.toNat_inj.mp hk]
    change (tag == tag && be16 _ _ == j' && be16 _ _ == k') = true
    rw [be16_wr16, be16_wr16]
    simp

/-! ## What an index stands for -/

section at_index

variable {pool : List Constant} {i : UInt16}

lemma holds_iff {cp : List CpEntry} {n : ℕ} {x : Node Bytes UInt8} :
    Holds (table cp) n x ↔ ∃ e, cp[n]? = some e ∧ e.node = some x := by
  rw [Holds, table, List.getElem?_map, Option.map_eq_some_iff]

/-- A slot that holds a node is not slot 0, and holds an entry of one slot. -/
lemma holds_slot {x : Node Bytes UInt8} (h : Holds (table (poolSlots pool)) i.toNat x) :
    i ≠ 0 ∧ ∃ tag body, (poolSlots pool)[i.toNat]? = some ⟨tag, body, false⟩ ∧
      (⟨tag, body, false⟩ : CpEntry).node = some x := by
  obtain ⟨e, he, hx⟩ := holds_iff.mp h
  constructor
  · rintro rfl
    obtain rfl := Option.some.inj he
    cases hx
  · obtain rfl | ⟨c, -, rfl⟩ := mem_poolSlots (List.mem_of_getElem? he)
    · cases hx
    · have hnarrow : c.wide = false := by
        rcases node_cases hx with ⟨htag, -⟩ | ⟨htag | htag, -⟩ | ⟨htag | htag | htag, -⟩ <;>
          · simp only at htag
            rw [Constant.wide, htag]
            rfl
      exact ⟨c.tag, c.body, hnarrow ▸ he, hx⟩

lemma utf8At_iff {s : Bytes} :
    Utf8At (poolSlots pool) i s ↔ At (table (poolSlots pool)) (Const.utf8 s) i.toNat := by
  constructor
  · rintro ⟨-, e, he, hutf8⟩
    exact holds_iff.mpr ⟨e, he, isUtf8_iff.mp hutf8⟩
  · intro h
    obtain ⟨hi, tag, body, he, hx⟩ := holds_slot h
    exact ⟨hi, _, he, isUtf8_iff.mpr hx⟩

/-- The entry of a string, which has no more bytes than its length says. -/
lemma entryAt_of_leaf {s : Bytes} (h : Holds (table (poolSlots pool)) i.toNat (.leaf s)) :
    s.length ≤ 65535 ∧
      EntryAt (poolSlots pool) i ⟨CP_Utf8, wr16 (UInt16.ofNat s.length) ++ s⟩ := by
  obtain ⟨hi, tag, body, he, hx⟩ := holds_slot h
  obtain ⟨htag, a, b, t, hbody, -, hs⟩ := node_leaf hx
  obtain hunused | ⟨c, -, hc⟩ := mem_poolSlots (List.mem_of_getElem? he)
  · rw [hunused] at hx
    cases hx
  · obtain ⟨rfl, rfl, -⟩ := CpEntry.mk.inj hc
    obtain ⟨a', b', t', hbody', hlen⟩ := c.utf8_body htag
    cases hbody.symm.trans hbody'
    rw [hlen, List.take_length] at hs
    have hlength := (be16 a b).toNat_lt
    rw [show c.tag = CP_Utf8 from htag, hbody', hs.symm] at he
    have hwr : wr16 (UInt16.ofNat s.length) = [a, b] := by
      rw [hs, ← hlen, UInt16.ofNat_toNat, wr16_be16]
    refine ⟨by rw [hs]; omega, hi, ?_⟩
    rw [hwr]
    exact he

lemma entryAt_one_iff {tag : UInt8} (htag : tag = CP_Class ∨ tag = CP_String) {j : UInt16} :
    EntryAt (poolSlots pool) i ⟨tag, wr16 j⟩ ↔
      Holds (table (poolSlots pool)) i.toNat (.one tag j.toNat) := by
  constructor
  · rintro ⟨-, he⟩
    exact holds_iff.mpr ⟨_, he, node_of_class htag j false⟩
  · intro h
    obtain ⟨hi, tag', body, he, hx⟩ := holds_slot h
    obtain ⟨htag', -, j', hbody, hj⟩ := node_one hx
    simp only at htag' hbody
    rw [htag', hbody, ← UInt16.toNat_inj.mp hj] at he
    exact ⟨hi, he⟩

lemma entryAt_two_iff {tag : UInt8}
    (htag : tag = CP_NameAndType ∨ tag = CP_Methodref ∨ tag = CP_Fieldref) {j k : UInt16} :
    EntryAt (poolSlots pool) i ⟨tag, wr16 j ++ wr16 k⟩ ↔
      Holds (table (poolSlots pool)) i.toNat (.two tag j.toNat k.toNat) := by
  constructor
  · rintro ⟨-, he⟩
    exact holds_iff.mpr ⟨_, he, node_of_pair htag j k false⟩
  · intro h
    obtain ⟨hi, tag', body, he, hx⟩ := holds_slot h
    obtain ⟨htag', -, j', k', hbody, hj, hk⟩ := node_two hx
    simp only at htag' hbody
    rw [htag', hbody, ← UInt16.toNat_inj.mp hj, ← UInt16.toNat_inj.mp hk] at he
    exact ⟨hi, he⟩

/-- The place in the first part of a node is an index. -/
lemma holds_one_index {tag : UInt8} {n m : ℕ} (h : Holds (table (poolSlots pool)) n (.one tag m)) :
    ∃ j : UInt16, m = j.toNat := by
  obtain ⟨e, -, hx⟩ := holds_iff.mp h
  obtain ⟨-, -, j, -, hj⟩ := node_one hx
  exact ⟨j, hj⟩

lemma holds_two_indices {tag : UInt8} {n m l : ℕ}
    (h : Holds (table (poolSlots pool)) n (.two tag m l)) :
    ∃ j k : UInt16, m = j.toNat ∧ l = k.toNat := by
  obtain ⟨e, -, hx⟩ := holds_iff.mp h
  obtain ⟨-, -, j, k, -, hj, hk⟩ := node_two hx
  exact ⟨j, k, hj, hk⟩

lemma classAt_iff {name : Bytes} :
    ClassAt (poolSlots pool) i name ↔ At (table (poolSlots pool)) (Const.klass name) i.toNat := by
  constructor
  · rintro ⟨j, he, hj⟩
    exact ⟨j.toNat, (entryAt_one_iff (.inl rfl)).mp he, utf8At_iff.mp hj⟩
  · rintro ⟨m, hi, hm⟩
    obtain ⟨j, rfl⟩ := holds_one_index hi
    exact ⟨j, (entryAt_one_iff (.inl rfl)).mpr hi, utf8At_iff.mpr hm⟩

lemma nameAndTypeAt_iff {name desc : Bytes} : NameAndTypeAt (poolSlots pool) i name desc ↔
    At (table (poolSlots pool)) (Const.nameAndType name desc) i.toNat := by
  constructor
  · rintro ⟨j, k, he, hj, hk⟩
    exact ⟨j.toNat, k.toNat, (entryAt_two_iff (.inl rfl)).mp he, utf8At_iff.mp hj,
      utf8At_iff.mp hk⟩
  · rintro ⟨m, l, hi, hm, hl⟩
    obtain ⟨j, k, rfl, rfl⟩ := holds_two_indices hi
    exact ⟨j, k, (entryAt_two_iff (.inl rfl)).mpr hi, utf8At_iff.mpr hm, utf8At_iff.mpr hl⟩

lemma refAt_iff {tag : UInt8} (htag : tag = CP_Methodref ∨ tag = CP_Fieldref)
    {className name desc : Bytes} : RefAt tag (poolSlots pool) i className name desc ↔
      At (table (poolSlots pool)) (Const.ref tag className name desc) i.toNat := by
  constructor
  · rintro ⟨j, k, he, hj, hk⟩
    exact ⟨j.toNat, k.toNat, (entryAt_two_iff (.inr htag)).mp he, classAt_iff.mp hj,
      nameAndTypeAt_iff.mp hk⟩
  · rintro ⟨m, l, hi, hm, hl⟩
    obtain ⟨j, k, rfl, rfl⟩ := holds_two_indices hi
    exact ⟨j, k, (entryAt_two_iff (.inr htag)).mpr hi, classAt_iff.mpr hm,
      nameAndTypeAt_iff.mpr hl⟩

end at_index

/-! ## Searching the pool -/

/-- A search for a node in a pool that fits in a class file ends at its place. -/
lemma scan_place {pool : List Constant} (hcp : (poolSlots pool).length ≤ 65535)
    {f : CpEntry → Bool} {x : Node Bytes UInt8} (hf : ∀ e, f e = true ↔ e.node = some x) :
    scan (poolSlots pool) f =
      .ok ((place (table (poolSlots pool)) x).map UInt16.ofNat) := by
  have hf' : f = (· == some x) ∘ CpEntry.node := by
    ext e
    rw [Bool.eq_iff_iff, hf e]
    exact beq_iff_eq.symm
  have htail : (poolSlots pool).tail.take 65535 = (poolSlots pool).tail := by
    rw [List.take_eq_self_iff, List.length_tail]
    omega
  have hplace : place (table (poolSlots pool)) x =
      ((poolSlots pool).tail.findIdx? f).map (· + 1) := by
    rw [place, table, poolSlots, List.map_cons, List.findIdx?_cons, List.findIdx?_map, hf']
    rfl
  rw [scan, htail, hplace]
  cases (poolSlots pool).tail.findIdx? f with
  | some k => rfl
  | none =>
    show (if 65535 < (poolSlots pool).length then _ else _) = _
    rw [if_neg (by omega)]
    rfl

namespace Editor

/-- A string is searched for as the other constants are. -/
lemma addUtf8_eq (ed : Editor) (s : Bytes) : ed.addUtf8 s =
    ed.findOrAdd (CpEntry.isUtf8 s) CP_Utf8 (wr16 (UInt16.ofNat s.length) ++ s) := by
  rw [addUtf8, findUtf8, findOrAdd]
  rcases scan_yields ed.cp (CpEntry.isUtf8 s) with hdiv | ⟨r, hr, hspec⟩
  · rw [hdiv]
    rfl
  · rw [hr]
    cases r with
    | none => rfl
    | some i =>
      show (if i ≠ 0 then _ else _) = _
      rw [if_pos hspec.1]
      rfl

/-- The pool of the editor is that of a class file, and it is the table. -/
def Keeps (ed : Editor) (tbl : Table Bytes UInt8) : Prop :=
  (∃ pool, ed.cp = poolSlots pool) ∧ table ed.cp = tbl

/-- The call returns the place that was reached in the table, and the editor whose pool has become
that table, by constants at its end.  When the table does not fit in a class file, the call does
not return a pool that does. -/
structure Adds (ed : Editor) (r : ℕ × Table Bytes UInt8) (x : Except Fault (UInt16 × Editor)) :
    Prop where
  fits : r.2.length ≤ 65535 → ∃ new : List Constant,
    x = .ok (UInt16.ofNat r.1, { ed with cp := ed.cp ++ new.flatMap Constant.slots }) ∧
      table (ed.cp ++ new.flatMap Constant.slots) = r.2
  full : ∀ i ed', x = .ok (i, ed') → ed'.cp.length ≤ 65535 → r.2.length ≤ 65535

/-- One call after another. -/
lemma Adds.bind {ed : Editor} {tbl : Table Bytes UInt8} {r r' : ℕ × Table Bytes UInt8}
    (hed : ed.Keeps tbl) {x : Except Fault (UInt16 × Editor)} (h : ed.Adds r x)
    (hgrow : r.2 <+: r'.2) {f : UInt16 × Editor → Except Fault (UInt16 × Editor)}
    (hmono : ∀ p i ed', f p = .ok (i, ed') → p.2.cp.length ≤ ed'.cp.length)
    (hf : ∀ ed' : Editor, ed'.Keeps r.2 → r.2.length ≤ 65535 →
      ed'.Adds r' (f (UInt16.ofNat r.1, ed'))) :
    ed.Adds r' (x >>= f) := by
  obtain ⟨⟨pool, hpool⟩, -⟩ := hed
  have hrun (new : List Constant) (htable : table (ed.cp ++ new.flatMap Constant.slots) = r.2)
      (hroom : r.2.length ≤ 65535) := hf { ed with cp := ed.cp ++ new.flatMap Constant.slots }
    ⟨⟨pool ++ new, by simp [hpool, poolSlots]⟩, htable⟩ hroom
  constructor
  · intro hroom
    have hroom₁ := hgrow.length_le.trans hroom
    obtain ⟨new, rfl, htable⟩ := h.fits hroom₁
    obtain ⟨new', hstep, htable'⟩ := (hrun new htable hroom₁).fits hroom
    simp only [List.append_assoc, ← List.flatMap_append] at hstep htable'
    exact ⟨new ++ new', hstep, htable'⟩
  · intro i ed' hok hle
    obtain ⟨⟨i₁, ed₁⟩, hx, hstep⟩ := Builder.bind_eq_ok hok
    have hroom₁ := h.full i₁ ed₁ hx ((hmono _ _ _ hstep).trans hle)
    obtain ⟨new, hx', htable⟩ := h.fits hroom₁
    cases hx.symm.trans hx'
    exact (hrun new htable hroom₁).full i ed' hstep hle

lemma findOrAdd_mono {ed ed' : Editor} {f : CpEntry → Bool} {tag : UInt8} {body : Bytes}
    {i : UInt16} (h : ed.findOrAdd f tag body = .ok (i, ed')) :
    ed.cp.length ≤ ed'.cp.length := by
  obtain ⟨r, -, h⟩ := Builder.bind_eq_ok h
  cases r with
  | some j =>
    cases h
    exact le_rfl
  | none =>
    cases h
    simp

lemma addUtf8_mono {ed ed' : Editor} {s : Bytes} {i : UInt16} (h : ed.addUtf8 s = .ok (i, ed')) :
    ed.cp.length ≤ ed'.cp.length := by
  rw [addUtf8_eq] at h
  exact findOrAdd_mono h

lemma addNameAndType_mono {ed ed' : Editor} {name desc : Bytes} {i : UInt16}
    (h : ed.addNameAndType name desc = .ok (i, ed')) : ed.cp.length ≤ ed'.cp.length := by
  obtain ⟨p, hname, h⟩ := Builder.bind_eq_ok h
  obtain ⟨q, hdesc, h⟩ := Builder.bind_eq_ok h
  exact (addUtf8_mono hname).trans ((addUtf8_mono hdesc).trans (findOrAdd_mono h))

section

variable {ed : Editor} {tbl : Table Bytes UInt8} (hed : ed.Keeps tbl)

include hed

lemma findOrAdd_adds (hcp : tbl.length ≤ 65535) {f : CpEntry → Bool} {x : Node Bytes UInt8}
    (hf : ∀ e, f e = true ↔ e.node = some x) (c : Constant) (hnarrow : c.wide = false)
    (hx : (⟨c.tag, c.body, false⟩ : CpEntry).node = some x) :
    ed.Adds (internNode tbl x) (ed.findOrAdd f c.tag c.body) := by
  obtain ⟨⟨pool, hpool⟩, rfl⟩ := hed
  have hscan : scan ed.cp f = .ok ((place (table ed.cp) x).map UInt16.ofNat) := by
    rw [length_table, hpool] at hcp
    rw [hpool]
    exact scan_place hcp hf
  have hrun : ∃ new : List Constant, ed.findOrAdd f c.tag c.body = .ok (UInt16.ofNat
      (internNode (table ed.cp) x).1, { ed with cp := ed.cp ++ new.flatMap Constant.slots }) ∧
      table (ed.cp ++ new.flatMap Constant.slots) = (internNode (table ed.cp) x).2 := by
    rw [findOrAdd, hscan, internNode]
    cases hplace : place (table ed.cp) x with
    | some i =>
      refine ⟨[], ?_, ?_⟩
      · rw [List.flatMap_nil, List.append_nil]
        rfl
      · rw [List.flatMap_nil, List.append_nil]
    | none =>
      have hslots : [c].flatMap Constant.slots = [⟨c.tag, c.body, false⟩] := by
        simp [Constant.slots, hnarrow]
      refine ⟨[c], ?_, ?_⟩
      · rw [hslots, length_table]
        rfl
      · rw [hslots, table_append, table, table, List.map_singleton, hx]
  constructor
  · exact fun _ => hrun
  · intro i ed' hok hle
    obtain ⟨new, hok', htable⟩ := hrun
    cases hok.symm.trans hok'
    rwa [← htable, length_table]

lemma addUtf8_adds (hcp : tbl.length ≤ 65535) {s : Bytes} (hs : s.length ≤ 65535) :
    ed.Adds (intern tbl (Const.utf8 s)) (ed.addUtf8 s) := by
  have hx : (⟨CP_Utf8, (Constant.utf8 s hs).body, false⟩ : CpEntry).node = some (.leaf s) := by
    show (if (be16 _ _).toNat ≤ s.length then some (Node.leaf (s.take (be16 _ _).toNat)) else none)
      = _
    rw [be16_wr16, toNat_ofNat_u2 (by omega), if_pos le_rfl, List.take_length]
  rw [addUtf8_eq]
  exact findOrAdd_adds hed hcp (fun e => isUtf8_iff) (Constant.utf8 s hs) rfl hx

/-- The constant of one index, once its part has been added. -/
lemma findClass_adds (hcp : tbl.length ≤ 65535) {j : ℕ} (hj : j < tbl.length) :
    ed.Adds (internNode tbl (.one CP_Class j))
      (ed.findOrAdd (CpEntry.isClass (UInt16.ofNat j)) CP_Class (wr16 (UInt16.ofNat j))) := by
  have hindex : (UInt16.ofNat j).toNat = j := toNat_ofNat_u2 (by omega)
  refine findOrAdd_adds hed hcp (fun e => ?_) (Constant.index (UInt16.ofNat j)) rfl ?_
  · rw [isClass_iff, hindex]
  · exact (node_of_class (.inl rfl) _ false).trans (by rw [hindex])

/-- The constant of two indices, once its parts have been added. -/
lemma findPair_adds (hcp : tbl.length ≤ 65535) {tag : UInt8}
    (htag : tag = CP_NameAndType ∨ tag = CP_Methodref) {j k : ℕ} (hj : j < tbl.length)
    (hk : k < tbl.length) :
    ed.Adds (internNode tbl (.two tag j k))
      (ed.findOrAdd (CpEntry.isPair tag (UInt16.ofNat j) (UInt16.ofNat k)) tag
        (wr16 (UInt16.ofNat j) ++ wr16 (UInt16.ofNat k))) := by
  have hindex : (UInt16.ofNat j).toNat = j := toNat_ofNat_u2 (by omega)
  have hindex' : (UInt16.ofNat k).toNat = k := toNat_ofNat_u2 (by omega)
  have htag' : tag = CP_NameAndType ∨ tag = CP_Methodref ∨ tag = CP_Fieldref :=
    htag.imp_right .inl
  have hnarrow : (Constant.pair tag (UInt16.ofNat j) (UInt16.ofNat k) htag).wide = false := by
    rcases htag with rfl | rfl <;> rfl
  refine findOrAdd_adds hed hcp (fun e => ?_) (Constant.pair tag _ _ htag) hnarrow ?_
  · rw [isPair_iff htag', hindex, hindex']
  · exact (node_of_pair htag' _ _ false).trans (by rw [hindex, hindex'])

lemma addClass_adds (hcp : tbl.length ≤ 65535) {name : Bytes} (hname : name.length ≤ 65535) :
    ed.Adds (intern tbl (Const.klass name)) (ed.addClass name) := by
  refine (addUtf8_adds hed hcp hname).bind hed (internNode_grows _ _)
    (fun _ _ _ h => findOrAdd_mono h) ?_
  intro ed₁ hed₁ hcp₁
  exact findClass_adds hed₁ hcp₁ (intern_lt _ _)

lemma addNameAndType_adds (hcp : tbl.length ≤ 65535) {name desc : Bytes}
    (hname : name.length ≤ 65535) (hdesc : desc.length ≤ 65535) :
    ed.Adds (intern tbl (Const.nameAndType name desc)) (ed.addNameAndType name desc) := by
  have hgrow₂ := intern_grows (intern tbl (Const.utf8 name)).2 (Const.utf8 desc)
  refine (addUtf8_adds hed hcp hname).bind hed (hgrow₂.trans (internNode_grows _ _)) ?_ ?_
  · intro p i ed' h
    obtain ⟨q, hutf8, h⟩ := Builder.bind_eq_ok h
    exact (addUtf8_mono hutf8).trans (findOrAdd_mono h)
  · intro ed₁ hed₁ hcp₁
    refine (addUtf8_adds hed₁ hcp₁ hdesc).bind hed₁ (internNode_grows _ _)
      (fun _ _ _ h => findOrAdd_mono h) ?_
    intro ed₂ hed₂ hcp₂
    have hlt := intern_lt tbl (Const.utf8 name)
    exact findPair_adds hed₂ hcp₂ (.inl rfl) (hlt.trans_le hgrow₂.length_le) (intern_lt _ _)

lemma addMethodRef_adds (hcp : tbl.length ≤ 65535) {className name desc : Bytes}
    (hclass : className.length ≤ 65535) (hname : name.length ≤ 65535)
    (hdesc : desc.length ≤ 65535) :
    ed.Adds (intern tbl (Const.methodRef className name desc))
      (ed.addMethodRef className name desc) := by
  have hgrow₂ := intern_grows (intern tbl (Const.klass className)).2 (Const.nameAndType name desc)
  refine (addClass_adds hed hcp hclass).bind hed (hgrow₂.trans (internNode_grows _ _)) ?_ ?_
  · intro p i ed' h
    obtain ⟨q, hnat, h⟩ := Builder.bind_eq_ok h
    exact (addNameAndType_mono hnat).trans (findOrAdd_mono h)
  · intro ed₁ hed₁ hcp₁
    refine (addNameAndType_adds hed₁ hcp₁ hname hdesc).bind hed₁ (internNode_grows _ _)
      (fun _ _ _ h => findOrAdd_mono h) ?_
    intro ed₂ hed₂ hcp₂
    have hlt := intern_lt tbl (Const.klass className)
    exact findPair_adds hed₂ hcp₂ (.inr rfl) (hlt.trans_le hgrow₂.length_le) (intern_lt _ _)

end

end Editor

end ClassFile
end SakuraTools
