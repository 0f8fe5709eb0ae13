import SakuraTools.ClassFile.Editor

/-!
# The layout of a class file

A class file as the JVM lays it out, independently of how the editor reads it: a header, a
constant pool whose wide entries take two slots, interfaces, fields, methods with counted
attribute tables, and the bytes after the methods.  Every count and length is small enough
for the field that holds it, by construction.
-/

namespace SakuraTools
namespace ClassFile

/-- A constant: its tag and its body, of the length that the tag calls for. -/
structure Constant where
  tag : UInt8
  body : Bytes
  size_eq : cpBodySize tag body = .ok body.length

namespace Constant

/-- Whether the constant is a Long or a Double, which take two slots. -/
def wide (c : Constant) : Bool := c.tag == 5 || c.tag == 6

/-- The slots of the constant in the editor's pool. -/
def slots (c : Constant) : List CpEntry :=
  ⟨c.tag, c.body, c.wide⟩ :: if c.wide then [{}] else []

/-- The bytes of the constant. -/
def encode (c : Constant) : Bytes := c.tag :: c.body

lemma length_slots (c : Constant) : c.slots.length = if c.wide then 2 else 1 := by
  cases h : c.wide <;> simp [slots, h]

lemma length_slots_pos (c : Constant) : 0 < c.slots.length := by simp [slots]

lemma tag_ne_zero (c : Constant) : c.tag ≠ 0 := by
  intro h
  have := c.size_eq
  rw [h] at this
  simp [cpBodySize, CP_Utf8, CP_Class, CP_String, CP_Fieldref, CP_Methodref,
    CP_InterfaceMethodref, CP_NameAndType] at this

end Constant

/-- An attribute: the index of its name and its body. -/
structure Attribute where
  name : UInt16
  info : Bytes
  length_lt : info.length < 4294967296

/-- The bytes of an attribute. -/
def Attribute.encode (a : Attribute) : Bytes :=
  wr16 a.name ++ wr32 (UInt32.ofNat a.info.length) ++ a.info

/-- A field or a method. -/
structure Member where
  accessFlags : UInt16
  nameIndex : UInt16
  descriptorIndex : UInt16
  attributes : List Attribute
  length_lt : attributes.length < 65536

namespace Member

/-- The bytes of the attribute table of a member. -/
def encodeAttributes (m : Member) : Bytes :=
  wr16 (UInt16.ofNat m.attributes.length) ++ m.attributes.flatMap Attribute.encode

/-- The bytes of a member. -/
def encode (m : Member) : Bytes :=
  wr16 m.accessFlags ++ wr16 m.nameIndex ++ wr16 m.descriptorIndex ++ m.encodeAttributes

/-- The method as the editor keeps it. -/
def info (m : Member) : MethodInfo :=
  ⟨m.accessFlags, m.nameIndex, m.descriptorIndex, m.encodeAttributes⟩

end Member

/-- The pool slots of a list of constants, with the unused slot 0. -/
def poolSlots (pool : List Constant) : List CpEntry := {} :: pool.flatMap Constant.slots

/-- A class file.  The pool has at most 65535 slots, and `this_class` is one of them. -/
structure Layout where
  minorVersion : UInt16
  majorVersion : UInt16
  pool : List Constant
  accessFlags : UInt16
  thisClass : UInt16
  superClass : UInt16
  interfaces : List UInt16
  fields : List Member
  methods : List Member
  rest : Bytes
  pool_lt : (poolSlots pool).length < 65536
  interfaces_lt : interfaces.length < 65536
  fields_lt : fields.length < 65536
  methods_lt : methods.length < 65536
  this_lt : thisClass.toNat < (poolSlots pool).length

namespace Layout

/-- The bytes of the fields, with their count. -/
def encodeFields (L : Layout) : Bytes :=
  wr16 (UInt16.ofNat L.fields.length) ++ L.fields.flatMap Member.encode

/-- The bytes of a class file. -/
def encode (L : Layout) : Bytes :=
  wr32 0xCAFEBABE ++ wr16 L.minorVersion ++ wr16 L.majorVersion ++
  wr16 (UInt16.ofNat (poolSlots L.pool).length) ++ L.pool.flatMap Constant.encode ++
  wr16 L.accessFlags ++ wr16 L.thisClass ++ wr16 L.superClass ++
  wr16 (UInt16.ofNat L.interfaces.length) ++ L.interfaces.flatMap wr16 ++
  L.encodeFields ++
  wr16 (UInt16.ofNat L.methods.length) ++ L.methods.flatMap Member.encode ++
  L.rest

/-- The state of an editor that holds the class file, `thisName` being the name it found. -/
def editor (L : Layout) (thisName : Bytes) : Editor :=
  ⟨poolSlots L.pool, 0xCAFEBABE, L.minorVersion, L.majorVersion, L.accessFlags, L.thisClass,
    L.superClass, thisName, L.interfaces, L.encodeFields, L.methods.map Member.info, L.rest⟩

end Layout

/-! ## Serialising -/

lemma flatMap_write_slots (pool : List Constant) :
    (pool.flatMap Constant.slots).flatMap CpEntry.write = pool.flatMap Constant.encode := by
  rw [List.flatMap_assoc]
  apply List.flatMap_congr
  intro c _
  -- the second slot of a wide constant is counted but not written
  cases h : c.wide <;> simp [Constant.slots, h, CpEntry.write, Constant.encode, c.tag_ne_zero]

/-- The editor that holds a class file serialises to its bytes. -/
lemma serialize_editor (L : Layout) (thisName : Bytes) :
    (L.editor thisName).serialize = .ok L.encode := by
  have hpool : ¬ 65535 < (L.editor thisName).cp.length := by
    have := L.pool_lt
    simp only [Layout.editor]
    omega
  rw [Editor.serialize, if_neg hpool]
  simp only [Layout.editor, Layout.encode, poolSlots, List.tail_cons, flatMap_write_slots,
    List.length_map, List.flatMap_map]
  rfl

/-! ## Parsing -/

lemma cpBodySize_append {tag : UInt8} {b : Bytes} (h : cpBodySize tag b = .ok b.length)
    (r : Bytes) : cpBodySize tag (b ++ r) = .ok b.length := by
  by_cases ht : tag = CP_Utf8
  · match b, h with
    | [], h => simp [cpBodySize, ht] at h
    | [_], h => simp [cpBodySize, ht] at h
    | _ :: _ :: _, h => simpa [cpBodySize, ht] using h
  · simp only [cpBodySize, ht, if_false] at h ⊢
    exact h

lemma reads_readEntry (c : Constant) :
    Parser.Reads readEntry c.encode ⟨c.tag, c.body, c.wide⟩ := by
  intro r
  have hsize := cpBodySize_append c.size_eq r
  have hbody := Parser.reads_block Fault.outOfBounds c.body r
  change (Except.bind (Except.map _ (cpBodySize c.tag (c.body ++ r))) _) = _
  rw [hsize]
  change (Except.bind (copyN c.body.length (c.body ++ r)) _) = _
  rw [copyN, hbody]
  rfl

/-- The loop over the pool counts slots in step with the constants it reads. -/
lemma reads_readPool (cpCount : UInt16) (pool : List Constant) (i : UInt16) (fuel : ℕ)
    (hfuel : pool.length < fuel)
    (hi : i.toNat + (pool.flatMap Constant.slots).length = cpCount.toNat) :
    Parser.Reads (readPool cpCount fuel i) (pool.flatMap Constant.encode)
      (pool.flatMap Constant.slots) := by
  induction pool generalizing i fuel with
  | nil =>
    obtain ⟨fuel, rfl⟩ : ∃ k, fuel = k + 1 := ⟨fuel - 1, by simp at hfuel; omega⟩
    have hlast : ¬ i < cpCount := by
      rw [UInt16.lt_iff_toNat_lt]
      simp at hi
      omega
    rw [readPool, if_neg hlast]
    exact Parser.reads_pure []
  | cons c pool ih =>
    obtain ⟨fuel, rfl⟩ : ∃ k, fuel = k + 1 := ⟨fuel - 1, by simp at hfuel; omega⟩
    have hlt : i < cpCount := by
      have := c.length_slots_pos
      rw [UInt16.lt_iff_toNat_lt]
      simp only [List.flatMap_cons, List.length_append] at hi
      omega
    have hcount := cpCount.toNat_lt
    simp only [List.length_cons, List.flatMap_cons, List.length_append, c.length_slots]
      at hfuel hi
    rw [readPool, if_pos hlt, List.flatMap_cons, List.flatMap_cons]
    refine (reads_readEntry c).bind ?_
    cases hw : c.wide
    · rw [hw] at hi
      have hnext : (i + 1).toNat = i.toNat + 1 := by
        rw [UInt16.toNat_add, UInt16.toNat_one]
        simp only [Bool.false_eq_true, if_false] at hi
        omega
      have hrec := ih (i + 1) fuel (by omega) (by
        rw [hnext]
        simp only [Bool.false_eq_true, if_false] at hi
        omega)
      simpa [Constant.slots, hw] using hrec.map fun rest => ⟨c.tag, c.body, false⟩ :: rest
    · rw [hw] at hi
      have hnext : (i + 1 + 1).toNat = i.toNat + 2 := by
        rw [UInt16.toNat_add, UInt16.toNat_add, UInt16.toNat_one]
        simp only [if_true] at hi
        omega
      have hrec := ih (i + 1 + 1) fuel (by omega) (by
        rw [hnext]
        simp only [if_true] at hi
        omega)
      simpa [Constant.slots, hw] using hrec.map fun rest => ⟨c.tag, c.body, true⟩ :: {} :: rest

lemma length_pool_le (pool : List Constant) :
    pool.length ≤ (pool.flatMap Constant.encode).length := by
  induction pool with
  | nil => simp
  | cons c pool ih =>
    simp only [List.flatMap_cons, List.length_append, List.length_cons, Constant.encode]
    omega

end ClassFile
end SakuraTools
