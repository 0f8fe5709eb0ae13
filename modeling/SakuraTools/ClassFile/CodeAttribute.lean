import Mathlib.Data.List.Forall2
import SakuraTools.ClassFile.RoundTrip

/-!
# The Code attribute

What the editor reads of a Code attribute and what it writes of it.  A well-formed Code
attribute is read completely, its tables are patched without reading outside them, and the
result is well-formed again as long as its length fits in 32 bits.
-/

namespace SakuraTools
namespace ClassFile

/-- The counts and lengths of a Code attribute fit in the fields that hold them. -/
structure CodeBody.Fits (c : CodeBody) : Prop where
  code_lt : c.code.length < 4294967296
  exceptions_lt : c.exceptions.length < 65536
  attributes_lt : c.attributes.length < 65536
  inner_lt : ∀ a ∈ c.attributes, a.2.length < 4294967296

/-- The offset of the first frame of a StackMapTable is inside the table. -/
def FirstFrameCovered : Bytes → Prop
  | n₁ :: n₂ :: frames => be16 n₁ n₂ = 0 ∨ ∃ tag rest, frames = tag :: rest ∧
      (tag < 247 ∨ 2 ≤ rest.length)
  | _ => True

/-- A Code attribute of a class file with the constant pool `cp`. -/
structure CodeBody.WellFormed (cp : List CpEntry) (c : CodeBody) : Prop extends c.Fits where
  names_lt : ∀ a ∈ c.attributes, a.1.toNat < cp.length
  frames : ∀ a ∈ c.attributes, cpUtf8Value cp a.1 = .ok (ascii "StackMapTable") →
    FirstFrameCovered a.2

/-! ## Reading -/

lemma reads_readException (e : ExceptionEntry) :
    Parser.Reads readException (writeException e) e := by
  simp only [writeException, List.append_assoc]
  refine (reads_rd16 _).bind ((reads_rd16 _).bind ((reads_rd16 _).bind ?_))
  exact (reads_rd16 _).bind_nil (Parser.reads_pure _)

lemma reads_readAttribute (a : UInt16 × Bytes) (ha : a.2.length < 4294967296) :
    Parser.Reads readAttribute (writeAttribute a) a := by
  simp only [writeAttribute, List.append_assoc]
  refine (reads_rd16 _).bind ((reads_rd32 _).bind ?_)
  exact (reads_copyN a.2 (toNat_ofNat_u4 ha)).bind_nil (Parser.reads_pure _)

lemma reads_readCode {c : CodeBody} (hc : c.Fits) : Parser.Reads readCode (writeCode c) c := by
  have hexceptions := Parser.reads_times' c.exceptions (toNat_ofNat_u2 hc.exceptions_lt)
    fun e _ => reads_readException e
  have hattributes := Parser.reads_times' c.attributes (toNat_ofNat_u2 hc.attributes_lt)
    fun a ha => reads_readAttribute a (hc.inner_lt a ha)
  rw [List.map_id'] at hexceptions hattributes
  simp only [writeCode, List.append_assoc]
  refine (reads_rd16 _).bind ((reads_rd16 _).bind ((reads_rd32 _).bind ?_))
  refine (reads_copyN c.code (toNat_ofNat_u4 hc.code_lt)).bind ((reads_rd16 _).bind ?_)
  refine hexceptions.bind ((reads_rd16 _).bind ?_)
  exact hattributes.bind_nil (Parser.reads_pure _)

lemma length_writeCode (c : CodeBody) :
    (writeCode c).length = 12 + c.code.length + 8 * c.exceptions.length +
      (c.attributes.flatMap writeAttribute).length := by
  have hexceptions : (c.exceptions.flatMap writeException).length = 8 * c.exceptions.length := by
    induction c.exceptions with
    | nil => rfl
    | cons e es ih =>
      simp only [List.flatMap_cons, List.length_append, List.length_cons, ih, writeException,
        length_wr16]
      omega
  simp only [writeCode, List.length_append, length_wr16, length_wr32, hexceptions]
  omega

/-- The attribute table of a method, as the JVM reads it. -/
def readAttributes : Reader (List (UInt16 × Bytes)) := do
  let attrCount ← rd16
  Parser.times readAttribute attrCount.toNat

lemma reads_readAttributes (l : List Attribute) (h : l.length < 65536) :
    Parser.Reads readAttributes (wr16 (UInt16.ofNat l.length) ++ l.flatMap Attribute.encode)
      (l.map fun a => (a.name, a.info)) := by
  refine (reads_rd16 _).bind ?_
  exact Parser.reads_times' l (toNat_ofNat_u2 h)
    fun a _ => reads_readAttribute (a.name, a.info) a.length_lt

/-! ## Patching the tables -/

/-- The offset of a covered first frame can be patched, and the frame is covered again. -/
lemma shiftStackMap_ok {body : Bytes} (h : FirstFrameCovered body) (delta : UInt32) :
    ∃ body', shiftStackMap body delta = .ok body' ∧ FirstFrameCovered body' := by
  match body, h with
  | [], _ => exact ⟨[], rfl, trivial⟩
  | [b], _ => exact ⟨[b], rfl, trivial⟩
  | n₁ :: n₂ :: frames, h =>
    by_cases hn : be16 n₁ n₂ = 0
    · refine ⟨n₁ :: n₂ :: frames, ?_, .inl hn⟩
      simp only [shiftStackMap, hn, if_true]
    · obtain ⟨tag, rest, rfl, hrest⟩ := h.resolve_left hn
      simp only [shiftStackMap, hn, if_false]
      -- the offset is part of the tag up to 127 and follows the tag from 247 on
      split
      · rename_i hsame
        split
        · rename_i hshort
          refine ⟨_, rfl, .inr ⟨_, _, rfl, .inl ?_⟩⟩
          rw [UInt32.le_iff_toNat_le] at hshort
          rw [UInt8.lt_iff_toNat_lt, UInt32.toNat_toUInt8]
          change _ ≤ 63 at hshort
          change _ < 247
          omega
        · exact ⟨_, rfl, .inr ⟨_, _, rfl, .inr (by simp)⟩⟩
      · split
        · split
          · rename_i hshort
            refine ⟨_, rfl, .inr ⟨_, _, rfl, .inl ?_⟩⟩
            rw [UInt32.le_iff_toNat_le] at hshort
            rw [UInt8.lt_iff_toNat_lt, UInt32.toNat_toUInt8, UInt32.toNat_add]
            change _ ≤ 63 at hshort
            change ((64 + _) % 2 ^ 32) % 2 ^ 8 < 247
            omega
          · exact ⟨_, rfl, .inr ⟨_, _, rfl, .inr (by simp)⟩⟩
        · split
          · rename_i hlong
            rcases hrest with hlt | hlen
            · exact absurd hlong (UInt8.not_le.mpr hlt)
            · match rest, hlen with
              | o₁ :: o₂ :: rest, _ => exact ⟨_, rfl, .inr ⟨_, _, rfl, .inr (by simp)⟩⟩
          · exact ⟨_, rfl, .inr ⟨tag, rest, rfl, hrest⟩⟩

/-- A patched inner attribute keeps its name, and its first frame is covered if it is a
StackMapTable. -/
structure Patched (cp : List CpEntry) (a b : UInt16 × Bytes) : Prop where
  name_eq : b.1 = a.1
  frames : cpUtf8Value cp a.1 = .ok (ascii "StackMapTable") → FirstFrameCovered b.2

lemma patchAttribute_ok (pool : List Constant) (delta : UInt32) {a : UInt16 × Bytes}
    (ha : cpUtf8Value (poolSlots pool) a.1 = .ok (ascii "StackMapTable") →
      FirstFrameCovered a.2) :
    ∃ b, patchAttribute (poolSlots pool) delta a = .ok b ∧ Patched (poolSlots pool) a b := by
  obtain ⟨innerName, hname⟩ := cpUtf8Value_ok pool a.1
  have hunfold : patchAttribute (poolSlots pool) delta a =
      if innerName = ascii "StackMapTable" then
        (shiftStackMap a.2 delta).map fun patched => (a.1, patched)
      else if innerName = ascii "LineNumberTable" then
        .ok (a.1, shiftLineNumberTable a.2 delta)
      else if innerName = ascii "LocalVariableTable" ∨
          innerName = ascii "LocalVariableTypeTable" then
        .ok (a.1, shiftLocalVarTable a.2 delta)
      else .ok a := by
    rw [patchAttribute, hname]
    rfl
  rw [hunfold]
  by_cases hmap : innerName = ascii "StackMapTable"
  · obtain ⟨body', hbody, hcovered⟩ := shiftStackMap_ok (ha (hmap ▸ hname)) delta
    rw [if_pos hmap, hbody]
    exact ⟨_, rfl, rfl, fun _ => hcovered⟩
  · have hother (b : UInt16 × Bytes) (hb : b.1 = a.1) : Patched (poolSlots pool) a b := by
      refine ⟨hb, fun hframes => absurd ?_ hmap⟩
      exact Except.ok.inj (hname.symm.trans hframes)
    rw [if_neg hmap]
    split
    · exact ⟨_, rfl, hother _ rfl⟩
    · split
      · exact ⟨_, rfl, hother _ rfl⟩
      · exact ⟨_, rfl, hother _ rfl⟩

/-- Mapping a fallible function that succeeds on every element. -/
lemma mapM_forall₂ {ε α β : Type} {f : α → Except ε β} {Q : α → β → Prop} (l : List α)
    (h : ∀ x ∈ l, ∃ y, f x = .ok y ∧ Q x y) : ∃ ys, l.mapM f = .ok ys ∧ List.Forall₂ Q l ys := by
  induction l with
  | nil => exact ⟨[], rfl, .nil⟩
  | cons x l ih =>
    obtain ⟨y, hy, hQ⟩ := h x List.mem_cons_self
    obtain ⟨ys, hys, hQs⟩ := ih fun z hz => h z (List.mem_cons_of_mem x hz)
    refine ⟨y :: ys, ?_, .cons hQ hQs⟩
    rw [List.mapM_cons, hy, hys]
    rfl

/-- Every element of the second list is related to one of the first. -/
lemma exists_of_forall₂ {α β : Type} {R : α → β → Prop} {l : List α} {l' : List β}
    (h : List.Forall₂ R l l') {b : β} (hb : b ∈ l') : ∃ a ∈ l, R a b := by
  induction h with
  | nil => cases hb
  | cons hR _ ih =>
    rcases List.mem_cons.mp hb with rfl | hb
    · exact ⟨_, List.mem_cons_self, hR⟩
    · obtain ⟨a, ha, hab⟩ := ih hb
      exact ⟨a, List.mem_cons_of_mem _ ha, hab⟩

/-- What the editor makes of a Code attribute. -/
structure Prepended (cp : List CpEntry) (insertion : Bytes) (c c' : CodeBody) : Prop where
  code_eq : c'.code = insertion ++ c.code
  exceptions_length : c'.exceptions.length = c.exceptions.length
  attributes : List.Forall₂ (Patched cp) c.attributes c'.attributes

/-- A well-formed Code attribute can be patched. -/
lemma patchCode_ok {pool : List Constant} (insertion : Bytes) (extraStack : UInt16)
    {c : CodeBody} (hc : c.WellFormed (poolSlots pool)) :
    ∃ c', patchCode (poolSlots pool) insertion extraStack c = .ok c' ∧
      Prepended (poolSlots pool) insertion c c' := by
  obtain ⟨attributes, hmap, hpatched⟩ := mapM_forall₂ c.attributes fun a ha =>
    patchAttribute_ok pool (UInt32.ofNat insertion.length) (hc.frames a ha)
  have hrun : patchCode (poolSlots pool) insertion extraStack c = .ok
      { maxStack := if extraStack > c.maxStack then extraStack else c.maxStack
        maxLocals := c.maxLocals
        code := insertion ++ c.code
        exceptions := c.exceptions.map (patchException (UInt32.ofNat insertion.length))
        attributes := attributes } := by
    rw [patchCode, hmap]
    rfl
  exact ⟨_, hrun, rfl, List.length_map _, hpatched⟩

/-! ## The result -/

lemma length_writeCode_code (c : CodeBody) : c.code.length ≤ (writeCode c).length := by
  simp only [writeCode, List.length_append]
  omega

lemma length_writeCode_inner (c : CodeBody) {a : UInt16 × Bytes} (ha : a ∈ c.attributes) :
    a.2.length ≤ (writeCode c).length := by
  have hsub : a.2.length ≤ (c.attributes.flatMap writeAttribute).length := by
    have := List.Sublist.length_le (List.sublist_flatten_of_mem
      (List.mem_map.mpr ⟨a, ha, rfl⟩ : writeAttribute a ∈ c.attributes.map writeAttribute))
    rw [← List.flatMap_def] at this
    simp only [writeAttribute, List.length_append] at this ⊢
    omega
  simp only [writeCode, List.length_append]
  omega

/-- The patched Code attribute is well-formed when its length fits. -/
lemma Prepended.wellFormed {cp : List CpEntry} {insertion : Bytes} {c c' : CodeBody}
    (h : Prepended cp insertion c c') (hc : c.WellFormed cp)
    (hlen : (writeCode c').length < 4294967296) : c'.WellFormed cp := by
  refine ⟨⟨?_, ?_, ?_, ?_⟩, ?_, ?_⟩
  · exact lt_of_le_of_lt (length_writeCode_code c') hlen
  · rw [h.exceptions_length]
    exact hc.exceptions_lt
  · rw [← h.attributes.length_eq]
    exact hc.attributes_lt
  · exact fun b hb => lt_of_le_of_lt (length_writeCode_inner c' hb) hlen
  · intro b hb
    obtain ⟨a, ha, hab⟩ := exists_of_forall₂ h.attributes hb
    rw [hab.name_eq]
    exact hc.names_lt a ha
  · intro b hb hname
    obtain ⟨a, ha, hab⟩ := exists_of_forall₂ h.attributes hb
    exact hab.frames (hab.name_eq ▸ hname)

end ClassFile
end SakuraTools
