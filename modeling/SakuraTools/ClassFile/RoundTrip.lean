import SakuraTools.ClassFile.Layout

/-!
# Parsing a class file

The parser of the editor reads every laid out class file, and keeps of it what the serialiser
needs to print it again.
-/

namespace SakuraTools
namespace ClassFile

/-! ## Attributes, fields and methods -/

lemma reads_copyN (b : Bytes) {n : ℕ} (h : n = b.length) : Parser.Reads (copyN n) b b :=
  Parser.reads_block' _ h

lemma Attribute.length_eq (a : Attribute) :
    (UInt32.ofNat a.info.length).toNat = a.info.length := toNat_ofNat_u4 a.length_lt

lemma reads_skipAttribute (a : Attribute) : Parser.Reads skipAttribute a.encode () := by
  simp only [Attribute.encode, List.append_assoc]
  refine (reads_copyN (wr16 a.name) rfl).bind ?_
  refine (reads_rd32 _).bind ?_
  exact (reads_copyN a.info a.length_eq).bind_nil (Parser.reads_pure ())

lemma reads_skipAttributes (m : Member) : Parser.Reads skipAttributes m.encodeAttributes () := by
  refine (reads_rd16 _).bind ?_
  have htable := Parser.reads_times' m.attributes (toNat_ofNat_u2 m.length_lt)
    fun a _ => reads_skipAttribute a
  exact htable.bind_nil (Parser.reads_pure ())

lemma reads_skipFields (L : Layout) : Parser.Reads skipFields L.encodeFields () := by
  have hfield (m : Member) : Parser.Reads (do let _ ← copyN 6; skipAttributes) m.encode () := by
    refine (reads_copyN _ ?_).bind (reads_skipAttributes m)
    rfl
  refine (reads_rd16 _).bind ?_
  have htable := Parser.reads_times' L.fields (toNat_ofNat_u2 L.fields_lt) fun m _ => hfield m
  exact htable.bind_nil (Parser.reads_pure ())

lemma reads_readMethod (m : Member) : Parser.Reads readMethod m.encode m.info := by
  simp only [Member.encode, List.append_assoc]
  refine (reads_rd16 _).bind ((reads_rd16 _).bind ((reads_rd16 _).bind ?_))
  exact (reads_skipAttributes m).consumed.bind_nil (Parser.reads_pure _)

/-! ## The name of the class -/

/-- A slot of the pool is unused or holds a constant. -/
lemma mem_poolSlots {pool : List Constant} {e : CpEntry} (h : e ∈ poolSlots pool) :
    e = {} ∨ ∃ c ∈ pool, e = ⟨c.tag, c.body, c.wide⟩ := by
  simp only [poolSlots, List.mem_cons, List.mem_flatMap] at h
  obtain rfl | ⟨c, hc, he⟩ := h
  · exact .inl rfl
  · cases hw : c.wide
    · simp only [Constant.slots, hw, Bool.false_eq_true, if_false, List.mem_singleton] at he
      exact .inr ⟨c, hc, by rw [he, hw]⟩
    · simp only [Constant.slots, hw, if_true, List.mem_cons, List.not_mem_nil, or_false] at he
      obtain rfl | rfl := he
      · exact .inr ⟨c, hc, by rw [hw]⟩
      · exact .inl rfl

/-- The bytes of a Utf8 constant are all present. -/
lemma Constant.utf8_body (c : Constant) (h : c.tag = CP_Utf8) :
    ∃ a b s, c.body = a :: b :: s ∧ (be16 a b).toNat = s.length := by
  have hsize := c.size_eq
  unfold cpBodySize at hsize
  rw [if_pos h] at hsize
  rcases hb : c.body with _ | ⟨a, _ | ⟨b, s⟩⟩
  · simp [hb] at hsize
  · simp [hb] at hsize
  · rw [hb] at hsize
    have hlen := Except.ok.inj hsize
    simp only [List.length_cons] at hlen
    exact ⟨a, b, s, rfl, by omega⟩

/-- A Class constant is a name index. -/
lemma Constant.class_body (c : Constant) (h : c.tag = CP_Class) : ∃ a b, c.body = [a, b] := by
  have hsize : (.ok 2 : Except Fault ℕ) = .ok c.body.length := by
    rw [← c.size_eq, h]
    rfl
  exact List.length_eq_two.mp (Except.ok.inj hsize).symm

/-- Looking up a name in the pool of a class file never reads outside it. -/
lemma cpUtf8Value_ok (pool : List Constant) (idx : UInt16) :
    ∃ s, cpUtf8Value (poolSlots pool) idx = .ok s := by
  unfold cpUtf8Value
  split
  · exact ⟨[], rfl⟩
  · split
    · exact ⟨[], rfl⟩
    · rename_i e he
      split
      · exact ⟨[], rfl⟩
      · rename_i htag
        obtain rfl | ⟨c, -, rfl⟩ := mem_poolSlots (List.mem_of_getElem? he)
        · exact absurd (not_not.mp htag) (by decide)
        · have htag' : c.tag = CP_Utf8 := not_not.mp htag
          obtain ⟨a, b, s, hbody, hlen⟩ := c.utf8_body htag'
          refine ⟨s.take (be16 a b).toNat, ?_⟩
          simp [hbody, hlen]

lemma readThisName_ok (L : Layout) :
    ∃ n, readThisName (poolSlots L.pool) L.thisClass = .ok n := by
  unfold readThisName
  split
  · exact ⟨[], rfl⟩
  · split
    · rename_i hnone
      have := List.getElem?_eq_none_iff.mp hnone
      have := L.this_lt
      omega
    · rename_i e he
      split
      · rename_i htag
        obtain rfl | ⟨c, -, rfl⟩ := mem_poolSlots (List.mem_of_getElem? he)
        · simp [CP_Class] at htag
        · obtain ⟨a, b, hbody⟩ := c.class_body htag
          simp only [hbody]
          exact cpUtf8Value_ok L.pool _
      · exact ⟨[], rfl⟩

/-! ## The class file -/

/-- The bytes of a class file up to the end of the methods. -/
def Layout.head (L : Layout) : Bytes :=
  wr32 0xCAFEBABE ++ (wr16 L.minorVersion ++ (wr16 L.majorVersion ++
  (wr16 (UInt16.ofNat (poolSlots L.pool).length) ++ (L.pool.flatMap Constant.encode ++
  (wr16 L.accessFlags ++ (wr16 L.thisClass ++ (wr16 L.superClass ++
  (wr16 (UInt16.ofNat L.interfaces.length) ++ (L.interfaces.flatMap wr16 ++
  (L.encodeFields ++
  (wr16 (UInt16.ofNat L.methods.length) ++ L.methods.flatMap Member.encode)))))))))))

lemma Layout.encode_eq_head (L : Layout) : L.encode = L.head ++ L.rest := by
  simp only [Layout.encode, Layout.head, List.append_assoc]

lemma Layout.length_head (L : Layout) : 10 ≤ L.head.length := by
  simp only [Layout.head, List.length_append, length_wr16, length_wr32]
  omega

/-- The parser reads a class file up to the end of the methods. -/
lemma reads_readClass (L : Layout) {thisName : Bytes}
    (hname : readThisName (poolSlots L.pool) L.thisClass = .ok thisName) :
    Parser.Reads readClass L.head { L.editor thisName with classAttrsRaw := [] } := by
  -- the fuel of `readPool` is the length of the input, which no pool exceeds
  have hpool : Parser.Reads (fun p => readPool (UInt16.ofNat (poolSlots L.pool).length)
      (p.length + 1) 1 p) (L.pool.flatMap Constant.encode)
      (L.pool.flatMap Constant.slots) := by
    intro r
    refine reads_readPool _ L.pool 1 _ ?_ ?_ r
    · have := length_pool_le L.pool
      simp only [List.length_append]
      omega
    · rw [toNat_ofNat_u2 L.pool_lt, poolSlots, List.length_cons, UInt16.toNat_one]
      omega
  have hinterfaces := Parser.reads_times' L.interfaces (toNat_ofNat_u2 L.interfaces_lt)
    fun i _ => reads_rd16 i
  have hmethods := Parser.reads_times' L.methods (toNat_ofNat_u2 L.methods_lt)
    fun m _ => reads_readMethod m
  rw [List.map_id'] at hinterfaces
  refine (reads_rd32 _).bind ?_
  rw [if_neg (by decide)]
  refine (reads_rd16 _).bind ((reads_rd16 _).bind ((reads_rd16 _).bind (hpool.bind ?_)))
  refine (reads_rd16 _).bind ((reads_rd16 _).bind ((reads_rd16 _).bind ((reads_rd16 _).bind ?_)))
  refine hinterfaces.bind ((Parser.reads_lift hname).nil_bind ?_)
  refine (reads_skipFields L).consumed.bind ((reads_rd16 _).bind ?_)
  exact hmethods.bind_nil (Parser.reads_pure _)

/-- Parsing a class file gives the editor that holds it. -/
lemma parse_encode (L : Layout) : ∃ thisName,
    readThisName (poolSlots L.pool) L.thisClass = .ok thisName ∧
      parse L.encode = .ok (L.editor thisName) := by
  obtain ⟨thisName, hname⟩ := readThisName_ok L
  refine ⟨thisName, hname, ?_⟩
  have hlong : ¬ L.encode.length < 10 := by
    have := L.length_head
    rw [L.encode_eq_head, List.length_append]
    omega
  have hread := reads_readClass L hname L.rest
  rw [← L.encode_eq_head] at hread
  rw [parse, if_neg hlong, hread]
  rfl

/-- Serialising what was parsed from a class file gives the class file back. -/
theorem serialize_parse (L : Layout) :
    ∃ ed, parse L.encode = .ok ed ∧ ed.serialize = .ok L.encode := by
  obtain ⟨thisName, -, hparse⟩ := parse_encode L
  exact ⟨L.editor thisName, hparse, serialize_editor L thisName⟩

end ClassFile
end SakuraTools
