import SakuraTools.ClassFile.CodeAttribute

/-!
# Sequences of edits

An editor is sound when it holds a well-formed class file, up to the size of the constant
pool.  Parsing a well-formed class file gives a sound editor, every edit keeps it sound, and
what a sound editor serialises is parsed back to the same editor.
-/

namespace SakuraTools
namespace ClassFile

/-! ## Well-formed class files -/

/-- An attribute of a method of a class file with the constant pool `cp`: its name is in the
pool, and if it is called "Code" it is a well-formed Code attribute. -/
def Attribute.WellFormed (cp : List CpEntry) (a : Attribute) : Prop :=
  a.name.toNat < cp.length ∧
    (cpUtf8Value cp a.name = .ok (ascii "Code") →
      ∃ c : CodeBody, a.info = writeCode c ∧ c.WellFormed cp)

/-- A method of a class file with the constant pool `cp`. -/
def Member.WellFormed (cp : List CpEntry) (m : Member) : Prop :=
  ∀ a ∈ m.attributes, a.WellFormed cp

/-- The name of the class is in the pool. -/
def ThisNameInPool (cp : List CpEntry) (thisClass : UInt16) : Prop :=
  ∀ e, cp[thisClass.toNat]? = some e → e.tag = CP_Class →
    ∀ a b r, e.body = a :: b :: r → (be16 a b).toNat < cp.length

/-- A well-formed class file. -/
structure Layout.WellFormed (L : Layout) : Prop where
  methods : ∀ m ∈ L.methods, m.WellFormed (poolSlots L.pool)
  thisName : ThisNameInPool (poolSlots L.pool) L.thisClass

/-! ## Growing pools -/

lemma cpUtf8Value_append {cp : List CpEntry} {idx : UInt16} (h : idx.toNat < cp.length)
    (new : List CpEntry) : cpUtf8Value (cp ++ new) idx = cpUtf8Value cp idx := by
  unfold cpUtf8Value
  rw [List.getElem?_append_left h]

lemma CodeBody.WellFormed.append {cp : List CpEntry} {c : CodeBody} (h : c.WellFormed cp)
    (new : List CpEntry) : c.WellFormed (cp ++ new) := by
  refine ⟨h.toFits, ?_, ?_⟩
  · intro a ha
    have := h.names_lt a ha
    rw [List.length_append]
    omega
  · intro a ha hname
    rw [cpUtf8Value_append (h.names_lt a ha)] at hname
    exact h.frames a ha hname

lemma Member.WellFormed.append {cp : List CpEntry} {m : Member} (h : m.WellFormed cp)
    (new : List CpEntry) : m.WellFormed (cp ++ new) := by
  intro a ha
  obtain ⟨hlt, hcode⟩ := h a ha
  constructor
  · rw [List.length_append]
    omega
  · intro hname
    rw [cpUtf8Value_append hlt] at hname
    obtain ⟨c, hinfo, hc⟩ := hcode hname
    exact ⟨c, hinfo, hc.append new⟩

lemma ThisNameInPool.append {cp : List CpEntry} {thisClass : UInt16}
    (h : ThisNameInPool cp thisClass) (hlt : thisClass.toNat < cp.length) (new : List CpEntry) :
    ThisNameInPool (cp ++ new) thisClass := by
  intro e he htag a b r hbody
  rw [List.getElem?_append_left hlt] at he
  have := h e he htag a b r hbody
  rw [List.length_append]
  omega

lemma readThisName_append {cp : List CpEntry} {thisClass : UInt16}
    (h : ThisNameInPool cp thisClass) (hlt : thisClass.toNat < cp.length) (new : List CpEntry) :
    readThisName (cp ++ new) thisClass = readThisName cp thisClass := by
  unfold readThisName
  rw [List.getElem?_append_left hlt]
  split
  · rfl
  · cases he : cp[thisClass.toNat]? with
    | none => rfl
    | some e =>
      dsimp only
      split
      · rename_i htag
        rcases hbody : e.body with _ | ⟨a, _ | ⟨b, r⟩⟩
        · rfl
        · rfl
        · exact cpUtf8Value_append (h e he htag a b r hbody) new
      · rfl

/-! ## Sound editors -/

/-- The editor holds a well-formed class file.  The pool may have one slot more than a class
file can have: an edit can fill the slot 65535. -/
structure Editor.Sound (ed : Editor) : Prop where
  magic_eq : ed.magic = 0xCAFEBABE
  pool : ∃ pool, ed.cp = poolSlots pool
  cp_le : ed.cp.length ≤ 65536
  interfaces_lt : ed.interfaces.length < 65536
  fields : ∃ fields : List Member, fields.length < 65536 ∧
    ed.fieldsRaw = wr16 (UInt16.ofNat fields.length) ++ fields.flatMap Member.encode
  methods : ∃ methods : List Member, methods.length < 65536 ∧
    ed.methods = methods.map Member.info ∧ ∀ m ∈ methods, m.WellFormed ed.cp
  this_lt : ed.thisClass.toNat < ed.cp.length
  this_in_pool : ThisNameInPool ed.cp ed.thisClass
  thisName_eq : readThisName ed.cp ed.thisClass = .ok ed.thisName

namespace Editor

lemma sound_editor {L : Layout} (hL : L.WellFormed) {thisName : Bytes}
    (hname : readThisName (poolSlots L.pool) L.thisClass = .ok thisName) :
    (L.editor thisName).Sound where
  magic_eq := rfl
  pool := ⟨L.pool, rfl⟩
  cp_le := L.pool_lt.le
  interfaces_lt := L.interfaces_lt
  fields := ⟨L.fields, L.fields_lt, rfl⟩
  methods := ⟨L.methods, L.methods_lt, rfl, hL.methods⟩
  this_lt := L.this_lt
  this_in_pool := hL.thisName
  thisName_eq := hname

/-- What a sound editor serialises is parsed back to the same editor. -/
lemma Sound.reparse {ed : Editor} (h : ed.Sound) (hcp : ed.cp.length ≤ 65535) :
    ∃ bytes, ed.serialize = .ok bytes ∧ parse bytes = .ok ed := by
  obtain ⟨pool, hpool⟩ := h.pool
  obtain ⟨fields, hfields_lt, hfields⟩ := h.fields
  obtain ⟨methods, hmethods_lt, hmethods, -⟩ := h.methods
  -- the class file that the editor writes
  let L : Layout :=
    { minorVersion := ed.minorVersion
      majorVersion := ed.majorVersion
      pool := pool
      accessFlags := ed.accessFlags
      thisClass := ed.thisClass
      superClass := ed.superClass
      interfaces := ed.interfaces
      fields := fields
      methods := methods
      rest := ed.classAttrsRaw
      pool_lt := hpool ▸ Nat.lt_succ_of_le hcp
      interfaces_lt := h.interfaces_lt
      fields_lt := hfields_lt
      methods_lt := hmethods_lt
      this_lt := hpool ▸ h.this_lt }
  have hL : L.editor ed.thisName = ed := by
    rw [Layout.editor, ← hpool, ← hmethods, Layout.encodeFields, ← hfields, ← h.magic_eq]
  obtain ⟨thisName, hname, hparse⟩ := parse_encode L
  have hthis : thisName = ed.thisName := by
    have := hname.symm.trans (hpool ▸ h.thisName_eq)
    exact Except.ok.inj this
  refine ⟨L.encode, ?_, ?_⟩
  · rw [← serialize_editor L ed.thisName, hL]
  · rw [hparse, hthis, hL]

/-- A sound editor stays sound when constants are added. -/
lemma Sound.addConstants {ed : Editor} (h : ed.Sound) (new : List Constant)
    (hle : (ed.cp ++ new.flatMap Constant.slots).length ≤ 65536) :
    Editor.Sound { ed with cp := ed.cp ++ new.flatMap Constant.slots } where
  magic_eq := h.magic_eq
  pool := by
    obtain ⟨pool, hpool⟩ := h.pool
    refine ⟨pool ++ new, ?_⟩
    simp only [hpool, poolSlots, List.flatMap_append, List.cons_append]
  cp_le := hle
  interfaces_lt := h.interfaces_lt
  fields := h.fields
  methods := by
    obtain ⟨methods, hlt, heq, hwf⟩ := h.methods
    exact ⟨methods, hlt, heq, fun m hm => (hwf m hm).append _⟩
  this_lt := by
    have := h.this_lt
    simp only [List.length_append]
    omega
  this_in_pool := h.this_in_pool.append h.this_lt _
  thisName_eq := by
    rw [readThisName_append h.this_in_pool h.this_lt]
    exact h.thisName_eq

lemma Sound.cp_pos {ed : Editor} (h : ed.Sound) : 0 < ed.cp.length := by
  have := h.this_lt
  omega

end Editor

/-! ## Adding constants -/

/-- What a scan of the pool returns: the index of an entry that passes the test, or nothing,
and then the pool has at most 65535 slots. -/
lemma scan_yields (cp : List CpEntry) (f : CpEntry → Bool) :
    Yields (scan cp f) fun r => match r with
      | some i => i ≠ 0 ∧ ∃ e, cp[i.toNat]? = some e ∧ f e = true
      | none => cp.length ≤ 65535 := by
  unfold scan
  cases hk : (cp.tail.take 65535).findIdx? f with
  | none =>
    dsimp only
    split
    · exact .inl rfl
    · rename_i hle
      exact Yields.ok (Nat.le_of_not_lt hle)
  | some k =>
    -- the test succeeds before the 16-bit index of the loop can wrap around
    obtain ⟨hlt, hf, -⟩ := List.findIdx?_eq_some_iff_getElem.mp hk
    have hlen : k < 65535 ∧ k < cp.tail.length := by
      rw [List.length_take] at hlt
      omega
    have hi : (UInt16.ofNat (k + 1)).toNat = k + 1 := toNat_ofNat_u2 (by omega)
    refine Yields.ok ⟨?_, cp.tail.get ⟨k, hlen.2⟩, ?_, ?_⟩
    · intro h0
      rw [h0] at hi
      simp at hi
    · rw [hi, ← List.getElem?_tail, List.getElem?_eq_getElem hlen.2]
      rfl
    · rwa [List.getElem_take] at hf

/-- An entry that passes the test of `findUtf8` resolves to the string. -/
lemma cpUtf8Value_of_isUtf8 {cp : List CpEntry} {i : UInt16} {e : CpEntry} {s : Bytes}
    (hi : i ≠ 0) (he : cp[i.toNat]? = some e) (hs : e.isUtf8 s = true) :
    cpUtf8Value cp i = .ok s := by
  obtain ⟨tag, body, wide⟩ := e
  rcases body with _ | ⟨a, _ | ⟨b, t⟩⟩
  · simp [CpEntry.isUtf8] at hs
  · simp [CpEntry.isUtf8] at hs
  · simp only [CpEntry.isUtf8, Bool.and_eq_true, beq_iff_eq] at hs
    obtain ⟨⟨rfl, hlen⟩, htake⟩ := hs
    have hle : s.length ≤ t.length := by
      rw [← htake, List.length_take]
      omega
    unfold cpUtf8Value
    rw [if_neg hi, he]
    simp [hlen, hle, htake]

/-- The Utf8 constant of a string. -/
def Constant.utf8 (s : Bytes) (h : s.length ≤ 65535) : Constant where
  tag := CP_Utf8
  body := wr16 (UInt16.ofNat s.length) ++ s
  size_eq := by
    change Except.ok (2 + (be16 _ _).toNat) = Except.ok _
    rw [be16_wr16, toNat_ofNat_u2 (by omega), List.length_append, length_wr16]

/-- A constant of two bytes. -/
def Constant.index (x : UInt16) : Constant := ⟨CP_Class, wr16 x, rfl⟩

/-- A constant that consists of two indices. -/
def Constant.pair (tag : UInt8) (x y : UInt16) (h : tag = CP_NameAndType ∨ tag = CP_Methodref) :
    Constant where
  tag := tag
  body := wr16 x ++ wr16 y
  size_eq := by
    rcases h with rfl | rfl
    · rfl
    · rfl

namespace Editor

/-- Adding a constant of one slot keeps a sound editor sound, as long as its index fits. -/
lemma Sound.addRawEntry {ed : Editor} (h : ed.Sound) (c : Constant) (hw : c.wide = false)
    (hle : ed.cp.length ≤ 65535) :
    (ed.addRawEntry c.tag c.body).2.Sound ∧
      (ed.addRawEntry c.tag c.body).2.cp = ed.cp ++ c.slots := by
  have hslots : c.slots = [⟨c.tag, c.body, false⟩] := by simp [Constant.slots, hw]
  have hsound := h.addConstants [c] (by simp [hslots]; omega)
  simp only [List.flatMap_cons, List.flatMap_nil, List.append_nil, hslots] at hsound
  exact ⟨hsound, by rw [hslots]; rfl⟩

lemma findOrAdd_yields {ed : Editor} (h : ed.Sound) (f : CpEntry → Bool) (c : Constant)
    (hw : c.wide = false) :
    Yields (ed.findOrAdd f c.tag c.body) fun r => r.2.Sound := by
  refine (scan_yields ed.cp f).bind ?_
  intro r hr
  cases r with
  | some i => exact Yields.ok h
  | none => exact Yields.ok (h.addRawEntry c hw hr).1

lemma findUtf8_yields (ed : Editor) (s : Bytes) :
    Yields (ed.findUtf8 s) fun i =>
      (i ≠ 0 ∧ cpUtf8Value ed.cp i = .ok s) ∨ (i = 0 ∧ ed.cp.length ≤ 65535) := by
  rcases scan_yields ed.cp (CpEntry.isUtf8 s) with hdiv | ⟨r, hr, hspec⟩
  · refine .inl ?_
    rw [findUtf8, hdiv]
    rfl
  · rw [findUtf8, hr]
    cases r with
    | none => exact Yields.ok (.inr ⟨rfl, hspec⟩)
    | some i =>
      obtain ⟨hi, e, he, hs⟩ := hspec
      exact Yields.ok (.inl ⟨hi, cpUtf8Value_of_isUtf8 hi he hs⟩)

lemma addUtf8_yields {ed : Editor} (h : ed.Sound) {s : Bytes} (hs : s.length ≤ 65535) :
    Yields (ed.addUtf8 s) fun r => r.2.Sound ∧ cpUtf8Value r.2.cp r.1 = .ok s ∧
      r.2.methods = ed.methods ∧ ∃ new, r.2.cp = ed.cp ++ new := by
  refine (findUtf8_yields ed s).bind ?_
  intro i hi
  rcases hi with ⟨hi, hvalue⟩ | ⟨rfl, hle⟩
  · simp only [hi, ne_eq, not_false_eq_true, if_true]
    exact Yields.ok ⟨h, hvalue, rfl, [], (List.append_nil _).symm⟩
  · obtain ⟨hsound, hcp⟩ := h.addRawEntry (Constant.utf8 s hs) rfl hle
    have hidx : (UInt16.ofNat ed.cp.length).toNat = ed.cp.length := toNat_ofNat_u2 (by omega)
    simp only [ne_eq, not_true_eq_false, if_false]
    refine Yields.ok ⟨hsound, ?_, rfl, _, hcp⟩
    -- the new constant stands at the index that the call returns
    refine cpUtf8Value_of_isUtf8 (e := ⟨CP_Utf8, wr16 (UInt16.ofNat s.length) ++ s, false⟩)
      ?_ ?_ ?_
    · intro h0
      have hpos := h.cp_pos
      have : (UInt16.ofNat ed.cp.length).toNat = 0 := by
        rw [show UInt16.ofNat ed.cp.length = 0 from h0]
        rfl
      omega
    · change (ed.addRawEntry CP_Utf8 (wr16 (UInt16.ofNat s.length) ++ s)).2.cp[
        (UInt16.ofNat ed.cp.length).toNat]? = _
      rw [hidx]
      simp [Editor.addRawEntry]
    · change (CP_Utf8 == CP_Utf8 && (be16 _ _).toNat == s.length && s.take s.length == s) = true
      rw [be16_wr16, toNat_ofNat_u2 (by omega)]
      simp

lemma addClass_yields {ed : Editor} (h : ed.Sound) {internalName : Bytes}
    (hs : internalName.length ≤ 65535) :
    Yields (ed.addClass internalName) fun r => r.2.Sound := by
  refine (addUtf8_yields h hs).bind ?_
  intro r hr
  exact findOrAdd_yields hr.1 _ (Constant.index r.1) rfl

lemma addNameAndType_yields {ed : Editor} (h : ed.Sound) {name desc : Bytes}
    (hname : name.length ≤ 65535) (hdesc : desc.length ≤ 65535) :
    Yields (ed.addNameAndType name desc) fun r => r.2.Sound := by
  refine (addUtf8_yields h hname).bind ?_
  intro r hr
  refine (addUtf8_yields hr.1 hdesc).bind ?_
  intro r' hr'
  exact findOrAdd_yields hr'.1 _ (Constant.pair CP_NameAndType r.1 r'.1 (.inl rfl)) rfl

lemma addMethodRef_yields {ed : Editor} (h : ed.Sound) {klass name desc : Bytes}
    (hklass : klass.length ≤ 65535) (hname : name.length ≤ 65535)
    (hdesc : desc.length ≤ 65535) :
    Yields (ed.addMethodRef klass name desc) fun r => r.2.Sound := by
  refine (addClass_yields h hklass).bind ?_
  intro r hr
  refine (addNameAndType_yields hr hname hdesc).bind ?_
  intro r' hr'
  exact findOrAdd_yields hr' _ (Constant.pair CP_Methodref r.1 r'.1 (.inr rfl)) rfl

end Editor

/-! ## Rebuilding the attributes of a method -/

/-- What becomes of an attribute of the method. -/
inductive Rebuilt (cp : List CpEntry) (codeUtf8 : UInt16) (insertion : Bytes)
    (extraStack : UInt16) (a : Attribute) (b : UInt16 × Bytes) : Prop where
  | kept (hname : a.name ≠ codeUtf8) (hb : b = (a.name, a.info))
  | patched (hname : a.name = codeUtf8) (c c' : CodeBody) (hinfo : a.info = writeCode c)
      (hc : c.WellFormed cp) (hpatch : patchCode cp insertion extraStack c = .ok c')
      (hc' : Prepended cp insertion c c') (hb : b = (a.name, writeCode c'))

lemma reads_rebuildAttribute {pool : List Constant} {codeUtf8 : UInt16} (insertion : Bytes)
    (extraStack : UInt16) {a : Attribute}
    (hcode : a.name = codeUtf8 → ∃ c, a.info = writeCode c ∧ c.WellFormed (poolSlots pool)) :
    ∃ b, Parser.Reads (rebuildAttribute (poolSlots pool) codeUtf8 insertion extraStack)
        a.encode b ∧
      Rebuilt (poolSlots pool) codeUtf8 insertion extraStack a b := by
  by_cases hname : a.name = codeUtf8
  · obtain ⟨c, hinfo, hc⟩ := hcode hname
    obtain ⟨c', hpatch, hc'⟩ := patchCode_ok insertion extraStack hc
    refine ⟨(a.name, writeCode c'), ?_, .patched hname c c' hinfo hc hpatch hc' rfl⟩
    simp only [Attribute.encode, List.append_assoc]
    refine (reads_rd16 _).bind ((reads_rd32 _).bind ?_)
    rw [if_neg (not_not.mpr hname)]
    intro r
    have hread := reads_readCode hc.toFits r
    rw [← hinfo] at hread
    -- `rebuildAttribute` reads the body in place, so what follows the attribute is in front of it
    change (Except.bind (readCode (a.info ++ r)) _) = _
    rw [hread]
    change (Except.bind (patchCode (poolSlots pool) insertion extraStack c) _) = _
    rw [hpatch]
    change Except.ok ((a.name, writeCode c'), (a.info ++ r).drop _) = _
    rw [a.length_eq, List.drop_left]
  · refine ⟨(a.name, a.info), ?_, .kept hname rfl⟩
    simp only [Attribute.encode, List.append_assoc]
    refine (reads_rd16 _).bind ((reads_rd32 _).bind ?_)
    rw [if_pos hname]
    exact (reads_copyN a.info a.length_eq).bind_nil (Parser.reads_pure _)

/-- The attributes of a well-formed method can be rebuilt. -/
lemma rebuildCodeAttribute_ok {pool : List Constant} {codeUtf8 : UInt16} (insertion : Bytes)
    (extraStack : UInt16) {m : Member} (hm : m.WellFormed (poolSlots pool))
    (hname : cpUtf8Value (poolSlots pool) codeUtf8 = .ok (ascii "Code")) :
    ∃ attrs, rebuildAttributes (poolSlots pool) codeUtf8 insertion extraStack
        m.encodeAttributes = .ok ((UInt16.ofNat m.attributes.length, attrs), []) ∧
      rebuildCodeAttribute (poolSlots pool) m.encodeAttributes codeUtf8 insertion extraStack =
        .ok (wr16 (UInt16.ofNat m.attributes.length) ++ attrs.flatMap writeAttribute) ∧
      List.Forall₂ (Rebuilt (poolSlots pool) codeUtf8 insertion extraStack) m.attributes
        attrs := by
  obtain ⟨attrs, hattrs, hrebuilt⟩ := Parser.reads_times_forall₂ m.attributes fun a ha =>
    reads_rebuildAttribute insertion extraStack
      fun hcode => (hm a ha).2 (hcode ▸ hname)
  have hread : Parser.Reads
      (rebuildAttributes (poolSlots pool) codeUtf8 insertion extraStack) m.encodeAttributes
      (UInt16.ofNat m.attributes.length, attrs) := by
    refine (reads_rd16 _).bind ?_
    rw [toNat_ofNat_u2 m.length_lt]
    exact hattrs.bind_nil (Parser.reads_pure _)
  refine ⟨attrs, hread.run, ?_, hrebuilt⟩
  have hlong : ¬ m.encodeAttributes.length < 2 := by
    rw [Member.encodeAttributes, List.length_append, length_wr16]
    omega
  rw [rebuildCodeAttribute, if_neg hlong, hread.run]
  rfl

/-- Attributes whose bodies fit in 32 bits are the attributes of a class file. -/
lemma exists_attributes (attrs : List (UInt16 × Bytes))
    (h : ∀ b ∈ attrs, b.2.length < 4294967296) :
    ∃ l : List Attribute, l.map (fun a => (a.name, a.info)) = attrs := by
  induction attrs with
  | nil => exact ⟨[], rfl⟩
  | cons b attrs ih =>
    obtain ⟨l, rfl⟩ := ih fun b' hb' => h b' (List.mem_cons_of_mem b hb')
    exact ⟨⟨b.1, b.2, h b List.mem_cons_self⟩ :: l, rfl⟩

/-- The rebuilt attributes of a well-formed method are those of a well-formed method. -/
lemma exists_rebuilt_member {cp : List CpEntry} {codeUtf8 : UInt16} {insertion : Bytes}
    {extraStack : UInt16} {m : Member} (hm : m.WellFormed cp) {attrs : List (UInt16 × Bytes)}
    (hrebuilt : List.Forall₂ (Rebuilt cp codeUtf8 insertion extraStack) m.attributes attrs)
    (hfit : ∀ b ∈ attrs, b.2.length < 4294967296) :
    ∃ m' : Member, m'.WellFormed cp ∧
      m'.info = { m.info with
        attributesRaw :=
          wr16 (UInt16.ofNat m.attributes.length) ++ attrs.flatMap writeAttribute } := by
  obtain ⟨l, hl⟩ := exists_attributes attrs hfit
  have hlen : l.length = m.attributes.length := by
    rw [hrebuilt.length_eq, ← hl, List.length_map]
  refine ⟨⟨m.accessFlags, m.nameIndex, m.descriptorIndex, l, hlen ▸ m.length_lt⟩, ?_, ?_⟩
  · intro a' ha'
    have hmem : (a'.name, a'.info) ∈ attrs := hl ▸ List.mem_map.mpr ⟨a', ha', rfl⟩
    obtain ⟨a, ha, hab⟩ := exists_of_forall₂ hrebuilt hmem
    obtain ⟨hlt, hcode⟩ := hm a ha
    cases hab with
    | kept hname hb =>
      obtain ⟨hn, hi⟩ := Prod.mk.inj hb
      rw [Attribute.WellFormed, hn, hi]
      exact ⟨hlt, hcode⟩
    | patched hname c c' hinfo hc hpatch hc' hb =>
      obtain ⟨hn, hi⟩ := Prod.mk.inj hb
      rw [Attribute.WellFormed, hn]
      refine ⟨hlt, fun _ => ⟨c', hi, hc'.wellFormed hc ?_⟩⟩
      rw [← hi]
      exact hfit _ hmem
  · have hraw : wr16 (UInt16.ofNat l.length) ++ l.flatMap Attribute.encode =
        wr16 (UInt16.ofNat m.attributes.length) ++ attrs.flatMap writeAttribute := by
      rw [hlen, ← hl, List.flatMap_map]
      rfl
    simp only [Member.info, Member.encodeAttributes, hraw]

/-! ## Edits -/

/-- A call that changes the class. -/
inductive Edit where
  | addUtf8 (s : Bytes)
  | addClass (internalName : Bytes)
  | addNameAndType (name desc : Bytes)
  | addMethodRef (klass name desc : Bytes)
  | prependToMethodCode (name desc insertion : Bytes) (extraStack : UInt16)

namespace Edit

/-- The strings that the call adds or looks up. -/
def strings : Edit → List Bytes
  | addUtf8 s => [s]
  | addClass internalName => [internalName]
  | addNameAndType name desc => [name, desc]
  | addMethodRef klass name desc => [klass, name, desc]
  | prependToMethodCode name desc _ _ => [name, desc]

/-- The editor after the call. -/
def apply (ed : Editor) : Edit → Except Fault Editor
  | addUtf8 s => (ed.addUtf8 s).map Prod.snd
  | addClass internalName => (ed.addClass internalName).map Prod.snd
  | addNameAndType name desc => (ed.addNameAndType name desc).map Prod.snd
  | addMethodRef klass name desc => (ed.addMethodRef klass name desc).map Prod.snd
  | prependToMethodCode name desc insertion extraStack =>
    (ed.prependToMethodCode name desc insertion extraStack).map Prod.snd

/-- The attributes that the call writes. -/
def written (ed : Editor) : Edit → Except Fault (List (UInt16 × Bytes))
  | prependToMethodCode name desc insertion extraStack => do
    match ← ed.findTarget name desc with
    | none => pure []
    | some (_, m, codeUtf8, ed) =>
      let ((_, attrs), _) ←
        rebuildAttributes ed.cp codeUtf8 insertion extraStack m.attributesRaw
      pure attrs
  | _ => pure []

/-- Every attribute that the call writes has a length that fits in 32 bits. -/
def LengthsFit (ed : Editor) (e : Edit) : Prop :=
  ∀ attrs, e.written ed = .ok attrs → ∀ b ∈ attrs, b.2.length < 4294967296

instance (ed : Editor) (e : Edit) : Decidable (e.LengthsFit ed) :=
  decidableForallOk (e.written ed) _

end Edit

/-- The editor after a sequence of calls. -/
def applyEdits (ed : Editor) (edits : List Edit) : Except Fault Editor :=
  edits.foldlM Edit.apply ed

/-- Every attribute that a sequence of calls writes has a length that fits in 32 bits. -/
def LengthsFit : Editor → List Edit → Prop
  | _, [] => True
  | ed, e :: edits => e.LengthsFit ed ∧ ∀ ed', e.apply ed = .ok ed' → LengthsFit ed' edits

instance decidableLengthsFit : (ed : Editor) → (edits : List Edit) → Decidable (LengthsFit ed edits)
  | _, [] => isTrue trivial
  | ed, e :: edits =>
    have := fun ed' => decidableLengthsFit ed' edits
    have := decidableForallOk (e.apply ed) fun ed' => LengthsFit ed' edits
    inferInstanceAs (Decidable (_ ∧ _))

namespace Editor

lemma findTarget_yields {ed : Editor} (h : ed.Sound) (name desc : Bytes) :
    Yields (ed.findTarget name desc) fun t => ∀ k m codeUtf8 ed₁,
      t = some (k, m, codeUtf8, ed₁) → ed₁.Sound ∧ ed.methods[k]? = some m ∧
        cpUtf8Value ed₁.cp codeUtf8 = .ok (ascii "Code") ∧ ed₁.methods = ed.methods ∧
        ∃ new, ed₁.cp = ed.cp ++ new := by
  refine (findUtf8_yields ed name).bind ?_
  intro nameIdx _
  refine (findUtf8_yields ed desc).bind ?_
  intro descIdx _
  split
  · exact Yields.ok (by simp)
  · split
    · exact Yields.ok (by simp)
    · rename_i k _
      split
      · exact Yields.ok (by simp)
      · rename_i m hm
        refine (addUtf8_yields h (by decide)).bind ?_
        intro r hr
        refine Yields.ok ?_
        intro k' m' codeUtf8 ed₁ heq
        obtain ⟨hsound, hvalue, hmethods, hnew⟩ := hr
        cases heq
        exact ⟨hsound, hm, hvalue, hmethods, hnew⟩

/-- Replacing a method of a sound editor by a well-formed one. -/
lemma Sound.setMethod {ed : Editor} (h : ed.Sound) {m' : Member} (hm' : m'.WellFormed ed.cp)
    (k : ℕ) : Editor.Sound { ed with methods := ed.methods.set k m'.info } where
  magic_eq := h.magic_eq
  pool := h.pool
  cp_le := h.cp_le
  interfaces_lt := h.interfaces_lt
  fields := h.fields
  methods := by
    obtain ⟨methods, hlt, heq, hwf⟩ := h.methods
    refine ⟨methods.set k m', ?_, ?_, ?_⟩
    · rwa [List.length_set]
    · simp only [heq, List.map_set]
    · intro m hm
      rcases List.mem_or_eq_of_mem_set hm with hm | rfl
      · exact hwf m hm
      · exact hm'
  this_lt := h.this_lt
  this_in_pool := h.this_in_pool
  thisName_eq := h.thisName_eq

lemma Sound.exists_member {ed : Editor} (h : ed.Sound) {k : ℕ} {m : MethodInfo}
    (hm : ed.methods[k]? = some m) : ∃ m₀ : Member, m₀.WellFormed ed.cp ∧ m = m₀.info := by
  obtain ⟨methods, -, heq, hwf⟩ := h.methods
  rw [heq, List.getElem?_map] at hm
  obtain ⟨m₀, hm₀, rfl⟩ := Option.map_eq_some_iff.mp hm
  exact ⟨m₀, hwf m₀ (List.mem_of_getElem? hm₀), rfl⟩

lemma prependToMethodCode_of_target {ed ed₁ : Editor} {name desc insertion raw : Bytes}
    {extraStack codeUtf8 : UInt16} {k : ℕ} {m : MethodInfo}
    (htarget : ed.findTarget name desc = .ok (some (k, m, codeUtf8, ed₁)))
    (hraw : rebuildCodeAttribute ed₁.cp m.attributesRaw codeUtf8 insertion extraStack =
      .ok raw) :
    ed.prependToMethodCode name desc insertion extraStack =
      .ok (true, { ed₁ with methods := ed₁.methods.set k { m with attributesRaw := raw } }) := by
  rw [prependToMethodCode, htarget]
  change Except.bind (rebuildCodeAttribute ed₁.cp m.attributesRaw codeUtf8 insertion
    extraStack) _ = _
  rw [hraw]
  rfl

/-- The call returns when it has found its target, or that there is none. -/
lemma prependToMethodCode_of_findTarget {ed : Editor} (h : ed.Sound)
    {name desc insertion : Bytes} {extraStack : UInt16}
    (hfit : (Edit.prependToMethodCode name desc insertion extraStack).LengthsFit ed)
    {t : Option (ℕ × MethodInfo × UInt16 × Editor)} (ht : ed.findTarget name desc = .ok t) :
    ∃ r, ed.prependToMethodCode name desc insertion extraStack = .ok r ∧ r.2.Sound := by
  cases t with
  | none =>
    rw [prependToMethodCode, ht]
    exact ⟨(false, ed), rfl, h⟩
  | some target =>
    obtain ⟨k, m, codeUtf8, ed₁⟩ := target
    obtain ⟨hsound, hm, hvalue, hmethods, -⟩ :=
      (findTarget_yields h name desc).of_ok ht k m codeUtf8 ed₁ rfl
    obtain ⟨m₀, hm₀, rfl⟩ := hsound.exists_member (hmethods ▸ hm)
    obtain ⟨pool, hpool⟩ := hsound.pool
    -- the pool has grown by "Code" when the attributes are rebuilt
    rw [hpool] at hm₀ hvalue
    obtain ⟨attrs, hrun, hraw, hrebuilt⟩ :=
      rebuildCodeAttribute_ok insertion extraStack hm₀ hvalue
    rw [← hpool] at hm₀ hrun hraw hrebuilt
    have hwritten : (Edit.prependToMethodCode name desc insertion extraStack).written ed =
        .ok attrs := by
      rw [Edit.written, ht]
      change (Except.bind (rebuildAttributes ed₁.cp codeUtf8 insertion extraStack
        m₀.encodeAttributes) _) = _
      rw [hrun]
      rfl
    obtain ⟨m', hm', hinfo⟩ := exists_rebuilt_member hm₀ hrebuilt (hfit attrs hwritten)
    have hset := hsound.setMethod hm' k
    rw [hinfo] at hset
    exact ⟨_, prependToMethodCode_of_target ht hraw, hset⟩

lemma prependToMethodCode_yields {ed : Editor} (h : ed.Sound)
    {name desc insertion : Bytes} {extraStack : UInt16}
    (hfit : (Edit.prependToMethodCode name desc insertion extraStack).LengthsFit ed) :
    Yields (ed.prependToMethodCode name desc insertion extraStack) fun r => r.2.Sound := by
  rcases findTarget_yields h name desc with hdiv | ⟨t, ht, -⟩
  · refine .inl ?_
    rw [prependToMethodCode, hdiv]
    rfl
  · exact .inr (prependToMethodCode_of_findTarget h hfit ht)

end Editor

lemma Yields.map_snd {α : Type} {x : Except Fault (α × Editor)}
    (h : Yields x fun r => r.2.Sound) : Yields (x.map Prod.snd) Editor.Sound := by
  rcases h with rfl | ⟨r, rfl, hr⟩
  · exact .inl rfl
  · exact Yields.ok hr

/-- Every edit keeps a sound editor sound. -/
lemma Edit.apply_yields {ed : Editor} (h : ed.Sound) {e : Edit}
    (hs : ∀ s ∈ e.strings, s.length ≤ 65535) (hfit : e.LengthsFit ed) :
    Yields (e.apply ed) Editor.Sound := by
  cases e with
  | addUtf8 s =>
    exact ((Editor.addUtf8_yields h (hs s (by simp [strings]))).mono fun _ hr => hr.1).map_snd
  | addClass internalName => exact (Editor.addClass_yields h (hs _ (by simp [strings]))).map_snd
  | addNameAndType name desc =>
    have hname := hs name (by simp [strings])
    have hdesc := hs desc (by simp [strings])
    exact (Editor.addNameAndType_yields h hname hdesc).map_snd
  | addMethodRef klass name desc =>
    have hklass := hs klass (by simp [strings])
    have hname := hs name (by simp [strings])
    have hdesc := hs desc (by simp [strings])
    exact (Editor.addMethodRef_yields h hklass hname hdesc).map_snd
  | prependToMethodCode name desc insertion extraStack =>
    exact (Editor.prependToMethodCode_yields h hfit).map_snd

/-- So does a sequence of edits. -/
lemma applyEdits_yields {ed : Editor} (h : ed.Sound) {edits : List Edit}
    (hs : ∀ e ∈ edits, ∀ s ∈ e.strings, s.length ≤ 65535) (hfit : LengthsFit ed edits) :
    Yields (applyEdits ed edits) Editor.Sound := by
  induction edits generalizing ed with
  | nil => exact Yields.ok h
  | cons e edits ih =>
    rcases Edit.apply_yields h (hs e List.mem_cons_self) hfit.1 with hdiv | ⟨ed', hed', hsound⟩
    · refine .inl ?_
      rw [applyEdits, List.foldlM_cons, hdiv]
      rfl
    · rw [applyEdits, List.foldlM_cons, hed']
      exact ih hsound (fun e' he' => hs e' (List.mem_cons_of_mem e he')) (hfit.2 ed' hed')

/-! ## Calls that return -/

lemma scan_of_le {cp : List CpEntry} (hcp : cp.length ≤ 65535) (f : CpEntry → Bool) :
    ∃ r, scan cp f = .ok r := by
  unfold scan
  split
  · exact ⟨_, rfl⟩
  · exact ⟨none, if_neg (by omega)⟩

/-- The call returns, and the pool has at most `n` more slots then. -/
def Returns {α : Type} (ed : Editor) (n : ℕ) (x : Except Fault (α × Editor)) : Prop :=
  ∃ r, x = .ok r ∧ r.2.cp.length ≤ ed.cp.length + n

namespace Returns

variable {α β : Type} {ed : Editor} {m n : ℕ} {x : Except Fault (α × Editor)}

lemma bind {f : α × Editor → Except Fault (β × Editor)} (h : Returns ed m x)
    (hf : ∀ r : α × Editor, r.2.cp.length ≤ ed.cp.length + m → Returns r.2 n (f r)) :
    Returns ed (m + n) (x >>= f) := by
  obtain ⟨r, rfl, hr⟩ := h
  obtain ⟨r', hr', hle⟩ := hf r hr
  exact ⟨r', hr', by omega⟩

lemma map_snd (h : Returns ed n x) : ∃ ed', x.map Prod.snd = .ok ed' := by
  obtain ⟨r, rfl, -⟩ := h
  exact ⟨r.2, rfl⟩

end Returns

namespace Editor

variable {ed : Editor}

lemma findUtf8_of_le (hcp : ed.cp.length ≤ 65535) (s : Bytes) : ∃ i, ed.findUtf8 s = .ok i := by
  obtain ⟨r, hr⟩ := scan_of_le hcp (CpEntry.isUtf8 s)
  exact ⟨r.getD 0, by rw [findUtf8, hr]; rfl⟩

lemma findOrAdd_returns (hcp : ed.cp.length ≤ 65535) (f : CpEntry → Bool) (tag : UInt8)
    (body : Bytes) : Returns ed 1 (ed.findOrAdd f tag body) := by
  obtain ⟨r, hr⟩ := scan_of_le hcp f
  rw [findOrAdd, hr]
  cases r with
  | some i => exact ⟨(i, ed), rfl, Nat.le_succ _⟩
  | none => exact ⟨ed.addRawEntry tag body, rfl, by simp [addRawEntry]⟩

lemma addUtf8_returns (hcp : ed.cp.length ≤ 65535) (s : Bytes) : Returns ed 1 (ed.addUtf8 s) := by
  obtain ⟨i, hi⟩ := findUtf8_of_le hcp s
  rw [addUtf8, hi]
  by_cases h0 : i = 0
  · subst h0
    exact ⟨ed.addRawEntry CP_Utf8 (wr16 (UInt16.ofNat s.length) ++ s), rfl, by simp [addRawEntry]⟩
  · exact ⟨(i, ed), if_pos h0, Nat.le_succ _⟩

lemma addClass_returns (hcp : ed.cp.length + 1 ≤ 65535) (internalName : Bytes) :
    Returns ed 2 (ed.addClass internalName) :=
  (addUtf8_returns (by omega) internalName).bind fun _ hr => findOrAdd_returns (by omega) _ _ _

lemma addNameAndType_returns (hcp : ed.cp.length + 2 ≤ 65535) (name desc : Bytes) :
    Returns ed 3 (ed.addNameAndType name desc) := by
  refine (addUtf8_returns (by omega) name).bind (n := 2) fun r hr => ?_
  exact (addUtf8_returns (by omega) desc).bind fun r' hr' => findOrAdd_returns (by omega) _ _ _

lemma addMethodRef_returns (hcp : ed.cp.length + 5 ≤ 65535) (klass name desc : Bytes) :
    Returns ed 6 (ed.addMethodRef klass name desc) := by
  refine (addClass_returns (by omega) klass).bind (n := 4) fun r hr => ?_
  exact (addNameAndType_returns (by omega) name desc).bind fun r' hr' =>
    findOrAdd_returns (by omega) _ _ _

lemma findTarget_of_le (hcp : ed.cp.length ≤ 65535) (name desc : Bytes) :
    ∃ t, ed.findTarget name desc = .ok t := by
  obtain ⟨nameIdx, hname⟩ := findUtf8_of_le hcp name
  obtain ⟨descIdx, hdesc⟩ := findUtf8_of_le hcp desc
  obtain ⟨r, hr, -⟩ := addUtf8_returns hcp (ascii "Code")
  rw [findTarget, hname, hdesc]
  change ∃ t, (if nameIdx = 0 ∨ descIdx = 0 then _ else _) = _
  split
  · exact ⟨none, rfl⟩
  · split
    · exact ⟨none, rfl⟩
    · split
      · exact ⟨none, rfl⟩
      · rename_i k _ _ m _
        rw [hr]
        exact ⟨some (k, m, r.1, r.2), rfl⟩

end Editor

/-- A call returns as long as the pool has room for what it may add. -/
lemma Edit.exists_apply {ed : Editor} (h : ed.Sound) {e : Edit} (hfit : e.LengthsFit ed)
    (hcp : ed.cp.length + 5 ≤ 65535) : ∃ ed', e.apply ed = .ok ed' := by
  cases e with
  | addUtf8 s => exact (Editor.addUtf8_returns (by omega) s).map_snd
  | addClass internalName => exact (Editor.addClass_returns (by omega) internalName).map_snd
  | addNameAndType name desc => exact (Editor.addNameAndType_returns (by omega) name desc).map_snd
  | addMethodRef klass name desc =>
    exact (Editor.addMethodRef_returns hcp klass name desc).map_snd
  | prependToMethodCode name desc insertion extraStack =>
    have hle : ed.cp.length ≤ 65535 := by omega
    obtain ⟨t, ht⟩ := Editor.findTarget_of_le hle name desc
    obtain ⟨r, hr, -⟩ := Editor.prependToMethodCode_of_findTarget h hfit ht
    exact ⟨r.2, by rw [apply, hr]; rfl⟩

lemma LengthsFit.append {ed : Editor} {edits edits' : List Edit}
    (h : LengthsFit ed (edits ++ edits')) : LengthsFit ed edits ∧
      ∀ ed', applyEdits ed edits = .ok ed' → LengthsFit ed' edits' := by
  induction edits generalizing ed with
  | nil =>
    refine ⟨trivial, fun ed' hed' => ?_⟩
    cases hed'
    exact h
  | cons e edits ih =>
    refine ⟨⟨h.1, fun ed' hed' => (ih (h.2 ed' hed')).1⟩, fun ed' hed' => ?_⟩
    rw [applyEdits, List.foldlM_cons] at hed'
    cases happly : e.apply ed with
    | error f =>
      rw [happly] at hed'
      cases hed'
    | ok ed₁ =>
      rw [happly] at hed'
      exact (ih (h.2 ed₁ happly)).2 ed' hed'

/-- An editor that parsed a well-formed class file, and then went through edits whose strings
and attribute lengths fit. -/
inductive Editor.Reachable : Editor → Prop where
  | parsed {ed : Editor} (L : Layout) (hL : L.WellFormed) (hparse : parse L.encode = .ok ed) :
      Editor.Reachable ed
  | edited {ed ed' : Editor} (hed : Editor.Reachable ed) (e : Edit)
      (hs : ∀ s ∈ e.strings, s.length ≤ 65535) (hfit : e.LengthsFit ed)
      (happly : e.apply ed = .ok ed') : Editor.Reachable ed'

lemma Editor.sound_of_parse {L : Layout} (hL : L.WellFormed) {ed : Editor}
    (hparse : parse L.encode = .ok ed) : ed.Sound := by
  obtain ⟨thisName, hname, hed⟩ := parse_encode L
  cases hparse.symm.trans hed
  exact Editor.sound_editor hL hname

lemma Editor.Reachable.sound {ed : Editor} (h : ed.Reachable) : ed.Sound := by
  induction h with
  | parsed L hL hparse => exact Editor.sound_of_parse hL hparse
  | edited _ e hs hfit happly ih => exact (Edit.apply_yields ih hs hfit).of_ok happly

/-! ## A sample class -/

/-- The code `iconst_0; tableswitch; return`. -/
def sampleCode : CodeBody where
  maxStack := 1
  maxLocals := 1
  code := [0x03, 0xAA, 0, 0, 0, 0, 0, 19, 0, 0, 0, 0, 0, 0, 0, 0, 0, 0, 0, 19, 0xB1]
  exceptions := []
  attributes := []

/-- A class `A` with a method `m` and a constant of two slots. -/
def sampleLayout : Layout where
  minorVersion := 0
  majorVersion := 65
  pool := [Constant.utf8 (ascii "A") (by decide), Constant.index 1,
    Constant.utf8 (ascii "m") (by decide), Constant.utf8 (ascii "()V") (by decide),
    Constant.utf8 (ascii "Code") (by decide), ⟨5, [0, 0, 0, 0, 0, 0, 0, 1], rfl⟩]
  accessFlags := 0x21
  thisClass := 2
  superClass := 0
  interfaces := []
  fields := []
  methods := [⟨1, 3, 4, [⟨5, writeCode sampleCode, by decide⟩], by decide⟩]
  rest := [0, 0]
  pool_lt := by decide
  interfaces_lt := by decide
  fields_lt := by decide
  methods_lt := by decide
  this_lt := by decide

lemma sampleLayout_wellFormed : sampleLayout.WellFormed := by
  constructor
  · intro m hm a ha
    simp only [sampleLayout, List.mem_singleton] at hm
    subst hm
    simp only [List.mem_singleton] at ha
    subst ha
    refine ⟨by decide, fun _ => ⟨sampleCode, rfl, ⟨?_, ?_, ?_, ?_⟩, ?_, ?_⟩⟩
    · decide
    · decide
    · decide
    · simp [sampleCode]
    · simp [sampleCode]
    · simp [sampleCode]
  · intro e he htag a b r hbody
    have he' : e = ⟨CP_Class, [0, 1], false⟩ := (Option.some.inj he).symm
    subst he'
    cases hbody
    decide

/-- The hook's edits of the sample class: a reference to the hook, and its call. -/
def sampleEdits : List Edit :=
  [.addMethodRef (ascii "H") (ascii "h") (ascii "()V"),
    .prependToMethodCode (ascii "m") (ascii "()V") [0x2A, 0x2B, 0xB8, 0, 12] 2]

/-- Edits of a well-formed class file survive serialising and parsing: the only way for a
sequence of calls not to return is a scan of a pool with more than 65535 slots, and each call
returns that finds a pool with room for what it may add. -/
theorem parse_serialize_applyEdits {L : Layout} (hL : L.WellFormed) {ed : Editor}
    (hparse : parse L.encode = .ok ed) {edits : List Edit}
    (hs : ∀ e ∈ edits, ∀ s ∈ e.strings, s.length ≤ 65535) (hfit : LengthsFit ed edits) :
    (∀ f, applyEdits ed edits = .error f → f = .diverges) ∧
      (∀ ed', applyEdits ed edits = .ok ed' → ed'.cp.length ≤ 65535 →
        ∃ bytes, ed'.serialize = .ok bytes ∧ parse bytes = .ok ed') ∧
      ∀ pre e post ed₁, edits = pre ++ e :: post → applyEdits ed pre = .ok ed₁ →
        ed₁.cp.length + 5 ≤ 65535 → ∃ ed₂, e.apply ed₁ = .ok ed₂ := by
  have hsound := Editor.sound_of_parse hL hparse
  have hyields := applyEdits_yields hsound hs hfit
  refine ⟨fun f hf => hyields.of_error hf,
    fun ed' hed' hcp => (hyields.of_ok hed').reparse hcp, ?_⟩
  rintro pre e post ed₁ rfl hed₁ hcp
  obtain ⟨hpre, hrest⟩ := hfit.append
  have hsound₁ := (applyEdits_yields hsound
    (fun e' he' => hs e' (List.mem_append_left _ he')) hpre).of_ok hed₁
  exact Edit.exists_apply hsound₁ (hrest ed₁ hed₁).1 hcp

theorem parse_serialize_applyEdits_sample : ∃ ed ed' bytes,
    parse sampleLayout.encode = .ok ed ∧ applyEdits ed sampleEdits = .ok ed' ∧
      ed'.serialize = .ok bytes ∧ parse bytes = .ok ed' := by
  obtain ⟨thisName, -, hparse⟩ := parse_encode sampleLayout
  have hthis : thisName = ascii "A" := by
    have h : parse sampleLayout.encode = .ok (sampleLayout.editor (ascii "A")) := by decide
    exact congrArg Editor.thisName (Except.ok.inj (hparse.symm.trans h))
  subst hthis
  have hstrings : ∀ e ∈ sampleEdits, ∀ s ∈ e.strings, s.length ≤ 65535 := by decide
  have hrun := (parse_serialize_applyEdits sampleLayout_wellFormed hparse hstrings (by decide)).2.1
  obtain ⟨ed', hed', hcp⟩ : ∃ ed', applyEdits (sampleLayout.editor (ascii "A")) sampleEdits =
      .ok ed' ∧ ed'.cp.length ≤ 65535 := ⟨_, rfl, by decide⟩
  obtain ⟨bytes, hbytes, hback⟩ := hrun ed' hed' hcp
  exact ⟨_, ed', bytes, hparse, hed', hbytes, hback⟩

end ClassFile
end SakuraTools
