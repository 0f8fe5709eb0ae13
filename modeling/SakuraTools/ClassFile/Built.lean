import SakuraTools.ClassFile.BuilderPool

/-!
# What is read of a built class file

After every sequence of calls, the bytes of `build` lay out a class file with the constants and
the methods that the calls asked for, and the editor reads them from there.
-/

namespace SakuraTools
namespace ClassFile

/-! ## What the calls ask for -/

/-- A method that a call adds, with its code if it has one. -/
structure Declared where
  name : Bytes
  descriptor : Bytes
  accessFlags : UInt16
  code : Option CodeBody

/-- The method that the call adds. -/
def Call.declares : Call → Option Declared
  | .addNativeMethod name descriptor accessFlags =>
    some ⟨name, descriptor, accessFlags ||| ACC_NATIVE, none⟩
  | .addCodedMethod name descriptor accessFlags code maxStack maxLocals =>
    some ⟨name, descriptor, accessFlags, some ⟨maxStack, maxLocals, code, [], []⟩⟩
  | _ => none

/-- The length of the Code attribute fits in 32 bits. -/
def Declared.Fits (d : Declared) : Prop := ∀ c ∈ d.code, (writeCode c).length < 4294967296

/-- The index that the call returns is that of the constant that it asks for. -/
def Call.Denotes (cp : List CpEntry) (call : Call) (idx : Option UInt16) : Prop :=
  match call with
  | .utf8 s => ∃ i, idx = some i ∧ Utf8At cp i s
  | .classRef internalName => ∃ i, idx = some i ∧ ClassAt cp i internalName
  | .nameAndType name desc => ∃ i, idx = some i ∧ NameAndTypeAt cp i name desc
  | .methodRef klass name desc => ∃ i, idx = some i ∧ RefAt CP_Methodref cp i klass name desc
  | .fieldRef klass name desc => ∃ i, idx = some i ∧ RefAt CP_Fieldref cp i klass name desc
  | .stringRef s => ∃ i, idx = some i ∧ StringAt cp i s
  | .addNativeMethod .. | .addCodedMethod .. | .setAccessFlags .. => idx = none

/-- The method is the one that was asked for: it has one Code attribute with its code, or no
attribute at all. -/
structure Declared.ReadAs (cp : List CpEntry) (d : Declared) (m : MethodInfo) : Prop where
  accessFlags : m.accessFlags = d.accessFlags
  name : Utf8At cp m.nameIndex d.name
  descriptor : Utf8At cp m.descriptorIndex d.descriptor
  native : d.code = none → readAttributes m.attributesRaw = .ok ([], [])
  coded : ∀ c ∈ d.code, ∃ i info, readAttributes m.attributesRaw = .ok ([(i, info)], []) ∧
    Utf8At cp i (ascii "Code") ∧ readCode info = .ok (c, [])

lemma Call.Denotes.mono {cp cp' : List CpEntry} (h : cp <+: cp') {call : Call}
    {idx : Option UInt16} (hd : call.Denotes cp idx) : call.Denotes cp' idx := by
  cases call with
  | utf8 s =>
    obtain ⟨i, rfl, hi⟩ := hd
    exact ⟨i, rfl, hi.mono h⟩
  | classRef internalName =>
    obtain ⟨i, rfl, hi⟩ := hd
    exact ⟨i, rfl, hi.mono h⟩
  | nameAndType name desc =>
    obtain ⟨i, rfl, hi⟩ := hd
    exact ⟨i, rfl, hi.mono h⟩
  | methodRef klass name desc =>
    obtain ⟨i, rfl, hi⟩ := hd
    exact ⟨i, rfl, hi.mono h⟩
  | fieldRef klass name desc =>
    obtain ⟨i, rfl, hi⟩ := hd
    exact ⟨i, rfl, hi.mono h⟩
  | stringRef s =>
    obtain ⟨i, rfl, hi⟩ := hd
    exact ⟨i, rfl, hi.mono h⟩
  | addNativeMethod | addCodedMethod | setAccessFlags => exact hd

/-! ## Methods of a builder -/

/-- The method that the builder keeps for a declared one. -/
structure Declared.KeptAs (cp : List CpEntry) (d : Declared) (m : BuilderMethod) : Prop where
  accessFlags : m.accessFlags = d.accessFlags
  name : Utf8At cp m.nameIndex d.name
  descriptor : Utf8At cp m.descriptorIndex d.descriptor
  native : d.code = none → m.codeAttr = []
  coded : ∀ c ∈ d.code, c.exceptions = [] ∧ c.attributes = [] ∧
    ∃ i, Utf8At cp i (ascii "Code") ∧ m.codeAttr = writeAttribute (i, writeCode c)

lemma Declared.KeptAs.mono {cp cp' : List CpEntry} (h : cp <+: cp') {d : Declared}
    {m : BuilderMethod} (hm : d.KeptAs cp m) : d.KeptAs cp' m where
  accessFlags := hm.accessFlags
  name := hm.name.mono h
  descriptor := hm.descriptor.mono h
  native := hm.native
  coded c hc := by
    obtain ⟨hexceptions, hattributes, i, hi, heq⟩ := hm.coded c hc
    exact ⟨hexceptions, hattributes, i, hi.mono h, heq⟩

namespace Builder

/-- The builder has kept the declared methods, and knows where the name "Code" is. -/
structure Holds (b : Builder) (ds : List Declared) : Prop extends Sound b where
  methods : List.Forall₂ (Declared.KeptAs b.slots) ds b.methods
  codeUtf8 : b.codeUtf8 = 0 ∨ Utf8At b.slots b.codeUtf8 (ascii "Code")

lemma Holds.grow {b b' : Builder} {ds : List Declared} (h : b.Holds ds) (hb' : b'.Sound)
    (hgrows : b.PoolGrows b') : b'.Holds ds where
  toSound := hb'
  methods := by
    rw [hgrows.methods]
    exact h.methods.imp fun _ _ hm => hm.mono hgrows.slots
  codeUtf8 := by
    rw [hgrows.codeUtf8]
    exact h.codeUtf8.imp_right fun hi => hi.mono hgrows.slots

/-- A call that adds no method. -/
lemma Holds.declares_none {b : Builder} {ds : List Declared} (h : b.Holds ds) {call : Call}
    (hcall : call.declares = none) : b.Holds (ds ++ call.declares.toList) := by
  rw [hcall, Option.toList_none, List.append_nil]
  exact h

lemma Grows.addMethod {b b' : Builder} (h : b.Grows b') (methods : List BuilderMethod) :
    b.Grows { b' with methods := methods } :=
  ⟨h.slots, h.utf8, h.classes, h.thisInternal, h.superInternal, h.majorVersion⟩

/-- One more method. -/
lemma Holds.addMethod {b : Builder} {ds : List Declared} (h : b.Holds ds) {d : Declared}
    {m : BuilderMethod} (hm : d.KeptAs b.slots m) :
    Holds { b with methods := b.methods ++ [m] } (ds ++ [d]) where
  toSound := ⟨h.size_le, h.entries, h.utf8, h.classes, h.nats, h.refs⟩
  methods := List.rel_append h.methods (.cons hm .nil)
  codeUtf8 := h.codeUtf8

lemma addNativeMethod_ok {b b' : Builder} {ds : List Declared} (hb : b.Holds ds)
    {name descriptor : Bytes} {accessFlags : UInt16}
    (h : b.addNativeMethod name descriptor accessFlags = .ok b') :
    b.Grows b' ∧ b'.Holds (ds ++ [⟨name, descriptor, accessFlags ||| ACC_NATIVE, none⟩]) := by
  obtain ⟨⟨j, b₁⟩, hname, h⟩ := bind_eq_ok h
  obtain ⟨⟨k, b₂⟩, hdesc, h⟩ := bind_eq_ok h
  cases h
  obtain ⟨hb₁, hgrows₁, hj⟩ := utf8_ok hb.toSound hname
  obtain ⟨hb₂, hgrows₂, hk⟩ := utf8_ok hb₁ hdesc
  have hgrows := hgrows₁.trans hgrows₂
  refine ⟨hgrows.toGrows.addMethod _, (hb.grow hb₂ hgrows).addMethod ⟨rfl, ?_, ?_, ?_, ?_⟩⟩
  · exact (hj.utf8At hb₁).mono hgrows₂.slots
  · exact hk.utf8At hb₂
  · exact fun _ => rfl
  · simp

lemma codeName_ok {b b' : Builder} {ds : List Declared} (hb : b.Holds ds)
    (h : b.codeName = .ok b') :
    b.Grows b' ∧ b'.Holds ds ∧ Utf8At b'.slots b'.codeUtf8 (ascii "Code") := by
  rw [codeName] at h
  split at h
  · obtain ⟨⟨i, b₁⟩, hutf8, h⟩ := bind_eq_ok h
    cases h
    obtain ⟨hb₁, hgrows, hi⟩ := utf8_ok hb.toSound hutf8
    have hcode : Utf8At b₁.slots i (ascii "Code") := hi.utf8At hb₁
    have hholds := hb.grow hb₁ hgrows
    refine ⟨⟨hgrows.slots, hgrows.utf8, hgrows.classes, hgrows.thisInternal,
      hgrows.superInternal, hgrows.majorVersion⟩, ⟨?_, hholds.methods, .inr hcode⟩, hcode⟩
    exact ⟨hb₁.size_le, hb₁.entries, hb₁.utf8, hb₁.classes, hb₁.nats, hb₁.refs⟩
  · rename_i hne
    cases h
    exact ⟨Grows.refl b, hb, hb.codeUtf8.resolve_left hne⟩

lemma addCodedMethod_ok {b b' : Builder} {ds : List Declared} (hb : b.Holds ds)
    {name descriptor code : Bytes} {accessFlags maxStack maxLocals : UInt16}
    (h : b.addCodedMethod name descriptor accessFlags code maxStack maxLocals = .ok b') :
    b.Grows b' ∧ b'.Holds
      (ds ++ [⟨name, descriptor, accessFlags, some ⟨maxStack, maxLocals, code, [], []⟩⟩]) := by
  obtain ⟨b₀, hcode, h⟩ := bind_eq_ok h
  obtain ⟨⟨j, b₁⟩, hname, h⟩ := bind_eq_ok h
  obtain ⟨⟨k, b₂⟩, hdesc, h⟩ := bind_eq_ok h
  cases h
  obtain ⟨hgrows₀, hb₀, hi⟩ := codeName_ok hb hcode
  obtain ⟨hb₁, hgrows₁, hj⟩ := utf8_ok hb₀.toSound hname
  obtain ⟨hb₂, hgrows₂, hk⟩ := utf8_ok hb₁ hdesc
  have hgrows := hgrows₁.trans hgrows₂
  refine ⟨(hgrows₀.trans hgrows.toGrows).addMethod _,
    (hb₀.grow hb₂ hgrows).addMethod ⟨rfl, ?_, ?_, ?_, ?_⟩⟩
  · exact (hj.utf8At hb₁).mono hgrows₂.slots
  · exact hk.utf8At hb₂
  · intro hnone
    cases hnone
  · rintro c ⟨⟩
    refine ⟨rfl, rfl, b₀.codeUtf8, hi.mono hgrows.slots, ?_⟩
    simp [writeAttribute, writeCode]

end Builder

/-! ## Runs -/

open Builder

/-- The index of a constant is what the call returns. -/
lemma map_index_ok {x : Except Fault (UInt16 × Builder)} {idx : Option UInt16} {b' : Builder}
    (h : x.map (fun r => (some r.1, r.2)) = .ok (idx, b')) :
    ∃ i, idx = some i ∧ x = .ok (i, b') := by
  cases x with
  | error e => cases h
  | ok r =>
    cases h
    exact ⟨r.1, rfl, rfl⟩

lemma map_none_ok {x : Except Fault Builder} {idx : Option UInt16} {b' : Builder}
    (h : x.map (fun b => (none, b)) = .ok (idx, b')) : idx = none ∧ x = .ok b' := by
  cases x with
  | error e => cases h
  | ok b =>
    cases h
    exact ⟨rfl, rfl⟩

/-- What one call does. -/
lemma Call.run_ok {b b' : Builder} {ds : List Declared} (hb : b.Holds ds) {call : Call}
    {idx : Option UInt16} (h : call.run b = .ok (idx, b')) :
    b.Grows b' ∧ b'.Holds (ds ++ call.declares.toList) ∧ call.Denotes b'.slots idx := by
  cases call with
  | utf8 s =>
    obtain ⟨i, rfl, hrun⟩ := map_index_ok h
    obtain ⟨hb', hgrows, hi⟩ := utf8_ok hb.toSound hrun
    exact ⟨hgrows.toGrows, (hb.grow hb' hgrows).declares_none rfl, i, rfl, hi.utf8At hb'⟩
  | classRef internalName =>
    obtain ⟨i, rfl, hrun⟩ := map_index_ok h
    obtain ⟨hb', hgrows, hi⟩ := classRef_ok hb.toSound hrun
    exact ⟨hgrows.toGrows, (hb.grow hb' hgrows).declares_none rfl, i, rfl, hi.classAt hb'⟩
  | nameAndType name desc =>
    obtain ⟨i, rfl, hrun⟩ := map_index_ok h
    obtain ⟨hb', hgrows, hi⟩ := nameAndType_ok hb.toSound hrun
    exact ⟨hgrows.toGrows, (hb.grow hb' hgrows).declares_none rfl, i, rfl, hi⟩
  | methodRef klass name desc =>
    obtain ⟨i, rfl, hrun⟩ := map_index_ok h
    obtain ⟨hb', hgrows, hi⟩ := ref_ok hb.toSound (.inl rfl) hrun
    exact ⟨hgrows.toGrows, (hb.grow hb' hgrows).declares_none rfl, i, rfl, hi⟩
  | fieldRef klass name desc =>
    obtain ⟨i, rfl, hrun⟩ := map_index_ok h
    obtain ⟨hb', hgrows, hi⟩ := ref_ok hb.toSound (.inr rfl) hrun
    exact ⟨hgrows.toGrows, (hb.grow hb' hgrows).declares_none rfl, i, rfl, hi⟩
  | stringRef s =>
    obtain ⟨i, rfl, hrun⟩ := map_index_ok h
    obtain ⟨hb', hgrows, hi⟩ := stringRef_ok hb.toSound hrun
    exact ⟨hgrows.toGrows, (hb.grow hb' hgrows).declares_none rfl, i, rfl, hi⟩
  | addNativeMethod name descriptor accessFlags =>
    obtain ⟨rfl, hrun⟩ := map_none_ok h
    obtain ⟨hgrows, hb'⟩ := addNativeMethod_ok hb hrun
    exact ⟨hgrows, hb', rfl⟩
  | addCodedMethod name descriptor accessFlags code maxStack maxLocals =>
    obtain ⟨rfl, hrun⟩ := map_none_ok h
    obtain ⟨hgrows, hb'⟩ := addCodedMethod_ok hb hrun
    exact ⟨hgrows, hb', rfl⟩
  | setAccessFlags flags =>
    cases h
    have hholds : (b.setAccessFlags flags).Holds ds :=
      ⟨⟨hb.size_le, hb.entries, hb.utf8, hb.classes, hb.nats, hb.refs⟩, hb.methods, hb.codeUtf8⟩
    refine ⟨?_, hholds.declares_none rfl, rfl⟩
    exact ⟨List.prefix_refl _, fun _ _ hi => hi, fun _ _ hi => hi, rfl, rfl, rfl⟩

/-- What a sequence of calls does. -/
lemma runCalls_ok {calls : List Call} {b b' : Builder} {ds : List Declared} (hb : b.Holds ds)
    {idxs : List (Option UInt16)} (h : runCalls b calls = .ok (idxs, b')) :
    b.Grows b' ∧ b'.Holds (ds ++ calls.filterMap Call.declares) ∧
      List.Forall₂ (Call.Denotes b'.slots) calls idxs := by
  induction calls generalizing b ds idxs with
  | nil =>
    cases h
    rw [List.filterMap_nil, List.append_nil]
    exact ⟨Grows.refl b', hb, .nil⟩
  | cons call calls ih =>
    obtain ⟨⟨idx, b₁⟩, hcall, h⟩ := bind_eq_ok h
    obtain ⟨⟨idxs₁, b₂⟩, hcalls, h⟩ := bind_eq_ok h
    cases h
    obtain ⟨hgrows, hb₁, hdenotes⟩ := Call.run_ok hb hcall
    obtain ⟨hgrows', hb₂, hrest⟩ := ih hb₁ hcalls
    refine ⟨hgrows.trans hgrows', ?_, .cons (hdenotes.mono hgrows'.slots) hrest⟩
    have hdeclares : (call :: calls).filterMap Call.declares =
        call.declares.toList ++ calls.filterMap Call.declares := by
      rw [List.filterMap_cons]
      cases call.declares with
      | none => rfl
      | some d => rfl
    rw [hdeclares, ← List.append_assoc]
    exact hb₂

/-! ## The class file -/

/-- The entries are constants of one slot. -/
lemma exists_pool {entries : List RawEntry}
    (h : ∀ e ∈ entries, cpBodySize e.tag e.body = .ok e.body.length ∧
      (e.tag == 5 || e.tag == 6) = false) :
    ∃ pool : List Constant, pool.flatMap Constant.slots = entries.map RawEntry.slot ∧
      pool.flatMap Constant.encode = entries.flatMap RawEntry.write := by
  induction entries with
  | nil => exact ⟨[], rfl, rfl⟩
  | cons e entries ih =>
    obtain ⟨pool, hslots, hencode⟩ := ih fun e he => h e (List.mem_cons_of_mem _ he)
    obtain ⟨hsize, hnarrow⟩ := h e List.mem_cons_self
    refine ⟨⟨e.tag, e.body, hsize⟩ :: pool, ?_, ?_⟩
    · rw [List.flatMap_cons, hslots]
      simp only [Constant.slots, Constant.wide, hnarrow]
      rfl
    · rw [List.flatMap_cons, hencode]
      rfl

/-- What `build` writes of a method is the method of a class file. -/
lemma exists_built_member {cp : List CpEntry} {d : Declared} {m : BuilderMethod}
    (h : d.KeptAs cp m) (hfits : d.Fits) :
    ∃ member : Member, member.encode = m.write ∧ d.ReadAs cp member.info := by
  cases hcode : d.code with
  | none =>
    refine ⟨⟨m.accessFlags, m.nameIndex, m.descriptorIndex, [], by decide⟩, ?_, ?_⟩
    · rw [BuilderMethod.write, h.native hcode]
      rfl
    · refine ⟨h.accessFlags, h.name, h.descriptor, fun _ => ?_, ?_⟩
      · exact (reads_readAttributes [] (by decide)).run
      · rw [hcode]
        simp
  | some c =>
    obtain ⟨hexceptions, hattributes, i, hi, hattr⟩ := h.coded c hcode
    have hlen := hfits c hcode
    have hcodeLen : c.code.length < 4294967296 := by
      rw [length_writeCode] at hlen
      omega
    have hc : c.Fits :=
      ⟨hcodeLen, by simp [hexceptions], by simp [hattributes], by simp [hattributes]⟩
    refine ⟨⟨m.accessFlags, m.nameIndex, m.descriptorIndex, [⟨i, writeCode c, hlen⟩], by simp⟩,
      ?_, ?_⟩
    · rw [BuilderMethod.write, hattr]
      simp [Member.encode, Member.encodeAttributes, Attribute.encode, writeAttribute, wr16]
    · refine ⟨h.accessFlags, h.name, h.descriptor, ?_, ?_⟩
      · rw [hcode]
        exact fun hnone => absurd hnone (Option.some_ne_none c)
      · intro c' hc'
        obtain rfl := Option.some.inj (hcode.symm.trans hc')
        refine ⟨i, writeCode c, ?_, hi, (reads_readCode hc).run⟩
        exact (reads_readAttributes [⟨i, writeCode c, hlen⟩] (by simp)).run

lemma exists_built_members {cp : List CpEntry} {ds : List Declared} {ms : List BuilderMethod}
    (h : List.Forall₂ (Declared.KeptAs cp) ds ms) (hfits : ∀ d ∈ ds, d.Fits) :
    ∃ members : List Member, members.length = ms.length ∧
      members.flatMap Member.encode = ms.flatMap BuilderMethod.write ∧
      List.Forall₂ (Declared.ReadAs cp) ds (members.map Member.info) := by
  induction h with
  | nil => exact ⟨[], rfl, rfl, .nil⟩
  | @cons d m ds ms hdm hrest ih =>
    obtain ⟨member, hencode, hread⟩ := exists_built_member hdm (hfits d List.mem_cons_self)
    obtain ⟨members, hlen, hencodes, hreads⟩ := ih fun d hd => hfits d (List.mem_cons_of_mem _ hd)
    refine ⟨member :: members, ?_, ?_, .cons hread hreads⟩
    · rw [List.length_cons, List.length_cons, hlen]
    · rw [List.flatMap_cons, List.flatMap_cons, hencode, hencodes]

/-- The name of a class is read from its constant. -/
lemma readThisName_of_classAt {cp : List CpEntry} {i : UInt16} {name : Bytes}
    (h : ClassAt cp i name) : readThisName cp i = .ok name := by
  obtain ⟨j, ⟨hi, he⟩, hj, e, hname, hutf8⟩ := h
  rw [readThisName, if_neg hi, he]
  change cpUtf8Value cp (be16 _ _) = _
  rw [be16_wr16]
  exact cpUtf8Value_of_isUtf8 hj hname hutf8

/-- What `build` does: it adds the two classes, and writes what there is. -/
lemma build_ok {b b' : Builder} (hb : b.Sound) {bytes : Bytes}
    (h : b.build = .ok (bytes, b')) :
    b'.Sound ∧ b.PoolGrows b' ∧ ∃ thisClass superClass, b'.KnowsClass b.thisInternal thisClass ∧
      b'.KnowsClass b.superInternal superClass ∧ bytes = b'.write thisClass superClass := by
  obtain ⟨⟨thisClass, b₁⟩, hthis, h⟩ := bind_eq_ok h
  obtain ⟨⟨superClass, b₂⟩, hsuper, h⟩ := bind_eq_ok h
  cases h
  obtain ⟨hb₁, hgrows₁, hthis'⟩ := classRef_ok hb hthis
  obtain ⟨hb₂, hgrows₂, hsuper'⟩ := classRef_ok hb₁ hsuper
  rw [hgrows₁.superInternal] at hsuper'
  exact ⟨hb₂, hgrows₁.trans hgrows₂, thisClass, superClass, hthis'.mono hgrows₂.toGrows, hsuper',
    rfl⟩

/-- Once the two classes are in the pool, `build` adds nothing. -/
lemma build_again {b : Builder} {thisClass superClass : UInt16}
    (hthis : b.KnowsClass b.thisInternal thisClass)
    (hsuper : b.KnowsClass b.superInternal superClass) :
    b.build = .ok (b.write thisClass superClass, b) := by
  rw [build, hthis.run]
  change ((b.classRef b.superInternal).bind fun r => .ok (r.2.write thisClass r.1, r.2)) = _
  rw [hsuper.run]
  rfl

/-- What is written is a class file with the entries of the pool, the two classes and the
declared methods. -/
lemma exists_layout {b : Builder} {ds : List Declared} (hb : b.Holds ds)
    (hmethods : ds.length ≤ 65535) (hfits : ∀ d ∈ ds, d.Fits) {thisClass : UInt16} {name : Bytes}
    (hthis : ClassAt b.slots thisClass name) (superClass : UInt16) :
    ∃ L : Layout, L.encode = b.write thisClass superClass ∧ poolSlots L.pool = b.slots ∧
      L.minorVersion = 0 ∧ L.majorVersion = b.majorVersion ∧ L.accessFlags = b.accessFlags ∧
      L.thisClass = thisClass ∧ L.superClass = superClass ∧ L.interfaces = [] ∧ L.fields = [] ∧
      List.Forall₂ (Declared.ReadAs b.slots) ds (L.methods.map Member.info) := by
  obtain ⟨pool, hslots, hpool⟩ := exists_pool hb.entries
  obtain ⟨members, hlen, hencode, hreads⟩ := exists_built_members hb.methods hfits
  have hpoolSlots : poolSlots pool = b.slots := by rw [poolSlots, hslots, slots]
  have hsize : (poolSlots pool).length = b.cp.length + 1 := by
    rw [hpoolSlots, slots, List.length_cons, List.length_map]
  have hle := hb.size_le
  have hcount := hb.methods.length_eq
  obtain ⟨j, ⟨-, hentry⟩, -⟩ := hthis
  obtain ⟨hlt, -⟩ := List.getElem?_eq_some_iff.mp hentry
  refine ⟨⟨0, b.majorVersion, pool, b.accessFlags, thisClass, superClass, [], [], members,
    wr16 0, by omega, by decide, by decide, by omega, by rw [hpoolSlots]; exact hlt⟩,
    ?_, hpoolSlots, rfl, rfl, rfl, rfl, rfl, rfl, rfl, hreads⟩
  simp only [Layout.encode, Layout.encodeFields, hsize, hpool, hencode, hlen, Builder.write,
    List.flatMap_nil, List.append_nil, List.length_nil]
  rfl

/-- The editor reads from a built class file what the builder was asked for, at the indices that
the builder returned, and building again gives the same bytes. -/
theorem build_parse {thisInternal superInternal : Bytes} {majorVersion : UInt16}
    {calls : List Call} {idxs : List (Option UInt16)} {b b' : Builder} {bytes : Bytes}
    (hrun : runCalls (new thisInternal superInternal majorVersion) calls = .ok (idxs, b))
    (hmethods : (calls.filterMap Call.declares).length ≤ 65535)
    (hfits : ∀ d ∈ calls.filterMap Call.declares, d.Fits)
    (hbuild : b.build = .ok (bytes, b')) :
    b'.build = .ok (bytes, b') ∧ ∃ ed, parse bytes = .ok ed ∧
      ed.cp = b'.slots ∧ b.slots <+: ed.cp ∧ List.Forall₂ (Call.Denotes ed.cp) calls idxs ∧
      ed.minorVersion = 0 ∧ ed.majorVersion = majorVersion ∧ ed.accessFlags = b.accessFlags ∧
      ed.thisName = thisInternal ∧ ClassAt ed.cp ed.thisClass thisInternal ∧
      ClassAt ed.cp ed.superClass superInternal ∧ ed.interfaces = [] ∧ ed.fieldsRaw = wr16 0 ∧
      List.Forall₂ (Declared.ReadAs ed.cp) (calls.filterMap Call.declares) ed.methods := by
  have hnew : (new thisInternal superInternal majorVersion).Holds [] :=
    ⟨sound_new thisInternal superInternal majorVersion, .nil, .inl rfl⟩
  obtain ⟨hgrows, hb, hdenotes⟩ := runCalls_ok hnew hrun
  rw [List.nil_append] at hb
  obtain ⟨hb', hgrows', thisClass, superClass, hthis, hsuper, rfl⟩ := build_ok hb.toSound hbuild
  have hname : b.thisInternal = thisInternal := hgrows.thisInternal
  have hsuperName : b.superInternal = superInternal := hgrows.superInternal
  have hmajor : b'.majorVersion = majorVersion := hgrows'.majorVersion.trans hgrows.majorVersion
  constructor
  · rw [← hgrows'.thisInternal] at hthis
    rw [← hgrows'.superInternal] at hsuper
    exact build_again hthis hsuper
  · rw [hname] at hthis
    rw [hsuperName] at hsuper
    have hclass := hthis.classAt hb'
    obtain ⟨L, hencode, hpool, hminor, hversion, hflags, hthis', hsuper', hinterfaces, hfields,
      hreads⟩ := exists_layout (hb.grow hb' hgrows') hmethods hfits hclass superClass
    obtain ⟨thisName, hread, hparse⟩ := parse_encode L
    rw [hpool, hthis', readThisName_of_classAt hclass] at hread
    obtain rfl := Except.ok.inj hread
    rw [← hencode]
    have hcp : (L.editor thisInternal).cp = b'.slots := hpool
    refine ⟨_, hparse, hcp, ?_, ?_, hminor, hversion.trans hmajor,
      hflags.trans hgrows'.accessFlags, rfl, ?_, ?_, hinterfaces, ?_, ?_⟩
    · rw [hcp]
      exact hgrows'.slots
    · rw [hcp]
      exact hdenotes.imp fun _ _ hd => hd.mono hgrows'.slots
    · change ClassAt (L.editor thisInternal).cp L.thisClass _
      rw [hcp, hthis']
      exact hclass
    · change ClassAt (L.editor thisInternal).cp L.superClass _
      rw [hcp, hsuper']
      exact hsuper.classAt hb'
    · change L.encodeFields = _
      rw [Layout.encodeFields, hfields]
      rfl
    · rw [hcp]
      exact hreads

/-- A class with a reference, a native method and a method with code. -/
def sampleCalls : List Call :=
  [.methodRef (ascii "H") (ascii "h") (ascii "()V"), .fieldRef (ascii "H") (ascii "f") (ascii "I"),
    .stringRef (ascii "s"), .addNativeMethod (ascii "n") (ascii "()V") 9,
    .addCodedMethod (ascii "m") (ascii "()V") 1 [0xB1] 0 1, .setAccessFlags 0x31]

theorem build_parse_sample : ∃ idxs b b' bytes,
    runCalls (new (ascii "A") (ascii "java/lang/Object")) sampleCalls = .ok (idxs, b) ∧
      b.build = .ok (bytes, b') ∧ b'.build = .ok (bytes, b') ∧
      ∃ ed, parse bytes = .ok ed ∧ ed.thisName = ascii "A" ∧
        List.Forall₂ (Call.Denotes ed.cp) sampleCalls idxs := by
  obtain ⟨idxs, b, hrun⟩ : ∃ idxs b,
      runCalls (new (ascii "A") (ascii "java/lang/Object")) sampleCalls = .ok (idxs, b) :=
    ⟨_, _, rfl⟩
  obtain ⟨bytes, b', hbuild⟩ : ∃ bytes b', b.build = .ok (bytes, b') := by
    cases hrun
    exact ⟨_, _, rfl⟩
  have hfits : ∀ d ∈ sampleCalls.filterMap Call.declares, d.Fits := by
    intro d hd
    simp only [sampleCalls, List.filterMap_cons, Call.declares, List.filterMap_nil, List.mem_cons,
      List.not_mem_nil, or_false] at hd
    rcases hd with rfl | rfl
    · intro c hc
      cases hc
    · rintro c ⟨⟩
      decide
  obtain ⟨hagain, ed, hparse, -, -, hdenotes, -, -, -, hname, -⟩ :=
    build_parse hrun (by decide) hfits hbuild
  exact ⟨idxs, b, b', bytes, hrun, hbuild, hagain, ed, hparse, hname, hdenotes⟩

end ClassFile
end SakuraTools
