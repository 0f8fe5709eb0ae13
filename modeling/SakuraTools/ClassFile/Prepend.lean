import SakuraTools.ClassFile.CodeTables
import SakuraTools.ClassFile.Lookup

/-!
# Putting instructions in front of a method

What `prependToMethodCode` makes of a class that the JVM accepts: the insertion comes in front
of the code, every table of the method moves with the code, and nothing else changes.  All of
this needs the new code to be short enough for 16-bit offsets, which the editor does not check.
-/

namespace SakuraTools
namespace ClassFile

/-! ## Legal class files -/

/-- A class file that the JVM accepts, as far as the code of its methods is concerned.  The JVM
hands the bytes of a class to the hook with a length of type `jint`. -/
structure Layout.Legal (L : Layout) : Prop extends L.WellFormed where
  code : ∀ m ∈ L.methods, ∀ a ∈ m.attributes,
    cpUtf8Value (poolSlots L.pool) a.name = .ok (ascii "Code") →
      ∃ c : CodeBody, a.info = writeCode c ∧ c.Legal (poolSlots L.pool)
  size_lt : L.encode.length < 2147483648

lemma length_le_flatMap {α β : Type} (f : α → List β) {l : List α} {x : α} (hx : x ∈ l) :
    (f x).length ≤ (l.flatMap f).length := by
  rw [List.flatMap_def]
  exact (List.sublist_flatten_of_mem (List.mem_map_of_mem hx)).length_le

lemma Layout.length_encode (L : Layout) : L.encode.length =
    20 + (L.pool.flatMap Constant.encode).length + (L.interfaces.flatMap wr16).length +
      L.encodeFields.length + (L.methods.flatMap Member.encode).length + L.rest.length := by
  simp only [Layout.encode, List.length_append, length_wr16, length_wr32]
  omega

lemma length_info_le {L : Layout} {m : Member} (hm : m ∈ L.methods) {a : Attribute}
    (ha : a ∈ m.attributes) : a.info.length ≤ L.encode.length := by
  have hattr := length_le_flatMap Attribute.encode ha
  have hmember := length_le_flatMap Member.encode hm
  simp only [Attribute.encode, Member.encode, Member.encodeAttributes, List.length_append]
    at hattr hmember
  rw [Layout.length_encode]
  omega

/-- The bytes of a Code attribute tell what it is. -/
lemma CodeBody.Fits.inj {c c' : CodeBody} (hc : c.Fits) (hc' : c'.Fits)
    (h : writeCode c = writeCode c') : c = c' := by
  have hread := (reads_readCode hc).run
  rw [h, (reads_readCode hc').run] at hread
  exact (Prod.mk.inj (Except.ok.inj hread)).1.symm

/-! ## Exact offsets -/

lemma toNat_add_delta {v : UInt16} {n : ℕ} (h : v.toNat + n ≤ 65535) :
    (v.toUInt32 + UInt32.ofNat n).toUInt16.toNat = v.toNat + n := by
  rw [UInt32.toNat_toUInt16, UInt32.toNat_add, UInt16.toNat_toUInt32, UInt32.toNat_ofNat']
  omega

/-- The handler `e'` is `e`, with everything `n` bytes later. -/
structure ExceptionEntry.Exact (n : ℕ) (e e' : ExceptionEntry) : Prop where
  start_eq : e'.startPc.toNat = e.startPc.toNat + n
  end_eq : e'.endPc.toNat = e.endPc.toNat + n
  handler_eq : e'.handler.toNat = e.handler.toNat + n
  catch_eq : e'.catchTyp = e.catchTyp

/-- The line `l'` is `l`, `n` bytes later. -/
structure LineNumber.Exact (n : ℕ) (l l' : LineNumber) : Prop where
  start_eq : l'.startPc.toNat = l.startPc.toNat + n
  line_eq : l'.lineNumber = l.lineNumber

/-- The variable `v'` is `v`, `n` bytes later; or `n` bytes longer, when it is there from the
start. -/
structure LocalVariable.Exact (n : ℕ) (v v' : LocalVariable) : Prop where
  start_eq : v'.startPc.toNat = v.startPc.toNat + if v.startPc = 0 then 0 else n
  length_eq : v'.length.toNat = v.length.toNat + if v.startPc = 0 then n else 0
  rest_eq : v'.nameIndex = v.nameIndex ∧ v'.descriptorIndex = v.descriptorIndex ∧
    v'.index = v.index

/-- The offsets of a table are those of the old one, `n` bytes later. -/
structure ExactTable (n : ℕ) (name info info' : Bytes) : Prop where
  frames : name = ascii "StackMapTable" → ∃ frames frames',
    readStackMap info = .ok (frames, []) ∧ readStackMap info' = .ok (frames', []) ∧
      frameOffsets frames' = (frameOffsets frames).map (· + n)
  lines : name = ascii "LineNumberTable" → ∃ lines lines',
    readLineNumberTable info = .ok (lines, []) ∧ readLineNumberTable info' = .ok (lines', []) ∧
      List.Forall₂ (LineNumber.Exact n) lines lines'
  locals : name = ascii "LocalVariableTable" ∨ name = ascii "LocalVariableTypeTable" →
    ∃ vars vars', readLocalVariableTable info = .ok (vars, []) ∧
      readLocalVariableTable info' = .ok (vars', []) ∧
      List.Forall₂ (LocalVariable.Exact n) vars vars'

/-- The code `c'` is `n` bytes longer than `c`, in the limits of the JVM, and every offset in it
is the old one plus `n`. -/
structure ExactOffsets (cp : List CpEntry) (n : ℕ) (c c' : CodeBody) : Prop where
  length_eq : c'.code.length = c.code.length + n
  length_le : c'.code.length ≤ 65535
  exceptions : List.Forall₂ (ExceptionEntry.Exact n) c.exceptions c'.exceptions
  tables : List.Forall₂ (fun a a' => a'.1 = a.1 ∧
    ∀ name, cpUtf8Value cp a.1 = .ok name → ExactTable n name a.2 a'.2) c.attributes c'.attributes

section Exact

variable {codeLength n : ℕ}

lemma patchException_exact {e : ExceptionEntry} (h : e.Legal codeLength)
    (hfit : codeLength + n ≤ 65535) : e.Exact n (patchException (UInt32.ofNat n) e) := by
  have hstart := h.start_lt
  have hend := h.end_le
  have hhandler := h.handler_lt
  exact ⟨toNat_add_delta (by omega), toNat_add_delta (by omega), toNat_add_delta (by omega), rfl⟩

lemma LineNumber.exact_move {l : LineNumber} (h : l.startPc.toNat < codeLength)
    (hfit : codeLength + n ≤ 65535) : l.Exact n (l.move (UInt32.ofNat n)) :=
  ⟨toNat_add_delta (by omega), rfl⟩

lemma LocalVariable.exact_move {v : LocalVariable}
    (h : v.startPc.toNat + v.length.toNat ≤ codeLength) (hfit : codeLength + n ≤ 65535) :
    v.Exact n (v.move (UInt32.ofNat n)) := by
  rw [LocalVariable.move]
  by_cases hstart : v.startPc = 0
  · rw [if_pos hstart]
    refine ⟨?_, ?_, rfl, rfl, rfl⟩
    · rw [if_pos hstart, Nat.add_zero]
    · rw [if_pos hstart]
      exact toNat_add_delta (by omega)
  · rw [if_neg hstart]
    refine ⟨?_, ?_, rfl, rfl, rfl⟩
    · rw [if_neg hstart]
      exact toNat_add_delta (by omega)
    · rw [if_neg hstart, Nat.add_zero]

/-- The offsets of a table of legal code do not wrap when the new code is legal. -/
lemma ShiftedTable.exact {name info info' : Bytes}
    (h : ShiftedTable (UInt32.ofNat n) name info info') (hinfo : LegalTable codeLength name info)
    (hfit : codeLength + n ≤ 65535) : ExactTable n name info info' := by
  have hn : (UInt32.ofNat n).toNat = n := toNat_ofNat_u4 (by omega)
  refine ⟨fun hname => ?_, fun hname => ?_, fun hname => ?_⟩
  · obtain ⟨frames, hread, hlt⟩ := hinfo.frames hname
    obtain ⟨body, hbody, hread', -⟩ := shiftStackMap_reads hread (UInt32.ofNat n)
    cases (h.frames hname).symm.trans hbody
    refine ⟨frames, _, hread, hread', ?_⟩
    have hfirst : ∀ f ∈ frames.head?,
        f.offsetDelta.toNat + (UInt32.ofNat n).toNat ≤ 65535 := by
      intro f hf
      rcases frames with _ | ⟨f₀, fs⟩
      · cases hf
      · cases hf
        have := hlt _ List.mem_cons_self
        omega
    rw [frameOffsets_moveFirst hfirst, hn]
  · obtain ⟨lines, hread, hlt⟩ := hinfo.lines hname
    rw [h.lines hname]
    refine ⟨lines, _, hread, (shiftLineNumberTable_reads hread _).1, ?_⟩
    rw [List.forall₂_map_right_iff, List.forall₂_same]
    exact fun l hl => LineNumber.exact_move (hlt l hl) hfit
  · obtain ⟨vars, hread, hle⟩ := hinfo.locals hname
    rw [h.locals hname]
    refine ⟨vars, _, hread, (shiftLocalVarTable_reads hread _).1, ?_⟩
    rw [List.forall₂_map_right_iff, List.forall₂_same]
    exact fun v hv => LocalVariable.exact_move (hle v hv) hfit

end Exact

/-! ## The patched Code attribute -/

lemma forall₂_mem_left {α β : Type} {R : α → β → Prop} {l : List α} {l' : List β}
    (h : List.Forall₂ R l l') : List.Forall₂ (fun a b => a ∈ l ∧ R a b) l l' :=
  (List.forall₂_and_left l l').mpr ⟨fun _ ha => ha, h⟩

/-- Mapping a fallible function that has succeeded on every element. -/
lemma forall₂_of_mapM {ε α β : Type} {f : α → Except ε β} {l : List α} {ys : List β}
    (h : l.mapM f = .ok ys) : List.Forall₂ (fun x y => f x = .ok y) l ys := by
  induction l generalizing ys with
  | nil =>
    cases h
    exact .nil
  | cons x l ih =>
    rw [List.mapM_cons] at h
    cases hx : f x with
    | error e =>
      rw [hx] at h
      cases h
    | ok y =>
      cases hl : l.mapM f with
      | error e =>
        rw [hx, hl] at h
        cases h
      | ok zs =>
        rw [hx, hl] at h
        cases h
        exact .cons hx (ih hl)

/-- What `patchCode` returns. -/
lemma patchCode_eq {cp : List CpEntry} {insertion : Bytes} {extraStack : UInt16}
    {c c' : CodeBody} (h : patchCode cp insertion extraStack c = .ok c') :
    List.Forall₂ (Shifted cp (UInt32.ofNat insertion.length)) c.attributes c'.attributes ∧
      c' =
        { maxStack := if extraStack > c.maxStack then extraStack else c.maxStack
          maxLocals := c.maxLocals
          code := insertion ++ c.code
          exceptions := c.exceptions.map (patchException (UInt32.ofNat insertion.length))
          attributes := c'.attributes } := by
  cases hmap : c.attributes.mapM (patchAttribute cp (UInt32.ofNat insertion.length)) with
  | error e =>
    rw [patchCode, hmap] at h
    cases h
  | ok attributes =>
    rw [patchCode, hmap] at h
    cases h
    exact ⟨(forall₂_of_mapM hmap).imp fun a b hab => patchAttribute_shifted hab, rfl⟩

/-- The offsets of patched legal code are exact when the new code is legal. -/
lemma exactOffsets_of_patchCode {cp : List CpEntry} {insertion : Bytes} {extraStack : UInt16}
    {c c' : CodeBody} (hc : c.Legal cp) (hfit : c.code.length + insertion.length ≤ 65535)
    (h : patchCode cp insertion extraStack c = .ok c') :
    ExactOffsets cp insertion.length c c' := by
  obtain ⟨hattributes, heq⟩ := patchCode_eq h
  have hcode : c'.code = insertion ++ c.code := by rw [heq]
  have hlength : c'.code.length = c.code.length + insertion.length := by
    rw [hcode, List.length_append]
    omega
  have hexceptions : c'.exceptions =
      c.exceptions.map (patchException (UInt32.ofNat insertion.length)) := by rw [heq]
  refine ⟨hlength, hlength ▸ hfit, ?_, ?_⟩
  · rw [hexceptions, List.forall₂_map_right_iff, List.forall₂_same]
    exact fun e he => patchException_exact (hc.exceptions e he) hfit
  · refine (forall₂_mem_left hattributes).imp ?_
    rintro a b ⟨ha, hab⟩
    exact ⟨hab.name_eq, fun name hname =>
      (hab.table name hname).exact (hc.tables a ha name hname) hfit⟩

lemma length_writeAttributes_le {l l' : List (UInt16 × Bytes)}
    (h : List.Forall₂ (fun a b => b.2.length ≤ a.2.length + 2) l l') :
    (l'.flatMap writeAttribute).length ≤ (l.flatMap writeAttribute).length + 2 * l.length := by
  induction h with
  | nil => exact Nat.le_refl 0
  | cons hab _ ih =>
    simp only [List.flatMap_cons, List.length_append, List.length_cons, writeAttribute,
      length_wr16, length_wr32]
    omega

/-- A patched Code attribute of a class file of the JVM's size has a 32-bit length. -/
lemma length_writeCode_lt {cp : List CpEntry} {insertion : Bytes} {extraStack : UInt16}
    {c c' : CodeBody} (hc : c.Legal cp)
    (hnames : ∀ a ∈ c.attributes, ∃ s, cpUtf8Value cp a.1 = .ok s)
    (hfit : c.code.length + insertion.length ≤ 65535)
    (hsize : (writeCode c).length < 2147483648)
    (h : patchCode cp insertion extraStack c = .ok c') : (writeCode c').length < 4294967296 := by
  obtain ⟨hattributes, heq⟩ := patchCode_eq h
  have hcode : c'.code = insertion ++ c.code := by rw [heq]
  have hexceptions : c'.exceptions.length = c.exceptions.length := by
    rw [heq]
    exact List.length_map _
  have hgrowth : List.Forall₂ (fun a b : UInt16 × Bytes => b.2.length ≤ a.2.length + 2)
      c.attributes c'.attributes := by
    refine (forall₂_mem_left hattributes).imp ?_
    rintro a b ⟨ha, hab⟩
    obtain ⟨name, hname⟩ := hnames a ha
    exact (hab.table name hname).length_le (hc.tables a ha name hname)
  have hcount := hc.attributes_lt
  have hle := length_writeAttributes_le hgrowth
  rw [length_writeCode] at hsize ⊢
  rw [hcode, hexceptions, List.length_append]
  omega

/-! ## The selected method -/

/-- Whether the handler covers the instruction at `pc`. -/
def ExceptionEntry.covers (pc : ℕ) (e : ExceptionEntry) : Bool :=
  decide (e.startPc.toNat ≤ pc ∧ pc < e.endPc.toNat)

/-- The handlers that cover the instruction at `pc`, in their order, with what they catch. -/
def CodeBody.handlersAt (c : CodeBody) (pc : ℕ) : List (ℕ × UInt16) :=
  (c.exceptions.filter (ExceptionEntry.covers pc)).map fun e => (e.handler.toNat, e.catchTyp)

/-- The code `c'` is `c` with the insertion in front of it. -/
structure PrependSpec (cp : List CpEntry) (insertion : Bytes) (extraStack : UInt16)
    (c c' : CodeBody) : Prop where
  code_eq : c'.code = insertion ++ c.code
  maxStack_eq : c'.maxStack.toNat = max c.maxStack.toNat extraStack.toNat
  maxLocals_eq : c'.maxLocals = c.maxLocals
  attributes : List.Forall₂ (Shifted cp (UInt32.ofNat insertion.length)) c.attributes c'.attributes
  handlers_inserted : ∀ pc < insertion.length, c'.handlersAt pc = []
  handlers_moved : ∀ pc, c'.handlersAt (pc + insertion.length) =
    (c.handlersAt pc).map fun h => (h.1 + insertion.length, h.2)

/-- What becomes of an attribute of the selected method: a Code attribute is decoded, patched and
encoded again, any other is copied. -/
def PrependedAttribute (cp : List CpEntry) (codeUtf8 : UInt16) (insertion : Bytes)
    (extraStack : UInt16) (a a' : Attribute) : Prop :=
  a'.name = a.name ∧
    if a.name = codeUtf8 then ∃ c c', readCode a.info = .ok (c, []) ∧
      readCode a'.info = .ok (c', []) ∧ PrependSpec cp insertion extraStack c c'
    else a'.info = a.info

lemma handlersAt_moved {n : ℕ} {c c' : CodeBody}
    (h : List.Forall₂ (ExceptionEntry.Exact n) c.exceptions c'.exceptions) (pc : ℕ) :
    c'.handlersAt (pc + n) = (c.handlersAt pc).map fun h => (h.1 + n, h.2) := by
  rw [CodeBody.handlersAt, CodeBody.handlersAt]
  generalize c.exceptions = es at h ⊢
  generalize c'.exceptions = es' at h ⊢
  induction h with
  | nil => rfl
  | @cons e e' es es' he _ ih =>
    have hcovers : e'.covers (pc + n) = e.covers pc := by
      simp only [ExceptionEntry.covers, he.start_eq, he.end_eq, Nat.add_le_add_iff_right,
        Nat.add_lt_add_iff_right]
    rw [List.filter_cons, List.filter_cons, hcovers]
    cases e.covers pc with
    | false => exact ih
    | true =>
      simp only [if_true, List.map_cons, he.handler_eq, he.catch_eq, ih]

lemma handlersAt_inserted {n : ℕ} {c c' : CodeBody}
    (h : List.Forall₂ (ExceptionEntry.Exact n) c.exceptions c'.exceptions) {pc : ℕ}
    (hpc : pc < n) : c'.handlersAt pc = [] := by
  rw [CodeBody.handlersAt, List.map_eq_nil_iff, List.filter_eq_nil_iff]
  intro e' he' hcovers
  obtain ⟨e, -, he⟩ := exists_of_forall₂ h he'
  have hstart := he.start_eq
  rw [ExceptionEntry.covers, decide_eq_true_eq] at hcovers
  omega

lemma prependSpec_of_patchCode {cp : List CpEntry} {insertion : Bytes} {extraStack : UInt16}
    {c c' : CodeBody} (hc : c.Legal cp) (hfit : c.code.length + insertion.length ≤ 65535)
    (h : patchCode cp insertion extraStack c = .ok c') :
    PrependSpec cp insertion extraStack c c' := by
  obtain ⟨hattributes, heq⟩ := patchCode_eq h
  have hexact := (exactOffsets_of_patchCode hc hfit h).exceptions
  refine ⟨by rw [heq], ?_, by rw [heq], hattributes, fun pc hpc => handlersAt_inserted hexact hpc,
    handlersAt_moved hexact⟩
  rw [heq]
  by_cases hgt : extraStack > c.maxStack
  · rw [if_pos hgt]
    exact (Nat.max_eq_right (UInt16.le_of_lt hgt)).symm
  · rw [if_neg hgt]
    exact (Nat.max_eq_left (UInt16.not_lt.mp hgt)).symm

/-- What the editor makes of an attribute of a legal method, when the new code is legal. -/
def PatchedAttribute (cp : List CpEntry) (codeUtf8 : UInt16) (insertion : Bytes)
    (extraStack : UInt16) (a a' : Attribute) : Prop :=
  a'.name = a.name ∧
    if a.name = codeUtf8 then ∃ c c', c.Legal cp ∧ c.code.length + insertion.length ≤ 65535 ∧
      readCode a.info = .ok (c, []) ∧ readCode a'.info = .ok (c', []) ∧
      patchCode cp insertion extraStack c = .ok c'
    else a'.info = a.info

lemma PatchedAttribute.prepended {cp : List CpEntry} {codeUtf8 : UInt16} {insertion : Bytes}
    {extraStack : UInt16} {a a' : Attribute}
    (h : PatchedAttribute cp codeUtf8 insertion extraStack a a') :
    PrependedAttribute cp codeUtf8 insertion extraStack a a' := by
  refine ⟨h.1, ?_⟩
  have hinfo := h.2
  by_cases hname : a.name = codeUtf8
  · rw [if_pos hname] at hinfo ⊢
    obtain ⟨c, c', hc, hfit, hread, hread', hpatch⟩ := hinfo
    exact ⟨c, c', hread, hread', prependSpec_of_patchCode hc hfit hpatch⟩
  · rw [if_neg hname] at hinfo ⊢
    exact hinfo

/-- The rebuilt attributes of a legal method whose new code is short enough are the attributes of
a method again. -/
lemma exists_patched_attributes {L : Layout} (hL : L.Legal) {m : Member} (hm : m ∈ L.methods)
    {codeUtf8 : UInt16} (hcode : cpUtf8Value (poolSlots L.pool) codeUtf8 = .ok (ascii "Code"))
    {insertion : Bytes} {extraStack : UInt16}
    (hfit : ∀ a ∈ m.attributes, a.name = codeUtf8 → ∀ c, readCode a.info = .ok (c, []) →
      c.code.length + insertion.length ≤ 65535)
    {attrs : List (UInt16 × Bytes)}
    (h : List.Forall₂ (Rebuilt (poolSlots L.pool) codeUtf8 insertion extraStack)
      m.attributes attrs) :
    ∃ l : List Attribute, l.map (fun a => (a.name, a.info)) = attrs ∧
      List.Forall₂ (PatchedAttribute (poolSlots L.pool) codeUtf8 insertion extraStack)
        m.attributes l := by
  -- an attribute of the method, the Code attribute that it encodes, and the patched one
  have hpatched : ∀ a ∈ m.attributes, a.name = codeUtf8 → ∀ c c', a.info = writeCode c →
      c.WellFormed (poolSlots L.pool) →
      patchCode (poolSlots L.pool) insertion extraStack c = .ok c' →
      Prepended (poolSlots L.pool) insertion c c' →
      (writeCode c').length < 4294967296 ∧ c.Legal (poolSlots L.pool) ∧
        c.code.length + insertion.length ≤ 65535 ∧ readCode a.info = .ok (c, []) ∧
        readCode (writeCode c') = .ok (c', []) := by
    intro a ha hname c c' hinfo hc hpatch hc'
    obtain ⟨c₀, hinfo₀, hlegal⟩ := hL.code m hm a ha (hname ▸ hcode)
    obtain rfl := hc.toFits.inj hlegal.toFits (hinfo ▸ hinfo₀)
    have hread : readCode a.info = .ok (c, []) := hinfo ▸ (reads_readCode hc.toFits).run
    have hlen := hfit a ha hname c hread
    have hsize : (writeCode c).length < 2147483648 := by
      rw [← hinfo]
      exact lt_of_le_of_lt (length_info_le hm ha) hL.size_lt
    have hlt := length_writeCode_lt hlegal (fun b _ => cpUtf8Value_ok L.pool b.1) hlen hsize hpatch
    have hfits := (hc'.wellFormed hc hlt).toFits
    exact ⟨hlt, hlegal, hlen, hread, (reads_readCode hfits).run⟩
  have hall := forall₂_mem_left h
  obtain ⟨l, rfl⟩ := exists_attributes attrs <| by
    intro b hb
    obtain ⟨a, -, ha, hab⟩ := exists_of_forall₂ hall hb
    cases hab with
    | kept hname hb =>
      rw [hb]
      exact a.length_lt
    | patched hname c c' hinfo hc hpatch hc' hb =>
      rw [hb]
      exact (hpatched a ha hname c c' hinfo hc hpatch hc').1
  refine ⟨l, rfl, ?_⟩
  rw [List.forall₂_map_right_iff] at hall
  refine hall.imp ?_
  rintro a a' ⟨ha, hab⟩
  cases hab with
  | kept hname hb =>
    obtain ⟨hn, hi⟩ := Prod.mk.inj hb
    exact ⟨hn, by rwa [if_neg hname]⟩
  | patched hname c c' hinfo hc hpatch hc' hb =>
    obtain ⟨hn, hi⟩ := Prod.mk.inj hb
    obtain ⟨-, hlegal, hlen, hread, hread'⟩ := hpatched a ha hname c c' hinfo hc hpatch hc'
    refine ⟨hn, ?_⟩
    rw [if_pos hname, hi]
    exact ⟨c, c', hlegal, hlen, hread, hread', hpatch⟩

/-! ## A sample method with tables -/

/-- The code `nop; nop; return; pop; return` with a handler for its first two instructions. -/
def guardedCode : CodeBody where
  maxStack := 1
  maxLocals := 1
  code := [0x00, 0x00, 0xB1, 0x57, 0xB1]
  exceptions := [⟨0, 2, 3, 0⟩]
  attributes := [(6, [0, 1, 67, 7, 0, 2]), (7, [0, 2, 0, 0, 0, 1, 0, 3, 0, 2])]

/-- The sample class with this code, and the names of its tables. -/
def guardedLayout : Layout :=
  { sampleLayout with
    pool := sampleLayout.pool.take 5 ++
      [Constant.utf8 (ascii "StackMapTable") (by decide),
        Constant.utf8 (ascii "LineNumberTable") (by decide)]
    methods := [⟨1, 3, 4, [⟨5, writeCode guardedCode, by decide⟩], by decide⟩]
    pool_lt := by decide
    methods_lt := by decide
    this_lt := by decide }

lemma guardedCode_legal : guardedCode.Legal (poolSlots guardedLayout.pool) := by
  have hmap : cpUtf8Value (poolSlots guardedLayout.pool) 6 = .ok (ascii "StackMapTable") := by
    decide
  have hlines : cpUtf8Value (poolSlots guardedLayout.pool) 7 = .ok (ascii "LineNumberTable") := by
    decide
  refine ⟨⟨by decide, by decide, by decide, by decide⟩, by decide, by decide, ?_, by decide, ?_⟩
  · intro e he
    rw [List.mem_singleton.mp he]
    exact ⟨by decide, by decide, by decide⟩
  · intro a ha name hname
    rcases List.mem_cons.mp ha with rfl | ha
    · cases hmap.symm.trans hname
      refine ⟨fun _ => ⟨[⟨3, .sameLocals1StackItem (.object 2)⟩], by decide, by decide⟩,
        fun h => absurd h (by decide), fun h => absurd h (by decide)⟩
    · rw [List.mem_singleton.mp ha] at hname ⊢
      cases hlines.symm.trans hname
      exact ⟨fun h => absurd h (by decide), fun _ => ⟨[⟨0, 1⟩, ⟨3, 2⟩], by decide, by decide⟩,
        fun h => absurd h (by decide)⟩

set_option maxRecDepth 2000 in
lemma guardedLayout_legal : guardedLayout.Legal where
  methods := by
    intro m hm a ha
    rw [List.mem_singleton.mp hm] at ha
    rw [List.mem_singleton.mp ha]
    exact ⟨by decide, fun _ => ⟨guardedCode, rfl, guardedCode_legal.wellFormed⟩⟩
  thisName := by
    intro e he htag a b r hbody
    have he' : e = ⟨CP_Class, [0, 1], false⟩ := (Option.some.inj he).symm
    subst he'
    cases hbody
    decide
  code := by
    intro m hm a ha _
    rw [List.mem_singleton.mp hm] at ha
    rw [List.mem_singleton.mp ha]
    exact ⟨guardedCode, rfl, guardedCode_legal⟩
  size_lt := by decide

lemma parse_guardedLayout :
    parse guardedLayout.encode = .ok (guardedLayout.editor (ascii "A")) := by
  obtain ⟨thisName, hname, hparse⟩ := parse_encode guardedLayout
  have hA : readThisName (poolSlots guardedLayout.pool) guardedLayout.thisClass =
      .ok (ascii "A") := by decide
  have hthis : thisName = ascii "A" := Except.ok.inj (hname.symm.trans hA)
  subst hthis
  exact hparse

/-! ## Results -/

/-- The attributes of the selected method are decoded, patched and encoded again, and nothing
else of the class changes. -/
theorem prependToMethodCode_prepends {L : Layout} (hL : L.Legal) {ed : Editor}
    (hparse : parse L.encode = .ok ed) {name desc : Bytes} {k : ℕ}
    (hsel : ed.Selects name desc k) {m : Member} (hm : L.methods[k]? = some m)
    {codeUtf8 : UInt16} (hcode : ed.findUtf8 (ascii "Code") = .ok codeUtf8) (hfound : codeUtf8 ≠ 0)
    {insertion : Bytes}
    (hfit : ∀ a ∈ m.attributes, a.name = codeUtf8 → ∀ c, readCode a.info = .ok (c, []) →
      c.code.length + insertion.length ≤ 65535) (extraStack : UInt16) :
    ∃ m' : Member, m'.accessFlags = m.accessFlags ∧ m'.nameIndex = m.nameIndex ∧
      m'.descriptorIndex = m.descriptorIndex ∧
      List.Forall₂ (PrependedAttribute ed.cp codeUtf8 insertion extraStack)
        m.attributes m'.attributes ∧
      ed.prependToMethodCode name desc insertion extraStack =
        .ok (true, { ed with methods := ed.methods.set k m'.info }) := by
  obtain ⟨hcp, hmethods, hle⟩ := Editor.parsed_fields hparse
  have hsound := Editor.sound_of_parse hL.toWellFormed hparse
  have hmem : m ∈ L.methods := List.mem_of_getElem? hm
  have hinfo : ed.methods[k]? = some m.info := by
    rw [hmethods, List.getElem?_map, hm]
    rfl
  have hwf : m.WellFormed ed.cp := hcp ▸ hL.methods m hmem
  obtain ⟨codeUtf8', ed₁, new, attrs, hadd, -, -, hvalue, hrebuilt, hrun⟩ :=
    Editor.prependToMethodCode_of_selects hsound hle hsel hinfo hwf insertion extraStack
  obtain ⟨rfl, rfl⟩ := Editor.addUtf8_inv hcode hfound hadd
  rw [hcp] at hvalue hrebuilt
  obtain ⟨l, rfl, hl⟩ := exists_patched_attributes hL hmem hvalue hfit hrebuilt
  have hlen : l.length = m.attributes.length := hl.length_eq.symm
  refine ⟨⟨m.accessFlags, m.nameIndex, m.descriptorIndex, l, hlen ▸ m.length_lt⟩, rfl, rfl, rfl,
    hcp ▸ hl.imp fun _ _ h => h.prepended, ?_⟩
  have hraw : wr16 (UInt16.ofNat l.length) ++ l.flatMap Attribute.encode =
      wr16 (UInt16.ofNat m.attributes.length) ++
        (l.map fun a => (a.name, a.info)).flatMap writeAttribute := by
    rw [hlen, List.flatMap_map]
    rfl
  simp only [hrun, Member.info, Member.encodeAttributes, hraw]

theorem prependToMethodCode_prepends_sample : ∃ m' : Member,
    List.Forall₂ (PrependedAttribute (poolSlots guardedLayout.pool) 5 [0x2A, 0x2B, 0xB8, 0, 1] 2)
      [⟨5, writeCode guardedCode, by decide⟩] m'.attributes ∧
    (guardedLayout.editor (ascii "A")).prependToMethodCode (ascii "m") (ascii "()V")
        [0x2A, 0x2B, 0xB8, 0, 1] 2 =
      .ok (true, { guardedLayout.editor (ascii "A") with methods := [m'.info] }) := by
  have hsel : (guardedLayout.editor (ascii "A")).Selects (ascii "m") (ascii "()V") 0 :=
    ⟨3, 4, by decide, by decide, by decide, by decide, by decide⟩
  have hcode : (guardedLayout.editor (ascii "A")).findUtf8 (ascii "Code") = .ok 5 := by decide
  have hfit : ∀ a ∈ [(⟨5, writeCode guardedCode, by decide⟩ : Attribute)], a.name = 5 →
      ∀ c, readCode a.info = .ok (c, []) →
        c.code.length + ([0x2A, 0x2B, 0xB8, 0, 1] : Bytes).length ≤ 65535 := by
    intro a ha _ c hc
    rw [List.mem_singleton.mp ha] at hc
    have hread := (reads_readCode guardedCode_legal.toFits).run
    obtain rfl := (Prod.mk.inj (Except.ok.inj (hread.symm.trans hc))).1
    decide
  obtain ⟨m', -, -, -, hattributes, hrun⟩ := prependToMethodCode_prepends guardedLayout_legal
    parse_guardedLayout hsel rfl hcode (by decide) hfit 2
  exact ⟨m', hattributes, hrun⟩

/-! ## No offset wraps -/

/-- The editor does not make the insertion: it returns false or throws, and the class is what it
was. -/
def Refuses (ed : Editor) (name desc insertion : Bytes) (extraStack : UInt16) : Prop :=
  ed.prependToMethodCode name desc insertion extraStack = .ok (false, ed) ∨
    ∃ what, ed.prependToMethodCode name desc insertion extraStack = .error (.thrown what)

/-- The Code attributes of a method, before and after, have exact offsets. -/
def ExactAttribute (cp : List CpEntry) (n : ℕ) (a a' : UInt16 × Bytes) : Prop :=
  cpUtf8Value cp a.1 = .ok (ascii "Code") → ∃ c c', readCode a.2 = .ok (c, []) ∧
    readCode a'.2 = .ok (c', []) ∧ ExactOffsets cp n c c'

/-- The editor refuses the insertion, or it makes it and no offset of the method wraps. -/
def NoWrap (ed : Editor) (name desc insertion : Bytes) (extraStack : UInt16) : Prop :=
  Refuses ed name desc insertion extraStack ∨
    ∃ ed', ed.prependToMethodCode name desc insertion extraStack = .ok (true, ed') ∧
      ∀ k m m', ed.Selects name desc k → ed.methods[k]? = some m → ed'.methods[k]? = some m' →
        ∃ attrs attrs', readAttributes m.attributesRaw = .ok (attrs, []) ∧
          readAttributes m'.attributesRaw = .ok (attrs', []) ∧
          List.Forall₂ (ExactAttribute ed.cp insertion.length) attrs attrs'

/-- The new code of the selected method is legal: the Code attribute has the name that the editor
looks for, and it has room for the insertion; or there is nothing to insert. -/
def RoomForInsertion (L : Layout) (ed : Editor) (name desc insertion : Bytes) : Prop :=
  ∀ k m, ed.Selects name desc k → L.methods[k]? = some m → ∀ a ∈ m.attributes,
    cpUtf8Value ed.cp a.name = .ok (ascii "Code") → ∀ c, readCode a.info = .ok (c, []) →
      if ed.findUtf8 (ascii "Code") = .ok a.name then c.code.length + insertion.length ≤ 65535
      else insertion = []

lemma ExactOffsets.refl {cp : List CpEntry} {c : CodeBody} (hc : c.Legal cp) :
    ExactOffsets cp 0 c c := by
  refine ⟨rfl, hc.code_le, ?_, ?_⟩
  · rw [List.forall₂_same]
    exact fun e _ => ⟨rfl, rfl, rfl, rfl⟩
  · rw [List.forall₂_same]
    intro a ha
    refine ⟨rfl, fun name hname => ?_⟩
    have htable := hc.tables a ha name hname
    refine ⟨fun h => ?_, fun h => ?_, fun h => ?_⟩
    · obtain ⟨frames, hread, -⟩ := htable.frames h
      exact ⟨frames, frames, hread, hread, by simp⟩
    · obtain ⟨lines, hread, -⟩ := htable.lines h
      refine ⟨lines, lines, hread, hread, ?_⟩
      rw [List.forall₂_same]
      exact fun l _ => ⟨rfl, rfl⟩
    · obtain ⟨vars, hread, -⟩ := htable.locals h
      refine ⟨vars, vars, hread, hread, ?_⟩
      rw [List.forall₂_same]
      exact fun v _ => ⟨by simp, by simp, rfl, rfl, rfl⟩

/-- An attribute of the old pool has the name only if the name was found. -/
lemma Editor.codeUtf8_eq_iff {ed ed₁ : Editor} (hcp : ed.cp.length ≤ 65535) {codeUtf8 : UInt16}
    (hadd : ed.addUtf8 (ascii "Code") = .ok (codeUtf8, ed₁)) {new : List CpEntry}
    (hnew : ed₁.cp = ed.cp ++ new)
    (hvalue : cpUtf8Value ed₁.cp codeUtf8 = .ok (ascii "Code")) {i : UInt16}
    (hi : i.toNat < ed.cp.length) : i = codeUtf8 ↔
      cpUtf8Value ed.cp i = .ok (ascii "Code") ∧ ed.findUtf8 (ascii "Code") = .ok i := by
  constructor
  · rintro rfl
    refine ⟨?_, (findUtf8_of_addUtf8 hcp hadd hi).2⟩
    rw [← cpUtf8Value_append hi new, ← hnew]
    exact hvalue
  · rintro ⟨hcode, hfind⟩
    have hne := (utf8At_of_cpUtf8Value hcode (by decide)).1
    exact (addUtf8_inv hfind hne hadd).1

/-- When no attribute has the name, all are copied. -/
lemma kept_attributes {cp cp' : List CpEntry} {codeUtf8 : UInt16} {insertion : Bytes}
    {extraStack : UInt16} {as : List Attribute} (has : ∀ a ∈ as, a.name ≠ codeUtf8)
    {attrs : List (UInt16 × Bytes)}
    (h : List.Forall₂ (Rebuilt cp codeUtf8 insertion extraStack) as attrs) :
    as.map (fun a => (a.name, a.info)) = attrs ∧
      List.Forall₂ (PatchedAttribute cp' codeUtf8 insertion extraStack) as as := by
  constructor
  · have hkept : List.Forall₂ (fun a b => (a.name, a.info) = b) as attrs := by
      refine (forall₂_mem_left h).imp ?_
      rintro a b ⟨ha, hab⟩
      cases hab with
      | kept _ hb => exact hb.symm
      | patched hname => exact absurd hname (has a ha)
    rw [← List.forall₂_map_left_iff, List.forall₂_eq_eq_eq] at hkept
    exact hkept
  · rw [List.forall₂_same]
    exact fun a ha => ⟨rfl, by rw [if_neg (has a ha)]⟩

/-- The method after a successful call.  The attributes that are patched are those whose name the
editor has found. -/
lemma exists_patched_method {L : Layout} (hL : L.Legal) {ed : Editor}
    (hparse : parse L.encode = .ok ed) {name desc : Bytes} {k : ℕ}
    (hsel : ed.Selects name desc k) {m : Member} (hm : L.methods[k]? = some m) {insertion : Bytes}
    (hfit : ∀ a ∈ m.attributes, cpUtf8Value ed.cp a.name = .ok (ascii "Code") →
      ed.findUtf8 (ascii "Code") = .ok a.name → ∀ c, readCode a.info = .ok (c, []) →
        c.code.length + insertion.length ≤ 65535) (extraStack : UInt16) :
    ∃ codeUtf8 ed' l, ed.prependToMethodCode name desc insertion extraStack = .ok (true, ed') ∧
      ed'.methods[k]? = some { m.info with
        attributesRaw := wr16 (UInt16.ofNat l.length) ++ l.flatMap Attribute.encode } ∧
      (∀ a ∈ m.attributes, a.name = codeUtf8 ↔ cpUtf8Value ed.cp a.name = .ok (ascii "Code") ∧
        ed.findUtf8 (ascii "Code") = .ok a.name) ∧
      List.Forall₂ (PatchedAttribute ed.cp codeUtf8 insertion extraStack) m.attributes l := by
  obtain ⟨hcp, hmethods, hle⟩ := Editor.parsed_fields hparse
  have hsound := Editor.sound_of_parse hL.toWellFormed hparse
  have hmem : m ∈ L.methods := List.mem_of_getElem? hm
  have hinfo : ed.methods[k]? = some m.info := by
    rw [hmethods, List.getElem?_map, hm]
    rfl
  have hwf : m.WellFormed ed.cp := hcp ▸ hL.methods m hmem
  obtain ⟨codeUtf8, ed₁, new, attrs, hadd, hmethods₁, hnew, hvalue, hrebuilt, hrun⟩ :=
    Editor.prependToMethodCode_of_selects hsound hle hsel hinfo hwf insertion extraStack
  have hiff : ∀ a ∈ m.attributes, a.name = codeUtf8 ↔
      cpUtf8Value ed.cp a.name = .ok (ascii "Code") ∧
        ed.findUtf8 (ascii "Code") = .ok a.name :=
    fun a ha => Editor.codeUtf8_eq_iff hle hadd hnew hvalue (hwf a ha).1
  obtain ⟨l, hl, hpatched⟩ : ∃ l : List Attribute, l.map (fun a => (a.name, a.info)) = attrs ∧
      List.Forall₂ (PatchedAttribute ed.cp codeUtf8 insertion extraStack) m.attributes l := by
    by_cases hany : ∃ a ∈ m.attributes, a.name = codeUtf8
    · obtain ⟨a, ha, hname⟩ := hany
      obtain ⟨hne, hfind⟩ := Editor.findUtf8_of_addUtf8 hle hadd (hname ▸ (hwf a ha).1)
      obtain ⟨-, rfl⟩ := Editor.addUtf8_inv hfind hne hadd
      rw [hcp] at hvalue hrebuilt ⊢
      refine exists_patched_attributes hL hmem hvalue ?_ hrebuilt
      intro b hb hbname
      obtain ⟨hcode, hfind'⟩ := (hiff b hb).mp hbname
      exact hfit b hb hcode hfind'
    · push Not at hany
      exact ⟨m.attributes, kept_attributes hany hrebuilt⟩
  have hraw : wr16 (UInt16.ofNat l.length) ++ l.flatMap Attribute.encode =
      wr16 (UInt16.ofNat m.attributes.length) ++ attrs.flatMap writeAttribute := by
    rw [← hl, List.flatMap_map, hpatched.length_eq]
    rfl
  obtain ⟨hlt, -⟩ := List.getElem?_eq_some_iff.mp hinfo
  refine ⟨codeUtf8, _, l, hrun, ?_, hiff, hpatched⟩
  rw [hraw]
  exact List.getElem?_set_self (hmethods₁ ▸ hlt)

lemma exists_selected {L : Layout} {ed : Editor} (hparse : parse L.encode = .ok ed)
    {name desc : Bytes} {k : ℕ} (hsel : ed.Selects name desc k) :
    ∃ m, L.methods[k]? = some m ∧ ed.methods[k]? = some m.info := by
  obtain ⟨-, hmethods, hle⟩ := Editor.parsed_fields hparse
  obtain ⟨mi, hmi, -⟩ := hsel.named hle
  have hmap := hmi
  rw [hmethods, List.getElem?_map] at hmap
  obtain ⟨m, hm, rfl⟩ := Option.map_eq_some_iff.mp hmap
  exact ⟨m, hm, hmi⟩

/-- A method for which there is room has exact offsets after the call. -/
lemma noWrap_of_room {L : Layout} (hL : L.Legal) {ed : Editor} (hparse : parse L.encode = .ok ed)
    {name desc insertion : Bytes} (hroom : RoomForInsertion L ed name desc insertion)
    (extraStack : UInt16) : NoWrap ed name desc insertion extraStack := by
  obtain ⟨hcp, -, hle⟩ := Editor.parsed_fields hparse
  by_cases hany : ∃ k, ed.Selects name desc k
  · obtain ⟨k, hsel⟩ := hany
    obtain ⟨m, hm, hinfo⟩ := exists_selected hparse hsel
    have hmem : m ∈ L.methods := List.mem_of_getElem? hm
    obtain ⟨codeUtf8, ed', l, hrun, hm', hiff, hpatched⟩ :=
      exists_patched_method hL hparse hsel hm
        (fun a ha hcode hfind c hc => by
          have := hroom k m hsel hm a ha hcode c hc
          rwa [if_pos hfind] at this) extraStack
    refine .inr ⟨ed', hrun, ?_⟩
    intro k₁ m₁ m₁' hsel₁ hm₁ hm₁'
    obtain rfl := hsel.unique hsel₁
    cases hinfo.symm.trans hm₁
    cases hm'.symm.trans hm₁'
    refine ⟨_, _, (reads_readAttributes m.attributes m.length_lt).run,
      (reads_readAttributes l (hpatched.length_eq ▸ m.length_lt)).run, ?_⟩
    rw [List.forall₂_map_left_iff, List.forall₂_map_right_iff]
    refine (forall₂_mem_left hpatched).imp ?_
    rintro a a' ⟨ha, -, hinfo'⟩ hcode
    by_cases hname : a.name = codeUtf8
    · rw [if_pos hname] at hinfo'
      obtain ⟨c, c', hc, hfit, hread, hread', hpatch⟩ := hinfo'
      exact ⟨c, c', hread, hread', exactOffsets_of_patchCode hc hfit hpatch⟩
    · rw [if_neg hname] at hinfo'
      obtain ⟨c, hc, hlegal⟩ := hL.code m hmem a ha (hcp ▸ hcode)
      have hread : readCode a.info = .ok (c, []) := hc ▸ (reads_readCode hlegal.toFits).run
      -- the editor leaves the attribute alone, so there must be nothing to insert
      have hnil : insertion = [] := by
        have := hroom k m hsel hm a ha hcode c hread
        rwa [if_neg fun hfind => hname ((hiff a ha).mpr ⟨hcode, hfind⟩)] at this
      refine ⟨c, c, hread, ?_, ?_⟩
      · change readCode a'.info = _
        rw [hinfo', hread]
      · rw [hnil, hcp]
        exact ExactOffsets.refl hlegal
  · push Not at hany
    exact .inl (.inl (Editor.prependToMethodCode_of_not_selects hle hany insertion extraStack))

lemma exists_exact_of_noWrap {L : Layout} (hL : L.Legal) {ed : Editor}
    (hparse : parse L.encode = .ok ed) {name desc insertion : Bytes} {extraStack : UInt16} {k : ℕ}
    (hsel : ed.Selects name desc k) {m : Member} (hm : L.methods[k]? = some m)
    (h : NoWrap ed name desc insertion extraStack) :
    ∃ ed' m', ed.prependToMethodCode name desc insertion extraStack = .ok (true, ed') ∧
      ed'.methods[k]? = some m' ∧ ∃ attrs', readAttributes m'.attributesRaw = .ok (attrs', []) ∧
        List.Forall₂ (fun a a' => ExactAttribute ed.cp insertion.length (a.name, a.info) a')
          m.attributes attrs' := by
  obtain ⟨hcp, -, hle⟩ := Editor.parsed_fields hparse
  obtain ⟨m₀, hm₀, hinfo⟩ := exists_selected hparse hsel
  cases hm.symm.trans hm₀
  obtain ⟨-, ed₁, -, attrs, -, hmethods, -, -, -, hrun⟩ := Editor.prependToMethodCode_of_selects
    (Editor.sound_of_parse hL.toWellFormed hparse) hle hsel hinfo
    (hcp ▸ hL.methods m (List.mem_of_getElem? hm)) insertion extraStack
  obtain ⟨hlt, -⟩ := List.getElem?_eq_some_iff.mp hinfo
  have hm' := List.getElem?_set_self (a := { m.info with
    attributesRaw := wr16 (UInt16.ofNat m.attributes.length) ++ attrs.flatMap writeAttribute })
    (hmethods ▸ hlt : k < ed₁.methods.length)
  rcases h with (hfalse | ⟨what, hthrown⟩) | ⟨ed', hrun', hall⟩
  · cases hrun.symm.trans hfalse
  · cases hrun.symm.trans hthrown
  · cases hrun.symm.trans hrun'
    obtain ⟨attrs₀, attrs', hread, hread', hexact⟩ := hall k _ _ hsel hinfo hm'
    obtain ⟨rfl, -⟩ := Prod.mk.inj (Except.ok.inj
      (hread.symm.trans (reads_readAttributes m.attributes m.length_lt).run))
    rw [List.forall₂_map_left_iff] at hexact
    exact ⟨_, _, hrun, hm', attrs', hread', hexact⟩

/-- A method with exact offsets after the call had room for the insertion. -/
lemma room_of_noWrap {L : Layout} (hL : L.Legal) {ed : Editor} (hparse : parse L.encode = .ok ed)
    {name desc insertion : Bytes} {extraStack : UInt16}
    (h : NoWrap ed name desc insertion extraStack) :
    RoomForInsertion L ed name desc insertion := by
  intro k m hsel hm a ha hcode c hc
  obtain ⟨m₀, hm₀, hinfo⟩ := exists_selected hparse hsel
  cases hm.symm.trans hm₀
  obtain ⟨ed', m', hrun, hm', attrs', hread', hall⟩ := exists_exact_of_noWrap hL hparse hsel hm h
  -- the limits of the new code, from its exact offsets
  have hfit : ∀ b ∈ m.attributes, cpUtf8Value ed.cp b.name = .ok (ascii "Code") →
      ∀ d, readCode b.info = .ok (d, []) → d.code.length + insertion.length ≤ 65535 := by
    intro b hb hbcode d hd
    obtain ⟨b', -, hexact⟩ := exists_of_forall₂ hall.flip hb
    obtain ⟨d₀, d', hd₀, -, hoffsets⟩ := hexact hbcode
    cases hd.symm.trans hd₀
    have hlength := hoffsets.length_eq
    have hle := hoffsets.length_le
    omega
  by_cases hfind : ed.findUtf8 (ascii "Code") = .ok a.name
  · rw [if_pos hfind]
    exact hfit a ha hcode c hc
  · rw [if_neg hfind]
    obtain ⟨codeUtf8, ed₁, l, hrun₁, hm₁, hiff, hpatched⟩ := exists_patched_method hL hparse hsel hm
      (fun b hb hbcode _ d hd => hfit b hb hbcode d hd) extraStack
    cases hrun.symm.trans hrun₁
    cases hm'.symm.trans hm₁
    have hlread := (reads_readAttributes l (hpatched.length_eq ▸ m.length_lt)).run
    obtain ⟨rfl, -⟩ := Prod.mk.inj (Except.ok.inj (hread'.symm.trans hlread))
    rw [List.forall₂_map_right_iff] at hall
    -- the attribute was left alone, so its code is as long as it was
    obtain ⟨a', -, hboth⟩ := exists_of_forall₂
      (List.Forall₂.mp (fun _ _ hp he => And.intro hp he) hpatched hall).flip ha
    obtain ⟨⟨-, hkept⟩, hexact⟩ := hboth
    rw [if_neg fun hname => hfind ((hiff a ha).mp hname).2] at hkept
    obtain ⟨c₀, c', hc₀, hc', hoffsets⟩ := hexact hcode
    cases hc.symm.trans hc₀
    change readCode a'.info = _ at hc'
    rw [hkept] at hc'
    cases hc.symm.trans hc'
    have hlength := hoffsets.length_eq
    rw [← List.length_eq_zero_iff]
    omega

/-- No offset wraps exactly when there is room for the insertion: the editor refuses none for its
length. -/
theorem prependToMethodCode_noWrap_iff {L : Layout} (hL : L.Legal) {ed : Editor}
    (hparse : parse L.encode = .ok ed) (name desc insertion : Bytes) (extraStack : UInt16) :
    NoWrap ed name desc insertion extraStack ↔ RoomForInsertion L ed name desc insertion :=
  ⟨fun h => room_of_noWrap hL hparse h, fun h => noWrap_of_room hL hparse h extraStack⟩

theorem prependToMethodCode_noWrap_sample :
    NoWrap (guardedLayout.editor (ascii "A")) (ascii "m") (ascii "()V")
      [0x2A, 0x2B, 0xB8, 0, 1] 2 := by
  refine (prependToMethodCode_noWrap_iff guardedLayout_legal parse_guardedLayout _ _ _ 2).mpr ?_
  intro k m _ hm a ha _ c hc
  have hm' : m ∈ guardedLayout.methods := List.mem_of_getElem? hm
  rw [List.mem_singleton.mp hm'] at ha
  rw [List.mem_singleton.mp ha] at hc ⊢
  have hread := (reads_readCode guardedCode_legal.toFits).run
  obtain rfl := (Prod.mk.inj (Except.ok.inj (hread.symm.trans hc))).1
  decide

lemma length_encode_singleton (flags name desc : UInt16) (a : Attribute)
    (h : [a].length < 65536) :
    ([(⟨flags, name, desc, [a], h⟩ : Member)].flatMap Member.encode).length =
      14 + a.info.length := by
  simp only [List.flatMap_cons, List.flatMap_nil, List.append_nil, Member.encode,
    Member.encodeAttributes, Attribute.encode, List.length_append, length_wr16, length_wr32]
  omega

/-- A method of 65531 bytes with a handler for all of them. -/
def longCode : CodeBody where
  maxStack := 1
  maxLocals := 1
  code := List.replicate 65531 0
  exceptions := [⟨0, 65531, 65530, 0⟩]
  attributes := []

lemma length_longCode : longCode.code.length = 65531 := List.length_replicate

lemma longCode_lt : (writeCode longCode).length < 4294967296 := by
  rw [length_writeCode, length_longCode]
  decide

/-- The sample class with this method. -/
def longLayout : Layout :=
  { guardedLayout with
    methods := [⟨1, 3, 4, [⟨5, writeCode longCode, longCode_lt⟩], by decide⟩]
    methods_lt := by decide }

lemma longCode_legal : longCode.Legal (poolSlots guardedLayout.pool) where
  code_lt := by
    rw [length_longCode]
    decide
  exceptions_lt := by decide
  attributes_lt := by decide
  inner_lt := List.forall_mem_nil _
  code_pos := by
    rw [length_longCode]
    decide
  code_le := by
    rw [length_longCode]
    decide
  exceptions := by
    intro e he
    rw [List.mem_singleton.mp he, length_longCode]
    exact ⟨by decide, by decide, by decide⟩
  names_lt := List.forall_mem_nil _
  tables := List.forall_mem_nil _

lemma longLayout_legal : longLayout.Legal where
  methods := by
    intro m hm a ha
    rw [List.mem_singleton.mp hm] at ha
    rw [List.mem_singleton.mp ha]
    exact ⟨by decide, fun _ => ⟨longCode, rfl, longCode_legal.wellFormed⟩⟩
  thisName := guardedLayout_legal.thisName
  code := by
    intro m hm a ha _
    rw [List.mem_singleton.mp hm] at ha
    rw [List.mem_singleton.mp ha]
    exact ⟨longCode, rfl, longCode_legal⟩
  size_lt := by
    have hcode : (writeCode longCode).length = 65551 := by
      rw [length_writeCode, length_longCode]
      rfl
    have hmethods : (longLayout.methods.flatMap Member.encode).length =
        14 + (writeCode longCode).length := by
      have hmethod : longLayout.methods =
          [⟨1, 3, 4, [⟨5, writeCode longCode, longCode_lt⟩], by decide⟩] := rfl
      rw [hmethod, length_encode_singleton]
    have hpool : (longLayout.pool.flatMap Constant.encode).length < 1000 := by decide
    have hinterfaces : (longLayout.interfaces.flatMap wr16).length = 0 := by decide
    have hfields : longLayout.encodeFields.length = 2 := by decide
    have hrest : longLayout.rest.length = 2 := by decide
    have hlength := longLayout.length_encode
    omega

lemma parse_longLayout : parse longLayout.encode = .ok (longLayout.editor (ascii "A")) := by
  obtain ⟨thisName, hname, hparse⟩ := parse_encode longLayout
  have hA : readThisName (poolSlots longLayout.pool) longLayout.thisClass = .ok (ascii "A") := by
    decide
  have hthis : thisName = ascii "A" := Except.ok.inj (hname.symm.trans hA)
  subst hthis
  exact hparse

/-- Five bytes in front of this method make its code 65536 bytes long, and the end of its handler
wraps to 0. -/
theorem prependToMethodCode_wraps : longLayout.Legal ∧
    parse longLayout.encode = .ok (longLayout.editor (ascii "A")) ∧
    (patchException 5 ⟨0, 65531, 65530, 0⟩).endPc = 0 ∧
    ¬ NoWrap (longLayout.editor (ascii "A")) (ascii "m") (ascii "()V")
      [0x2A, 0x2B, 0xB8, 0, 1] 2 := by
  refine ⟨longLayout_legal, parse_longLayout, by decide, fun h => ?_⟩
  have hsel : (longLayout.editor (ascii "A")).Selects (ascii "m") (ascii "()V") 0 :=
    ⟨3, 4, by decide, by decide, by decide, by decide, by decide⟩
  have hcode : cpUtf8Value (longLayout.editor (ascii "A")).cp 5 = .ok (ascii "Code") := by decide
  have hfind : (longLayout.editor (ascii "A")).findUtf8 (ascii "Code") = .ok 5 := by decide
  have hroom := room_of_noWrap longLayout_legal parse_longLayout h 0 _ hsel rfl _
    List.mem_cons_self hcode longCode (reads_readCode longCode_legal.toFits).run
  rw [if_pos hfind, length_longCode] at hroom
  exact absurd hroom (by decide)

end ClassFile
end SakuraTools
