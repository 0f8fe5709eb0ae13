import SakuraTools.ClassFile.Bytecode
import SakuraTools.ClassFile.Edits

/-!
# The meaning of patched code

The editor puts instructions in front of a method's code and copies the code after them.  The
copy means the same, with its targets moved, exactly when the padding of switches does not
change: the insertion is a multiple of 4 bytes long, or the method has no switch.
-/

namespace SakuraTools
namespace ClassFile

/-! ## The code array of a method -/

/-- The code array at the start of the body of a Code attribute. -/
def readCodeArray : Reader Bytes := do
  let _ ← rd16
  let _ ← rd16
  let codeLen ← rd32
  copyN codeLen.toNat

/-- The first of `n` attributes that is called "Code": the index of its name, and its code
array. -/
def findCode (cp : List CpEntry) : ℕ → Reader (Option (UInt16 × Bytes))
  | 0 => pure none
  | n + 1 => do
    let nameIdx ← rd16
    let attrLen ← rd32
    if cpUtf8Value cp nameIdx = .ok (ascii "Code") then
      let code ← readCodeArray
      pure (some (nameIdx, code))
    else
      let _ ← copyN attrLen.toNat
      findCode cp n

/-- The Code attribute of a method with the given attribute table. -/
def codeArray (cp : List CpEntry) (attributesRaw : Bytes) :
    Except Fault (Option (UInt16 × Bytes)) :=
  let read : Reader (Option (UInt16 × Bytes)) := do
    let attrCount ← rd16
    findCode cp attrCount.toNat
  (read attributesRaw).map Prod.fst

/-- The code array that is read back from a Code attribute: the field for its length is
reduced to 32 bits. -/
def CodeBody.array (c : CodeBody) : Bytes := c.code.take (UInt32.ofNat c.code.length).toNat

lemma CodeBody.array_of_fits {c : CodeBody} (hc : c.code.length < 4294967296) :
    c.array = c.code := by
  rw [CodeBody.array, toNat_ofNat_u4 hc, List.take_length]

lemma readCodeArray_writeCode (c : CodeBody) (r : Bytes) :
    ∃ rest, readCodeArray (writeCode c ++ r) = .ok (c.array, rest) := by
  have hsplit : c.code = c.array ++ c.code.drop (UInt32.ofNat c.code.length).toNat :=
    (List.take_append_drop _ _).symm
  have hlen : (UInt32.ofNat c.code.length).toNat = c.array.length := by
    rw [CodeBody.array, List.length_take, UInt32.toNat_ofNat']
    omega
  obtain ⟨tail, htail⟩ : ∃ tail, writeCode c ++ r = (wr16 c.maxStack ++ (wr16 c.maxLocals ++
      (wr32 (UInt32.ofNat c.code.length) ++ c.array))) ++ tail := by
    refine ⟨c.code.drop (UInt32.ofNat c.code.length).toNat ++
      (wr16 (UInt16.ofNat c.exceptions.length) ++ c.exceptions.flatMap writeException ++
        wr16 (UInt16.ofNat c.attributes.length) ++ c.attributes.flatMap writeAttribute ++ r), ?_⟩
    conv_lhs => rw [writeCode]
    simp only [List.append_assoc]
    rw [← List.append_assoc c.array, ← hsplit]
  have hread : Parser.Reads readCodeArray (wr16 c.maxStack ++ (wr16 c.maxLocals ++
      (wr32 (UInt32.ofNat c.code.length) ++ c.array))) c.array :=
    (reads_rd16 _).bind ((reads_rd16 _).bind ((reads_rd32 _).bind (reads_copyN _ hlen)))
  exact ⟨tail, htail ▸ hread tail⟩

/-! ## Before and after -/

/-- What is found in an attribute table and in the rebuilt one: the Code attribute is patched
if it has the index that the editor looks for, and is left alone otherwise. -/
inductive CodeArrays (cp : List CpEntry) (codeUtf8 : UInt16) (insertion : Bytes) :
    Option (UInt16 × Bytes) → Option (UInt16 × Bytes) → Prop
  | none : CodeArrays cp codeUtf8 insertion none none
  | kept (nameIdx : UInt16) (hname : nameIdx ≠ codeUtf8) (code : Bytes) :
      CodeArrays cp codeUtf8 insertion (some (nameIdx, code)) (some (nameIdx, code))
  | patched (c c' : CodeBody) (hc : c.Fits) (hc' : Prepended cp insertion c c') :
      CodeArrays cp codeUtf8 insertion (some (codeUtf8, c.array)) (some (codeUtf8, c'.array))

/-- An attribute with another name is stepped over. -/
lemma findCode_skip {cp : List CpEntry} (a : UInt16 × Bytes)
    (hname : cpUtf8Value cp a.1 ≠ .ok (ascii "Code")) (hlen : a.2.length < 4294967296)
    (n : ℕ) (r : Bytes) :
    findCode cp (n + 1) (writeAttribute a ++ r) = findCode cp n r := by
  simp only [writeAttribute, List.append_assoc]
  rw [findCode, Parser.bind_apply, reads_rd16]
  change ((rd32 >>= _) _) = _
  rw [Parser.bind_apply, reads_rd32]
  change ((if cpUtf8Value cp a.1 = _ then _ else _ : Reader (Option (UInt16 × Bytes))) _) = _
  rw [if_neg hname, Parser.bind_apply, reads_copyN a.2 (toNat_ofNat_u4 hlen)]
  rfl

/-- The code array of an attribute with the name is found. -/
lemma findCode_hit {cp : List CpEntry} {nameIdx : UInt16}
    (hname : cpUtf8Value cp nameIdx = .ok (ascii "Code")) (c : CodeBody) (n : ℕ) (r : Bytes) :
    ∃ rest, findCode cp (n + 1) (writeAttribute (nameIdx, writeCode c) ++ r) =
      .ok (some (nameIdx, c.array), rest) := by
  obtain ⟨rest, hrest⟩ := readCodeArray_writeCode c r
  refine ⟨rest, ?_⟩
  simp only [writeAttribute, List.append_assoc]
  rw [findCode, Parser.bind_apply, reads_rd16]
  change ((rd32 >>= _) _) = _
  rw [Parser.bind_apply, reads_rd32]
  change ((if cpUtf8Value cp nameIdx = _ then _ else _ : Reader (Option (UInt16 × Bytes))) _) = _
  rw [if_pos hname, Parser.bind_apply, hrest]
  rfl

/-- The search finds the Code attribute of the rebuilt table where it was before. -/
lemma findCode_rebuilt {cp new : List CpEntry} {codeUtf8 : UInt16} {insertion : Bytes}
    {extraStack : UInt16} (hcode : cpUtf8Value (cp ++ new) codeUtf8 = .ok (ascii "Code"))
    {l : List Attribute} (hl : ∀ a ∈ l, a.WellFormed cp) {attrs : List (UInt16 × Bytes)}
    (h : List.Forall₂ (Rebuilt (cp ++ new) codeUtf8 insertion extraStack) l attrs) :
    ∃ x x' rest rest', CodeArrays (cp ++ new) codeUtf8 insertion x x' ∧
      findCode cp l.length (l.flatMap Attribute.encode) = .ok (x, rest) ∧
      findCode (cp ++ new) l.length (attrs.flatMap writeAttribute) = .ok (x', rest') := by
  induction h with
  | nil => exact ⟨none, none, [], [], .none, rfl, rfl⟩
  | @cons a b l attrs hab hrest ih =>
    obtain ⟨hlt, ha⟩ := hl a List.mem_cons_self
    have hvalue : cpUtf8Value (cp ++ new) a.name = cpUtf8Value cp a.name :=
      cpUtf8Value_append hlt new
    simp only [List.flatMap_cons, List.length_cons]
    -- the first attribute called "Code" decides, whichever constant its name is
    by_cases hname : cpUtf8Value cp a.name = .ok (ascii "Code")
    · obtain ⟨c, hinfo, hc⟩ := ha hname
      obtain ⟨rest, hfind⟩ := findCode_hit hname c l.length (l.flatMap Attribute.encode)
      have hbefore : findCode cp (l.length + 1) (a.encode ++ l.flatMap Attribute.encode) =
          .ok (some (a.name, c.array), rest) := by
        rw [← hfind, ← hinfo]
        rfl
      cases hab with
      | kept hne hb =>
        obtain ⟨rest', hfind'⟩ := findCode_hit (hvalue.trans hname) c l.length
          (attrs.flatMap writeAttribute)
        refine ⟨_, _, rest, rest', .kept a.name hne c.array, hbefore, ?_⟩
        rw [hb, hinfo]
        exact hfind'
      | patched heq c₀ c' hinfo₀ hc₀ hpatch hc' hb =>
        obtain ⟨rest', hfind'⟩ := findCode_hit (hvalue.trans hname) c' l.length
          (attrs.flatMap writeAttribute)
        obtain ⟨rest₀, hfind₀⟩ := findCode_hit hname c₀ l.length (l.flatMap Attribute.encode)
        refine ⟨_, _, rest₀, rest', .patched c₀ c' hc₀.toFits hc', ?_, ?_⟩
        · rw [← heq, ← hfind₀, ← hinfo₀]
          rfl
        · rw [hb, ← heq]
          exact hfind'
    · have hb : b = (a.name, a.info) := by
        cases hab with
        | kept _ hb => exact hb
        | patched heq c₀ c' hinfo₀ hc₀ hpatch hc' hb =>
          rw [← heq, hvalue] at hcode
          exact absurd hcode hname
      obtain ⟨x, x', rest, rest', hx, hbefore, hafter⟩ :=
        ih fun a' ha' => hl a' (List.mem_cons_of_mem a ha')
      refine ⟨x, x', rest, rest', hx, ?_, ?_⟩
      · exact (findCode_skip (a.name, a.info) hname a.length_lt _ _).trans hbefore
      · rw [hb]
        exact (findCode_skip (a.name, a.info) (hvalue ▸ hname) a.length_lt _ _).trans hafter

lemma codeArray_append {cp : List CpEntry} {n : ℕ} (hn : n < 65536) {s : Bytes}
    {x : Option (UInt16 × Bytes)} {rest : Bytes} (h : findCode cp n s = .ok (x, rest)) :
    codeArray cp (wr16 (UInt16.ofNat n) ++ s) = .ok x := by
  rw [codeArray, Parser.bind_apply, reads_rd16]
  change (findCode cp (UInt16.ofNat n).toNat s).map Prod.fst = _
  rw [toNat_ofNat_u2 hn, h]
  rfl

/-! ## The meaning of the code -/

/-- The code decodes from the offset `n` on to the instructions `is` with their targets moved
by `n`. -/
def DecodesShifted (n : ℕ) (is : List Instr) (code : Bytes) : Prop :=
  n ≤ code.length ∧ decode n (code.drop n) = .ok (is.map (Instr.shift n))

lemma decodesShifted_patched_iff {cp : List CpEntry} {insertion : Bytes} {c c' : CodeBody}
    (hc : c.Fits) (hc' : Prepended cp insertion c c') {is : List Instr}
    (hdecode : decode 0 c.code = .ok is) :
    DecodesShifted insertion.length is c'.array ↔
      insertion.length + c.code.length < 4294967296 ∧
        (4 ∣ insertion.length ∨ ∀ i ∈ is, i.isSwitch = false) := by
  have hlen : c'.code.length = insertion.length + c.code.length := by
    rw [hc'.code_eq, List.length_append]
  have hcode := hc.code_lt
  by_cases hfits : insertion.length + c.code.length < 4294967296
  · have harray : c'.array = insertion ++ c.code := by
      rw [CodeBody.array_of_fits (hlen ▸ hfits), hc'.code_eq]
    have hshift := decode_shift_iff (n := insertion.length) hdecode
    rw [Nat.zero_add] at hshift
    rw [DecodesShifted, harray, List.drop_left, hshift, List.length_append]
    simp [hfits]
  · -- the length of the new code is reduced below the length of the insertion
    have hshort : c'.array.length < insertion.length := by
      rw [CodeBody.array, List.length_take, hlen, UInt32.toNat_ofNat']
      omega
    constructor
    · rintro ⟨hle, -⟩
      omega
    · rintro ⟨hlt, -⟩
      exact absurd hlt hfits

/-- The new code array of the method at `k` means what the old one meant, with the targets
moved by the length of the insertion. -/
def MeaningKept (ed' : Editor) (k : ℕ) (insertion : Bytes) (is : List Instr) : Prop :=
  ∃ m' nameIdx' code', ed'.methods[k]? = some m' ∧
    codeArray ed'.cp m'.attributesRaw = .ok (some (nameIdx', code')) ∧
    DecodesShifted insertion.length is code'

/-- The editor of the sample class with a reference to the hook. -/
def sampleEditor : Editor :=
  { sampleLayout.editor (ascii "A") with
    cp := poolSlots (sampleLayout.pool ++
      [Constant.utf8 (ascii "H") (by decide), Constant.index 8,
        Constant.utf8 (ascii "h") (by decide), Constant.pair CP_NameAndType 10 4 (.inl rfl),
        Constant.pair CP_Methodref 9 11 (.inr rfl)]) }

/-- The five bytes `aload_0; aload_1; invokestatic` of the hook. -/
def sampleInsertion : Bytes := [0x2A, 0x2B, 0xB8, 0, 12]

def sampleInstrs : List Instr := [.plain 0x03 [], .tableswitch 20 0 0 [20], .plain 0xB1 []]

lemma sampleEditor_reachable : sampleEditor.Reachable := by
  have hparse : parse sampleLayout.encode = .ok (sampleLayout.editor (ascii "A")) := by decide
  refine .edited (.parsed sampleLayout sampleLayout_wellFormed hparse)
    (.addMethodRef (ascii "H") (ascii "h") (ascii "()V")) ?_ ?_ ?_
  · decide
  · decide
  · decide

lemma sampleEditor_findTarget : sampleEditor.findTarget (ascii "m") (ascii "()V") =
    .ok (some (0, (⟨1, 3, 4, [⟨5, writeCode sampleCode, by decide⟩], by decide⟩ : Member).info,
      5, sampleEditor)) := by
  decide

/-- The code after the insertion means what it meant before exactly when the editor finds the
Code attribute, the length of the new code fits in 32 bits, and the padding of the switches
does not change.  An attribute called "Code" through another constant is left alone; then the
old code itself would have to decode again from the offset on, as it does for the empty
insertion. -/
theorem prependToMethodCode_meaningKept_iff {ed : Editor} (hed : ed.Reachable)
    {name desc : Bytes} {k : ℕ} {m : MethodInfo} {codeUtf8 : UInt16} {ed₁ : Editor}
    (htarget : ed.findTarget name desc = .ok (some (k, m, codeUtf8, ed₁)))
    {nameIdx : UInt16} {code : Bytes}
    (hcode : codeArray ed.cp m.attributesRaw = .ok (some (nameIdx, code))) {is : List Instr}
    (hdecode : decode 0 code = .ok is) (insertion : Bytes) (extraStack : UInt16) :
    ∃ ed', ed.prependToMethodCode name desc insertion extraStack = .ok (true, ed') ∧
      (MeaningKept ed' k insertion is ↔
        if nameIdx = codeUtf8 then
          insertion.length + code.length < 4294967296 ∧
            (4 ∣ insertion.length ∨ ∀ i ∈ is, i.isSwitch = false)
        else DecodesShifted insertion.length is code) := by
  obtain ⟨hsound, hm, hvalue, hmethods, new, hnew⟩ :=
    (Editor.findTarget_yields hed.sound name desc).of_ok htarget k m codeUtf8 ed₁ rfl
  obtain ⟨m₀, hm₀, rfl⟩ := hed.sound.exists_member hm
  obtain ⟨pool, hpool⟩ := hsound.pool
  have hm₁ : m₀.WellFormed (poolSlots pool) := by
    rw [← hpool, hnew]
    exact hm₀.append new
  obtain ⟨attrs, -, hraw, hrebuilt⟩ :=
    rebuildCodeAttribute_ok insertion extraStack hm₁ (hpool ▸ hvalue)
  rw [← hpool] at hraw hrebuilt
  rw [hnew] at hrebuilt hvalue
  obtain ⟨x, x', rest, rest', hx, hfind, hfind'⟩ := findCode_rebuilt hvalue hm₀ hrebuilt
  have hbefore : codeArray ed.cp m₀.info.attributesRaw = .ok x :=
    codeArray_append m₀.length_lt hfind
  have hafter := codeArray_append m₀.length_lt hfind'
  rw [← hnew] at hafter
  obtain ⟨hlt, -⟩ := List.getElem?_eq_some_iff.mp hm
  refine ⟨_, Editor.prependToMethodCode_of_target htarget hraw, ?_⟩
  have hkept : MeaningKept { ed₁ with methods := ed₁.methods.set k { m₀.info with
      attributesRaw := wr16 (UInt16.ofNat m₀.attributes.length) ++ attrs.flatMap writeAttribute } }
      k insertion is ↔ ∃ nameIdx' code', x' = some (nameIdx', code') ∧
        DecodesShifted insertion.length is code' := by
    constructor
    · rintro ⟨m', nameIdx', code', hm', hcode', hdec⟩
      rw [List.getElem?_set_self (hmethods ▸ hlt)] at hm'
      obtain rfl := Option.some.inj hm'
      exact ⟨nameIdx', code', Except.ok.inj (hafter.symm.trans hcode'), hdec⟩
    · rintro ⟨nameIdx', code', rfl, hdec⟩
      exact ⟨_, nameIdx', code', List.getElem?_set_self (hmethods ▸ hlt), hafter, hdec⟩
  rw [hkept]
  have hx₀ := Except.ok.inj (hbefore.symm.trans hcode)
  cases hx with
  | none => cases hx₀
  | kept nameIdx₀ hname code₀ =>
    cases hx₀
    rw [if_neg hname]
    constructor
    · rintro ⟨nameIdx', code', heq, hdec⟩
      cases heq
      exact hdec
    · exact fun hdec => ⟨nameIdx, code, rfl, hdec⟩
  | patched c c' hc hc' =>
    cases hx₀
    rw [CodeBody.array_of_fits hc.code_lt] at hdecode ⊢
    rw [if_pos rfl, ← decodesShifted_patched_iff hc hc' hdecode]
    constructor
    · rintro ⟨nameIdx', code', heq, hdec⟩
      cases heq
      exact hdec
    · exact fun hdec => ⟨_, _, rfl, hdec⟩

/-- Four bytes in front of a `tableswitch` keep its meaning. -/
theorem prependToMethodCode_meaningKept_sample : ∃ ed',
    sampleEditor.prependToMethodCode (ascii "m") (ascii "()V") [0, 0, 0, 0] 2 =
      .ok (true, ed') ∧ MeaningKept ed' 0 [0, 0, 0, 0] sampleInstrs := by
  have hcode : codeArray sampleEditor.cp
      (⟨1, 3, 4, [⟨5, writeCode sampleCode, by decide⟩], by decide⟩ : Member).info.attributesRaw =
        .ok (some (5, sampleCode.code)) := by decide
  have hdecode : decode 0 sampleCode.code = .ok sampleInstrs := by decide
  obtain ⟨ed', hprepend, hiff⟩ := prependToMethodCode_meaningKept_iff sampleEditor_reachable
    sampleEditor_findTarget hcode hdecode [0, 0, 0, 0] 2
  refine ⟨ed', hprepend, hiff.mpr ?_⟩
  rw [if_pos rfl]
  exact ⟨by decide, .inl (by decide)⟩

/-- The five bytes of the hook do not: the switch is read with another padding. -/
theorem prependToMethodCode_meaning_lost : sampleEditor.Reachable ∧ ∃ ed' m',
    sampleEditor.methods[0]? = some m' ∧
    codeArray sampleEditor.cp m'.attributesRaw = .ok (some (5, sampleCode.code)) ∧
    decode 0 sampleCode.code = .ok sampleInstrs ∧
    decode 0 sampleInsertion =
      .ok [.plain 0x2A [], .plain 0x2B [], .plain 0xB8 [0, 12]] ∧
    sampleEditor.prependToMethodCode (ascii "m") (ascii "()V") sampleInsertion 2 =
      .ok (true, ed') ∧ ¬ MeaningKept ed' 0 sampleInsertion sampleInstrs := by
  refine ⟨sampleEditor_reachable, _, _, rfl, by decide, by decide, by decide, rfl, ?_⟩
  rintro ⟨m', nameIdx', code', hm', hcode', -, hdec⟩
  cases hm'
  cases hcode'
  revert hdec
  decide

end ClassFile
end SakuraTools
