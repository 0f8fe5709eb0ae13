import SakuraTools.ClassFile.Lookup
import SakuraTools.ClassFile.Meaning

/-!
# The result of `prependToMethodCode`

The hook reports a patched method when the editor returns true.  The editor compares indices of
constants, not strings, and returns true as soon as it has found the method.
-/

namespace SakuraTools
namespace ClassFile

/-! ## What the result should say -/

namespace Editor

/-- The method at `k` has a Code attribute with the given code. -/
def CodeAt (ed : Editor) (k : ℕ) (code : Bytes) : Prop :=
  ∃ m nameIdx, ed.methods[k]? = some m ∧
    codeArray ed.cp m.attributesRaw = .ok (some (nameIdx, code))

/-- The method at `k` has the name and the descriptor. -/
def NamedAt (ed : Editor) (name desc : Bytes) (k : ℕ) : Prop :=
  ∃ m, ed.methods[k]? = some m ∧ Utf8At ed.cp m.nameIndex name ∧
    Utf8At ed.cp m.descriptorIndex desc

/-- The code of the method at `k` begins with the insertion, followed by its old code. -/
def PrependedAt (ed ed' : Editor) (insertion : Bytes) (k : ℕ) : Prop :=
  ∃ code code', ed.CodeAt k code ∧ ed'.CodeAt k code' ∧ insertion ++ code <+: code'

end Editor

/-- The editor returns true exactly when there is a method with the name, the descriptor and a
Code attribute; then it patches exactly one such method, and else none. -/
def TellsTruth (ed : Editor) (name desc insertion : Bytes) (extraStack : UInt16) : Prop :=
  ∃ found ed', ed.prependToMethodCode name desc insertion extraStack = .ok (found, ed') ∧
    (found = true ↔ ∃ k code, ed.NamedAt name desc k ∧ ed.CodeAt k code) ∧
    (found = true → ∃! k, ed.NamedAt name desc k ∧ ed.PrependedAt ed' insertion k) ∧
    (found = false → ed'.methods = ed.methods)

/-- No method is selected, and none has the name, the descriptor and a Code attribute; or the
selected method has a Code attribute with the name that the editor looks for, and the length of
its new code fits in 32 bits. -/
def SpelledFirst (ed : Editor) (name desc insertion : Bytes) : Prop :=
  ((∀ k, ¬ ed.Selects name desc k) ∧ ∀ k code, ¬ (ed.NamedAt name desc k ∧ ed.CodeAt k code)) ∨
    ∃ k m codeUtf8 code, ed.Selects name desc k ∧ ed.methods[k]? = some m ∧
      ed.findUtf8 (ascii "Code") = .ok codeUtf8 ∧
      codeArray ed.cp m.attributesRaw = .ok (some (codeUtf8, code)) ∧
      insertion.length + code.length < 4294967296

/-! ## Code arrays in a growing pool -/

/-- The search for the Code attribute does not depend on constants that are added. -/
lemma findCode_append {cp : List CpEntry} {l : List Attribute} (hl : ∀ a ∈ l, a.WellFormed cp)
    (new : List CpEntry) : ∃ x rest rest',
      findCode cp l.length (l.flatMap Attribute.encode) = .ok (x, rest) ∧
      findCode (cp ++ new) l.length (l.flatMap Attribute.encode) = .ok (x, rest') ∧
      ∀ nameIdx code, x = some (nameIdx, code) →
        nameIdx.toNat < cp.length ∧ cpUtf8Value cp nameIdx = .ok (ascii "Code") := by
  induction l with
  | nil => exact ⟨none, [], [], rfl, rfl, by simp⟩
  | cons a l ih =>
    obtain ⟨hlt, ha⟩ := hl a List.mem_cons_self
    have hvalue : cpUtf8Value (cp ++ new) a.name = cpUtf8Value cp a.name :=
      cpUtf8Value_append hlt new
    simp only [List.flatMap_cons, List.length_cons]
    by_cases hname : cpUtf8Value cp a.name = .ok (ascii "Code")
    · obtain ⟨c, hinfo, -⟩ := ha hname
      have hencode : a.encode = writeAttribute (a.name, writeCode c) := by
        rw [← hinfo]
        rfl
      obtain ⟨rest, hfind⟩ := findCode_hit hname c l.length (l.flatMap Attribute.encode)
      obtain ⟨rest', hfind'⟩ :=
        findCode_hit (hvalue.trans hname) c l.length (l.flatMap Attribute.encode)
      refine ⟨_, rest, rest', hencode ▸ hfind, hencode ▸ hfind', ?_⟩
      rintro nameIdx code heq
      cases heq
      exact ⟨hlt, hname⟩
    · obtain ⟨x, rest, rest', hbefore, hafter, hx⟩ :=
        ih fun a' ha' => hl a' (List.mem_cons_of_mem a ha')
      refine ⟨x, rest, rest', ?_, ?_, hx⟩
      · exact (findCode_skip (a.name, a.info) hname a.length_lt _ _).trans hbefore
      · exact (findCode_skip (a.name, a.info) (hvalue ▸ hname) a.length_lt _ _).trans hafter

lemma codeArray_pool {cp : List CpEntry} {m : Member} (hm : m.WellFormed cp)
    (new : List CpEntry) : ∃ x, codeArray cp m.encodeAttributes = .ok x ∧
      codeArray (cp ++ new) m.encodeAttributes = .ok x ∧
      ∀ nameIdx code, x = some (nameIdx, code) →
        nameIdx.toNat < cp.length ∧ cpUtf8Value cp nameIdx = .ok (ascii "Code") := by
  obtain ⟨x, rest, rest', hbefore, hafter, hx⟩ := findCode_append hm new
  exact ⟨x, codeArray_append m.length_lt hbefore, codeArray_append m.length_lt hafter, hx⟩

namespace Editor

lemma CodeAt.unique {ed : Editor} {k : ℕ} {code code' : Bytes} (h : ed.CodeAt k code)
    (h' : ed.CodeAt k code') : code = code' := by
  obtain ⟨m, nameIdx, hm, hcode⟩ := h
  obtain ⟨m', nameIdx', hm', hcode'⟩ := h'
  cases hm.symm.trans hm'
  cases hcode.symm.trans hcode'
  rfl

/-- A method whose code has not changed has nothing in front of it. -/
lemma not_prependedAt {ed ed' : Editor} {insertion : Bytes} (hne : insertion ≠ []) {k : ℕ}
    (h : ∀ code, ed'.CodeAt k code → ed.CodeAt k code) : ¬ ed.PrependedAt ed' insertion k := by
  rintro ⟨code, code', hcode, hcode', hprefix⟩
  have hsame := hcode.unique (h code' hcode')
  have hlen := hprefix.length_le
  have hpos := List.length_pos_of_ne_nil hne
  rw [hsame, List.length_append] at hlen
  omega

end Editor

/-! ## What it says -/

/-- The method after the call, when one is selected: the code of the selected method is the old
one or the patched one, and the others have the code that they had. -/
lemma exists_outcome {L : Layout} (hL : L.WellFormed) {ed : Editor}
    (hparse : parse L.encode = .ok ed) {name desc : Bytes} {k : ℕ} (hsel : ed.Selects name desc k)
    (insertion : Bytes) (extraStack : UInt16) :
    ∃ codeUtf8 ed₁ ed' m new x x', ed.addUtf8 (ascii "Code") = .ok (codeUtf8, ed₁) ∧
      ed.prependToMethodCode name desc insertion extraStack = .ok (true, ed') ∧
      ed.methods[k]? = some m ∧ codeArray ed.cp m.attributesRaw = .ok x ∧
      (∀ nameIdx code, x = some (nameIdx, code) → nameIdx.toNat < ed.cp.length ∧
        cpUtf8Value ed.cp nameIdx = .ok (ascii "Code")) ∧
      CodeArrays (ed.cp ++ new) codeUtf8 insertion x x' ∧
      (∀ code, ed'.CodeAt k code ↔ ∃ nameIdx, x' = some (nameIdx, code)) ∧
      ∀ k' ≠ k, ∀ code, ed'.CodeAt k' code → ed.CodeAt k' code := by
  obtain ⟨hcp, hmethods, hle⟩ := Editor.parsed_fields hparse
  have hsound := Editor.sound_of_parse hL hparse
  obtain ⟨mi, hmi, -⟩ := hsel.named hle
  obtain ⟨m, hm, rfl⟩ := hsound.exists_member hmi
  obtain ⟨codeUtf8, ed₁, new, attrs, hadd, hmethods₁, hnew, hvalue, hrebuilt, hrun⟩ :=
    Editor.prependToMethodCode_of_selects hsound hle hsel hmi hm insertion extraStack
  rw [hnew] at hvalue hrebuilt
  obtain ⟨x, x', rest, rest', hx, hfind, hfind'⟩ := findCode_rebuilt hvalue hm hrebuilt
  have hbefore : codeArray ed.cp m.info.attributesRaw = .ok x := codeArray_append m.length_lt hfind
  have hafter := codeArray_append m.length_lt hfind'
  obtain ⟨x₀, hx₀, -, hnames⟩ := codeArray_pool hm new
  cases hbefore.symm.trans hx₀
  obtain ⟨hlt, -⟩ := List.getElem?_eq_some_iff.mp hmi
  refine ⟨codeUtf8, ed₁, _, m.info, new, x, x', hadd, hrun, hmi, hbefore, hnames, hx, ?_, ?_⟩
  · intro code
    constructor
    · rintro ⟨m', nameIdx, hm', hcode⟩
      rw [List.getElem?_set_self (hmethods₁ ▸ hlt)] at hm'
      obtain rfl := Option.some.inj hm'
      rw [← hnew] at hafter
      exact ⟨nameIdx, Except.ok.inj (hafter.symm.trans hcode)⟩
    · rintro ⟨nameIdx, rfl⟩
      refine ⟨_, nameIdx, List.getElem?_set_self (hmethods₁ ▸ hlt), ?_⟩
      rw [← hnew] at hafter
      exact hafter
  · rintro k' hne code ⟨m', nameIdx, hm', hcode⟩
    rw [List.getElem?_set_ne hne.symm, hmethods₁] at hm'
    obtain ⟨m₀, hm₀, rfl⟩ := hsound.exists_member hm'
    obtain ⟨y, hy, hy', -⟩ := codeArray_pool hm₀ new
    rw [← hnew] at hy'
    cases hy'.symm.trans hcode
    exact ⟨m₀.info, nameIdx, hm', hy⟩

lemma codeAt_iff {ed : Editor} {k : ℕ} {m : MethodInfo} {x : Option (UInt16 × Bytes)}
    (hm : ed.methods[k]? = some m) (hx : codeArray ed.cp m.attributesRaw = .ok x) (code : Bytes) :
    ed.CodeAt k code ↔ ∃ nameIdx, x = some (nameIdx, code) := by
  constructor
  · rintro ⟨m', nameIdx, hm', hcode⟩
    cases hm.symm.trans hm'
    exact ⟨nameIdx, Except.ok.inj (hx.symm.trans hcode)⟩
  · rintro ⟨nameIdx, rfl⟩
    exact ⟨m, nameIdx, hm, hx⟩

/-- A code array has a length of 32 bits. -/
lemma CodeBody.length_array_lt (c : CodeBody) : c.array.length < 4294967296 := by
  have := (UInt32.ofNat c.code.length).toNat_lt
  rw [CodeBody.array, List.length_take]
  omega

/-- If the result is right, the name of the Code attribute is the one that the editor has looked
for. -/
lemma spelledFirst_of_tellsTruth {L : Layout} (hL : L.WellFormed) {ed : Editor}
    (hparse : parse L.encode = .ok ed) {name desc insertion : Bytes} (hne : insertion ≠ [])
    {extraStack : UInt16} (h : TellsTruth ed name desc insertion extraStack) :
    SpelledFirst ed name desc insertion := by
  obtain ⟨-, -, hle⟩ := Editor.parsed_fields hparse
  obtain ⟨found, ed₀, hrun₀, hiff, hone, -⟩ := h
  by_cases hany : ∃ k, ed.Selects name desc k
  · obtain ⟨k, hsel⟩ := hany
    obtain ⟨codeUtf8, ed₁, ed', m, new, x, x', hadd, hrun, hm, hx, hnames, harrays, hafter,
      hother⟩ := exists_outcome hL hparse hsel insertion extraStack
    cases hrun.symm.trans hrun₀
    obtain ⟨k', ⟨-, hprepended⟩, -⟩ := hone rfl
    have hk : k' = k := by
      by_contra hk
      exact Editor.not_prependedAt hne (hother k' hk) hprepended
    subst hk
    refine .inr ?_
    cases harrays with
    | none =>
      obtain ⟨code, -, hcode, -⟩ := hprepended
      obtain ⟨nameIdx, heq⟩ := (codeAt_iff hm hx code).mp hcode
      cases heq
    | kept nameIdx _ code =>
      refine absurd hprepended (Editor.not_prependedAt hne fun code' hcode' => ?_)
      exact (codeAt_iff hm hx code').mpr ((hafter code').mp hcode')
    | patched c c' hc hc' =>
      obtain ⟨code, code', hcode, hcode', hprefix⟩ := hprepended
      obtain ⟨_, rfl, rfl⟩ := (codeAt_iff hm hx code).mp hcode
      obtain ⟨_, rfl, rfl⟩ := (hafter code').mp hcode'
      obtain ⟨hlt, -⟩ := hnames codeUtf8 c.array rfl
      have hlen := hprefix.length_le
      have hbound := c'.length_array_lt
      rw [List.length_append] at hlen
      exact ⟨k', m, codeUtf8, c.array, hsel, hm, (Editor.findUtf8_of_addUtf8 hle hadd hlt).2, hx,
        by omega⟩
  · push Not at hany
    rw [Editor.prependToMethodCode_of_not_selects hle hany] at hrun₀
    cases hrun₀
    refine .inl ⟨hany, fun k code hk => ?_⟩
    have htrue := hiff.mpr ⟨k, code, hk⟩
    cases htrue

/-- And if it is, the result is right. -/
lemma tellsTruth_of_spelledFirst {L : Layout} (hL : L.WellFormed) {ed : Editor}
    (hparse : parse L.encode = .ok ed) {name desc insertion : Bytes} (hne : insertion ≠ [])
    (extraStack : UInt16) (h : SpelledFirst ed name desc insertion) :
    TellsTruth ed name desc insertion extraStack := by
  obtain ⟨-, -, hle⟩ := Editor.parsed_fields hparse
  rcases h with ⟨hnone, hmissing⟩ | ⟨k, m₀, nameIdx, code, hsel, hm₀, hfind, hcode, hlt⟩
  · refine ⟨false, ed, Editor.prependToMethodCode_of_not_selects hle hnone insertion extraStack,
      ?_, by simp, fun _ => rfl⟩
    constructor
    · intro h
      cases h
    · rintro ⟨k, code, hk⟩
      exact absurd hk (hmissing k code)
  · obtain ⟨codeUtf8, ed₁, ed', m, new, x, x', hadd, hrun, hm, hx, hnames, harrays, hafter,
      hother⟩ := exists_outcome hL hparse hsel insertion extraStack
    cases hm.symm.trans hm₀
    cases hx.symm.trans hcode
    have hnamed : ed.NamedAt name desc k := hsel.named hle
    have hne₀ := (utf8At_of_cpUtf8Value (hnames nameIdx code rfl).2 (by decide)).1
    obtain ⟨rfl, -⟩ := Editor.addUtf8_inv hfind hne₀ hadd
    have hprepended : ed.PrependedAt ed' insertion k := by
      cases harrays with
      | kept _ hname => exact absurd rfl hname
      | patched c c' hc hc' =>
        have hold : c.array = c.code := CodeBody.array_of_fits hc.code_lt
        have hlen : c'.code.length < 4294967296 := by
          rw [hc'.code_eq, List.length_append, ← hold]
          exact hlt
        have harray : c'.array = insertion ++ c.array := by
          rw [CodeBody.array_of_fits hlen, hc'.code_eq, hold]
        refine ⟨c.array, c'.array, (codeAt_iff hm hx _).mpr ⟨_, rfl⟩, (hafter _).mpr ⟨_, rfl⟩, ?_⟩
        exact ⟨[], by rw [harray, List.append_nil]⟩
    refine ⟨true, ed', hrun, ?_, fun _ => ⟨k, ⟨hnamed, hprepended⟩, ?_⟩, by simp⟩
    · exact ⟨fun _ => ⟨k, code, hnamed, (codeAt_iff hm hx code).mpr ⟨_, rfl⟩⟩, fun _ => rfl⟩
    · rintro k' ⟨-, hk'⟩
      by_contra hne'
      exact Editor.not_prependedAt hne (hother k' hne') hk'

/-- The result of `prependToMethodCode` is right exactly when the class spells the name, the
descriptor and "Code" with the first constants of these strings. -/
theorem prependToMethodCode_tellsTruth_iff {L : Layout} (hL : L.WellFormed) {ed : Editor}
    (hparse : parse L.encode = .ok ed) (name desc : Bytes) {insertion : Bytes}
    (hne : insertion ≠ []) (extraStack : UInt16) :
    TellsTruth ed name desc insertion extraStack ↔ SpelledFirst ed name desc insertion :=
  ⟨fun h => spelledFirst_of_tellsTruth hL hparse hne h,
    fun h => tellsTruth_of_spelledFirst hL hparse hne extraStack h⟩

theorem prependToMethodCode_tellsTruth_sample :
    TellsTruth (sampleLayout.editor (ascii "A")) (ascii "m") (ascii "()V") sampleInsertion 2 := by
  have hparse : parse sampleLayout.encode = .ok (sampleLayout.editor (ascii "A")) := by decide
  refine (prependToMethodCode_tellsTruth_iff sampleLayout_wellFormed hparse (ascii "m")
    (ascii "()V") (by decide) 2).mpr (.inr ⟨0, _, 5, sampleCode.code, ?_, rfl, ?_, ?_, ?_⟩)
  · exact ⟨3, 4, by decide, by decide, by decide, by decide, by decide⟩
  · decide
  · decide
  · decide

/-- The sample class with a native method. -/
def nativeLayout : Layout :=
  { sampleLayout with
    methods := [⟨0x101, 3, 4, [], by decide⟩]
    methods_lt := by decide }

/-- A native method has no Code attribute to patch, and the editor returns true. -/
theorem prependToMethodCode_tellsTruth_native : nativeLayout.WellFormed ∧
    parse nativeLayout.encode = .ok (nativeLayout.editor (ascii "A")) ∧
    (nativeLayout.editor (ascii "A")).prependToMethodCode (ascii "m") (ascii "()V")
        sampleInsertion 2 = .ok (true, nativeLayout.editor (ascii "A")) ∧
    (∀ k code, ¬ (nativeLayout.editor (ascii "A")).CodeAt k code) ∧
    ¬ TellsTruth (nativeLayout.editor (ascii "A")) (ascii "m") (ascii "()V")
        sampleInsertion 2 := by
  have hrun : (nativeLayout.editor (ascii "A")).prependToMethodCode (ascii "m") (ascii "()V")
      sampleInsertion 2 = .ok (true, nativeLayout.editor (ascii "A")) := by decide
  have hnone : ∀ k code, ¬ (nativeLayout.editor (ascii "A")).CodeAt k code := by
    rintro k code ⟨m, nameIdx, hm, hcode⟩
    have hmem : m ∈ [(⟨0x101, 3, 4, [], by decide⟩ : Member).info] := List.mem_of_getElem? hm
    rw [List.mem_singleton.mp hmem] at hcode
    revert hcode
    simp [show codeArray (nativeLayout.editor (ascii "A")).cp
      (⟨0x101, 3, 4, [], by decide⟩ : Member).info.attributesRaw = .ok none by decide]
  refine ⟨⟨?_, sampleLayout_wellFormed.thisName⟩, by decide, hrun, hnone, ?_⟩
  · intro m hm a ha
    rw [List.mem_singleton.mp hm] at ha
    cases ha
  · rintro ⟨found, ed', hrun', hiff, -, -⟩
    cases hrun.symm.trans hrun'
    obtain ⟨k, code, -, hcode⟩ := hiff.mp rfl
    exact hnone k code hcode

end ClassFile
end SakuraTools
