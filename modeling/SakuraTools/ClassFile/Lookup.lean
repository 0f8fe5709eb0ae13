import SakuraTools.ClassFile.Edits

/-!
# The search for the method

Which method `prependToMethodCode` patches: the first one whose name and descriptor are the
first Utf8 constants with the given strings.
-/

namespace SakuraTools
namespace ClassFile

/-- The constant at the index is the Utf8 constant of the string. -/
def Utf8At (cp : List CpEntry) (i : UInt16) (s : Bytes) : Prop :=
  i ≠ 0 ∧ ∃ e, cp[i.toNat]? = some e ∧ e.isUtf8 s = true

lemma utf8At_of_cpUtf8Value {cp : List CpEntry} {i : UInt16} {s : Bytes}
    (h : cpUtf8Value cp i = .ok s) (hs : s ≠ []) : Utf8At cp i s := by
  have hempty : ¬ (.ok [] : Except Fault Bytes) = .ok s := fun h => hs (Except.ok.inj h).symm
  unfold cpUtf8Value at h
  by_cases hi : i = 0
  · rw [if_pos hi] at h
    exact absurd h hempty
  · rw [if_neg hi] at h
    cases he : cp[i.toNat]? with
    | none =>
      rw [he] at h
      exact absurd h hempty
    | some e =>
      refine ⟨hi, e, he, ?_⟩
      simp only [he] at h
      by_cases htag : e.tag ≠ CP_Utf8
      · rw [if_pos htag] at h
        exact absurd h hempty
      · rw [if_neg htag] at h
        rw [not_not] at htag
        rcases hbody : e.body with _ | ⟨a, _ | ⟨b, t⟩⟩
        · rw [hbody] at h
          exact absurd h hempty
        · rw [hbody] at h
          exact absurd h hempty
        · simp only [hbody] at h
          split at h
          · rename_i hle
            obtain rfl := Except.ok.inj h
            simp [CpEntry.isUtf8, hbody, htag, hle]
          · cases h

namespace Editor

/-- The method that `prependToMethodCode` selects. -/
def Selects (ed : Editor) (name desc : Bytes) (k : ℕ) : Prop :=
  ∃ nameIdx descIdx, nameIdx ≠ 0 ∧ ed.findUtf8 name = .ok nameIdx ∧
    descIdx ≠ 0 ∧ ed.findUtf8 desc = .ok descIdx ∧
    ed.methods.findIdx? (fun m => m.nameIndex == nameIdx && m.descriptorIndex == descIdx) = some k

lemma Selects.unique {ed : Editor} {name desc : Bytes} {k k' : ℕ} (h : ed.Selects name desc k)
    (h' : ed.Selects name desc k') : k = k' := by
  obtain ⟨nameIdx, descIdx, -, hname, -, hdesc, hfind⟩ := h
  obtain ⟨nameIdx', descIdx', -, hname', -, hdesc', hfind'⟩ := h'
  cases hname.symm.trans hname'
  cases hdesc.symm.trans hdesc'
  exact Option.some.inj (hfind.symm.trans hfind')

/-- In a pool that a class file can have, a search ends. -/
lemma findUtf8_total {ed : Editor} (hcp : ed.cp.length ≤ 65535) (s : Bytes) :
    ∃ i, ed.findUtf8 s = .ok i ∧ (i ≠ 0 → Utf8At ed.cp i s) := by
  rcases scan_yields ed.cp (CpEntry.isUtf8 s) with hdiv | ⟨r, hr, hspec⟩
  · unfold scan at hdiv
    split at hdiv
    · cases hdiv
    · rw [if_neg (by omega)] at hdiv
      cases hdiv
  · cases r with
    | none => exact ⟨0, by rw [findUtf8, hr]; rfl, fun h => absurd rfl h⟩
    | some i => exact ⟨i, by rw [findUtf8, hr]; rfl, fun _ => hspec⟩

lemma Selects.named {ed : Editor} (hcp : ed.cp.length ≤ 65535) {name desc : Bytes} {k : ℕ}
    (h : ed.Selects name desc k) : ∃ m, ed.methods[k]? = some m ∧
      Utf8At ed.cp m.nameIndex name ∧ Utf8At ed.cp m.descriptorIndex desc := by
  obtain ⟨nameIdx, descIdx, hn, hname, hd, hdesc, hfind⟩ := h
  obtain ⟨hlt, hm, -⟩ := List.findIdx?_eq_some_iff_getElem.mp hfind
  rw [Bool.and_eq_true, beq_iff_eq, beq_iff_eq] at hm
  obtain ⟨i, hi, hutf8⟩ := findUtf8_total hcp name
  obtain ⟨j, hj, hutf8'⟩ := findUtf8_total hcp desc
  cases hname.symm.trans hi
  cases hdesc.symm.trans hj
  refine ⟨_, List.getElem?_eq_getElem hlt, ?_, ?_⟩
  · rw [hm.1]
    exact hutf8 hn
  · rw [hm.2]
    exact hutf8' hd

lemma addUtf8_of_found {ed : Editor} {s : Bytes} {i : UInt16} (h : ed.findUtf8 s = .ok i)
    (hi : i ≠ 0) : ed.addUtf8 s = .ok (i, ed) := by
  rw [addUtf8, h]
  change (if i ≠ 0 then _ else _) = _
  rw [if_pos hi]
  rfl

lemma addUtf8_of_missing {ed : Editor} {s : Bytes} (h : ed.findUtf8 s = .ok 0) :
    ed.addUtf8 s = .ok (ed.addRawEntry CP_Utf8 (wr16 (UInt16.ofNat s.length) ++ s)) := by
  rw [addUtf8, h]
  rfl

lemma addUtf8_total {ed : Editor} (hcp : ed.cp.length ≤ 65535) (s : Bytes) :
    ∃ r, ed.addUtf8 s = .ok r := by
  obtain ⟨i, hi, -⟩ := findUtf8_total hcp s
  by_cases h0 : i = 0
  · subst h0
    exact ⟨_, addUtf8_of_missing hi⟩
  · exact ⟨_, addUtf8_of_found hi h0⟩

/-- What is found is returned, and nothing is added. -/
lemma addUtf8_inv {ed ed₁ : Editor} {s : Bytes} {i j : UInt16} (hi : ed.findUtf8 s = .ok i)
    (h0 : i ≠ 0) (h : ed.addUtf8 s = .ok (j, ed₁)) : i = j ∧ ed = ed₁ :=
  Prod.mk.inj (Except.ok.inj ((addUtf8_of_found hi h0).symm.trans h))

/-- An index of the old pool that `addUtf8` returns was found. -/
lemma findUtf8_of_addUtf8 {ed ed₁ : Editor} (hcp : ed.cp.length ≤ 65535) {s : Bytes} {i : UInt16}
    (h : ed.addUtf8 s = .ok (i, ed₁)) (hi : i.toNat < ed.cp.length) :
    i ≠ 0 ∧ ed.findUtf8 s = .ok i := by
  obtain ⟨j, hj, -⟩ := findUtf8_total hcp s
  by_cases h0 : j = 0
  · subst h0
    cases (addUtf8_of_missing hj).symm.trans h
    rw [toNat_ofNat_u2 (by omega)] at hi
    omega
  · obtain ⟨rfl, -⟩ := addUtf8_inv hj h0 h
    exact ⟨h0, hj⟩

/-- The search of `prependToMethodCode` ends with nothing, or with the selected method. -/
lemma findTarget_cases {ed : Editor} (hcp : ed.cp.length ≤ 65535) (name desc : Bytes) :
    (ed.findTarget name desc = .ok none ∧ ∀ k, ¬ ed.Selects name desc k) ∨
      ∃ k m r, ed.Selects name desc k ∧ ed.methods[k]? = some m ∧
        ed.addUtf8 (ascii "Code") = .ok r ∧
        ed.findTarget name desc = .ok (some (k, m, r.1, r.2)) := by
  obtain ⟨nameIdx, hname, -⟩ := findUtf8_total hcp name
  obtain ⟨descIdx, hdesc, -⟩ := findUtf8_total hcp desc
  obtain ⟨r, hr⟩ := addUtf8_total hcp (ascii "Code")
  rw [findTarget, hname, hdesc]
  by_cases h0 : nameIdx = 0 ∨ descIdx = 0
  · refine .inl ⟨if_pos h0, ?_⟩
    rintro k ⟨n, d, hn, hname', hd, hdesc', -⟩
    cases hname.symm.trans hname'
    cases hdesc.symm.trans hdesc'
    exact h0.elim hn hd
  · change ((if nameIdx = 0 ∨ descIdx = 0 then _ else _) = _ ∧ _) ∨ _
    rw [not_or] at h0
    cases hfind : ed.methods.findIdx? fun m =>
        m.nameIndex == nameIdx && m.descriptorIndex == descIdx with
    | none =>
      refine .inl ⟨?_, ?_⟩
      · rw [if_neg (not_or.mpr h0)]
        rfl
      · rintro k ⟨n, d, hn, hname', hd, hdesc', hsome⟩
        cases hname.symm.trans hname'
        cases hdesc.symm.trans hdesc'
        cases hfind.symm.trans hsome
    | some k =>
      obtain ⟨hlt, -⟩ := List.findIdx?_eq_some_iff_getElem.mp hfind
      have hm := List.getElem?_eq_getElem hlt
      refine .inr ⟨k, _, r, ⟨nameIdx, descIdx, h0.1, hname, h0.2, hdesc, hfind⟩, hm, hr, ?_⟩
      change (if nameIdx = 0 ∨ descIdx = 0 then _ else _) = _
      rw [if_neg (not_or.mpr h0)]
      simp only [hfind, hm, hr]
      rfl

/-- The attributes of the selected method are rebuilt, and nothing else changes but the pool, to
which "Code" is added if it is missing. -/
lemma prependToMethodCode_of_selects {ed : Editor} (hed : ed.Sound)
    (hcp : ed.cp.length ≤ 65535) {name desc : Bytes} {k : ℕ} (hsel : ed.Selects name desc k)
    {m : Member} (hm : ed.methods[k]? = some m.info) (hwf : m.WellFormed ed.cp)
    (insertion : Bytes) (extraStack : UInt16) :
    ∃ codeUtf8 ed₁ new attrs, ed.addUtf8 (ascii "Code") = .ok (codeUtf8, ed₁) ∧
      ed₁.methods = ed.methods ∧ ed₁.cp = ed.cp ++ new ∧
      cpUtf8Value ed₁.cp codeUtf8 = .ok (ascii "Code") ∧
      List.Forall₂ (Rebuilt ed₁.cp codeUtf8 insertion extraStack) m.attributes attrs ∧
      ed.prependToMethodCode name desc insertion extraStack =
        .ok (true, { ed₁ with methods := ed₁.methods.set k { m.info with
          attributesRaw := wr16 (UInt16.ofNat m.attributes.length) ++
            attrs.flatMap writeAttribute } }) := by
  rcases findTarget_cases hcp name desc with ⟨-, hnone⟩ | ⟨k', m', r, hsel', hm', hadd, htarget⟩
  · exact absurd hsel (hnone k)
  · obtain rfl := hsel.unique hsel'
    cases hm.symm.trans hm'
    obtain ⟨codeUtf8, ed₁⟩ := r
    obtain ⟨hsound, -, hvalue, hmethods, new, hnew⟩ :=
      (findTarget_yields hed name desc).of_ok htarget k m.info codeUtf8 ed₁ rfl
    obtain ⟨pool, hpool⟩ := hsound.pool
    have hwf₁ : m.WellFormed (poolSlots pool) := by
      rw [← hpool, hnew]
      exact hwf.append new
    obtain ⟨attrs, -, hraw, hrebuilt⟩ :=
      rebuildCodeAttribute_ok insertion extraStack hwf₁ (hpool ▸ hvalue)
    rw [← hpool] at hraw hrebuilt
    exact ⟨codeUtf8, ed₁, new, attrs, hadd, hmethods, hnew, hvalue, hrebuilt,
      prependToMethodCode_of_target htarget hraw⟩

/-- When no method is selected, nothing changes. -/
lemma prependToMethodCode_of_not_selects {ed : Editor} (hcp : ed.cp.length ≤ 65535)
    {name desc : Bytes} (hsel : ∀ k, ¬ ed.Selects name desc k) (insertion : Bytes)
    (extraStack : UInt16) :
    ed.prependToMethodCode name desc insertion extraStack = .ok (false, ed) := by
  rcases findTarget_cases hcp name desc with ⟨hrun, -⟩ | ⟨k, m, r, hsel', -⟩
  · rw [prependToMethodCode, hrun]
    rfl
  · exact absurd hsel' (hsel k)

/-- What an editor holds after parsing a class file. -/
lemma parsed_fields {L : Layout} {ed : Editor} (hparse : parse L.encode = .ok ed) :
    ed.cp = poolSlots L.pool ∧ ed.methods = L.methods.map Member.info ∧
      ed.cp.length ≤ 65535 := by
  obtain ⟨thisName, -, hed⟩ := parse_encode L
  cases hparse.symm.trans hed
  refine ⟨rfl, rfl, ?_⟩
  have := L.pool_lt
  change (poolSlots L.pool).length ≤ 65535
  omega

end Editor

end ClassFile
end SakuraTools
