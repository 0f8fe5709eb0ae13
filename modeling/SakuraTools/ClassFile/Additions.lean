import SakuraTools.ClassFile.AddConstants

/-!
# Calls that add constants

What `addUtf8`, `addClass`, `addNameAndType` and `addMethodRef` return, and when a sequence of
these calls stays within the limits of a constant pool.
-/

namespace SakuraTools
namespace ClassFile

open Interning

/-- A call that adds a constant. -/
inductive Addition where
  | utf8 (s : Bytes)
  | klass (internalName : Bytes)
  | nameAndType (name desc : Bytes)
  | methodRef (className name desc : Bytes)
deriving DecidableEq

namespace Addition

def run (ed : Editor) : Addition → Except Fault (UInt16 × Editor)
  | utf8 s => ed.addUtf8 s
  | klass internalName => ed.addClass internalName
  | nameAndType name desc => ed.addNameAndType name desc
  | methodRef className name desc => ed.addMethodRef className name desc

/-- The constant that the call asks for. -/
def const : Addition → Const
  | utf8 s => Const.utf8 s
  | klass internalName => Const.klass internalName
  | nameAndType name desc => Const.nameAndType name desc
  | methodRef className name desc => Const.methodRef className name desc

/-- The strings of the constant. -/
def strings : Addition → List Bytes
  | utf8 s => [s]
  | klass internalName => [internalName]
  | nameAndType name desc => [name, desc]
  | methodRef className name desc => [className, name, desc]

/-- The entry at the index is the constant, resolved down to its strings. -/
def Denotes (cp : List CpEntry) (i : UInt16) : Addition → Prop
  | utf8 s => Utf8At cp i s
  | klass internalName => ClassAt cp i internalName
  | nameAndType name desc => NameAndTypeAt cp i name desc
  | methodRef className name desc => RefAt CP_Methodref cp i className name desc

/-- The strings have lengths that fit in a Utf8 constant. -/
def Short (a : Addition) : Prop := ∀ s ∈ a.strings, s.length ≤ 65535

instance (a : Addition) : Decidable a.Short :=
  inferInstanceAs (Decidable (∀ s ∈ a.strings, s.length ≤ 65535))

/-- The strings are short, and the pool has room for the constants that it lacks. -/
structure Fits (ed : Editor) (a : Addition) : Prop where
  short : a.Short
  room : ed.cp.length + missing (table ed.cp) a.const ≤ 65535

lemma denotes_iff {pool : List Constant} {i : UInt16} {a : Addition} :
    a.Denotes (poolSlots pool) i ↔ At (table (poolSlots pool)) a.const i.toNat := by
  cases a with
  | utf8 s => exact utf8At_iff
  | klass internalName => exact classAt_iff
  | nameAndType name desc => exact nameAndTypeAt_iff
  | methodRef className name desc => exact refAt_iff (.inl rfl)

/-- A constant has at most six parts. -/
lemma card_subterms_le (a : Addition) : a.const.subterms.card ≤ 6 := by
  have hpair (s t : Finset Const) : (s ∪ t).card ≤ s.card + t.card := Finset.card_union_le s t
  have hinsert (c : Const) (s : Finset Const) : (insert c s).card ≤ s.card + 1 :=
    Finset.card_insert_le c s
  have hutf8 (s : Bytes) : (Const.utf8 s).subterms.card = 1 := rfl
  have hclass (name : Bytes) : (Const.klass name).subterms.card ≤ 2 :=
    (hinsert _ _).trans (by rw [hutf8])
  have hnat (name desc : Bytes) : (Const.nameAndType name desc).subterms.card ≤ 3 := by
    have := hpair (Const.utf8 name).subterms (Const.utf8 desc).subterms
    rw [hutf8, hutf8] at this
    exact (hinsert _ _).trans (by omega)
  cases a with
  | utf8 s => exact (hutf8 s).le.trans (by omega)
  | klass internalName => exact (hclass internalName).trans (by omega)
  | nameAndType name desc => exact (hnat name desc).trans (by omega)
  | methodRef className name desc =>
    have := hpair (Const.klass className).subterms (Const.nameAndType name desc).subterms
    have := hclass className
    have := hnat name desc
    exact (hinsert _ _).trans (by omega)

lemma missing_le (tbl : Table Bytes UInt8) (a : Addition) : missing tbl a.const ≤ 6 :=
  (Finset.card_filter_le _ _).trans a.card_subterms_le

lemma run_adds {ed : Editor} {tbl : Table Bytes UInt8} (hed : ed.Keeps tbl)
    (hcp : tbl.length ≤ 65535) {a : Addition} (hshort : a.Short) :
    ed.Adds (intern tbl a.const) (a.run ed) := by
  cases a with
  | utf8 s => exact Editor.addUtf8_adds hed hcp (hshort s (by simp [strings]))
  | klass internalName =>
    exact Editor.addClass_adds hed hcp (hshort internalName (by simp [strings]))
  | nameAndType name desc =>
    exact Editor.addNameAndType_adds hed hcp (hshort name (by simp [strings]))
      (hshort desc (by simp [strings]))
  | methodRef className name desc =>
    exact Editor.addMethodRef_adds hed hcp (hshort className (by simp [strings]))
      (hshort name (by simp [strings])) (hshort desc (by simp [strings]))

/-- A call whose constant is found returns its index and changes nothing. -/
lemma run_of_find {ed : Editor} (hslots : ∃ pool, ed.cp = poolSlots pool)
    (hcp : ed.cp.length ≤ 65535) {a : Addition} (hshort : a.Short) {i : ℕ}
    (hfind : find (table ed.cp) a.const = some i) : a.run ed = .ok (UInt16.ofNat i, ed) := by
  have hle : (table ed.cp).length ≤ 65535 := by
    rw [length_table]
    exact hcp
  have hadds := run_adds ⟨hslots, rfl⟩ hle hshort
  rw [intern_of_find hfind] at hadds
  obtain ⟨new, hrun, htable⟩ := hadds.fits hle
  have hnil : new.flatMap Constant.slots = [] := by
    have := congrArg List.length htable
    simp only [length_table, List.length_append] at this
    exact List.length_eq_zero_iff.mp (by omega)
  rw [hrun, hnil, List.append_nil]

/-- A call that fits returns the index of its constant, which it has put at the end of the pool
with what was missing of its parts.  The same call again changes nothing. -/
lemma run_fits {ed : Editor} (hpool : PoolWellFormed ed.cp) {a : Addition} (ha : a.Fits ed) :
    ∃ (i : UInt16) (new : List Constant) (ed' : Editor),
      ed' = { ed with cp := ed.cp ++ new.flatMap Constant.slots } ∧ a.run ed = .ok (i, ed') ∧
        PoolWellFormed ed'.cp ∧ a.Denotes ed'.cp i ∧
        ed'.cp.length = ed.cp.length + missing (table ed.cp) a.const ∧
        a.run ed' = .ok (i, ed') := by
  obtain ⟨⟨pool, hslots⟩, hlinked⟩ := hpool
  have hroom := ha.room
  obtain ⟨hinterned, hfind⟩ := intern_spec hlinked a.const
  have hlength := length_intern hlinked a.const
  rw [length_table] at hlength
  have hcp : (table ed.cp).length ≤ 65535 := by
    rw [length_table]
    omega
  have hadds := run_adds ⟨⟨pool, hslots⟩, rfl⟩ hcp ha.short
  obtain ⟨new, hrun, htable⟩ := hadds.fits (by omega)
  have hslots' : ed.cp ++ new.flatMap Constant.slots = poolSlots (pool ++ new) := by
    simp [hslots, poolSlots]
  have hlt := intern_lt (table ed.cp) a.const
  have hindex : (UInt16.ofNat (intern (table ed.cp) a.const).1).toNat =
      (intern (table ed.cp) a.const).1 := toNat_ofNat_u2 (by omega)
  rw [← htable] at hfind hlength
  rw [length_table] at hlength
  refine ⟨_, new, _, rfl, hrun, ⟨⟨_, hslots'⟩, ?_⟩, ?_, hlength, ?_⟩
  · rw [htable]
    exact hinterned.linked
  · rw [hslots', denotes_iff, hindex, ← hslots']
    exact find_at hfind
  · -- everything is found where the first call has put it
    exact run_of_find ⟨_, hslots'⟩ (hlength ▸ hroom) ha.short hfind

end Addition

/-- `addMethodRef` returns the index of the reference, adds what is missing of it at the end of the
pool, and finds it there when it is called again. -/
theorem addMethodRef_deduplicates {ed : Editor} (hpool : PoolWellFormed ed.cp)
    {className name desc : Bytes} (hclass : className.length ≤ 65535)
    (hname : name.length ≤ 65535) (hdesc : desc.length ≤ 65535)
    (hroom : ed.cp.length + missing (table ed.cp) (Const.methodRef className name desc) ≤ 65535) :
    ∃ i ed', ed.addMethodRef className name desc = .ok (i, ed') ∧ i ≠ 0 ∧
      i.toNat < ed'.cp.length ∧ RefAt CP_Methodref ed'.cp i className name desc ∧
      (∃ new, ed' = { ed with cp := ed.cp ++ new } ∧ new.length ≤ 6 ∧
        new.length = missing (table ed.cp) (Const.methodRef className name desc)) ∧
      ed'.addMethodRef className name desc = .ok (i, ed') := by
  have hfits : (Addition.methodRef className name desc).Fits ed := by
    refine ⟨?_, hroom⟩
    intro s hs
    simp only [Addition.strings, List.mem_cons, List.not_mem_nil, or_false] at hs
    rcases hs with rfl | rfl | rfl <;> assumption
  obtain ⟨i, new, ed', rfl, hrun, -, hat, hlength, hagain⟩ := Addition.run_fits hpool hfits
  have hat' : RefAt CP_Methodref _ i className name desc := hat
  obtain ⟨j, k, ⟨hi, hentry⟩, -⟩ := hat'
  obtain ⟨hlt, -⟩ := List.getElem?_eq_some_iff.mp hentry
  have hcount : (new.flatMap Constant.slots).length =
      missing (table ed.cp) (Const.methodRef className name desc) := by
    have : (Addition.methodRef className name desc).const =
      Const.methodRef className name desc := rfl
    simp only [List.length_append, this] at hlength
    omega
  refine ⟨i, _, hrun, hi, hlt, hat, ⟨_, rfl, ?_, hcount⟩, hagain⟩
  rw [hcount]
  exact Addition.missing_le _ (.methodRef className name desc)

lemma sampleLayout_linked : Linked (table (poolSlots sampleLayout.pool)) := by decide

theorem addMethodRef_deduplicates_sample : ∃ i ed',
    (sampleLayout.editor []).addMethodRef (ascii "A") (ascii "m") (ascii "()V") = .ok (i, ed') ∧
      RefAt CP_Methodref ed'.cp i (ascii "A") (ascii "m") (ascii "()V") ∧
      ed'.addMethodRef (ascii "A") (ascii "m") (ascii "()V") = .ok (i, ed') := by
  have hpool : PoolWellFormed (sampleLayout.editor []).cp := ⟨⟨_, rfl⟩, sampleLayout_linked⟩
  have hmissing := Addition.missing_le (table (sampleLayout.editor []).cp)
    (.methodRef (ascii "A") (ascii "m") (ascii "()V"))
  have hlength : (sampleLayout.editor []).cp.length = 8 := by decide
  have hroom : (sampleLayout.editor []).cp.length + missing (table (sampleLayout.editor []).cp)
      (Const.methodRef (ascii "A") (ascii "m") (ascii "()V")) ≤ 65535 := by
    rw [hlength]
    exact (Nat.add_le_add_left hmissing 8).trans (by decide)
  obtain ⟨i, ed', hrun, -, -, hat, -, hagain⟩ :=
    addMethodRef_deduplicates hpool (by decide) (by decide) (by decide) hroom
  exact ⟨i, ed', hrun, hat, hagain⟩

/-! ## The limits of the pool -/

/-- The `constant_pool_count` of a class file. -/
def poolCount (bytes : Bytes) : ℕ :=
  match bytes.drop 8 with
  | a :: b :: _ => (be16 a b).toNat
  | _ => 0

lemma poolCount_header (magic : UInt32) (minorVersion majorVersion count : UInt16) (r : Bytes) :
    poolCount (wr32 magic ++ (wr16 minorVersion ++ (wr16 majorVersion ++ (wr16 count ++ r)))) =
      count.toNat := by
  show (be16 _ _).toNat = _
  rw [be16_wr16]

/-- `serialize` returns, with the number of slots as the count of the pool, and every Utf8 constant
has as many bytes as its length says. -/
structure Editor.Written (ed : Editor) : Prop where
  count : ∃ bytes, ed.serialize = .ok bytes ∧ poolCount bytes = ed.cp.length
  utf8 : ∀ e ∈ ed.cp, e.tag = CP_Utf8 →
    ∃ a b s, e.body = a :: b :: s ∧ (be16 a b).toNat = s.length

lemma Editor.poolCount_serialize {ed : Editor} {bytes : Bytes} (h : ed.serialize = .ok bytes) :
    ed.cp.length ≤ 65535 ∧ poolCount bytes = ed.cp.length := by
  rw [Editor.serialize] at h
  split at h
  · cases h
  · rename_i hle
    cases h
    refine ⟨by omega, ?_⟩
    simp only [List.append_assoc]
    rw [poolCount_header, toNat_ofNat_u2 (by omega)]

namespace Addition

/-- The call throws, or it returns the index of its constant in a pool that is written as it is. -/
def Respected (ed : Editor) (a : Addition) : Prop :=
  (∃ what, a.run ed = .error (.thrown what)) ∨
    ∃ i ed', a.run ed = .ok (i, ed') ∧ a.Denotes ed'.cp i ∧ ed'.Written

lemma short_of_utf8At {cp : List CpEntry} {i : UInt16} {s : Bytes} (h : Utf8At cp i s) :
    s.length ≤ 65535 := by
  obtain ⟨-, e, -, hs⟩ := h
  obtain ⟨-, a, b, t, -, hle, rfl⟩ := node_leaf (isUtf8_iff.mp hs)
  have := (be16 a b).toNat_lt
  rw [List.length_take]
  omega

/-- No longer string is denoted by any index. -/
lemma Denotes.short {cp : List CpEntry} {i : UInt16} {a : Addition} (h : a.Denotes cp i) :
    a.Short := by
  intro s hs
  cases a with
  | utf8 s' =>
    rw [List.mem_singleton.mp hs]
    exact short_of_utf8At h
  | klass internalName =>
    obtain ⟨j, -, hj⟩ := h
    rw [List.mem_singleton.mp hs]
    exact short_of_utf8At hj
  | nameAndType name desc =>
    obtain ⟨j, k, -, hj, hk⟩ := h
    simp only [strings, List.mem_cons, List.not_mem_nil, or_false] at hs
    rcases hs with rfl | rfl
    · exact short_of_utf8At hj
    · exact short_of_utf8At hk
  | methodRef className name desc =>
    obtain ⟨j, k, -, ⟨j', -, hj'⟩, k', l', -, hk', hl'⟩ := h
    simp only [strings, List.mem_cons, List.not_mem_nil, or_false] at hs
    rcases hs with rfl | rfl | rfl
    · exact short_of_utf8At hj'
    · exact short_of_utf8At hk'
    · exact short_of_utf8At hl'

/-- No call throws: it returns, or searches forever. -/
lemma run_yields (ed : Editor) (a : Addition) : Yields (a.run ed) fun _ => True := by
  have hfind (ed : Editor) (f : CpEntry → Bool) (tag : UInt8) (body : Bytes) :
      Yields (ed.findOrAdd f tag body) fun _ => True := by
    refine (scan_yields ed.cp f).bind ?_
    intro r _
    cases r with
    | some i => exact Yields.ok trivial
    | none => exact Yields.ok trivial
  have hutf8 (ed : Editor) (s : Bytes) : Yields (ed.addUtf8 s) fun _ => True :=
    ed.addUtf8_eq s ▸ hfind ed _ _ _
  have hclass (ed : Editor) (name : Bytes) : Yields (ed.addClass name) fun _ => True :=
    (hutf8 ed name).bind fun _ _ => hfind _ _ _ _
  have hnat (ed : Editor) (name desc : Bytes) :
      Yields (ed.addNameAndType name desc) fun _ => True :=
    (hutf8 ed name).bind fun _ _ => (hutf8 _ desc).bind fun _ _ => hfind _ _ _ _
  cases a with
  | utf8 s => exact hutf8 ed s
  | klass internalName => exact hclass ed internalName
  | nameAndType name desc => exact hnat ed name desc
  | methodRef className name desc =>
    exact (hclass ed className).bind fun _ _ => (hnat _ name desc).bind fun _ _ => hfind _ _ _ _

/-- A pool of a class file whose Utf8 constants are whole is written as it is. -/
lemma written {ed : Editor} {pool : List Constant} (hpool : ed.cp = poolSlots pool)
    (hcp : ed.cp.length ≤ 65535) : ed.Written where
  count := by
    have hserialize : ∃ bytes, ed.serialize = .ok bytes := by
      rw [Editor.serialize, if_neg (by omega)]
      exact ⟨_, rfl⟩
    obtain ⟨bytes, hbytes⟩ := hserialize
    exact ⟨bytes, hbytes, (Editor.poolCount_serialize hbytes).2⟩
  utf8 e he htag := by
    rw [hpool] at he
    obtain rfl | ⟨c, -, rfl⟩ := mem_poolSlots he
    · cases htag
    · exact c.utf8_body htag

/-- A call respects the limits if and only if it fits. -/
lemma respected_iff {ed : Editor} (hpool : PoolWellFormed ed.cp) (hcp : ed.cp.length ≤ 65535)
    (a : Addition) : a.Respected ed ↔ a.Fits ed := by
  constructor
  · rintro (⟨what, hrun⟩ | ⟨i, ed', hrun, hdenotes, hwritten⟩)
    · cases (a.run_yields ed).of_error hrun
    · obtain ⟨bytes, hbytes, -⟩ := hwritten.count
      have hle := (Editor.poolCount_serialize hbytes).1
      have hadds := run_adds ⟨hpool.slots, rfl⟩ (by rwa [length_table]) hdenotes.short
      have hfull := hadds.full i ed' hrun hle
      rw [length_intern hpool.linked, length_table] at hfull
      exact ⟨hdenotes.short, hfull⟩
  · intro h
    obtain ⟨i, new, ed', -, hrun, hpool', hdenotes, hlength, -⟩ := run_fits hpool h
    obtain ⟨pool', hslots⟩ := hpool'.slots
    exact .inr ⟨i, ed', hrun, hdenotes, written hslots (hlength ▸ h.room)⟩

end Addition

/-- Every call of the sequence respects the limits, from the pool that the calls before it left. -/
def Respects : Editor → List Addition → Prop
  | _, [] => True
  | ed, a :: as => a.Respected ed ∧ ∀ i ed', a.run ed = .ok (i, ed') → Respects ed' as

/-- Every call of the sequence fits in the pool that the calls before it left. -/
def AllFit : Editor → List Addition → Prop
  | _, [] => True
  | ed, a :: as => a.Fits ed ∧ ∀ i ed', a.run ed = .ok (i, ed') → AllFit ed' as

lemma respects_iff_allFit {ed : Editor} (hpool : PoolWellFormed ed.cp)
    (hcp : ed.cp.length ≤ 65535) (as : List Addition) : Respects ed as ↔ AllFit ed as := by
  induction as generalizing ed with
  | nil => exact Iff.rfl
  | cons a as ih =>
    rw [Respects, AllFit, Addition.respected_iff hpool hcp]
    refine and_congr_right fun hfits => ?_
    obtain ⟨i, new, ed₁, -, hrun, hpool₁, -, hlength, -⟩ := Addition.run_fits hpool hfits
    have hstep := ih hpool₁ (hlength ▸ hfits.room)
    refine forall_congr' fun j => forall_congr' fun ed' => ?_
    refine imp_congr_right fun hrun' => ?_
    cases hrun.symm.trans hrun'
    exact hstep

/-- From the pool of a well-formed class file, a sequence of calls respects the limits of the pool
if and only if each of them fits. -/
theorem respects_iff {L : Layout} (hlinked : Linked (table (poolSlots L.pool)))
    {ed : Editor} (hparse : parse L.encode = .ok ed) (as : List Addition) :
    Respects ed as ↔ AllFit ed as := by
  obtain ⟨hcp, -, hle⟩ := Editor.parsed_fields hparse
  exact respects_iff_allFit ⟨⟨L.pool, hcp⟩, hcp ▸ hlinked⟩ hle as

/-- A method reference fits in the sample class. -/
theorem respects_sample : ∃ ed, parse sampleLayout.encode = .ok ed ∧
    Respects ed [.methodRef (ascii "A") (ascii "m") (ascii "()V")] := by
  obtain ⟨thisName, -, hparse⟩ := parse_encode sampleLayout
  refine ⟨_, hparse, (respects_iff sampleLayout_linked hparse _).mpr ⟨⟨by decide, ?_⟩, ?_⟩⟩
  · have hmissing := Addition.missing_le (table (sampleLayout.editor thisName).cp)
      (.methodRef (ascii "A") (ascii "m") (ascii "()V"))
    exact (Nat.add_le_add_left hmissing 8).trans (by decide)
  · exact fun _ _ _ => trivial

/-- The length of a string of 65536 bytes does not fit in the constant that is added for it. -/
theorem respects_too_long : ∃ ed, parse sampleLayout.encode = .ok ed ∧
    ¬ Respects ed [.utf8 (List.replicate 65536 65)] := by
  obtain ⟨thisName, -, hparse⟩ := parse_encode sampleLayout
  have hpool : PoolWellFormed (sampleLayout.editor thisName).cp :=
    ⟨⟨_, rfl⟩, sampleLayout_linked⟩
  have hcp : (sampleLayout.editor thisName).cp.length ≤ 65535 :=
    show (poolSlots sampleLayout.pool).length ≤ 65535 by decide
  have hlong (s : Bytes) (hs : 65535 < s.length) :
      ¬ Respects (sampleLayout.editor thisName) [.utf8 s] := by
    intro h
    have hfits := (Addition.respected_iff hpool hcp (.utf8 s)).mp h.1
    have := hfits.short s List.mem_cons_self
    omega
  refine ⟨_, hparse, hlong _ ?_⟩
  rw [List.length_replicate]
  omega

end ClassFile
end SakuraTools
