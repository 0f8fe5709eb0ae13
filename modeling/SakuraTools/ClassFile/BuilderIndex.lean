import SakuraTools.ClassFile.AddConstants
import SakuraTools.ClassFile.Built

/-!
# The indexes of a builder

The four maps of a builder have exactly the Utf8, Class, NameAndType and reference entries of its
pool, so that no such entry is there twice and a constant has one index.
-/

namespace SakuraTools
namespace ClassFile

open Interning

/-! ## Calls -/

/-- A call of the builder, which may be `build`. -/
inductive Op where
  | call (call : Call)
  | build

namespace Op

/-- The index that the call returns, if it returns one, and the builder after it. -/
def run (b : Builder) : Op → Except Fault (Option UInt16 × Builder)
  | call c => c.run b
  | build => b.build.map fun r => (none, r.2)

/-- The index that the call returns is that of the constant that it asks for. -/
def Denotes (cp : List CpEntry) (op : Op) (idx : Option UInt16) : Prop :=
  match op with
  | call c => c.Denotes cp idx
  | build => idx = none

/-- The constant that a call with a map asks for. -/
def const : Op → Option Const
  | call (.utf8 s) => some (Const.utf8 s)
  | call (.classRef internalName) => some (Const.klass internalName)
  | call (.nameAndType name desc) => some (Const.nameAndType name desc)
  | call (.methodRef className name desc) => some (Const.methodRef className name desc)
  | call (.fieldRef className name desc) => some (Const.ref CP_Fieldref className name desc)
  | _ => none

lemma Denotes.mono {cp cp' : List CpEntry} (h : cp <+: cp') {op : Op} {idx : Option UInt16}
    (hd : op.Denotes cp idx) : op.Denotes cp' idx := by
  cases op with
  | call c => exact Call.Denotes.mono h hd
  | build => exact hd

end Op

/-- A sequence of calls, with the indices that they return. -/
def runOps (b : Builder) : List Op → Except Fault (List (Option UInt16) × Builder)
  | [] => .ok ([], b)
  | op :: ops => do
    let (idx, b) ← op.run b
    let (idxs, b) ← runOps b ops
    pure (idx :: idxs, b)

/-! ## Entries and keys -/

/-- The entry of a string. -/
def utf8Entry (s : Bytes) : RawEntry := ⟨CP_Utf8, wr16 (UInt16.ofNat s.length) ++ s⟩

def classEntry (nameIdx : UInt16) : RawEntry := ⟨CP_Class, wr16 nameIdx⟩

def IsNatKey (key : UInt64) : Prop := ∃ x y, key = natKey x y

def IsRefKey (key : UInt64) : Prop :=
  ∃ tag x y, (tag = CP_Methodref ∨ tag = CP_Fieldref) ∧ key = makeRefKey tag x y

lemma wr16_inj {x y : UInt16} (h : wr16 x = wr16 y) : x = y := by
  obtain ⟨h₁, h₂⟩ := List.cons.inj h
  rw [← be16_wr16 x, ← be16_wr16 y, h₁, (List.cons.inj h₂).1]

lemma wr16_append_inj {x x' y y' : UInt16} (h : wr16 x ++ wr16 y = wr16 x' ++ wr16 y') :
    x = x' ∧ y = y' := by
  obtain ⟨hx, hy⟩ := List.append_inj h rfl
  exact ⟨wr16_inj hx, wr16_inj hy⟩

lemma utf8Entry_inj {s s' : Bytes} (h : utf8Entry s = utf8Entry s') : s = s' :=
  (List.append_inj (RawEntry.mk.inj h).2 rfl).2

lemma classEntry_inj {j j' : UInt16} (h : classEntry j = classEntry j') : j = j' :=
  wr16_inj (RawEntry.mk.inj h).2

lemma natEntry_inj {key key' : UInt64} (hkey : IsNatKey key) (hkey' : IsNatKey key')
    (h : natEntry key = natEntry key') : key = key' := by
  obtain ⟨x, y, rfl⟩ := hkey
  obtain ⟨x', y', rfl⟩ := hkey'
  rw [natEntry_natKey, natEntry_natKey] at h
  obtain ⟨rfl, rfl⟩ := wr16_append_inj (RawEntry.mk.inj h).2
  rfl

lemma refEntry_inj {key key' : UInt64} (hkey : IsRefKey key) (hkey' : IsRefKey key')
    (h : refEntry key = refEntry key') : key = key' := by
  obtain ⟨tag, x, y, -, rfl⟩ := hkey
  obtain ⟨tag', x', y', -, rfl⟩ := hkey'
  rw [refEntry_makeRefKey, refEntry_makeRefKey] at h
  obtain ⟨rfl, hbody⟩ := RawEntry.mk.inj h
  obtain ⟨rfl, rfl⟩ := wr16_append_inj hbody
  rfl

lemma refEntry_tag {key : UInt64} (hkey : IsRefKey key) :
    (refEntry key).tag = CP_Methodref ∨ (refEntry key).tag = CP_Fieldref := by
  obtain ⟨tag, x, y, htag, rfl⟩ := hkey
  rw [refEntry_makeRefKey]
  exact htag

/-! ## The maps -/

namespace Builder

/-- The maps have the entries of their kinds, each with its index, and nothing else. -/
structure Maps (b : Builder) : Prop where
  utf8 : Exact (EntryAt b.slots) utf8Entry (fun s => s.length ≤ 65535) b.utf8Index
  classes : Exact (EntryAt b.slots) classEntry (fun _ => True) b.classIndex
  nats : Exact (EntryAt b.slots) natEntry IsNatKey b.natIndex
  refs : Exact (EntryAt b.slots) refEntry IsRefKey b.refIndex

lemma maps_new (thisInternal superInternal : Bytes) (majorVersion : UInt16) :
    (new thisInternal superInternal majorVersion).Maps := by
  have hempty (v : UInt16) (e : RawEntry) :
      ¬ EntryAt (new thisInternal superInternal majorVersion).slots v e := by
    rintro ⟨hv, he⟩
    have hlt := (List.getElem?_eq_some_iff.mp he).1
    have hzero : v.toNat = 0 := by
      simpa [slots, new] using hlt
    exact hv (UInt16.toNat_inj.mp hzero)
  constructor
  · exact Exact.nil fun k v _ => hempty v _
  · exact Exact.nil fun k v _ => hempty v _
  · exact Exact.nil fun k v _ => hempty v _
  · exact Exact.nil fun k v _ => hempty v _

lemma getElem?_concat_eq_some {α : Type} {l : List α} {x y : α} {n : ℕ} :
    (l ++ [x])[n]? = some y ↔ l[n]? = some y ∨ (y = x ∧ n = l.length) := by
  rcases Nat.lt_trichotomy n l.length with hlt | rfl | hgt
  · rw [List.getElem?_append_left hlt, or_iff_left (by omega)]
  · simp [eq_comm]
  · have hnone : l[n]? = none := List.getElem?_eq_none (by omega)
    have hnone' : (l ++ [x])[n]? = none :=
      List.getElem?_eq_none (by rw [List.length_append, List.length_singleton]; omega)
    rw [hnone, hnone']
    simp
    omega

lemma slot_inj {e e' : RawEntry} (h : e.slot = e'.slot) : e = e' := by
  obtain ⟨htag, hbody, -⟩ := CpEntry.mk.inj h
  cases e
  cases e'
  simp_all

variable {b b' : Builder} {i : UInt16} {tag : UInt8} {body : Bytes}

/-- What `addEntry` does: the entry is at its index, and the others are where they were. -/
lemma addEntry_entryAt (h : b.addEntry tag body = .ok (i, b')) (v : UInt16)
    (e : RawEntry) : EntryAt b'.slots v e ↔ EntryAt b.slots v e ∨ (e = ⟨tag, body⟩ ∧ v = i) := by
  dsimp only [addEntry] at h
  split at h
  · cases h
  · rename_i hle
    obtain ⟨rfl, rfl⟩ := Prod.mk.inj (Except.ok.inj h)
    rw [List.length_append, List.length_singleton] at hle
    have hslots : slots { b with cp := b.cp ++ [⟨tag, body⟩] } =
        b.slots ++ [RawEntry.slot ⟨tag, body⟩] := by
      simp [slots]
    have hindex : (UInt16.ofNat (b.cp ++ [(⟨tag, body⟩ : RawEntry)]).length).toNat =
        b.slots.length := by
      rw [List.length_append, List.length_singleton, toNat_ofNat_u2 (by omega), slots,
        List.length_cons, List.length_map]
    rw [EntryAt, EntryAt, hslots, getElem?_concat_eq_some]
    constructor
    · rintro ⟨hv, he | ⟨heq, hlen⟩⟩
      · exact .inl ⟨hv, he⟩
      · exact .inr ⟨slot_inj heq, UInt16.toNat_inj.mp (hlen.trans hindex.symm)⟩
    · rintro (⟨hv, he⟩ | ⟨rfl, rfl⟩)
      · exact ⟨hv, .inl he⟩
      · refine ⟨?_, .inr ⟨rfl, hindex⟩⟩
        intro hzero
        rw [hzero] at hindex
        simp [slots] at hindex

variable {K : Type} {entry : K → RawEntry} {isKey : K → Prop} {index : List (K × UInt16)}

/-- A map of another kind is left as it is. -/
lemma addEntry_other (h : b.addEntry tag body = .ok (i, b'))
    (hexact : Exact (EntryAt b.slots) entry isKey index)
    (hother : ∀ k, isKey k → (entry k).tag ≠ tag) :
    Exact (EntryAt b'.slots) entry isKey index := by
  refine hexact.congr fun k v hk => ?_
  rw [addEntry_entryAt h, or_iff_left]
  rintro ⟨heq, -⟩
  exact hother k hk (congrArg RawEntry.tag heq)

/-- The entry is put into the map of its kind. -/
lemma addEntry_own [BEq K] [LawfulBEq K] (h : b.addEntry tag body = .ok (i, b'))
    (hexact : Exact (EntryAt b.slots) entry isKey index) {key : K}
    (hnew : index.lookup key = none) (hkey : isKey key) (hentry : entry key = ⟨tag, body⟩)
    (hinj : ∀ k, isKey k → entry k = entry key → k = key) :
    Exact (EntryAt b'.slots) entry isKey (emplace index key i) := by
  refine hexact.emplace hnew hkey fun k v hk => ?_
  rw [addEntry_entryAt h]
  refine or_congr_right (and_congr_left fun _ => ?_)
  rw [← hentry]
  exact ⟨hinj k hk, congrArg entry⟩

lemma addEntry_frame (h : b.addEntry tag body = .ok (i, b')) :
    b' = { b with cp := b.cp ++ [⟨tag, body⟩] } := by
  dsimp only [addEntry] at h
  split at h
  · cases h
  · cases h
    rfl

section other

variable (hm : b.Maps) (h : b.addEntry tag body = .ok (i, b'))

include hm h

lemma Maps.utf8_other (htag : CP_Utf8 ≠ tag) :
    Exact (EntryAt b'.slots) utf8Entry (fun s => s.length ≤ 65535) b.utf8Index :=
  addEntry_other h hm.utf8 fun _ _ => htag

lemma Maps.classes_other (htag : CP_Class ≠ tag) :
    Exact (EntryAt b'.slots) classEntry (fun _ => True) b.classIndex :=
  addEntry_other h hm.classes fun _ _ => htag

lemma Maps.nats_other (htag : CP_NameAndType ≠ tag) :
    Exact (EntryAt b'.slots) natEntry IsNatKey b.natIndex :=
  addEntry_other h hm.nats fun _ _ => htag

lemma Maps.refs_other (hmethod : CP_Methodref ≠ tag) (hfield : CP_Fieldref ≠ tag) :
    Exact (EntryAt b'.slots) refEntry IsRefKey b.refIndex := by
  refine addEntry_other h hm.refs fun key hkey => ?_
  rcases refEntry_tag hkey with htag | htag
  · rwa [htag]
  · rwa [htag]

end other

/-- The two ways in which a key gets its index. -/
lemma intern_cases {K : Type} [BEq K] {index index' : List (K × UInt16)} {key : K}
    (h : b.intern index key tag body = .ok (i, index', b')) :
    (index.lookup key = some i ∧ index' = index ∧ b' = b) ∨
      (index.lookup key = none ∧ b.addEntry tag body = .ok (i, b') ∧
        index' = emplace index key i) := by
  unfold intern at h
  cases hlookup : index.lookup key with
  | some j =>
    rw [hlookup] at h
    cases h
    exact .inl ⟨rfl, rfl, rfl⟩
  | none =>
    rw [hlookup] at h
    obtain ⟨⟨j, b₁⟩, hadd, hrest⟩ := bind_eq_ok h
    cases hrest
    exact .inr ⟨rfl, hadd, rfl⟩

lemma utf8_maps (hb : b.Sound) (hm : b.Maps) {s : Bytes} (h : b.utf8 s = .ok (i, b')) :
    b'.Maps := by
  cases hlookup : b.utf8Index.lookup s with
  | some j =>
    have hknown : b.KnowsUtf8 s j := ⟨(hb.utf8.of_lookup hlookup).1, hlookup⟩
    cases hknown.run.symm.trans h
    exact hm
  | none =>
    have hfind : b.findUtf8 s = 0 := by
      rw [findUtf8, hlookup]
      rfl
    rw [utf8, hfind, if_neg (not_not.mpr rfl)] at h
    split at h
    · cases h
    · rename_i hlen
      obtain ⟨⟨j, b₁⟩, hadd, hrest⟩ := bind_eq_ok h
      cases hrest
      have hown := addEntry_own hadd hm.utf8 hlookup (Nat.le_of_not_lt hlen) rfl
        fun k _ heq => utf8Entry_inj heq
      have hclasses := hm.classes_other hadd (by decide)
      have hnats := hm.nats_other hadd (by decide)
      have hrefs := hm.refs_other hadd (by decide) (by decide)
      obtain rfl := addEntry_frame hadd
      exact ⟨hown, hclasses, hnats, hrefs⟩

lemma classRef_maps (hb : b.Sound) (hm : b.Maps) {name : Bytes}
    (h : b.classRef name = .ok (i, b')) : b'.Maps := by
  obtain ⟨⟨j, b₁⟩, hname, h⟩ := bind_eq_ok h
  obtain ⟨⟨i₁, index, b₂⟩, hintern, h⟩ := bind_eq_ok h
  cases h
  have hm₁ := utf8_maps hb hm hname
  rcases intern_cases hintern with ⟨-, rfl, rfl⟩ | ⟨hnew, hadd, rfl⟩
  · exact ⟨hm₁.utf8, hm₁.classes, hm₁.nats, hm₁.refs⟩
  · have hutf8 := hm₁.utf8_other hadd (by decide)
    have hown := addEntry_own hadd hm₁.classes hnew trivial rfl fun k _ heq => classEntry_inj heq
    have hnats := hm₁.nats_other hadd (by decide)
    have hrefs := hm₁.refs_other hadd (by decide) (by decide)
    obtain rfl := addEntry_frame hadd
    exact ⟨hutf8, hown, hnats, hrefs⟩

lemma nameAndType_maps (hb : b.Sound) (hm : b.Maps) {name desc : Bytes}
    (h : b.nameAndType name desc = .ok (i, b')) : b'.Maps := by
  obtain ⟨⟨j, b₁⟩, hname, h⟩ := bind_eq_ok h
  obtain ⟨⟨k, b₂⟩, hdesc, h⟩ := bind_eq_ok h
  obtain ⟨⟨i₁, index, b₃⟩, hintern, h⟩ := bind_eq_ok h
  cases h
  have hm₂ := utf8_maps (utf8_ok hb hname).1 (utf8_maps hb hm hname) hdesc
  rcases intern_cases hintern with ⟨-, rfl, rfl⟩ | ⟨hnew, hadd, rfl⟩
  · exact ⟨hm₂.utf8, hm₂.classes, hm₂.nats, hm₂.refs⟩
  · have hutf8 := hm₂.utf8_other hadd (by decide)
    have hclasses := hm₂.classes_other hadd (by decide)
    have hown := addEntry_own hadd hm₂.nats hnew ⟨j, k, rfl⟩ (natEntry_natKey j k)
      fun key hkey heq => natEntry_inj hkey ⟨j, k, rfl⟩ heq
    have hrefs := hm₂.refs_other hadd (by decide) (by decide)
    obtain rfl := addEntry_frame hadd
    exact ⟨hutf8, hclasses, hown, hrefs⟩

lemma ref_maps (hb : b.Sound) (hm : b.Maps) (htag : tag = CP_Methodref ∨ tag = CP_Fieldref)
    {className name desc : Bytes} (h : b.ref tag className name desc = .ok (i, b')) :
    b'.Maps := by
  obtain ⟨⟨j, b₁⟩, hclass, h⟩ := bind_eq_ok h
  obtain ⟨⟨k, b₂⟩, hnat, h⟩ := bind_eq_ok h
  obtain ⟨⟨i₁, index, b₃⟩, hintern, h⟩ := bind_eq_ok h
  cases h
  have hm₂ := nameAndType_maps (classRef_ok hb hclass).1 (classRef_maps hb hm hclass) hnat
  rcases intern_cases hintern with ⟨-, rfl, rfl⟩ | ⟨hnew, hadd, rfl⟩
  · exact ⟨hm₂.utf8, hm₂.classes, hm₂.nats, hm₂.refs⟩
  · have hkey : IsRefKey (makeRefKey tag j k) := ⟨tag, j, k, htag, rfl⟩
    have hne : CP_Utf8 ≠ tag ∧ CP_Class ≠ tag ∧ CP_NameAndType ≠ tag := by
      rcases htag with rfl | rfl
      · decide
      · decide
    have hutf8 := hm₂.utf8_other hadd hne.1
    have hclasses := hm₂.classes_other hadd hne.2.1
    have hnats := hm₂.nats_other hadd hne.2.2
    have hown := addEntry_own hadd hm₂.refs hnew hkey (refEntry_makeRefKey tag j k)
      fun key hkey' heq => refEntry_inj hkey' hkey heq
    obtain rfl := addEntry_frame hadd
    exact ⟨hutf8, hclasses, hnats, hown⟩

lemma stringRef_maps (hb : b.Sound) (hm : b.Maps) {s : Bytes}
    (h : b.stringRef s = .ok (i, b')) : b'.Maps := by
  obtain ⟨⟨j, b₁⟩, hutf8, hadd⟩ := bind_eq_ok h
  have hm₁ := utf8_maps hb hm hutf8
  have hutf8 := hm₁.utf8_other hadd (by decide)
  have hclasses := hm₁.classes_other hadd (by decide)
  have hnats := hm₁.nats_other hadd (by decide)
  have hrefs := hm₁.refs_other hadd (by decide) (by decide)
  obtain rfl := addEntry_frame hadd
  exact ⟨hutf8, hclasses, hnats, hrefs⟩

lemma build_maps (hb : b.Sound) (hm : b.Maps) {bytes : Bytes} (h : b.build = .ok (bytes, b')) :
    b'.Maps := by
  obtain ⟨⟨thisClass, b₁⟩, hthis, h⟩ := bind_eq_ok h
  obtain ⟨⟨superClass, b₂⟩, hsuper, h⟩ := bind_eq_ok h
  cases h
  exact classRef_maps (classRef_ok hb hthis).1 (classRef_maps hb hm hthis) hsuper

lemma addNativeMethod_maps (hb : b.Sound) (hm : b.Maps) {name descriptor : Bytes}
    {accessFlags : UInt16} (h : b.addNativeMethod name descriptor accessFlags = .ok b') :
    b'.Maps := by
  obtain ⟨⟨j, b₁⟩, hname, h⟩ := bind_eq_ok h
  obtain ⟨⟨k, b₂⟩, hdesc, h⟩ := bind_eq_ok h
  cases h
  have hm₂ := utf8_maps (utf8_ok hb hname).1 (utf8_maps hb hm hname) hdesc
  exact ⟨hm₂.utf8, hm₂.classes, hm₂.nats, hm₂.refs⟩

lemma codeName_maps (hb : b.Sound) (hm : b.Maps) (h : b.codeName = .ok b') :
    b'.Sound ∧ b'.Maps := by
  rw [codeName] at h
  split at h
  · obtain ⟨⟨j, b₁⟩, hutf8, h⟩ := bind_eq_ok h
    cases h
    have hb₁ := (utf8_ok hb hutf8).1
    have hm₁ := utf8_maps hb hm hutf8
    exact ⟨⟨hb₁.size_le, hb₁.entries, hb₁.utf8, hb₁.classes, hb₁.nats, hb₁.refs⟩,
      ⟨hm₁.utf8, hm₁.classes, hm₁.nats, hm₁.refs⟩⟩
  · cases h
    exact ⟨hb, hm⟩

lemma addCodedMethod_maps (hb : b.Sound) (hm : b.Maps) {name descriptor code : Bytes}
    {accessFlags maxStack maxLocals : UInt16}
    (h : b.addCodedMethod name descriptor accessFlags code maxStack maxLocals = .ok b') :
    b'.Maps := by
  obtain ⟨b₀, hcode, h⟩ := bind_eq_ok h
  obtain ⟨⟨j, b₁⟩, hname, h⟩ := bind_eq_ok h
  obtain ⟨⟨k, b₂⟩, hdesc, h⟩ := bind_eq_ok h
  cases h
  obtain ⟨hb₀, hm₀⟩ := codeName_maps hb hm hcode
  have hm₂ := utf8_maps (utf8_ok hb₀ hname).1 (utf8_maps hb₀ hm₀ hname) hdesc
  exact ⟨hm₂.utf8, hm₂.classes, hm₂.nats, hm₂.refs⟩

end Builder

open Builder

lemma Call.run_maps {b b' : Builder} (hb : b.Sound) (hm : b.Maps) {call : Call}
    {idx : Option UInt16} (h : call.run b = .ok (idx, b')) : b'.Maps := by
  cases call with
  | utf8 s =>
    obtain ⟨i, rfl, hrun⟩ := map_index_ok h
    exact utf8_maps hb hm hrun
  | classRef internalName =>
    obtain ⟨i, rfl, hrun⟩ := map_index_ok h
    exact classRef_maps hb hm hrun
  | nameAndType name desc =>
    obtain ⟨i, rfl, hrun⟩ := map_index_ok h
    exact nameAndType_maps hb hm hrun
  | methodRef klass name desc =>
    obtain ⟨i, rfl, hrun⟩ := map_index_ok h
    exact ref_maps hb hm (.inl rfl) hrun
  | fieldRef klass name desc =>
    obtain ⟨i, rfl, hrun⟩ := map_index_ok h
    exact ref_maps hb hm (.inr rfl) hrun
  | stringRef s =>
    obtain ⟨i, rfl, hrun⟩ := map_index_ok h
    exact stringRef_maps hb hm hrun
  | addNativeMethod name descriptor accessFlags =>
    obtain ⟨rfl, hrun⟩ := map_none_ok h
    exact addNativeMethod_maps hb hm hrun
  | addCodedMethod name descriptor accessFlags code maxStack maxLocals =>
    obtain ⟨rfl, hrun⟩ := map_none_ok h
    exact addCodedMethod_maps hb hm hrun
  | setAccessFlags flags =>
    cases h
    exact ⟨hm.utf8, hm.classes, hm.nats, hm.refs⟩

/-! ## Entries are not there twice -/

/-- The kinds of constants that have a map. -/
def Mapped (tag : UInt8) : Prop :=
  tag = CP_Utf8 ∨ tag = CP_Class ∨ tag = CP_NameAndType ∨ tag = CP_Methodref ∨ tag = CP_Fieldref

/-- The entry is that of a key of the map of its kind. -/
structure HasKey (e : RawEntry) : Prop where
  utf8 : e.tag = CP_Utf8 → ∃ s : Bytes, s.length ≤ 65535 ∧ utf8Entry s = e
  klass : e.tag = CP_Class → ∃ j, classEntry j = e
  nat : e.tag = CP_NameAndType → ∃ key, IsNatKey key ∧ natEntry key = e
  ref : e.tag = CP_Methodref ∨ e.tag = CP_Fieldref → ∃ key, IsRefKey key ∧ refEntry key = e

lemma hasKey_of_size {e : RawEntry} (h : cpBodySize e.tag e.body = .ok e.body.length) :
    HasKey e := by
  obtain ⟨tag, body⟩ := e
  have hpair (htag : tag = CP_NameAndType ∨ tag = CP_Methodref ∨ tag = CP_Fieldref) :
      ∃ x y, body = wr16 x ++ wr16 y := by
    have hlen : body.length = 4 := by
      rcases htag with rfl | rfl | rfl <;> exact (Except.ok.inj h).symm
    obtain ⟨x, hx⟩ := exists_wr16 (b := body.take 2) (by rw [List.length_take]; omega)
    obtain ⟨y, hy⟩ := exists_wr16 (b := body.drop 2) (by rw [List.length_drop]; omega)
    exact ⟨x, y, by rw [← hx, ← hy, List.take_append_drop]⟩
  constructor
  · rintro rfl
    obtain ⟨a, b, s, hbody, hlen⟩ := (⟨CP_Utf8, body, h⟩ : Constant).utf8_body rfl
    simp only at hbody
    have hlt := (be16 a b).toNat_lt
    refine ⟨s, by omega, ?_⟩
    rw [utf8Entry, hbody, ← hlen, UInt16.ofNat_toNat, wr16_be16]
    rfl
  · rintro rfl
    obtain ⟨j, hj⟩ := exists_wr16 (Except.ok.inj h).symm
    exact ⟨j, congrArg (RawEntry.mk CP_Class) hj.symm⟩
  · rintro rfl
    obtain ⟨x, y, hbody⟩ := hpair (.inl rfl)
    exact ⟨natKey x y, ⟨x, y, rfl⟩, by rw [natEntry_natKey, hbody]⟩
  · intro htag
    obtain ⟨x, y, hbody⟩ := hpair (.inr htag)
    exact ⟨makeRefKey tag x y, ⟨tag, x, y, htag, rfl⟩, by rw [refEntry_makeRefKey, hbody]⟩

namespace Builder

variable {b : Builder}

/-- Every entry of a sound builder has the key of its kind. -/
lemma Sound.hasKey (hb : b.Sound) {i : UInt16} {e : RawEntry} (h : EntryAt b.slots i e) :
    HasKey e := by
  obtain ⟨hi, he⟩ := h
  rcases List.mem_cons.mp (List.mem_of_getElem? he) with hslot | hslot
  · have htag : e.tag = 0 := congrArg CpEntry.tag hslot
    have hne (tag : UInt8) (h : tag ≠ 0) : e.tag ≠ tag := htag ▸ h.symm
    constructor
    · exact fun h => absurd h (hne CP_Utf8 (by decide))
    · exact fun h => absurd h (hne CP_Class (by decide))
    · exact fun h => absurd h (hne CP_NameAndType (by decide))
    · rintro (h | h)
      · exact absurd h (hne CP_Methodref (by decide))
      · exact absurd h (hne CP_Fieldref (by decide))
  · obtain ⟨e', he', heq⟩ := List.mem_map.mp hslot
    rw [← slot_inj heq]
    exact hasKey_of_size (hb.entries e' he').1

/-- No entry with a map is in the pool twice. -/
lemma Maps.unique (hm : b.Maps) (hb : b.Sound) {e : RawEntry} (htag : Mapped e.tag)
    {i j : UInt16} (hi : EntryAt b.slots i e) (hj : EntryAt b.slots j e) : i = j := by
  have hkey := hb.hasKey hi
  rcases htag with htag | htag | htag | htag
  · obtain ⟨s, hs, rfl⟩ := hkey.utf8 htag
    exact hm.utf8.unique hs hi hj
  · obtain ⟨k, rfl⟩ := hkey.klass htag
    exact hm.classes.unique trivial hi hj
  · obtain ⟨key, hk, rfl⟩ := hkey.nat htag
    exact hm.nats.unique hk hi hj
  · obtain ⟨key, hk, rfl⟩ := hkey.ref htag
    exact hm.refs.unique hk hi hj

lemma Sound.exists_slots (hb : b.Sound) : ∃ pool : List Constant, b.slots = poolSlots pool := by
  obtain ⟨pool, hslots, -⟩ := exists_pool hb.entries
  exact ⟨pool, by rw [poolSlots, hslots, slots]⟩

lemma Sound.length_slots (hb : b.Sound) : b.slots.length ≤ 65535 := by
  have := hb.size_le
  rw [slots, List.length_cons, List.length_map]
  omega

/-- The pool as a table has no node twice, but for those of strings. -/
lemma Maps.distinct (hm : b.Maps) (hb : b.Sound) : Distinct (· ≠ CP_String) (table b.slots) := by
  obtain ⟨pool, hpool⟩ := hb.exists_slots
  intro x m n hx hm' hn
  have hindex {k : ℕ} (h : Interning.Holds (table b.slots) k x) : (UInt16.ofNat k).toNat = k := by
    have := h.lt
    have := hb.length_slots
    rw [length_table] at *
    exact toNat_ofNat_u2 (by omega)
  have hsame (e : RawEntry) (htag : Mapped e.tag)
      (hi : EntryAt b.slots (UInt16.ofNat m) e) (hj : EntryAt b.slots (UInt16.ofNat n) e) :
      m = n := by
    rw [← hindex hm', ← hindex hn, hm.unique hb htag hi hj]
  have hm'' := hm'
  have hn'' := hn
  rw [← hindex hm', hpool] at hm''
  rw [← hindex hn, hpool] at hn''
  cases x with
  | leaf s =>
    refine hsame (utf8Entry s) (.inl rfl) ?_ ?_
    · exact hpool ▸ (entryAt_of_leaf hm'').2
    · exact hpool ▸ (entryAt_of_leaf hn'').2
  | one tag j =>
    obtain ⟨tag', body, -, hnode⟩ := (holds_slot hm'').2
    obtain ⟨-, htag, k, -, rfl⟩ := node_one hnode
    obtain rfl := htag.resolve_right hx
    refine hsame (classEntry k) (.inr (.inl rfl)) ?_ ?_
    · exact hpool ▸ (entryAt_one_iff (.inl rfl)).mpr hm''
    · exact hpool ▸ (entryAt_one_iff (.inl rfl)).mpr hn''
  | two tag j k =>
    obtain ⟨tag', body, -, hnode⟩ := (holds_slot hm'').2
    obtain ⟨-, htag, x, y, -, rfl, rfl⟩ := node_two hnode
    refine hsame ⟨tag, wr16 x ++ wr16 y⟩ (.inr (.inr htag)) ?_ ?_
    · exact hpool ▸ (entryAt_two_iff htag).mpr hm''
    · exact hpool ▸ (entryAt_two_iff htag).mpr hn''

end Builder

/-! ## Runs -/

namespace Op

/-- The method that the call adds. -/
def declares : Op → Option Declared
  | call c => c.declares
  | build => none

/-- What one call does. -/
lemma run_ok {b b' : Builder} {ds : List Declared} (hb : b.Holds ds) (hm : b.Maps) {op : Op}
    {idx : Option UInt16} (h : op.run b = .ok (idx, b')) :
    b.Grows b' ∧ b'.Holds (ds ++ op.declares.toList) ∧ b'.Maps ∧ op.Denotes b'.slots idx := by
  cases op with
  | call c =>
    obtain ⟨hgrows, hb', hdenotes⟩ := Call.run_ok hb h
    exact ⟨hgrows, hb', Call.run_maps hb.toSound hm h, hdenotes⟩
  | build =>
    cases hbuild : b.build with
    | error e =>
      rw [run, hbuild] at h
      cases h
    | ok r =>
      rw [run, hbuild] at h
      cases h
      obtain ⟨hb', hgrows, -⟩ := build_ok hb.toSound hbuild
      refine ⟨hgrows.toGrows, ?_, build_maps hb.toSound hm hbuild, rfl⟩
      rw [declares, Option.toList_none, List.append_nil]
      exact hb.grow hb' hgrows

end Op

/-- What a sequence of calls does. -/
lemma runOps_ok {ops : List Op} {b b' : Builder} {ds : List Declared} (hb : b.Holds ds)
    (hm : b.Maps) {idxs : List (Option UInt16)} (h : runOps b ops = .ok (idxs, b')) :
    b.Grows b' ∧ b'.Holds (ds ++ ops.filterMap Op.declares) ∧ b'.Maps ∧
      List.Forall₂ (Op.Denotes b'.slots) ops idxs := by
  induction ops generalizing b ds idxs with
  | nil =>
    cases h
    rw [List.filterMap_nil, List.append_nil]
    exact ⟨Grows.refl b', hb, hm, .nil⟩
  | cons op ops ih =>
    obtain ⟨⟨idx, b₁⟩, hop, h⟩ := bind_eq_ok h
    obtain ⟨⟨idxs₁, b₂⟩, hops, h⟩ := bind_eq_ok h
    cases h
    obtain ⟨hgrows, hb₁, hm₁, hdenotes⟩ := Op.run_ok hb hm hop
    obtain ⟨hgrows', hb₂, hm₂, hrest⟩ := ih hb₁ hm₁ hops
    refine ⟨hgrows.trans hgrows', ?_, hm₂, .cons (hdenotes.mono hgrows'.slots) hrest⟩
    have hdeclares : (op :: ops).filterMap Op.declares =
        op.declares.toList ++ ops.filterMap Op.declares := by
      rw [List.filterMap_cons]
      cases op.declares with
      | none => rfl
      | some d => rfl
    rw [hdeclares, ← List.append_assoc]
    exact hb₂

lemma holds_new (thisInternal superInternal : Bytes) (majorVersion : UInt16) :
    (new thisInternal superInternal majorVersion).Holds [] :=
  ⟨sound_new thisInternal superInternal majorVersion, .nil, .inl rfl⟩

/-- What an index stands for in the table. -/
lemma Op.at_of_denotes {b : Builder} (hb : b.Sound) {op : Op} {c : Const} (hc : op.const = some c)
    {idx : Option UInt16} (h : op.Denotes b.slots idx) :
    ∃ i : UInt16, idx = some i ∧ At (table b.slots) c i.toNat ∧ c.Keyed (· ≠ CP_String) := by
  obtain ⟨pool, hpool⟩ := hb.exists_slots
  rw [hpool] at h ⊢
  rcases op with (_ | _ | _ | _ | _ | _ | _ | _ | _) | _
  · cases hc
    obtain ⟨i, rfl, hi⟩ := h
    exact ⟨i, rfl, utf8At_iff.mp hi, trivial⟩
  · cases hc
    obtain ⟨i, rfl, hi⟩ := h
    exact ⟨i, rfl, classAt_iff.mp hi, by decide, trivial⟩
  · cases hc
    obtain ⟨i, rfl, hi⟩ := h
    exact ⟨i, rfl, nameAndTypeAt_iff.mp hi, by decide, trivial, trivial⟩
  · cases hc
    obtain ⟨i, rfl, hi⟩ := h
    exact ⟨i, rfl, (refAt_iff (.inl rfl)).mp hi, by decide, ⟨by decide, trivial⟩, by decide,
      trivial, trivial⟩
  · cases hc
    obtain ⟨i, rfl, hi⟩ := h
    exact ⟨i, rfl, (refAt_iff (.inr rfl)).mp hi, by decide, ⟨by decide, trivial⟩, by decide,
      trivial, trivial⟩
  · cases hc
  · cases hc
  · cases hc
  · cases hc
  · cases hc

/-- Two calls that ask for constants return the same index if and only if they ask for the same
constant. -/
def SameIndexSameConst (ops : List Op) (idxs : List (Option UInt16)) : Prop :=
  ∀ (p q : ℕ) (op op' : Op) (c d : Const) (i j : UInt16), ops[p]? = some op → ops[q]? = some op' →
    op.const = some c → op'.const = some d → idxs[p]? = some (some i) → idxs[q]? = some (some j) →
    (i = j ↔ c = d)

lemma forall₂_getElem? {α β : Type} {R : α → β → Prop} {l : List α} {l' : List β}
    (h : List.Forall₂ R l l') {n : ℕ} {a : α} {x : β} (ha : l[n]? = some a) (hx : l'[n]? = some x) :
    R a x := by
  induction h generalizing n with
  | nil => cases ha
  | cons hR _ ih =>
    cases n with
    | zero =>
      cases ha
      cases hx
      exact hR
    | succ n => exact ih ha hx

lemma sameIndexSameConst {b : Builder} (hb : b.Sound) (hm : b.Maps) {ops : List Op}
    {idxs : List (Option UInt16)} (h : List.Forall₂ (Op.Denotes b.slots) ops idxs) :
    SameIndexSameConst ops idxs := by
  intro p q op op' c d i j hop hop' hc hd hi hj
  obtain ⟨i', hi', hati, hkeyed⟩ := Op.at_of_denotes hb hc (forall₂_getElem? h hop hi)
  obtain ⟨j', hj', hatj, -⟩ := Op.at_of_denotes hb hd (forall₂_getElem? h hop' hj)
  cases hi'
  cases hj'
  constructor
  · rintro rfl
    exact hati.unique hatj
  · rintro rfl
    exact UInt16.toNat_inj.mp ((hm.distinct hb).at_unique hkeyed hati hatj)

/-- After every sequence of calls, every index stands for the constant that was asked for, the maps
have exactly the entries of their kinds, no such entry is there twice, and a constant has one
index, which is that of no other constant. -/
theorem runOps_indexes {thisInternal superInternal : Bytes} {majorVersion : UInt16}
    {ops : List Op} {idxs : List (Option UInt16)} {b : Builder}
    (hrun : runOps (new thisInternal superInternal majorVersion) ops = .ok (idxs, b)) :
    List.Forall₂ (Op.Denotes b.slots) ops idxs ∧ b.Maps ∧
      (∀ i e, EntryAt b.slots i e → HasKey e) ∧
      (∀ i j e, Mapped e.tag → EntryAt b.slots i e → EntryAt b.slots j e → i = j) ∧
      SameIndexSameConst ops idxs := by
  obtain ⟨-, hb, hm, hdenotes⟩ := runOps_ok (holds_new thisInternal superInternal majorVersion)
    (maps_new thisInternal superInternal majorVersion) hrun
  exact ⟨hdenotes, hm, fun i e => hb.toSound.hasKey, fun i j e htag => hm.unique hb.toSound htag,
    sameIndexSameConst hb.toSound hm hdenotes⟩

/-- The calls of the sample with references to one member of two kinds. -/
def sampleOps : List Op :=
  [.call (.methodRef (ascii "H") (ascii "h") (ascii "()V")),
    .call (.fieldRef (ascii "H") (ascii "h") (ascii "()V")), .build,
    .call (.methodRef (ascii "H") (ascii "h") (ascii "()V"))]

theorem runOps_indexes_sample : ∃ idxs b,
    runOps (new (ascii "A") (ascii "java/lang/Object")) sampleOps = .ok (idxs, b) ∧
      idxs = [some 6, some 7, none, some 6] ∧ SameIndexSameConst sampleOps idxs := by
  obtain ⟨idxs, b, hrun, hidxs⟩ : ∃ idxs b,
      runOps (new (ascii "A") (ascii "java/lang/Object")) sampleOps = .ok (idxs, b) ∧
        idxs = [some 6, some 7, none, some 6] := ⟨_, _, rfl, rfl⟩
  exact ⟨idxs, b, hrun, hidxs, (runOps_indexes hrun).2.2.2.2⟩

end ClassFile
end SakuraTools
