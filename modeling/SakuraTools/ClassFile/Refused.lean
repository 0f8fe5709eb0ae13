import SakuraTools.ClassFile.Additions
import SakuraTools.ClassFile.BuilderIndex
import SakuraTools.Lib.Throwing

/-!
# Refused additions

The builder that is left when a call throws.  The entry that overflows the pool stays in it, as do
the constants that the call has added before; no index that was returned is lost, but `build` no
longer sees the overflow when it has nothing to add.
-/

namespace SakuraTools
namespace ClassFile

open Throwing Builder

/-- A call that may throw, with the builder that is left. -/
abbrev Attempt := EStateM Fault Builder

namespace Attempt

/-! ## Constants -/

/-- `ClassBuilder::addEntry`, which looks at the size of the pool after the entry is in it. -/
def addEntry (tag : UInt8) (body : Bytes) : Attempt UInt16 := do
  modify fun b => { b with cp := b.cp ++ [⟨tag, body⟩] }
  let b ← get
  if b.cp.length > 0xFFFE then throw (.thrown "classfile: constant pool overflow")
  else pure (UInt16.ofNat b.cp.length)

/-- `ClassBuilder::utf8` -/
def utf8 (s : Bytes) : Attempt UInt16 := do
  let b ← get
  if b.findUtf8 s ≠ 0 then pure (b.findUtf8 s)
  else if s.length > 0xFFFF then throw (.thrown "classfile: utf8 too long")
  else do
    let idx ← addEntry CP_Utf8 (wr16 (UInt16.ofNat s.length) ++ s)
    modify fun b => { b with utf8Index := emplace b.utf8Index s idx }
    pure idx

/-- One of the maps of a builder. -/
structure Map (K : Type) where
  get : Builder → List (K × UInt16)
  set : Builder → List (K × UInt16) → Builder

/-- The common end of `classRef`, `nameAndType`, `methodRef` and `fieldRef`. -/
def intern {K : Type} [BEq K] (map : Map K) (key : K) (tag : UInt8) (body : Bytes) :
    Attempt UInt16 := do
  let b ← get
  match (map.get b).lookup key with
  | some idx => pure idx
  | none => do
    let idx ← addEntry tag body
    modify fun b => map.set b (emplace (map.get b) key idx)
    pure idx

def classMap : Map UInt16 := ⟨classIndex, fun b index => { b with classIndex := index }⟩

def natMap : Map UInt64 := ⟨natIndex, fun b index => { b with natIndex := index }⟩

def refMap : Map UInt64 := ⟨refIndex, fun b index => { b with refIndex := index }⟩

/-- `ClassBuilder::classRef` -/
def classRef (internalName : Bytes) : Attempt UInt16 := do
  let nameIdx ← utf8 internalName
  intern classMap nameIdx CP_Class (wr16 nameIdx)

/-- `ClassBuilder::nameAndType` -/
def nameAndType (name desc : Bytes) : Attempt UInt16 := do
  let nameIdx ← utf8 name
  let descIdx ← utf8 desc
  intern natMap (natKey nameIdx descIdx) CP_NameAndType (wr16 nameIdx ++ wr16 descIdx)

/-- The common body of `methodRef` and `fieldRef`. -/
def ref (tag : UInt8) (klass name desc : Bytes) : Attempt UInt16 := do
  let clsIdx ← classRef klass
  let natIdx ← nameAndType name desc
  intern refMap (makeRefKey tag clsIdx natIdx) tag (wr16 clsIdx ++ wr16 natIdx)

/-- `ClassBuilder::methodRef` -/
def methodRef (klass name desc : Bytes) : Attempt UInt16 := ref CP_Methodref klass name desc

/-- `ClassBuilder::fieldRef` -/
def fieldRef (klass name desc : Bytes) : Attempt UInt16 := ref CP_Fieldref klass name desc

/-- `ClassBuilder::stringRef` -/
def stringRef (s : Bytes) : Attempt UInt16 := do
  let sIdx ← utf8 s
  addEntry CP_String (wr16 sIdx)

/-! ## Methods and output -/

/-- `ClassBuilder::addNativeMethod` -/
def addNativeMethod (name descriptor : Bytes) (accessFlags : UInt16) : Attempt Unit := do
  let nameIndex ← utf8 name
  let descriptorIndex ← utf8 descriptor
  modify fun b => { b with
    methods := b.methods ++ [⟨accessFlags ||| ACC_NATIVE, nameIndex, descriptorIndex, []⟩] }

/-- The name "Code", which is added for the first method with code. -/
def codeName : Attempt Unit := do
  let b ← get
  if b.codeUtf8 = 0 then do
    let idx ← utf8 (ascii "Code")
    modify fun b => { b with codeUtf8 := idx }
  else pure ()

/-- `ClassBuilder::addCodedMethod` -/
def addCodedMethod (name descriptor : Bytes) (accessFlags : UInt16) (code : Bytes)
    (maxStack maxLocals : UInt16) : Attempt Unit := do
  codeName
  let b ← get
  let attrBody := wr16 maxStack ++ wr16 maxLocals ++ wr32 (UInt32.ofNat code.length) ++ code ++
    wr16 0 ++ wr16 0
  let attr := wr16 b.codeUtf8 ++ wr32 (UInt32.ofNat attrBody.length) ++ attrBody
  let nameIndex ← utf8 name
  let descriptorIndex ← utf8 descriptor
  modify fun b => { b with
    methods := b.methods ++ [⟨accessFlags, nameIndex, descriptorIndex, attr⟩] }

/-- `ClassBuilder::build` -/
def build : Attempt Bytes := do
  let b ← get
  let thisClass ← classRef b.thisInternal
  let b ← get
  let superClass ← classRef b.superInternal
  let b ← get
  pure (b.write thisClass superClass)

end Attempt

/-- What a call does, whether it throws or not. -/
def Op.attempt : Op → Attempt (Option UInt16)
  | call (.utf8 s) => some <$> Attempt.utf8 s
  | call (.classRef internalName) => some <$> Attempt.classRef internalName
  | call (.nameAndType name desc) => some <$> Attempt.nameAndType name desc
  | call (.methodRef className name desc) => some <$> Attempt.methodRef className name desc
  | call (.fieldRef className name desc) => some <$> Attempt.fieldRef className name desc
  | call (.stringRef s) => some <$> Attempt.stringRef s
  | call (.addNativeMethod name descriptor accessFlags) =>
    (fun _ => none) <$> Attempt.addNativeMethod name descriptor accessFlags
  | call (.addCodedMethod name descriptor accessFlags code maxStack maxLocals) =>
    (fun _ => none) <$>
      Attempt.addCodedMethod name descriptor accessFlags code maxStack maxLocals
  | call (.setAccessFlags flags) => (fun _ => none) <$> (modify fun b => b.setAccessFlags flags)
  | build => (fun _ => none) <$> Attempt.build

/-- A sequence of calls by a caller that catches what is thrown, with what each call returns or
throws. -/
def runCaught (b : Builder) : List Op → List (Except Fault (Option UInt16)) × Builder
  | [] => ([], b)
  | op :: ops =>
    let r := op.attempt b
    let (results, b) := runCaught (left r) ops
    (value r :: results, b)

/-! ## The state that is dropped -/

namespace Attempt

variable {b : Builder}

/-- The entry is in the pool, whether there was room for it or not. -/
lemma addEntry_run (b : Builder) (tag : UInt8) (body : Bytes) :
    addEntry tag body b =
      if 0xFFFE < (b.cp ++ [(⟨tag, body⟩ : RawEntry)]).length then
        .error (.thrown "classfile: constant pool overflow") { b with cp := b.cp ++ [⟨tag, body⟩] }
      else .ok (UInt16.ofNat (b.cp ++ [(⟨tag, body⟩ : RawEntry)]).length)
        { b with cp := b.cp ++ [⟨tag, body⟩] } := by
  show (if 0xFFFE < (b.cp ++ [(⟨tag, body⟩ : RawEntry)]).length then throw _ else pure _ :
    Attempt UInt16) { b with cp := b.cp ++ [⟨tag, body⟩] } = _
  split
  · rfl
  · rfl

lemma drop_addEntry (b : Builder) (tag : UInt8) (body : Bytes) :
    drop (addEntry tag body) b = b.addEntry tag body := by
  rw [drop, addEntry_run]
  by_cases h : 0xFFFE < (b.cp ++ [(⟨tag, body⟩ : RawEntry)]).length
  · rw [if_pos h]
    exact (if_pos h).symm
  · rw [if_neg h]
    exact (if_neg h).symm

lemma drop_utf8 (b : Builder) (s : Bytes) : drop (utf8 s) b = b.utf8 s := by
  rw [utf8, drop_get_bind, Builder.utf8]
  split_ifs with hfind hlong
  · rfl
  · rfl
  · exact drop_bind_of (drop_addEntry b _ _) fun idx b' => rfl

/-- What a map does with a key is what the builder does. -/
def Map.Drops {K : Type} [BEq K] (map : Map K) : Prop :=
  ∀ b key tag body, drop (intern map key tag body) b =
    b.intern (map.get b) key tag body >>= fun r => pure (r.1, map.set r.2.2 r.2.1)

lemma drop_intern {K : Type} [BEq K] {map : Map K}
    (hget : ∀ b cp, map.get { b with cp := cp } = map.get b)
    (hset : ∀ b, map.set b (map.get b) = b) : map.Drops := by
  intro b key tag body
  rw [intern, drop_get_bind, Builder.intern]
  cases hlookup : (map.get b).lookup key with
  | some idx =>
    show _ = Except.ok (idx, map.set b (map.get b))
    rw [hset]
    rfl
  | none =>
    show drop (addEntry tag body >>= _) b = _
    rw [drop_bind, drop_addEntry]
    cases hadd : b.addEntry tag body with
    | error e => rfl
    | ok r =>
      obtain ⟨idx, b'⟩ := r
      rw [addEntry_frame hadd]
      show Except.ok (idx, map.set _ (emplace (map.get _) key idx)) = _
      rw [hget]
      rfl

lemma classMap_drops : classMap.Drops := drop_intern (fun _ _ => rfl) fun _ => rfl

lemma natMap_drops : natMap.Drops := drop_intern (fun _ _ => rfl) fun _ => rfl

lemma refMap_drops : refMap.Drops := drop_intern (fun _ _ => rfl) fun _ => rfl

lemma drop_classRef (b : Builder) (name : Bytes) : drop (classRef name) b = b.classRef name :=
  drop_bind_of (drop_utf8 b name) fun j b' => classMap_drops b' j CP_Class (wr16 j)

lemma drop_nameAndType (b : Builder) (name desc : Bytes) :
    drop (nameAndType name desc) b = b.nameAndType name desc :=
  drop_bind_of (drop_utf8 b name) fun _ b₁ => drop_bind_of (drop_utf8 b₁ desc) fun _ b₂ =>
    natMap_drops b₂ _ _ _

lemma drop_ref (b : Builder) (tag : UInt8) (klass name desc : Bytes) :
    drop (ref tag klass name desc) b = b.ref tag klass name desc :=
  drop_bind_of (drop_classRef b klass) fun _ b₁ =>
    drop_bind_of (drop_nameAndType b₁ name desc) fun _ b₂ => refMap_drops b₂ _ _ _

lemma drop_stringRef (b : Builder) (s : Bytes) : drop (stringRef s) b = b.stringRef s :=
  drop_bind_of (drop_utf8 b s) fun _ b₁ => drop_addEntry b₁ _ _

lemma drop_addNativeMethod (b : Builder) (name descriptor : Bytes) (accessFlags : UInt16) :
    drop (addNativeMethod name descriptor accessFlags) b =
      b.addNativeMethod name descriptor accessFlags >>= fun b => pure ((), b) := by
  rw [Builder.addNativeMethod, bind_assoc]
  refine drop_bind_of (drop_utf8 b name) fun nameIndex b₁ => ?_
  show _ = (b₁.utf8 descriptor >>= _) >>= _
  rw [bind_assoc]
  exact drop_bind_of (drop_utf8 b₁ descriptor) fun descriptorIndex b₂ => rfl

lemma drop_codeName (b : Builder) :
    drop codeName b = b.codeName >>= fun b => pure ((), b) := by
  rw [codeName, drop_get_bind, Builder.codeName]
  split_ifs
  · rw [bind_assoc]
    exact drop_bind_of (drop_utf8 b _) fun idx b₁ => rfl
  · rfl

lemma drop_addCodedMethod (b : Builder) (name descriptor : Bytes) (accessFlags : UInt16)
    (code : Bytes) (maxStack maxLocals : UInt16) :
    drop (addCodedMethod name descriptor accessFlags code maxStack maxLocals) b =
      b.addCodedMethod name descriptor accessFlags code maxStack maxLocals >>=
        fun b => pure ((), b) := by
  rw [addCodedMethod, drop_bind, drop_codeName, Builder.addCodedMethod, bind_assoc, bind_assoc]
  refine bind_congr fun b₀ => ?_
  show drop (utf8 name >>= _) b₀ = (b₀.utf8 name >>= _) >>= _
  rw [bind_assoc]
  refine drop_bind_of (drop_utf8 b₀ name) fun nameIndex b₁ => ?_
  show _ = (b₁.utf8 descriptor >>= _) >>= _
  rw [bind_assoc]
  exact drop_bind_of (drop_utf8 b₁ descriptor) fun descriptorIndex b₂ => rfl

lemma drop_build (b : Builder) : drop build b = b.build :=
  drop_bind_of (drop_classRef b _) fun _ b₁ => drop_bind_of (drop_classRef b₁ _) fun _ _ => rfl

end Attempt

/-- Without the states that are left by throws, the calls are those of the builder. -/
lemma Op.drop_attempt (b : Builder) (op : Op) : drop op.attempt b = op.run b := by
  have hnone (x : Except Fault Builder) :
      (x >>= fun b => pure ((), b) : Except Fault (Unit × Builder)).map (fun r => (none, r.2)) =
        x.map fun b => ((none : Option UInt16), b) := by
    cases x with
    | ok b => rfl
    | error e => rfl
  rcases op with (s | name | ⟨name, desc⟩ | ⟨klass, name, desc⟩ | ⟨klass, name, desc⟩ | s |
    ⟨name, desc, flags⟩ | ⟨name, desc, flags, code, maxStack, maxLocals⟩ | flags) | _
  · exact (drop_map _ _ b).trans (by rw [Attempt.drop_utf8]; rfl)
  · exact (drop_map _ _ b).trans (by rw [Attempt.drop_classRef]; rfl)
  · exact (drop_map _ _ b).trans (by rw [Attempt.drop_nameAndType]; rfl)
  · exact (drop_map _ _ b).trans (by rw [Attempt.methodRef, Attempt.drop_ref]; rfl)
  · exact (drop_map _ _ b).trans (by rw [Attempt.fieldRef, Attempt.drop_ref]; rfl)
  · exact (drop_map _ _ b).trans (by rw [Attempt.drop_stringRef]; rfl)
  · exact (drop_map _ _ b).trans (by rw [Attempt.drop_addNativeMethod]; exact hnone _)
  · exact (drop_map _ _ b).trans (by rw [Attempt.drop_addCodedMethod]; exact hnone _)
  · rfl
  · exact (drop_map _ _ b).trans (by rw [Attempt.drop_build]; rfl)

/-! ## What is left by a throw -/

namespace Builder

/-- The maps know where the entries are, however many of them there are. -/
structure Tracked (b : Builder) : Prop where
  utf8 : Indexed (Utf8At b.slots) id b.utf8Index
  classes : Indexed (EntryAt b.slots) classEntry b.classIndex
  nats : Indexed (EntryAt b.slots) natEntry b.natIndex
  refs : Indexed (EntryAt b.slots) refEntry b.refIndex

/-- The entries stay where they are. -/
def Extends (b b' : Builder) : Prop := b.slots <+: b'.slots

instance : Std.Refl Extends := ⟨fun b => List.prefix_refl b.slots⟩

instance : IsTrans Builder Extends := ⟨fun _ _ _ h h' => List.IsPrefix.trans h h'⟩

lemma tracked_new (thisInternal superInternal : Bytes) (majorVersion : UInt16) :
    (new thisInternal superInternal majorVersion).Tracked :=
  ⟨Indexed.nil, Indexed.nil, Indexed.nil, Indexed.nil⟩

variable {b : Builder}

lemma slots_push (b : Builder) (e : RawEntry) :
    slots { b with cp := b.cp ++ [e] } = b.slots ++ [e.slot] := by simp [slots]

lemma extends_push (b : Builder) (e : RawEntry) : b.Extends { b with cp := b.cp ++ [e] } := by
  rw [Extends, slots_push]
  exact List.prefix_append _ _

lemma Tracked.push (hb : b.Tracked) (e : RawEntry) : Tracked { b with cp := b.cp ++ [e] } where
  utf8 := hb.utf8.mono fun _ _ h => h.mono (b.extends_push e)
  classes := hb.classes.mono fun _ _ h => h.mono (b.extends_push e)
  nats := hb.nats.mono fun _ _ h => h.mono (b.extends_push e)
  refs := hb.refs.mono fun _ _ h => h.mono (b.extends_push e)

end Builder

namespace Attempt

/-- Whether it returns or throws, the call leaves a builder whose maps are right and whose entries
are where they were. -/
abbrev Keeps {α : Type} (x : Attempt α) (b : Builder) (Q : α → Builder → Prop) : Prop :=
  Throwing.Keeps Tracked Extends x b Q

variable {b : Builder}

lemma addEntry_keeps (hb : b.Tracked) (tag : UInt8) (body : Bytes) :
    (addEntry tag body).Keeps b fun i b' =>
      EntryAt b'.slots i ⟨tag, body⟩ ∧ b' = { b with cp := b.cp ++ [⟨tag, body⟩] } := by
  have hleft : left (addEntry tag body b) = { b with cp := b.cp ++ [⟨tag, body⟩] } := by
    rw [addEntry_run]
    split <;> rfl
  refine ⟨?_, ?_, ?_⟩
  · rw [hleft]
    exact hb.push _
  · rw [hleft]
    exact b.extends_push _
  · intro i b' hrun
    have hadd := drop_eq_ok.mpr hrun
    rw [drop_addEntry] at hadd
    exact ⟨(addEntry_entryAt hadd i _).mpr (.inr ⟨rfl, rfl⟩), addEntry_frame hadd⟩

lemma utf8_keeps (hb : b.Tracked) (s : Bytes) :
    (utf8 s).Keeps b fun i b' => Utf8At b'.slots i s := by
  refine Throwing.Keeps.get_bind ?_
  split_ifs with hfind hlong
  · refine keeps_pure hb ?_
    cases hlookup : b.utf8Index.lookup s with
    | some j =>
      rw [findUtf8, hlookup]
      exact hb.utf8.of_lookup hlookup
    | none =>
      rw [findUtf8, hlookup] at hfind
      exact absurd rfl hfind
  · exact keeps_throw hb _
  · refine (addEntry_keeps hb _ _).bind fun i b₁ hb₁ _ hi => ?_
    have hat : Utf8At b₁.slots i s := hi.1.utf8At (by omega)
    refine (keeps_modify ?_ ?_ ?_).bind fun _ b₂ hb₂ _ hi₂ => keeps_pure hb₂ hi₂
    · exact ⟨hb₁.utf8.emplace hat, hb₁.classes, hb₁.nats, hb₁.refs⟩
    · exact List.prefix_refl _
    · exact hat

/-- The entries of the map are those of its keys. -/
structure Map.Tracks {K : Type} (map : Map K) (entry : K → RawEntry) : Prop where
  get_push : ∀ b cp, map.get { b with cp := cp } = map.get b
  slots_set : ∀ b index, (map.set b index).slots = b.slots
  indexed : ∀ {b : Builder}, b.Tracked → Indexed (EntryAt b.slots) entry (map.get b)
  tracked : ∀ {b : Builder} {index}, b.Tracked → Indexed (EntryAt b.slots) entry index →
    (map.set b index).Tracked

lemma classMap_tracks : classMap.Tracks classEntry where
  get_push _ _ := rfl
  slots_set _ _ := rfl
  indexed hb := hb.classes
  tracked hb h := ⟨hb.utf8, h, hb.nats, hb.refs⟩

lemma natMap_tracks : natMap.Tracks natEntry where
  get_push _ _ := rfl
  slots_set _ _ := rfl
  indexed hb := hb.nats
  tracked hb h := ⟨hb.utf8, hb.classes, h, hb.refs⟩

lemma refMap_tracks : refMap.Tracks refEntry where
  get_push _ _ := rfl
  slots_set _ _ := rfl
  indexed hb := hb.refs
  tracked hb h := ⟨hb.utf8, hb.classes, hb.nats, h⟩

lemma intern_keeps {K : Type} [BEq K] [LawfulBEq K] {map : Map K} {entry : K → RawEntry}
    (hmap : map.Tracks entry) (hb : b.Tracked) {key : K} {tag : UInt8} {body : Bytes}
    (hentry : entry key = ⟨tag, body⟩) :
    (intern map key tag body).Keeps b fun i b' => EntryAt b'.slots i ⟨tag, body⟩ := by
  refine Throwing.Keeps.get_bind ?_
  cases hlookup : (map.get b).lookup key with
  | some idx => exact keeps_pure hb (hentry ▸ (hmap.indexed hb).of_lookup hlookup)
  | none =>
    refine (addEntry_keeps hb _ _).bind fun i b₁ hb₁ _ hi => ?_
    obtain ⟨hat, -⟩ := hi
    refine (keeps_modify ?_ ?_ ?_).bind fun _ b₂ hb₂ _ hi₂ => keeps_pure hb₂ hi₂
    · exact hmap.tracked hb₁ ((hmap.indexed hb₁).emplace (hentry ▸ hat))
    · rw [Extends, hmap.slots_set]
    · rw [hmap.slots_set]
      exact hat

lemma classRef_keeps (hb : b.Tracked) (name : Bytes) :
    (classRef name).Keeps b fun i b' => ClassAt b'.slots i name := by
  refine (utf8_keeps hb name).bind fun j b₁ hb₁ _ hj => ?_
  refine (intern_keeps classMap_tracks hb₁ rfl).mono fun i b₂ _ h₂ hi => ?_
  exact ⟨j, hi, hj.mono h₂⟩

lemma nameAndType_keeps (hb : b.Tracked) (name desc : Bytes) :
    (nameAndType name desc).Keeps b fun i b' => NameAndTypeAt b'.slots i name desc := by
  refine (utf8_keeps hb name).bind fun j b₁ hb₁ _ hj => ?_
  refine (utf8_keeps hb₁ desc).bind fun k b₂ hb₂ h₂ hk => ?_
  refine (intern_keeps natMap_tracks hb₂ (natEntry_natKey j k)).mono fun i b₃ _ h₃ hi => ?_
  exact ⟨j, k, hi, hj.mono (h₂.trans h₃), hk.mono h₃⟩

lemma ref_keeps (hb : b.Tracked) (tag : UInt8) (klass name desc : Bytes) :
    (ref tag klass name desc).Keeps b fun i b' => RefAt tag b'.slots i klass name desc := by
  refine (classRef_keeps hb klass).bind fun j b₁ hb₁ _ hj => ?_
  refine (nameAndType_keeps hb₁ name desc).bind fun k b₂ hb₂ h₂ hk => ?_
  refine (intern_keeps refMap_tracks hb₂ (refEntry_makeRefKey tag j k)).mono fun i b₃ _ h₃ hi => ?_
  exact ⟨j, k, hi, hj.mono (h₂.trans h₃), hk.mono h₃⟩

lemma stringRef_keeps (hb : b.Tracked) (s : Bytes) :
    (stringRef s).Keeps b fun i b' => StringAt b'.slots i s := by
  refine (utf8_keeps hb s).bind fun j b₁ hb₁ _ hj => ?_
  refine (addEntry_keeps hb₁ _ _).mono fun i b₂ _ h₂ hi => ?_
  exact ⟨j, hi.1, hj.mono h₂⟩

/-- A change that leaves the pool and the maps as they are. -/
lemma modify_keeps (hb : b.Tracked) {g : Builder → Builder} (hcp : (g b).cp = b.cp)
    (hutf8 : (g b).utf8Index = b.utf8Index) (hclasses : (g b).classIndex = b.classIndex)
    (hnats : (g b).natIndex = b.natIndex) (hrefs : (g b).refIndex = b.refIndex) :
    Keeps (modify g) b fun _ _ => True := by
  have hslots : (g b).slots = b.slots := by rw [slots, hcp, slots]
  refine keeps_modify ⟨?_, ?_, ?_, ?_⟩ (by rw [Extends, hslots]) trivial
  · rw [hslots, hutf8]
    exact hb.utf8
  · rw [hslots, hclasses]
    exact hb.classes
  · rw [hslots, hnats]
    exact hb.nats
  · rw [hslots, hrefs]
    exact hb.refs

lemma addNativeMethod_keeps (hb : b.Tracked) (name descriptor : Bytes) (accessFlags : UInt16) :
    (addNativeMethod name descriptor accessFlags).Keeps b fun _ _ => True := by
  refine (utf8_keeps hb name).bind fun j b₁ hb₁ _ _ => ?_
  refine (utf8_keeps hb₁ descriptor).bind fun k b₂ hb₂ _ _ => ?_
  exact modify_keeps hb₂ rfl rfl rfl rfl rfl

lemma codeName_keeps (hb : b.Tracked) : codeName.Keeps b fun _ _ => True := by
  refine Throwing.Keeps.get_bind ?_
  split_ifs
  · refine (utf8_keeps hb _).bind fun j b₁ hb₁ _ _ => ?_
    exact modify_keeps hb₁ rfl rfl rfl rfl rfl
  · exact keeps_pure hb trivial

lemma addCodedMethod_keeps (hb : b.Tracked) (name descriptor : Bytes) (accessFlags : UInt16)
    (code : Bytes) (maxStack maxLocals : UInt16) :
    (addCodedMethod name descriptor accessFlags code maxStack maxLocals).Keeps b
      fun _ _ => True := by
  refine (codeName_keeps hb).bind fun _ b₀ hb₀ _ _ => Throwing.Keeps.get_bind ?_
  refine (utf8_keeps hb₀ name).bind fun j b₁ hb₁ _ _ => ?_
  refine (utf8_keeps hb₁ descriptor).bind fun k b₂ hb₂ _ _ => ?_
  exact modify_keeps hb₂ rfl rfl rfl rfl rfl

lemma build_keeps (hb : b.Tracked) : build.Keeps b fun _ _ => True := by
  refine Throwing.Keeps.get_bind ?_
  refine (classRef_keeps hb _).bind fun j b₁ hb₁ _ _ => Throwing.Keeps.get_bind ?_
  refine (classRef_keeps hb₁ _).bind fun k b₂ hb₂ _ _ => Throwing.Keeps.get_bind ?_
  exact keeps_pure hb₂ trivial

end Attempt

/-! ## Runs -/

lemma Op.attempt_keeps {b : Builder} (hb : b.Tracked) (op : Op) :
    op.attempt.Keeps b fun idx b' => op.Denotes b'.slots idx := by
  rcases op with (s | name | ⟨name, desc⟩ | ⟨klass, name, desc⟩ | ⟨klass, name, desc⟩ | s |
    ⟨name, desc, flags⟩ | ⟨name, desc, flags, code, maxStack, maxLocals⟩ | flags) | _
  · exact (Attempt.utf8_keeps hb s).map fun i _ hi => ⟨i, rfl, hi⟩
  · exact (Attempt.classRef_keeps hb name).map fun i _ hi => ⟨i, rfl, hi⟩
  · exact (Attempt.nameAndType_keeps hb name desc).map fun i _ hi => ⟨i, rfl, hi⟩
  · exact (Attempt.ref_keeps hb _ klass name desc).map fun i _ hi => ⟨i, rfl, hi⟩
  · exact (Attempt.ref_keeps hb _ klass name desc).map fun i _ hi => ⟨i, rfl, hi⟩
  · exact (Attempt.stringRef_keeps hb s).map fun i _ hi => ⟨i, rfl, hi⟩
  · exact (Attempt.addNativeMethod_keeps hb name desc flags).map fun _ _ _ => rfl
  · exact (Attempt.addCodedMethod_keeps hb name desc flags code maxStack maxLocals).map
      fun _ _ _ => rfl
  · exact (Attempt.modify_keeps hb rfl rfl rfl rfl rfl).map fun _ _ _ => rfl
  · exact (Attempt.build_keeps hb).map fun _ _ _ => rfl

/-- What the call has returned, if it has not thrown, is the index of what it asked for. -/
def Op.Answered (cp : List CpEntry) (op : Op) (result : Except Fault (Option UInt16)) : Prop :=
  ∀ idx, result = .ok idx → op.Denotes cp idx

lemma value_eq_ok {ε σ α : Type} {r : EStateM.Result ε σ α} {a : α} (h : value r = .ok a) :
    r = .ok a (left r) := by
  cases r with
  | ok a' s' =>
    cases h
    rfl
  | error e s' => cases h

/-- No index is lost, whatever the calls throw. -/
lemma runCaught_answered {b : Builder} (hb : b.Tracked) (ops : List Op) :
    (runCaught b ops).2.Tracked ∧ b.Extends (runCaught b ops).2 ∧
      List.Forall₂ (Op.Answered (runCaught b ops).2.slots) ops (runCaught b ops).1 := by
  induction ops generalizing b with
  | nil => exact ⟨hb, List.prefix_refl _, .nil⟩
  | cons op ops ih =>
    have hop := Op.attempt_keeps hb op
    obtain ⟨htracked, hextends, hrest⟩ := ih hop.inv
    refine ⟨htracked, hop.rel.trans hextends, .cons ?_ hrest⟩
    intro idx hidx
    exact (hop.returns idx _ (value_eq_ok hidx)).mono hextends

/-! ## The count of the pool -/

namespace Builder

variable {b b' : Builder}

/-- Both classes of the class file have their indexes, so that `build` adds nothing. -/
def KnowsClasses (b : Builder) : Prop :=
  (∃ i, b.KnowsClass b.thisInternal i) ∧ ∃ i, b.KnowsClass b.superInternal i

/-- If `build` returns, the count that it writes is right. -/
def CountFits (b : Builder) : Prop :=
  ∀ bytes b', Attempt.build b = .ok bytes b' →
    poolCount bytes = b'.cp.length + 1 ∧ b'.cp.length + 1 < 65536

lemma poolCount_write (b : Builder) (thisClass superClass : UInt16) :
    poolCount (b.write thisClass superClass) = (b.cp.length + 1) % 65536 := by
  rw [Builder.write]
  simp only [List.append_assoc]
  rw [poolCount_header]
  rfl

lemma addEntry_length {tag : UInt8} {body : Bytes} {i : UInt16}
    (h : b.addEntry tag body = .ok (i, b')) : b'.cp.length ≤ 65534 := by
  dsimp only [addEntry] at h
  split at h
  · cases h
  · rename_i hle
    cases h
    exact Nat.le_of_not_lt hle

/-- An addition that is not refused has found the constant, or there was room for it. -/
lemma utf8_settled {s : Bytes} {i : UInt16} (h : b.utf8 s = .ok (i, b')) :
    b' = b ∧ b.KnowsUtf8 s i ∨ b'.cp.length ≤ 65534 := by
  rw [utf8] at h
  split_ifs at h with hfind hlong
  · cases h
    refine .inl ⟨rfl, hfind, ?_⟩
    rw [findUtf8] at hfind ⊢
    cases hlookup : b.utf8Index.lookup s with
    | some j => rfl
    | none =>
      rw [hlookup] at hfind
      exact absurd rfl hfind
  · obtain ⟨⟨j, b₁⟩, hadd, h⟩ := bind_eq_ok h
    cases h
    have hle := addEntry_length hadd
    exact .inr hle

lemma classRef_settled {name : Bytes} {i : UInt16} (h : b.classRef name = .ok (i, b')) :
    b' = b ∧ b.KnowsClass name i ∨ b'.cp.length ≤ 65534 := by
  obtain ⟨⟨j, b₁⟩, hname, h⟩ := bind_eq_ok h
  obtain ⟨⟨i₁, index, b₂⟩, hintern, h⟩ := bind_eq_ok h
  cases h
  rcases intern_cases hintern with ⟨hlookup, rfl, rfl⟩ | ⟨-, hadd, -⟩
  · rcases utf8_settled hname with ⟨rfl, hknown⟩ | hle
    · exact .inl ⟨rfl, j, hknown, hlookup⟩
    · exact .inr hle
  · have hle := addEntry_length hadd
    exact .inr hle

lemma build_settled {bytes : Bytes} (h : b.build = .ok (bytes, b')) :
    (∃ thisClass superClass, bytes = b'.write thisClass superClass) ∧
      (b' = b ∧ b.KnowsClasses ∨ b'.cp.length ≤ 65534) := by
  obtain ⟨⟨thisClass, b₁⟩, hthis, h⟩ := bind_eq_ok h
  obtain ⟨⟨superClass, b₂⟩, hsuper, h⟩ := bind_eq_ok h
  cases h
  refine ⟨⟨thisClass, superClass, rfl⟩, ?_⟩
  rcases classRef_settled hsuper with ⟨rfl, hknown⟩ | hle
  · rcases classRef_settled hthis with ⟨rfl, hknown'⟩ | hle
    · exact .inl ⟨rfl, ⟨thisClass, hknown'⟩, ⟨superClass, hknown⟩⟩
    · exact .inr hle
  · exact .inr hle

/-- The count is right unless the pool is too large and `build` has nothing to add, so that no
addition is refused. -/
lemma countFits_iff : b.CountFits ↔ b.cp.length ≤ 65534 ∨ ¬ b.KnowsClasses := by
  constructor
  · intro h
    by_contra! hover
    obtain ⟨hlong, ⟨thisClass, hthis⟩, superClass, hsuper⟩ := hover
    have hbuild := drop_eq_ok.mp ((Attempt.drop_build b).trans (build_again hthis hsuper))
    have := (h _ _ hbuild).2
    omega
  · intro h bytes b' hbuild
    have hdrop := (Attempt.drop_build b).symm.trans (drop_eq_ok.mpr hbuild)
    obtain ⟨⟨thisClass, superClass, rfl⟩, hsettled⟩ := build_settled hdrop
    have hle : b'.cp.length ≤ 65534 := by
      rcases hsettled with ⟨rfl, hknown⟩ | hle
      · exact h.resolve_right (not_not.mpr hknown)
      · exact hle
    rw [poolCount_write]
    exact ⟨Nat.mod_eq_of_lt (by omega), by omega⟩

end Builder

/-- After the calls, every index that was returned denotes its constant, and the count that a
later `build` writes is right. -/
def Intact (b : Builder) (ops : List Op) : Prop :=
  List.Forall₂ (Op.Answered (runCaught b ops).2.slots) ops (runCaught b ops).1 ∧
    (runCaught b ops).2.CountFits

/-- What the calls leave is intact if and only if the pool has not overflowed or `build` still has
a class to add. -/
theorem intact_iff (thisInternal superInternal : Bytes) (majorVersion : UInt16) (ops : List Op) :
    Intact (new thisInternal superInternal majorVersion) ops ↔
      (runCaught (new thisInternal superInternal majorVersion) ops).2.cp.length ≤ 65534 ∨
        ¬ (runCaught (new thisInternal superInternal majorVersion) ops).2.KnowsClasses := by
  rw [← countFits_iff]
  exact and_iff_right (runCaught_answered (tracked_new _ _ _) ops).2.2

/-- A string that is known is put into the pool again by every `stringRef`, whether the call throws
or not. -/
lemma runCaught_stringRef {b : Builder} {s : Bytes} {i : UInt16} (hs : b.KnowsUtf8 s i) (n : ℕ) :
    (runCaught b (List.replicate n (.call (.stringRef s)))).2 =
      { b with cp := b.cp ++ List.replicate n ⟨CP_String, wr16 i⟩ } := by
  induction n generalizing b with
  | zero => simp [runCaught]
  | succ n ih =>
    have hutf8 : Attempt.utf8 s b = .ok i b := drop_eq_ok.mp ((Attempt.drop_utf8 b s).trans hs.run)
    have hleft : left ((Op.call (.stringRef s)).attempt b) =
        { b with cp := b.cp ++ [⟨CP_String, wr16 i⟩] } := by
      show left (EStateM.map some (EStateM.bind (Attempt.utf8 s) _) b) = _
      rw [EStateM.map, EStateM.bind, hutf8]
      dsimp only
      rw [Attempt.addEntry_run]
      split_ifs <;> rfl
    have hknown : KnowsUtf8 { b with cp := b.cp ++ [⟨CP_String, wr16 i⟩] } s i := hs
    show (runCaught (left _) _).2 = _
    rw [hleft, ih hknown]
    simp [List.replicate_succ]

/-- A class whose pool is filled by strings, one more than there is room for. -/
def overfullOps : List Op := .build :: List.replicate 65531 (.call (.stringRef (ascii "A")))

theorem intact_overfull : ¬ Intact (new (ascii "A") (ascii "java/lang/Object")) overfullOps := by
  obtain ⟨b, hbuild, hlength, hutf8, hclasses⟩ : ∃ b : Builder,
      left (Op.build.attempt (new (ascii "A") (ascii "java/lang/Object"))) = b ∧
        b.cp.length = 4 ∧ b.KnowsUtf8 (ascii "A") 1 ∧ b.KnowsClasses :=
    ⟨_, rfl, rfl, ⟨by decide, rfl⟩, ⟨2, 1, ⟨by decide, rfl⟩, rfl⟩, 4, 3, ⟨by decide, rfl⟩, rfl⟩
  have hrun (n : ℕ) : (runCaught (new (ascii "A") (ascii "java/lang/Object"))
      (.build :: List.replicate n (.call (.stringRef (ascii "A"))))).2 =
      { b with cp := b.cp ++ List.replicate n ⟨CP_String, wr16 1⟩ } := by
    rw [← runCaught_stringRef hutf8, ← hbuild]
    rfl
  rintro ⟨-, hfits⟩
  rw [countFits_iff, overfullOps, hrun] at hfits
  rcases hfits with hle | hnot
  · rw [List.length_append, List.length_replicate, hlength] at hle
    omega
  · exact hnot hclasses

end ClassFile
end SakuraTools
