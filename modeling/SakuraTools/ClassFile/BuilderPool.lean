import SakuraTools.ClassFile.Builder

/-!
# The pool of a builder

The maps of a builder know where its constants are, and a constant stays where it is while the
pool grows: the index that a call returns is the index of what the call asked for.
-/

namespace SakuraTools
namespace ClassFile

/-! ## Constants of a pool -/

/-- The entry as the editor keeps it. -/
def RawEntry.slot (e : RawEntry) : CpEntry := ⟨e.tag, e.body, false⟩

/-- The entry is at the index. -/
def EntryAt (cp : List CpEntry) (i : UInt16) (e : RawEntry) : Prop :=
  i ≠ 0 ∧ cp[i.toNat]? = some e.slot

/-- The constant at the index is the Class constant of the name. -/
def ClassAt (cp : List CpEntry) (i : UInt16) (name : Bytes) : Prop :=
  ∃ j, EntryAt cp i ⟨CP_Class, wr16 j⟩ ∧ Utf8At cp j name

def NameAndTypeAt (cp : List CpEntry) (i : UInt16) (name desc : Bytes) : Prop :=
  ∃ j k, EntryAt cp i ⟨CP_NameAndType, wr16 j ++ wr16 k⟩ ∧ Utf8At cp j name ∧ Utf8At cp k desc

/-- The constant at the index is the reference with the tag to a member of the class. -/
def RefAt (tag : UInt8) (cp : List CpEntry) (i : UInt16) (klass name desc : Bytes) : Prop :=
  ∃ j k, EntryAt cp i ⟨tag, wr16 j ++ wr16 k⟩ ∧ ClassAt cp j klass ∧ NameAndTypeAt cp k name desc

def StringAt (cp : List CpEntry) (i : UInt16) (s : Bytes) : Prop :=
  ∃ j, EntryAt cp i ⟨CP_String, wr16 j⟩ ∧ Utf8At cp j s

section mono

variable {cp cp' : List CpEntry} (h : cp <+: cp') {i : UInt16}

include h

lemma getElem?_of_prefix {k : ℕ} {e : CpEntry} (he : cp[k]? = some e) : cp'[k]? = some e := by
  obtain ⟨hk, -⟩ := List.getElem?_eq_some_iff.mp he
  rw [← he, List.prefix_iff_getElem?.mp h k hk, List.getElem?_eq_getElem hk]

lemma EntryAt.mono {e : RawEntry} (he : EntryAt cp i e) : EntryAt cp' i e :=
  ⟨he.1, getElem?_of_prefix h he.2⟩

lemma Utf8At.mono {s : Bytes} (hs : Utf8At cp i s) : Utf8At cp' i s := by
  obtain ⟨hi, e, he, hutf8⟩ := hs
  exact ⟨hi, e, getElem?_of_prefix h he, hutf8⟩

lemma ClassAt.mono {name : Bytes} (hc : ClassAt cp i name) : ClassAt cp' i name := by
  obtain ⟨j, he, hj⟩ := hc
  exact ⟨j, he.mono h, hj.mono h⟩

lemma NameAndTypeAt.mono {name desc : Bytes} (hn : NameAndTypeAt cp i name desc) :
    NameAndTypeAt cp' i name desc := by
  obtain ⟨j, k, he, hj, hk⟩ := hn
  exact ⟨j, k, he.mono h, hj.mono h, hk.mono h⟩

lemma RefAt.mono {tag : UInt8} {klass name desc : Bytes} (hr : RefAt tag cp i klass name desc) :
    RefAt tag cp' i klass name desc := by
  obtain ⟨j, k, he, hj, hk⟩ := hr
  exact ⟨j, k, he.mono h, hj.mono h, hk.mono h⟩

lemma StringAt.mono {s : Bytes} (hs : StringAt cp i s) : StringAt cp' i s := by
  obtain ⟨j, he, hj⟩ := hs
  exact ⟨j, he.mono h, hj.mono h⟩

end mono

/-- The Utf8 constant of a string that is not too long spells it. -/
lemma EntryAt.utf8At {cp : List CpEntry} {i : UInt16} {s : Bytes} (hs : s.length ≤ 65535)
    (h : EntryAt cp i ⟨CP_Utf8, wr16 (UInt16.ofNat s.length) ++ s⟩) : Utf8At cp i s := by
  refine ⟨h.1, _, h.2, ?_⟩
  have hlen : (be16 (UInt16.ofNat s.length >>> 8).toUInt8
      (UInt16.ofNat s.length &&& 0xFF).toUInt8).toNat = s.length := by
    rw [be16_wr16, toNat_ofNat_u2 (by omega)]
  change (CP_Utf8 == CP_Utf8 && (be16 _ _).toNat == s.length && s.take s.length == s) = true
  rw [hlen, List.take_length]
  simp

/-! ## Keys -/

/-- The entry that a key of `nat_index_` stands for. -/
def natEntry (key : UInt64) : RawEntry :=
  ⟨CP_NameAndType, wr16 (key >>> 16).toUInt16 ++ wr16 key.toUInt16⟩

/-- The entry that a key of `ref_index_` stands for. -/
def refEntry (key : UInt64) : RawEntry :=
  ⟨(key >>> 40).toUInt8, wr16 (key >>> 16).toUInt16 ++ wr16 key.toUInt16⟩

lemma toNat_natKey (x y : UInt16) : (natKey x y).toNat = 65536 * x.toNat + y.toNat := by
  have hx := x.toNat_lt
  have hy := y.toNat_lt
  have hshift : (x.toNat <<< 16) % 2 ^ 64 = x.toNat <<< 16 := by
    rw [Nat.shiftLeft_eq]
    omega
  simp only [natKey, UInt64.toNat_or, UInt64.toNat_shiftLeft, UInt16.toNat_toUInt64]
  change (x.toNat <<< 16) % 2 ^ 64 ||| y.toNat = _
  rw [hshift, ← Nat.shiftLeft_add_eq_or_of_lt (by omega), Nat.shiftLeft_eq]
  omega

lemma toNat_makeRefKey (tag : UInt8) (x y : UInt16) :
    (makeRefKey tag x y).toNat = 1099511627776 * tag.toNat + 65536 * x.toNat + y.toNat := by
  have htag := tag.toNat_lt
  have hx := x.toNat_lt
  have hy := y.toNat_lt
  have hlow := toNat_natKey x y
  have hshift : (tag.toNat <<< 40) % 2 ^ 64 = tag.toNat <<< 40 := by
    rw [Nat.shiftLeft_eq]
    omega
  have hkey : makeRefKey tag x y = tag.toUInt64 <<< 40 ||| natKey x y := by
    rw [makeRefKey, natKey, UInt64.or_assoc]
  rw [hkey, UInt64.toNat_or, hlow, UInt64.toNat_shiftLeft, UInt8.toNat_toUInt64]
  change (tag.toNat <<< 40) % 2 ^ 64 ||| _ = _
  rw [hshift, ← Nat.shiftLeft_add_eq_or_of_lt (by omega), Nat.shiftLeft_eq]
  omega

/-- The lower half of a key is its second index, and the bits above are the first. -/
lemma key_indices {key : UInt64} {n : ℕ} {x y : UInt16}
    (h : key.toNat = 4294967296 * n + 65536 * x.toNat + y.toNat) :
    (key >>> 16).toUInt16 = x ∧ key.toUInt16 = y := by
  have hx := x.toNat_lt
  have hy := y.toNat_lt
  constructor
  · apply UInt16.toNat_inj.mp
    rw [UInt64.toNat_toUInt16, UInt64.toNat_shiftRight, h]
    change (_ >>> 16) % 65536 = _
    rw [Nat.shiftRight_eq_div_pow]
    omega
  · apply UInt16.toNat_inj.mp
    rw [UInt64.toNat_toUInt16, h]
    omega

lemma natEntry_natKey (x y : UInt16) :
    natEntry (natKey x y) = ⟨CP_NameAndType, wr16 x ++ wr16 y⟩ := by
  have hkey : (natKey x y).toNat = 4294967296 * 0 + 65536 * x.toNat + y.toNat := by
    rw [toNat_natKey]
    omega
  obtain ⟨hx, hy⟩ := key_indices hkey
  rw [natEntry, hx, hy]

lemma refEntry_makeRefKey (tag : UInt8) (x y : UInt16) :
    refEntry (makeRefKey tag x y) = ⟨tag, wr16 x ++ wr16 y⟩ := by
  have hkey := toNat_makeRefKey tag x y
  have hkey' : (makeRefKey tag x y).toNat =
      4294967296 * (256 * tag.toNat) + 65536 * x.toNat + y.toNat := by
    rw [hkey]
    omega
  obtain ⟨hx, hy⟩ := key_indices hkey'
  have htag : (makeRefKey tag x y >>> 40).toUInt8 = tag := by
    have hlt := x.toNat_lt
    have hlt' := y.toNat_lt
    have hlt'' := tag.toNat_lt
    apply UInt8.toNat_inj.mp
    rw [UInt64.toNat_toUInt8, UInt64.toNat_shiftRight, hkey]
    change (_ >>> 40) % 256 = _
    rw [Nat.shiftRight_eq_div_pow]
    omega
  rw [refEntry, htag, hx, hy]

/-! ## Sound builders -/

namespace Builder

/-- The pool as the editor keeps it. -/
def slots (b : Builder) : List CpEntry := {} :: b.cp.map RawEntry.slot

/-- The pool fits in a class file, every entry has the size that its tag calls for, and the maps
know where the entries are. -/
structure Sound (b : Builder) : Prop where
  size_le : b.cp.length ≤ 65534
  entries : ∀ e ∈ b.cp, cpBodySize e.tag e.body = .ok e.body.length ∧
    (e.tag == 5 || e.tag == 6) = false
  utf8 : Indexed (Utf8At b.slots) id b.utf8Index
  classes : Indexed (EntryAt b.slots) (fun nameIdx => ⟨CP_Class, wr16 nameIdx⟩) b.classIndex
  nats : Indexed (EntryAt b.slots) natEntry b.natIndex
  refs : Indexed (EntryAt b.slots) refEntry b.refIndex

/-- The pool has grown at its end, and the names are found where they were. -/
structure Grows (b b' : Builder) : Prop where
  slots : b.slots <+: b'.slots
  utf8 : ∀ s i, b.utf8Index.lookup s = some i → b'.utf8Index.lookup s = some i
  classes : ∀ j i, b.classIndex.lookup j = some i → b'.classIndex.lookup j = some i
  thisInternal : b'.thisInternal = b.thisInternal
  superInternal : b'.superInternal = b.superInternal
  majorVersion : b'.majorVersion = b.majorVersion

/-- And nothing else has changed. -/
structure PoolGrows (b b' : Builder) : Prop extends Grows b b' where
  methods : b'.methods = b.methods
  accessFlags : b'.accessFlags = b.accessFlags
  codeUtf8 : b'.codeUtf8 = b.codeUtf8

lemma Grows.refl (b : Builder) : Grows b b :=
  ⟨List.prefix_refl _, fun _ _ h => h, fun _ _ h => h, rfl, rfl, rfl⟩

lemma PoolGrows.refl (b : Builder) : PoolGrows b b := ⟨Grows.refl b, rfl, rfl, rfl⟩

lemma Grows.trans {b₁ b₂ b₃ : Builder} (h : Grows b₁ b₂) (h' : Grows b₂ b₃) : Grows b₁ b₃ where
  slots := h.slots.trans h'.slots
  utf8 s i hi := h'.utf8 s i (h.utf8 s i hi)
  classes j i hi := h'.classes j i (h.classes j i hi)
  thisInternal := h'.thisInternal.trans h.thisInternal
  superInternal := h'.superInternal.trans h.superInternal
  majorVersion := h'.majorVersion.trans h.majorVersion

lemma PoolGrows.trans {b₁ b₂ b₃ : Builder} (h : PoolGrows b₁ b₂) (h' : PoolGrows b₂ b₃) :
    PoolGrows b₁ b₃ where
  toGrows := h.toGrows.trans h'.toGrows
  methods := h'.methods.trans h.methods
  accessFlags := h'.accessFlags.trans h.accessFlags
  codeUtf8 := h'.codeUtf8.trans h.codeUtf8

lemma sound_new (thisInternal superInternal : Bytes) (majorVersion : UInt16) :
    (new thisInternal superInternal majorVersion).Sound where
  size_le := Nat.zero_le _
  entries e he := by cases he
  utf8 := Indexed.nil
  classes := Indexed.nil
  nats := Indexed.nil
  refs := Indexed.nil

/-! ## Adding constants -/

/-- A computation in two steps that returns has returned from both. -/
lemma bind_eq_ok {α β : Type} {x : Except Fault α} {f : α → Except Fault β} {y : β}
    (h : x >>= f = .ok y) : ∃ a, x = .ok a ∧ f a = .ok y := by
  cases x with
  | error e => cases h
  | ok a => exact ⟨a, rfl, h⟩

/-- The state after a new entry, as long as the pool does not overflow. -/
lemma addEntry_ok {b b' : Builder} (hb : b.Sound) {tag : UInt8} {body : Bytes}
    (hsize : cpBodySize tag body = .ok body.length) (hnarrow : (tag == 5 || tag == 6) = false)
    {i : UInt16} (h : b.addEntry tag body = .ok (i, b')) :
    b' = { b with cp := b.cp ++ [⟨tag, body⟩] } ∧ b'.Sound ∧ b.PoolGrows b' ∧
      EntryAt b'.slots i ⟨tag, body⟩ := by
  dsimp only [addEntry] at h
  split at h
  · cases h
  · rename_i hle
    obtain ⟨rfl, rfl⟩ := Prod.mk.inj (Except.ok.inj h)
    rw [List.length_append, List.length_singleton] at hle
    have hslots : slots { b with cp := b.cp ++ [⟨tag, body⟩] } =
        b.slots ++ [⟨tag, body, false⟩] := by
      simp [slots, RawEntry.slot]
    have hgrows : b.slots <+: slots { b with cp := b.cp ++ [⟨tag, body⟩] } :=
      hslots ▸ List.prefix_append _ _
    have hentry : ∀ i e, EntryAt b.slots i e →
        EntryAt (slots { b with cp := b.cp ++ [⟨tag, body⟩] }) i e :=
      fun i e he => he.mono hgrows
    refine ⟨rfl, ⟨?_, ?_, ?_, ?_, ?_, ?_⟩, ⟨⟨hgrows, ?_, ?_, rfl, rfl, rfl⟩, rfl, rfl, rfl⟩, ?_⟩
    · simp only [List.length_append, List.length_singleton]
      omega
    · intro e he
      rcases List.mem_append.mp he with he | he
      · exact hb.entries e he
      · rw [List.mem_singleton.mp he]
        exact ⟨hsize, hnarrow⟩
    · exact hb.utf8.mono fun i s hs => hs.mono hgrows
    · exact hb.classes.mono hentry
    · exact hb.nats.mono hentry
    · exact hb.refs.mono hentry
    · exact fun _ _ hi => hi
    · exact fun _ _ hi => hi
    · -- the new entry is behind the slot 0 and the entries that there were
      have hindex : (UInt16.ofNat (b.cp ++ [(⟨tag, body⟩ : RawEntry)]).length).toNat =
          b.slots.length := by
        rw [List.length_append, List.length_singleton, toNat_ofNat_u2 (by omega), slots,
          List.length_cons, List.length_map]
      constructor
      · intro hzero
        rw [hzero] at hindex
        simp [slots] at hindex
      · rw [hindex, hslots, List.getElem?_concat_length]
        rfl

/-- A key is found where its entry is, or its entry is added. -/
lemma intern_ok {K : Type} [BEq K] [LawfulBEq K] {b b' : Builder} (hb : b.Sound)
    {index index' : List (K × UInt16)} {entry : K → RawEntry}
    (hindex : Indexed (EntryAt b.slots) entry index) {key : K} {tag : UInt8} {body : Bytes}
    (hentry : entry key = ⟨tag, body⟩) (hsize : cpBodySize tag body = .ok body.length)
    (hnarrow : (tag == 5 || tag == 6) = false) {i : UInt16}
    (h : b.intern index key tag body = .ok (i, index', b')) :
    b'.Sound ∧ b.PoolGrows b' ∧ Indexed (EntryAt b'.slots) entry index' ∧
      EntryAt b'.slots i ⟨tag, body⟩ ∧ index'.lookup key = some i ∧
      ∀ k j, index.lookup k = some j → index'.lookup k = some j := by
  unfold intern at h
  cases hlookup : index.lookup key with
  | some j =>
    rw [hlookup] at h
    cases h
    exact ⟨hb, PoolGrows.refl b, hindex, hentry ▸ hindex.of_lookup hlookup, hlookup,
      fun _ _ hk => hk⟩
  | none =>
    rw [hlookup] at h
    obtain ⟨⟨j, b₁⟩, hadd, hrest⟩ := bind_eq_ok h
    cases hrest
    obtain ⟨-, hsound, hgrows, hat⟩ := addEntry_ok hb hsize hnarrow hadd
    refine ⟨hsound, hgrows, ?_, hat, lookup_emplace_self hlookup,
      fun _ _ hk => lookup_emplace_of_some hk⟩
    exact (hindex.mono fun _ _ he => he.mono hgrows.slots).emplace (hentry ▸ hat)

/-- The string is known to be at the index. -/
def KnowsUtf8 (b : Builder) (s : Bytes) (i : UInt16) : Prop :=
  i ≠ 0 ∧ b.utf8Index.lookup s = some i

def KnowsClass (b : Builder) (name : Bytes) (i : UInt16) : Prop :=
  ∃ j, b.KnowsUtf8 name j ∧ b.classIndex.lookup j = some i

lemma KnowsUtf8.mono {b b' : Builder} (h : b.Grows b') {s : Bytes} {i : UInt16}
    (hi : b.KnowsUtf8 s i) : b'.KnowsUtf8 s i := ⟨hi.1, h.utf8 s i hi.2⟩

lemma KnowsClass.mono {b b' : Builder} (h : b.Grows b') {name : Bytes} {i : UInt16}
    (hi : b.KnowsClass name i) : b'.KnowsClass name i := by
  obtain ⟨j, hj, hclass⟩ := hi
  exact ⟨j, hj.mono h, h.classes j i hclass⟩

lemma KnowsUtf8.utf8At {b : Builder} (hb : b.Sound) {s : Bytes} {i : UInt16}
    (h : b.KnowsUtf8 s i) : Utf8At b.slots i s := hb.utf8.of_lookup h.2

lemma KnowsClass.classAt {b : Builder} (hb : b.Sound) {name : Bytes} {i : UInt16}
    (h : b.KnowsClass name i) : ClassAt b.slots i name := by
  obtain ⟨j, hj, hclass⟩ := h
  exact ⟨j, hb.classes.of_lookup hclass, hj.utf8At hb⟩

/-- A known string is not added again. -/
lemma KnowsUtf8.run {b : Builder} {s : Bytes} {i : UInt16} (h : b.KnowsUtf8 s i) :
    b.utf8 s = .ok (i, b) := by
  have hfind : b.findUtf8 s = i := by
    rw [findUtf8, h.2]
    rfl
  rw [utf8, hfind, if_pos h.1]

lemma KnowsClass.run {b : Builder} {name : Bytes} {i : UInt16} (h : b.KnowsClass name i) :
    b.classRef name = .ok (i, b) := by
  obtain ⟨j, hj, hclass⟩ := h
  rw [classRef, hj.run]
  change ((b.intern b.classIndex j CP_Class (wr16 j)).bind fun r =>
    .ok (r.1, { r.2.2 with classIndex := r.2.1 })) = _
  rw [intern, hclass]
  rfl

variable {b b' : Builder} {i : UInt16}

lemma utf8_ok (hb : b.Sound) {s : Bytes} (h : b.utf8 s = .ok (i, b')) :
    b'.Sound ∧ b.PoolGrows b' ∧ b'.KnowsUtf8 s i := by
  rw [utf8] at h
  cases hlookup : b.utf8Index.lookup s with
  | some j =>
    have hj : j ≠ 0 := (hb.utf8.of_lookup hlookup).1
    have hfind : b.findUtf8 s = j := by
      rw [findUtf8, hlookup]
      rfl
    rw [hfind, if_pos hj] at h
    cases h
    exact ⟨hb, PoolGrows.refl b, hj, hlookup⟩
  | none =>
    have hfind : b.findUtf8 s = 0 := by
      rw [findUtf8, hlookup]
      rfl
    rw [hfind, if_neg (not_not.mpr rfl)] at h
    split at h
    · cases h
    · rename_i hlen
      obtain ⟨⟨j, b₁⟩, hadd, hrest⟩ := bind_eq_ok h
      cases hrest
      have hsize := (Constant.utf8 s (by omega)).size_eq
      obtain ⟨heq, hsound, hgrows, hat⟩ := addEntry_ok hb hsize rfl hadd
      have hknown : b₁.utf8Index.lookup s = none := by
        rw [heq]
        exact hlookup
      have hutf8 : Utf8At b₁.slots i s := hat.utf8At (by omega)
      refine ⟨⟨hsound.size_le, hsound.entries, hsound.utf8.emplace hutf8, hsound.classes,
        hsound.nats, hsound.refs⟩, ?_, hat.1, lookup_emplace_self hknown⟩
      exact { hgrows with
        utf8 := fun s i hi => lookup_emplace_of_some (hgrows.utf8 s i hi) }

lemma classRef_ok (hb : b.Sound) {name : Bytes} (h : b.classRef name = .ok (i, b')) :
    b'.Sound ∧ b.PoolGrows b' ∧ b'.KnowsClass name i := by
  obtain ⟨⟨j, b₁⟩, hname, h⟩ := bind_eq_ok h
  obtain ⟨⟨i₁, index, b₂⟩, hintern, h⟩ := bind_eq_ok h
  cases h
  obtain ⟨hb₁, hgrows₁, hj⟩ := utf8_ok hb hname
  obtain ⟨hb₂, hgrows₂, hindex, -, hkey, hkept⟩ :=
    intern_ok hb₁ hb₁.classes rfl rfl rfl hintern
  refine ⟨⟨hb₂.size_le, hb₂.entries, hb₂.utf8, hindex, hb₂.nats, hb₂.refs⟩, ?_,
    j, hj.mono hgrows₂.toGrows, hkey⟩
  exact hgrows₁.trans { hgrows₂ with classes := hkept }

lemma nameAndType_ok (hb : b.Sound) {name desc : Bytes}
    (h : b.nameAndType name desc = .ok (i, b')) :
    b'.Sound ∧ b.PoolGrows b' ∧ NameAndTypeAt b'.slots i name desc := by
  obtain ⟨⟨j, b₁⟩, hname, h⟩ := bind_eq_ok h
  obtain ⟨⟨k, b₂⟩, hdesc, h⟩ := bind_eq_ok h
  obtain ⟨⟨i₁, index, b₃⟩, hintern, h⟩ := bind_eq_ok h
  cases h
  obtain ⟨hb₁, hgrows₁, hj⟩ := utf8_ok hb hname
  obtain ⟨hb₂, hgrows₂, hk⟩ := utf8_ok hb₁ hdesc
  obtain ⟨hb₃, hgrows₃, hindex, hat, -, -⟩ :=
    intern_ok hb₂ hb₂.nats (natEntry_natKey j k) rfl rfl hintern
  refine ⟨⟨hb₃.size_le, hb₃.entries, hb₃.utf8, hb₃.classes, hindex, hb₃.refs⟩,
    (hgrows₁.trans hgrows₂).trans { hgrows₃ with }, j, k, hat, ?_, ?_⟩
  · exact (hj.utf8At hb₁).mono (hgrows₂.slots.trans hgrows₃.slots)
  · exact (hk.utf8At hb₂).mono hgrows₃.slots

lemma ref_ok (hb : b.Sound) {tag : UInt8} (htag : tag = CP_Methodref ∨ tag = CP_Fieldref)
    {klass name desc : Bytes} (h : b.ref tag klass name desc = .ok (i, b')) :
    b'.Sound ∧ b.PoolGrows b' ∧ RefAt tag b'.slots i klass name desc := by
  obtain ⟨⟨j, b₁⟩, hclass, h⟩ := bind_eq_ok h
  obtain ⟨⟨k, b₂⟩, hnat, h⟩ := bind_eq_ok h
  obtain ⟨⟨i₁, index, b₃⟩, hintern, h⟩ := bind_eq_ok h
  cases h
  obtain ⟨hb₁, hgrows₁, hj⟩ := classRef_ok hb hclass
  obtain ⟨hb₂, hgrows₂, hk⟩ := nameAndType_ok hb₁ hnat
  have hsize : cpBodySize tag (wr16 j ++ wr16 k) = .ok (wr16 j ++ wr16 k).length := by
    rcases htag with rfl | rfl
    · rfl
    · rfl
  have hnarrow : (tag == 5 || tag == 6) = false := by
    rcases htag with rfl | rfl
    · rfl
    · rfl
  obtain ⟨hb₃, hgrows₃, hindex, hat, -, -⟩ :=
    intern_ok hb₂ hb₂.refs (refEntry_makeRefKey tag j k) hsize hnarrow hintern
  refine ⟨⟨hb₃.size_le, hb₃.entries, hb₃.utf8, hb₃.classes, hb₃.nats, hindex⟩,
    (hgrows₁.trans hgrows₂).trans { hgrows₃ with }, j, k, hat, ?_, ?_⟩
  · exact (hj.classAt hb₁).mono (hgrows₂.slots.trans hgrows₃.slots)
  · exact hk.mono hgrows₃.slots

lemma stringRef_ok (hb : b.Sound) {s : Bytes} (h : b.stringRef s = .ok (i, b')) :
    b'.Sound ∧ b.PoolGrows b' ∧ StringAt b'.slots i s := by
  obtain ⟨⟨j, b₁⟩, hutf8, h⟩ := bind_eq_ok h
  obtain ⟨hb₁, hgrows₁, hj⟩ := utf8_ok hb hutf8
  obtain ⟨-, hb₂, hgrows₂, hat⟩ := addEntry_ok hb₁ rfl rfl h
  exact ⟨hb₂, hgrows₁.trans hgrows₂, j, hat, (hj.utf8At hb₁).mono hgrows₂.slots⟩

end Builder

end ClassFile
end SakuraTools
