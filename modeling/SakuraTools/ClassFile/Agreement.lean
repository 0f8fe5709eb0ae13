import SakuraTools.ClassFile.Additions
import SakuraTools.ClassFile.BuilderIndex

/-!
# The builder and the editor agree

On the bytes of `build`, the searches of the editor find the constants of the builder at the
indices that its maps have.
-/

namespace SakuraTools
namespace ClassFile

open Interning Builder

/-! ## The pool of the built bytes -/

/-- The pool that is parsed is the one in front of the rest, whatever the rest is. -/
lemma cp_of_parse {pool : List Constant} (hlt : (poolSlots pool).length < 65536)
    {minorVersion majorVersion : UInt16} {rest : Bytes} {ed : Editor}
    (h : parse (wr32 0xCAFEBABE ++ (wr16 minorVersion ++ (wr16 majorVersion ++
      (wr16 (UInt16.ofNat (poolSlots pool).length) ++
        (pool.flatMap Constant.encode ++ rest))))) = .ok ed) :
    ed.cp = poolSlots pool := by
  have hpool : readPool (UInt16.ofNat (poolSlots pool).length)
      ((pool.flatMap Constant.encode ++ rest).length + 1) 1
      (pool.flatMap Constant.encode ++ rest) = .ok (pool.flatMap Constant.slots, rest) := by
    refine reads_readPool _ pool 1 _ ?_ ?_ rest
    · have := length_pool_le pool
      rw [List.length_append]
      omega
    · rw [toNat_ofNat_u2 hlt, poolSlots, List.length_cons, UInt16.toNat_one]
      omega
  rw [parse] at h
  split at h
  · cases h
  rw [readClass, (reads_rd32 _).bind_append, if_neg (by decide), (reads_rd16 _).bind_append,
    (reads_rd16 _).bind_append, (reads_rd16 _).bind_append, Parser.bind_apply, hpool] at h
  split at h
  · cases h
  · rename_i ed' p hread
    cases h
    -- nothing that is read after the pool changes it
    obtain ⟨_, _, -, hread⟩ := Parser.bind_ok hread
    obtain ⟨_, _, -, hread⟩ := Parser.bind_ok hread
    obtain ⟨_, _, -, hread⟩ := Parser.bind_ok hread
    obtain ⟨_, _, -, hread⟩ := Parser.bind_ok hread
    obtain ⟨_, _, -, hread⟩ := Parser.bind_ok hread
    obtain ⟨_, _, -, hread⟩ := Parser.bind_ok hread
    obtain ⟨_, _, -, hread⟩ := Parser.bind_ok hread
    obtain ⟨_, _, -, hread⟩ := Parser.bind_ok hread
    obtain ⟨_, _, -, hread⟩ := Parser.bind_ok hread
    obtain ⟨rfl, -⟩ := Parser.pure_ok hread
    rfl

namespace Builder

variable {b : Builder}

/-- The pool that is written is the pool of the builder. -/
lemma Sound.cp_of_parse_write (hb : b.Sound) {thisClass superClass : UInt16} {ed : Editor}
    (h : parse (b.write thisClass superClass) = .ok ed) : ed.cp = b.slots := by
  obtain ⟨pool, hslots, hpool⟩ := exists_pool hb.entries
  have hpoolSlots : poolSlots pool = b.slots := by rw [poolSlots, hslots, slots]
  have hsize : b.cp.length + 1 = (poolSlots pool).length := by
    rw [hpoolSlots, slots, List.length_cons, List.length_map]
  have hlt := hb.length_slots
  rw [← hpoolSlots] at hlt ⊢
  rw [Builder.write, ← hpool, hsize] at h
  simp only [List.append_assoc] at h
  exact cp_of_parse (by omega) h

/-- The bytes lay out a class file, whatever the number of the methods is: those that the count
leaves out stand after it. -/
lemma Holds.exists_parse {ds : List Declared} (hb : b.Holds ds) (hfits : ∀ d ∈ ds, d.Fits)
    {thisClass : UInt16} {name : Bytes} (hthis : ClassAt b.slots thisClass name)
    (superClass : UInt16) : ∃ ed, parse (b.write thisClass superClass) = .ok ed := by
  obtain ⟨pool, hslots, hpool⟩ := exists_pool hb.entries
  obtain ⟨members, hlen, hencode, -⟩ := exists_built_members hb.methods hfits
  have hpoolSlots : poolSlots pool = b.slots := by rw [poolSlots, hslots, slots]
  have hsize : (poolSlots pool).length = b.cp.length + 1 := by
    rw [hpoolSlots, slots, List.length_cons, List.length_map]
  have hle := hb.size_le
  obtain ⟨j, ⟨-, hentry⟩, -⟩ := hthis
  obtain ⟨hlt, -⟩ := List.getElem?_eq_some_iff.mp hentry
  have hcounted : (members.take (members.length % 65536)).length = members.length % 65536 := by
    rw [List.length_take, min_eq_left (Nat.mod_le _ _)]
  have hmod := Nat.mod_lt members.length (y := 65536) (by omega)
  let L : Layout := ⟨0, b.majorVersion, pool, b.accessFlags, thisClass, superClass, [], [],
    members.take (members.length % 65536),
    (members.drop (members.length % 65536)).flatMap Member.encode ++ wr16 0,
    by omega, by decide, by decide, by omega, by rw [hpoolSlots]; exact hlt⟩
  have hcount : UInt16.ofNat (members.length % 65536) = UInt16.ofNat members.length := by
    apply UInt16.toNat_inj.mp
    rw [UInt16.toNat_ofNat', UInt16.toNat_ofNat']
    exact Nat.mod_mod _ _
  have hmembers : (members.take (members.length % 65536)).flatMap Member.encode ++
      (members.drop (members.length % 65536)).flatMap Member.encode =
      b.methods.flatMap BuilderMethod.write := by
    rw [← List.flatMap_append, List.take_append_drop, hencode]
  have hbytes : L.encode = b.write thisClass superClass := by
    rw [Builder.write, ← hmembers, ← hlen, ← hcount]
    simp only [L, Layout.encode, Layout.encodeFields, hsize, hpool, hcounted, List.flatMap_nil,
      List.append_nil, List.length_nil, List.append_assoc]
    rfl
  obtain ⟨thisName, -, hparse⟩ := parse_encode L
  exact ⟨_, hbytes ▸ hparse⟩

/-! ## Additions -/

/-- The index of the class in the maps of the builder. -/
def RegistersClass (b : Builder) (internalName : Bytes) (i : UInt16) : Prop :=
  ∃ j, b.utf8Index.lookup internalName = some j ∧ b.classIndex.lookup j = some i

def RegistersPair (b : Builder) (name desc : Bytes) (i : UInt16) : Prop :=
  ∃ j k, b.utf8Index.lookup name = some j ∧ b.utf8Index.lookup desc = some k ∧
    b.natIndex.lookup (natKey j k) = some i

/-- The index of the constant in the maps of the builder. -/
def Registers (b : Builder) (i : UInt16) : Addition → Prop
  | .utf8 s => b.utf8Index.lookup s = some i
  | .klass internalName => b.RegistersClass internalName i
  | .nameAndType name desc => b.RegistersPair name desc i
  | .methodRef className name desc => ∃ j k, b.RegistersClass className j ∧
    b.RegistersPair name desc k ∧ b.refIndex.lookup (makeRefKey CP_Methodref j k) = some i

/-- What the maps know is in the pool. -/
lemma Registers.denotes (hb : b.Sound) {i : UInt16} {a : Addition} (h : b.Registers i a) :
    a.Denotes b.slots i := by
  have hclass {name : Bytes} {i : UInt16} (h : b.RegistersClass name i) :
      ClassAt b.slots i name := by
    obtain ⟨j, hname, hi⟩ := h
    exact ⟨j, hb.classes.of_lookup hi, hb.utf8.of_lookup hname⟩
  have hpair {name desc : Bytes} {i : UInt16} (h : b.RegistersPair name desc i) :
      NameAndTypeAt b.slots i name desc := by
    obtain ⟨j, k, hname, hdesc, hi⟩ := h
    refine ⟨j, k, ?_, hb.utf8.of_lookup hname, hb.utf8.of_lookup hdesc⟩
    rw [← natEntry_natKey]
    exact hb.nats.of_lookup hi
  cases a with
  | utf8 s => exact hb.utf8.of_lookup h
  | klass internalName => exact hclass h
  | nameAndType name desc => exact hpair h
  | methodRef className name desc =>
    obtain ⟨j, k, hj, hk, hi⟩ := h
    refine ⟨j, k, ?_, hclass hj, hpair hk⟩
    rw [← refEntry_makeRefKey]
    exact hb.refs.of_lookup hi

end Builder

lemma Addition.keyed_const (a : Addition) : a.const.Keyed (· ≠ CP_String) := by
  cases a with
  | utf8 s => exact trivial
  | klass internalName => exact ⟨by decide, trivial⟩
  | nameAndType name desc => exact ⟨by decide, trivial, trivial⟩
  | methodRef className name desc =>
    exact ⟨by decide, ⟨by decide, trivial⟩, by decide, trivial, trivial⟩

/-- In a pool without duplicates, the first match of every search is the constant that the builder
has at the index. -/
lemma Addition.run_of_denotes {b : Builder} (hb : b.Sound) (hm : b.Maps) {ed : Editor}
    (hcp : ed.cp = b.slots) {a : Addition} {i : UInt16} (h : a.Denotes b.slots i) :
    a.run ed = .ok (i, ed) := by
  obtain ⟨pool, hpool⟩ := hb.exists_slots
  have hat : At (table b.slots) a.const i.toNat := by
    rw [hpool] at h ⊢
    exact denotes_iff.mp h
  have hfind := (hm.distinct hb).find_of_at a.keyed_const hat
  rw [← hcp] at hfind
  have hrun := run_of_find ⟨pool, hcp.trans hpool⟩ (hcp ▸ hb.length_slots) h.short hfind
  rwa [UInt16.ofNat_toNat] at hrun

/-! ## The built bytes -/

namespace Op

/-- The call of the editor with the arguments of a call of the builder. -/
def addition : Op → Option Addition
  | call (.utf8 s) => some (.utf8 s)
  | call (.classRef internalName) => some (.klass internalName)
  | call (.nameAndType name desc) => some (.nameAndType name desc)
  | call (.methodRef className name desc) => some (.methodRef className name desc)
  | _ => none

/-- The editor returns the index that the builder has returned, and is left as it is. -/
def Agrees (ed : Editor) (op : Op) (idx : Option UInt16) : Prop :=
  ∀ a, op.addition = some a → ∃ i, idx = some i ∧ a.run ed = .ok (i, ed)

lemma Denotes.addition {cp : List CpEntry} {op : Op} {idx : Option UInt16}
    (h : op.Denotes cp idx) {a : Addition} (ha : op.addition = some a) :
    ∃ i, idx = some i ∧ a.Denotes cp i := by
  rcases op with (_ | _ | _ | _ | _ | _ | _ | _ | _) | _
  · cases ha
    exact h
  · cases ha
    exact h
  · cases ha
    exact h
  · cases ha
    exact h
  all_goals cases ha

end Op

/-- The editor of the bytes of `build` finds what the calls asked for, and what the maps have, at
the indices of the builder, without a change.  There is such an editor if the code of every method
fits in its attribute. -/
theorem build_agrees {thisInternal superInternal : Bytes} {majorVersion : UInt16}
    {ops : List Op} {idxs : List (Option UInt16)} {b b' : Builder} {bytes : Bytes}
    (hrun : runOps (new thisInternal superInternal majorVersion) ops = .ok (idxs, b))
    (hbuild : b.build = .ok (bytes, b')) :
    ((∀ d ∈ ops.filterMap Op.declares, d.Fits) → ∃ ed, parse bytes = .ok ed) ∧
      ∀ ed, parse bytes = .ok ed → List.Forall₂ (Op.Agrees ed) ops idxs ∧
        ∀ a i, b'.Registers i a → a.run ed = .ok (i, ed) := by
  obtain ⟨-, hb, hm, hdenotes⟩ := runOps_ok (holds_new thisInternal superInternal majorVersion)
    (maps_new thisInternal superInternal majorVersion) hrun
  rw [List.nil_append] at hb
  have hm' := build_maps hb.toSound hm hbuild
  obtain ⟨hb', hgrows, thisClass, superClass, hthis, -, rfl⟩ := build_ok hb.toSound hbuild
  constructor
  · intro hfits
    exact (hb.grow hb' hgrows).exists_parse hfits (hthis.classAt hb') superClass
  · intro ed hparse
    have hcp := hb'.cp_of_parse_write hparse
    constructor
    · refine hdenotes.imp fun op idx hd a ha => ?_
      obtain ⟨i, hi, hat⟩ := (hd.mono hgrows.slots).addition ha
      exact ⟨i, hi, Addition.run_of_denotes hb' hm' hcp hat⟩
    · exact fun a i ha => Addition.run_of_denotes hb' hm' hcp (ha.denotes hb')

theorem build_agrees_sample : ∃ idxs b b' bytes ed,
    runOps (new (ascii "A") (ascii "java/lang/Object")) sampleOps = .ok (idxs, b) ∧
      b.build = .ok (bytes, b') ∧ parse bytes = .ok ed ∧
      ed.addMethodRef (ascii "H") (ascii "h") (ascii "()V") = .ok (6, ed) ∧
      ed.addClass (ascii "A") = .ok (9, ed) := by
  obtain ⟨idxs, b, b', bytes, hrun, hbuild, hidxs, hregisters⟩ : ∃ idxs b b' bytes,
      runOps (new (ascii "A") (ascii "java/lang/Object")) sampleOps = .ok (idxs, b) ∧
        b.build = .ok (bytes, b') ∧ idxs = [some 6, some 7, none, some 6] ∧
        b'.RegistersClass (ascii "A") 9 :=
    ⟨_, _, _, _, rfl, rfl, rfl, 8, rfl, rfl⟩
  obtain ⟨hparse, hagrees⟩ := build_agrees hrun hbuild
  obtain ⟨ed, hed⟩ := hparse fun d hd => absurd hd List.not_mem_nil
  obtain ⟨hops, hregistered⟩ := hagrees ed hed
  subst hidxs
  obtain ⟨hmethod, -⟩ := List.forall₂_cons.mp hops
  obtain ⟨i, hi, hadd⟩ := hmethod (.methodRef (ascii "H") (ascii "h") (ascii "()V")) rfl
  cases hi
  exact ⟨_, b, b', bytes, ed, hrun, hbuild, hed, hadd,
    hregistered (.klass (ascii "A")) 9 hregisters⟩

end ClassFile
end SakuraTools
