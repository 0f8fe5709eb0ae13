import SakuraTools.ClassFile.Additions

/-!
# Parsing bytes that are not checked

The parser checks that there are ten bytes, the magic number and the tags of the constants, and
nothing else.  It stays inside its input and fills as many slots as the header says exactly on the
inputs that are laid out as class files and on those where one of these checks stops it.
-/

namespace SakuraTools
namespace ClassFile

/-! ## Inverting the readers -/

lemma wr32_be32 (a b c d : UInt8) : wr32 (be32 a b c d) = [a, b, c, d] := by
  have ha := a.toNat_lt
  have hb := b.toNat_lt
  have hc := c.toNat_lt
  have hd := d.toNat_lt
  have hv := toNat_be32 a b c d
  have hbyte (n : ℕ) (e : UInt8) (he : (be32 a b c d).toNat / 2 ^ n % 256 = e.toNat)
      (hn : n < 32) : ((be32 a b c d >>> UInt32.ofNat n) &&& 0xFF).toUInt8 = e := by
    apply UInt8.toNat_inj.mp
    rw [UInt32.toNat_toUInt8, UInt32.toNat_and, UInt32.toNat_shiftRight]
    change (_ >>> ((UInt32.ofNat n).toNat % 32) &&& (2 ^ 8 - 1)) % 256 = _
    rw [toNat_ofNat_u4 (by omega), Nat.mod_eq_of_lt hn, Nat.shiftRight_eq_div_pow,
      Nat.and_two_pow_sub_one_eq_mod]
    omega
  have h₀ := hbyte 0 d (by rw [hv]; omega) (by omega)
  have h₁ := hbyte 8 c (by rw [hv]; omega) (by omega)
  have h₂ := hbyte 16 b (by rw [hv]; omega) (by omega)
  have h₃ := hbyte 24 a (by rw [hv]; omega) (by omega)
  have hzero : be32 a b c d >>> UInt32.ofNat 0 = be32 a b c d := UInt32.shiftRight_zero
  rw [hzero] at h₀
  exact congrArg₂ List.cons h₃ (congrArg₂ List.cons h₂ (congrArg₂ List.cons h₁
    (congrArg₂ List.cons h₀ rfl)))

lemma rd8_ok {s r : Bytes} {v : UInt8} (h : rd8 s = .ok (v, r)) : s = v :: r := by
  cases s with
  | nil => cases h
  | cons b s =>
    cases h
    rfl

lemma rd16_inverts : Parser.Inverts rd16 wr16 id := by
  intro s v r h
  obtain ⟨a, t, ha, h⟩ := Parser.bind_ok h
  obtain ⟨b, u, hb, h⟩ := Parser.bind_ok h
  obtain ⟨rfl, rfl⟩ := Parser.pure_ok h
  rw [rd8_ok ha, rd8_ok hb]
  exact ⟨be16 a b, by rw [wr16_be16]; rfl, rfl⟩

lemma rd16_ok {s r : Bytes} {v : UInt16} (h : rd16 s = .ok (v, r)) : s = wr16 v ++ r := by
  obtain ⟨v', hs, rfl⟩ := rd16_inverts h
  exact hs

lemma rd32_ok {s r : Bytes} {v : UInt32} (h : rd32 s = .ok (v, r)) : s = wr32 v ++ r := by
  obtain ⟨a, t, ha, h⟩ := Parser.bind_ok h
  obtain ⟨b, u, hb, h⟩ := Parser.bind_ok h
  obtain ⟨c, w, hc, h⟩ := Parser.bind_ok h
  obtain ⟨d, x, hd, h⟩ := Parser.bind_ok h
  obtain ⟨rfl, rfl⟩ := Parser.pure_ok h
  rw [rd8_ok ha, rd8_ok hb, rd8_ok hc, rd8_ok hd, wr32_be32]
  rfl

lemma skipAttribute_inverts : Parser.Inverts skipAttribute Attribute.encode fun _ => () := by
  intro s _ r h
  obtain ⟨name, t, hname, h⟩ := Parser.bind_ok h
  obtain ⟨attrLen, u, hlen, h⟩ := Parser.bind_ok h
  obtain ⟨info, w, hinfo, h⟩ := Parser.bind_ok h
  obtain ⟨-, rfl⟩ := Parser.pure_ok h
  obtain ⟨hnameLen, rfl⟩ := Parser.block_ok hname
  obtain ⟨hinfoLen, rfl⟩ := Parser.block_ok hinfo
  obtain ⟨v, rfl⟩ := exists_wr16 hnameLen
  rw [rd32_ok hlen]
  refine ⟨⟨v, info, hinfoLen ▸ attrLen.toNat_lt⟩, ?_, rfl⟩
  simp only [Attribute.encode, hinfoLen, UInt32.ofNat_toNat, List.append_assoc]

/-- A counted table of attributes, in a member with the given fields. -/
lemma skipAttributes_ok {s r : Bytes} {u : Unit} (h : skipAttributes s = .ok (u, r))
    (accessFlags nameIndex descriptorIndex : UInt16) :
    ∃ m : Member, s = m.encodeAttributes ++ r ∧ m.accessFlags = accessFlags ∧
      m.nameIndex = nameIndex ∧ m.descriptorIndex = descriptorIndex := by
  obtain ⟨attrCount, t, hcount, h⟩ := Parser.bind_ok h
  obtain ⟨us, w, htable, h⟩ := Parser.bind_ok h
  obtain ⟨-, rfl⟩ := Parser.pure_ok h
  obtain ⟨l, hl, rfl, -⟩ := skipAttribute_inverts.times htable
  rw [rd16_ok hcount]
  refine ⟨⟨accessFlags, nameIndex, descriptorIndex, l, hl ▸ attrCount.toNat_lt⟩, ?_, rfl, rfl, rfl⟩
  simp only [Member.encodeAttributes, hl, UInt16.ofNat_toNat, List.append_assoc]

lemma skipField_inverts : Parser.Inverts (do let _ ← copyN 6; skipAttributes) Member.encode
    fun _ => () := by
  intro s _ r h
  obtain ⟨b, t, hb, hskip⟩ := Parser.bind_ok h
  obtain ⟨hlen, rfl⟩ := Parser.block_ok hb
  obtain ⟨accessFlags, hflags⟩ := exists_wr16 (b := b.take 2) (by rw [List.length_take]; omega)
  obtain ⟨nameIndex, hname⟩ := exists_wr16 (b := (b.drop 2).take 2)
    (by rw [List.length_take, List.length_drop]; omega)
  obtain ⟨descriptorIndex, hdesc⟩ := exists_wr16 (b := (b.drop 2).drop 2)
    (by rw [List.length_drop, List.length_drop]; omega)
  obtain ⟨m, rfl, hflags', hname', hdesc'⟩ :=
    skipAttributes_ok hskip accessFlags nameIndex descriptorIndex
  refine ⟨m, ?_, rfl⟩
  rw [Member.encode, hflags', hname', hdesc', ← hflags, ← hname, ← hdesc]
  simp only [List.append_assoc]
  rw [← List.append_assoc ((b.drop 2).take 2), List.take_append_drop,
    ← List.append_assoc (b.take 2), List.take_append_drop]

lemma readMethod_inverts : Parser.Inverts readMethod Member.encode Member.info := by
  intro s m r h
  obtain ⟨accessFlags, t, hflags, h⟩ := Parser.bind_ok h
  obtain ⟨nameIndex, u, hname, h⟩ := Parser.bind_ok h
  obtain ⟨descriptorIndex, w, hdesc, h⟩ := Parser.bind_ok h
  obtain ⟨raw, x, hraw, h⟩ := Parser.bind_ok h
  obtain ⟨rfl, rfl⟩ := Parser.pure_ok h
  obtain ⟨v, hskip, hconsumed⟩ := Parser.consumed_ok hraw
  obtain ⟨m, hm, hflags', hname', hdesc'⟩ :=
    skipAttributes_ok hskip accessFlags nameIndex descriptorIndex
  refine ⟨m, ?_, ?_⟩
  · rw [rd16_ok hflags, rd16_ok hname, rd16_ok hdesc, hm, Member.encode, hflags', hname', hdesc']
    simp only [List.append_assoc]
  · rw [Member.info, hflags', hname', hdesc', hconsumed _ hm]

/-! ## Inverting the pool -/

/-- The tags that `cpBodySize` knows. -/
def knownTags : List UInt8 :=
  [CP_Utf8, CP_Class, CP_String, 16, 19, 20, CP_Fieldref, CP_Methodref, CP_InterfaceMethodref,
    CP_NameAndType, 3, 4, 18, 17, 5, 6, 15]

/-- What `cpBodySize` throws. -/
def unknownTag (tag : UInt8) : Fault :=
  .thrown ("class_edit: unknown constant pool tag " ++ toString tag.toNat)

lemma cpBodySize_of_unknown {tag : UInt8} (h : tag ∉ knownTags) (p : Bytes) :
    cpBodySize tag p = .error (unknownTag tag) := by
  simp only [knownTags, List.mem_cons, List.not_mem_nil, or_false, not_or] at h
  obtain ⟨h₁, h₂, h₃, h₄, h₅, h₆, h₇, h₈, h₉, h₁₀, h₁₁, h₁₂, h₁₃, h₁₄, h₁₅, h₁₆, h₁₇⟩ := h
  simp only [cpBodySize, h₁, h₂, h₃, h₄, h₅, h₆, h₇, h₈, h₉, h₁₀, h₁₁, h₁₂, h₁₃, h₁₄, h₁₅, h₁₆, h₁₇,
    or_self, if_false]
  rfl

/-- The size of a body depends on no more than the body. -/
lemma cpBodySize_take {tag : UInt8} {p : Bytes} {n : ℕ} (h : cpBodySize tag p = .ok n)
    (hn : n ≤ p.length) : cpBodySize tag (p.take n) = .ok (p.take n).length := by
  rw [List.length_take_of_le hn]
  by_cases ht : tag = CP_Utf8
  · rcases p with _ | ⟨a, _ | ⟨b, t⟩⟩
    · simp [cpBodySize, ht] at h
    · simp [cpBodySize, ht] at h
    · simp only [cpBodySize, ht, if_true, Except.ok.injEq] at h
      subst h
      have htake : (a :: b :: t).take (2 + (be16 a b).toNat) =
          a :: b :: t.take (be16 a b).toNat := by
        rw [Nat.add_comm]
        rfl
      rw [htake]
      simp [cpBodySize, ht]
  · simp only [cpBodySize, ht, if_false] at h ⊢
    exact h

lemma cpBodySize_error {tag : UInt8} {p : Bytes} {e : Fault} (h : cpBodySize tag p = .error e) :
    e = .outOfBounds ∨ tag ∉ knownTags := by
  by_cases hknown : tag ∈ knownTags
  · refine .inl ?_
    simp only [knownTags, List.mem_cons, List.not_mem_nil, or_false] at hknown
    by_cases ht : tag = CP_Utf8
    · rcases p with _ | ⟨a, _ | ⟨b, t⟩⟩
      · simpa [cpBodySize, ht, eq_comm] using h
      · simpa [cpBodySize, ht, eq_comm] using h
      · simp [cpBodySize, ht] at h
    · rcases hknown with rfl | rfl | rfl | rfl | rfl | rfl | rfl | rfl | rfl | rfl | rfl | rfl |
        rfl | rfl | rfl | rfl | rfl <;> first | exact absurd rfl ht | cases h
  · exact .inr hknown

lemma readEntry_ok {s r : Bytes} {e : CpEntry} (h : readEntry s = .ok (e, r)) :
    ∃ c : Constant, s = c.encode ++ r ∧ e = ⟨c.tag, c.body, c.wide⟩ := by
  obtain ⟨tag, t, htag, h⟩ := Parser.bind_ok h
  obtain ⟨n, u, hn, h⟩ := Parser.bind_ok h
  obtain ⟨body, w, hbody, h⟩ := Parser.bind_ok h
  obtain ⟨rfl, rfl⟩ := Parser.pure_ok h
  obtain ⟨m, hm, hnm⟩ : ∃ m, cpBodySize tag t = .ok m ∧ (m, t) = (n, u) := by
    cases hsize : cpBodySize tag t with
    | error e =>
      rw [hsize] at hn
      cases hn
    | ok m =>
      rw [hsize] at hn
      exact ⟨m, rfl, Except.ok.inj hn⟩
  obtain ⟨rfl, rfl⟩ := Prod.mk.inj hnm
  obtain ⟨hlen, hsplit⟩ := Parser.block_ok hbody
  have hle : m ≤ t.length := by
    rw [hsplit, List.length_append]
    omega
  have htake : t.take m = body := by rw [hsplit, ← hlen, List.take_left]
  have hsize : cpBodySize tag body = .ok body.length := htake ▸ cpBodySize_take hm hle
  refine ⟨⟨tag, body, hsize⟩, ?_, rfl⟩
  rw [rd8_ok htag, hsplit]
  rfl

/-- Reading an entry leaves the input, or stops at a tag that is not known. -/
lemma readEntry_error {s : Bytes} {e : Fault} (h : readEntry s = .error e) :
    e = .outOfBounds ∨ ∃ tag rest, s = tag :: rest ∧ tag ∉ knownTags := by
  rcases Parser.bind_error h with h | ⟨tag, t, htag, h⟩
  · exact .inl (Parser.faultsIn_item (F := (· = Fault.outOfBounds)) rfl h)
  · rcases Parser.bind_error h with h | ⟨n, u, -, h⟩
    · cases hsize : cpBodySize tag t with
      | error e' =>
        rw [hsize] at h
        cases h
        exact (cpBodySize_error hsize).imp_right fun hunknown => ⟨tag, t, rd8_ok htag, hunknown⟩
      | ok m =>
        rw [hsize] at h
        cases h
    · rcases Parser.bind_error h with h | ⟨body, w, -, h⟩
      · exact .inl (Parser.faultsIn_block (F := (· = Fault.outOfBounds)) rfl n h)
      · cases h

/-- The slot after the entry, as the 16-bit counter of the loop has it. -/
def Constant.next (c : Constant) (i : UInt16) : UInt16 := if c.wide then i + 1 + 1 else i + 1

/-- The counter of the loop is below the count at every constant and after the last. -/
def CountsBelow (cpCount : UInt16) : UInt16 → List Constant → Prop
  | i, [] => i < cpCount
  | i, c :: pool => i < cpCount ∧ CountsBelow cpCount (c.next i) pool

/-- One turn of the loop, with the rest of it. -/
lemma readPool_succ (cpCount : UInt16) (fuel : ℕ) {i : UInt16} (hi : i < cpCount) :
    readPool cpCount (fuel + 1) i = readEntry >>= fun e =>
      readPool cpCount fuel (if e.wide then i + 1 + 1 else i + 1) >>= fun rest =>
        pure (e :: ((if e.wide then [({} : CpEntry)] else []) ++ rest)) := by
  rw [readPool, if_pos hi]
  congr 1
  funext e
  cases e.wide <;> rfl

/-- The loop reads constants. -/
lemma readPool_ok {cpCount : UInt16} {fuel : ℕ} {i : UInt16} {s r : Bytes} {slots : List CpEntry}
    (h : readPool cpCount fuel i s = .ok (slots, r)) :
    ∃ pool : List Constant, s = pool.flatMap Constant.encode ++ r ∧
      slots = pool.flatMap Constant.slots := by
  induction fuel generalizing i s slots with
  | zero => cases h
  | succ fuel ih =>
    by_cases hi : i < cpCount
    · rw [readPool_succ cpCount fuel hi] at h
      obtain ⟨e, t, he, h⟩ := Parser.bind_ok h
      obtain ⟨rest, u, hrest, h⟩ := Parser.bind_ok h
      obtain ⟨rfl, rfl⟩ := Parser.pure_ok h
      obtain ⟨c, rfl, rfl⟩ := readEntry_ok he
      obtain ⟨pool, rfl, rfl⟩ := ih hrest
      refine ⟨c :: pool, ?_, ?_⟩
      · rw [List.flatMap_cons, List.append_assoc]
      · rw [List.flatMap_cons]
        rfl
    · rw [readPool, if_neg hi] at h
      obtain ⟨rfl, rfl⟩ := Parser.pure_ok h
      exact ⟨[], rfl, rfl⟩

/-- The loop leaves the input, stops at a tag that is not known, or runs out of fuel. -/
lemma readPool_error {cpCount : UInt16} {fuel : ℕ} {i : UInt16} {s : Bytes} {what : String}
    (h : readPool cpCount fuel i s = .error (.thrown what)) :
    ∃ (pool : List Constant) (tag : UInt8) (rest : Bytes),
      s = pool.flatMap Constant.encode ++ tag :: rest ∧ tag ∉ knownTags ∧
        CountsBelow cpCount i pool := by
  induction fuel generalizing i s with
  | zero => cases h
  | succ fuel ih =>
    by_cases hi : i < cpCount
    · rw [readPool_succ cpCount fuel hi] at h
      rcases Parser.bind_error h with h | ⟨e, t, he, h⟩
      · rcases readEntry_error h with hbounds | ⟨tag, rest, rfl, hunknown⟩
        · cases hbounds
        · exact ⟨[], tag, rest, rfl, hunknown, hi⟩
      · rcases Parser.bind_error h with h | ⟨rest, u, -, h⟩
        · obtain ⟨c, rfl, rfl⟩ := readEntry_ok he
          obtain ⟨pool, tag, rest, rfl, hunknown, hcounts⟩ := ih h
          refine ⟨c :: pool, tag, rest, ?_, hunknown, hi, hcounts⟩
          rw [List.flatMap_cons, List.append_assoc]
        · cases h
    · rw [readPool, if_neg hi] at h
      cases h

/-- And it stops there. -/
lemma readPool_stops {cpCount : UInt16} {pool : List Constant} {tag : UInt8} {rest : Bytes}
    (htag : tag ∉ knownTags) {fuel : ℕ} (hfuel : pool.length < fuel) {i : UInt16}
    (hcounts : CountsBelow cpCount i pool) :
    readPool cpCount fuel i (pool.flatMap Constant.encode ++ tag :: rest) =
      .error (unknownTag tag) := by
  induction pool generalizing fuel i with
  | nil =>
    obtain ⟨fuel, rfl⟩ : ∃ k, fuel = k + 1 := ⟨fuel - 1, by simp at hfuel; omega⟩
    rw [readPool_succ cpCount fuel hcounts]
    show ((Except.map _ (cpBodySize tag rest)).bind _).bind _ = _
    rw [cpBodySize_of_unknown htag]
    rfl
  | cons c pool ih =>
    obtain ⟨fuel, rfl⟩ : ∃ k, fuel = k + 1 := ⟨fuel - 1, by simp at hfuel; omega⟩
    obtain ⟨hi, hcounts⟩ := hcounts
    rw [readPool_succ cpCount fuel hi, List.flatMap_cons, List.append_assoc, Parser.bind_apply,
      reads_readEntry c]
    show (readPool cpCount fuel (c.next i) _).bind _ = _
    rw [ih (by simpa using hfuel) hcounts]
    rfl

/-! ## Inverting the parser -/

/-- After some constants the loop over the pool comes to a tag that is not known. -/
def StopsAtTag (bytes : Bytes) : Prop :=
  ∃ (minorVersion majorVersion cpCount : UInt16) (pool : List Constant) (tag : UInt8)
    (rest : Bytes), bytes = wr32 0xCAFEBABE ++ (wr16 minorVersion ++ (wr16 majorVersion ++
      (wr16 cpCount ++ (pool.flatMap Constant.encode ++ tag :: rest)))) ∧ tag ∉ knownTags ∧
    CountsBelow cpCount 1 pool

section

/-- The fault is a read outside the input. -/
abbrev IsOutOfBounds (e : Fault) : Prop := e = .outOfBounds

open SakuraTools.Parser

lemma faultsIn_rd8 : FaultsIn rd8 IsOutOfBounds := faultsIn_item rfl

lemma faultsIn_rd16 : FaultsIn rd16 IsOutOfBounds :=
  faultsIn_rd8.bind fun _ => faultsIn_rd8.bind fun _ => faultsIn_pure _

lemma faultsIn_rd32 : FaultsIn rd32 IsOutOfBounds :=
  faultsIn_rd8.bind fun _ => faultsIn_rd8.bind fun _ => faultsIn_rd8.bind fun _ =>
    faultsIn_rd8.bind fun _ => faultsIn_pure _

lemma faultsIn_copyN (n : ℕ) : FaultsIn (copyN n) IsOutOfBounds :=
  faultsIn_block (F := IsOutOfBounds) rfl n

lemma faultsIn_skipAttributes : FaultsIn skipAttributes IsOutOfBounds := by
  have hattribute : FaultsIn skipAttribute IsOutOfBounds :=
    (faultsIn_copyN 2).bind fun _ => faultsIn_rd32.bind fun _ =>
      (faultsIn_copyN _).bind fun _ => faultsIn_pure _
  exact faultsIn_rd16.bind fun _ => (hattribute.times _).bind fun _ => faultsIn_pure _

lemma faultsIn_skipFields : FaultsIn skipFields IsOutOfBounds := by
  have hfield : FaultsIn (copyN 6 >>= fun _ => skipAttributes) IsOutOfBounds :=
    (faultsIn_copyN 6).bind fun _ => faultsIn_skipAttributes
  exact faultsIn_rd16.bind fun _ => (hfield.times _).bind fun _ => faultsIn_pure _

lemma faultsIn_readMethod : FaultsIn readMethod IsOutOfBounds :=
  faultsIn_rd16.bind fun _ => faultsIn_rd16.bind fun _ => faultsIn_rd16.bind fun _ =>
    faultsIn_skipAttributes.consumed.bind fun _ => faultsIn_pure _

lemma readThisName_error {cp : List CpEntry} {thisClass : UInt16} {e : Fault}
    (h : readThisName cp thisClass = .error e) : IsOutOfBounds e := by
  have hvalue {idx : UInt16} (h : cpUtf8Value cp idx = .error e) : IsOutOfBounds e := by
    unfold cpUtf8Value at h
    split at h
    · cases h
    · split at h
      · cases h
      · split at h
        · cases h
        · split at h
          · split at h
            · cases h
            · cases h
              rfl
          · cases h
  unfold readThisName at h
  split at h
  · cases h
  · split at h
    · cases h
      rfl
    · split at h
      · split at h
        · exact hvalue h
        · cases h
          rfl
      · cases h

/-- A name is only read from a slot of the pool. -/
lemma lt_of_readThisName {cp : List CpEntry} (hcp : 0 < cp.length) {thisClass : UInt16}
    {name : Bytes} (h : readThisName cp thisClass = .ok name) : thisClass.toNat < cp.length := by
  unfold readThisName at h
  by_cases hzero : thisClass = 0
  · rw [hzero]
    exact hcp
  · rw [if_neg hzero] at h
    cases he : cp[thisClass.toNat]? with
    | none =>
      rw [he] at h
      cases h
    | some e => exact (List.getElem?_eq_some_iff.mp he).1

/-- What the parser throws comes from the magic number or from a tag. -/
lemma readClass_thrown {s : Bytes} {what : String} (h : readClass s = .error (.thrown what)) :
    (∃ magic r, s = wr32 magic ++ r ∧ magic ≠ 0xCAFEBABE) ∨ StopsAtTag s := by
  rcases bind_error h with h | ⟨magic, s₁, hmagic, h⟩
  · cases faultsIn_rd32 h
  · by_cases hne : magic ≠ 0xCAFEBABE
    · exact .inl ⟨magic, s₁, rd32_ok hmagic, hne⟩
    · rw [if_neg hne] at h
      rcases bind_error h with h | ⟨minorVersion, s₂, hminor, h⟩
      · cases faultsIn_rd16 h
      rcases bind_error h with h | ⟨majorVersion, s₃, hmajor, h⟩
      · cases faultsIn_rd16 h
      rcases bind_error h with h | ⟨cpCount, s₄, hcount, h⟩
      · cases faultsIn_rd16 h
      rcases bind_error h with h | ⟨entries, s₅, -, h⟩
      · obtain ⟨pool, tag, rest, hpool, hunknown, hcounts⟩ := readPool_error h
        refine .inr ⟨minorVersion, majorVersion, cpCount, pool, tag, rest, ?_, hunknown, hcounts⟩
        rw [rd32_ok hmagic, rd16_ok hminor, rd16_ok hmajor, rd16_ok hcount, hpool,
          not_not.mp hne]
      · -- behind the pool there is nothing that throws
        have hrest := faultsIn_rd16.bind (fun _ => faultsIn_rd16.bind fun _ => faultsIn_rd16.bind
          fun _ => faultsIn_rd16.bind fun _ => (faultsIn_rd16.times _).bind fun _ =>
          (faultsIn_lift fun _ => readThisName_error).bind fun _ =>
          faultsIn_skipFields.consumed.bind fun _ => faultsIn_rd16.bind fun _ =>
          (faultsIn_readMethod.times _).bind fun _ => faultsIn_pure _) h
        cases hrest

/-- What was parsed is laid out as a class file, if the pool has as many slots as the header
says. -/
lemma readClass_ok {s r : Bytes} {ed : Editor} (h : readClass s = .ok (ed, r))
    (hcount : ed.cp.length = poolCount s) : ∃ L : Layout, s = L.encode := by
  obtain ⟨magic, s₁, hmagic, h⟩ := bind_ok h
  by_cases hne : magic ≠ 0xCAFEBABE
  · rw [if_pos hne] at h
    cases h
  rw [if_neg hne] at h
  obtain ⟨minorVersion, s₂, hminor, h⟩ := bind_ok h
  obtain ⟨majorVersion, s₃, hmajor, h⟩ := bind_ok h
  obtain ⟨cpCount, s₄, hcpCount, h⟩ := bind_ok h
  obtain ⟨entries, s₅, hentries, h⟩ := bind_ok h
  obtain ⟨accessFlags, s₆, hflags, h⟩ := bind_ok h
  obtain ⟨thisClass, s₇, hthis, h⟩ := bind_ok h
  obtain ⟨superClass, s₈, hsuper, h⟩ := bind_ok h
  obtain ⟨ifCount, s₉, hifCount, h⟩ := bind_ok h
  obtain ⟨interfaces, s₁₀, hinterfaces, h⟩ := bind_ok h
  obtain ⟨thisName, s₁₁, hname, h⟩ := bind_ok h
  obtain ⟨fieldsRaw, s₁₂, hfieldsRaw, h⟩ := bind_ok h
  obtain ⟨methodCount, s₁₃, hmethodCount, h⟩ := bind_ok h
  obtain ⟨methods, s₁₄, hmethods, h⟩ := bind_ok h
  obtain ⟨rfl, rfl⟩ := pure_ok h
  -- the pool, with as many slots as the header says
  obtain ⟨pool, hpool, hslots⟩ := readPool_ok hentries
  have hhead : s = wr32 0xCAFEBABE ++ (wr16 minorVersion ++ (wr16 majorVersion ++
      (wr16 cpCount ++ s₄))) := by
    rw [rd32_ok hmagic, rd16_ok hminor, rd16_ok hmajor, rd16_ok hcpCount, not_not.mp hne]
  have hlength : (poolSlots pool).length = cpCount.toNat := by
    have hread : poolCount s = cpCount.toNat := by
      rw [hhead, poolCount_header]
    rw [← hread, ← hcount, poolSlots, hslots]
  -- the tables behind it
  obtain ⟨is, hislen, his, rfl⟩ := rd16_inverts.times hinterfaces
  obtain ⟨hthisName, rfl⟩ := lift_ok hname
  obtain ⟨u, hfields, hraw⟩ := consumed_ok hfieldsRaw
  obtain ⟨fieldCount, s₁₅, hfieldCount, hfields⟩ := bind_ok hfields
  obtain ⟨us, s₁₆, htable, hfields⟩ := bind_ok hfields
  obtain ⟨-, rfl⟩ := pure_ok hfields
  obtain ⟨fields, hfieldsLen, hfields, -⟩ := skipField_inverts.times htable
  obtain ⟨ms, hmethodsLen, hms, rfl⟩ := readMethod_inverts.times hmethods
  have hthisLt : thisClass.toNat < (poolSlots pool).length := by
    rw [hslots] at hthisName
    exact lt_of_readThisName (List.length_pos_of_ne_nil (List.cons_ne_nil _ _)) hthisName
  let L : Layout :=
    { minorVersion := minorVersion
      majorVersion := majorVersion
      pool := pool
      accessFlags := accessFlags
      thisClass := thisClass
      superClass := superClass
      interfaces := is
      fields := fields
      methods := ms
      rest := r
      pool_lt := hlength ▸ cpCount.toNat_lt
      interfaces_lt := hislen ▸ ifCount.toNat_lt
      fields_lt := hfieldsLen ▸ fieldCount.toNat_lt
      methods_lt := hmethodsLen ▸ methodCount.toNat_lt
      this_lt := hthisLt }
  refine ⟨L, ?_⟩
  simp only [L, Layout.encode, Layout.encodeFields, hlength, hislen, hfieldsLen, hmethodsLen,
    UInt16.ofNat_toNat, List.append_assoc]
  rw [hhead, hpool, rd16_ok hflags, rd16_ok hthis, rd16_ok hsuper, rd16_ok hifCount, his,
    rd16_ok hfieldCount, hfields, rd16_ok hmethodCount, hms]

end

/-! ## Inputs that are parsed inside their bounds -/

/-- The parser throws, or it returns without a read outside the input, with as many slots as the
header says. -/
def ParsesInside (bytes : Bytes) : Prop :=
  (∃ what, parse bytes = .error (.thrown what)) ∨
    ∃ ed, parse bytes = .ok ed ∧ ed.cp.length = poolCount bytes

/-- One of the checks of the parser stops it, or the input is laid out as a class file. -/
def Checked (bytes : Bytes) : Prop :=
  bytes.length < 10 ∨ (∃ magic rest, bytes = wr32 magic ++ rest ∧ magic ≠ 0xCAFEBABE) ∨
    StopsAtTag bytes ∨ ∃ L : Layout, bytes = L.encode

lemma parsesInside_of_short {bytes : Bytes} (h : bytes.length < 10) : ParsesInside bytes := by
  refine .inl ⟨"class_edit: too short", ?_⟩
  rw [parse, if_pos h]

lemma parsesInside_encode (L : Layout) : ParsesInside L.encode := by
  obtain ⟨thisName, -, hparse⟩ := parse_encode L
  refine .inr ⟨_, hparse, ?_⟩
  simp only [Layout.encode, List.append_assoc]
  rw [poolCount_header, toNat_ofNat_u2 L.pool_lt]
  rfl

lemma parse_of_thrown {bytes : Bytes} {what : String} (hlong : ¬ bytes.length < 10)
    (h : readClass bytes = .error (.thrown what)) : parse bytes = .error (.thrown what) := by
  rw [parse, if_neg hlong, h]

/-- A tag that is not known is reached. -/
lemma readClass_stops {bytes : Bytes} (h : StopsAtTag bytes) :
    ∃ what, readClass bytes = .error (.thrown what) := by
  obtain ⟨minorVersion, majorVersion, cpCount, pool, tag, rest, rfl, hunknown, hcounts⟩ := h
  have hfuel : pool.length < (pool.flatMap Constant.encode ++ tag :: rest).length + 1 := by
    have := length_pool_le pool
    rw [List.length_append]
    omega
  have hstops : readPool cpCount _ 1 (pool.flatMap Constant.encode ++ tag :: rest) = _ :=
    readPool_stops hunknown hfuel hcounts
  refine ⟨"class_edit: unknown constant pool tag " ++ toString tag.toNat, ?_⟩
  rw [readClass, (reads_rd32 _).bind_append, if_neg (by decide), (reads_rd16 _).bind_append,
    (reads_rd16 _).bind_append, (reads_rd16 _).bind_append, Parser.bind_apply, hstops]
  rfl

/-- The parser stays inside its input and fills as many slots as the header says if and only if one
of its checks stops it or the input is laid out as a class file. -/
theorem parsesInside_iff (bytes : Bytes) : ParsesInside bytes ↔ Checked bytes := by
  constructor
  · intro h
    by_cases hlong : bytes.length < 10
    · exact .inl hlong
    · refine .inr ?_
      rw [ParsesInside, parse, if_neg hlong] at h
      cases hread : readClass bytes with
      | error e =>
        rw [hread] at h
        rcases h with ⟨what, hthrown⟩ | ⟨ed, hok, -⟩
        · rw [Except.error.inj hthrown] at hread
          exact (readClass_thrown hread).imp_right .inl
        · cases hok
      | ok r =>
        rw [hread] at h
        rcases h with ⟨what, hthrown⟩ | ⟨ed, hok, hcount⟩
        · cases hthrown
        · cases hok
          exact .inr (.inr (readClass_ok hread hcount))
  · rintro (hshort | ⟨magic, rest, rfl, hne⟩ | hstops | ⟨L, rfl⟩)
    · exact parsesInside_of_short hshort
    · by_cases hlong : (wr32 magic ++ rest).length < 10
      · exact parsesInside_of_short hlong
      · have hread : readClass (wr32 magic ++ rest) =
            .error (.thrown "class_edit: bad magic") := by
          rw [readClass, (reads_rd32 magic).bind_append, if_pos hne]
          rfl
        exact .inl ⟨_, parse_of_thrown hlong hread⟩
    · by_cases hlong : bytes.length < 10
      · exact parsesInside_of_short hlong
      · obtain ⟨what, hread⟩ := readClass_stops hstops
        exact .inl ⟨what, parse_of_thrown hlong hread⟩
    · exact parsesInside_encode L

/-- Of ten bytes that announce a constant, the parser reads an eleventh. -/
theorem parse_outside : ¬ ParsesInside [0xCA, 0xFE, 0xBA, 0xBE, 0, 0, 0, 0x34, 0, 2] := by
  have hparse : parse [0xCA, 0xFE, 0xBA, 0xBE, 0, 0, 0, 0x34, 0, 2] = .error .outOfBounds := by
    decide
  rw [ParsesInside, hparse]
  rintro (⟨what, hthrown⟩ | ⟨ed, hok, -⟩)
  · cases hthrown
  · cases hok

end ClassFile
end SakuraTools
