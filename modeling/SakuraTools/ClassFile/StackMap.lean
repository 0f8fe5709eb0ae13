import Mathlib.Data.List.Forall2
import SakuraTools.ClassFile.Editor

/-!
# Stack maps

What a StackMapTable means: frames with offsets that are counted from the frame before.  The
editor moves the first frame and copies the others.  Since the offsets are relative, this moves
every frame; but the offsets inside the frames, of the objects that `new` has created and no
constructor has initialised, are copied as they are.
-/

namespace SakuraTools
namespace ClassFile

/-! ## The format -/

/-- `verification_type_info` -/
inductive VerificationType where
  | top
  | integer
  | float
  | double
  | long
  | null
  | uninitializedThis
  | object (cpoolIndex : UInt16)
  /-- The object that the `new` instruction at the offset has created. -/
  | uninitialized (offset : UInt16)
deriving DecidableEq, Repr

/-- What a frame says about the types.  The short and the extended form of a frame say the
same. -/
inductive FrameKind where
  | same
  | sameLocals1StackItem (item : VerificationType)
  | chop (absent : ℕ)
  | append (locals : List VerificationType)
  | full (locals stack : List VerificationType)
deriving DecidableEq, Repr

/-- `stack_map_frame` -/
structure Frame where
  offsetDelta : UInt16
  kind : FrameKind
deriving DecidableEq, Repr

/-- The types that a frame lists, the locals before the stack. -/
def FrameKind.items : FrameKind → List VerificationType
  | same => []
  | sameLocals1StackItem item => [item]
  | chop _ => []
  | append locals => locals
  | full locals stack => locals ++ stack

def readVerificationType : Reader VerificationType := do
  let tag ← rd8
  if tag = 0 then pure .top
  else if tag = 1 then pure .integer
  else if tag = 2 then pure .float
  else if tag = 3 then pure .double
  else if tag = 4 then pure .long
  else if tag = 5 then pure .null
  else if tag = 6 then pure .uninitializedThis
  else if tag = 7 then do
    let cpoolIndex ← rd16
    pure (.object cpoolIndex)
  else if tag = 8 then do
    let offset ← rd16
    pure (.uninitialized offset)
  else Parser.fail (.thrown "unknown verification type")

/-- What follows the offset of a frame with a tag from 247 on. -/
def readFrameKind (tag : UInt8) : Reader FrameKind :=
  if tag = 247 then do
    let item ← readVerificationType
    pure (.sameLocals1StackItem item)
  else if tag ≤ 250 then pure (.chop (251 - tag.toNat))
  else if tag = 251 then pure .same
  else if tag ≤ 254 then do
    let locals ← Parser.times readVerificationType (tag.toNat - 251)
    pure (.append locals)
  else do
    let localCount ← rd16
    let locals ← Parser.times readVerificationType localCount.toNat
    let stackCount ← rd16
    let stack ← Parser.times readVerificationType stackCount.toNat
    pure (.full locals stack)

/-- A frame: up to the tag 127 the offset is part of the tag, from 247 on it follows it. -/
def readFrame : Reader Frame := do
  let tag ← rd8
  if tag ≤ 63 then pure ⟨tag.toUInt16, .same⟩
  else if tag ≤ 127 then do
    let item ← readVerificationType
    pure ⟨tag.toUInt16 - 64, .sameLocals1StackItem item⟩
  else if 247 ≤ tag then do
    let offsetDelta ← rd16
    let kind ← readFrameKind tag
    pure ⟨offsetDelta, kind⟩
  else Parser.fail (.thrown "unknown frame type")

/-- The body of a StackMapTable attribute. -/
def readStackMap : Reader (List Frame) := do
  let numEntries ← rd16
  Parser.times readFrame numEntries.toNat

/-- The offsets of the frames after one at `previous`. -/
def offsetsAfter (previous : ℕ) : List Frame → List ℕ
  | [] => []
  | f :: fs =>
    (previous + f.offsetDelta.toNat + 1) :: offsetsAfter (previous + f.offsetDelta.toNat + 1) fs

/-- The offsets of the frames in the code. -/
def frameOffsets : List Frame → List ℕ
  | [] => []
  | f :: fs => f.offsetDelta.toNat :: offsetsAfter f.offsetDelta.toNat fs

/-! ## Moving the first frame -/

/-- The two bytes that `shiftStackMap` and `shiftLineNumberTable` make of a 32-bit number. -/
lemma be16_low (v : UInt32) :
    be16 ((v >>> 8) &&& 0xFF).toUInt8 (v &&& 0xFF).toUInt8 = v.toUInt16 := by
  apply UInt16.toNat_inj.mp
  rw [toNat_be16]
  simp only [UInt32.toNat_toUInt8, UInt32.toNat_shiftRight, UInt32.toNat_and,
    UInt32.toNat_toUInt16]
  change 256 * ((v.toNat >>> 8 &&& (2 ^ 8 - 1)) % 256) + (v.toNat &&& (2 ^ 8 - 1)) % 256 = _
  simp only [Nat.shiftRight_eq_div_pow, Nat.and_two_pow_sub_one_eq_mod]
  omega

/-- A frame whose offset is larger by `delta`, reduced to 16 bits. -/
def Frame.move (delta : UInt32) (f : Frame) : Frame :=
  { f with offsetDelta := (f.offsetDelta.toUInt32 + delta).toUInt16 }

lemma readFrame_same {tag : UInt8} (h : tag ≤ 63) (r : Bytes) :
    readFrame (tag :: r) = .ok (⟨tag.toUInt16, .same⟩, r) := by
  change (if tag ≤ 63 then _ else _ : Reader Frame) r = _
  rw [if_pos h]
  rfl

lemma readFrame_stackItem {tag : UInt8} (h : ¬ tag ≤ 63) (h' : tag ≤ 127) (r : Bytes) :
    readFrame (tag :: r) = (readVerificationType r).map fun x =>
      (⟨tag.toUInt16 - 64, .sameLocals1StackItem x.1⟩, x.2) := by
  change (if tag ≤ 63 then _ else _ : Reader Frame) r = _
  rw [if_neg h, if_pos h']
  rfl

lemma readFrame_of_not_le {tag : UInt8} (h : ¬ tag ≤ 127) (s : Bytes) :
    readFrame (tag :: s) = if 247 ≤ tag then
        (rd16 s).bind fun x => (readFrameKind tag x.2).map fun y => (⟨x.1, y.1⟩, y.2)
      else .error (.thrown "unknown frame type") := by
  have hsame : ¬ tag ≤ 63 := fun hle => h (UInt8.le_trans hle (by decide))
  change (if tag ≤ 63 then _ else _ : Reader Frame) s = _
  rw [if_neg hsame, if_neg h]
  by_cases hlong : 247 ≤ tag
  · rw [if_pos hlong, if_pos hlong]
    rfl
  · rw [if_neg hlong, if_neg hlong]
    rfl

lemma readFrame_long {tag : UInt8} (h : 247 ≤ tag) (o₁ o₂ : UInt8) (r : Bytes) :
    readFrame (tag :: o₁ :: o₂ :: r) = (readFrameKind tag r).map fun x =>
      (⟨be16 o₁ o₂, x.1⟩, x.2) := by
  have hle : ¬ tag ≤ 127 := fun hle => absurd (UInt8.le_trans h hle) (by decide)
  rw [readFrame_of_not_le hle, if_pos h]
  rfl

/-- A number that fits in the short form of a frame. -/
lemma short_offset {v : UInt32} (h : v ≤ 63) :
    v.toUInt8 ≤ 63 ∧ v.toUInt8.toUInt16 = v.toUInt16 := by
  rw [UInt32.le_iff_toNat_le] at h
  change v.toNat ≤ 63 at h
  have hbyte : v.toUInt8.toNat = v.toNat := by
    rw [UInt32.toNat_toUInt8]
    omega
  constructor
  · rw [UInt8.le_iff_toNat_le, hbyte]
    exact h
  · apply UInt16.toNat_inj.mp
    rw [UInt8.toNat_toUInt16, hbyte, UInt32.toNat_toUInt16]
    omega

lemma short_stackItem {v : UInt32} (h : v ≤ 63) :
    ¬ (64 + v).toUInt8 ≤ 63 ∧ (64 + v).toUInt8 ≤ 127 ∧
      (64 + v).toUInt8.toUInt16 - 64 = v.toUInt16 := by
  rw [UInt32.le_iff_toNat_le] at h
  change v.toNat ≤ 63 at h
  have hbyte : (64 + v).toUInt8.toNat = 64 + v.toNat := by
    rw [UInt32.toNat_toUInt8, UInt32.toNat_add]
    change (64 + v.toNat) % 2 ^ 32 % 2 ^ 8 = _
    omega
  refine ⟨?_, ?_, ?_⟩
  · rw [UInt8.le_iff_toNat_le, hbyte]
    change ¬ 64 + v.toNat ≤ 63
    omega
  · rw [UInt8.le_iff_toNat_le, hbyte]
    change 64 + v.toNat ≤ 127
    omega
  · apply UInt16.toNat_inj.mp
    rw [UInt16.toNat_sub, UInt8.toNat_toUInt16, hbyte, UInt32.toNat_toUInt16]
    change (2 ^ 16 - 64 + (64 + v.toNat)) % 2 ^ 16 = _
    omega

lemma toUInt32_stackItem {tag : UInt8} (h : ¬ tag ≤ 63) :
    (tag.toUInt16 - 64).toUInt32 = tag.toUInt32 - 64 := by
  rw [UInt8.le_iff_toNat_le] at h
  change ¬ tag.toNat ≤ 63 at h
  have := tag.toNat_lt
  apply UInt32.toNat_inj.mp
  rw [UInt16.toNat_toUInt32, UInt16.toNat_sub, UInt32.toNat_sub, UInt8.toNat_toUInt16,
    UInt8.toNat_toUInt32]
  change (2 ^ 16 - 64 + tag.toNat) % 2 ^ 16 = (2 ^ 32 - 64 + tag.toNat) % 2 ^ 32
  omega

/-- The editor writes the first frame with its new offset, in the short form if it fits. -/
lemma shiftStackMap_first {n₁ n₂ : UInt8} (hn : be16 n₁ n₂ ≠ 0) {s r : Bytes} {f : Frame}
    (h : readFrame s = .ok (f, r)) (delta : UInt32) :
    ∃ s', shiftStackMap (n₁ :: n₂ :: s) delta = .ok (n₁ :: n₂ :: s') ∧
      readFrame s' = .ok (f.move delta, r) ∧ s'.length ≤ s.length + 2 := by
  rcases s with _ | ⟨tag, s⟩
  · cases h
  · simp only [shiftStackMap, hn, if_false]
    by_cases hsame : tag ≤ 63
    · rw [readFrame_same hsame] at h
      cases h
      rw [if_pos hsame, Frame.move, UInt8.toUInt32_toUInt16]
      by_cases hfit : tag.toUInt32 + delta ≤ 63
      · obtain ⟨hle, heq⟩ := short_offset hfit
        refine ⟨_ :: r, if_pos hfit, ?_, by simp⟩
        rw [readFrame_same hle, heq]
      · refine ⟨251 :: _ :: _ :: r, if_neg hfit, ?_, by simp⟩
        rw [readFrame_long (by decide), be16_low]
        rfl
    · rw [if_neg hsame]
      by_cases hitem : tag ≤ 127
      · rw [readFrame_stackItem hsame hitem] at h
        obtain ⟨⟨item, r'⟩, hread, heq⟩ := exists_of_map_ok h
        cases heq
        rw [if_pos hitem, Frame.move, toUInt32_stackItem hsame]
        by_cases hfit : tag.toUInt32 - 64 + delta ≤ 63
        · obtain ⟨hne, hle, heq⟩ := short_stackItem hfit
          refine ⟨_ :: s, if_pos hfit, ?_, by simp⟩
          rw [readFrame_stackItem hne hle, hread, heq]
          rfl
        · refine ⟨247 :: _ :: _ :: s, if_neg hfit, ?_, by simp⟩
          rw [readFrame_long (by decide), be16_low]
          change (Except.map _ ((readVerificationType s).map _)) = _
          rw [hread]
          rfl
      · rw [if_neg hitem]
        by_cases hlong : 247 ≤ tag
        -- from 247 on the two bytes after the tag are replaced
        · rw [if_pos hlong]
          rcases s with _ | ⟨o₁, _ | ⟨o₂, s⟩⟩
          · rw [readFrame_of_not_le hitem, if_pos hlong] at h
            cases h
          · rw [readFrame_of_not_le hitem, if_pos hlong] at h
            cases h
          · rw [readFrame_long hlong] at h
            obtain ⟨⟨kind, r'⟩, hread, heq⟩ := exists_of_map_ok h
            cases heq
            refine ⟨tag :: _ :: _ :: s, rfl, ?_, by simp⟩
            rw [readFrame_long hlong, be16_low, hread]
            rfl
        · rw [readFrame_of_not_le hitem, if_neg hlong] at h
          cases h

/-- The table with the first frame moved. -/
def moveFirst (delta : UInt32) : List Frame → List Frame
  | [] => []
  | f :: fs => f.move delta :: fs

/-- The editor moves the first frame of a table. -/
lemma shiftStackMap_reads {body : Bytes} {frames : List Frame}
    (h : readStackMap body = .ok (frames, [])) (delta : UInt32) :
    ∃ body', shiftStackMap body delta = .ok body' ∧
      readStackMap body' = .ok (moveFirst delta frames, []) ∧ body'.length ≤ body.length + 2 := by
  match body, h with
  | [], h => cases h
  | [_], h => cases h
  | n₁ :: n₂ :: s, h =>
    change Parser.times readFrame (be16 n₁ n₂).toNat s = _ at h
    by_cases hn : be16 n₁ n₂ = 0
    · rw [hn] at h
      cases h
      refine ⟨[n₁, n₂], ?_, ?_, by simp⟩
      · simp only [shiftStackMap, hn, if_true]
      · change Parser.times readFrame (be16 n₁ n₂).toNat [] = _
        rw [hn]
        rfl
    · obtain ⟨k, hk⟩ : ∃ k, (be16 n₁ n₂).toNat = k + 1 := by
        refine Nat.exists_eq_succ_of_ne_zero fun h0 => hn ?_
        exact UInt16.toNat_inj.mp h0
      rw [hk] at h
      obtain ⟨f, t, hf, h⟩ := Parser.bind_ok h
      obtain ⟨fs, t', hfs, h⟩ := Parser.bind_ok h
      obtain ⟨rfl, rfl⟩ := Parser.pure_ok h
      obtain ⟨s', hshift, hf', hlen⟩ := shiftStackMap_first hn hf delta
      refine ⟨n₁ :: n₂ :: s', hshift, ?_, by simp only [List.length_cons]; omega⟩
      change Parser.times readFrame (be16 n₁ n₂).toNat s' = _
      rw [hk, Parser.times, Parser.bind_apply, hf']
      change (Parser.times readFrame k t >>= _) = _
      rw [hfs]
      rfl

/-! ## What moves and what does not -/

@[simp] lemma kind_moveFirst (delta : UInt32) (frames : List Frame) :
    (moveFirst delta frames).map Frame.kind = frames.map Frame.kind := by
  cases frames with
  | nil => rfl
  | cons f fs => rfl

lemma offsetsAfter_add (previous n : ℕ) (fs : List Frame) :
    offsetsAfter (previous + n) fs = (offsetsAfter previous fs).map (· + n) := by
  induction fs generalizing previous with
  | nil => rfl
  | cons f fs ih =>
    have hnext : previous + n + f.offsetDelta.toNat + 1 =
        previous + f.offsetDelta.toNat + 1 + n := by omega
    rw [offsetsAfter, offsetsAfter, List.map_cons, hnext, ih]

lemma frameOffsets_moveFirst {frames : List Frame} {delta : UInt32}
    (hfit : ∀ f ∈ frames.head?, f.offsetDelta.toNat + delta.toNat ≤ 65535) :
    frameOffsets (moveFirst delta frames) = (frameOffsets frames).map (· + delta.toNat) := by
  cases frames with
  | nil => rfl
  | cons f fs =>
    have hle := hfit f rfl
    have hmove : (f.move delta).offsetDelta.toNat = f.offsetDelta.toNat + delta.toNat := by
      rw [Frame.move, UInt32.toNat_toUInt16, UInt32.toNat_add, UInt16.toNat_toUInt32]
      omega
    rw [moveFirst, frameOffsets, frameOffsets, hmove, offsetsAfter_add, List.map_cons]

/-- Every frame of the table moves by `delta` and keeps its types, when the first offset does
not leave the 16 bits. -/
theorem shiftStackMap_moves {body : Bytes} {frames : List Frame}
    (h : readStackMap body = .ok (frames, [])) {delta : UInt32}
    (hfit : ∀ f ∈ frames.head?, f.offsetDelta.toNat + delta.toNat ≤ 65535) :
    ∃ body' frames', shiftStackMap body delta = .ok body' ∧
      readStackMap body' = .ok (frames', []) ∧
      frames'.map Frame.kind = frames.map Frame.kind ∧
      frameOffsets frames' = (frameOffsets frames).map (· + delta.toNat) := by
  obtain ⟨body', hshift, hread, -⟩ := shiftStackMap_reads h delta
  exact ⟨body', moveFirst delta frames, hshift, hread, kind_moveFirst delta frames,
    frameOffsets_moveFirst hfit⟩

/-- A frame with one stack item, then a full frame, an `append` and a `chop`. -/
def sampleMap : Bytes :=
  [0, 4, 124, 7, 0, 9, 255, 0, 2, 0, 1, 1, 0, 1, 8, 0, 3, 252, 0, 0, 5, 250, 0, 1]

theorem shiftStackMap_moves_sample : ∃ body' frames',
    shiftStackMap sampleMap 5 = .ok body' ∧ readStackMap body' = .ok (frames', []) ∧
      frames'.map Frame.kind = [.sameLocals1StackItem (.object 9),
        .full [.integer] [.uninitialized 3], .append [.null], .chop 1] ∧
      frameOffsets frames' = [65, 68, 69, 71] := by
  have hread : readStackMap sampleMap = .ok
      ([⟨60, .sameLocals1StackItem (.object 9)⟩, ⟨2, .full [.integer] [.uninitialized 3]⟩,
        ⟨0, .append [.null]⟩, ⟨1, .chop 1⟩], []) := by decide
  exact shiftStackMap_moves hread (by decide)

/-- A type of the old table and the one in its place: the offset of an uninitialized object is
larger by `n`. -/
def VerificationType.Follows (n : ℕ) (x y : VerificationType) : Prop :=
  ∀ o, x = .uninitialized o → ∃ o', y = .uninitialized o' ∧ o'.toNat = o.toNat + n

/-- The uninitialized objects of the new table are those of the old one, created `delta` bytes
later. -/
def UninitializedFollow (body : Bytes) (frames : List Frame) (delta : UInt32) : Prop :=
  ∃ body' frames', shiftStackMap body delta = .ok body' ∧
    readStackMap body' = .ok (frames', []) ∧
    List.Forall₂ (fun f f' => List.Forall₂ (VerificationType.Follows delta.toNat)
      f.kind.items f'.kind.items) frames frames'

lemma forall₂_of_map_eq {α β : Type} {R : β → β → Prop} {g : α → β} {l l' : List α}
    (h : l'.map g = l.map g) :
    List.Forall₂ (fun x x' => R (g x) (g x')) l l' ↔ ∀ x ∈ l, R (g x) (g x) := by
  have hmap : List.Forall₂ (fun x x' => R (g x) (g x')) l l' ↔
      List.Forall₂ R (l.map g) (l'.map g) := by
    rw [List.forall₂_map_left_iff, List.forall₂_map_right_iff]
  rw [hmap, h, List.forall₂_same]
  exact List.forall_mem_map

/-- The offsets of uninitialized objects are copied: they follow the code exactly when the code
does not move, or when there are none. -/
theorem shiftStackMap_uninitialized_iff {body : Bytes} {frames : List Frame}
    (h : readStackMap body = .ok (frames, [])) (delta : UInt32) :
    UninitializedFollow body frames delta ↔
      delta = 0 ∨ ∀ f ∈ frames, ∀ o, .uninitialized o ∉ f.kind.items := by
  obtain ⟨body', hshift, hread, -⟩ := shiftStackMap_reads h delta
  -- every type of the new table is the old one
  have hfollow : UninitializedFollow body frames delta ↔
      ∀ f ∈ frames, ∀ x ∈ f.kind.items, x.Follows delta.toNat x := by
    have hsame := forall₂_of_map_eq (kind_moveFirst delta frames)
      (R := fun k k' => List.Forall₂ (VerificationType.Follows delta.toNat) k.items k'.items)
    simp only [List.forall₂_same] at hsame
    rw [← hsame]
    constructor
    · rintro ⟨body₁, frames₁, hshift₁, hread₁, hall⟩
      cases hshift₁.symm.trans hshift
      cases hread₁.symm.trans hread
      exact hall
    · intro hall
      exact ⟨body', _, hshift, hread, hall⟩
  rw [hfollow]
  constructor
  · intro hall
    rw [or_iff_not_imp_right]
    intro hsome
    push Not at hsome
    obtain ⟨f, hf, o, ho⟩ := hsome
    obtain ⟨o', heq, hadd⟩ := hall f hf _ ho o rfl
    cases heq
    apply UInt32.toNat_inj.mp
    change delta.toNat = 0
    omega
  · rintro (rfl | hnone) f hf x hx o rfl
    · exact ⟨o, rfl, rfl⟩
    · exact absurd hx (hnone f hf o)

/-- A table without uninitialized objects. -/
theorem shiftStackMap_uninitialized_sample :
    UninitializedFollow [0, 1, 72, 7, 0, 1] [⟨8, .sameLocals1StackItem (.object 1)⟩] 5 :=
  (shiftStackMap_uninitialized_iff (by decide) 5).mpr (.inr (by simp [FrameKind.items]))

/-- A frame at the offset 8 with the object that `new` at the offset 1 has created: five bytes
later the `new` is at 6, and the frame still names 1. -/
theorem shiftStackMap_uninitialized_stale :
    readStackMap [0, 1, 72, 8, 0, 1] =
        .ok ([⟨8, .sameLocals1StackItem (.uninitialized 1)⟩], []) ∧
      ¬ UninitializedFollow [0, 1, 72, 8, 0, 1]
        [⟨8, .sameLocals1StackItem (.uninitialized 1)⟩] 5 := by
  refine ⟨by decide, ?_⟩
  rintro ⟨body', frames', hshift, hread, hall⟩
  have hbody : shiftStackMap [0, 1, 72, 8, 0, 1] 5 = .ok [0, 1, 77, 8, 0, 1] := by decide
  cases hshift.symm.trans hbody
  have hframes : readStackMap [0, 1, 77, 8, 0, 1] =
      .ok ([⟨13, .sameLocals1StackItem (.uninitialized 1)⟩], []) := by decide
  cases hread.symm.trans hframes
  have hitem : VerificationType.Follows 5 (.uninitialized 1) (.uninitialized 1) := by
    simpa [FrameKind.items] using hall
  obtain ⟨o', heq, hadd⟩ := hitem 1 rfl
  cases heq
  simp at hadd

end ClassFile
end SakuraTools
