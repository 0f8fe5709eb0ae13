import Mathlib.Tactic.Ring
import SakuraTools.ClassFile.Bytes

/-!
# JVM instruction streams

What a code array means: the sequence of instructions that the JVM decodes from it, with
absolute branch targets.  The editor does not look at instructions.  Decoding depends on the
position of an instruction in two ways: relative offsets become absolute targets, and the
operands of a switch are padded to a multiple of 4 from the start of the method.
-/

namespace SakuraTools
namespace ClassFile

/-- A JVM instruction.  The targets are offsets from the instruction, or from the start of
the method once they are resolved. -/
inductive Instr where
  /-- An instruction without targets. -/
  | plain (op : UInt8) (operands : Bytes)
  /-- A branch with a 16-bit offset. -/
  | branch (op : UInt8) (target : ℤ)
  /-- A branch with a 32-bit offset. -/
  | branchWide (op : UInt8) (target : ℤ)
  | tableswitch (default low high : ℤ) (targets : List ℤ)
  | lookupswitch (default : ℤ) (pairs : List (ℤ × ℤ))
  /-- A modified instruction, with doubled operands. -/
  | wide (op : UInt8) (operands : Bytes)
deriving DecidableEq, Repr

namespace Instr

/-- Apply a function to the targets of an instruction. -/
def mapTargets (f : ℤ → ℤ) : Instr → Instr
  | plain op operands => plain op operands
  | branch op target => branch op (f target)
  | branchWide op target => branchWide op (f target)
  | tableswitch default low high targets => tableswitch (f default) low high (targets.map f)
  | lookupswitch default pairs => lookupswitch (f default) (pairs.map fun p => (p.1, f p.2))
  | wide op operands => wide op operands

/-- The instruction with its targets moved by `n`. -/
def shift (n : ℕ) : Instr → Instr := mapTargets fun t => t + n

/-- Whether the operands of the instruction are padded. -/
def isSwitch : Instr → Bool
  | tableswitch .. => true
  | lookupswitch .. => true
  | _ => false

/-- The number of bytes of the instruction, when a switch takes `pad` bytes of padding. -/
def size (pad : ℕ) : Instr → ℕ
  | plain _ operands => 1 + operands.length
  | branch .. => 3
  | branchWide .. => 5
  | tableswitch _ _ _ targets => 13 + pad + 4 * targets.length
  | lookupswitch _ pairs => 9 + pad + 8 * pairs.length
  | wide _ operands => 2 + operands.length

@[simp] lemma size_mapTargets (f : ℤ → ℤ) (pad : ℕ) (i : Instr) :
    (i.mapTargets f).size pad = i.size pad := by
  cases i <;> simp [mapTargets, size]

@[simp] lemma isSwitch_mapTargets (f : ℤ → ℤ) (i : Instr) :
    (i.mapTargets f).isSwitch = i.isSwitch := by
  cases i <;> rfl

lemma mapTargets_mapTargets (f g : ℤ → ℤ) (i : Instr) :
    (i.mapTargets f).mapTargets g = i.mapTargets (g ∘ f) := by
  cases i <;> simp [mapTargets]

lemma size_pad (pad pad' : ℕ) (i : Instr) (h : i.isSwitch = false) :
    i.size pad = i.size pad' := by
  cases i with
  | tableswitch => simp [isSwitch] at h
  | lookupswitch => simp [isSwitch] at h
  | _ => rfl

end Instr

/-! ## Decoding -/

/-- The number of operand bytes of an instruction without targets and padding. -/
def operandBytes (op : UInt8) : Option ℕ :=
  if op ≤ 15 then some 0
  else if op = 17 ∨ op = 19 ∨ op = 20 then some 2
  else if op ≤ 25 then some 1
  else if op ≤ 53 then some 0
  else if op ≤ 58 then some 1
  else if op ≤ 131 then some 0
  else if op = 132 then some 2
  else if op ≤ 152 then some 0
  else if op ≤ 168 then none
  else if op = 169 then some 1
  else if op ≤ 171 then none
  else if op ≤ 177 then some 0
  else if op ≤ 184 then some 2
  else if op ≤ 186 then some 4
  else if op = 188 then some 1
  else if op = 190 ∨ op = 191 ∨ op = 194 ∨ op = 195 then some 0
  else if op ≤ 193 then some 2
  else if op = 197 then some 3
  else none

/-- The number of operand bytes of an instruction modified by `wide`. -/
def wideOperandBytes (op : UInt8) : Option ℕ :=
  if (21 ≤ op ∧ op ≤ 25) ∨ (54 ≤ op ∧ op ≤ 58) ∨ op = 169 then some 2
  else if op = 132 then some 4
  else none

/-- A signed number of 16 bits. -/
def readOffset16 : Reader ℤ := do
  let v ← rd16
  pure v.toInt16.toInt

/-- A signed number of 32 bits. -/
def readOffset32 : Reader ℤ := do
  let v ← rd32
  pure v.toInt32.toInt

/-- A match of a `lookupswitch` and its target. -/
def readPair : Reader (ℤ × ℤ) := do
  let value ← readOffset32
  let target ← readOffset32
  pure (value, target)

def badInstr : Fault := .thrown "not an instruction"

/-- The operands of a `tableswitch`, after `pad` bytes of padding. -/
def readTableswitch (pad : ℕ) : Reader Instr := do
  let _ ← copyN pad
  let default ← readOffset32
  let low ← readOffset32
  let high ← readOffset32
  if high < low then Parser.fail badInstr
  else
    let targets ← Parser.times readOffset32 (high - low + 1).toNat
    pure (.tableswitch default low high targets)

/-- The operands of a `lookupswitch`, after `pad` bytes of padding. -/
def readLookupswitch (pad : ℕ) : Reader Instr := do
  let _ ← copyN pad
  let default ← readOffset32
  let npairs ← readOffset32
  if npairs < 0 then Parser.fail badInstr
  else
    let pairs ← Parser.times readPair npairs.toNat
    pure (.lookupswitch default pairs)

/-- The operands of the instruction that `wide` modifies. -/
def readWide : Reader Instr := do
  let op ← rd8
  match wideOperandBytes op with
  | none => Parser.fail badInstr
  | some n =>
    let operands ← copyN n
    pure (.wide op operands)

/-- What follows an opcode other than that of a switch. -/
def readOperands (op : UInt8) : Reader Instr :=
  match operandBytes op with
  | some n => do
    let operands ← copyN n
    pure (.plain op operands)
  | none =>
    if (153 ≤ op ∧ op ≤ 168) ∨ op = 198 ∨ op = 199 then do
      let target ← readOffset16
      pure (.branch op target)
    else if op = 200 ∨ op = 201 then do
      let target ← readOffset32
      pure (.branchWide op target)
    else if op = 196 then readWide
    else Parser.fail badInstr

/-- One instruction with relative targets, a switch having `pad` bytes of padding. -/
def readInstr (pad : ℕ) : Reader Instr := do
  let op ← rd8
  if op = 170 then readTableswitch pad
  else if op = 171 then readLookupswitch pad
  else readOperands op

/-- The padding of a switch at `pc`. -/
def padding (pc : ℕ) : ℕ := 3 - pc % 4

/-- The instructions from the offset `pc` of a method up to its end, with their targets. -/
def decodeFrom : ℕ → ℕ → Bytes → Except Fault (List Instr)
  | _, _, [] => .ok []
  | 0, _, _ :: _ => .error .diverges
  | fuel + 1, pc, b :: s => do
    let (i, rest) ← readInstr (padding pc) (b :: s)
    let is ← decodeFrom fuel (pc + ((b :: s).length - rest.length)) rest
    pure (i.mapTargets (fun t => pc + t) :: is)

/-- The instructions of `code`, found at the offset `pc` of a method.  Every instruction takes
a byte, so that the length of the code is enough fuel. -/
def decode (pc : ℕ) (code : Bytes) : Except Fault (List Instr) := decodeFrom code.length pc code

-- `goto +3; return` at the offset 5
example : decode 5 [0xA7, 0, 3, 0xB1] = .ok [.branch 0xA7 8, .plain 0xB1 []] := by decide

/-! ## The size of an instruction -/

lemma takes_rd8 : Parser.Takes rd8 1 := Parser.takes_item _

lemma takes_readOffset16 : Parser.Takes readOffset16 2 :=
  (takes_rd8.bind fun _ => takes_rd8.bind_pure _).bind_pure _

lemma takes_readOffset32 : Parser.Takes readOffset32 4 :=
  (takes_rd8.bind fun _ => takes_rd8.bind fun _ => takes_rd8.bind fun _ =>
    takes_rd8.bind_pure _).bind_pure _

lemma takes_readPair : Parser.Takes readPair 8 :=
  takes_readOffset32.bind fun _ => takes_readOffset32.bind_pure _

lemma readTableswitch_size {pad : ℕ} {s r : Bytes} {i : Instr}
    (h : readTableswitch pad s = .ok (i, r)) :
    i.isSwitch = true ∧ 1 + s.length = i.size pad + r.length := by
  obtain ⟨b, s₁, h₁, h⟩ := Parser.bind_ok h
  obtain ⟨default, s₂, h₂, h⟩ := Parser.bind_ok h
  obtain ⟨low, s₃, h₃, h⟩ := Parser.bind_ok h
  obtain ⟨high, s₄, h₄, h⟩ := Parser.bind_ok h
  have hpad := Parser.takes_block _ _ h₁
  have hdefault := takes_readOffset32 h₂
  have hlow := takes_readOffset32 h₃
  have hhigh := takes_readOffset32 h₄
  split at h
  · cases h
  · obtain ⟨targets, s₅, h₅, h⟩ := Parser.bind_ok h
    obtain ⟨rfl, rfl⟩ := Parser.pure_ok h
    obtain ⟨hlen, htargets⟩ := Parser.times_ok takes_readOffset32 h₅
    refine ⟨rfl, ?_⟩
    simp only [Instr.size, hlen]
    omega

lemma readLookupswitch_size {pad : ℕ} {s r : Bytes} {i : Instr}
    (h : readLookupswitch pad s = .ok (i, r)) :
    i.isSwitch = true ∧ 1 + s.length = i.size pad + r.length := by
  obtain ⟨b, s₁, h₁, h⟩ := Parser.bind_ok h
  obtain ⟨default, s₂, h₂, h⟩ := Parser.bind_ok h
  obtain ⟨npairs, s₃, h₃, h⟩ := Parser.bind_ok h
  have hpad := Parser.takes_block _ _ h₁
  have hdefault := takes_readOffset32 h₂
  have hnpairs := takes_readOffset32 h₃
  split at h
  · cases h
  · obtain ⟨pairs, s₄, h₄, h⟩ := Parser.bind_ok h
    obtain ⟨rfl, rfl⟩ := Parser.pure_ok h
    obtain ⟨hlen, hpairs⟩ := Parser.times_ok takes_readPair h₄
    refine ⟨rfl, ?_⟩
    simp only [Instr.size, hlen]
    omega

lemma readWide_size {pad : ℕ} {s r : Bytes} {i : Instr} (h : readWide s = .ok (i, r)) :
    i.isSwitch = false ∧ 1 + s.length = i.size pad + r.length := by
  obtain ⟨op, s₁, h₁, h⟩ := Parser.bind_ok h
  have hop := takes_rd8 h₁
  cases hn : wideOperandBytes op with
  | none =>
    simp only [hn] at h
    cases h
  | some n =>
    simp only [hn] at h
    obtain ⟨operands, s₂, h₂, h⟩ := Parser.bind_ok h
    obtain ⟨rfl, rfl⟩ := Parser.pure_ok h
    obtain ⟨hlen, rfl⟩ := Parser.block_ok h₂
    refine ⟨rfl, ?_⟩
    simp only [Instr.size, List.length_append] at hop ⊢
    omega

lemma readOperands_size {op : UInt8} {pad : ℕ} {s r : Bytes} {i : Instr}
    (h : readOperands op s = .ok (i, r)) :
    i.isSwitch = false ∧ 1 + s.length = i.size pad + r.length := by
  unfold readOperands at h
  cases hn : operandBytes op with
  | some n =>
    simp only [hn] at h
    obtain ⟨operands, s₁, h₁, h⟩ := Parser.bind_ok h
    obtain ⟨rfl, rfl⟩ := Parser.pure_ok h
    obtain ⟨hlen, rfl⟩ := Parser.block_ok h₁
    refine ⟨rfl, ?_⟩
    simp only [Instr.size, List.length_append]
    omega
  | none =>
    simp only [hn] at h
    split at h
    · obtain ⟨target, s₁, h₁, h⟩ := Parser.bind_ok h
      obtain ⟨rfl, rfl⟩ := Parser.pure_ok h
      have htarget := takes_readOffset16 h₁
      refine ⟨rfl, ?_⟩
      simp only [Instr.size]
      omega
    · split at h
      · obtain ⟨target, s₁, h₁, h⟩ := Parser.bind_ok h
        obtain ⟨rfl, rfl⟩ := Parser.pure_ok h
        have htarget := takes_readOffset32 h₁
        refine ⟨rfl, ?_⟩
        simp only [Instr.size]
        omega
      · split at h
        · exact readWide_size h
        · cases h

/-- An instruction takes as many bytes as its size says. -/
lemma readInstr_size {pad : ℕ} {s r : Bytes} {i : Instr} (h : readInstr pad s = .ok (i, r)) :
    s.length = i.size pad + r.length := by
  obtain ⟨op, s₁, h₁, h⟩ := Parser.bind_ok h
  have hop := takes_rd8 h₁
  split at h
  · have := (readTableswitch_size h).2
    omega
  · split at h
    · have := (readLookupswitch_size h).2
      omega
    · have hsize : _ ∧ _ = i.size pad + r.length := readOperands_size h
      have := hsize.2
      omega

/-- Only switches are padded. -/
lemma readInstr_pad {pad pad' : ℕ} {s r : Bytes} {i : Instr} (h : readInstr pad s = .ok (i, r))
    (hi : i.isSwitch = false) : readInstr pad' s = .ok (i, r) := by
  obtain ⟨op, s₁, h₁, h⟩ := Parser.bind_ok h
  rw [readInstr, Parser.bind_apply, h₁]
  change (if op = 170 then readTableswitch pad' else if op = 171 then readLookupswitch pad'
    else readOperands op) s₁ = _
  split at h
  · simp [(readTableswitch_size h).1] at hi
  · rename_i htable
    split at h
    · simp [(readLookupswitch_size h).1] at hi
    · rename_i hlookup
      rw [if_neg htable, if_neg hlookup]
      exact h

/-! ## The size of a sequence -/

/-- The number of bytes that the instructions take from the offset `pc` on. -/
def sizeFrom : ℕ → List Instr → ℕ
  | _, [] => 0
  | pc, i :: is => i.size (padding pc) + sizeFrom (pc + i.size (padding pc)) is

/-- One step of decoding. -/
lemma decodeFrom_cons {fuel pc : ℕ} {b : UInt8} {s : Bytes} {is : List Instr}
    (h : decodeFrom (fuel + 1) pc (b :: s) = .ok is) :
    ∃ i rest is', readInstr (padding pc) (b :: s) = .ok (i, rest) ∧
      decodeFrom fuel (pc + i.size (padding pc)) rest = .ok is' ∧
      is = i.mapTargets (fun t => pc + t) :: is' := by
  rw [decodeFrom] at h
  cases hi : readInstr (padding pc) (b :: s) with
  | error e =>
    rw [hi] at h
    cases h
  | ok ir =>
    obtain ⟨i, rest⟩ := ir
    have hpc : (b :: s).length - rest.length = i.size (padding pc) := by
      have := readInstr_size hi
      omega
    rw [hi] at h
    change ((decodeFrom fuel (pc + ((b :: s).length - rest.length)) rest).bind _) = _ at h
    rw [hpc] at h
    cases hrest : decodeFrom fuel (pc + i.size (padding pc)) rest with
    | error e =>
      rw [hrest] at h
      cases h
    | ok is' =>
      rw [hrest] at h
      exact ⟨i, rest, is', rfl, hrest, (Except.ok.inj h).symm⟩

/-- The step of `decodeFrom_cons`, backwards. -/
lemma decodeFrom_of_readInstr {fuel pc : ℕ} {b : UInt8} {s rest : Bytes} {i : Instr}
    {is : List Instr} (hi : readInstr (padding pc) (b :: s) = .ok (i, rest))
    (hrest : decodeFrom fuel (pc + i.size (padding pc)) rest = .ok is) :
    decodeFrom (fuel + 1) pc (b :: s) = .ok (i.mapTargets (fun t => pc + t) :: is) := by
  have hpc : (b :: s).length - rest.length = i.size (padding pc) := by
    have := readInstr_size hi
    omega
  rw [decodeFrom, hi]
  change ((decodeFrom fuel (pc + ((b :: s).length - rest.length)) rest).bind _) = _
  rw [hpc, hrest]
  rfl

lemma length_of_decodeFrom {fuel pc : ℕ} {s : Bytes} {is : List Instr}
    (h : decodeFrom fuel pc s = .ok is) : s.length = sizeFrom pc is := by
  induction fuel generalizing pc s is with
  | zero =>
    cases s with
    | nil =>
      cases h
      rfl
    | cons b s => cases h
  | succ fuel ih =>
    cases s with
    | nil =>
      cases h
      rfl
    | cons b s =>
      obtain ⟨i, rest, is', hi, hrest, rfl⟩ := decodeFrom_cons h
      have hlen := readInstr_size hi
      have hih := ih hrest
      rw [sizeFrom, Instr.size_mapTargets]
      omega

/-! ## Moving code -/

/-- Moving the relative targets of an instruction at `pc` along with it. -/
lemma shift_mapTargets (n pc : ℕ) (i : Instr) :
    (i.mapTargets fun t => (pc : ℤ) + t).shift n =
      i.mapTargets fun t => ((pc + n : ℕ) : ℤ) + t := by
  rw [Instr.shift, Instr.mapTargets_mapTargets]
  congr 1
  funext t
  simp only [Function.comp_apply]
  push_cast
  ring

lemma padding_add {n : ℕ} (h : 4 ∣ n) (pc : ℕ) : padding (pc + n) = padding pc := by
  unfold padding
  omega

/-- Code that is moved by a multiple of 4, or that has no switch, keeps its meaning. -/
lemma decodeFrom_shift {n fuel pc : ℕ} {s : Bytes} {is : List Instr}
    (h : decodeFrom fuel pc s = .ok is) (hn : 4 ∣ n ∨ ∀ i ∈ is, i.isSwitch = false) :
    decodeFrom fuel (pc + n) s = .ok (is.map (Instr.shift n)) := by
  induction fuel generalizing pc s is with
  | zero =>
    cases s with
    | nil =>
      cases h
      rfl
    | cons b s => cases h
  | succ fuel ih =>
    cases s with
    | nil =>
      cases h
      rfl
    | cons b s =>
      obtain ⟨i, rest, is', hi, hrest, rfl⟩ := decodeFrom_cons h
      -- the first instruction is read as before: its padding is the same, or it has none
      have hmove : readInstr (padding (pc + n)) (b :: s) = .ok (i, rest) ∧
          i.size (padding (pc + n)) = i.size (padding pc) := by
        rcases hn with hn | hn
        · rw [padding_add hn]
          exact ⟨hi, rfl⟩
        · have hi' : i.isSwitch = false := by
            simpa using hn _ List.mem_cons_self
          exact ⟨readInstr_pad hi hi', i.size_pad _ _ hi'⟩
      have hn' : 4 ∣ n ∨ ∀ j ∈ is', j.isSwitch = false :=
        hn.imp_right fun hall j hj => hall j (List.mem_cons_of_mem _ hj)
      have hnext : pc + n + i.size (padding (pc + n)) = pc + i.size (padding pc) + n := by
        rw [hmove.2]
        omega
      have hmoved := decodeFrom_of_readInstr hmove.1 (hnext ▸ ih hrest hn')
      rw [hmoved, List.map_cons, shift_mapTargets]

lemma sizeFrom_map_shift (n pc : ℕ) (is : List Instr) :
    sizeFrom pc (is.map (Instr.shift n)) = sizeFrom pc is := by
  induction is generalizing pc with
  | nil => rfl
  | cons i is ih =>
    have hsize (pad : ℕ) : (i.shift n).size pad = i.size pad := i.size_mapTargets _ pad
    rw [List.map_cons, sizeFrom, sizeFrom, hsize, ih]

lemma sizeFrom_congr {pc pc' : ℕ} (h : pc % 4 = pc' % 4) (is : List Instr) :
    sizeFrom pc is = sizeFrom pc' is := by
  induction is generalizing pc pc' with
  | nil => rfl
  | cons i is ih =>
    have hpad : padding pc = padding pc' := by
      unfold padding
      omega
    have hnext : (pc + i.size (padding pc')) % 4 = (pc' + i.size (padding pc')) % 4 := by omega
    rw [sizeFrom, sizeFrom, hpad, ih hnext]

/-- The end of a switch is aligned. -/
lemma switch_aligned {i : Instr} (h : i.isSwitch = true) (pc : ℕ) :
    (pc + i.size (padding pc)) % 4 = 0 ∧ padding pc < i.size (padding pc) := by
  cases i with
  | tableswitch default low high targets =>
    simp only [Instr.size, padding]
    omega
  | lookupswitch default pairs =>
    simp only [Instr.size, padding]
    omega
  | _ => simp [Instr.isSwitch] at h

lemma switch_size_ne {i : Instr} (h : i.isSwitch = true) {n : ℕ} (hn : ¬ 4 ∣ n) (pc : ℕ) :
    i.size (padding (pc + n)) ≠ i.size (padding pc) := by
  cases i with
  | tableswitch default low high targets =>
    simp only [Instr.size, padding]
    omega
  | lookupswitch default pairs =>
    simp only [Instr.size, padding]
    omega
  | _ => simp [Instr.isSwitch] at h

/-- Moving a switch by another distance changes the size of the code: the first switch gets
another padding, and everything after it is aligned as before. -/
lemma sizeFrom_ne {n : ℕ} (hn : ¬ 4 ∣ n) {is : List Instr} (h : ∃ i ∈ is, i.isSwitch = true)
    (pc : ℕ) : sizeFrom (pc + n) is ≠ sizeFrom pc is := by
  induction is generalizing pc with
  | nil =>
    obtain ⟨i, hi, -⟩ := h
    cases hi
  | cons i is ih =>
    rw [sizeFrom, sizeFrom]
    cases hi : i.isSwitch with
    | true =>
      have hsize := switch_size_ne hi hn pc
      -- behind the first switch both copies are aligned
      have haligned : sizeFrom (pc + n + i.size (padding (pc + n))) is =
          sizeFrom (pc + i.size (padding pc)) is := by
        apply sizeFrom_congr
        rw [(switch_aligned hi (pc + n)).1, (switch_aligned hi pc).1]
      omega
    | false =>
      have hsize := i.size_pad (padding (pc + n)) (padding pc) hi
      have hrest : ∃ j ∈ is, j.isSwitch = true := by
        obtain ⟨j, hj, hswitch⟩ := h
        rcases List.mem_cons.mp hj with rfl | hj
        · simp [hi] at hswitch
        · exact ⟨j, hj, hswitch⟩
      have hne := ih hrest (pc + i.size (padding pc))
      rw [hsize, show pc + n + i.size (padding pc) = pc + i.size (padding pc) + n by omega]
      omega

/-- Code that is moved by `n` bytes decodes to the moved instructions exactly when `n` is a
multiple of 4 or the code has no switch. -/
theorem decode_shift_iff {pc n : ℕ} {code : Bytes} {is : List Instr}
    (h : decode pc code = .ok is) :
    decode (pc + n) code = .ok (is.map (Instr.shift n)) ↔
      4 ∣ n ∨ ∀ i ∈ is, i.isSwitch = false := by
  constructor
  · intro hmoved
    by_contra hnot
    have hn : ¬ 4 ∣ n := fun hn => hnot (.inl hn)
    have hswitch : ∃ i ∈ is, i.isSwitch = true := by
      by_contra hnone
      refine hnot (.inr fun i hi => ?_)
      cases hi' : i.isSwitch with
      | false => rfl
      | true => exact absurd ⟨i, hi, hi'⟩ hnone
    -- both decodings take all of the code, but their sizes differ
    have hsize := length_of_decodeFrom hmoved
    rw [sizeFrom_map_shift] at hsize
    exact sizeFrom_ne hn hswitch pc (hsize.symm.trans (length_of_decodeFrom h))
  · intro hn
    exact decodeFrom_shift h hn

end ClassFile
end SakuraTools
