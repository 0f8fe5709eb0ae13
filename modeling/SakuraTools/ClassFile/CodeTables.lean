import SakuraTools.ClassFile.CodeAttribute
import SakuraTools.ClassFile.StackMap

/-!
# The tables of a Code attribute

The line numbers, the local variables and the exception handlers of a method, as the JVM reads
them, and what the editor makes of them.
-/

namespace SakuraTools
namespace ClassFile

/-! ## Line numbers -/

/-- An entry of a LineNumberTable. -/
structure LineNumber where
  startPc : UInt16
  lineNumber : UInt16
deriving DecidableEq, Repr

def readLineNumber : Reader LineNumber := do
  let startPc ← rd16
  let lineNumber ← rd16
  pure ⟨startPc, lineNumber⟩

/-- The body of a LineNumberTable attribute. -/
def readLineNumberTable : Reader (List LineNumber) := do
  let count ← rd16
  Parser.times readLineNumber count.toNat

/-- A line that starts `delta` later, reduced to 16 bits. -/
def LineNumber.move (delta : UInt32) (l : LineNumber) : LineNumber :=
  { l with startPc := (l.startPc.toUInt32 + delta).toUInt16 }

lemma takes_rd16 : Parser.Takes rd16 2 :=
  (Parser.takes_item _).bind fun _ => (Parser.takes_item _).bind_pure _

lemma takes_readLineNumber : Parser.Takes readLineNumber 4 :=
  takes_rd16.bind fun _ => takes_rd16.bind_pure _

lemma shiftLines_cons (delta : UInt32) (n : ℕ) {s r : Bytes} {l : LineNumber}
    (h : readLineNumber s = .ok (l, r)) :
    ∃ b, Parser.Reads readLineNumber b (l.move delta) ∧ b.length = 4 ∧
      shiftLines delta (n + 1) s = b ++ shiftLines delta n r := by
  match s, h with
  | a :: b :: l₁ :: l₂ :: rest, h =>
    cases h
    refine ⟨[_, _, l₁, l₂], ?_, rfl, rfl⟩
    intro t
    change Except.ok ((⟨be16 _ _, be16 l₁ l₂⟩ : LineNumber), t) = _
    rw [be16_low]
    rfl

/-- The editor moves every line. -/
lemma shiftLineNumberTable_reads {body : Bytes} {lines : List LineNumber}
    (h : readLineNumberTable body = .ok (lines, [])) (delta : UInt32) :
    readLineNumberTable (shiftLineNumberTable body delta) =
        .ok (lines.map (LineNumber.move delta), []) ∧
      (shiftLineNumberTable body delta).length = body.length := by
  match body, h with
  | n₁ :: n₂ :: s, h =>
    change Parser.times readLineNumber (be16 n₁ n₂).toNat s = _ at h
    obtain ⟨-, hlen⟩ := Parser.times_ok takes_readLineNumber h
    obtain ⟨hread, hsame⟩ := Parser.times_rewrite takes_readLineNumber (fun _ => rfl)
      (fun n s x r hx => shiftLines_cons delta n hx) h
    have hroom : ¬ (n₁ :: n₂ :: s).length < 2 + (be16 n₁ n₂).toNat * 4 := by
      simp only [List.length_cons, List.length_nil] at hlen ⊢
      omega
    rw [shiftLineNumberTable, if_neg hroom]
    exact ⟨hread, by simp only [List.length_cons, hsame]⟩

/-! ## Local variables -/

/-- An entry of a LocalVariableTable, or of a LocalVariableTypeTable with a signature for its
descriptor. -/
structure LocalVariable where
  startPc : UInt16
  length : UInt16
  nameIndex : UInt16
  descriptorIndex : UInt16
  index : UInt16
deriving DecidableEq, Repr

def readLocalVariable : Reader LocalVariable := do
  let startPc ← rd16
  let length ← rd16
  let nameIndex ← rd16
  let descriptorIndex ← rd16
  let index ← rd16
  pure ⟨startPc, length, nameIndex, descriptorIndex, index⟩

/-- The body of a LocalVariableTable or a LocalVariableTypeTable attribute. -/
def readLocalVariableTable : Reader (List LocalVariable) := do
  let count ← rd16
  Parser.times readLocalVariable count.toNat

/-- A variable that lives `delta` bytes later, or that lives `delta` bytes longer if it is there
from the start; reduced to 16 bits. -/
def LocalVariable.move (delta : UInt32) (v : LocalVariable) : LocalVariable :=
  if v.startPc = 0 then { v with length := (v.length.toUInt32 + delta).toUInt16 }
  else { v with startPc := (v.startPc.toUInt32 + delta).toUInt16 }

lemma takes_readLocalVariable : Parser.Takes readLocalVariable 10 :=
  takes_rd16.bind fun _ => takes_rd16.bind fun _ => takes_rd16.bind fun _ =>
    takes_rd16.bind fun _ => takes_rd16.bind_pure _

/-- The two bytes that `shiftLocalVarTable` makes of a 16-bit number. -/
lemma be16_low16 (v : UInt16) :
    be16 ((v >>> 8) &&& 0xFF).toUInt8 (v &&& 0xFF).toUInt8 = v := by
  apply UInt16.toNat_inj.mp
  have hv := v.toNat_lt
  rw [toNat_be16]
  simp only [UInt16.toNat_toUInt8, UInt16.toNat_shiftRight, UInt16.toNat_and]
  change 256 * ((v.toNat >>> 8 &&& (2 ^ 8 - 1)) % 256) + (v.toNat &&& (2 ^ 8 - 1)) % 256 = _
  simp only [Nat.shiftRight_eq_div_pow, Nat.and_two_pow_sub_one_eq_mod]
  omega

lemma shiftLocals_cons (delta : UInt32) (n : ℕ) {s r : Bytes} {v : LocalVariable}
    (h : readLocalVariable s = .ok (v, r)) :
    ∃ b, Parser.Reads readLocalVariable b (v.move delta) ∧ b.length = 10 ∧
      shiftLocals delta (n + 1) s = b ++ shiftLocals delta n r := by
  match s, h with
  | a :: b :: c :: d :: v₁ :: v₂ :: v₃ :: v₄ :: v₅ :: v₆ :: rest, h =>
    cases h
    by_cases hstart : be16 a b = 0
    · refine ⟨[a, b, _, _, v₁, v₂, v₃, v₄, v₅, v₆], ?_, rfl, if_pos hstart⟩
      intro t
      rw [LocalVariable.move, if_pos hstart]
      change Except.ok ((⟨be16 a b, be16 _ _, _, _, _⟩ : LocalVariable), t) = _
      rw [be16_low16]
    · refine ⟨[_, _, c, d, v₁, v₂, v₃, v₄, v₅, v₆], ?_, rfl, if_neg hstart⟩
      intro t
      rw [LocalVariable.move, if_neg hstart]
      change Except.ok ((⟨be16 _ _, be16 c d, _, _, _⟩ : LocalVariable), t) = _
      rw [be16_low16]

/-- The editor moves every variable. -/
lemma shiftLocalVarTable_reads {body : Bytes} {vars : List LocalVariable}
    (h : readLocalVariableTable body = .ok (vars, [])) (delta : UInt32) :
    readLocalVariableTable (shiftLocalVarTable body delta) =
        .ok (vars.map (LocalVariable.move delta), []) ∧
      (shiftLocalVarTable body delta).length = body.length := by
  match body, h with
  | n₁ :: n₂ :: s, h =>
    change Parser.times readLocalVariable (be16 n₁ n₂).toNat s = _ at h
    obtain ⟨-, hlen⟩ := Parser.times_ok takes_readLocalVariable h
    obtain ⟨hread, hsame⟩ := Parser.times_rewrite takes_readLocalVariable (fun _ => rfl)
      (fun n s x r hx => shiftLocals_cons delta n hx) h
    have hroom : ¬ (n₁ :: n₂ :: s).length < 2 + (be16 n₁ n₂).toNat * 10 := by
      simp only [List.length_cons, List.length_nil] at hlen ⊢
      omega
    rw [shiftLocalVarTable, if_neg hroom]
    exact ⟨hread, by simp only [List.length_cons, hsame]⟩

/-! ## Legal code -/

/-- An exception handler of a method with `codeLength` bytes of code: a handler covers at least
one instruction. -/
structure ExceptionEntry.Legal (codeLength : ℕ) (e : ExceptionEntry) : Prop where
  start_lt : e.startPc.toNat < e.endPc.toNat
  end_le : e.endPc.toNat ≤ codeLength
  handler_lt : e.handler.toNat < codeLength

/-- An attribute of the code, by its name: a table is well-formed and its offsets are in the
code. -/
structure LegalTable (codeLength : ℕ) (name info : Bytes) : Prop where
  frames : name = ascii "StackMapTable" → ∃ frames, readStackMap info = .ok (frames, []) ∧
    ∀ o ∈ frameOffsets frames, o < codeLength
  lines : name = ascii "LineNumberTable" →
    ∃ lines, readLineNumberTable info = .ok (lines, []) ∧
      ∀ l ∈ lines, l.startPc.toNat < codeLength
  locals : name = ascii "LocalVariableTable" ∨ name = ascii "LocalVariableTypeTable" →
    ∃ vars, readLocalVariableTable info = .ok (vars, []) ∧
      ∀ v ∈ vars, v.startPc.toNat + v.length.toNat ≤ codeLength

/-- A Code attribute that the JVM accepts, in a class file with the constant pool `cp`. -/
structure CodeBody.Legal (cp : List CpEntry) (c : CodeBody) : Prop extends c.Fits where
  code_pos : 0 < c.code.length
  code_le : c.code.length ≤ 65535
  exceptions : ∀ e ∈ c.exceptions, e.Legal c.code.length
  names_lt : ∀ a ∈ c.attributes, a.1.toNat < cp.length
  tables : ∀ a ∈ c.attributes, ∀ name, cpUtf8Value cp a.1 = .ok name →
    LegalTable c.code.length name a.2

/-- The first frame of a table that can be read is inside the table. -/
lemma firstFrameCovered_of_reads {body : Bytes} {frames : List Frame}
    (h : readStackMap body = .ok (frames, [])) : FirstFrameCovered body := by
  match body, h with
  | [], _ => trivial
  | [_], _ => trivial
  | n₁ :: n₂ :: s, h =>
    refine or_iff_not_imp_left.mpr fun hn => ?_
    obtain ⟨k, hk⟩ : ∃ k, (be16 n₁ n₂).toNat = k + 1 :=
      Nat.exists_eq_succ_of_ne_zero fun h0 => hn (UInt16.toNat_inj.mp h0)
    change Parser.times readFrame (be16 n₁ n₂).toNat s = _ at h
    rw [hk] at h
    obtain ⟨f, t, hf, -⟩ := Parser.bind_ok h
    rcases s with _ | ⟨tag, s⟩
    · cases hf
    · refine ⟨tag, s, rfl, or_iff_not_imp_left.mpr fun hlong => ?_⟩
      rw [UInt8.not_lt] at hlong
      have hle : ¬ tag ≤ 127 := fun hle => absurd (UInt8.le_trans hlong hle) (by decide)
      rw [readFrame_of_not_le hle, if_pos hlong] at hf
      rcases s with _ | ⟨o₁, _ | ⟨o₂, s⟩⟩
      · cases hf
      · cases hf
      · simp

lemma CodeBody.Legal.wellFormed {cp : List CpEntry} {c : CodeBody} (h : c.Legal cp) :
    c.WellFormed cp := by
  refine ⟨h.toFits, h.names_lt, ?_⟩
  intro a ha hname
  obtain ⟨frames, hread, -⟩ := (h.tables a ha _ hname).frames rfl
  exact firstFrameCovered_of_reads hread

/-! ## The patched tables -/

/-- What the editor makes of an attribute of the code, by its name. -/
structure ShiftedTable (delta : UInt32) (name info info' : Bytes) : Prop where
  frames : name = ascii "StackMapTable" → shiftStackMap info delta = .ok info'
  lines : name = ascii "LineNumberTable" → info' = shiftLineNumberTable info delta
  locals : name = ascii "LocalVariableTable" ∨ name = ascii "LocalVariableTypeTable" →
    info' = shiftLocalVarTable info delta
  other : name ∉ ["StackMapTable", "LineNumberTable", "LocalVariableTable",
    "LocalVariableTypeTable"].map ascii → info' = info

/-- The attribute `b` of the code is `a` with the code moved by `delta`. -/
structure Shifted (cp : List CpEntry) (delta : UInt32) (a b : UInt16 × Bytes) : Prop where
  name_eq : b.1 = a.1
  table : ∀ name, cpUtf8Value cp a.1 = .ok name → ShiftedTable delta name a.2 b.2

lemma patchAttribute_shifted {cp : List CpEntry} {delta : UInt32} {a b : UInt16 × Bytes}
    (h : patchAttribute cp delta a = .ok b) : Shifted cp delta a b := by
  cases hname : cpUtf8Value cp a.1 with
  | error e =>
    rw [patchAttribute, hname] at h
    cases h
  | ok name =>
    have hunfold : patchAttribute cp delta a =
        if name = ascii "StackMapTable" then
          (shiftStackMap a.2 delta).map fun patched => (a.1, patched)
        else if name = ascii "LineNumberTable" then .ok (a.1, shiftLineNumberTable a.2 delta)
        else if name = ascii "LocalVariableTable" ∨ name = ascii "LocalVariableTypeTable" then
          .ok (a.1, shiftLocalVarTable a.2 delta)
        else .ok a := by
      rw [patchAttribute, hname]
      rfl
    have htable (h₁ : b.1 = a.1) (h₂ : ShiftedTable delta name a.2 b.2) :
        Shifted cp delta a b := by
      refine ⟨h₁, fun name' hname' => ?_⟩
      rwa [← Except.ok.inj (hname.symm.trans hname')]
    rw [hunfold] at h
    split_ifs at h with hmap hlines hlocals
    · obtain ⟨body, hbody, rfl⟩ := exists_of_map_ok h
      subst hmap
      exact htable rfl ⟨fun _ => hbody, fun h => absurd h (by decide),
        fun h => absurd h (by decide), fun h => absurd h (by decide)⟩
    · cases h
      subst hlines
      exact htable rfl ⟨fun h => absurd h (by decide), fun _ => rfl,
        fun h => absurd h (by decide), fun h => absurd h (by decide)⟩
    · cases h
      refine htable rfl ⟨fun h => absurd h hmap, fun h => absurd h hlines, fun _ => rfl, ?_⟩
      rcases hlocals with rfl | rfl
      · exact fun h => absurd h (by decide)
      · exact fun h => absurd h (by decide)
    · cases h
      exact htable rfl ⟨fun h => absurd h hmap, fun h => absurd h hlines,
        fun h => absurd h hlocals, fun _ => rfl⟩

/-- A shifted table is at most two bytes longer. -/
lemma ShiftedTable.length_le {delta : UInt32} {codeLength : ℕ} {name info info' : Bytes}
    (h : ShiftedTable delta name info info') (hinfo : LegalTable codeLength name info) :
    info'.length ≤ info.length + 2 := by
  by_cases hmap : name = ascii "StackMapTable"
  · obtain ⟨frames, hread, -⟩ := hinfo.frames hmap
    obtain ⟨body, hbody, -, hlen⟩ := shiftStackMap_reads hread delta
    cases (h.frames hmap).symm.trans hbody
    exact hlen
  · by_cases hlines : name = ascii "LineNumberTable"
    · obtain ⟨lines, hread, -⟩ := hinfo.lines hlines
      rw [h.lines hlines, (shiftLineNumberTable_reads hread delta).2]
      omega
    · by_cases hlocals : name = ascii "LocalVariableTable" ∨ name = ascii "LocalVariableTypeTable"
      · obtain ⟨vars, hread, -⟩ := hinfo.locals hlocals
        rw [h.locals hlocals, (shiftLocalVarTable_reads hread delta).2]
        omega
      · have hother : info' = info := by
          refine h.other ?_
          simp only [List.map_cons, List.map_nil, List.mem_cons, List.not_mem_nil, or_false]
          rintro (hn | hn | hn | hn)
          · exact hmap hn
          · exact hlines hn
          · exact hlocals (.inl hn)
          · exact hlocals (.inr hn)
        rw [hother]
        omega

end ClassFile
end SakuraTools
