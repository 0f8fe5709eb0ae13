import Mathlib.Order.Interval.Set.Defs
import SakuraTools.ClassFile.Prepend

/-!
# The debug tables of moved code

What the line numbers and the local variables of a method say after `delta` bytes have come in
front of its code: every line starts `delta` bytes later, and a variable is in scope where it
was.  A variable that was in scope from the start of the method is in scope in the new bytes
too.
-/

namespace SakuraTools
namespace ClassFile

/-- A table of entries of `entrySize` bytes that ends before its last entry does.  The count of
the entries is the first number of the table. -/
def TooShort (entrySize : ℕ) (body : Bytes) : Prop :=
  ∀ n₁ n₂ entries, body = n₁ :: n₂ :: entries →
    body.length < 2 + (be16 n₁ n₂).toNat * entrySize

/-! ## Scopes -/

/-- The pcs at which a variable is in scope. -/
def LocalVariable.scope (v : LocalVariable) : Set ℕ :=
  Set.Ico v.startPc.toNat (v.startPc.toNat + v.length.toNat)

/-- The variable `v'` is `v` in code that has become `n` bytes longer at its start: it is in
scope where `v` was, and in the new bytes if `v` was there from the start. -/
structure LocalVariable.Follows (n : ℕ) (v v' : LocalVariable) : Prop where
  name_eq : v'.nameIndex = v.nameIndex
  descriptor_eq : v'.descriptorIndex = v.descriptorIndex
  index_eq : v'.index = v.index
  scope_old : ∀ p, p + n ∈ v'.scope ↔ p ∈ v.scope
  scope_new : ∀ pc < n, pc ∈ v'.scope ↔ v.startPc = 0

/-- Exact offsets keep the scopes. -/
lemma LocalVariable.Exact.follows {n : ℕ} {v v' : LocalVariable} (h : v.Exact n v') :
    v.Follows n v' := by
  obtain ⟨hname, hdescriptor, hindex⟩ := h.rest_eq
  have hstart := h.start_eq
  have hlength := h.length_eq
  have hzero : v.startPc = 0 ↔ v.startPc.toNat = 0 := UInt16.toNat_inj.symm
  refine ⟨hname, hdescriptor, hindex, ?_, ?_⟩
  · intro p
    show _ ≤ p + n ∧ p + n < _ ↔ _ ≤ p ∧ p < _
    by_cases h0 : v.startPc = 0
    · rw [if_pos h0] at hstart hlength
      have := hzero.mp h0
      omega
    · rw [if_neg h0] at hstart hlength
      omega
  · intro pc hpc
    show _ ≤ pc ∧ pc < _ ↔ _
    by_cases h0 : v.startPc = 0
    · rw [if_pos h0] at hstart hlength
      have := hzero.mp h0
      exact iff_of_true (by omega) h0
    · -- the moved variable starts after the new bytes
      rw [if_neg h0] at hstart hlength
      have := mt hzero.mpr h0
      exact iff_of_false (by omega) h0

/-! ## The two loops -/

section Moved

variable {codeLength : ℕ} {delta : UInt32}

lemma shiftLineNumberTable_exact (hfit : codeLength + delta.toNat ≤ 65535) {body : Bytes}
    {lines : List LineNumber} (h : readLineNumberTable body = .ok (lines, []))
    (hle : ∀ l ∈ lines, l.startPc.toNat ≤ codeLength) :
    ∃ lines', readLineNumberTable (shiftLineNumberTable body delta) = .ok (lines', []) ∧
      List.Forall₂ (LineNumber.Exact delta.toNat) lines lines' := by
  refine ⟨_, (shiftLineNumberTable_reads h delta).1, ?_⟩
  rw [List.forall₂_map_right_iff, List.forall₂_same]
  intro l hl
  have hstart := hle l hl
  have hmove : l.Exact delta.toNat (l.move (UInt32.ofNat delta.toNat)) :=
    ⟨toNat_add_delta (by omega), rfl⟩
  rwa [UInt32.ofNat_toNat] at hmove

lemma shiftLocalVarTable_exact (hfit : codeLength + delta.toNat ≤ 65535) {body : Bytes}
    {vars : List LocalVariable} (h : readLocalVariableTable body = .ok (vars, []))
    (hle : ∀ v ∈ vars, v.startPc.toNat + v.length.toNat ≤ codeLength) :
    ∃ vars', readLocalVariableTable (shiftLocalVarTable body delta) = .ok (vars', []) ∧
      List.Forall₂ (LocalVariable.Exact delta.toNat) vars vars' := by
  refine ⟨_, (shiftLocalVarTable_reads h delta).1, ?_⟩
  rw [List.forall₂_map_right_iff, List.forall₂_same]
  intro v hv
  have hmove := LocalVariable.exact_move (hle v hv) hfit
  rwa [UInt32.ofNat_toNat] at hmove

end Moved

lemma shiftLineNumberTable_of_tooShort {body : Bytes} (h : TooShort 4 body) (delta : UInt32) :
    shiftLineNumberTable body delta = body := by
  rcases body with _ | ⟨n₁, _ | ⟨n₂, entries⟩⟩
  · rfl
  · rfl
  · exact if_pos (h n₁ n₂ entries rfl)

lemma shiftLocalVarTable_of_tooShort {body : Bytes} (h : TooShort 10 body) (delta : UInt32) :
    shiftLocalVarTable body delta = body := by
  rcases body with _ | ⟨n₁, _ | ⟨n₂, entries⟩⟩
  · rfl
  · rfl
  · exact if_pos (h n₁ n₂ entries rfl)

/-! ## The debug tables follow the code -/

/-- When the code of a method is `delta` bytes longer and still has 16-bit offsets, every line
starts `delta` bytes later and every variable is in scope where it was; the variables in scope
in the new bytes are those that were there from the start.  A table that ends too soon stays as
it is. -/
theorem debugTables_follow {codeLength : ℕ} {delta : UInt32}
    (hfit : codeLength + delta.toNat ≤ 65535) :
    (∀ body lines, readLineNumberTable body = .ok (lines, []) →
      (∀ l ∈ lines, l.startPc.toNat ≤ codeLength) →
      ∃ lines', readLineNumberTable (shiftLineNumberTable body delta) = .ok (lines', []) ∧
        List.Forall₂ (LineNumber.Exact delta.toNat) lines lines') ∧
    (∀ body vars, readLocalVariableTable body = .ok (vars, []) →
      (∀ v ∈ vars, v.startPc.toNat + v.length.toNat ≤ codeLength) →
      ∃ vars', readLocalVariableTable (shiftLocalVarTable body delta) = .ok (vars', []) ∧
        List.Forall₂ (LocalVariable.Follows delta.toNat) vars vars') ∧
    (∀ body, TooShort 4 body → shiftLineNumberTable body delta = body) ∧
    (∀ body, TooShort 10 body → shiftLocalVarTable body delta = body) := by
  refine ⟨?_, ?_, ?_, ?_⟩
  · intro body lines hread hle
    exact shiftLineNumberTable_exact hfit hread hle
  · intro body vars hread hle
    obtain ⟨vars', hread', hexact⟩ := shiftLocalVarTable_exact hfit hread hle
    exact ⟨vars', hread', hexact.imp fun _ _ h => h.follows⟩
  · exact fun body h => shiftLineNumberTable_of_tooShort h delta
  · exact fun body h => shiftLocalVarTable_of_tooShort h delta

/-- A method of five bytes with a variable from the start, one with an empty range there and
a later one, moved by three bytes. -/
theorem debugTables_follow_five :
    ∃ vars', readLocalVariableTable (shiftLocalVarTable
        [0, 3, 0, 0, 0, 5, 0, 7, 0, 8, 0, 0, 0, 0, 0, 0, 0, 9, 0, 8, 0, 1,
          0, 2, 0, 3, 0, 9, 0, 8, 0, 2] 3) = .ok (vars', []) ∧
      List.Forall₂ (LocalVariable.Follows 3)
        [⟨0, 5, 7, 8, 0⟩, ⟨0, 0, 9, 8, 1⟩, ⟨2, 3, 9, 8, 2⟩] vars' := by
  have hfit : 5 + (3 : UInt32).toNat ≤ 65535 := by decide
  exact (debugTables_follow hfit).2.1 _ _ rfl (by decide)

end ClassFile
end SakuraTools
