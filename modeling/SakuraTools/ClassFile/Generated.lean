import Mathlib.Data.List.Induction
import SakuraTools.ClassFile.Bytecode
import SakuraTools.ClassFile.CodeAttribute
import SakuraTools.ClassFile.Built

/-!
# The generated classes

The six classes that the proxy defines in the game, under the names that `native/random_name.cpp`
makes up: `native/trampolines.cpp`, `native/relay_handler.cpp`, `native/server/transport.cpp` and
`native/world_snapshot.cpp` put them together with the builder and then register the functions that
their native methods call.
-/

namespace SakuraTools
namespace ClassFile

/-! ## Random names -/

/-- `kWords` -/
def kWords : List Bytes := [
  "Aurora", "Compass", "Prism", "Tide", "Anchor", "Asteroid", "Atlas", "Beacon", "Boreal",
  "Breeze", "Cascade", "Celestial", "Cirrus", "Coast", "Comet", "Coral", "Cosmos", "Cove",
  "Crescent", "Current", "Dawn", "Delta", "Dolphin", "Drift", "Dune", "Dusk", "Eclipse",
  "Equinox", "Estuary", "Fjord", "Galaxy", "Gale", "Glacier", "Glimmer", "Gulf", "Harbor",
  "Horizon", "Iceberg", "Inlet", "Island", "Lagoon", "Latitude", "Lighthouse", "Lunar", "Mariner",
  "Meridian", "Meteor", "Mirage", "Monsoon", "Moonbeam", "Nebula", "Neptune", "Nimbus", "North",
  "Nova", "Ocean", "Orbit", "Orion", "Pacific", "Parallax", "Polaris", "Pulsar", "Quasar", "Reef",
  "Ripple", "Sail", "Sandbar", "Seabird", "Seashell", "Seaward", "Shoal", "Shore", "Sirius",
  "Solar", "Solstice", "Sonar", "Spark", "Spectrum", "Starfish", "Starlight", "Stratus", "Summit",
  "Sunbeam", "Sunrise", "Sunset", "Surf", "Swell", "Tempest", "Transit", "Twilight", "Vapor",
  "Voyage", "Wave", "West", "Zenith", "Zephyr"].map ascii

/-- What is still to come from a random generator. -/
abbrev Rng := ℕ → ℕ

/-- A number from `lo` to `hi`. -/
def draw (lo hi : ℕ) (rng : Rng) : ℕ × Rng := (lo + rng 0 % (hi + 1 - lo), fun i => rng (i + 1))

def drawWord (rng : Rng) : Bytes × Rng :=
  let (i, rng) := draw 0 (kWords.length - 1) rng
  (kWords.getD i [], rng)

/-- The loop that puts words one behind the other. -/
def drawWords : ℕ → Rng → Bytes × Rng
  | 0, rng => ([], rng)
  | n + 1, rng =>
    let (word, rng) := drawWord rng
    let (rest, rng) := drawWords n rng
    (word ++ rest, rng)

/-- `GenerateRandomClassName` -/
def GenerateRandomClassName (minWords maxWords : ℤ) (rng : Rng) : Bytes :=
  let minWords := if minWords < 1 then 1 else minWords
  let maxWords := if maxWords < minWords then minWords else maxWords
  let (n, rng) := draw minWords.toNat maxWords.toNat rng
  (drawWords n rng).1

/-- `MakeInternalName` -/
def MakeInternalName (internalPackage simpleName : Bytes) : Bytes :=
  if internalPackage = [] then simpleName
  else (if internalPackage.getLast? = some 47 then internalPackage else internalPackage ++ [47]) ++
    simpleName

/-- `std::tolower` on an ASCII letter. -/
def tolower (c : UInt8) : UInt8 := if 65 ≤ c ∧ c ≤ 90 then c + 32 else c

/-- The first word of a part of a package, in small letters, and the words behind it. -/
def drawPart (rng : Rng) : Bytes × Rng :=
  let (wordCount, rng) := draw 1 2 rng
  let (firstWord, rng) := drawWord rng
  let (rest, rng) := drawWords (wordCount - 1) rng
  (firstWord.map tolower ++ rest, rng)

/-- The loop over the parts of a package that come behind the first one. -/
def drawParts : ℕ → Rng → Bytes × Rng
  | 0, rng => ([], rng)
  | n + 1, rng =>
    let (part, rng) := drawPart rng
    let (rest, rng) := drawParts n rng
    (47 :: part ++ rest, rng)

/-- `GenerateRandomPackageName`, where no package has less than one part. -/
def GenerateRandomPackageName (rng : Rng) : Bytes :=
  let (depth, rng) := draw 1 3 rng
  let (part, rng) := drawPart rng
  part ++ (drawParts (depth - 1) rng).1

/-! ## Legal names -/

def isLetter (c : UInt8) : Bool := (65 ≤ c && c ≤ 90) || (97 ≤ c && c ≤ 122)

/-- A part of a name, of letters, and not longer than `n`. -/
structure Part (n : ℕ) (s : Bytes) : Prop where
  nonempty : s ≠ []
  letters : s.all isLetter = true
  length_le : s.length ≤ n

/-- The name of a class in the binary format: parts with a slash between any two. -/
def LegalName (s : Bytes) : Prop :=
  ∃ first rest, s = first ++ rest.flatMap (47 :: ·) ∧ ∀ p ∈ first :: rest, p ≠ [] ∧
    p.all isLetter = true

section Names

variable {m n : ℕ} {s t : Bytes} {rng : Rng}

lemma draw_mem {lo hi : ℕ} (h : lo ≤ hi) (rng : Rng) :
    lo ≤ (draw lo hi rng).1 ∧ (draw lo hi rng).1 ≤ hi := by
  have hlt := Nat.mod_lt (rng 0) (show 0 < hi + 1 - lo by omega)
  simp only [draw]
  omega

lemma Part.append (hs : Part m s) (ht : Part n t) : Part (m + n) (s ++ t) where
  nonempty := List.append_ne_nil_of_left_ne_nil hs.nonempty t
  letters := by rw [List.all_append, hs.letters, ht.letters, Bool.and_self]
  length_le := by
    have := hs.length_le
    have := ht.length_le
    rw [List.length_append]
    omega

lemma Part.mono (hs : Part m s) (h : m ≤ n) : Part n s :=
  ⟨hs.nonempty, hs.letters, Nat.le_trans hs.length_le h⟩

lemma isLetter_tolower {c : UInt8} (hc : isLetter c = true) : isLetter (tolower c) = true := by
  simp only [isLetter, Bool.or_eq_true, Bool.and_eq_true, decide_eq_true_eq] at hc ⊢
  unfold tolower
  split
  · rename_i h
    obtain ⟨hlo, hhi⟩ := h
    right
    simp only [UInt8.le_iff_toNat_le, UInt8.toNat_add] at hlo hhi ⊢
    simp only [UInt8.reduceToNat] at *
    omega
  · exact hc

lemma Part.lower (hs : Part n s) : Part n (s.map tolower) where
  nonempty := by simpa using hs.nonempty
  letters := by
    rw [List.all_map, List.all_eq_true]
    intro c hc
    exact isLetter_tolower (List.all_eq_true.mp hs.letters c hc)
  length_le := by
    rw [List.length_map]
    exact hs.length_le

lemma part_drawWord (rng : Rng) : Part 10 (drawWord rng).1 := by
  have hwords : kWords.all
      (fun w => !w.isEmpty && w.all isLetter && decide (w.length ≤ 10)) = true := by
    decide +kernel
  have hlt : (draw 0 (kWords.length - 1) rng).1 < kWords.length := by
    have := (draw_mem (Nat.zero_le (kWords.length - 1)) rng).2
    have hlength : kWords.length = 96 := by decide
    omega
  have hword := List.all_eq_true.mp hwords _ (List.getElem_mem hlt)
  simp only [Bool.and_eq_true, Bool.not_eq_true', List.isEmpty_eq_false_iff, decide_eq_true_eq]
    at hword
  have heq : (drawWord rng).1 = kWords[(draw 0 (kWords.length - 1) rng).1] :=
    (List.getElem_eq_getD []).symm
  rw [heq]
  exact ⟨hword.1.1, hword.1.2, hword.2⟩

lemma drawWords_all (n : ℕ) (rng : Rng) :
    (drawWords n rng).1.all isLetter = true ∧ (drawWords n rng).1.length ≤ 10 * n := by
  induction n generalizing rng with
  | zero => exact ⟨rfl, Nat.le_refl 0⟩
  | succ n ih =>
    obtain ⟨hletters, hlength⟩ := ih (drawWord rng).2
    have hword := part_drawWord rng
    have hle := hword.length_le
    refine ⟨?_, ?_⟩
    · show ((drawWord rng).1 ++ (drawWords n (drawWord rng).2).1).all isLetter = true
      rw [List.all_append, hword.letters, hletters, Bool.and_self]
    · show ((drawWord rng).1 ++ (drawWords n (drawWord rng).2).1).length ≤ 10 * (n + 1)
      rw [List.length_append]
      omega

lemma part_drawWords (rng : Rng) : Part (10 * (n + 1)) (drawWords (n + 1) rng).1 where
  nonempty := List.append_ne_nil_of_left_ne_nil (part_drawWord rng).nonempty _
  letters := (drawWords_all (n + 1) rng).1
  length_le := (drawWords_all (n + 1) rng).2

lemma part_drawPart (rng : Rng) : Part 20 (drawPart rng).1 := by
  have hcount := (draw_mem (show 1 ≤ 2 by decide) rng).2
  have hword := (part_drawWord (draw 1 2 rng).2).lower
  show Part 20 ((drawWord (draw 1 2 rng).2).1.map tolower ++
    (drawWords ((draw 1 2 rng).1 - 1) (drawWord (draw 1 2 rng).2).2).1)
  cases hn : (draw 1 2 rng).1 - 1 with
  | zero =>
    rw [drawWords, List.append_nil]
    exact hword.mono (by decide)
  | succ n =>
    obtain rfl : n = 0 := by omega
    exact hword.append (part_drawWords (n := 0) _)

lemma exists_drawParts (n : ℕ) (rng : Rng) :
    ∃ ps : List Bytes, (drawParts n rng).1 = ps.flatMap (47 :: ·) ∧ (∀ p ∈ ps, Part 20 p) ∧
      ps.length = n := by
  induction n generalizing rng with
  | zero => exact ⟨[], rfl, List.forall_mem_nil _, rfl⟩
  | succ n ih =>
    obtain ⟨ps, heq, hps, hlength⟩ := ih (drawPart rng).2
    refine ⟨(drawPart rng).1 :: ps, ?_, ?_, by rw [List.length_cons, hlength]⟩
    · show 47 :: (drawPart rng).1 ++ (drawParts n (drawPart rng).2).1 = _
      rw [heq, List.flatMap_cons]
    · intro p hp
      rcases List.mem_cons.mp hp with rfl | hp
      · exact part_drawPart rng
      · exact hps p hp

lemma length_flatMap_slash {ps : List Bytes} (hps : ∀ p ∈ ps, Part n p) :
    (ps.flatMap (47 :: ·)).length ≤ (n + 1) * ps.length := by
  induction ps with
  | nil => exact Nat.zero_le _
  | cons p ps ih =>
    have hrest := ih fun q hq => hps q (List.mem_cons_of_mem p hq)
    have hp := (hps p List.mem_cons_self).length_le
    rw [List.flatMap_cons, List.length_append, List.length_cons, List.length_cons, Nat.mul_succ]
    omega

/-- A package has one to three parts. -/
lemma exists_package (rng : Rng) : ∃ (first : Bytes) (rest : List Bytes),
    GenerateRandomPackageName rng = first ++ rest.flatMap (47 :: ·) ∧
      (∀ p ∈ first :: rest, Part 20 p) ∧ rest.length ≤ 2 := by
  have hdepth := (draw_mem (show 1 ≤ 3 by decide) rng).2
  obtain ⟨ps, heq, hps, hlength⟩ := exists_drawParts ((draw 1 3 rng).1 - 1)
    (drawPart (draw 1 3 rng).2).2
  refine ⟨(drawPart (draw 1 3 rng).2).1, ps, ?_, ?_, by omega⟩
  · rw [← heq]
    rfl
  · intro p hp
    rcases List.mem_cons.mp hp with rfl | hp
    · exact part_drawPart _
    · exact hps p hp

lemma part_className (rng : Rng) : Part 30 (GenerateRandomClassName 2 3 rng) := by
  obtain ⟨hlo, hhi⟩ := draw_mem (show 2 ≤ 3 by decide) rng
  obtain ⟨n, hn⟩ : ∃ n, (draw 2 3 rng).1 = n + 1 := ⟨(draw 2 3 rng).1 - 1, by omega⟩
  show Part 30 (drawWords (draw 2 3 rng).1 (draw 2 3 rng).2).1
  rw [hn]
  exact (part_drawWords _).mono (by omega)

lemma getLast?_ne_slash {p : Bytes} (hp : Part n p) : p.getLast? ≠ some 47 := by
  intro hlast
  have hletter := List.all_eq_true.mp hp.letters 47 (List.mem_of_getLast? hlast)
  exact absurd hletter (by decide)

/-- The last character of a package is a letter. -/
lemma getLast?_package {first : Bytes} {rest : List Bytes} (hall : ∀ p ∈ first :: rest, Part n p) :
    (first ++ rest.flatMap (47 :: ·)).getLast? ≠ some 47 := by
  induction rest using List.reverseRecOn with
  | nil =>
    rw [List.flatMap_nil, List.append_nil]
    exact getLast?_ne_slash (hall first List.mem_cons_self)
  | append_singleton rest p ih =>
    have hp := hall p (List.mem_cons_of_mem first (List.mem_append_right rest List.mem_cons_self))
    rw [List.flatMap_append, List.flatMap_singleton, ← List.append_assoc,
      List.getLast?_append_of_ne_nil _ (List.cons_ne_nil 47 p)]
    obtain ⟨c, cs, rfl⟩ := List.exists_cons_of_ne_nil hp.nonempty
    rw [List.getLast?_cons_cons]
    exact getLast?_ne_slash hp

/-- The name of a generated class. -/
def generatedName (package name : Rng) : Bytes :=
  MakeInternalName (GenerateRandomPackageName package) (GenerateRandomClassName 2 3 name)

/-- Whatever is drawn, the name is legal, in a package, and short. -/
lemma generatedName_legal (package name : Rng) :
    LegalName (generatedName package name) ∧ (generatedName package name).length ≤ 93 := by
  obtain ⟨first, rest, heq, hall, hlength⟩ := exists_package package
  have hfirst := hall first List.mem_cons_self
  have hname := part_className name
  have hne : first ++ rest.flatMap (47 :: ·) ≠ [] :=
    List.append_ne_nil_of_left_ne_nil hfirst.nonempty _
  have hjoin : generatedName package name =
      first ++ (rest ++ [GenerateRandomClassName 2 3 name]).flatMap (47 :: ·) := by
    rw [generatedName, heq, MakeInternalName, if_neg hne, if_neg (getLast?_package hall)]
    simp only [List.flatMap_append, List.flatMap_singleton, List.append_assoc,
      List.singleton_append]
  have hparts := length_flatMap_slash fun p hp => hall p (List.mem_cons_of_mem first hp)
  constructor
  · refine ⟨first, rest ++ [GenerateRandomClassName 2 3 name], hjoin, fun p hp => ?_⟩
    rw [← List.cons_append, List.mem_append, List.mem_singleton] at hp
    rcases hp with hp | rfl
    · exact ⟨(hall p hp).nonempty, (hall p hp).letters⟩
    · exact ⟨hname.nonempty, hname.letters⟩
  · have hle := hfirst.length_le
    have hle' := hname.length_le
    rw [hjoin, List.length_append, List.flatMap_append, List.length_append, List.flatMap_singleton,
      List.length_cons]
    omega

end Names

/-! ## Room in the pool -/

namespace Builder

/-- The step succeeds while there is room for `n` constants, and adds no more than these. -/
def Succeeds {α : Type} (x : Builder → Except Fault (α × Builder)) (n : ℕ) : Prop :=
  ∀ b, b.cp.length + n ≤ 65534 → ∃ a b', x b = .ok (a, b') ∧
    b'.cp.length ≤ b.cp.length + n ∧ b'.accessFlags = b.accessFlags

variable {s name desc klass : Bytes}

lemma addEntry_succeeds (tag : UInt8) (body : Bytes) :
    Succeeds (fun b => b.addEntry tag body) 1 := by
  intro b hroom
  have hlength : (b.cp ++ [(⟨tag, body⟩ : RawEntry)]).length = b.cp.length + 1 := by simp
  refine ⟨_, { b with cp := b.cp ++ [⟨tag, body⟩] }, if_neg ?_, ?_, rfl⟩
  · rw [hlength]
    omega
  · exact Nat.le_of_eq hlength

lemma utf8_succeeds (hs : s.length ≤ 65535) : Succeeds (fun b => b.utf8 s) 1 := by
  intro b hroom
  show ∃ a b', b.utf8 s = _ ∧ _
  rw [utf8]
  by_cases hfound : b.findUtf8 s ≠ 0
  · rw [if_pos hfound]
    exact ⟨_, b, rfl, Nat.le_succ _, rfl⟩
  · obtain ⟨i, b₁, hadd, hlength, hflags⟩ := addEntry_succeeds CP_Utf8
      (wr16 (UInt16.ofNat s.length) ++ s) b hroom
    simp only at hadd
    rw [if_neg hfound, if_neg (by omega), hadd]
    exact ⟨i, { b₁ with utf8Index := emplace b₁.utf8Index s i }, rfl, hlength, hflags⟩

lemma intern_succeeds {K : Type} [BEq K] (index : List (K × UInt16)) (key : K) (tag : UInt8)
    (body : Bytes) {b : Builder} (hroom : b.cp.length + 1 ≤ 65534) :
    ∃ i index' b', b.intern index key tag body = .ok (i, index', b') ∧
      b'.cp.length ≤ b.cp.length + 1 ∧ b'.accessFlags = b.accessFlags := by
  rw [intern]
  cases index.lookup key with
  | some i => exact ⟨i, index, b, rfl, Nat.le_succ _, rfl⟩
  | none =>
    obtain ⟨i, b₁, hadd, hlength, hflags⟩ := addEntry_succeeds tag body b hroom
    simp only at hadd
    simp only [hadd]
    exact ⟨i, _, b₁, rfl, hlength, hflags⟩

lemma classRef_succeeds (hname : name.length ≤ 65535) :
    Succeeds (fun b => b.classRef name) 2 := by
  intro b hroom
  obtain ⟨j, b₁, hutf8, hlength₁, hflags₁⟩ := utf8_succeeds hname b (by omega)
  obtain ⟨i, index, b₂, hintern, hlength₂, hflags₂⟩ := intern_succeeds b₁.classIndex j CP_Class
    (wr16 j) (b := b₁) (by omega)
  refine ⟨i, { b₂ with classIndex := index }, ?_, ?_, hflags₂.trans hflags₁⟩
  · simp only at hutf8
    simp only [classRef, hutf8]
    show (b₁.intern _ _ _ _).bind _ = _
    rw [hintern]
    rfl
  · show b₂.cp.length ≤ _
    omega

lemma nameAndType_succeeds (hname : name.length ≤ 65535) (hdesc : desc.length ≤ 65535) :
    Succeeds (fun b => b.nameAndType name desc) 3 := by
  intro b hroom
  obtain ⟨j, b₁, hname, hlength₁, hflags₁⟩ := utf8_succeeds hname b (by omega)
  obtain ⟨k, b₂, hdesc, hlength₂, hflags₂⟩ := utf8_succeeds hdesc b₁ (by omega)
  obtain ⟨i, index, b₃, hintern, hlength₃, hflags₃⟩ := intern_succeeds b₂.natIndex (natKey j k)
    CP_NameAndType (wr16 j ++ wr16 k) (b := b₂) (by omega)
  refine ⟨i, { b₃ with natIndex := index }, ?_, ?_, hflags₃.trans (hflags₂.trans hflags₁)⟩
  · simp only at hname hdesc
    simp only [nameAndType, hname]
    show (b₁.utf8 desc).bind _ = _
    rw [hdesc]
    show (b₂.intern _ _ _ _).bind _ = _
    rw [hintern]
    rfl
  · show b₃.cp.length ≤ _
    omega

lemma methodRef_succeeds (hklass : klass.length ≤ 65535) (hname : name.length ≤ 65535)
    (hdesc : desc.length ≤ 65535) : Succeeds (fun b => b.methodRef klass name desc) 6 := by
  intro b hroom
  obtain ⟨j, b₁, hclass, hlength₁, hflags₁⟩ := classRef_succeeds hklass b (by omega)
  obtain ⟨k, b₂, hnat, hlength₂, hflags₂⟩ := nameAndType_succeeds hname hdesc b₁ (by omega)
  obtain ⟨i, index, b₃, hintern, hlength₃, hflags₃⟩ := intern_succeeds b₂.refIndex
    (makeRefKey CP_Methodref j k) CP_Methodref (wr16 j ++ wr16 k) (b := b₂) (by omega)
  refine ⟨i, { b₃ with refIndex := index }, ?_, ?_, hflags₃.trans (hflags₂.trans hflags₁)⟩
  · simp only at hclass hnat
    simp only [methodRef, ref, hclass]
    show (b₁.nameAndType name desc).bind _ = _
    rw [hnat]
    show (b₂.intern _ _ _ _).bind _ = _
    rw [hintern]
    rfl
  · show b₃.cp.length ≤ _
    omega

lemma addNativeMethod_succeeds (hname : name.length ≤ 65535) (hdesc : desc.length ≤ 65535)
    (accessFlags : UInt16) {b : Builder} (hroom : b.cp.length + 2 ≤ 65534) :
    ∃ b', b.addNativeMethod name desc accessFlags = .ok b' ∧ b'.cp.length ≤ b.cp.length + 2 ∧
      b'.accessFlags = b.accessFlags := by
  obtain ⟨j, b₁, hname, hlength₁, hflags₁⟩ := utf8_succeeds hname b (by omega)
  obtain ⟨k, b₂, hdesc, hlength₂, hflags₂⟩ := utf8_succeeds hdesc b₁ (by omega)
  refine ⟨{ b₂ with methods := b₂.methods ++ [⟨accessFlags ||| ACC_NATIVE, j, k, []⟩] }, ?_, ?_,
    hflags₂.trans hflags₁⟩
  · simp only at hname hdesc
    rw [addNativeMethod, hname]
    show (b₁.utf8 desc).bind _ = _
    rw [hdesc]
    rfl
  · show b₂.cp.length ≤ _
    omega

lemma addCodedMethod_succeeds (hname : name.length ≤ 65535) (hdesc : desc.length ≤ 65535)
    (accessFlags : UInt16) (code : Bytes) (maxStack maxLocals : UInt16) {b : Builder}
    (hroom : b.cp.length + 3 ≤ 65534) :
    ∃ b', b.addCodedMethod name desc accessFlags code maxStack maxLocals = .ok b' ∧
      b'.cp.length ≤ b.cp.length + 3 ∧ b'.accessFlags = b.accessFlags := by
  obtain ⟨b₀, hcode, hlength₀, hflags₀⟩ : ∃ b₀, b.codeName = .ok b₀ ∧
      b₀.cp.length ≤ b.cp.length + 1 ∧ b₀.accessFlags = b.accessFlags := by
    rw [codeName]
    by_cases hzero : b.codeUtf8 = 0
    · obtain ⟨i, b₀, hutf8, hlength₀, hflags₀⟩ :=
        utf8_succeeds (s := ascii "Code") (by decide) b (by omega)
      simp only at hutf8
      rw [if_pos hzero, hutf8]
      exact ⟨{ b₀ with codeUtf8 := i }, rfl, hlength₀, hflags₀⟩
    · rw [if_neg hzero]
      exact ⟨b, rfl, Nat.le_succ _, rfl⟩
  obtain ⟨j, b₁, hname, hlength₁, hflags₁⟩ := utf8_succeeds hname b₀ (by omega)
  obtain ⟨k, b₂, hdesc, hlength₂, hflags₂⟩ := utf8_succeeds hdesc b₁ (by omega)
  simp only at hname hdesc
  rw [addCodedMethod, hcode]
  simp only [show ∀ f : Builder → Except Fault Builder, (Except.ok b₀ >>= f) = f b₀ from
    fun _ => rfl, hname]
  show ∃ b', (b₁.utf8 desc).bind _ = _ ∧ _
  rw [hdesc]
  refine ⟨_, rfl, ?_, hflags₂.trans (hflags₁.trans hflags₀)⟩
  show b₂.cp.length ≤ _
  omega

end Builder

/-! ## The classes -/

def ACC_STATIC : UInt16 := 0x0008

/-- A class that is defined in the game: what is passed to the builder, and the names and
descriptors that are passed to `RegisterNatives`. -/
structure GeneratedClass where
  superInternal : Bytes
  /-- Whether there is a constructor, which calls that of the superclass. -/
  constructor : Bool := true
  natives : List (Bytes × Bytes × UInt16)
  bindings : List (Bytes × Bytes)

/-- `aload_0`, `invokespecial` of the constructor of the superclass, `return` -/
def ctorCode (superInit : UInt16) : Bytes :=
  [0x2A, 0xB7, (superInit >>> 8 &&& 0xFF).toUInt8, (superInit &&& 0xFF).toUInt8, 0xB1]

namespace GeneratedClass

/-- The methods that are added. -/
def calls (c : GeneratedClass) (superInit : UInt16) : List Call :=
  (if c.constructor then
    [.addCodedMethod (ascii "<init>") (ascii "()V") ACC_PUBLIC (ctorCode superInit) 1 1]
  else []) ++ c.natives.map fun n => .addNativeMethod n.1 n.2.1 n.2.2

/-- The reference to the constructor of the superclass, if it is needed. -/
def superInit (c : GeneratedClass) (b : Builder) : Except Fault (UInt16 × Builder) :=
  if c.constructor then b.methodRef c.superInternal (ascii "<init>") (ascii "()V") else .ok (0, b)

/-- How the class is put together. -/
def build (c : GeneratedClass) (internal : Bytes) : Except Fault (Bytes × Builder) := do
  let (superInit, b) ← c.superInit (Builder.new internal c.superInternal 52)
  let (_, b) ← runCalls b (c.calls superInit)
  b.build

end GeneratedClass

/-- A native method that is called on an object. -/
def instanceNative (name desc : String) : Bytes × Bytes × UInt16 :=
  (ascii name, ascii desc, ACC_PUBLIC ||| ACC_NATIVE)

def binding (name desc : String) : Bytes × Bytes := (ascii name, ascii desc)

/-- `InstallHookBridge` -/
def hookBridgeClass : GeneratedClass where
  superInternal := ascii "java/lang/Object"
  constructor := false
  natives := [
    (ascii "trace", ascii "(Ljava/lang/String;)V", ACC_PUBLIC ||| ACC_STATIC ||| ACC_NATIVE),
    (ascii "onChannelActive", ascii "(Ljava/lang/Object;Ljava/lang/Object;)V",
      ACC_PUBLIC ||| ACC_STATIC ||| ACC_NATIVE)]
  bindings := [binding "trace" "(Ljava/lang/String;)V",
    binding "onChannelActive" "(Ljava/lang/Object;Ljava/lang/Object;)V"]

def kChannelReadDesc : String := "(Lio/netty/channel/ChannelHandlerContext;Ljava/lang/Object;)V"
def kWriteDesc : String := "(Lio/netty/channel/ChannelHandlerContext;Ljava/lang/Object;" ++
  "Lio/netty/channel/ChannelPromise;)V"
def kInitChannelDesc : String := "(Lio/netty/channel/Channel;)V"
def kChannelContextDesc : String := "(Lio/netty/channel/ChannelHandlerContext;)V"

/-- `defineRelayClass` -/
def relayClass : GeneratedClass where
  superInternal := ascii "io/netty/channel/ChannelDuplexHandler"
  natives := [instanceNative "channelRead" kChannelReadDesc, instanceNative "write" kWriteDesc]
  bindings := [binding "channelRead" kChannelReadDesc, binding "write" kWriteDesc]

/-- `defineInitClass` -/
def initClass : GeneratedClass where
  superInternal := ascii "io/netty/channel/ChannelInitializer"
  natives := [instanceNative "initChannel" kInitChannelDesc]
  bindings := [binding "initChannel" kInitChannelDesc]

/-- `defineHandlerClass` -/
def handlerClass : GeneratedClass where
  superInternal := ascii "io/netty/channel/ChannelInboundHandlerAdapter"
  natives := [instanceNative "channelActive" kChannelContextDesc,
    instanceNative "channelInactive" kChannelContextDesc,
    instanceNative "channelRead" kChannelReadDesc]
  bindings := [binding "channelActive" kChannelContextDesc,
    binding "channelInactive" kChannelContextDesc, binding "channelRead" kChannelReadDesc]

/-- `defineMainGateClass` -/
def mainGateClass : GeneratedClass where
  superInternal := ascii "java/lang/Thread"
  natives := [instanceNative "run" "()V"]
  bindings := [binding "run" "()V"]

/-- `InstallWorldSnapshot` -/
def snapshotTaskClass : GeneratedClass where
  superInternal := ascii "java/lang/Thread"
  natives := [instanceNative "run" "()V"]
  bindings := [binding "run" "()V"]

def generatedClasses : List GeneratedClass :=
  [hookBridgeClass, relayClass, initClass, handlerClass, mainGateClass, snapshotTaskClass]

/-! ## What the JVM reads -/

namespace GeneratedClass

/-- The class can be built: it is small, its native methods are registered, and nothing else is. -/
structure Sound (c : GeneratedClass) : Prop where
  short : c.superInternal.length ≤ 65535
  shortNatives : ∀ n ∈ c.natives, n.1.length ≤ 65535 ∧ n.2.1.length ≤ 65535
  few : c.natives.length ≤ 100
  bound : c.bindings = c.natives.map fun n => (n.1, n.2.1)

/-- The methods that the class declares. -/
def declared (c : GeneratedClass) (superInit : UInt16) : List Declared :=
  (if c.constructor then
    [⟨ascii "<init>", ascii "()V", ACC_PUBLIC, some ⟨1, 1, ctorCode superInit, [], []⟩⟩]
  else []) ++ c.natives.map fun n => ⟨n.1, n.2.1, n.2.2 ||| ACC_NATIVE, none⟩

/-- The class file is one that the JVM links: it has the two names, its constructor runs that of
the superclass, every function that is registered has its native method, and every native method is
registered. -/
structure ReadAs (c : GeneratedClass) (internal : Bytes) (ed : Editor) : Prop where
  thisName : ed.thisName = internal
  thisClass : ClassAt ed.cp ed.thisClass internal
  superClass : ClassAt ed.cp ed.superClass c.superInternal
  version : ed.minorVersion = 0 ∧ ed.majorVersion = 52
  accessFlags : ed.accessFlags = ACC_PUBLIC ||| ACC_SUPER
  interfaces : ed.interfaces = []
  constructs : c.constructor = true → ∃ m ∈ ed.methods, Utf8At ed.cp m.nameIndex (ascii "<init>") ∧
    Utf8At ed.cp m.descriptorIndex (ascii "()V") ∧ ∃ i info body x y,
      readAttributes m.attributesRaw = .ok ([(i, info)], []) ∧ Utf8At ed.cp i (ascii "Code") ∧
      readCode info = .ok (body, []) ∧
      decode 0 body.code = .ok [.plain 0x2A [], .plain 0xB7 [x, y], .plain 0xB1 []] ∧
      RefAt CP_Methodref ed.cp (be16 x y) c.superInternal (ascii "<init>") (ascii "()V")
  bound : ∀ n ∈ c.bindings, ∃ m ∈ ed.methods, m.accessFlags &&& ACC_NATIVE = ACC_NATIVE ∧
    Utf8At ed.cp m.nameIndex n.1 ∧ Utf8At ed.cp m.descriptorIndex n.2
  registered : ∀ m ∈ ed.methods, m.accessFlags &&& ACC_NATIVE = ACC_NATIVE → ∃ n ∈ c.bindings,
    Utf8At ed.cp m.nameIndex n.1 ∧ Utf8At ed.cp m.descriptorIndex n.2

variable {c : GeneratedClass} {internal : Bytes} {i : UInt16} {ns : List (Bytes × Bytes × UInt16)}

lemma calls_declares : (c.calls i).filterMap Call.declares = c.declared i := by
  have hnatives : (c.natives.map fun n => Call.addNativeMethod n.1 n.2.1 n.2.2).filterMap
      Call.declares = c.natives.map fun n => ⟨n.1, n.2.1, n.2.2 ||| ACC_NATIVE, none⟩ := by
    rw [List.filterMap_map]
    exact congrFun (@List.filterMap_eq_map _ _ fun n : Bytes × Bytes × UInt16 =>
      (⟨n.1, n.2.1, n.2.2 ||| ACC_NATIVE, none⟩ : Declared)) c.natives
  rw [calls, declared, List.filterMap_append, hnatives]
  cases c.constructor with
  | false => rfl
  | true => rfl

lemma ctorCode_eq (i : UInt16) :
    ctorCode i = ([0x2A, 0xB7, (i >>> 8).toUInt8, (i &&& 0xFF).toUInt8, 0xB1] : Bytes) := by
  have hhigh : (i >>> 8 &&& 0xFF).toUInt8 = (i >>> 8).toUInt8 := by
    apply UInt8.toNat_inj.mp
    rw [UInt16.toNat_toUInt8, UInt16.toNat_toUInt8, UInt16.toNat_and]
    change ((i >>> 8).toNat &&& (2 ^ 8 - 1)) % 256 = _
    rw [Nat.and_two_pow_sub_one_eq_mod, Nat.mod_mod]
  rw [ctorCode, hhigh]

/-- The constructor names the constant that it was given. -/
lemma ctorCode_decode (i : UInt16) : ∃ x y, be16 x y = i ∧
    decode 0 (ctorCode i) = .ok [.plain 0x2A [], .plain 0xB7 [x, y], .plain 0xB1 []] := by
  rw [ctorCode_eq]
  exact ⟨_, _, be16_wr16 i, rfl⟩

lemma runCalls_natives (hn : ∀ n ∈ ns, n.1.length ≤ 65535 ∧ n.2.1.length ≤ 65535) {b : Builder}
    (hroom : b.cp.length + 2 * ns.length ≤ 65534) :
    ∃ idxs b', runCalls b (ns.map fun n => .addNativeMethod n.1 n.2.1 n.2.2) = .ok (idxs, b') ∧
      b'.cp.length ≤ b.cp.length + 2 * ns.length ∧ b'.accessFlags = b.accessFlags := by
  induction ns generalizing b with
  | nil => exact ⟨[], b, rfl, Nat.le_refl _, rfl⟩
  | cons n ns ih =>
    obtain ⟨hname, hdesc⟩ := hn n List.mem_cons_self
    rw [List.length_cons] at hroom ⊢
    obtain ⟨b₁, hadd, hlength₁, hflags₁⟩ :=
      Builder.addNativeMethod_succeeds hname hdesc n.2.2 (b := b) (by omega)
    obtain ⟨idxs, b₂, hrest, hlength₂, hflags₂⟩ :=
      ih (fun n' hn' => hn n' (List.mem_cons_of_mem n hn')) (b := b₁) (by omega)
    refine ⟨none :: idxs, b₂, ?_, by omega, hflags₂.trans hflags₁⟩
    rw [List.map_cons, runCalls, Call.run, hadd]
    show (runCalls b₁ _).bind _ = _
    rw [hrest]
    rfl

lemma shortInit : (ascii "<init>").length ≤ 65535 ∧ (ascii "()V").length ≤ 65535 := by decide

/-- All methods are added. -/
lemma runCalls_calls (hc : c.Sound) (i : UInt16) {b : Builder} (hroom : b.cp.length ≤ 6) :
    ∃ idxs b', runCalls b (c.calls i) = .ok (idxs, b') ∧ b'.cp.length ≤ 209 ∧
      b'.accessFlags = b.accessFlags := by
  have hfew := hc.few
  rw [calls]
  cases c.constructor with
  | false =>
    obtain ⟨idxs, b', hrun, hlength, hflags⟩ := runCalls_natives hc.shortNatives (b := b) (by omega)
    exact ⟨idxs, b', hrun, by omega, hflags⟩
  | true =>
    obtain ⟨b₁, hadd, hlength₁, hflags₁⟩ := Builder.addCodedMethod_succeeds shortInit.1 shortInit.2
      ACC_PUBLIC (ctorCode i) 1 1 (b := b) (by omega)
    obtain ⟨idxs, b₂, hrun, hlength₂, hflags₂⟩ :=
      runCalls_natives hc.shortNatives (b := b₁) (by omega)
    refine ⟨none :: idxs, b₂, ?_, by omega, hflags₂.trans hflags₁⟩
    rw [if_pos rfl, List.singleton_append, runCalls, Call.run, hadd]
    show (runCalls b₁ _).bind _ = _
    rw [hrun]
    rfl

lemma build_succeeds {b : Builder} (hthis : b.thisInternal.length ≤ 65535)
    (hsuper : b.superInternal.length ≤ 65535) (hb : b.Sound) (hroom : b.cp.length ≤ 209) :
    ∃ bytes b', b.build = .ok (bytes, b') ∧ b'.accessFlags = b.accessFlags := by
  obtain ⟨j, b₁, hclass, hlength₁, hflags₁⟩ := Builder.classRef_succeeds hthis b (by omega)
  have hsame : b₁.superInternal = b.superInternal :=
    (Builder.classRef_ok hb hclass).2.1.superInternal
  obtain ⟨k, b₂, hclass', hlength₂, hflags₂⟩ := Builder.classRef_succeeds hsuper b₁ (by omega)
  simp only at hclass hclass'
  refine ⟨b₂.write j k, b₂, ?_, hflags₂.trans hflags₁⟩
  rw [Builder.build, hclass]
  show (b₁.classRef b₁.superInternal).bind _ = _
  rw [hsame, hclass']
  rfl

/-- The constant that the constructor needs. -/
lemma superInit_ok (hc : c.Sound) (internal : Bytes) : ∃ i b,
    c.superInit (Builder.new internal c.superInternal 52) = .ok (i, b) ∧
      (Builder.new internal c.superInternal 52).Grows b ∧ b.Holds [] ∧ b.cp.length ≤ 6 ∧
      b.accessFlags = ACC_PUBLIC ||| ACC_SUPER ∧
      (c.constructor = true → RefAt CP_Methodref b.slots i c.superInternal (ascii "<init>")
        (ascii "()V")) := by
  have hnew : (Builder.new internal c.superInternal 52).Holds [] :=
    ⟨Builder.sound_new internal c.superInternal 52, .nil, .inl rfl⟩
  rw [superInit]
  cases c.constructor with
  | false => exact ⟨0, _, rfl, Builder.Grows.refl _, hnew, Nat.zero_le _, rfl,
      fun h => absurd h Bool.false_ne_true⟩
  | true =>
    obtain ⟨i, b, href, hlength, hflags⟩ :=
      Builder.methodRef_succeeds hc.short shortInit.1 shortInit.2
        (Builder.new internal c.superInternal 52) (show 0 + 6 ≤ 65534 by decide)
    obtain ⟨hb, hgrows, hi⟩ := Builder.ref_ok hnew.toSound (.inl rfl) href
    exact ⟨i, b, href, hgrows.toGrows, hnew.grow hb hgrows, hlength, hflags, fun _ => hi⟩

lemma or_and_self (flags : UInt16) : (flags ||| ACC_NATIVE) &&& ACC_NATIVE = ACC_NATIVE := by
  apply UInt16.toNat_inj.mp
  rw [UInt16.toNat_and, UInt16.toNat_or]
  apply Nat.eq_of_testBit_eq
  intro k
  rw [Nat.testBit_and, Nat.testBit_or]
  cases ACC_NATIVE.toNat.testBit k <;> simp

/-- What is read of the methods. -/
lemma readAs_methods (hc : c.Sound) {ed : Editor}
    (hinit : c.constructor = true → RefAt CP_Methodref ed.cp i c.superInternal (ascii "<init>")
      (ascii "()V"))
    (hmethods : List.Forall₂ (Declared.ReadAs ed.cp) (c.declared i) ed.methods) :
    (c.constructor = true → ∃ m ∈ ed.methods, Utf8At ed.cp m.nameIndex (ascii "<init>") ∧
      Utf8At ed.cp m.descriptorIndex (ascii "()V") ∧ ∃ i info body x y,
        readAttributes m.attributesRaw = .ok ([(i, info)], []) ∧ Utf8At ed.cp i (ascii "Code") ∧
        readCode info = .ok (body, []) ∧
        decode 0 body.code = .ok [.plain 0x2A [], .plain 0xB7 [x, y], .plain 0xB1 []] ∧
        RefAt CP_Methodref ed.cp (be16 x y) c.superInternal (ascii "<init>") (ascii "()V")) ∧
    (∀ n ∈ c.bindings, ∃ m ∈ ed.methods, m.accessFlags &&& ACC_NATIVE = ACC_NATIVE ∧
      Utf8At ed.cp m.nameIndex n.1 ∧ Utf8At ed.cp m.descriptorIndex n.2) ∧
    ∀ m ∈ ed.methods, m.accessFlags &&& ACC_NATIVE = ACC_NATIVE → ∃ n ∈ c.bindings,
      Utf8At ed.cp m.nameIndex n.1 ∧ Utf8At ed.cp m.descriptorIndex n.2 := by
  have hbindings : ∀ n : Bytes × Bytes, n ∈ c.bindings ↔ ∃ a ∈ c.natives, (a.1, a.2.1) = n := by
    intro n
    rw [hc.bound, List.mem_map]
  have hnative : ∀ a ∈ c.natives, (⟨a.1, a.2.1, a.2.2 ||| ACC_NATIVE, none⟩ : Declared) ∈
      c.declared i :=
    fun a ha => List.mem_append_right _ (List.mem_map.mpr ⟨a, ha, rfl⟩)
  refine ⟨fun hctor => ?_, fun n hn => ?_, fun m hm hflag => ?_⟩
  · have hmem : (⟨ascii "<init>", ascii "()V", ACC_PUBLIC,
        some ⟨1, 1, ctorCode i, [], []⟩⟩ : Declared) ∈ c.declared i := by
      rw [declared, if_pos hctor]
      exact List.mem_append_left _ List.mem_cons_self
    obtain ⟨m, hm, hread⟩ := exists_of_forall₂ hmethods.flip hmem
    obtain ⟨j, info, hattributes, hcode, hbody⟩ := hread.coded _ rfl
    obtain ⟨x, y, hxy, hdecode⟩ := ctorCode_decode i
    exact ⟨m, hm, hread.name, hread.descriptor, j, info, _, x, y, hattributes, hcode, hbody,
      hdecode, hxy ▸ hinit hctor⟩
  · obtain ⟨a, ha, rfl⟩ := (hbindings n).mp hn
    obtain ⟨m, hm, hread⟩ := exists_of_forall₂ hmethods.flip (hnative a ha)
    refine ⟨m, hm, ?_, hread.name, hread.descriptor⟩
    rw [hread.accessFlags]
    exact or_and_self a.2.2
  · obtain ⟨d, hd, hread⟩ := exists_of_forall₂ hmethods hm
    rcases List.mem_append.mp hd with hd | hd
    · -- the constructor is not native
      split at hd
      · obtain rfl := List.mem_singleton.mp hd
        have hnot : ¬ ACC_PUBLIC &&& ACC_NATIVE = ACC_NATIVE := by decide
        exact absurd ((congrArg (· &&& ACC_NATIVE) hread.accessFlags).symm.trans hflag) hnot
      · cases hd
    · obtain ⟨a, ha, rfl⟩ := List.mem_map.mp hd
      exact ⟨(a.1, a.2.1), (hbindings _).mpr ⟨a, ha, rfl⟩, hread.name, hread.descriptor⟩

/-- The class can be built under every name that is not too long. -/
lemma exists_build (hc : c.Sound) {internal : Bytes} (hinternal : internal.length ≤ 65535) :
    ∃ bytes b ed, c.build internal = .ok (bytes, b) ∧ parse bytes = .ok ed ∧
      c.ReadAs internal ed := by
  obtain ⟨i, b₁, hinit, hgrows₁, hb₁, hlength₁, hflags₁, href⟩ := superInit_ok hc internal
  obtain ⟨idxs, b₂, hcalls, hlength₂, hflags₂⟩ := runCalls_calls hc i hlength₁
  obtain ⟨hgrows₂, hb₂, -⟩ := runCalls_ok hb₁ hcalls
  rw [List.nil_append, calls_declares] at hb₂
  have hgrows := hgrows₁.trans hgrows₂
  have hthisName : b₂.thisInternal = internal := hgrows.thisInternal
  have hsuperName : b₂.superInternal = c.superInternal := hgrows.superInternal
  obtain ⟨bytes, b₃, hbuild, hflags₃⟩ := build_succeeds (hthisName ▸ hinternal)
    (hsuperName ▸ hc.short) hb₂.toSound hlength₂
  obtain ⟨hb₃, hgrows₃, thisClass, superClass, hthis, hsuper, rfl⟩ :=
    build_ok hb₂.toSound hbuild
  rw [hthisName] at hthis
  rw [hsuperName] at hsuper
  have hclass := hthis.classAt hb₃
  have hfew := hc.few
  have hmethods : (c.declared i).length ≤ 65535 := by
    rw [declared, List.length_append, List.length_map]
    split <;> simp <;> omega
  have hfits : ∀ d ∈ c.declared i, d.Fits := by
    intro d hd body hbody
    rcases List.mem_append.mp hd with hd | hd
    · split at hd
      · obtain rfl := List.mem_singleton.mp hd
        cases hbody
        show 17 < 4294967296
        decide
      · cases hd
    · obtain ⟨a, -, rfl⟩ := List.mem_map.mp hd
      cases hbody
  obtain ⟨L, hencode, hpool, hminor, hmajor, hflags, hthis', hsuper', hinterfaces, -, hreads⟩ :=
    exists_layout (hb₂.grow hb₃ hgrows₃) hmethods hfits hclass superClass
  obtain ⟨thisName, hread, hparse⟩ := parse_encode L
  rw [hpool, hthis', readThisName_of_classAt hclass] at hread
  obtain rfl := Except.ok.inj hread
  have hcp : (L.editor internal).cp = b₃.slots := hpool
  rw [← hcp] at hreads
  obtain ⟨hconstructs, hbound, hregistered⟩ := readAs_methods hc (by
    rw [hcp]
    exact fun h => (href h).mono (hgrows₂.slots.trans hgrows₃.slots)) hreads
  refine ⟨L.encode, b₃, L.editor internal, ?_, hparse,
    ⟨rfl, ?_, ?_, ⟨hminor, ?_⟩, ?_, hinterfaces, hconstructs, hbound, hregistered⟩⟩
  · rw [GeneratedClass.build, hinit]
    show (runCalls b₁ (c.calls i)).bind _ = _
    rw [hcalls, hencode]
    exact hbuild
  · change ClassAt (L.editor internal).cp L.thisClass _
    rw [hcp, hthis']
    exact hclass
  · change ClassAt (L.editor internal).cp L.superClass _
    rw [hcp, hsuper']
    exact hsuper.classAt hb₃
  · exact hmajor.trans (hgrows₃.majorVersion.trans hgrows.majorVersion)
  · exact hflags.trans (hflags₃.trans (hflags₂.trans hflags₁))

end GeneratedClass

lemma generatedClasses_sound : ∀ c ∈ generatedClasses, c.Sound := by
  have hall : generatedClasses.all (fun c => decide (c.superInternal.length ≤ 65535) &&
      c.natives.all (fun n => decide (n.1.length ≤ 65535) && decide (n.2.1.length ≤ 65535)) &&
      decide (c.natives.length ≤ 100) && c.bindings == c.natives.map fun n => (n.1, n.2.1)) =
        true := by decide +kernel
  intro c hc
  have hsound := List.all_eq_true.mp hall c hc
  simp only [Bool.and_eq_true, decide_eq_true_eq, List.all_eq_true, beq_iff_eq] at hsound
  obtain ⟨⟨⟨hshort, hnatives⟩, hfew⟩, hbound⟩ := hsound
  exact ⟨hshort, hnatives, hfew, hbound⟩

/-- Whatever the generators draw, each of the six classes is built, under a legal name, and the
class file is one whose constructor runs that of the superclass and whose native methods are just
those for which a function is registered. -/
theorem generatedClass_readAs {c : GeneratedClass} (hc : c ∈ generatedClasses)
    (package name : Rng) : LegalName (generatedName package name) ∧
      ∃ bytes b ed, c.build (generatedName package name) = .ok (bytes, b) ∧
        parse bytes = .ok ed ∧ c.ReadAs (generatedName package name) ed := by
  obtain ⟨hlegal, hlength⟩ := generatedName_legal package name
  exact ⟨hlegal, GeneratedClass.exists_build (generatedClasses_sound c hc) (by omega)⟩

theorem generatedClass_readAs_sample :
    generatedName (fun _ => 0) (fun _ => 1) = ascii "aurora/CompassCompassCompass" ∧
      ∃ bytes b ed, relayClass.build (generatedName (fun _ => 0) fun _ => 1) = .ok (bytes, b) ∧
        parse bytes = .ok ed ∧
        relayClass.ReadAs (generatedName (fun _ => 0) fun _ => 1) ed :=
  ⟨by decide, (generatedClass_readAs (List.mem_cons_of_mem _ List.mem_cons_self) _ _).2⟩

end ClassFile
end SakuraTools
