import Mathlib.Data.List.Infix
import SakuraTools.Loader.Image

/-!
# Exported functions

`GetReflectiveLoaderOffset` and `LoadRemoteLibraryR` of `injector/LoadLibraryR.c`, which look for
the loader in the file, and `GetProcAddressR` of `injector/GetProcAddressR.c`, which looks for a
function in an image.
-/

namespace SakuraTools
namespace Loader

/-! ## Strings -/

/-- The string at an address, with a zero behind it. -/
def StringAt (m : Memory) : ℕ → List UInt8 → Prop
  | a, [] => m a = 0
  | a, c :: s => c ≠ 0 ∧ m a = c ∧ StringAt m (a + 1) s

/-- `strcmp(a, s) == 0` -/
def sameString (m : Memory) : ℕ → List UInt8 → Bool
  | a, [] => m a == 0
  | a, c :: s => m a == c && sameString m (a + 1) s

def startsWith (m : Memory) : ℕ → List UInt8 → Bool
  | _, [] => true
  | a, c :: s => m a == c && startsWith m (a + 1) s

/-- `strstr(a, needle) != NULL`, in a string that ends within `limit` bytes. -/
def strstr (m : Memory) (needle : List UInt8) : ℕ → ℕ → Option Bool
  | 0, _ => none
  | limit + 1, a =>
    if startsWith m a needle then some true
    else if m a = 0 then some false
    else strstr m needle limit (a + 1)

section Strings

variable {m : Memory} {a : ℕ} {s t : List UInt8}

lemma StringAt.congr (h : StringAt m a s) {m' : Memory} {a' : ℕ}
    (hsame : ∀ i < s.length + 1, m' (a' + i) = m (a + i)) : StringAt m' a' s := by
  induction s generalizing a a' with
  | nil => exact (hsame 0 Nat.one_pos).trans h
  | cons c s ih =>
    obtain ⟨hc, hbyte, hrest⟩ := h
    refine ⟨hc, (hsame 0 (Nat.succ_pos _)).trans hbyte, ih hrest fun i hi => ?_⟩
    have := hsame (i + 1) (Nat.succ_lt_succ hi)
    rwa [show a' + 1 + i = a' + (i + 1) by omega, show a + 1 + i = a + (i + 1) by omega]

lemma StringAt.ne_zero (h : StringAt m a t) : 0 ∉ t := by
  induction t generalizing a with
  | nil => exact List.not_mem_nil
  | cons c t ih =>
    obtain ⟨hc, -, hrest⟩ := h
    rw [List.mem_cons, not_or]
    exact ⟨Ne.symm hc, ih hrest⟩

lemma sameString_eq (h : StringAt m a t) (hs : 0 ∉ s) : sameString m a s = decide (t = s) := by
  induction t generalizing a s with
  | nil =>
    cases s with
    | nil => simp [sameString, show m a = 0 from h]
    | cons c s =>
      have hc : (0 : UInt8) ≠ c := fun heq => hs (heq ▸ List.mem_cons_self)
      simp [sameString, show m a = 0 from h, hc]
  | cons d t ih =>
    obtain ⟨hd, hbyte, hrest⟩ := h
    cases s with
    | nil => simp [sameString, hbyte, hd]
    | cons c s =>
      have hs' : 0 ∉ s := fun hmem => hs (List.mem_cons_of_mem c hmem)
      rw [sameString, hbyte, ih hrest hs', show (d == c) = decide (d = c) from rfl,
        ← Bool.decide_and, decide_eq_decide, List.cons.injEq]

lemma stringAt_of_sameString (h : sameString m a s = true) (hs : 0 ∉ s) : StringAt m a s := by
  induction s generalizing a with
  | nil => exact beq_iff_eq.mp h
  | cons c s ih =>
    obtain ⟨hbyte, hrest⟩ := Bool.and_eq_true_iff.mp h
    rw [List.mem_cons, not_or] at hs
    exact ⟨Ne.symm hs.1, beq_iff_eq.mp hbyte, ih hrest hs.2⟩

lemma startsWith_eq (h : StringAt m a t) (hs : 0 ∉ s) : startsWith m a s = decide (s <+: t) := by
  induction s generalizing a t with
  | nil => simp [startsWith]
  | cons c s ih =>
    have hc : (0 : UInt8) ≠ c := fun heq => hs (heq ▸ List.mem_cons_self)
    cases t with
    | nil => simp [startsWith, show m a = 0 from h, hc]
    | cons d t =>
      obtain ⟨-, hbyte, hrest⟩ := h
      have hs' : 0 ∉ s := fun hmem => hs (List.mem_cons_of_mem c hmem)
      rw [startsWith, hbyte, ih hrest hs', show (d == c) = decide (d = c) from rfl,
        ← Bool.decide_and, decide_eq_decide, List.cons_prefix_cons, eq_comm]

lemma strstr_eq (h : StringAt m a t) (hs : 0 ∉ s) (hne : s ≠ []) {limit : ℕ}
    (hlimit : t.length < limit) : strstr m s limit a = some (decide (s <:+: t)) := by
  induction t generalizing a limit with
  | nil =>
    obtain ⟨limit, rfl⟩ := Nat.exists_eq_add_of_lt hlimit
    simp [strstr, startsWith_eq h hs, show m a = 0 from h, hne]
  | cons d t ih =>
    obtain ⟨hd, hbyte, hrest⟩ := h
    obtain ⟨limit, rfl⟩ : ∃ l, limit = l + 1 := ⟨limit - 1, by simp at hlimit; omega⟩
    have hstarts := startsWith_eq (show StringAt m a (d :: t) from ⟨hd, hbyte, hrest⟩) hs
    rw [strstr, hstarts]
    by_cases hprefix : s <+: d :: t
    · rw [if_pos (by simpa using hprefix), decide_eq_true hprefix.isInfix]
    · have hzero : m a ≠ 0 := hbyte ▸ hd
      have hiff : s <:+: d :: t ↔ s <:+: t := by
        rw [List.infix_cons_iff, or_iff_right hprefix]
      rw [if_neg (by simpa using hprefix), if_neg hzero, ih hrest (by simpa using hlimit),
        decide_eq_decide.mpr hiff]

end Strings

/-! ## The export directory -/

section Directory

variable (m : Memory) (dir : ℕ)

/-- The fields of the `IMAGE_EXPORT_DIRECTORY` at `dir`. -/
def Base : ℕ := m.read (dir + 16) 4
def NumberOfFunctions : ℕ := m.read (dir + 20) 4
def NumberOfNames : ℕ := m.read (dir + 24) 4
def AddressOfFunctions : ℕ := m.read (dir + 28) 4
def AddressOfNames : ℕ := m.read (dir + 32) 4
def AddressOfNameOrdinals : ℕ := m.read (dir + 36) 4

/-- The loop over the names: `test` sees where a name is, and `found` gets the index of its
function. -/
def findExport (test : ℕ → Option Bool) (found : ℕ → ℕ) : ℕ → ℕ → ℕ → Option (Option ℕ)
  | 0, _, _ => some none
  | counter + 1, names, ordinals =>
    match test (m.read names 4) with
    | none => none
    | some true => some (some (found (m.read ordinals 2)))
    | some false => findExport test found counter (names + 4) (ordinals + 2)

end Directory

/-- "ReflectiveLoader" -/
def reflectiveLoaderName : List UInt8 :=
  [82, 101, 102, 108, 101, 99, 116, 105, 118, 101, 76, 111, 97, 100, 101, 114]

/-- `GetReflectiveLoaderOffset`, in a memory where strings end within `limit` bytes. -/
def GetReflectiveLoaderOffset (limit : ℕ) (m : Memory) (base : ℕ) : Option ℕ :=
  -- a 32-bit file has 0x010B
  if Magic m (ntHeaders m base) ≠ 0x020B then some 0
  else
    let rva := directoryRva m (ntHeaders m base) IMAGE_DIRECTORY_ENTRY_EXPORT
    let dir := base + Rva2Offset m rva base
    let names := base + Rva2Offset m (AddressOfNames m dir) base
    let ordinals := base + Rva2Offset m (AddressOfNameOrdinals m dir) base
    let test := fun rva => strstr m reflectiveLoaderName limit (base + Rva2Offset m rva base)
    let found := fun ordinal =>
      let functions := base + Rva2Offset m (AddressOfFunctions m dir) base
      Rva2Offset m (m.read (functions + ordinal * 4) 4) base
    (findExport m test found (NumberOfNames m dir) names ordinals).map fun r => r.getD 0

/-- `lpProcName`, which is a number or a string. -/
inductive ProcName where
  | ordinal (n : ℕ)
  | name (s : List UInt8)

/-- The function with a number in the image at `lib`. -/
def functionByOrdinal (m : Memory) (lib n : ℕ) : ℕ :=
  let dir := lib + directoryRva m (ntHeaders m lib) IMAGE_DIRECTORY_ENTRY_EXPORT
  let functions := lib + AddressOfFunctions m dir
  -- the difference is one of 64-bit numbers
  let index := (n % 65536 + (18446744073709551616 - Base m dir)) % 18446744073709551616
  lib + m.read ((functions + index * 4) % 18446744073709551616) 4

/-- `GetProcAddressR` -/
def GetProcAddressR (m : Memory) (hModule : ℕ) (proc : ProcName) : ℕ :=
  if hModule = 0 then 0
  else
    let dir := hModule + directoryRva m (ntHeaders m hModule) IMAGE_DIRECTORY_ENTRY_EXPORT
    let functions := hModule + AddressOfFunctions m dir
    match proc with
    | .ordinal n => functionByOrdinal m hModule n
    | .name s =>
      let test := fun rva => some (sameString m (hModule + rva) s)
      let found := fun ordinal => hModule + m.read (functions + ordinal * 4) 4
      ((findExport m test found (NumberOfNames m dir) (hModule + AddressOfNames m dir)
        (hModule + AddressOfNameOrdinals m dir)).bind id).getD 0

/-- What Windows answers to `LoadRemoteLibraryR`. -/
structure RemoteAnswers where
  allocated : Option ℕ
  written : Bool
  created : Bool

/-- `LoadRemoteLibraryR`: where the remote thread starts, if there is one. -/
def LoadRemoteLibraryR (limit : ℕ) (m : Memory) (hProcess lpBuffer dwLength : ℕ)
    (answers : RemoteAnswers) : Option (Option ℕ) :=
  if hProcess = 0 ∨ lpBuffer = 0 ∨ dwLength = 0 then some none
  else
    match GetReflectiveLoaderOffset limit m lpBuffer with
    | none => none
    | some offset =>
      if offset = 0 then some none
      else
        match answers.allocated with
        | none => some none
        | some remote =>
          if answers.written && answers.created then some (some (remote + offset)) else some none

/-! ## The exports of a file -/

structure Export where
  name : List UInt8
  rva : ℕ
deriving DecidableEq, Repr

section Exports

variable (m : Memory) (lib : ℕ)

def exportDirectory : ℕ :=
  lib + Rva2Offset m (directoryRva m (ntHeaders m lib) IMAGE_DIRECTORY_ENTRY_EXPORT) lib

/-- Where the name with an index is in the image, and the index of its function. -/
def nameRva (i : ℕ) : ℕ :=
  m.read (lib + Rva2Offset m (AddressOfNames m (exportDirectory m lib)) lib + 4 * i) 4
def nameOrdinal (i : ℕ) : ℕ :=
  m.read (lib + Rva2Offset m (AddressOfNameOrdinals m (exportDirectory m lib)) lib + 2 * i) 2

structure ExportAt (i : ℕ) (e : Export) : Prop where
  name : Raw m lib (nameRva m lib i) (e.name.length + 1)
  string : StringAt m (lib + Rva2Offset m (nameRva m lib i) lib) e.name
  ordinal : nameOrdinal m lib i < NumberOfFunctions m (exportDirectory m lib)
  rva : m.read (lib + Rva2Offset m (AddressOfFunctions m (exportDirectory m lib)) lib +
    nameOrdinal m lib i * 4) 4 = e.rva

/-- The file exports these functions under names in this order, and its tables are raw data. -/
structure Exports (es : List Export) : Prop where
  directory : Raw m lib (directoryRva m (ntHeaders m lib) IMAGE_DIRECTORY_ENTRY_EXPORT) 40
  count : NumberOfNames m (exportDirectory m lib) = es.length
  names : Raw m lib (AddressOfNames m (exportDirectory m lib)) (4 * es.length)
  ordinals : Raw m lib (AddressOfNameOrdinals m (exportDirectory m lib)) (2 * es.length)
  functions : Raw m lib (AddressOfFunctions m (exportDirectory m lib))
    (4 * NumberOfFunctions m (exportDirectory m lib))
  entry : ∀ i e, es[i]? = some e → ExportAt m lib i e

end Exports

/-- Where the export directory of an image is. -/
def imageDirectory (m : Memory) (base : ℕ) : ℕ :=
  base + directoryRva m (ntHeaders m base) IMAGE_DIRECTORY_ENTRY_EXPORT

/-- The image at `base` exports these functions under names in this order. -/
structure ImageExports (m : Memory) (base : ℕ) (es : List Export) : Prop where
  count : NumberOfNames m (imageDirectory m base) = es.length
  string : ∀ i e, es[i]? = some e →
    StringAt m (base + m.read (base + AddressOfNames m (imageDirectory m base) + 4 * i) 4) e.name
  rva : ∀ i e, es[i]? = some e → m.read (base + AddressOfFunctions m (imageDirectory m base) +
    m.read (base + AddressOfNameOrdinals m (imageDirectory m base) + 2 * i) 2 * 4) 4 = e.rva

section Search

variable {m : Memory} {lib : ℕ} {es : List Export}

lemma findExport_eq {test : ℕ → Option Bool} {found : ℕ → ℕ} {names ordinals : ℕ}
    {p : Export → Bool} {g : Export → ℕ}
    (htest : ∀ i e, es[i]? = some e → test (m.read (names + 4 * i) 4) = some (p e))
    (hfound : ∀ i e, es[i]? = some e → found (m.read (ordinals + 2 * i) 2) = g e) :
    findExport m test found es.length names ordinals = some ((es.find? p).map g) := by
  induction es generalizing names ordinals with
  | nil => rfl
  | cons e es ih =>
    have htest₀ : test (m.read names 4) = some (p e) := htest 0 e rfl
    have hfound₀ : found (m.read ordinals 2) = g e := hfound 0 e rfl
    have hrest : findExport m test found es.length (names + 4) (ordinals + 2) =
        some ((es.find? p).map g) := ih
      (fun i e' he' => by
        rw [show names + 4 + 4 * i = names + 4 * (i + 1) by omega]
        exact htest (i + 1) e' he')
      (fun i e' he' => by
        rw [show ordinals + 2 + 2 * i = ordinals + 2 * (i + 1) by omega]
        exact hfound (i + 1) e' he')
    rw [List.length_cons, findExport, htest₀]
    cases hp : p e with
    | true => simp [hp, hfound₀]
    | false => simp [hp, hrest]

/-- What the search in the file returns. -/
lemma getReflectiveLoaderOffset_eq (hes : Exports m lib es)
    (hmagic : Magic m (ntHeaders m lib) = 0x020B) {limit : ℕ}
    (hlimit : ∀ e ∈ es, e.name.length < limit) :
    GetReflectiveLoaderOffset limit m lib = some (((es.find? fun e =>
      reflectiveLoaderName <:+: e.name).map fun e => Rva2Offset m e.rva lib).getD 0) := by
  rw [GetReflectiveLoaderOffset, if_neg (not_not.mpr hmagic)]
  have hcount := hes.count
  rw [exportDirectory] at hcount
  simp only [hcount]
  rw [findExport_eq (p := fun e => reflectiveLoaderName <:+: e.name)
    (g := fun e => Rva2Offset m e.rva lib)]
  · rfl
  · intro i e he
    exact strstr_eq (hes.entry i e he).string (by decide) (by decide)
      (hlimit e (List.mem_of_getElem? he))
  · intro i e he
    exact congrArg (fun rva => Rva2Offset m rva lib) (hes.entry i e he).rva

/-- A block that holds the image has the words of the file. -/
lemma Raw.read_image {rva n k w base : ℕ} {m' : Memory} (h : Raw m lib rva n)
    (hm : WellFormed m lib) (himage : m'.Holds base (imageSize m lib) (mapFile m lib))
    (hk : k + w ≤ n) :
    m'.read (base + rva + k) w = m.read (lib + Rva2Offset m rva lib + k) w := by
  have hle := h.le_imageSize hm
  rw [Nat.add_assoc, himage.read (by omega), h.read hm hk]

/-- The headers of the image are those of the file. -/
lemma read_headers {a w base : ℕ} {m' : Memory} (hm : WellFormed m lib)
    (himage : m'.Holds base (imageSize m lib) (mapFile m lib))
    (ha : a + w ≤ headersSize m lib) : m'.read (base + a) w = m.read (lib + a) w := by
  have hle := hm.headers_le
  rw [himage.read (by omega)]
  exact Memory.read_congr fun i hi => by
    rw [mapFile, if_pos (by omega), Nat.add_assoc]

lemma directoryRva_image {base : ℕ} {m' : Memory} (hm : WellFormed m lib)
    (himage : m'.Holds base (imageSize m lib) (mapFile m lib))
    (hspace : base + imageSize m lib ≤ 18446744073709551616) {i : ℕ} (hi : i < 16) :
    directoryRva m' (ntHeaders m' base) i = directoryRva m (ntHeaders m lib) i := by
  have hheaders := hm.headers
  have hle := hm.headers_le
  have hlfanew : m'.read (base + 0x3C) 4 = m.read (lib + 0x3C) 4 :=
    read_headers hm himage (by omega)
  have hnt : ntHeaders m' base = base + m.read (lib + 0x3C) 4 := by
    rw [ntHeaders, e_lfanew, hlfanew, if_pos hm.lfanew, Nat.mod_eq_of_lt (by omega)]
  rw [directoryRva, directoryRva, hnt, ntHeaders_eq hm, Nat.add_assoc, Nat.add_assoc]
  exact read_headers hm himage (by omega)

/-- The image of the file has the exports of the file. -/
lemma Exports.image {base : ℕ} {m' : Memory} (hes : Exports m lib es) (hm : WellFormed m lib)
    (himage : m'.Holds base (imageSize m lib) (mapFile m lib))
    (hspace : base + imageSize m lib ≤ 18446744073709551616) : ImageExports m' base es := by
  have hfield : ∀ k, k + 4 ≤ 40 →
      m'.read (imageDirectory m' base + k) 4 = m.read (exportDirectory m lib + k) 4 := by
    intro k hk
    rw [imageDirectory, directoryRva_image hm himage hspace (by decide)]
    exact hes.directory.read_image hm himage hk
  have hnames : AddressOfNames m' (imageDirectory m' base) =
      AddressOfNames m (exportDirectory m lib) := hfield 32 (by decide)
  have hordinals : AddressOfNameOrdinals m' (imageDirectory m' base) =
      AddressOfNameOrdinals m (exportDirectory m lib) := hfield 36 (by decide)
  have hfunctions : AddressOfFunctions m' (imageDirectory m' base) =
      AddressOfFunctions m (exportDirectory m lib) := hfield 28 (by decide)
  refine ⟨(hfield 24 (by decide)).trans hes.count, fun i e he => ?_, fun i e he => ?_⟩
  · have hi : i < es.length := (List.getElem?_eq_some_iff.mp he).1
    have hentry := hes.entry i e he
    have hname : m'.read (base + AddressOfNames m (exportDirectory m lib) + 4 * i) 4 =
        nameRva m lib i :=
      hes.names.read_image hm himage (by omega)
    rw [hnames, hname]
    refine hentry.string.congr fun j hj => ?_
    rw [Nat.add_assoc, himage _ (by have := hentry.name.le_imageSize hm; omega)]
    exact (hentry.name.offset hm hj).2
  · have hi : i < es.length := (List.getElem?_eq_some_iff.mp he).1
    have hentry := hes.entry i e he
    have hlt := hentry.ordinal
    have hordinal : m'.read (base + AddressOfNameOrdinals m (exportDirectory m lib) + 2 * i) 2 =
        nameOrdinal m lib i :=
      hes.ordinals.read_image hm himage (by omega)
    rw [hfunctions, hordinals, hordinal]
    exact (hes.functions.read_image hm himage (by omega)).trans hentry.rva

/-- What the search for a name in an image returns. -/
lemma ImageExports.getProcAddressR {base : ℕ} (hes : ImageExports m base es) (hbase : base ≠ 0)
    {s : List UInt8} (hs : 0 ∉ s) :
    GetProcAddressR m base (.name s) =
      ((es.find? fun e => decide (e.name = s)).map fun e => base + e.rva).getD 0 := by
  rw [GetProcAddressR, if_neg hbase]
  change ((findExport m _ _ (NumberOfNames m (imageDirectory m base)) _ _).bind id).getD 0 = _
  rw [hes.count, findExport_eq (p := fun e => decide (e.name = s)) (g := fun e => base + e.rva)]
  · rfl
  · intro i e he
    exact congrArg some (sameString_eq (hes.string i e he) hs)
  · intro i e he
    exact congrArg (base + ·) (hes.rva i e he)

/-! ## The remote thread -/

/-- The search in the file and the search in the image find the same function: `Compass` starts the
one that `GetProcAddressR` would find under the name. -/
theorem GetReflectiveLoaderOffset_agrees {limit base : ℕ} {m' : Memory} (hm : WellFormed m lib)
    (hmagic : Magic m (ntHeaders m lib) = 0x020B) (hes : Exports m lib es)
    (hlimit : ∀ e ∈ es, e.name.length < limit)
    (himage : m'.Holds base (imageSize m lib) (mapFile m lib))
    (hspace : base + imageSize m lib ≤ 18446744073709551616) (hbase : base ≠ 0) :
    (∀ e, es.find? (fun e => reflectiveLoaderName <:+: e.name) = some e →
      GetReflectiveLoaderOffset limit m lib = some (Rva2Offset m e.rva lib) ∧
        GetProcAddressR m' base (.name e.name) = base + e.rva) ∧
    ((∀ e ∈ es, ¬ reflectiveLoaderName <:+: e.name) →
      GetReflectiveLoaderOffset limit m lib = some 0) := by
  rw [getReflectiveLoaderOffset_eq hes hmagic hlimit]
  constructor
  · intro e he
    obtain ⟨hneedle, before, after, hsplit, hbefore⟩ := List.find?_eq_some_iff_append.mp he
    rw [he]
    refine ⟨rfl, ?_⟩
    obtain ⟨i, hi⟩ := List.mem_iff_getElem?.mp (List.mem_of_find?_eq_some he)
    rw [(hes.image hm himage hspace).getProcAddressR hbase (hes.entry i e hi).string.ne_zero]
    -- a function before it has another name, because its name does not contain the string
    have hfirst : es.find? (fun e' => decide (e'.name = e.name)) = some e := by
      refine List.find?_eq_some_iff_append.mpr ⟨by simp, before, after, hsplit, fun e' he' => ?_⟩
      have hnot := hbefore e' he'
      simp only [Bool.not_eq_true', decide_eq_false_iff_not] at hnot ⊢
      intro hname
      rw [hname] at hnot
      exact hnot (by simpa using hneedle)
    rw [hfirst]
    rfl
  · intro hnone
    rw [List.find?_eq_none.mpr fun e he => by simpa using hnone e he]
    rfl

lemma loadRemoteLibraryR_some {limit hProcess length remote start : ℕ} {answers : RemoteAnswers}
    (hstart : LoadRemoteLibraryR limit m hProcess lib length answers = some (some start))
    (hremote : answers.allocated = some remote) :
    ∃ offset, GetReflectiveLoaderOffset limit m lib = some offset ∧ offset ≠ 0 ∧
      start = remote + offset := by
  unfold LoadRemoteLibraryR at hstart
  split at hstart
  · cases hstart
  · split at hstart
    · cases hstart
    · rename_i offset hoffset
      split at hstart
      · cases hstart
      · rename_i hne
        rw [hremote] at hstart
        simp only at hstart
        split at hstart
        · cases hstart
          exact ⟨offset, hoffset, hne, rfl⟩
        · cases hstart

/-- Where the remote thread starts, if it does: at the first function whose name contains
`ReflectiveLoader`, in the copy of the file, with the code that the image has for this function. -/
theorem LoadRemoteLibraryR_starts {limit hProcess length remote start : ℕ}
    {answers : RemoteAnswers} {r : Memory} (hm : WellFormed m lib)
    (hmagic : Magic m (ntHeaders m lib) = 0x020B) (hes : Exports m lib es)
    (hlimit : ∀ e ∈ es, e.name.length < limit)
    (hstart : LoadRemoteLibraryR limit m hProcess lib length answers = some (some start))
    (hremote : answers.allocated = some remote)
    (hwritten : r.Holds remote length fun i => m (lib + i)) :
    ∃ e, es.find? (fun e => reflectiveLoaderName <:+: e.name) = some e ∧
      ∀ n, Raw m lib e.rva n → Rva2Offset m e.rva lib + n ≤ length →
        ∀ k < n, r (start + k) = mapFile m lib (e.rva + k) := by
  obtain ⟨offset, hoffset, hne, rfl⟩ := loadRemoteLibraryR_some hstart hremote
  rw [getReflectiveLoaderOffset_eq hes hmagic hlimit] at hoffset
  cases hfind : es.find? fun e => decide (reflectiveLoaderName <:+: e.name) with
  | none =>
    rw [hfind] at hoffset
    exact absurd (Option.some.inj hoffset).symm hne
  | some e =>
    rw [hfind] at hoffset
    cases hoffset
    refine ⟨e, rfl, fun n hn hle k hk => ?_⟩
    have hcopy : r (remote + Rva2Offset m e.rva lib + k) =
        m (lib + (Rva2Offset m e.rva lib + k)) := by
      rw [Nat.add_assoc]
      exact hwritten _ (by omega)
    exact (hcopy.trans (by rw [Nat.add_assoc])).trans (hn.offset hm hk).2.symm

end Search

/-! ## The sample -/

def sampleExport : Export := ⟨reflectiveLoaderName, 4096⟩

/-- A range of the image that the section of the sample has. -/
lemma sampleFile_raw {rva n : ℕ} (h : 4096 ≤ rva ∧ rva + n ≤ 4304) : Raw sampleFile 0x10000 rva n :=
  .inr ⟨⟨4096, 208, 368⟩, by rw [sampleFile_sections]; exact List.mem_singleton_self _, h.1, h.2⟩

lemma sampleFile_exports : Exports sampleFile 0x10000 [sampleExport] where
  directory := sampleFile_raw (by decide)
  count := by decide
  names := sampleFile_raw (by decide)
  ordinals := sampleFile_raw (by decide)
  functions := sampleFile_raw (by decide)
  entry := by
    intro i e he
    obtain ⟨rfl, rfl⟩ : i = 0 ∧ e = sampleExport := by
      cases i with
      | zero => exact ⟨rfl, (Option.some.inj he).symm⟩
      | succ i => cases he
    exact ⟨sampleFile_raw (by decide), stringAt_of_sameString (by decide) (by decide), by decide,
      by decide⟩

/-- The image of the sample at an address. -/
def sampleImage : Memory := fun x => mapFile sampleFile 0x10000 (x - 0x40000)

lemma sampleImage_holds :
    sampleImage.Holds 0x40000 (imageSize sampleFile 0x10000) (mapFile sampleFile 0x10000) := by
  intro i _
  rw [sampleImage, Nat.add_sub_cancel_left]

theorem GetReflectiveLoaderOffset_agrees_sample :
    GetReflectiveLoaderOffset 17 sampleFile 0x10000 = some 368 ∧
      GetProcAddressR sampleImage 0x40000 (.name reflectiveLoaderName) = 0x40000 + 4096 := by
  have hfind : [sampleExport].find? (fun e => reflectiveLoaderName <:+: e.name) =
      some sampleExport := by decide
  have hboth := (@GetReflectiveLoaderOffset_agrees sampleFile 0x10000 [sampleExport] 17 0x40000
    sampleImage sampleFile_wellFormed (by decide) sampleFile_exports (by decide)
    sampleImage_holds (by decide) (by decide)).1 sampleExport hfind
  have hoffset : Rva2Offset sampleFile sampleExport.rva 0x10000 = 368 := by decide
  rw [hoffset] at hboth
  exact hboth

/-- The process into which the sample has been written at 0x70000. -/
def sampleRemote : Memory := fun x =>
  if 0x70000 ≤ x then sampleFile (0x10000 + (x - 0x70000)) else 0

lemma sampleRemote_holds : sampleRemote.Holds 0x70000 576 fun i => sampleFile (0x10000 + i) := by
  intro i _
  rw [sampleRemote, if_pos (Nat.le_add_right _ _), Nat.add_sub_cancel_left]

theorem LoadRemoteLibraryR_starts_sample :
    sampleRemote (0x70000 + 368 + 7) = mapFile sampleFile 0x10000 (4096 + 7) := by
  have hfind : [sampleExport].find? (fun e => reflectiveLoaderName <:+: e.name) =
      some sampleExport := by decide
  have hstart : LoadRemoteLibraryR 17 sampleFile 1 0x10000 576 ⟨some 0x70000, true, true⟩ =
      some (some (0x70000 + 368)) := by decide
  obtain ⟨e, he, hcode⟩ := LoadRemoteLibraryR_starts sampleFile_wellFormed (by decide)
    sampleFile_exports (by decide) hstart rfl sampleRemote_holds
  cases hfind.symm.trans he
  exact hcode 8 (sampleFile_raw (by decide)) (by decide) 7 (by decide)

end Loader
end SakuraTools
