import SakuraTools.Lib.Memory

/-!
# Image files

The headers of a DLL as `injector/LoadLibraryR.c`, `injector/GetProcAddressR.c` and
`native/ReflectiveLoader.c` read them in a 64-bit build, and the two places at which a byte of the
DLL can be: in the file, and in the image that is made of it.  A pointer is a number, and the
addresses of a process leave room to add a `DWORD`.
-/

namespace SakuraTools
namespace Loader

/-! ## Headers -/

section Headers

variable (m : Memory)

/-- `e_lfanew` is a `LONG`, here as it is added to a pointer. -/
def e_lfanew (base : ℕ) : ℕ :=
  if m.read (base + 0x3C) 4 < 2147483648 then m.read (base + 0x3C) 4
  else m.read (base + 0x3C) 4 + (18446744073709551616 - 4294967296)

/-- Where the `IMAGE_NT_HEADERS` of a file or an image are. -/
def ntHeaders (base : ℕ) : ℕ := (base + e_lfanew m base) % 18446744073709551616

section Fields

variable (nt : ℕ)

def NumberOfSections : ℕ := m.read (nt + 6) 2
def SizeOfOptionalHeader : ℕ := m.read (nt + 20) 2
def Magic : ℕ := m.read (nt + 24) 2
def SizeOfImage : ℕ := m.read (nt + 80) 4
def SizeOfHeaders : ℕ := m.read (nt + 84) 4

/-- `VirtualAddress` and `Size` of `DataDirectory[i]` -/
def directoryRva (i : ℕ) : ℕ := m.read (nt + (136 + 8 * i)) 4
end Fields

def IMAGE_DIRECTORY_ENTRY_EXPORT : ℕ := 0
/-- What is used of an `IMAGE_SECTION_HEADER`. -/
structure SectionHeader where
  VirtualAddress : ℕ
  SizeOfRawData : ℕ
  PointerToRawData : ℕ
deriving DecidableEq, Repr

/-- The section header at an address. -/
def sectionHeader (a : ℕ) : SectionHeader where
  VirtualAddress := m.read (a + 12) 4
  SizeOfRawData := m.read (a + 16) 4
  PointerToRawData := m.read (a + 20) 4

/-- The address of the first section header. -/
def firstSection (nt : ℕ) : ℕ := nt + 24 + SizeOfOptionalHeader m nt

def sections (nt : ℕ) : List SectionHeader :=
  (List.range (NumberOfSections m nt)).map fun i => sectionHeader m (firstSection m nt + 40 * i)

end Headers

/-! ## Places in the file -/

/-- The loop of `Rva2Offset`, where the sums are those of `DWORD`s. -/
def offsetIn (rva : ℕ) : List SectionHeader → ℕ
  | [] => 0
  | s :: rest =>
    if s.VirtualAddress ≤ rva ∧ rva < (s.VirtualAddress + s.SizeOfRawData) % 4294967296 then
      (rva - s.VirtualAddress + s.PointerToRawData) % 4294967296
    else offsetIn rva rest

/-- `Rva2Offset` -/
def Rva2Offset (m : Memory) (rva base : ℕ) : ℕ :=
  let nt := ntHeaders m base
  if rva < (sectionHeader m (firstSection m nt)).PointerToRawData then rva
  else offsetIn rva (sections m nt)

/-! ## Places in the image -/

section File

variable (m : Memory) (lib : ℕ)

/-- The size of the image of the file at `lib`, and what the image is made of. -/
def imageSize : ℕ := SizeOfImage m (ntHeaders m lib)
def headersSize : ℕ := SizeOfHeaders m (ntHeaders m lib)
def fileSections : List SectionHeader := sections m (ntHeaders m lib)

/-- Where the raw data begins. -/
def rawStart : ℕ := (sectionHeader m (firstSection m (ntHeaders m lib))).PointerToRawData

end File

/-- The section has raw data for this byte of the image. -/
def SectionHeader.Has (s : SectionHeader) (rva : ℕ) : Prop :=
  s.VirtualAddress ≤ rva ∧ rva < s.VirtualAddress + s.SizeOfRawData

instance (s : SectionHeader) (rva : ℕ) : Decidable (s.Has rva) :=
  inferInstanceAs (Decidable (_ ∧ _))

/-- The image of the file at `lib`: its headers and the raw data of its sections, each at the
address it says. -/
def mapFile (m : Memory) (lib : ℕ) : Memory := fun rva =>
  if rva < headersSize m lib then m (lib + rva)
  else
    match (fileSections m lib).find? fun s => s.Has rva with
    | some s => m (lib + s.PointerToRawData + (rva - s.VirtualAddress))
    | none => 0

/-- The file is one that a linker makes: the sections lie behind the headers, in the file as well as
in the image, and apart from each other, and all this fits. -/
structure WellFormed (m : Memory) (lib : ℕ) : Prop where
  lfanew : m.read (lib + 0x3C) 4 < 2147483648
  space : lib + m.read (lib + 0x3C) 4 < 18446744073709551616
  headers : m.read (lib + 0x3C) 4 + 264 ≤ headersSize m lib
  headers_le : headersSize m lib ≤ imageSize m lib
  raw_le : rawStart m lib ≤ headersSize m lib
  behind : ∀ s ∈ fileSections m lib, headersSize m lib ≤ s.VirtualAddress
  fits : ∀ s ∈ fileSections m lib, s.VirtualAddress + s.SizeOfRawData ≤ imageSize m lib
  offset_lt : ∀ s ∈ fileSections m lib, s.PointerToRawData + s.SizeOfRawData < 4294967296
  apart : (fileSections m lib).Pairwise fun s t =>
    s.VirtualAddress + s.SizeOfRawData ≤ t.VirtualAddress ∨
      t.VirtualAddress + t.SizeOfRawData ≤ s.VirtualAddress

/-- The range of the image comes from the headers, or from one section. -/
def Raw (m : Memory) (lib rva n : ℕ) : Prop :=
  rva + n ≤ rawStart m lib ∨
    ∃ s ∈ fileSections m lib, s.VirtualAddress ≤ rva ∧
      rva + n ≤ s.VirtualAddress + s.SizeOfRawData

section Raw

variable {m : Memory} {lib rva n k : ℕ}

lemma ntHeaders_eq (hm : WellFormed m lib) : ntHeaders m lib = lib + m.read (lib + 0x3C) 4 := by
  rw [ntHeaders, e_lfanew, if_pos hm.lfanew, Nat.mod_eq_of_lt hm.space]

lemma imageSize_lt (m : Memory) (lib : ℕ) : imageSize m lib < 4294967296 :=
  m.read_lt _ 4

/-- A byte belongs to one section only. -/
lemma find_section {ss : List SectionHeader} (hapart : ss.Pairwise fun s t =>
      s.VirtualAddress + s.SizeOfRawData ≤ t.VirtualAddress ∨
        t.VirtualAddress + t.SizeOfRawData ≤ s.VirtualAddress)
    {s : SectionHeader} (hs : s ∈ ss) (hhas : s.Has rva) :
    ss.find? (fun s => s.Has rva) = some s := by
  induction ss with
  | nil => cases hs
  | cons t ss ih =>
    obtain ⟨ht, hapart⟩ := List.pairwise_cons.mp hapart
    rcases List.mem_cons.mp hs with rfl | hs
    · exact List.find?_cons_of_pos (by simpa using hhas)
    · have hnot : ¬ t.Has rva := by
        have := ht s hs
        obtain ⟨hge, hlt⟩ := hhas
        rintro ⟨hge', hlt'⟩
        omega
      rw [List.find?_cons_of_neg (by simpa using hnot)]
      exact ih hapart hs

lemma offsetIn_of_find {ss : List SectionHeader} (hlt : ∀ s ∈ ss,
      s.VirtualAddress + s.SizeOfRawData < 4294967296 ∧
        s.PointerToRawData + s.SizeOfRawData < 4294967296)
    {s : SectionHeader} (hfind : ss.find? (fun s => s.Has rva) = some s) :
    offsetIn rva ss = rva - s.VirtualAddress + s.PointerToRawData := by
  induction ss with
  | nil => cases hfind
  | cons t ss ih =>
    obtain ⟨hend, hraw⟩ := hlt t List.mem_cons_self
    rw [offsetIn, Nat.mod_eq_of_lt hend]
    by_cases hhas : t.Has rva
    · rw [List.find?_cons_of_pos (by simpa using hhas)] at hfind
      cases hfind
      obtain ⟨hge, hrva⟩ := hhas
      rw [if_pos ⟨hge, hrva⟩, Nat.mod_eq_of_lt (by omega)]
    · rw [List.find?_cons_of_neg (by simpa using hhas)] at hfind
      rw [if_neg (show ¬ (t.VirtualAddress ≤ rva ∧ rva < t.VirtualAddress + t.SizeOfRawData)
        from hhas)]
      exact ih (fun s hs => hlt s (List.mem_cons_of_mem t hs)) hfind

lemma rva2Offset_eq (m : Memory) (rva lib : ℕ) : Rva2Offset m rva lib =
    if rva < rawStart m lib then rva else offsetIn rva (fileSections m lib) :=
  rfl

/-- A byte with raw data is found in the file where it comes from. -/
lemma rva2Offset_section (hm : WellFormed m lib) {s : SectionHeader} (hs : s ∈ fileSections m lib)
    (hhas : s.Has rva) :
    Rva2Offset m rva lib = rva - s.VirtualAddress + s.PointerToRawData := by
  have hbehind := hm.behind s hs
  have hraw := hm.raw_le
  have hge := hhas.1
  rw [rva2Offset_eq, if_neg (by omega)]
  refine offsetIn_of_find (fun t ht => ⟨?_, hm.offset_lt t ht⟩) (find_section hm.apart hs hhas)
  exact Nat.lt_of_le_of_lt (hm.fits t ht) (imageSize_lt m lib)

lemma rva2Offset_headers (rva : ℕ)
    (hlt : rva < rawStart m lib) :
    Rva2Offset m rva lib = rva :=
  if_pos hlt

/-- Within one piece of raw data the file and the image go side by side. -/
lemma Raw.offset (h : Raw m lib rva n) (hm : WellFormed m lib) (hk : k < n) :
    Rva2Offset m (rva + k) lib = Rva2Offset m rva lib + k ∧
      mapFile m lib (rva + k) = m (lib + Rva2Offset m rva lib + k) := by
  rcases h with h | ⟨s, hs, hge, hend⟩
  · have hle := hm.raw_le
    rw [rva2Offset_headers (rva + k) (by omega), rva2Offset_headers rva (by omega), mapFile,
      if_pos (by omega), Nat.add_assoc]
    exact ⟨rfl, rfl⟩
  · have hhas : s.Has (rva + k) := ⟨by omega, by omega⟩
    have hbehind := hm.behind s hs
    rw [rva2Offset_section hm hs hhas, rva2Offset_section hm hs ⟨hge, by omega⟩, mapFile,
      if_neg (by omega), find_section hm.apart hs hhas]
    refine ⟨by omega, congrArg m ?_⟩
    omega

/-- A word of the image is the word at its place in the file. -/
lemma Raw.read (h : Raw m lib rva n) (hm : WellFormed m lib) {w : ℕ} (hk : k + w ≤ n) :
    (mapFile m lib).read (rva + k) w = m.read (lib + Rva2Offset m rva lib + k) w :=
  Memory.read_congr fun i hi => by
    rw [Nat.add_assoc, Nat.add_assoc _ k i]
    exact (h.offset hm (by omega)).2

lemma Raw.le_imageSize (h : Raw m lib rva n) (hm : WellFormed m lib) :
    rva + n ≤ imageSize m lib := by
  have hraw := hm.raw_le
  have hheaders := hm.headers_le
  rcases h with h | ⟨s, hs, -, hend⟩
  · omega
  · exact Nat.le_trans hend (hm.fits s hs)

end Raw

/-! ## A sample -/

/-- A small DLL at the address 0x10000, with one section, which exports `ReflectiveLoader`, imports
a function by its name and one by its number, and has a pointer to itself. -/
def sampleFile : Memory :=
  -- headers
  [(0, 2, 0x5A4D), (0x3C, 4, 64), (64, 4, 0x4550), (70, 2, 1), (84, 2, 240), (88, 2, 0x020B),
    (104, 4, 4096), (112, 8, 0x180000000), (144, 4, 8192), (148, 4, 368),
    (200, 4, 4112), (204, 4, 40), (208, 4, 4184), (212, 4, 40), (240, 4, 4280), (244, 4, 12),
    (340, 4, 4096), (344, 4, 208), (348, 4, 368),
    -- code, and a pointer to it
    (368, 8, 0x1122334455667788), (376, 8, 0x180001000),
    -- the export directory and its tables
    (400, 4, 1), (404, 4, 1), (408, 4, 1), (412, 4, 4160), (416, 4, 4152), (420, 4, 4156),
    (424, 4, 4164), (428, 2, 0), (432, 4, 4096),
    (436, 16, 0x726564616F4C6576697463656C666552),
    -- the import descriptor, the thunks twice, and the names
    (456, 4, 4224), (468, 4, 4276), (472, 4, 4248), (496, 8, 4272), (504, 8, 0x8000000000000001),
    (520, 8, 4272), (528, 8, 0x8000000000000001), (546, 1, 0x66), (548, 1, 0x6B),
    -- the relocations
    (552, 4, 4096), (556, 4, 12), (560, 2, 0xA008)].foldl
    (fun m w => m.write (0x10000 + w.1) w.2.1 w.2.2) fun _ => 0

lemma sampleFile_sections : fileSections sampleFile 0x10000 = [⟨4096, 208, 368⟩] := by decide

lemma sampleFile_wellFormed : WellFormed sampleFile 0x10000 where
  lfanew := by decide
  space := by decide
  headers := by decide
  headers_le := by decide
  raw_le := by decide
  behind := by
    rw [sampleFile_sections]
    decide
  fits := by
    rw [sampleFile_sections]
    decide
  offset_lt := by
    rw [sampleFile_sections]
    decide
  apart := by
    rw [sampleFile_sections]
    exact List.pairwise_singleton _ _

end Loader
end SakuraTools
