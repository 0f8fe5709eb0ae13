import SakuraTools.Loader.Reflective

/-!
# The injection

What comes of a DLL that `LoadRemoteLibraryR` writes into a process: the remote thread runs the
loader in the copy of the file, and the loader makes the same image as it would of the file.
-/

namespace SakuraTools
namespace Loader

open Memory

section Copy

variable {m r : Memory} {lib remote length : ℕ}

/-- The process has a copy of the file at `remote`. -/
structure Copied (m r : Memory) (lib remote length : ℕ) : Prop where
  well : WellFormed m lib
  fits : FileFits m lib length
  nonempty : NumberOfSections m (ntHeaders m lib) ≠ 0
  bytes : r.Holds remote length fun i => m (lib + i)
  space : remote + length ≤ 18446744073709551616

namespace Copied

lemma read (h : Copied m r lib remote length) {k w : ℕ} (hk : k + w ≤ length) :
    r.read (remote + k) w = m.read (lib + k) w :=
  read_congr fun i hi => by
    rw [Nat.add_assoc, Nat.add_assoc]
    exact h.bytes (k + i) (by omega)

/-- The headers are in the file. -/
lemma headers (h : Copied m r lib remote length) :
    m.read (lib + 0x3C) 4 + 264 ≤ length :=
  Nat.le_trans h.well.headers h.fits.headers_in

lemma lfanew (h : Copied m r lib remote length) :
    r.read (remote + 0x3C) 4 = m.read (lib + 0x3C) 4 :=
  h.read (by have := h.headers; omega)

lemma e_lfanew (h : Copied m r lib remote length) :
    Loader.e_lfanew r remote = m.read (lib + 0x3C) 4 := by
  rw [Loader.e_lfanew, h.lfanew, if_pos h.well.lfanew]

lemma ntHeaders (h : Copied m r lib remote length) :
    Loader.ntHeaders r remote = remote + m.read (lib + 0x3C) 4 := by
  have hheaders := h.headers
  have hspace := h.space
  rw [Loader.ntHeaders, h.e_lfanew, Nat.mod_eq_of_lt (by omega)]

/-- A field of the headers. -/
lemma field (h : Copied m r lib remote length) {k w : ℕ} (hk : k + w ≤ 264) :
    r.read (Loader.ntHeaders r remote + k) w = m.read (Loader.ntHeaders m lib + k) w := by
  have hheaders := h.headers
  rw [h.ntHeaders, ntHeaders_eq h.well, Nat.add_assoc, Nat.add_assoc]
  exact h.read (by omega)

lemma firstSection (h : Copied m r lib remote length) :
    Loader.firstSection r (Loader.ntHeaders r remote) + lib =
      Loader.firstSection m (Loader.ntHeaders m lib) + remote := by
  have hsize : SizeOfOptionalHeader r (Loader.ntHeaders r remote) =
      SizeOfOptionalHeader m (Loader.ntHeaders m lib) := h.field (by decide)
  rw [Loader.firstSection, Loader.firstSection, hsize, h.ntHeaders, ntHeaders_eq h.well]
  omega

lemma sectionHeader (h : Copied m r lib remote length) {i : ℕ}
    (hi : i < NumberOfSections m (Loader.ntHeaders m lib)) :
    Loader.sectionHeader r (Loader.firstSection r (Loader.ntHeaders r remote) + 40 * i) =
      Loader.sectionHeader m (Loader.firstSection m (Loader.ntHeaders m lib) + 40 * i) := by
  have hfirst := h.firstSection
  have htable := h.fits.table_in
  have hheaders := h.fits.headers_in
  have hge : lib ≤ Loader.firstSection m (Loader.ntHeaders m lib) := by
    rw [Loader.firstSection, ntHeaders_eq h.well]
    omega
  obtain ⟨k, hk⟩ := Nat.exists_eq_add_of_le hge
  have hk' : Loader.firstSection r (Loader.ntHeaders r remote) = remote + k := by omega
  have hfield : ∀ o, o + 4 ≤ 40 →
      r.read (remote + k + 40 * i + o) 4 = m.read (lib + k + 40 * i + o) 4 := by
    intro o ho
    rw [show remote + k + 40 * i + o = remote + (k + 40 * i + o) by omega,
      show lib + k + 40 * i + o = lib + (k + 40 * i + o) by omega]
    exact h.read (by omega)
  rw [hk, hk', Loader.sectionHeader, Loader.sectionHeader, hfield 12 (by decide),
    hfield 16 (by decide), hfield 20 (by decide)]

lemma fileSections (h : Copied m r lib remote length) :
    Loader.fileSections r remote = Loader.fileSections m lib := by
  have hcount : NumberOfSections r (Loader.ntHeaders r remote) =
      NumberOfSections m (Loader.ntHeaders m lib) := h.field (by decide)
  rw [Loader.fileSections, Loader.fileSections, sections, sections, hcount]
  exact List.map_congr_left fun i hi => h.sectionHeader (List.mem_range.mp hi)

lemma imageSize (h : Copied m r lib remote length) :
    Loader.imageSize r remote = Loader.imageSize m lib :=
  h.field (by decide)

lemma headersSize (h : Copied m r lib remote length) :
    Loader.headersSize r remote = Loader.headersSize m lib :=
  h.field (by decide)

lemma directoryRva (h : Copied m r lib remote length) {i : ℕ} (hi : i < 16) :
    Loader.directoryRva r (Loader.ntHeaders r remote) i =
      Loader.directoryRva m (Loader.ntHeaders m lib) i :=
  h.field (by omega)

lemma rawStart (h : Copied m r lib remote length) :
    Loader.rawStart r remote = Loader.rawStart m lib :=
  congrArg SectionHeader.PointerToRawData (h.sectionHeader (i := 0) (Nat.pos_of_ne_zero h.nonempty))

/-- The image of the copy is that of the file. -/
lemma mapFile (h : Copied m r lib remote length) :
    Loader.mapFile r remote = Loader.mapFile m lib := by
  funext rva
  have hheaders := h.fits.headers_in
  simp only [Loader.mapFile, h.headersSize, h.fileSections]
  split
  · exact h.bytes rva (by omega)
  · cases hfind : (Loader.fileSections m lib).find? fun s => decide (s.Has rva) with
    | none => rfl
    | some s =>
      have hraw := h.fits.raw_in s (List.mem_of_find?_eq_some hfind)
      have hhas : s.Has rva := by simpa using List.find?_some hfind
      obtain ⟨hge, hlt⟩ := hhas
      have hbyte := h.bytes (s.PointerToRawData + (rva - s.VirtualAddress)) (by omega)
      simpa only [Nat.add_assoc] using hbyte

end Copied
end Copy

section Injection

variable {K : Kernel} {m r : Memory} {lib remote length base delta limit caller hProcess start : ℕ}
  {library : List UInt8 → Library} {ds : List Import} {bs : List RelocBlock} {es : List Export}
  {answers : RemoteAnswers}

end Injection

/-! ## The sample -/

end Loader
end SakuraTools
