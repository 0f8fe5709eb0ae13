import SakuraTools.Loader.Image

/-!
# Relocations

The last pass of `native/ReflectiveLoader.c` over the image, which adds the distance between the
address of the image and the one that the linker has assumed.  An image is linked for an address
when its pointers are right there.
-/

namespace SakuraTools
namespace Loader

open Memory

/-! ## The pass -/

def IMAGE_REL_BASED_HIGH : ℕ := 1
def IMAGE_REL_BASED_LOW : ℕ := 2
def IMAGE_REL_BASED_HIGHLOW : ℕ := 3
def IMAGE_REL_BASED_DIR64 : ℕ := 10

/-- What an `IMAGE_RELOC` with this type asks for at an address. -/
def relocPatch (delta type a : ℕ) : Option Patch :=
  if type = IMAGE_REL_BASED_DIR64 then some ⟨a, 8, fun v => v + delta⟩
  else if type = IMAGE_REL_BASED_HIGHLOW then some ⟨a, 4, fun v => v + delta % 4294967296⟩
  else if type = IMAGE_REL_BASED_HIGH then some ⟨a, 2, fun v => v + delta / 65536 % 65536⟩
  else if type = IMAGE_REL_BASED_LOW then some ⟨a, 2, fun v => v + delta % 65536⟩
  else none

structure RelocEntry where
  type : ℕ
  offset : ℕ
deriving DecidableEq, Repr

structure RelocBlock where
  page : ℕ
  entries : List RelocEntry
deriving DecidableEq, Repr

def RelocBlock.size (b : RelocBlock) : ℕ := 8 + 2 * b.entries.length

/-- The size of the table, with the empty block at its end. -/
def relocSize (bs : List RelocBlock) : ℕ := (bs.map RelocBlock.size).sum + 8

/-- The memory has the table at `c`. -/
def EntriesAt (m : Memory) : ℕ → List RelocEntry → Prop
  | _, [] => True
  | d, e :: es => m.read d 2 = e.type * 4096 + e.offset ∧ e.offset < 4096 ∧ EntriesAt m (d + 2) es

def RelocsAt (m : Memory) : ℕ → List RelocBlock → Prop
  | c, [] => m.read (c + 4) 4 = 0
  | c, b :: bs =>
    m.read c 4 = b.page ∧ m.read (c + 4) 4 = b.size ∧ EntriesAt m (c + 8) b.entries ∧
      RelocsAt m (c + b.size) bs

/-- What an entry of a page asks for. -/
def RelocEntry.patch (delta page : ℕ) (e : RelocEntry) : Option Patch :=
  relocPatch delta e.type (page + e.offset)

section Pass

variable {m m' : Memory} {delta base c c' d d' page : ℕ} {es : List RelocEntry}
  {bs : List RelocBlock}

lemma EntriesAt.congr (h : EntriesAt m d es)
    (hsame : ∀ i < 2 * es.length, m' (d' + i) = m (d + i)) : EntriesAt m' d' es := by
  induction es generalizing d d' with
  | nil => trivial
  | cons e es ih =>
    obtain ⟨hentry, hoffset, hrest⟩ := h
    rw [List.length_cons] at hsame
    refine ⟨?_, hoffset, ih hrest fun i hi => ?_⟩
    · rw [← hentry]
      exact read_congr fun i hi => hsame i (by omega)
    · have := hsame (i + 2) (by omega)
      rwa [show d' + (i + 2) = d' + 2 + i by omega, show d + (i + 2) = d + 2 + i by omega] at this

lemma relocSize_cons (b : RelocBlock) (bs : List RelocBlock) :
    relocSize (b :: bs) = b.size + relocSize bs := by
  simp only [relocSize, List.map_cons, List.sum_cons, Nat.add_assoc]

lemma le_relocSize (bs : List RelocBlock) : 8 ≤ relocSize bs := Nat.le_add_left 8 _

lemma RelocsAt.congr (h : RelocsAt m c bs)
    (hsame : ∀ i < relocSize bs, m' (c' + i) = m (c + i)) : RelocsAt m' c' bs := by
  induction bs generalizing c c' with
  | nil =>
    refine Eq.trans (read_congr fun i hi => ?_) h
    rw [Nat.add_assoc, Nat.add_assoc]
    exact hsame (4 + i) (by rw [relocSize]; simp; omega)
  | cons b bs ih =>
    obtain ⟨hpage, hsize, hentries, hrest⟩ := h
    have hle := le_relocSize bs
    rw [relocSize_cons, RelocBlock.size] at hsame
    refine ⟨?_, ?_, hentries.congr fun i hi => ?_, ih hrest fun i hi => ?_⟩
    · rw [← hpage]
      exact read_congr fun i hi => hsame i (by omega)
    · rw [← hsize]
      refine read_congr fun i hi => ?_
      rw [Nat.add_assoc, Nat.add_assoc]
      exact hsame (4 + i) (by omega)
    · rw [Nat.add_assoc, Nat.add_assoc]
      exact hsame (8 + i) (by omega)
    · rw [Nat.add_assoc, Nat.add_assoc, RelocBlock.size]
      exact hsame (8 + 2 * b.entries.length + i) (by omega)

/-- The part of a pointer that a relocation of this type is about, with its width. -/
def pointerPart (type : ℕ) : Option (ℕ × (ℕ → ℕ)) :=
  if type = IMAGE_REL_BASED_DIR64 then some (8, fun x => x)
  else if type = IMAGE_REL_BASED_HIGHLOW then some (4, fun x => x)
  else if type = IMAGE_REL_BASED_HIGH then some (2, fun x => x / 65536)
  else if type = IMAGE_REL_BASED_LOW then some (2, fun x => x)
  else none

/-- The image is linked for an address: the words at the places of the table are parts of pointers
to `target`, which is given by its distance from the address. -/
def Linked (img : Memory) (base : ℕ) (bs : List RelocBlock) (target : ℕ → ℕ) : Prop :=
  ∀ b ∈ bs, ∀ e ∈ b.entries, ∀ w part, pointerPart e.type = some (w, part) →
    img.read (b.page + e.offset) w = part (base + target (b.page + e.offset)) % 256 ^ w

variable {img : Memory} {old : ℕ} {target : ℕ → ℕ}

end Pass

end Loader
end SakuraTools
