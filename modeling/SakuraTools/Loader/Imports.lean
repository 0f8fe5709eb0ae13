import SakuraTools.Loader.Exports

/-!
# Imports

The pass of `native/ReflectiveLoader.c` that loads the DLLs an image needs and writes the addresses
of their functions into it.
-/

namespace SakuraTools
namespace Loader

open Memory

/-! ## The pass -/

/-- The functions that the loader has found in `kernel32.dll`.  `LoadLibraryA` also changes the
memory, where it puts the DLL. -/
structure Kernel where
  VirtualAlloc : ℕ → ℕ
  LoadLibraryA : Memory → ℕ → ℕ × Memory
  GetProcAddress : Memory → ℕ → ℕ → ℕ

def IMAGE_ORDINAL_FLAG : ℕ := 9223372036854775808

/-- A function that is imported by its number, or by its name, which is at `hint`. -/
inductive Thunk where
  | ordinal (n : ℕ)
  | named (hint : ℕ) (s : List UInt8)
deriving DecidableEq, Repr

/-- A DLL that is imported, with the places of its name and of the two tables. -/
structure Import where
  name : ℕ
  dll : List UInt8
  original : ℕ
  first : ℕ
  thunks : List Thunk
deriving DecidableEq, Repr

/-- The image has the two tables of functions at `o` and `f`. -/
def ThunksAt (img : Memory) : ℕ → ℕ → List Thunk → Prop
  | _, f, [] => img.read f 8 = 0
  | o, f, .ordinal n :: ts =>
    img.read f 8 ≠ 0 ∧ img.read o 8 = IMAGE_ORDINAL_FLAG + n ∧ ThunksAt img (o + 8) (f + 8) ts
  | o, f, .named hint s :: ts =>
    img.read f 8 = hint ∧ hint ≠ 0 ∧ img.read o 8 < IMAGE_ORDINAL_FLAG ∧
      StringAt img (hint + 2) s ∧ ThunksAt img (o + 8) (f + 8) ts

def ImportsAt (img : Memory) : ℕ → List Import → Prop
  | c, [] => img.read (c + 12) 4 = 0
  | c, d :: ds =>
    img.read c 4 = d.original ∧ img.read (c + 12) 4 = d.name ∧ d.name ≠ 0 ∧
      img.read (c + 16) 4 = d.first ∧ StringAt img d.name d.dll ∧
        ThunksAt img d.original d.first d.thunks ∧ ImportsAt img (c + 20) ds

/-- What is read of these tables and not written, as ranges. -/
def thunkRanges : ℕ → ℕ → List Thunk → List (ℕ × ℕ)
  | _, f, [] => [(f, 8)]
  | o, f, .ordinal _ :: ts => (o, 8) :: thunkRanges (o + 8) (f + 8) ts
  | o, f, .named hint s :: ts =>
    (o, 8) :: (hint + 2, s.length + 1) :: thunkRanges (o + 8) (f + 8) ts

def importRanges : ℕ → List Import → List (ℕ × ℕ)
  | c, [] => [(c, 20)]
  | c, d :: ds =>
    (c, 20) :: (d.name, d.dll.length + 1) ::
      (thunkRanges d.original d.first d.thunks ++ importRanges (c + 20) ds)

/-! ## The functions -/

/-- A DLL that is loaded, with its functions. -/
structure Library where
  base : ℕ
  byName : List UInt8 → ℕ
  byOrdinal : ℕ → ℕ

def Thunk.address (L : Library) : Thunk → ℕ
  | ordinal n => L.byOrdinal n
  | named _ s => L.byName s

def thunkPatches (L : Library) : ℕ → List Thunk → List Patch
  | _, [] => []
  | f, t :: ts => ⟨f, 8, fun _ => t.address L⟩ :: thunkPatches L (f + 8) ts

/-- What the loader writes into an image with these imports. -/
def importPatches (library : List UInt8 → Library) (ds : List Import) : List Patch :=
  ds.flatMap fun d => thunkPatches (library d.dll) d.first d.thunks

/-- `LoadLibraryA` keeps off the block of the image. -/
def Kernel.Keeps (K : Kernel) (base size : ℕ) : Prop :=
  ∀ m ptr x, base ≤ x → x < base + size → (K.LoadLibraryA m ptr).2 x = m x

section Pass

variable {K : Kernel} {m m' img img' : Memory} {base size o f c : ℕ} {L : Library}
  {ts : List Thunk} {ds : List Import}

/-- The images have the same bytes in a range. -/
def SameRange (img img' : Memory) (r : ℕ × ℕ) : Prop := ∀ i < r.2, img' (r.1 + i) = img (r.1 + i)

lemma SameRange.read {a n : ℕ} (h : SameRange img img' (a, n)) {k w : ℕ} (hk : k + w ≤ n) :
    img'.read (a + k) w = img.read (a + k) w :=
  read_congr fun i hi => by
    rw [Nat.add_assoc]
    exact h (k + i) (by omega)

lemma SameRange.word {a n : ℕ} (h : SameRange img img' (a, n)) : img'.read a n = img.read a n :=
  read_congr h

/-- The tables are there in another image that has the same bytes in what is read. -/
lemma ThunksAt.congr (h : ThunksAt img o f ts)
    (hread : ∀ r ∈ thunkRanges o f ts, SameRange img img' r)
    (hslots : ∀ p ∈ thunkPatches L f ts, SameRange img img' (p.addr, 8)) :
    ThunksAt img' o f ts := by
  induction ts generalizing o f with
  | nil => exact (hread (f, 8) List.mem_cons_self).word.trans h
  | cons t ts ih =>
    have hslot : img'.read f 8 = img.read f 8 :=
      (hslots ⟨f, 8, fun _ => t.address L⟩ List.mem_cons_self).word
    have hslots' := fun p hp => hslots p (List.mem_cons_of_mem _ hp)
    cases t with
    | ordinal n =>
      obtain ⟨hne, hflag, hrest⟩ := h
      have horiginal := (hread (o, 8) List.mem_cons_self).word
      refine ⟨fun hzero => hne (hslot.symm.trans hzero), horiginal.trans hflag,
        ih hrest (fun r hr => ?_) hslots'⟩
      exact hread r (List.mem_cons_of_mem _ hr)
    | named hint s =>
      obtain ⟨hhint, hne, hflag, hstring, hrest⟩ := h
      have horiginal := (hread (o, 8) List.mem_cons_self).word
      refine ⟨hslot.trans hhint, hne, lt_of_eq_of_lt horiginal hflag, hstring.congr ?_,
        ih hrest (fun r hr => ?_) hslots'⟩
      · exact hread (hint + 2, s.length + 1) (List.mem_cons_of_mem _ List.mem_cons_self)
      · exact hread r (List.mem_cons_of_mem _ (List.mem_cons_of_mem _ hr))

lemma ImportsAt.congr (library : List UInt8 → Library) (h : ImportsAt img c ds)
    (hread : ∀ r ∈ importRanges c ds, SameRange img img' r)
    (hslots : ∀ p ∈ importPatches library ds, SameRange img img' (p.addr, 8)) :
    ImportsAt img' c ds := by
  induction ds generalizing c with
  | nil => exact ((hread (c, 20) List.mem_cons_self).read (by decide)).trans h
  | cons d ds ih =>
    obtain ⟨horiginal, hname, hne, hfirst, hstring, hthunks, hrest⟩ := h
    have hdescriptor := hread (c, 20) List.mem_cons_self
    have hread' : ∀ r ∈ thunkRanges d.original d.first d.thunks ++ importRanges (c + 20) ds,
        SameRange img img' r :=
      fun r hr => hread r (List.mem_cons_of_mem _ (List.mem_cons_of_mem _ hr))
    have hslots' : ∀ p ∈ thunkPatches (library d.dll) d.first d.thunks ++ importPatches library ds,
        SameRange img img' (p.addr, 8) :=
      fun p hp => hslots p (by rwa [importPatches, List.flatMap_cons])
    refine ⟨(hdescriptor.read (k := 0) (by decide)).trans horiginal,
      (hdescriptor.read (by decide)).trans hname, hne,
      (hdescriptor.read (by decide)).trans hfirst,
      hstring.congr (hread _ (List.mem_cons_of_mem _ List.mem_cons_self)),
      hthunks.congr (fun r hr => hread' r (List.mem_append_left _ hr))
        (fun p hp => hslots' p (List.mem_append_left _ hp)),
      ih hrest (fun r hr => hread' r (List.mem_append_right _ hr))
        (fun p hp => hslots' p (List.mem_append_right _ hp))⟩

lemma ThunksAt.tail {t : Thunk} (h : ThunksAt img o f (t :: ts)) :
    ThunksAt img (o + 8) (f + 8) ts := by
  cases t with
  | ordinal n => exact h.2.2
  | named hint s => exact h.2.2.2.2

/-- The image imports these DLLs: its tables lie in it, and apart from the words that are
written. -/
structure Imports (img : Memory) (size c : ℕ) (library : List UInt8 → Library) (ds : List Import) :
    Prop where
  tables : ImportsAt img c ds
  fits : ∀ r ∈ importRanges c ds, r.1 + r.2 ≤ size
  slots : ∀ p ∈ importPatches library ds, p.addr + 8 ≤ size
  spares : ∀ p ∈ importPatches library ds, ∀ r ∈ importRanges c ds, p.Spares r.1 r.2
  apart : (importPatches library ds).Pairwise fun p q => p.Spares q.addr 8

variable {library : List UInt8 → Library} {d : Import}

lemma mem_importRanges_tail {r : ℕ × ℕ} (h : r ∈ importRanges (c + 20) ds) :
    r ∈ importRanges c (d :: ds) :=
  List.mem_cons_of_mem _ (List.mem_cons_of_mem _ (List.mem_append_right _ h))

lemma importPatches_cons : importPatches library (d :: ds) =
    thunkPatches (library d.dll) d.first d.thunks ++ importPatches library ds :=
  List.flatMap_cons

/-- The other DLLs are still imported when the functions of the first one are written. -/
lemma Imports.tail (h : Imports img size c library (d :: ds)) :
    Imports (Patch.applyAll img (thunkPatches (library d.dll) d.first d.thunks)) size (c + 20)
      library ds := by
  obtain ⟨htables, hfits, hslots, hspares, happart⟩ := h
  rw [importPatches_cons] at hslots hspares happart
  obtain ⟨-, happart, hbetween⟩ := List.pairwise_append.mp happart
  refine ⟨htables.2.2.2.2.2.2.congr library (fun r hr i hi => ?_) (fun q hq i hi => ?_),
    fun r hr => hfits r (mem_importRanges_tail hr),
    fun p hp => hslots p (List.mem_append_right _ hp),
    fun p hp r hr => hspares p (List.mem_append_right _ hp) r (mem_importRanges_tail hr), happart⟩
  · exact Patch.applyAll_of_spares
      (fun p hp => hspares p (List.mem_append_left _ hp) r (mem_importRanges_tail hr)) hi
  · exact Patch.applyAll_of_spares (fun p hp => hbetween p hp q hq) hi

lemma mem_thunkPatches {i : ℕ} {t : Thunk} (h : ts[i]? = some t) :
    (⟨f + 8 * i, 8, fun _ => t.address L⟩ : Patch) ∈ thunkPatches L f ts := by
  induction ts generalizing f i with
  | nil => cases h
  | cons u ts ih =>
    cases i with
    | zero =>
      cases h
      exact List.mem_cons_self
    | succ i =>
      rw [show f + 8 * (i + 1) = f + 8 + 8 * i by omega]
      exact List.mem_cons_of_mem _ (ih h)

lemma width_of_mem_thunkPatches {p : Patch} (h : p ∈ thunkPatches L f ts) : p.width = 8 := by
  induction ts generalizing f with
  | nil => cases h
  | cons t ts ih =>
    rcases List.mem_cons.mp h with rfl | h
    · rfl
    · exact ih h

lemma width_of_mem_importPatches {p : Patch} (h : p ∈ importPatches library ds) : p.width = 8 := by
  obtain ⟨d, -, hp⟩ := List.mem_flatMap.mp h
  exact width_of_mem_thunkPatches hp

/-- The word of a function holds its address. -/
lemma Imports.read (h : Imports img size c library ds) (hd : d ∈ ds) {i : ℕ} {t : Thunk}
    (ht : d.thunks[i]? = some t) :
    (Patch.applyAll img (importPatches library ds)).read (d.first + 8 * i) 8 =
      t.address (library d.dll) % 18446744073709551616 := by
  have happart : (importPatches library ds).Pairwise Patch.Apart :=
    h.apart.imp_of_mem fun {p q} _ hq hpq => by
      rw [Patch.Apart, width_of_mem_importPatches hq]
      exact hpq
  have hmem : (⟨d.first + 8 * i, 8, fun _ => t.address (library d.dll)⟩ : Patch) ∈
      importPatches library ds := List.mem_flatMap.mpr ⟨d, hd, mem_thunkPatches ht⟩
  have hread := Patch.read_applyAll (m := img) happart hmem
  exact hread

end Pass

end Loader
end SakuraTools
