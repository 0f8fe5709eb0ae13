import Mathlib.Data.List.Nodup
import SakuraTools.Loader.Exports

/-!
# The functions of Windows

How `native/ReflectiveLoader.c` finds the four functions that it needs: it goes through the modules
of the process and through what they export, and compares hashes of names where `GetProcAddressR`
compares names.
-/

namespace SakuraTools
namespace Loader

open Memory

/-! ## Hashes -/

def KERNEL32DLL_HASH : UInt32 := 0x6A4ABC5B
def NTDLLDLL_HASH : UInt32 := 0x3CFA685D

def LOADLIBRARYA_HASH : UInt32 := 0xEC0E4E8E
def GETPROCADDRESS_HASH : UInt32 := 0x7C0DFCAA
def VIRTUALALLOC_HASH : UInt32 := 0x91AFCA54
def NTFLUSHINSTRUCTIONCACHE_HASH : UInt32 := 0x534C0AB8

/-- `ror`, where `HASH_KEY` is 13. -/
def ror (d : UInt32) : UInt32 := d >>> 13 ||| d <<< 19

/-- What is added for a `char`, which has a sign. -/
def charValue (c : UInt8) : UInt32 := if c < 128 then c.toUInt32 else c.toUInt32 + 0xFFFFFF00

/-- The loop of `hash`, in a memory where strings end within `limit` bytes. -/
def hashLoop (m : Memory) : ℕ → ℕ → UInt32 → Option UInt32
  | 0, _, _ => none
  | limit + 1, c, h =>
    let h' := ror h + charValue (m c)
    if m (c + 1) = 0 then some h' else hashLoop m limit (c + 1) h'

/-- What is added for a byte of the name of a module. -/
def upper (c : UInt8) : UInt8 := if 0x61 ≤ c then c - 0x20 else c

/-- The loop over the bytes of the name of a module. -/
def moduleHash (m : Memory) : ℕ → ℕ → UInt32 → UInt32
  | 0, _, h => h
  | n + 1, b, h => moduleHash m n (b + 1) (ror h + (upper (m b)).toUInt32)

/-! ## The search -/

/-- `pLoadLibraryA`, `pGetProcAddress`, `pVirtualAlloc` and `pNtFlushInstructionCache` -/
structure Found where
  LoadLibraryA : ℕ
  GetProcAddress : ℕ
  VirtualAlloc : ℕ
  NtFlushInstructionCache : ℕ
deriving DecidableEq, Repr

def Found.nothing : Found := ⟨0, 0, 0, 0⟩

/-- The function with this hash is at `a`. -/
def Found.store (f : Found) (h : UInt32) (a : ℕ) : Found :=
  if h = LOADLIBRARYA_HASH then { f with LoadLibraryA := a }
  else if h = GETPROCADDRESS_HASH then { f with GetProcAddress := a }
  else if h = VIRTUALALLOC_HASH then { f with VirtualAlloc := a }
  else if h = NTFLUSHINSTRUCTIONCACHE_HASH then { f with NtFlushInstructionCache := a }
  else f

def Found.all (f : Found) : Bool :=
  f.LoadLibraryA != 0 && f.GetProcAddress != 0 && f.VirtualAlloc != 0 &&
    f.NtFlushInstructionCache != 0

def kernelHashes : List UInt32 := [LOADLIBRARYA_HASH, GETPROCADDRESS_HASH, VIRTUALALLOC_HASH]
def ntHashes : List UInt32 := [NTFLUSHINSTRUCTIONCACHE_HASH]

/-- The loop over the names of the module at `base`: it ends when it has found as many functions as
`usCounter` says, and does not look at the number of names. -/
def hashExports (m : Memory) (limit base : ℕ) (wanted : List UInt32) :
    ℕ → ℕ → ℕ → ℕ → Found → Option Found
  | _, 0, _, _, f => some f
  | 0, _ + 1, _, _, _ => none
  | fuel + 1, usCounter + 1, names, ordinals, f =>
    match hashLoop m limit (base + m.read names 4) 0 with
    | none => none
    | some h =>
      if h ∈ wanted then
        let address := base + AddressOfFunctions m (imageDirectory m base) + m.read ordinals 2 * 4
        hashExports m limit base wanted fuel usCounter (names + 4) (ordinals + 2)
          (f.store h (base + m.read address 4))
      else hashExports m limit base wanted fuel (usCounter + 1) (names + 4) (ordinals + 2) f

/-- What is done with the module at `base`. -/
def searchModule (m : Memory) (limit base : ℕ) (wanted : List UInt32) (f : Found) : Option Found :=
  hashExports m limit base wanted limit wanted.length
    (base + AddressOfNames m (imageDirectory m base))
    (base + AddressOfNameOrdinals m (imageDirectory m base)) f

/-- The loop over the modules: `a` is an `LDR_DATA_TABLE_ENTRY`, which begins with the link to the
next one. -/
def searchModules (m : Memory) (limit : ℕ) : ℕ → ℕ → Found → Option Found
  | 0, _, _ => none
  | fuel + 1, a, f =>
    if a = 0 then some f
    else
      let length := m.read (a + 72) 2
      -- the counter is a `USHORT` that is decremented before it is tested
      let h := moduleHash m (if length = 0 then 65536 else length) (m.read (a + 80) 8) 0
      let searched :=
        if h = KERNEL32DLL_HASH then searchModule m limit (m.read (a + 32) 8) kernelHashes f
        else if h = NTDLLDLL_HASH then searchModule m limit (m.read (a + 32) 8) ntHashes f
        else some f
      match searched with
      | none => none
      | some f' => if f'.all then some f' else searchModules m limit fuel (m.read a 8) f'

/-- The search, with the PEB of the process. -/
def findFunctions (m : Memory) (limit peb : ℕ) : Option Found :=
  let pLdr := m.read (peb + 24) 8
  searchModules m limit limit (m.read (pLdr + 32) 8) .nothing

/-! ## Names and their hashes -/

/-- The bytes of a text, and those of the text with two bytes for each character. -/
def bytes (s : String) : List UInt8 := s.toList.map fun c => UInt8.ofNat c.toNat
def wideBytes (s : String) : List UInt8 := (bytes s).flatMap fun c => [c, 0]

def hashOf (s : List UInt8) : UInt32 := s.foldl (fun h c => ror h + charValue c) 0

def moduleHashOf (s : List UInt8) : UInt32 :=
  s.foldl (fun h c => ror h + (upper c).toUInt32) 0

/-- The functions of `kernel32.dll` and of `ntdll.dll` that are looked for. -/
def kernelNames : List (List UInt8) :=
  [bytes "LoadLibraryA", bytes "GetProcAddress", bytes "VirtualAlloc"]
def ntNames : List (List UInt8) := [bytes "NtFlushInstructionCache"]

lemma kernelHashes_eq : kernelHashes = kernelNames.map hashOf := by decide

lemma ntHashes_eq : ntHashes = ntNames.map hashOf := by decide

section Hash

variable {m : Memory} {a : ℕ} {s : List UInt8} {h : UInt32}

lemma hashLoop_eq (hs : StringAt m a s) (hne : s ≠ []) {limit : ℕ} (hlimit : s.length ≤ limit)
    (h : UInt32) :
    hashLoop m limit a h = some (s.foldl (fun h c => ror h + charValue c) h) := by
  induction s generalizing a limit h with
  | nil => exact absurd rfl hne
  | cons c s ih =>
    rw [List.length_cons] at hlimit
    obtain ⟨limit, rfl⟩ : ∃ l, limit = l + 1 := ⟨limit - 1, by omega⟩
    obtain ⟨-, hbyte, hrest⟩ := hs
    rw [hashLoop, hbyte]
    cases s with
    | nil =>
      have hend : m (a + 1) = 0 := hrest
      simp only [hend, if_true, List.foldl_cons, List.foldl_nil]
    | cons d s =>
      have hmore : m (a + 1) ≠ 0 := hrest.2.1 ▸ hrest.1
      simp only [hmore, if_false]
      exact ih hrest (List.cons_ne_nil d s) (by omega) _

lemma moduleHash_eq (hs : ∀ i c, s[i]? = some c → m (a + i) = c) (h : UInt32) :
    moduleHash m s.length a h = s.foldl (fun h c => ror h + (upper c).toUInt32) h := by
  induction s generalizing a h with
  | nil => rfl
  | cons c s ih =>
    have hbyte : m a = c := hs 0 c rfl
    rw [List.length_cons, moduleHash, List.foldl_cons, hbyte]
    refine ih (fun i d hd => ?_) _
    rw [Nat.add_assoc, Nat.add_comm 1 i]
    exact hs (i + 1) d hd

/-- The hash of a module does not see the case of its name. -/
lemma moduleHashOf_eq (s : List UInt8) :
    moduleHashOf s = (s.map upper).foldl (fun h c => ror h + c.toUInt32) 0 := by
  rw [List.foldl_map]
  rfl

end Hash

/-! ## What the search finds -/

/-- Among the functions that a DLL exports, each with its own name, only those with these names have
their hashes. -/
structure Named (es : List Export) (names : List (List UInt8)) : Prop where
  nonempty : ∀ e ∈ es, e.name ≠ []
  nodup : (es.map Export.name).Nodup
  mem : ∀ s ∈ names, s ∈ es.map Export.name
  only : ∀ e ∈ es, hashOf e.name ∈ names.map hashOf → e.name ∈ names

/-- The address that was found under a hash. -/
def Found.get (f : Found) (h : UInt32) : ℕ :=
  if h = LOADLIBRARYA_HASH then f.LoadLibraryA
  else if h = GETPROCADDRESS_HASH then f.GetProcAddress
  else if h = VIRTUALALLOC_HASH then f.VirtualAlloc
  else if h = NTFLUSHINSTRUCTIONCACHE_HASH then f.NtFlushInstructionCache
  else 0

section Search

variable {m : Memory} {limit base : ℕ} {es : List Export} {names : List (List UInt8)}
  {wanted : List UInt32} {f g : Found} {h h' : UInt32} {a : ℕ}

lemma Found.get_store_self (hh : h ∈ kernelHashes ++ ntHashes) : (f.store h a).get h = a := by
  simp only [kernelHashes, ntHashes, List.cons_append, List.nil_append, List.mem_cons,
    List.not_mem_nil, or_false] at hh
  rcases hh with rfl | rfl | rfl | rfl <;> rfl

lemma Found.get_store_of_ne (hne : h' ≠ h) : (f.store h a).get h' = f.get h' := by
  unfold store get
  split_ifs <;> first | rfl | (subst_vars; exact absurd rfl hne)

lemma Found.eq_of_get (hget : ∀ h ∈ kernelHashes ++ ntHashes, f.get h = g.get h) : f = g := by
  obtain ⟨a, b, c, d⟩ := f
  obtain ⟨a', b', c', d'⟩ := g
  have ha : a = a' := hget LOADLIBRARYA_HASH (by decide)
  have hb : b = b' := hget GETPROCADDRESS_HASH (by decide)
  have hc : c = c' := hget VIRTUALALLOC_HASH (by decide)
  have hd : d = d' := hget NTFLUSHINSTRUCTIONCACHE_HASH (by decide)
  rw [ha, hb, hc, hd]

/-- What is stored for an export. -/
def Found.add (base : ℕ) (f : Found) (e : Export) : Found :=
  f.store (hashOf e.name) (base + e.rva)

/-- The loop over the names stores the first exports that are wanted. -/
lemma hashExports_eq {usCounter fuel names ordinals : ℕ}
    (hstring : ∀ i e, es[i]? = some e →
      StringAt m (base + m.read (names + 4 * i) 4) e.name ∧ e.name ≠ [] ∧ e.name.length ≤ limit)
    (hrva : ∀ i e, es[i]? = some e → m.read (base + AddressOfFunctions m (imageDirectory m base) +
      m.read (ordinals + 2 * i) 2 * 4) 4 = e.rva)
    (hcounter : usCounter ≤ (es.filter fun e => hashOf e.name ∈ wanted).length)
    (hfuel : es.length ≤ fuel) (f : Found) :
    hashExports m limit base wanted fuel usCounter names ordinals f = some
      (((es.filter fun e => hashOf e.name ∈ wanted).take usCounter).foldl (Found.add base) f) := by
  induction es generalizing usCounter fuel names ordinals f with
  | nil =>
    obtain rfl : usCounter = 0 := by simpa using hcounter
    cases fuel <;> rfl
  | cons e es ih =>
    obtain ⟨fuel, rfl⟩ : ∃ l, fuel = l + 1 := ⟨fuel - 1, by rw [List.length_cons] at hfuel; omega⟩
    have hfuel' : es.length ≤ fuel := by simpa using hfuel
    have hstring' : ∀ i e, es[i]? = some e →
        StringAt m (base + m.read (names + 4 + 4 * i) 4) e.name ∧ e.name ≠ [] ∧
          e.name.length ≤ limit := by
      intro i e' he'
      rw [show names + 4 + 4 * i = names + 4 * (i + 1) by omega]
      exact hstring (i + 1) e' he'
    have hrva' : ∀ i e, es[i]? = some e → m.read (base +
        AddressOfFunctions m (imageDirectory m base) + m.read (ordinals + 2 + 2 * i) 2 * 4) 4 =
          e.rva := by
      intro i e' he'
      rw [show ordinals + 2 + 2 * i = ordinals + 2 * (i + 1) by omega]
      exact hrva (i + 1) e' he'
    cases usCounter with
    | zero => rfl
    | succ usCounter =>
      obtain ⟨hname, hne, hlimit⟩ := hstring 0 e rfl
      have hhash : hashLoop m limit (base + m.read names 4) 0 = some (hashOf e.name) :=
        hashLoop_eq hname hne hlimit 0
      rw [hashExports, hhash]
      by_cases hwanted : hashOf e.name ∈ wanted
      · have hadd : f.store (hashOf e.name) (base + m.read (base +
            AddressOfFunctions m (imageDirectory m base) + m.read ordinals 2 * 4) 4) =
              f.add base e := by
          rw [Found.add, ← hrva 0 e rfl]
          rfl
        rw [List.filter_cons_of_pos (by simpa using hwanted)] at hcounter ⊢
        simp only [hwanted, if_true, hadd]
        exact ih hstring' hrva' (by simpa using hcounter) hfuel' _
      · rw [List.filter_cons_of_neg (by simpa using hwanted)] at hcounter ⊢
        simp only [hwanted, if_false]
        exact ih hstring' hrva' hcounter hfuel' f

lemma get_foldl_add_of_not {es : List Export} (hnot : ∀ e ∈ es, hashOf e.name ≠ h) (f : Found) :
    (es.foldl (Found.add base) f).get h = f.get h := by
  induction es generalizing f with
  | nil => rfl
  | cons e es ih =>
    rw [List.foldl_cons, ih fun e' he' => hnot e' (List.mem_cons_of_mem e he'), Found.add]
    exact Found.get_store_of_ne (hnot e List.mem_cons_self).symm

lemma get_foldl_add {es : List Export} {e : Export} (he : e ∈ es)
    (hknown : hashOf e.name ∈ kernelHashes ++ ntHashes)
    (hsame : ∀ e' ∈ es, hashOf e'.name = hashOf e.name → e' = e) (f : Found) :
    (es.foldl (Found.add base) f).get (hashOf e.name) = base + e.rva := by
  induction es generalizing f with
  | nil => cases he
  | cons e₀ es ih =>
    rw [List.foldl_cons]
    by_cases hrest : e ∈ es
    · exact ih hrest (fun e' he' => hsame e' (List.mem_cons_of_mem e₀ he')) _
    · obtain rfl : e = e₀ := (List.mem_cons.mp he).resolve_right hrest
      rw [get_foldl_add_of_not, Found.add, Found.get_store_self hknown]
      intro e' he' hhash
      exact hrest (hsame e' (List.mem_cons_of_mem e he') hhash ▸ he')

/-- As many functions are wanted as there are names. -/
lemma Named.length_filter (hnamed : Named es names) (hnodup : names.Nodup) :
    (es.filter fun e => hashOf e.name ∈ names.map hashOf).length = names.length := by
  have hperm : ((es.filter fun e => hashOf e.name ∈ names.map hashOf).map Export.name).Perm
      names := by
    refine (List.perm_ext_iff_of_nodup ?_ hnodup).mpr fun s => ⟨fun hs => ?_, fun hs => ?_⟩
    · exact hnamed.nodup.sublist (List.filter_sublist.map Export.name)
    · obtain ⟨e, he, rfl⟩ := List.mem_map.mp hs
      obtain ⟨hmem, hwanted⟩ := List.mem_filter.mp he
      exact hnamed.only e hmem (by simpa using hwanted)
    · obtain ⟨e, he, rfl⟩ := List.mem_map.mp (hnamed.mem s hs)
      refine List.mem_map.mpr ⟨e, List.mem_filter.mpr ⟨he, ?_⟩, rfl⟩
      exact decide_eq_true (List.mem_map.mpr ⟨e.name, hs, rfl⟩)
  rw [← hperm.length_eq, List.length_map]

/-- A name is found where it is, as every name is there once. -/
lemma Named.find (hnamed : Named es names) {e : Export} (he : e ∈ es) :
    es.find? (fun e' => decide (e'.name = e.name)) = some e := by
  cases hfind : es.find? fun e' => decide (e'.name = e.name) with
  | none => exact absurd (decide_eq_true rfl) (List.find?_eq_none.mp hfind e he)
  | some e' =>
    have hname : e'.name = e.name := by simpa using List.find?_some hfind
    rw [List.inj_on_of_nodup_map hnamed.nodup (List.mem_of_find?_eq_some hfind) he hname]

/-- What a search in a module stores: for the names, what `GetProcAddressR` finds. -/
lemma searchModule_eq (hes : ImageExports m base es) (hbase : base ≠ 0)
    (hnamed : Named es names) (hnodup : (names.map hashOf).Nodup)
    (hknown : ∀ s ∈ names, hashOf s ∈ kernelHashes ++ ntHashes) (hlimit : es.length ≤ limit)
    (hnames : ∀ e ∈ es, e.name.length ≤ limit) (f : Found) :
    ∃ f', searchModule m limit base (names.map hashOf) f = some f' ∧
      (∀ s ∈ names, f'.get (hashOf s) = GetProcAddressR m base (.name s)) ∧
      ∀ h ∉ names.map hashOf, f'.get h = f.get h := by
  have hlength := hnamed.length_filter (List.Nodup.of_map hashOf hnodup)
  refine ⟨_, hashExports_eq (fun i e he => ?_) hes.rva ?_ hlimit f, fun s hs => ?_, fun h hh => ?_⟩
  · have hmem := List.mem_of_getElem? he
    exact ⟨hes.string i e he, hnamed.nonempty e hmem, hnames e hmem⟩
  · rw [hlength, List.length_map]
  · obtain ⟨e, he, rfl⟩ := List.mem_map.mp (hnamed.mem s hs)
    obtain ⟨i, hi⟩ := List.mem_iff_getElem?.mp he
    rw [hes.getProcAddressR hbase (hes.string i e hi).ne_zero, hnamed.find he,
      List.take_of_length_le (by rw [hlength, List.length_map])]
    refine get_foldl_add (List.mem_filter.mpr ⟨he, ?_⟩) (hknown e.name hs)
      (fun e' he' hhash => ?_) f
    · exact decide_eq_true (List.mem_map.mpr ⟨e.name, hs, rfl⟩)
    · obtain ⟨hmem, hwanted⟩ := List.mem_filter.mp he'
      have hs' := hnamed.only e' hmem (by simpa using hwanted)
      exact List.inj_on_of_nodup_map hnamed.nodup hmem he
        (List.inj_on_of_nodup_map hnodup hs' hs hhash)
  · refine get_foldl_add_of_not (fun e he hhash => ?_) f
    have hmem := List.mem_of_mem_take he
    have hwanted := (List.mem_filter.mp hmem).2
    rw [decide_eq_true_eq, hhash] at hwanted
    exact hh hwanted

end Search

/-! ## The modules of the process -/

/-- A module of the process, with what it exports. -/
structure Module where
  name : List UInt8
  base : ℕ
  exports : List Export

/-- The list of modules goes on at `a` with these. -/
def ModulesAt (m : Memory) : ℕ → List Module → Prop
  | _, [] => True
  | a, x :: ms =>
    a ≠ 0 ∧ m.read (a + 72) 2 = x.name.length ∧ x.name ≠ [] ∧
      (∀ i c, x.name[i]? = some c → m (m.read (a + 80) 8 + i) = c) ∧
      m.read (a + 32) 8 = x.base ∧ ModulesAt m (m.read a 8) ms

/-- The module is a DLL with these functions. -/
structure Module.Offers (x : Module) (m : Memory) (limit : ℕ) (names : List (List UInt8)) : Prop
    where
  base : x.base ≠ 0
  exports : ImageExports m x.base x.exports
  named : Named x.exports names
  count : x.exports.length ≤ limit
  lengths : ∀ e ∈ x.exports, e.name.length ≤ limit

section Modules

variable {m : Memory} {limit a peb : ℕ} {ms ms' : List Module} {x k n : Module} {f : Found}
  {h : UInt32} {names : List (List UInt8)}

/-- What the search returns, if it does what `GetProcAddressR` does. -/
def realFunctions (m : Memory) (k n : Module) : Found where
  LoadLibraryA := GetProcAddressR m k.base (.name (bytes "LoadLibraryA"))
  GetProcAddress := GetProcAddressR m k.base (.name (bytes "GetProcAddress"))
  VirtualAlloc := GetProcAddressR m k.base (.name (bytes "VirtualAlloc"))
  NtFlushInstructionCache := GetProcAddressR m n.base (.name (bytes "NtFlushInstructionCache"))

/-- The process has a `kernel32.dll` and an `ntdll.dll`, and no other module with one of their
hashes. -/
structure Windows (m : Memory) (limit : ℕ) (ms : List Module) (k n : Module) : Prop where
  kernel_mem : k ∈ ms
  nt_mem : n ∈ ms
  kernel_name : k.name.map upper = wideBytes "KERNEL32.DLL"
  nt_name : n.name.map upper = wideBytes "NTDLL.DLL"
  kernel_only : ∀ x ∈ ms, moduleHashOf x.name = KERNEL32DLL_HASH → x = k
  nt_only : ∀ x ∈ ms, moduleHashOf x.name = NTDLLDLL_HASH → x = n
  kernel_offers : k.Offers m limit kernelNames
  nt_offers : n.Offers m limit ntNames

lemma Windows.kernel_hash (h : Windows m limit ms k n) :
    moduleHashOf k.name = KERNEL32DLL_HASH := by
  rw [moduleHashOf_eq, h.kernel_name]
  decide

lemma Windows.nt_hash (h : Windows m limit ms k n) : moduleHashOf n.name = NTDLLDLL_HASH := by
  rw [moduleHashOf_eq, h.nt_name]
  decide

lemma Module.Offers.ne_zero (h : x.Offers m limit names) {s : List UInt8} (hs : s ∈ names) :
    GetProcAddressR m x.base (.name s) ≠ 0 := by
  obtain ⟨e, he, rfl⟩ := List.mem_map.mp (h.named.mem s hs)
  obtain ⟨i, hi⟩ := List.mem_iff_getElem?.mp he
  have hbase := h.base
  rw [h.exports.getProcAddressR hbase (h.exports.string i e hi).ne_zero, h.named.find he]
  simp only [Option.map_some, Option.getD_some]
  omega

/-- What is known when these modules are still to come: the functions of the two DLLs that have
been seen. -/
structure Progress (m : Memory) (k n : Module) (ms : List Module) (f : Found) : Prop where
  kernel : k ∈ ms ∧ (∀ h ∈ kernelHashes, f.get h = 0) ∨
    ∀ h ∈ kernelHashes, f.get h = (realFunctions m k n).get h
  nt : n ∈ ms ∧ (∀ h ∈ ntHashes, f.get h = 0) ∨
    ∀ h ∈ ntHashes, f.get h = (realFunctions m k n).get h

lemma Found.all_eq_false (hh : h ∈ kernelHashes ++ ntHashes) (hzero : f.get h = 0) :
    f.all = false := by
  simp only [kernelHashes, ntHashes, List.cons_append, List.nil_append, List.mem_cons,
    List.not_mem_nil, or_false] at hh
  rcases hh with rfl | rfl | rfl | rfl
  · simp [all, show f.LoadLibraryA = 0 from hzero]
  · simp [all, show f.GetProcAddress = 0 from hzero]
  · simp [all, show f.VirtualAlloc = 0 from hzero]
  · simp [all, show f.NtFlushInstructionCache = 0 from hzero]

/-- The search is over just when both DLLs have been seen. -/
lemma Progress.all_iff (hwindows : Windows m limit ms' k n) (h : Progress m k n ms f) :
    f.all = true ↔ f = realFunctions m k n := by
  constructor
  · intro hall
    refine Found.eq_of_get fun h' hh' => ?_
    rcases List.mem_append.mp hh' with hkernel | hnt
    · rcases h.kernel with ⟨-, hzero⟩ | hreal
      · rw [Found.all_eq_false hh' (hzero h' hkernel)] at hall
        cases hall
      · exact hreal h' hkernel
    · rcases h.nt with ⟨-, hzero⟩ | hreal
      · rw [Found.all_eq_false hh' (hzero h' hnt)] at hall
        cases hall
      · exact hreal h' hnt
  · rintro rfl
    have hkernel := fun s hs => hwindows.kernel_offers.ne_zero (s := s) hs
    have hnt := hwindows.nt_offers.ne_zero (s := bytes "NtFlushInstructionCache") (by decide)
    have hload := hkernel (bytes "LoadLibraryA") (by decide)
    have hget := hkernel (bytes "GetProcAddress") (by decide)
    have hvirtual := hkernel (bytes "VirtualAlloc") (by decide)
    simp [Found.all, realFunctions, hload, hget, hvirtual, hnt]

lemma get_realFunctions_kernel {s : List UInt8} (hs : s ∈ kernelNames) :
    (realFunctions m k n).get (hashOf s) = GetProcAddressR m k.base (.name s) := by
  have hload : hashOf (bytes "LoadLibraryA") = LOADLIBRARYA_HASH := by decide
  have hget : hashOf (bytes "GetProcAddress") = GETPROCADDRESS_HASH := by decide
  have hvirtual : hashOf (bytes "VirtualAlloc") = VIRTUALALLOC_HASH := by decide
  simp only [kernelNames, List.mem_cons, List.not_mem_nil, or_false] at hs
  rcases hs with rfl | rfl | rfl
  · rw [hload]
    rfl
  · rw [hget]
    rfl
  · rw [hvirtual]
    rfl

lemma get_realFunctions_nt {s : List UInt8} (hs : s ∈ ntNames) :
    (realFunctions m k n).get (hashOf s) = GetProcAddressR m n.base (.name s) := by
  have hflush : hashOf (bytes "NtFlushInstructionCache") = NTFLUSHINSTRUCTIONCACHE_HASH := by
    decide
  obtain rfl := List.mem_singleton.mp hs
  rw [hflush]
  rfl

lemma not_mem_kernelHashes (hh : h ∈ ntHashes) : h ∉ kernelHashes := by
  obtain rfl := List.mem_singleton.mp hh
  decide

lemma Windows.ne (h : Windows m limit ms k n) : n ≠ k := by
  rintro rfl
  have hhash := h.kernel_hash.symm.trans h.nt_hash
  exact absurd hhash (by decide)

/-- What the search in `kernel32.dll` adds. -/
lemma Progress.kernel_step (hwindows : Windows m limit ms' k n) (h : Progress m k n (k :: ms) f) :
    ∃ f', searchModule m limit k.base kernelHashes f = some f' ∧ Progress m k n ms f' := by
  obtain ⟨hbase, hexports, hnamed, hcount, hlengths⟩ := hwindows.kernel_offers
  obtain ⟨f', hsearch, hfound, hother⟩ := searchModule_eq hexports hbase hnamed (by decide)
    (by decide) hcount hlengths f
  rw [← kernelHashes_eq] at hsearch hother
  have hkeep : ∀ h' ∈ ntHashes, f'.get h' = f.get h' :=
    fun h' hh' => hother h' (not_mem_kernelHashes hh')
  refine ⟨f', hsearch, .inr fun h' hh' => ?_, ?_⟩
  · rw [kernelHashes_eq] at hh'
    obtain ⟨s, hs, rfl⟩ := List.mem_map.mp hh'
    rw [hfound s hs, get_realFunctions_kernel hs]
  · rcases h.nt with ⟨hmem, hzero⟩ | hreal
    · exact .inl ⟨(List.mem_cons.mp hmem).resolve_left hwindows.ne,
        fun h' hh' => (hkeep h' hh').trans (hzero h' hh')⟩
    · exact .inr fun h' hh' => (hkeep h' hh').trans (hreal h' hh')

/-- What the search in `ntdll.dll` adds. -/
lemma Progress.nt_step (hwindows : Windows m limit ms' k n) (h : Progress m k n (n :: ms) f) :
    ∃ f', searchModule m limit n.base ntHashes f = some f' ∧ Progress m k n ms f' := by
  obtain ⟨hbase, hexports, hnamed, hcount, hlengths⟩ := hwindows.nt_offers
  obtain ⟨f', hsearch, hfound, hother⟩ := searchModule_eq hexports hbase hnamed (by decide)
    (by decide) hcount hlengths f
  rw [← ntHashes_eq] at hsearch hother
  have hkeep : ∀ h' ∈ kernelHashes, f'.get h' = f.get h' :=
    fun h' hh' => hother h' fun hnt => not_mem_kernelHashes hnt hh'
  refine ⟨f', hsearch, ?_, .inr fun h' hh' => ?_⟩
  · rcases h.kernel with ⟨hmem, hzero⟩ | hreal
    · exact .inl ⟨(List.mem_cons.mp hmem).resolve_left hwindows.ne.symm,
        fun h' hh' => (hkeep h' hh').trans (hzero h' hh')⟩
    · exact .inr fun h' hh' => (hkeep h' hh').trans (hreal h' hh')
  · rw [ntHashes_eq] at hh'
    obtain ⟨s, hs, rfl⟩ := List.mem_map.mp hh'
    rw [hfound s hs, get_realFunctions_nt hs]

/-- A module that is neither adds nothing. -/
lemma Progress.skip (h : Progress m k n (x :: ms) f) (hk : x ≠ k) (hn : x ≠ n) :
    Progress m k n ms f where
  kernel := h.kernel.imp_left (And.imp_left fun hmem =>
    (List.mem_cons.mp hmem).resolve_left hk.symm)
  nt := h.nt.imp_left (And.imp_left fun hmem => (List.mem_cons.mp hmem).resolve_left hn.symm)

/-- What is known after all modules. -/
lemma Progress.done (h : Progress m k n [] f) : f = realFunctions m k n := by
  refine Found.eq_of_get fun h' hh' => ?_
  rcases List.mem_append.mp hh' with hkernel | hnt
  · exact h.kernel.resolve_left (fun hmem => List.not_mem_nil hmem.1) h' hkernel
  · exact h.nt.resolve_left (fun hmem => List.not_mem_nil hmem.1) h' hnt

/-- What the loop over the modules finds. -/
lemma searchModules_eq (hwindows : Windows m limit ms' k n) (hms : ModulesAt m a ms)
    (hsub : ∀ x ∈ ms, x ∈ ms') (h : Progress m k n ms f) (hnot : f ≠ realFunctions m k n)
    {fuel : ℕ} (hfuel : ms.length ≤ fuel) :
    searchModules m limit fuel a f = some (realFunctions m k n) := by
  induction ms generalizing a f fuel with
  | nil => exact absurd h.done hnot
  | cons x ms ih =>
    obtain ⟨fuel, rfl⟩ : ∃ l, fuel = l + 1 := ⟨fuel - 1, by rw [List.length_cons] at hfuel; omega⟩
    obtain ⟨ha, hlength, hne, hname, hbase, hrest⟩ := hms
    have hx := hsub x List.mem_cons_self
    have hpos : x.name.length ≠ 0 := fun hzero => hne (List.length_eq_zero_iff.mp hzero)
    have hhash : moduleHash m x.name.length (m.read (a + 80) 8) 0 = moduleHashOf x.name :=
      moduleHash_eq hname 0
    -- a module that has been searched is not searched again
    obtain ⟨f', hsearched, h'⟩ : ∃ f',
        (if moduleHashOf x.name = KERNEL32DLL_HASH then searchModule m limit x.base kernelHashes f
        else if moduleHashOf x.name = NTDLLDLL_HASH then searchModule m limit x.base ntHashes f
        else some f) = some f' ∧ Progress m k n ms f' := by
      split_ifs with hkernel hnt
      · obtain rfl := hwindows.kernel_only x hx hkernel
        exact h.kernel_step hwindows
      · obtain rfl := hwindows.nt_only x hx hnt
        exact h.nt_step hwindows
      · exact ⟨f, rfl, h.skip (fun heq => hkernel (heq ▸ hwindows.kernel_hash))
          fun heq => hnt (heq ▸ hwindows.nt_hash)⟩
    rw [searchModules, if_neg ha]
    simp only [hlength, hbase, if_neg hpos, hhash, hsearched]
    by_cases hall : f'.all = true
    · rw [if_pos hall, (h'.all_iff hwindows).mp hall]
    · rw [if_neg hall]
      exact ih hrest (fun y hy => hsub y (List.mem_cons_of_mem x hy)) h'
        (fun heq => hall ((h'.all_iff hwindows).mpr heq)) (by simpa using hfuel)

/-- The loader calls the functions that `GetProcAddressR` would find under their names, in the
modules that have the names, in whatever order and case the process lists them. -/
theorem findFunctions_agrees (hwindows : Windows m limit ms k n)
    (hms : ModulesAt m (m.read (m.read (peb + 24) 8 + 32) 8) ms) (hlimit : ms.length ≤ limit) :
    findFunctions m limit peb = some (realFunctions m k n) := by
  have hzero : ∀ h, Found.nothing.get h = 0 := by
    intro h
    unfold Found.get
    split_ifs <;> rfl
  have hload := hwindows.kernel_offers.ne_zero (s := bytes "LoadLibraryA") (by decide)
  refine searchModules_eq hwindows hms (fun _ hx => hx)
    ⟨.inl ⟨hwindows.kernel_mem, fun h _ => hzero h⟩, .inl ⟨hwindows.nt_mem, fun h _ => hzero h⟩⟩
    (fun heq => hload ?_) hlimit
  exact (congrArg Found.LoadLibraryA heq).symm

end Modules

/-! ## A sample -/

/-- A process with an `ntdll.dll` and a `Kernel32.dll`. -/
def sampleProcess : Memory :=
  [(0x1018, 8, 0x2000), (0x2020, 8, 0x3000), (0x3000, 8, 0x4000), (0x3020, 8, 0x300000),
    (0x3048, 2, 0x12), (0x3050, 8, 0x5000), (0x4020, 8, 0x200000), (0x4048, 2, 0x18),
    (0x4050, 8, 0x5100), (0x5000, 18, 0x6C006C0064002E006C006C00640074006E),
    (0x5100, 24, 0x6C006C0064002E00320033006C0065006E00720065004B), (0x20003C, 4, 0x40),
    (0x2000C8, 4, 0x100), (0x200118, 4, 4), (0x20011C, 4, 0x140), (0x200120, 4, 0x160),
    (0x200124, 4, 0x180), (0x200140, 4, 0x1000), (0x200160, 4, 0x200), (0x200180, 2, 0),
    (0x200200, 14, 0x73736572646441636F7250746547), (0x200144, 4, 0x1010), (0x200164, 4, 0x20F),
    (0x200182, 2, 1), (0x20020F, 12, 0x417972617262694C64616F4C), (0x200148, 4, 0x1020),
    (0x200168, 4, 0x21C), (0x200184, 2, 2), (0x20021C, 5, 0x7065656C53), (0x20014C, 4, 0x1030),
    (0x20016C, 4, 0x222), (0x200186, 2, 3), (0x200222, 12, 0x636F6C6C416C617574726956),
    (0x30003C, 4, 0x40), (0x3000C8, 4, 0x100), (0x300118, 4, 2), (0x30011C, 4, 0x140),
    (0x300120, 4, 0x160), (0x300124, 4, 0x180), (0x300140, 4, 0x2000), (0x300160, 4, 0x200),
    (0x300180, 2, 0), (0x300200, 7, 0x65736F6C43744E), (0x300144, 4, 0x2010), (0x300164, 4, 0x208),
    (0x300182, 2, 1), (0x300208, 23, 0x65686361436E6F697463757274736E496873756C46744E)].foldl
    (fun m w => m.write w.1 w.2.1 w.2.2) fun _ => 0

def sampleNt : Module where
  name := wideBytes "ntdll.dll"
  base := 0x300000
  exports := [⟨bytes "NtClose", 0x2000⟩, ⟨bytes "NtFlushInstructionCache", 0x2010⟩]

def sampleKernel32 : Module where
  name := wideBytes "Kernel32.dll"
  base := 0x200000
  exports := [⟨bytes "GetProcAddress", 0x1000⟩, ⟨bytes "LoadLibraryA", 0x1010⟩,
    ⟨bytes "Sleep", 0x1020⟩, ⟨bytes "VirtualAlloc", 0x1030⟩]

lemma forall_getElem? {es : List Export} {P : ℕ → Export → Prop}
    (h : ∀ p ∈ es.zipIdx, P p.2 p.1) (i : ℕ) (e : Export) (he : es[i]? = some e) : P i e :=
  h (e, i) (List.mk_mem_zipIdx_iff_getElem?.mpr he)

lemma imageExports_of_same {m : Memory} {base : ℕ} {es : List Export}
    (hcount : NumberOfNames m (imageDirectory m base) = es.length)
    (hstring : ∀ p ∈ es.zipIdx, sameString m (base +
      m.read (base + AddressOfNames m (imageDirectory m base) + 4 * p.2) 4) p.1.name = true)
    (hzero : ∀ p ∈ es.zipIdx, 0 ∉ p.1.name)
    (hrva : ∀ p ∈ es.zipIdx, m.read (base + AddressOfFunctions m (imageDirectory m base) +
      m.read (base + AddressOfNameOrdinals m (imageDirectory m base) + 2 * p.2) 2 * 4) 4 =
        p.1.rva) :
    ImageExports m base es where
  count := hcount
  string := forall_getElem? fun p hp => stringAt_of_sameString (hstring p hp) (hzero p hp)
  rva := forall_getElem? hrva

lemma sampleKernel32_offers : sampleKernel32.Offers sampleProcess 32 kernelNames where
  base := by decide
  exports := imageExports_of_same (by decide) (by decide) (by decide) (by decide)
  named := ⟨by decide, by decide, by decide, by decide⟩
  count := by decide
  lengths := by decide

lemma sampleNt_offers : sampleNt.Offers sampleProcess 32 ntNames where
  base := by decide
  exports := imageExports_of_same (by decide) (by decide) (by decide) (by decide)
  named := ⟨by decide, by decide, by decide, by decide⟩
  count := by decide
  lengths := by decide

lemma sampleProcess_windows :
    Windows sampleProcess 32 [sampleNt, sampleKernel32] sampleKernel32 sampleNt where
  kernel_mem := List.mem_cons_of_mem _ List.mem_cons_self
  nt_mem := List.mem_cons_self
  kernel_name := by decide
  nt_name := by decide
  kernel_only := by
    intro x hx hhash
    rcases List.mem_cons.mp hx with rfl | hx
    · exact absurd hhash (by decide)
    · exact List.mem_singleton.mp hx
  nt_only := by
    intro x hx hhash
    rcases List.mem_cons.mp hx with rfl | hx
    · rfl
    · obtain rfl := List.mem_singleton.mp hx
      exact absurd hhash (by decide)
  kernel_offers := sampleKernel32_offers
  nt_offers := sampleNt_offers

theorem findFunctions_agrees_sample :
    findFunctions sampleProcess 32 0x1000 = some ⟨0x201010, 0x201000, 0x201030, 0x302010⟩ := by
  have hname : ∀ {x : Module} {a : ℕ}, (List.range x.name.length).all
      (fun i => sampleProcess (a + i) == x.name.getD i 0) = true →
        ∀ i c, x.name[i]? = some c → sampleProcess (a + i) = c := by
    intro x a hall i c hc
    have hlt := (List.getElem?_eq_some_iff.mp hc).1
    have hbyte := List.all_eq_true.mp hall i (List.mem_range.mpr hlt)
    rw [beq_iff_eq.mp hbyte, List.getD_eq_getElem?_getD, hc]
    rfl
  refine (findFunctions_agrees sampleProcess_windows ⟨by decide, by decide, by decide,
    hname (by decide), by decide, by decide, by decide, by decide, hname (by decide), by decide,
    trivial⟩ (by decide)).trans ?_
  decide

end Loader
end SakuraTools
