import SakuraTools.Loader.Imports
import SakuraTools.Loader.Relocate

/-!
# The reflective loader

`ReflectiveLoader` of `native/ReflectiveLoader.c`, which makes an image of the file that it is part
of, with the functions of Windows that `findFunctions` finds.
-/

namespace SakuraTools
namespace Loader

open Memory

/-! ## The loader -/

section Copy

variable {m m' : Memory} {lib base size length a : ℕ} {ss : List SectionHeader}

/-- What the loader reads of the file. -/
structure FileFits (m : Memory) (lib length : ℕ) : Prop where
  headers_in : headersSize m lib ≤ length
  table_in : firstSection m (ntHeaders m lib) + 40 * NumberOfSections m (ntHeaders m lib) ≤
    lib + headersSize m lib
  raw_in : ∀ s ∈ fileSections m lib, s.PointerToRawData + s.SizeOfRawData ≤ length

end Copy

/-! ## The loaded image -/

section Loaded

variable {K : Kernel} {m : Memory} {lib length base delta limit caller : ℕ}
  {library : List UInt8 → Library} {ds : List Import} {bs : List RelocBlock}

end Loaded

/-! ## The sample -/

end Loader
end SakuraTools
