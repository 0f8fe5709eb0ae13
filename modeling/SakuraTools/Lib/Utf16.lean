import Mathlib.Data.List.Basic
import Mathlib.Tactic.Common

/-!
# Text in 16-bit units

A character is a unit that is no surrogate, or a high and a low surrogate.  A text of 16-bit
units may have surrogates without their other half; a text that encodes characters has none.
-/

namespace SakuraTools
namespace Utf16

def IsHigh (c : UInt16) : Prop := 0xd800 ≤ c ∧ c ≤ 0xdbff

def IsLow (c : UInt16) : Prop := 0xdc00 ≤ c ∧ c ≤ 0xdfff

def IsSurrogate (c : UInt16) : Prop := 0xd800 ≤ c ∧ c ≤ 0xdfff

instance (c : UInt16) : Decidable (IsHigh c) := inferInstanceAs (Decidable (_ ∧ _))

instance (c : UInt16) : Decidable (IsLow c) := inferInstanceAs (Decidable (_ ∧ _))

instance (c : UInt16) : Decidable (IsSurrogate c) := inferInstanceAs (Decidable (_ ∧ _))

lemma IsHigh.isSurrogate {c : UInt16} (h : IsHigh c) : IsSurrogate c :=
  ⟨h.1, UInt16.le_trans h.2 (by decide)⟩

lemma IsLow.isSurrogate {c : UInt16} (h : IsLow c) : IsSurrogate c :=
  ⟨UInt16.le_trans (by decide) h.1, h.2⟩

lemma IsLow.not_isHigh {c : UInt16} (h : IsLow c) : ¬ IsHigh c := fun h' =>
  absurd (UInt16.le_trans h.1 h'.2) (by decide)

/-- A character of a text. -/
inductive Character where
  | unit (c : UInt16) (h : ¬ IsSurrogate c)
  | pair (high low : UInt16) (hhigh : IsHigh high) (hlow : IsLow low)
deriving DecidableEq

def Character.units : Character → List UInt16
  | unit c _ => [c]
  | pair high low _ _ => [high, low]

def encode (text : List Character) : List UInt16 := text.flatMap Character.units

/-- The characters of a text.  A surrogate without its other half is left out. -/
def decode : List UInt16 → List Character
  | [] => []
  | [c] => if h : IsSurrogate c then [] else [.unit c h]
  | c :: d :: text =>
    if h : IsHigh c ∧ IsLow d then .pair c d h.1 h.2 :: decode text
    else if h : IsSurrogate c then decode (d :: text)
    else .unit c h :: decode (d :: text)

/-- The unit at `i` is a surrogate, and the unit next to it is not its other half. -/
def UnpairedAt (text : List UInt16) (i : ℕ) : Prop :=
  (∃ c, text[i]? = some c ∧ IsHigh c ∧ ∀ d, text[i + 1]? = some d → ¬ IsLow d) ∨
  (∃ c, text[i]? = some c ∧ IsLow c ∧ ∀ j d, i = j + 1 → text[j]? = some d → ¬ IsHigh d)

@[simp] lemma encode_nil : encode [] = [] := rfl

@[simp] lemma encode_cons (x : Character) (text : List Character) :
    encode (x :: text) = x.units ++ encode text := List.flatMap_cons

lemma encode_append (text text' : List Character) :
    encode (text ++ text') = encode text ++ encode text' := List.flatMap_append

/-- A unit that is no high surrogate pairs with nothing. -/
lemma decode_cons {c : UInt16} (hc : ¬ IsSurrogate c) (text : List UInt16) :
    decode (c :: text) = .unit c hc :: decode text := by
  rcases text with _ | ⟨d, text⟩
  · exact dif_neg hc
  · rw [decode, dif_neg fun h => hc h.1.isSurrogate, dif_neg hc]

lemma decode_pair {c d : UInt16} (hc : IsHigh c) (hd : IsLow d) (text : List UInt16) :
    decode (c :: d :: text) = .pair c d hc hd :: decode text := by
  rw [decode, dif_pos ⟨hc, hd⟩]

lemma decode_unpaired {c : UInt16} (hc : IsSurrogate c) {text : List UInt16}
    (h : ¬ (IsHigh c ∧ ∃ d ∈ text.head?, IsLow d)) : decode (c :: text) = decode text := by
  rcases text with _ | ⟨d, text⟩
  · exact dif_pos hc
  · rw [decode, dif_neg fun h' => h ⟨h'.1, d, rfl, h'.2⟩, dif_pos hc]

/-- What decoding keeps of a text. -/
lemma encode_decode_sublist (text : List UInt16) : (encode (decode text)).Sublist text := by
  induction text using decode.induct with
  | case1 => exact .slnil
  | case2 c hc =>
    rw [decode, dif_pos hc]
    exact List.nil_sublist _
  | case3 c hc =>
    rw [decode, dif_neg hc]
    exact List.Sublist.refl _
  | case4 c d text hpair ih =>
    rw [decode_pair hpair.1 hpair.2]
    exact (ih.cons_cons d).cons_cons c
  | case5 c d text hpair hc ih =>
    rw [decode, dif_neg hpair, dif_pos hc]
    exact ih.cons c
  | case6 c d text hpair hc ih =>
    rw [decode_cons hc]
    exact ih.cons_cons c

lemma mem_of_mem_decode {text : List UInt16} {x : Character} (hx : x ∈ decode text) {c : UInt16}
    (hc : c ∈ x.units) : c ∈ text :=
  (encode_decode_sublist text).mem (List.mem_flatMap.mpr ⟨x, hx, hc⟩)

/-! ## Encoded characters -/

lemma UnpairedAt.of_cons {c : UInt16} {text : List UInt16} {i : ℕ}
    (h : UnpairedAt (c :: text) (i + 1)) : UnpairedAt text i := by
  rcases h with ⟨x, hx, hhigh, hnext⟩ | ⟨x, hx, hlow, hprev⟩
  · exact .inl ⟨x, by simpa using hx, hhigh, fun d hd => hnext d (by simpa using hd)⟩
  · refine .inr ⟨x, by simpa using hx, hlow, ?_⟩
    rintro j d rfl hd
    exact hprev (j + 1) d rfl (by simpa using hd)

/-- In encoded characters every surrogate has its other half. -/
theorem not_unpairedAt_encode (text : List Character) (i : ℕ) : ¬ UnpairedAt (encode text) i := by
  induction text generalizing i with
  | nil => rintro (⟨c, hc, -⟩ | ⟨c, hc, -⟩) <;> simp at hc
  | cons x text ih =>
    rcases x with ⟨c, hc⟩ | ⟨high, low, hhigh, hlow⟩
    · show ¬ UnpairedAt (c :: encode text) i
      rcases i with _ | i
      · rintro (⟨x, hx, hsur, -⟩ | ⟨x, hx, hsur, -⟩)
        · obtain rfl : c = x := by simpa using hx
          exact hc hsur.isSurrogate
        · obtain rfl : c = x := by simpa using hx
          exact hc hsur.isSurrogate
      · exact fun h => ih i h.of_cons
    · show ¬ UnpairedAt (high :: low :: encode text) i
      rcases i with _ | _ | i
      · rintro (⟨x, -, -, hnext⟩ | ⟨x, hx, hlow', -⟩)
        · exact hnext low (by simp) hlow
        · obtain rfl : high = x := by simpa using hx
          exact hlow'.not_isHigh hhigh
      · rintro (⟨x, hx, hhigh', -⟩ | ⟨x, -, -, hprev⟩)
        · obtain rfl : low = x := by simpa using hx
          exact hlow.not_isHigh hhigh'
        · exact hprev 0 high rfl (by simp) hhigh
      · exact fun h => ih i h.of_cons.of_cons

end Utf16
end SakuraTools
