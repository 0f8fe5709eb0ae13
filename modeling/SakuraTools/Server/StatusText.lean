import Mathlib.Algebra.Order.Group.Int
import Mathlib.Data.List.Count
import SakuraTools.Lib.Fitting
import SakuraTools.Lib.Utf16

/-!
# The text of the status line

B's server list shows the name and the address of the server that A is on.  `displayLine` takes
out what could break a line of the list and cuts off what does not fit; `FormatServerMotd` puts
two such lines into a template.
-/

namespace SakuraTools
namespace Server

open Utf16

/-- The units of a text without characters beyond 16 bits. -/
def u16 (s : String) : List UInt16 := s.toList.map fun c => c.toNat.toUInt16

/-! ## The functions of the source -/

/-- The loop of `displayLine` over the units that are left, with the width of what is out
already; what it puts out.  No width is beyond `maxWidth`, so that an `int` holds it. -/
def displayLine.loop (maxWidth : ℤ) : List UInt16 → ℤ → List UInt16
  | [], _ => []
  | c :: text, width =>
    if c = 0xa7 then
      match text with
      | [] => []
      | _ :: text => loop maxWidth text width
    else
      let c := if c < 0x20 ∨ c = 0x7f ∨ c = 0x2028 ∨ c = 0x2029 then 0x20 else c
      let pair := IsHigh c ∧ ∃ d ∈ text.head?, IsLow d
      if ¬ pair ∧ IsSurrogate c then loop maxWidth text width
      else
        let advance := if c = 0x20 then 4 else if c < 0x80 then 6 else 9
        if maxWidth - 9 < width + advance then [0x2026]
        else if pair then
          match text with
          | [] => [c]  -- never, a pair has a second unit
          | d :: text => c :: d :: loop maxWidth text (width + advance)
        else c :: loop maxWidth text (width + advance)

def displayLine (text : List UInt16) (maxWidth : ℤ) : List UInt16 :=
  displayLine.loop maxWidth text 0

def FormatServerMotd (serverName serverAddress : List UInt16) : List UInt16 :=
  let title := displayLine (if serverName = [] then serverAddress else serverName) 135
  let title := if title = [] then u16 "待连接" else title
  let detail := if serverAddress = [] then u16 "等待 A 连接服务器" else displayLine serverAddress 240
  u16 "§d§lSakura Tools §r§8→ §f" ++ title ++ u16 "\n§7" ++ detail ++ u16 "§r"

/-! ## What a line should show -/

/-- Control characters and the separators of lines and paragraphs. -/
def IsControl (c : UInt16) : Prop := c < 0x20 ∨ c = 0x7f ∨ c = 0x2028 ∨ c = 0x2029

instance (c : UInt16) : Decidable (IsControl c) := inferInstanceAs (Decidable (_ ∨ _))

/-- The character of a blank. -/
def space : Character := .unit 0x20 (by decide)

/-- A control character becomes a space. -/
def blank : Character → Character
  | .unit c h => if IsControl c then space else .unit c h
  | x => x

/-- A text without its section signs and the units after them, in the pieces that it falls
into. -/
def dropSections : List UInt16 → List (List UInt16)
  | [] => [[]]
  | c :: text =>
    if c = 0xa7 then
      match text with
      | [] => [[]]
      | _ :: text => [] :: dropSections text
    else (dropSections text).modifyHead (c :: ·)

/-- The characters of a text that may be shown.  A surrogate is left out when its other half is
not next to it, or has gone with a section sign. -/
def sanitize (text : List UInt16) : List Character :=
  (dropSections text).flatMap fun piece => (decode piece).map blank

/-- The width of a character in the default font, or more. -/
def charWidth : Character → ℤ
  | .unit c _ => if c = 0x20 then 4 else if c < 0x80 then 6 else 9
  | .pair .. => 9

def ellipsis : Character := .unit 0x2026 (by decide)

/-! ## The loop -/

lemma charWidth_pos (x : Character) : 0 < charWidth x := by
  rcases x with ⟨c, hc⟩ | _
  · rw [charWidth]
    split_ifs <;> decide
  · show (0 : ℤ) < 9
    decide

lemma dropSections_cons_of_ne {c : UInt16} (hc : c ≠ 0xa7) (text : List UInt16) :
    dropSections (c :: text) = (dropSections text).modifyHead (c :: ·) := by
  rw [dropSections.eq_def]
  exact if_neg hc

lemma dropSections_ne_nil (text : List UInt16) : dropSections text ≠ [] := by
  induction text with
  | nil => exact List.cons_ne_nil _ _
  | cons c text ih =>
    by_cases hc : c = 0xa7
    · subst hc
      rcases text with _ | ⟨d, text⟩ <;> exact List.cons_ne_nil _ _
    · rw [dropSections_cons_of_ne hc]
      obtain ⟨piece, pieces, hpieces⟩ := List.exists_cons_of_ne_nil ih
      rw [hpieces]
      exact List.cons_ne_nil _ _

/-- A unit that is no section sign comes in front of the first piece. -/
lemma dropSections_cons {c : UInt16} (hc : c ≠ 0xa7) (text : List UInt16) :
    ∃ piece pieces, dropSections text = piece :: pieces ∧
      dropSections (c :: text) = (c :: piece) :: pieces ∧ ∀ d ∈ piece.head?, d ∈ text.head? := by
  obtain ⟨piece, pieces, hpieces⟩ := List.exists_cons_of_ne_nil (dropSections_ne_nil text)
  refine ⟨piece, pieces, hpieces, ?_, ?_⟩
  · rw [dropSections_cons_of_ne hc, hpieces]
    rfl
  · intro d hd
    rcases text with _ | ⟨x, text⟩
    · cases hpieces
      cases hd
    · by_cases hx : x = 0xa7
      · -- the text goes on with a section sign, so the first piece is empty
        subst hx
        rcases text with _ | ⟨y, text⟩ <;> cases hpieces <;> cases hd
      · obtain ⟨piece', pieces', hrest⟩ :=
          List.exists_cons_of_ne_nil (dropSections_ne_nil text)
        rw [dropSections_cons_of_ne hx, hrest] at hpieces
        cases hpieces
        exact hd

@[simp] lemma sanitize_nil : sanitize [] = [] := rfl

@[simp] lemma sanitize_section : sanitize [0xa7] = [] := rfl

lemma sanitize_unit {c : UInt16} (hc : c ≠ 0xa7) (hunit : ¬ IsSurrogate c) (text : List UInt16) :
    sanitize (c :: text) = blank (.unit c hunit) :: sanitize text := by
  obtain ⟨piece, pieces, hpieces, hcons, -⟩ := dropSections_cons hc text
  simp only [sanitize, hpieces, hcons, List.flatMap_cons, decode_cons hunit, List.map_cons,
    List.cons_append]

lemma sanitize_unpaired {c : UInt16} (hc : IsSurrogate c) {text : List UInt16}
    (h : ¬ (IsHigh c ∧ ∃ d ∈ text.head?, IsLow d)) : sanitize (c :: text) = sanitize text := by
  have hsign : c ≠ 0xa7 := by
    rintro rfl
    exact absurd hc (by decide)
  obtain ⟨piece, pieces, hpieces, hcons, hhead⟩ := dropSections_cons hsign text
  have hpiece : decode (c :: piece) = decode piece := by
    refine decode_unpaired hc ?_
    rintro ⟨hhigh, d, hd, hlow⟩
    exact h ⟨hhigh, d, hhead d hd, hlow⟩
  simp only [sanitize, hpieces, hcons, List.flatMap_cons, hpiece]

lemma sanitize_pair {c d : UInt16} (hc : IsHigh c) (hd : IsLow d) (text : List UInt16) :
    sanitize (c :: d :: text) = .pair c d hc hd :: sanitize text := by
  have hsign {x : UInt16} (hx : IsSurrogate x) : x ≠ 0xa7 := by
    rintro rfl
    exact absurd hx (by decide)
  obtain ⟨piece, pieces, hpieces, hcons, -⟩ := dropSections_cons (hsign hd.isSurrogate) text
  obtain ⟨piece', pieces', hpieces', hcons', -⟩ :=
    dropSections_cons (hsign hc.isSurrogate) (d :: text)
  cases hcons.symm.trans hpieces'
  simp only [sanitize, hpieces, hcons', List.flatMap_cons, decode_pair hc hd, List.map_cons,
    List.cons_append, blank]

/-! ## The loop -/

section Loop

variable {maxWidth width : ℤ} {c d : UInt16}

/-- One round of the loop, for a unit that stands for `x` and is no section sign. -/
lemma loop_cons (hc : c ≠ 0xa7) {x : UInt16} (hx : (if IsControl c then 0x20 else c) = x)
    (text : List UInt16) : displayLine.loop maxWidth (c :: text) width =
      if ¬ (IsHigh x ∧ ∃ d ∈ text.head?, IsLow d) ∧ IsSurrogate x then
        displayLine.loop maxWidth text width
      else if maxWidth - 9 < width + (if x = 0x20 then 4 else if x < 0x80 then 6 else 9) then
        [0x2026]
      else if IsHigh x ∧ ∃ d ∈ text.head?, IsLow d then
        match text with
        | [] => [x]
        | d :: text => x :: d :: displayLine.loop maxWidth text
            (width + if x = 0x20 then 4 else if x < 0x80 then 6 else 9)
      else x :: displayLine.loop maxWidth text
        (width + if x = 0x20 then 4 else if x < 0x80 then 6 else 9) := by
  subst hx
  rw [displayLine.loop.eq_def]
  exact if_neg hc

/-- What the loop makes of a unit that is no surrogate. -/
lemma loop_unit (hc : c ≠ 0xa7) (hunit : ¬ IsSurrogate c) (text : List UInt16) :
    displayLine.loop maxWidth (c :: text) width =
      if maxWidth - 9 < width + charWidth (blank (.unit c hunit)) then [0x2026]
      else (blank (.unit c hunit)).units ++
        displayLine.loop maxWidth text (width + charWidth (blank (.unit c hunit))) := by
  have hloop (x : UInt16) (hx : (if IsControl c then 0x20 else c) = x) (hx' : ¬ IsSurrogate x) :
      displayLine.loop maxWidth (c :: text) width =
        if maxWidth - 9 < width + charWidth (.unit x hx') then [0x2026]
        else x :: displayLine.loop maxWidth text (width + charWidth (.unit x hx')) := by
    rw [loop_cons hc hx, if_neg fun h => hx' h.2]
    simp only [if_neg fun h : IsHigh x ∧ _ => hx' h.1.isSurrogate]
    rfl
  rw [blank]
  split
  next hctl => exact hloop 0x20 (if_pos hctl) (by decide)
  next hctl => exact hloop c (if_neg hctl) hunit

/-- A surrogate is no section sign and stands for itself. -/
lemma surrogate_self (hc : IsSurrogate c) :
    c ≠ 0xa7 ∧ (if IsControl c then 0x20 else c) = c := by
  constructor
  · rintro rfl
    exact absurd hc (by decide)
  · refine if_neg ?_
    rintro (h | rfl | rfl | rfl)
    · exact absurd (UInt16.lt_of_le_of_lt hc.1 h) (by decide)
    all_goals exact absurd hc (by decide)

/-- A surrogate without its other half is passed over. -/
lemma loop_unpaired (hc : IsSurrogate c) {text : List UInt16}
    (h : ¬ (IsHigh c ∧ ∃ d ∈ text.head?, IsLow d)) :
    displayLine.loop maxWidth (c :: text) width = displayLine.loop maxWidth text width := by
  rw [loop_cons (surrogate_self hc).1 (surrogate_self hc).2, if_pos ⟨h, hc⟩]

lemma loop_pair (hc : IsHigh c) (hd : IsLow d) (text : List UInt16) :
    displayLine.loop maxWidth (c :: d :: text) width =
      if maxWidth - 9 < width + 9 then [0x2026]
      else c :: d :: displayLine.loop maxWidth text (width + 9) := by
  have hpair : IsHigh c ∧ ∃ e ∈ (d :: text).head?, IsLow e := ⟨hc, d, rfl, hd⟩
  have hself := surrogate_self hc.isSurrogate
  have hadvance : (if c = 0x20 then 4 else if c < 0x80 then 6 else 9 : ℤ) = 9 := by
    have hge : ¬ c < 0x80 := fun h => absurd (UInt16.lt_of_le_of_lt hc.1 h) (by decide)
    rw [if_neg hge, if_neg]
    rintro rfl
    exact hge (by decide)
  rw [loop_cons hself.1 hself.2, if_neg fun h => h.1 hpair]
  simp only [if_pos hpair, hadvance]

/-- The loop puts out what fits of the characters that may be shown. -/
lemma loop_eq (text : List UInt16) (hwidth : width ≤ maxWidth - 9) :
    displayLine.loop maxWidth text width =
      encode (elide charWidth ellipsis (maxWidth - 9 - width) (sanitize text)) := by
  have hnonneg (x : Character) : 0 ≤ charWidth x := (charWidth_pos x).le
  -- the induction is on the number of the units that are left
  induction hn : text.length using Nat.strong_induction_on generalizing text width with
  | _ n ih =>
    subst hn
    -- one character in front of what the loop makes of the rest
    have hstep (x : Character) (rest : List UInt16) (hrest : rest.length < text.length)
        (hloop : displayLine.loop maxWidth text width =
          if maxWidth - 9 < width + charWidth x then [0x2026]
          else x.units ++ displayLine.loop maxWidth rest (width + charWidth x))
        (hsanitize : sanitize text = x :: sanitize rest) :
        displayLine.loop maxWidth text width =
          encode (elide charWidth ellipsis (maxWidth - 9 - width) (sanitize text)) := by
      rw [hloop, hsanitize]
      by_cases hx : maxWidth - 9 < width + charWidth x
      · rw [if_pos hx, elide_cons_of_lt hnonneg _ (by omega)]
        rfl
      · rw [if_neg hx, elide_cons_of_le _ (by omega), encode_cons, ih _ hrest rest (by omega) rfl]
        rw [sub_sub (maxWidth - 9)]
    rcases text with _ | ⟨c, text⟩
    · rw [sanitize_nil, elide_nil _ (by omega)]
      rfl
    by_cases hsign : c = 0xa7
    · subst hsign
      rcases text with _ | ⟨d, text⟩
      · rw [sanitize_section, elide_nil _ (by omega)]
        rfl
      · exact ih _ (by simp only [List.length_cons]; omega) text hwidth rfl
    by_cases hsur : IsSurrogate c
    · by_cases hpair : IsHigh c ∧ ∃ d ∈ text.head?, IsLow d
      · obtain ⟨hhigh, d, hd, hlow⟩ := hpair
        obtain ⟨text, rfl⟩ := List.head?_eq_some_iff.mp hd
        exact hstep (.pair c d hhigh hlow) text (by simp only [List.length_cons]; omega)
          (loop_pair hhigh hlow text) (sanitize_pair hhigh hlow text)
      · rw [loop_unpaired hsur hpair, sanitize_unpaired hsur hpair]
        exact ih _ (by simp only [List.length_cons]; omega) text hwidth rfl
    · exact hstep _ text (by simp only [List.length_cons]; omega)
        (loop_unit hsign hsur text) (sanitize_unit hsign hsur text)

end Loop

/-! ## One line -/

/-- What `displayLine` shows of a text: the characters that may be shown, or as many of them as
fit and an ellipsis. -/
theorem displayLine_spec (text : List UInt16) {maxWidth : ℤ} (h : 9 ≤ maxWidth) :
    ∃ shown, displayLine text maxWidth = encode shown ∧ totalWeight charWidth shown ≤ maxWidth ∧
      (totalWeight charWidth (sanitize text) ≤ maxWidth - 9 → shown = sanitize text) ∧
      (maxWidth - 9 < totalWeight charWidth (sanitize text) →
        ∃ p, LongestFitting charWidth (maxWidth - 9) (sanitize text) p ∧
          shown = p ++ [ellipsis]) := by
  have hnonneg (x : Character) : 0 ≤ charWidth x := (charWidth_pos x).le
  have hbudget : (0 : ℤ) ≤ maxWidth - 9 := by omega
  refine ⟨elide charWidth ellipsis (maxWidth - 9) (sanitize text), ?_, ?_, ?_, ?_⟩
  · rw [displayLine, loop_eq text hbudget, sub_zero]
  · have hroom := totalWeight_elide_le hbudget (hnonneg ellipsis) (sanitize text)
    have hellipsis : charWidth ellipsis = 9 := by decide
    omega
  · exact fun hfits => if_pos hfits
  · intro hlong
    exact ⟨_, longestFitting_takeFitting hnonneg hbudget _, if_neg hlong.not_ge⟩

/-- A section sign between two halves, and one that takes a half away. -/
example : displayLine [0x61, 0xd83d, 0xa7, 0x6b, 0xde00, 0x62] 135 = u16 "ab" ∧
    displayLine [0x61, 0xa7, 0xd83d, 0xde00, 0x62] 135 = u16 "ab" := by
  decide

/-! ## What is never shown -/

/-- A character that has no section sign and no control character. -/
def Plain (x : Character) : Prop := ∀ c ∈ x.units, c ≠ 0xa7 ∧ ¬ IsControl c

instance (x : Character) : Decidable (Plain x) :=
  List.decidableBAll (fun c => c ≠ 0xa7 ∧ ¬ IsControl c) x.units

lemma not_mem_dropSections {text piece : List UInt16} (h : piece ∈ dropSections text) :
    0xa7 ∉ piece := by
  induction hn : text.length using Nat.strong_induction_on generalizing text piece with
  | _ n ih =>
    subst hn
    rcases text with _ | ⟨c, text⟩
    · obtain rfl := List.mem_singleton.mp h
      exact List.not_mem_nil
    by_cases hc : c = 0xa7
    · subst hc
      rcases text with _ | ⟨d, text⟩
      · obtain rfl := List.mem_singleton.mp h
        exact List.not_mem_nil
      · rcases List.mem_cons.mp h with rfl | h
        · exact List.not_mem_nil
        · exact ih text.length (by simp only [List.length_cons]; omega) h rfl
    · obtain ⟨first, pieces, hpieces, hcons, -⟩ := dropSections_cons hc text
      have hrest {p : List UInt16} (hp : p ∈ first :: pieces) : 0xa7 ∉ p :=
        ih text.length (by simp only [List.length_cons]; omega) (hpieces ▸ hp) rfl
      rw [hcons] at h
      rcases List.mem_cons.mp h with rfl | h
      · rintro (_ | ⟨_, hmem⟩)
        · exact hc rfl
        · exact hrest List.mem_cons_self hmem
      · exact hrest (List.mem_cons_of_mem _ h)

lemma plain_blank {x : Character} (h : 0xa7 ∉ x.units) : Plain (blank x) := by
  rcases x with ⟨c, hc⟩ | ⟨high, low, hhigh, hlow⟩
  · rw [blank]
    split
    next => decide
    next hctl =>
      intro d hd
      obtain rfl := List.mem_singleton.mp hd
      exact ⟨fun hd => h (hd ▸ List.mem_singleton_self _), hctl⟩
  · have hsur {c : UInt16} (hc : IsSurrogate c) : c ≠ 0xa7 ∧ ¬ IsControl c := by
      obtain ⟨hsign, hself⟩ := surrogate_self hc
      refine ⟨hsign, fun hctl => ?_⟩
      rw [if_pos hctl] at hself
      exact absurd (hself ▸ hc) (by decide)
    intro c hc
    rcases List.mem_cons.mp hc with rfl | hc
    · exact hsur hhigh.isSurrogate
    · obtain rfl := List.mem_singleton.mp hc
      exact hsur hlow.isSurrogate

lemma plain_sanitize (text : List UInt16) : ∀ x ∈ sanitize text, Plain x := by
  intro x hx
  obtain ⟨piece, hpiece, hx⟩ := List.mem_flatMap.mp hx
  obtain ⟨y, hy, rfl⟩ := List.mem_map.mp hx
  exact plain_blank fun h => not_mem_dropSections hpiece (mem_of_mem_decode hy h)

/-- The encoding of characters without section signs and control characters. -/
def PlainText (text : List UInt16) : Prop :=
  ∃ shown : List Character, text = encode shown ∧ ∀ x ∈ shown, Plain x

lemma plainText_displayLine (text : List UInt16) {maxWidth : ℤ} (h : 9 ≤ maxWidth) :
    PlainText (displayLine text maxWidth) := by
  refine ⟨elide charWidth ellipsis (maxWidth - 9) (sanitize text), ?_, ?_⟩
  · rw [displayLine, loop_eq text (by omega), sub_zero]
  · intro x hx
    rcases mem_elide hx with hx | rfl
    · exact plain_sanitize text x hx
    · decide

lemma PlainText.not_control {text : List UInt16} (h : PlainText text) :
    ∀ c ∈ text, c ≠ 0xa7 ∧ ¬ IsControl c := by
  obtain ⟨shown, rfl, hplain⟩ := h
  intro c hc
  obtain ⟨x, hx, hc⟩ := List.mem_flatMap.mp hc
  exact hplain x hx c hc

/-! ## The status line -/

/-- A unit that ends a line. -/
def IsLineBreak (c : UInt16) : Prop := c = 0x0a ∨ c = 0x0d ∨ c = 0x2028 ∨ c = 0x2029

instance (c : UInt16) : Decidable (IsLineBreak c) := inferInstanceAs (Decidable (_ ∨ _))

lemma IsLineBreak.isControl {c : UInt16} (h : IsLineBreak c) : IsControl c := by
  rcases h with rfl | rfl | rfl | rfl <;> decide

/-- Two lines that no client breaks up or formats in another way. -/
structure SafeMotd (motd : List UInt16) : Prop where
  template : ∃ title detail, 0xa7 ∉ title ∧ 0xa7 ∉ detail ∧
    motd = u16 "§d§lSakura Tools §r§8→ §f" ++ title ++ u16 "\n§7" ++ detail ++ u16 "§r"
  one_break : motd.countP (IsLineBreak ·) = 1
  sections : motd.count 0xa7 = 7
  control : ∀ c ∈ motd, c < 0x20 → c = 0x0a
  paired : ∀ i, ¬ UnpairedAt motd i

/-- A fixed text can be tested unit by unit. -/
lemma forall_mem_of_all {p : UInt16 → Prop} [DecidablePred p] {text : List UInt16}
    (h : (text.all fun c => decide (p c)) = true) : ∀ c ∈ text, p c := by
  simpa using h

lemma safeMotd_template {title detail : List UInt16} (htitle : PlainText title)
    (hdetail : PlainText detail) : SafeMotd
      (u16 "§d§lSakura Tools §r§8→ §f" ++ title ++ u16 "\n§7" ++ detail ++ u16 "§r") := by
  have hbreak {text : List UInt16} (h : PlainText text) : text.countP (IsLineBreak ·) = 0 := by
    rw [List.countP_eq_zero]
    intro c hc
    simpa using mt IsLineBreak.isControl (h.not_control c hc).2
  have hsign {text : List UInt16} (h : PlainText text) : text.count 0xa7 = 0 := by
    rw [List.count_eq_zero]
    exact fun hmem => (h.not_control _ hmem).1 rfl
  have hcontrol {text : List UInt16} (h : PlainText text) : ∀ c ∈ text, c < 0x20 → c = 0x0a :=
    fun c hc hlt => absurd (.inl hlt) (h.not_control c hc).2
  refine ⟨⟨title, detail, ?_, ?_, rfl⟩, ?_, ?_, ?_, ?_⟩
  · exact List.count_eq_zero.mp (hsign htitle)
  · exact List.count_eq_zero.mp (hsign hdetail)
  · simp only [List.countP_append, hbreak htitle, hbreak hdetail]
    decide
  · simp only [List.count_append, hsign htitle, hsign hdetail]
    decide
  · simp only [List.forall_mem_append]
    refine ⟨⟨⟨⟨?_, hcontrol htitle⟩, ?_⟩, hcontrol hdetail⟩, ?_⟩
    all_goals exact forall_mem_of_all (by decide)
  · -- every part is the encoding of characters
    obtain ⟨title, rfl, -⟩ := htitle
    obtain ⟨detail, rfl, -⟩ := hdetail
    have hfixed : u16 "§d§lSakura Tools §r§8→ §f" =
          encode (decode (u16 "§d§lSakura Tools §r§8→ §f")) ∧
        u16 "\n§7" = encode (decode (u16 "\n§7")) ∧ u16 "§r" = encode (decode (u16 "§r")) := by
      decide
    rw [hfixed.1, hfixed.2.1, hfixed.2.2, ← encode_append, ← encode_append, ← encode_append,
      ← encode_append]
    exact not_unpairedAt_encode _

/-- The status line has two lines of text, whatever A's server is called. -/
lemma safeMotd_formatServerMotd (serverName serverAddress : List UInt16) :
    SafeMotd (FormatServerMotd serverName serverAddress) := by
  have hfixed {text : List UInt16} (h : text = encode (decode text) ∧ ∀ x ∈ decode text, Plain x) :
      PlainText text := ⟨_, h⟩
  have hite {p : Prop} [Decidable p] {a b : List UInt16} (ha : PlainText a) (hb : PlainText b) :
      PlainText (if p then a else b) := by
    split
    · exact ha
    · exact hb
  refine safeMotd_template (hite (hfixed ?_) (plainText_displayLine _ ?_))
    (hite (hfixed ?_) (plainText_displayLine _ ?_))
  all_goals decide

/-- The status line is safe for every name and address of a server, and each line of it shows
the characters that may be shown as far as they fit. -/
theorem status_text :
    (∀ serverName serverAddress, SafeMotd (FormatServerMotd serverName serverAddress)) ∧
    (∀ text maxWidth, 9 ≤ maxWidth → ∃ shown, displayLine text maxWidth = encode shown ∧
      totalWeight charWidth shown ≤ maxWidth ∧
      (totalWeight charWidth (sanitize text) ≤ maxWidth - 9 → shown = sanitize text) ∧
      (maxWidth - 9 < totalWeight charWidth (sanitize text) →
        ∃ p, LongestFitting charWidth (maxWidth - 9) (sanitize text) p ∧
          shown = p ++ [ellipsis])) := by
  constructor
  · exact safeMotd_formatServerMotd
  · intro text maxWidth h
    exact displayLine_spec text h

end Server
end SakuraTools
