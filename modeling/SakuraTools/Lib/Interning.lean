import Mathlib.Data.Finset.Card
import Mathlib.Tactic.Common

/-!
# Interning

An append-only table of nodes, each of which refers to others by their places.  A term is
interned bottom up: a node that is in the table is used again, one that is not is put at the end.
The table may hold other things as well, which are never found.
-/

namespace SakuraTools
namespace Interning

/-- A node: a leaf, or a tag with one or two places. -/
inductive Node (L T : Type) where
  | leaf (l : L)
  | one (t : T) (j : ℕ)
  | two (t : T) (j k : ℕ)
deriving DecidableEq

/-- What a node stands for, with the places followed. -/
inductive Term (L T : Type) where
  | leaf (l : L)
  | one (t : T) (c : Term L T)
  | two (t : T) (c d : Term L T)
deriving DecidableEq

/-- A table of nodes.  A place that holds `none` holds something that is not a node. -/
abbrev Table (L T : Type) := List (Option (Node L T))

variable {L T : Type}

/-- The places that a node refers to. -/
def Node.children : Node L T → List ℕ
  | leaf _ => []
  | one _ j => [j]
  | two _ j k => [j, k]

/-- The place holds the node. -/
def Holds (tbl : Table L T) (i : ℕ) (x : Node L T) : Prop := tbl[i]? = some (some x)

/-- The place stands for the term. -/
def At (tbl : Table L T) : Term L T → ℕ → Prop
  | .leaf l, i => Holds tbl i (.leaf l)
  | .one t c, i => ∃ j, Holds tbl i (.one t j) ∧ At tbl c j
  | .two t c d, i => ∃ j k, Holds tbl i (.two t j k) ∧ At tbl c j ∧ At tbl d k

/-- Every node refers to places of the table. -/
def Linked (tbl : Table L T) : Prop :=
  ∀ x, some x ∈ tbl → ∀ j ∈ x.children, j < tbl.length

instance (tbl : Table L T) : Decidable (Linked tbl) :=
  decidable_of_iff (∀ o ∈ tbl, ∀ x ∈ o, ∀ j ∈ x.children, j < tbl.length)
    ⟨fun h x hx => h (some x) hx x rfl, by rintro h o ho x rfl; exact h x ho⟩

/-! ## What a place stands for -/

lemma Holds.lt {tbl : Table L T} {i : ℕ} {x : Node L T} (h : Holds tbl i x) : i < tbl.length :=
  (List.getElem?_eq_some_iff.mp h).1

lemma Holds.unique {tbl : Table L T} {i : ℕ} {x y : Node L T} (h : Holds tbl i x)
    (h' : Holds tbl i y) : x = y :=
  Option.some.inj (Option.some.inj (h.symm.trans h'))

lemma At.lt {tbl : Table L T} {c : Term L T} {i : ℕ} (h : At tbl c i) : i < tbl.length := by
  cases c with
  | leaf l => exact Holds.lt h
  | one t c =>
    obtain ⟨j, hi, -⟩ := h
    exact hi.lt
  | two t c d =>
    obtain ⟨j, k, hi, -⟩ := h
    exact hi.lt

/-- A place of a linked table stands for the same term in a longer table. -/
lemma At.of_append {tbl new : Table L T} (hlinked : Linked tbl) {c : Term L T} {i : ℕ}
    (hi : i < tbl.length) (h : At (tbl ++ new) c i) : At tbl c i := by
  have hold {j : ℕ} {x : Node L T} (hj : j < tbl.length) (hx : Holds (tbl ++ new) j x) :
      Holds tbl j x := by
    rwa [Holds, List.getElem?_append_left hj] at hx
  induction c generalizing i with
  | leaf l => exact hold hi h
  | one t c ih =>
    obtain ⟨j, hx, hc⟩ := h
    have hx' := hold hi hx
    have hj : j < tbl.length := hlinked _ (List.mem_of_getElem? hx') j (by simp [Node.children])
    exact ⟨j, hx', ih hj hc⟩
  | two t c d ihc ihd =>
    obtain ⟨j, k, hx, hc, hd⟩ := h
    have hx' := hold hi hx
    have hchild := hlinked _ (List.mem_of_getElem? hx')
    have hj : j < tbl.length := hchild j (by simp [Node.children])
    have hk : k < tbl.length := hchild k (by simp [Node.children])
    exact ⟨j, k, hx', ihc hj hc, ihd hk hd⟩

/-- A place stands for at most one term. -/
lemma At.unique {tbl : Table L T} {c d : Term L T} {i : ℕ} (hc : At tbl c i) (hd : At tbl d i) :
    c = d := by
  induction c generalizing d i with
  | leaf l =>
    cases d with
    | leaf l' =>
      cases Holds.unique hc hd
      rfl
    | one t d =>
      obtain ⟨j, hi, -⟩ := hd
      cases Holds.unique hc hi
    | two t d d' =>
      obtain ⟨j, k, hi, -⟩ := hd
      cases Holds.unique hc hi
  | one t c ih =>
    obtain ⟨j, hi, hj⟩ := hc
    cases d with
    | leaf l => cases Holds.unique hi hd
    | one t' d =>
      obtain ⟨j', hi', hj'⟩ := hd
      cases hi.unique hi'
      rw [ih hj hj']
    | two t' d d' =>
      obtain ⟨j', k', hi', -⟩ := hd
      cases hi.unique hi'
  | two t c c' ih ih' =>
    obtain ⟨j, k, hi, hj, hk⟩ := hc
    cases d with
    | leaf l => cases Holds.unique hi hd
    | one t' d =>
      obtain ⟨j', hi', -⟩ := hd
      cases hi.unique hi'
    | two t' d d' =>
      obtain ⟨j', k', hi', hj', hk'⟩ := hd
      cases hi.unique hi'
      rw [ih hj hj', ih' hk hk']

/-! ## Searching -/

variable [DecidableEq L] [DecidableEq T]

/-- The first place that holds the node. -/
def place (tbl : Table L T) (x : Node L T) : Option ℕ := tbl.findIdx? (· == some x)

/-- The place of a term, when its parts are searched for first. -/
def find (tbl : Table L T) : Term L T → Option ℕ
  | .leaf l => place tbl (.leaf l)
  | .one t c => (find tbl c).bind fun j => place tbl (.one t j)
  | .two t c d => (find tbl c).bind fun j => (find tbl d).bind fun k => place tbl (.two t j k)

lemma place_holds {tbl : Table L T} {x : Node L T} {i : ℕ} (h : place tbl x = some i) :
    Holds tbl i x := by
  obtain ⟨hlt, heq, -⟩ := List.findIdx?_eq_some_iff_getElem.mp h
  rw [Holds, List.getElem?_eq_getElem hlt, beq_iff_eq.mp heq]

lemma place_eq_none {tbl : Table L T} {x : Node L T} : place tbl x = none ↔ some x ∉ tbl := by
  rw [place, List.findIdx?_eq_none_iff]
  constructor
  · intro h hx
    exact Bool.noConfusion ((beq_self_eq_true (some x)).symm.trans (h _ hx))
  · intro h y hy
    rw [beq_eq_false_iff_ne]
    rintro rfl
    exact h hy

lemma place_append (tbl : Table L T) (x y : Node L T) :
    place (tbl ++ [some y]) x = (place tbl x).or (if y = x then some tbl.length else none) := by
  rw [place, place, List.findIdx?_append, List.findIdx?_singleton]
  by_cases h : y = x
  · subst h
    simp
  · simp [h]

lemma place_mono {tbl tbl' : Table L T} (hgrow : tbl <+: tbl') {x : Node L T} {i : ℕ}
    (h : place tbl x = some i) : place tbl' x = some i := by
  obtain ⟨r, rfl⟩ := hgrow
  rw [place] at h ⊢
  rw [List.findIdx?_append, h]
  rfl

lemma find_one {tbl : Table L T} {t : T} {c : Term L T} {i : ℕ} :
    find tbl (.one t c) = some i ↔
      ∃ j, find tbl c = some j ∧ place tbl (.one t j) = some i := by
  simp only [find, Option.bind_eq_some_iff]

lemma find_two {tbl : Table L T} {t : T} {c d : Term L T} {i : ℕ} :
    find tbl (.two t c d) = some i ↔
      ∃ j, find tbl c = some j ∧ ∃ k, find tbl d = some k ∧
        place tbl (.two t j k) = some i := by
  simp only [find, Option.bind_eq_some_iff]

/-- What is found at a place stands there. -/
lemma find_at {tbl : Table L T} {c : Term L T} {i : ℕ} (h : find tbl c = some i) :
    At tbl c i := by
  induction c generalizing i with
  | leaf l => exact place_holds h
  | one t c ih =>
    obtain ⟨j, hj, hi⟩ := find_one.mp h
    exact ⟨j, place_holds hi, ih hj⟩
  | two t c d ihc ihd =>
    obtain ⟨j, hj, k, hk, hi⟩ := find_two.mp h
    exact ⟨j, k, place_holds hi, ihc hj, ihd hk⟩

/-- What is found stays where it was found. -/
lemma find_mono {tbl tbl' : Table L T} (hgrow : tbl <+: tbl') {c : Term L T} {i : ℕ}
    (h : find tbl c = some i) : find tbl' c = some i := by
  induction c generalizing i with
  | leaf l => exact place_mono hgrow h
  | one t c ih =>
    obtain ⟨j, hj, hi⟩ := find_one.mp h
    exact find_one.mpr ⟨j, ih hj, place_mono hgrow hi⟩
  | two t c d ihc ihd =>
    obtain ⟨j, hj, k, hk, hi⟩ := find_two.mp h
    exact find_two.mpr ⟨j, ihc hj, k, ihd hk, place_mono hgrow hi⟩

/-- Two terms are not found at one place. -/
lemma find_inj {tbl : Table L T} {c d : Term L T} {i : ℕ} (hc : find tbl c = some i)
    (hd : find tbl d = some i) : c = d := (find_at hc).unique (find_at hd)

/-! ## Interning -/

/-- The place of the node, which is put at the end of the table if it is not there. -/
def internNode (tbl : Table L T) (x : Node L T) : ℕ × Table L T :=
  match place tbl x with
  | some i => (i, tbl)
  | none => (tbl.length, tbl ++ [some x])

/-- Intern the parts of the term, and then the term. -/
def intern (tbl : Table L T) : Term L T → ℕ × Table L T
  | .leaf l => internNode tbl (.leaf l)
  | .one t c =>
    let r := intern tbl c
    internNode r.2 (.one t r.1)
  | .two t c d =>
    let r := intern tbl c
    let s := intern r.2 d
    internNode s.2 (.two t r.1 s.1)

lemma internNode_grows (tbl : Table L T) (x : Node L T) : tbl <+: (internNode tbl x).2 := by
  unfold internNode
  split
  · exact List.prefix_refl _
  · exact List.prefix_append _ _

lemma intern_grows (tbl : Table L T) (c : Term L T) : tbl <+: (intern tbl c).2 := by
  induction c generalizing tbl with
  | leaf l => exact internNode_grows tbl _
  | one t c ih => exact (ih tbl).trans (internNode_grows _ _)
  | two t c d ihc ihd => exact ((ihc tbl).trans (ihd _)).trans (internNode_grows _ _)

lemma internNode_lt (tbl : Table L T) (x : Node L T) :
    (internNode tbl x).1 < (internNode tbl x).2.length := by
  unfold internNode
  cases h : place tbl x with
  | some i => exact (place_holds h).lt
  | none => simp

lemma intern_lt (tbl : Table L T) (c : Term L T) : (intern tbl c).1 < (intern tbl c).2.length := by
  cases c <;> exact internNode_lt _ _

/-- The node that stands for the term, when its parts are in the table. -/
def node (tbl : Table L T) : Term L T → Option (Node L T)
  | .leaf l => some (.leaf l)
  | .one t c => (find tbl c).map (.one t)
  | .two t c d => (find tbl c).bind fun j => (find tbl d).map (.two t j)

lemma find_eq_node (tbl : Table L T) (c : Term L T) :
    find tbl c = (node tbl c).bind (place tbl) := by
  cases c with
  | leaf l => rfl
  | one t c => cases h : find tbl c <;> simp [find, node, h]
  | two t c d =>
    cases h : find tbl c <;> cases h' : find tbl d <;> simp [find, node, h, h']

/-- The node of a term that is made of known parts refers to places of the table. -/
lemma node_children {tbl : Table L T} {c : Term L T} {x : Node L T} (h : node tbl c = some x) :
    ∀ j ∈ x.children, j < tbl.length := by
  cases c with
  | leaf l =>
    cases h
    simp [Node.children]
  | one t c =>
    obtain ⟨j, hj, rfl⟩ := Option.map_eq_some_iff.mp h
    simpa [Node.children] using (find_at hj).lt
  | two t c d =>
    obtain ⟨j, hj, hd⟩ := Option.bind_eq_some_iff.mp h
    obtain ⟨k, hk, rfl⟩ := Option.map_eq_some_iff.mp hd
    simpa [Node.children] using ⟨(find_at hj).lt, (find_at hk).lt⟩

lemma node_inj {tbl : Table L T} {c d : Term L T} {x : Node L T} (hc : node tbl c = some x)
    (hd : node tbl d = some x) : c = d := by
  cases c with
  | leaf l =>
    cases hc
    cases d with
    | leaf l' =>
      cases hd
      rfl
    | one t d => simp [node] at hd
    | two t d d' => simp [node, Option.bind_eq_some_iff] at hd
  | one t c =>
    obtain ⟨j, hj, rfl⟩ := Option.map_eq_some_iff.mp hc
    cases d with
    | leaf l => simp [node] at hd
    | one t' d =>
      obtain ⟨j', hj', heq⟩ := Option.map_eq_some_iff.mp hd
      cases heq
      rw [find_inj hj hj']
    | two t' d d' => simp [node, Option.bind_eq_some_iff] at hd
  | two t c c' =>
    obtain ⟨j, hj, hc'⟩ := Option.bind_eq_some_iff.mp hc
    obtain ⟨k, hk, rfl⟩ := Option.map_eq_some_iff.mp hc'
    cases d with
    | leaf l => simp [node] at hd
    | one t' d => simp [node] at hd
    | two t' d d' =>
      obtain ⟨j', hj', hd'⟩ := Option.bind_eq_some_iff.mp hd
      obtain ⟨k', hk', heq⟩ := Option.map_eq_some_iff.mp hd'
      cases heq
      rw [find_inj hj hj', find_inj hk hk']

section append

variable {tbl : Table L T} (hlinked : Linked tbl) {c : Term L T} {x : Node L T}
  (hx : node tbl c = some x) (hnew : place tbl x = none)

include hlinked

/-- A node that refers to the end of the table is not in it. -/
lemma place_of_child_end {y : Node L T} (hy : tbl.length ∈ y.children) : place tbl y = none := by
  rw [place_eq_none]
  intro hmem
  have := hlinked y hmem _ hy
  omega

include hx

lemma place_append_of_child_end {y : Node L T} (hy : tbl.length ∈ y.children) :
    place (tbl ++ [some x]) y = none := by
  have hne : x ≠ y := by
    rintro rfl
    have := node_children hx _ hy
    omega
  rw [place_append, place_of_child_end hlinked hy, if_neg hne]
  rfl

/-- The table stays linked. -/
lemma linked_append : Linked (tbl ++ [some x]) := by
  intro y hy j hj
  rw [List.length_append, List.length_singleton]
  rcases List.mem_append.mp hy with hmem | hmem
  · have := hlinked y hmem j hj
    omega
  · cases List.mem_singleton.mp hmem
    have := node_children hx j hj
    omega

include hnew

/-- A new node adds the one term that it stands for to what is found. -/
lemma find_append (d : Term L T) :
    find (tbl ++ [some x]) d = if d = c then some tbl.length else find tbl d := by
  have hnone : find tbl c = none := by rw [find_eq_node, hx, Option.bind_some, hnew]
  -- the new node is found where it stands for the term, and no other node is
  have hplace (e : Term L T) (y : Node L T) (hy : node tbl e = some y) :
      place (tbl ++ [some x]) y = if e = c then some tbl.length else place tbl y := by
    rw [place_append]
    by_cases he : e = c
    · subst he
      cases hx.symm.trans hy
      rw [hnew, if_pos rfl, if_pos rfl]
      rfl
    · have hne : x ≠ y := by
        rintro rfl
        exact he (node_inj hy hx)
      rw [if_neg hne, if_neg he, Option.or_none]
  induction d with
  | leaf l => exact hplace (.leaf l) (.leaf l) rfl
  | one t d ih =>
    rw [find, ih]
    by_cases hd : d = c
    · have hne : Term.one t d ≠ c := by
        rintro rfl
        exact absurd (congrArg sizeOf hd) (by simp)
      rw [if_pos hd, if_neg hne, Option.bind_some,
        place_append_of_child_end hlinked hx (by simp [Node.children]), find, hd, hnone]
      rfl
    · rw [if_neg hd, find]
      cases hj : find tbl d with
      | none =>
        have hne : Term.one t d ≠ c := by
          rintro rfl
          simp [node, hj] at hx
        rw [if_neg hne]
        rfl
      | some j => exact hplace (.one t d) (.one t j) (by simp [node, hj])
  | two t d e ihd ihe =>
    rw [find, ihd, ihe]
    by_cases hd : d = c
    · have hne : Term.two t d e ≠ c := by
        rintro rfl
        have := congrArg sizeOf hd
        simp at this
        omega
      rw [if_pos hd, if_neg hne, Option.bind_some, find, hd, hnone, Option.bind_none,
        Option.bind_eq_none_iff]
      intro k _
      exact place_append_of_child_end hlinked hx (by simp [Node.children])
    · rw [if_neg hd]
      cases hj : find tbl d with
      | none =>
        have hne : Term.two t d e ≠ c := by
          rintro rfl
          simp [node, hj] at hx
        rw [if_neg hne, find, hj]
        rfl
      | some j =>
        by_cases he : e = c
        · have hne : Term.two t d e ≠ c := by
            rintro rfl
            have := congrArg sizeOf he
            simp at this
          rw [if_pos he, if_neg hne, Option.bind_some, Option.bind_some,
            place_append_of_child_end hlinked hx (by simp [Node.children]), find, hj, he, hnone,
            Option.bind_some, Option.bind_none]
        · rw [if_neg he]
          cases hk : find tbl e with
          | none =>
            have hne : Term.two t d e ≠ c := by
              rintro rfl
              simp [node, hk] at hx
            rw [if_neg hne, find, hj, hk]
            rfl
          | some k =>
            rw [find, hj, hk]
            exact hplace (.two t d e) (.two t j k) (by simp [node, hj, hk])

end append

/-- The terms that are interned with a term: itself and its parts. -/
def Term.subterms : Term L T → Finset (Term L T)
  | .leaf l => {.leaf l}
  | .one t c => insert (.one t c) c.subterms
  | .two t c d => insert (.two t c d) (c.subterms ∪ d.subterms)

/-- The number of terms that the table lacks of the ones to be interned. -/
def missing (tbl : Table L T) (c : Term L T) : ℕ :=
  {d ∈ c.subterms | find tbl d = none}.card

/-- What interning some terms does to a table: the terms are found, each at one new place if it was
not found before, and nothing else is. -/
structure Interned (tbl : Table L T) (s : Finset (Term L T)) (tbl' : Table L T) : Prop where
  grows : tbl <+: tbl'
  linked : Linked tbl'
  found : ∀ d, find tbl' d = none ↔ d ∉ s ∧ find tbl d = none
  length_eq : tbl'.length = tbl.length + {d ∈ s | find tbl d = none}.card

namespace Interned

variable {tbl tbl₁ tbl₂ : Table L T} {s s' : Finset (Term L T)}

lemma trans (h : Interned tbl s tbl₁) (h' : Interned tbl₁ s' tbl₂) :
    Interned tbl (s ∪ s') tbl₂ where
  grows := h.grows.trans h'.grows
  linked := h'.linked
  found d := by
    rw [h'.found, h.found, Finset.mem_union]
    tauto
  length_eq := by
    have hdisjoint : Disjoint {d ∈ s | find tbl d = none} {d ∈ s' | find tbl₁ d = none} := by
      rw [Finset.disjoint_left]
      intro d hd hd'
      have := (h.found d).mp (Finset.mem_filter.mp hd').2
      exact this.1 (Finset.mem_filter.mp hd).1
    have hunion : {d ∈ s ∪ s' | find tbl d = none} =
        {d ∈ s | find tbl d = none} ∪ {d ∈ s' | find tbl₁ d = none} := by
      ext d
      simp only [Finset.mem_filter, Finset.mem_union, h.found]
      tauto
    rw [h'.length_eq, h.length_eq, hunion, Finset.card_union_of_disjoint hdisjoint, Nat.add_assoc]

/-- Interning a node whose parts are known. -/
lemma node {c : Term L T} {x : Node L T} (hlinked : Linked tbl) (hx : node tbl c = some x) :
    Interned tbl {c} (internNode tbl x).2 ∧
      find (internNode tbl x).2 c = some (internNode tbl x).1 := by
  have hfind : find tbl c = place tbl x := by rw [find_eq_node, hx, Option.bind_some]
  unfold internNode
  cases hplace : place tbl x with
  | some i =>
    rw [hplace] at hfind
    have hempty : {d ∈ ({c} : Finset (Term L T)) | find tbl d = none} = ∅ := by
      rw [Finset.filter_singleton, hfind]
      rfl
    refine ⟨⟨List.prefix_refl _, hlinked, ?_, ?_⟩, hfind⟩
    · intro d
      rw [Finset.mem_singleton]
      refine ⟨fun h => ⟨?_, h⟩, And.right⟩
      rintro rfl
      rw [hfind] at h
      cases h
    · rw [hempty]
      rfl
  | none =>
    rw [hplace] at hfind
    have hsingle : {d ∈ ({c} : Finset (Term L T)) | find tbl d = none} = {c} := by
      rw [Finset.filter_singleton, hfind]
      rfl
    have happend := find_append hlinked hx hplace
    refine ⟨⟨List.prefix_append _ _, linked_append hlinked hx, ?_, ?_⟩, ?_⟩
    · intro d
      rw [happend, Finset.mem_singleton]
      by_cases h : d = c <;> simp [h]
    · rw [hsingle, List.length_append]
      rfl
    · rw [happend, if_pos rfl]

end Interned

/-- Interning a term finds it, at the place that is returned. -/
lemma intern_spec {tbl : Table L T} (hlinked : Linked tbl) (c : Term L T) :
    Interned tbl c.subterms (intern tbl c).2 ∧ find (intern tbl c).2 c = some (intern tbl c).1 := by
  induction c generalizing tbl with
  | leaf l => exact Interned.node hlinked rfl
  | one t c ih =>
    obtain ⟨hc, hfind⟩ := ih hlinked
    obtain ⟨hnode, hfind'⟩ := Interned.node (c := .one t c) (x := .one t (intern tbl c).1)
      hc.linked (by rw [node, hfind]; rfl)
    refine ⟨?_, hfind'⟩
    rw [Term.subterms, Finset.insert_eq, Finset.union_comm]
    exact hc.trans hnode
  | two t c d ihc ihd =>
    obtain ⟨hc, hfind⟩ := ihc hlinked
    obtain ⟨hd, hfind'⟩ := ihd hc.linked
    have hfind₂ := find_mono hd.grows hfind
    obtain ⟨hnode, hfind''⟩ := Interned.node (c := .two t c d)
      (x := .two t (intern tbl c).1 (intern (intern tbl c).2 d).1)
      hd.linked (by rw [node, hfind₂, Option.bind_some, hfind']; rfl)
    refine ⟨?_, hfind''⟩
    rw [Term.subterms, Finset.insert_eq, Finset.union_comm]
    exact (hc.trans hd).trans hnode

/-- A table that has the term is left as it is. -/
lemma intern_of_find {tbl : Table L T} {c : Term L T} {i : ℕ} (h : find tbl c = some i) :
    intern tbl c = (i, tbl) := by
  induction c generalizing i with
  | leaf l =>
    rw [find] at h
    rw [intern, internNode, h]
  | one t c ih =>
    obtain ⟨j, hj, hi⟩ := find_one.mp h
    rw [intern, ih hj, internNode, hi]
  | two t c d ihc ihd =>
    obtain ⟨j, hj, k, hk, hi⟩ := find_two.mp h
    simp only [intern, ihc hj, ihd hk, internNode, hi]

/-- As many nodes are added as the table lacks. -/
lemma length_intern {tbl : Table L T} (hlinked : Linked tbl) (c : Term L T) :
    (intern tbl c).2.length = tbl.length + missing tbl c := (intern_spec hlinked c).1.length_eq

/-! ## Tables without duplicates -/

/-- The nodes whose tags are looked for. -/
def Node.Keyed (keyed : T → Prop) : Node L T → Prop
  | leaf _ => True
  | one t _ => keyed t
  | two t _ _ => keyed t

/-- The terms that are made of such nodes. -/
def Term.Keyed (keyed : T → Prop) : Term L T → Prop
  | .leaf _ => True
  | .one t c => keyed t ∧ c.Keyed keyed
  | .two t c d => keyed t ∧ c.Keyed keyed ∧ d.Keyed keyed

/-- No such node is in the table twice. -/
def Distinct (keyed : T → Prop) (tbl : Table L T) : Prop :=
  ∀ x i j, x.Keyed keyed → Holds tbl i x → Holds tbl j x → i = j

namespace Distinct

variable {keyed : T → Prop} {tbl : Table L T}

omit [DecidableEq L] [DecidableEq T] in
/-- A term stands at one place. -/
lemma at_unique (h : Distinct keyed tbl) {c : Term L T} (hc : c.Keyed keyed) {i j : ℕ}
    (hi : At tbl c i) (hj : At tbl c j) : i = j := by
  induction c generalizing i j with
  | leaf l => exact h (.leaf l) i j trivial hi hj
  | one t c ih =>
    obtain ⟨k, hik, hk⟩ := hi
    obtain ⟨l, hjl, hl⟩ := hj
    obtain rfl := ih hc.2 hk hl
    exact h (.one t k) i j hc.1 hik hjl
  | two t c d ihc ihd =>
    obtain ⟨k, k', hik, hk, hk'⟩ := hi
    obtain ⟨l, l', hjl, hl, hl'⟩ := hj
    obtain rfl := ihc hc.2.1 hk hl
    obtain rfl := ihd hc.2.2 hk' hl'
    exact h (.two t k k') i j hc.1 hik hjl

lemma place_of_holds (h : Distinct keyed tbl) {x : Node L T} (hx : x.Keyed keyed) {i : ℕ}
    (hi : Holds tbl i x) : place tbl x = some i := by
  cases hplace : place tbl x with
  | none => exact absurd (List.mem_of_getElem? hi) (place_eq_none.mp hplace)
  | some j => rw [h x i j hx hi (place_holds hplace)]

/-- A term is found where it stands. -/
lemma find_of_at (h : Distinct keyed tbl) {c : Term L T} (hc : c.Keyed keyed) {i : ℕ}
    (hi : At tbl c i) : find tbl c = some i := by
  induction c generalizing i with
  | leaf l => exact h.place_of_holds (x := .leaf l) trivial hi
  | one t c ih =>
    obtain ⟨j, hij, hj⟩ := hi
    exact find_one.mpr ⟨j, ih hc.2 hj, h.place_of_holds (x := .one t j) hc.1 hij⟩
  | two t c d ihc ihd =>
    obtain ⟨j, k, hijk, hj, hk⟩ := hi
    exact find_two.mpr ⟨j, ihc hc.2.1 hj, k, ihd hc.2.2 hk,
      h.place_of_holds (x := .two t j k) hc.1 hijk⟩

end Distinct

end Interning
end SakuraTools
