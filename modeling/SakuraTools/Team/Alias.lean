import SakuraTools.Team.TeamState

/-!
# B as an alias of A

The filter of `native/team_state.h` edits the player list of each packet so that B is in a
team exactly when A is.  The reference is the replay of the raw packets in which B's name
does not occur at all.  As long as the two names are fixed, the filter agrees with the
reference on everybody else, and B shares A's membership.
-/

namespace SakuraTools
namespace Team

/-- A team packet of the remote server, as it arrives. -/
structure RawPacket where
  team : Name
  method : ℤ
  players : List Name
deriving DecidableEq, Repr

/-- The filter over a sequence of raw packets, for the fixed names of A and B. -/
def filtered (a b : Name) (packets : List RawPacket) : TeamState :=
  packets.foldl (fun s p => (s.apply p.team p.method p.players a b).1) .empty

/-- The replay of a raw packet that ignores the name `b`. -/
def TeamState.replay (r : TeamState) (b : Name) (p : RawPacket) : TeamState :=
  if p.method = 0 then
    ⟨insert p.team r.teams,
      fun q => if q ∈ p.players ∧ q ≠ b then some p.team else r.members q⟩
  else if p.team ∉ r.teams then r
  else if p.method = 1 then
    ⟨r.teams.erase p.team, fun q => if r.members q = some p.team then none else r.members q⟩
  else if p.method = 3 then
    ⟨r.teams, fun q => if q ∈ p.players ∧ q ≠ b then some p.team else r.members q⟩
  else if p.method = 4 then
    ⟨r.teams, fun q =>
      if q ∈ p.players ∧ q ≠ b ∧ r.members q = some p.team then none else r.members q⟩
  else r

/-- The reference replay of a sequence of raw packets. -/
def reference (b : Name) (packets : List RawPacket) : TeamState :=
  packets.foldl (fun r p => r.replay b p) .empty

section Candidates

variable {a b : Name} (ha : a ≠ []) (hb : b ≠ []) (hab : a ≠ b)
include ha hb hab

lemma mem_candidates_of_ne {players : List Name} {q : Name} (hq : q ≠ b) :
    q ∈ candidates players a b ↔ q ∈ players := by
  rw [candidates, if_pos ⟨ha, hb, hab⟩]
  by_cases h : a ∈ players <;> simp [h, hq]

lemma alias_mem_candidates {players : List Name} :
    b ∈ candidates players a b ↔ a ∈ players := by
  rw [candidates, if_pos ⟨ha, hb, hab⟩]
  by_cases h : a ∈ players <;> simp [h]

end Candidates

/-- The filter agrees with the reference up to the alias `b` of `a`. -/
structure Aliased (a b : Name) (s r : TeamState) : Prop where
  teams : s.teams = r.teams
  others : ∀ q, q ≠ b → s.members q = r.members q
  follows : s.members b = s.members a

namespace Aliased

variable {a b : Name} {s r : TeamState}

/-- A loop that adds players, against the reference that adds the same players. -/
lemma join (h : Aliased a b s r) (ha : a ≠ []) (hb : b ≠ []) (hab : a ≠ b) {method : ℤ}
    (hm : method ≠ 4) (teams : Finset Name) (p : RawPacket) :
    Aliased a b ⟨teams, (applyLoop p.team method (candidates p.players a b) ∅ s.members).1⟩
      ⟨teams, fun q => if q ∈ p.players ∧ q ≠ b then some p.team else r.members q⟩ where
  teams := rfl
  others q hq := by
    simp [applyLoop_join_apply hm, mem_candidates_of_ne ha hb hab hq, hq, h.others q hq]
  follows := by
    simp [applyLoop_join_apply hm, mem_candidates_of_ne ha hb hab hab,
      alias_mem_candidates ha hb hab, h.follows]

/-- A loop that removes players, against the reference that removes the same players. -/
lemma leave (h : Aliased a b s r) (ha : a ≠ []) (hb : b ≠ []) (hab : a ≠ b)
    (teams : Finset Name) (p : RawPacket) :
    Aliased a b ⟨teams, (applyLoop p.team 4 (candidates p.players a b) ∅ s.members).1⟩
      ⟨teams, fun q =>
        if q ∈ p.players ∧ q ≠ b ∧ r.members q = some p.team then none else r.members q⟩ where
  teams := rfl
  others q hq := by
    simp [applyLoop_leave_apply, mem_candidates_of_ne ha hb hab hq, hq, h.others q hq]
  follows := by
    simp [applyLoop_leave_apply, mem_candidates_of_ne ha hb hab hab,
      alias_mem_candidates ha hb hab, h.follows]

/-- One packet keeps the alias. -/
lemma apply (h : Aliased a b s r) (ha : a ≠ []) (hb : b ≠ []) (hab : a ≠ b) (p : RawPacket) :
    Aliased a b (s.apply p.team p.method p.players a b).1 (r.replay b p) := by
  rcases method_cases s p.team p.method with hr | hm | ⟨hm, ht⟩ | ⟨hm, ht⟩ | ⟨hm, ht⟩
  · have hreplay : r.replay b p = r := by
      have hr' : (p.method < 0 ∨ 4 < p.method) ∨ (p.method ≠ 0 ∧ p.team ∉ r.teams) := by
        rw [← h.teams]
        exact or_assoc.mpr hr
      rcases hr' with hr' | ⟨h0, ht⟩
      · simp [TeamState.replay, show p.method ≠ 0 by omega, show p.method ≠ 1 by omega,
          show p.method ≠ 3 by omega, show p.method ≠ 4 by omega]
      · simp [TeamState.replay, h0, ht]
    rw [apply_refused hr, hreplay]
    exact h
  · have hreplay : r.replay b p = ⟨insert p.team s.teams,
        fun q => if q ∈ p.players ∧ q ≠ b then some p.team else r.members q⟩ := by
      simp [TeamState.replay, hm, h.teams]
    rw [hm, apply_create, hreplay]
    exact h.join ha hb hab (by decide) _ p
  · have hreplay : r.replay b p = ⟨s.teams.erase p.team,
        fun q => if r.members q = some p.team then none else r.members q⟩ := by
      simp [TeamState.replay, hm, ← h.teams, ht]
    rw [hm, apply_delete ht, hreplay]
    exact ⟨rfl, fun q hq => by simp [h.others q hq], by simp [h.follows]⟩
  · have hreplay : r.replay b p = r := by
      simp [TeamState.replay, hm]
    rw [hm, apply_parameters ht, hreplay]
    exact h
  · rw [apply_players hm ht]
    rcases hm with hm | hm
    · have hreplay : r.replay b p = ⟨s.teams,
          fun q => if q ∈ p.players ∧ q ≠ b then some p.team else r.members q⟩ := by
        simp [TeamState.replay, hm, ← h.teams, ht]
      rw [hreplay]
      exact h.join ha hb hab (by omega) _ p
    · have hreplay : r.replay b p = ⟨s.teams, fun q =>
          if q ∈ p.players ∧ q ≠ b ∧ r.members q = some p.team then none
          else r.members q⟩ := by
        simp [TeamState.replay, hm, ← h.teams, ht]
      rw [hreplay, hm]
      exact h.leave ha hb hab _ p

end Aliased

/-- For two distinct non-empty names, the filter and the reference agree after every
sequence of raw packets on everybody but B, and B's membership is A's. -/
theorem filtered_eq_reference {a b : Name} (ha : a ≠ []) (hb : b ≠ []) (hab : a ≠ b)
    (packets : List RawPacket) :
    (∀ q, q ≠ b → (filtered a b packets).members q = (reference b packets).members q) ∧
      (filtered a b packets).members b = (filtered a b packets).members a := by
  have h : Aliased a b (filtered a b packets) (reference b packets) := by
    induction packets using List.reverseRecOn with
    | nil => exact ⟨rfl, fun _ _ => rfl, rfl⟩
    | append_singleton packets p ih =>
      rw [filtered, reference, List.foldl_concat, List.foldl_concat]
      exact ih.apply ha hb hab p
  exact ⟨h.others, h.follows⟩

/-- The names of the two clients in the repository's own test of the filter, `A` and `B`. -/
theorem filtered_eq_reference_test :
    (∀ q, q ≠ [66] → (filtered [65] [66] [⟨[1], 0, [[65]]⟩, ⟨[2], 3, [[66]]⟩]).members q =
        (reference [66] [⟨[1], 0, [[65]]⟩, ⟨[2], 3, [[66]]⟩]).members q) ∧
      (filtered [65] [66] [⟨[1], 0, [[65]]⟩, ⟨[2], 3, [[66]]⟩]).members [66] =
        (filtered [65] [66] [⟨[1], 0, [[65]]⟩, ⟨[2], 3, [[66]]⟩]).members [65] :=
  filtered_eq_reference (by decide) (by decide) (by decide) _

end Team
end SakuraTools
