import Mathlib.Data.Finset.Basic
import Mathlib.Data.List.Nodup

/-!
# The scoreboard filter in front of B

`native/team_state.h` rewrites the team packets of the remote server before they are sent
to B: B's own name follows the name of A, a removal is passed on only for a player that is
known to be in the team, and packets about unknown teams are dropped.  This file is the
model of `TeamState::apply` together with the small facts about its loop that the other
files on teams use.
-/

namespace SakuraTools
namespace Team

/-- `TeamState::Name`, a `std::u16string`. -/
abbrev Name := List UInt16

instance (player : Name) (players : List Name) : Decidable (player ∈ players) :=
  List.instDecidableMemOfLawfulBEq player players

/-- `TeamState::members_`, the team of each player that is in one. -/
abbrev Members := Name → Option Name

/-- The state of `TeamState`. -/
structure TeamState where
  /-- `teams_` -/
  teams : Finset Name
  /-- `members_` -/
  members : Members

/-- `TeamState{}` -/
def TeamState.empty : TeamState := ⟨∅, fun _ => none⟩

/-- `TeamState::Update`: whether the packet goes to B, and with which players. -/
structure Update where
  send : Bool
  players : List Name
deriving DecidableEq, Repr

/-- The names the loop of `apply` runs over: B's name is removed from the packet's list and
put back at its end when the list names A. -/
def candidates (players : List Name) (a b : Name) : List Name :=
  if a ≠ [] ∧ b ≠ [] ∧ a ≠ b then
    players.filter (· ≠ b) ++ if a ∈ players then [b] else []
  else players

/-- The loop of `apply` over the candidates, with the set `seen` of names it has met. -/
def applyLoop (team : Name) (method : ℤ) :
    List Name → Finset Name → Members → Members × List Name
  | [], _, members => (members, [])
  | player :: rest, seen, members =>
    if player ∈ seen then applyLoop team method rest seen members
    else if method = 4 then
      if members player ≠ some team then
        applyLoop team method rest (insert player seen) members
      else
        let r := applyLoop team method rest (insert player seen)
          (Function.update members player none)
        (r.1, player :: r.2)
    else
      let r := applyLoop team method rest (insert player seen)
        (Function.update members player (some team))
      (r.1, player :: r.2)

/-- `TeamState::apply` -/
def TeamState.apply (s : TeamState) (team : Name) (method : ℤ) (players : List Name)
    (a b : Name) : TeamState × Update :=
  if method < 0 ∨ 4 < method ∨ (method ≠ 0 ∧ team ∉ s.teams) then (s, ⟨false, []⟩)
  else
    let teams := if method = 0 then insert team s.teams else s.teams
    if method = 1 then
      (⟨teams.erase team, fun p => if s.members p = some team then none else s.members p⟩,
        ⟨true, []⟩)
    else if method = 2 then (⟨teams, s.members⟩, ⟨true, []⟩)
    else
      let r := applyLoop team method (candidates players a b) ∅ s.members
      (⟨teams, r.1⟩, ⟨!((method = 3 ∨ method = 4) ∧ r.2 = []), r.2⟩)

/-! ## The cases of `apply` -/

section Cases

variable {s : TeamState} {team : Name} {method : ℤ} {players : List Name} {a b : Name}

lemma apply_refused (h : method < 0 ∨ 4 < method ∨ (method ≠ 0 ∧ team ∉ s.teams)) :
    s.apply team method players a b = (s, ⟨false, []⟩) := by
  rw [TeamState.apply, if_pos h]

lemma apply_delete (h : team ∈ s.teams) :
    s.apply team 1 players a b =
      (⟨s.teams.erase team, fun p => if s.members p = some team then none else s.members p⟩,
        ⟨true, []⟩) := by
  simp [TeamState.apply, h]

lemma apply_parameters (h : team ∈ s.teams) :
    s.apply team 2 players a b = (s, ⟨true, []⟩) := by
  simp [TeamState.apply, h]

lemma apply_create :
    s.apply team 0 players a b =
      (⟨insert team s.teams, (applyLoop team 0 (candidates players a b) ∅ s.members).1⟩,
        ⟨true, (applyLoop team 0 (candidates players a b) ∅ s.members).2⟩) := by
  simp [TeamState.apply]

/-- The two methods that only move players: they are sent when somebody is left to move. -/
lemma apply_players (hm : method = 3 ∨ method = 4) (h : team ∈ s.teams) :
    s.apply team method players a b =
      (⟨s.teams, (applyLoop team method (candidates players a b) ∅ s.members).1⟩,
        ⟨!decide ((applyLoop team method (candidates players a b) ∅ s.members).2 = []),
          (applyLoop team method (candidates players a b) ∅ s.members).2⟩) := by
  rcases hm with rfl | rfl <;> simp [TeamState.apply, h]

/-- A packet is refused, or it is one of the five methods for a team it may name. -/
lemma method_cases (s : TeamState) (team : Name) (method : ℤ) :
    (method < 0 ∨ 4 < method ∨ (method ≠ 0 ∧ team ∉ s.teams)) ∨ method = 0 ∨
      (method = 1 ∧ team ∈ s.teams) ∨ (method = 2 ∧ team ∈ s.teams) ∨
      ((method = 3 ∨ method = 4) ∧ team ∈ s.teams) := by
  by_cases h : team ∈ s.teams
  · simp only [h, not_true, and_false, or_false, and_true]
    omega
  · simp only [h, not_false_eq_true, and_true, and_false, or_false]
    omega

end Cases

/-! ## The loop -/

section Loop

variable {team : Name} {method : ℤ}

/-- No name is passed on twice, and none that was met before. -/
lemma applyLoop_nodup (team : Name) (method : ℤ) (l : List Name) (seen : Finset Name)
    (m : Members) :
    (applyLoop team method l seen m).2.Nodup ∧
      ∀ p ∈ (applyLoop team method l seen m).2, p ∉ seen := by
  induction l generalizing seen m with
  | nil => simp [applyLoop]
  | cons p l ih =>
    rw [applyLoop]
    split_ifs with hseen hfour hmem
    · exact ih seen m
    · obtain ⟨hnd, hnew⟩ := ih (insert p seen) m
      exact ⟨hnd, fun q hq hqs => hnew q hq (Finset.mem_insert_of_mem hqs)⟩
    all_goals
      obtain ⟨hnd, hnew⟩ := ih (insert p seen) _
      refine ⟨List.nodup_cons.mpr ⟨fun hp => hnew p hp (Finset.mem_insert_self p seen), hnd⟩, ?_⟩
      rintro q (_ | ⟨_, hq⟩)
      · exact hseen
      · exact fun hqs => hnew q hq (Finset.mem_insert_of_mem hqs)

/-- A loop that adds players puts exactly the names it passes on into the team. -/
lemma applyLoop_members_join (hm : method ≠ 4) (l : List Name) (seen : Finset Name)
    (m : Members) :
    (applyLoop team method l seen m).1 =
      (applyLoop team method l seen m).2.foldl
        (fun m p => Function.update m p (some team)) m := by
  induction l generalizing seen m with
  | nil => simp [applyLoop]
  | cons p l ih =>
    rw [applyLoop]
    split_ifs with hseen
    · exact ih seen m
    · simpa using ih (insert p seen) (Function.update m p (some team))

/-- The members after a loop that adds players. -/
lemma applyLoop_join_apply (hm : method ≠ 4) (l : List Name) (seen : Finset Name)
    (m : Members) (q : Name) :
    (applyLoop team method l seen m).1 q = if q ∈ l ∧ q ∉ seen then some team else m q := by
  induction l generalizing seen m with
  | nil => simp [applyLoop]
  | cons p l ih =>
    rw [applyLoop]
    split_ifs with hseen hq hq
    · rw [ih, if_pos ?_]
      obtain ⟨hql, hqs⟩ := hq
      rcases List.mem_cons.mp hql with rfl | hql
      · exact absurd hseen hqs
      · exact ⟨hql, hqs⟩
    · rw [ih, if_neg fun h => hq ⟨List.mem_cons_of_mem _ h.1, h.2⟩]
    · by_cases hqp : q = p
      · subst hqp
        simp [ih]
      · have hql : q ∈ l := (List.mem_cons.mp hq.1).resolve_left hqp
        simp [ih, hql, hqp, hq.2]
    · have hqp : q ≠ p := by
        rintro rfl
        exact hq ⟨List.mem_cons_self, hseen⟩
      have hql : ¬ (q ∈ l ∧ q ∉ insert p seen) := by
        rintro ⟨hql, hqs⟩
        exact hq ⟨List.mem_cons_of_mem _ hql, fun h => hqs (Finset.mem_insert_of_mem h)⟩
      simp only [ih, if_neg hql, Function.update_of_ne hqp]

/-- The members after a loop that removes players. -/
lemma applyLoop_leave_apply (l : List Name) (seen : Finset Name) (m : Members) (q : Name) :
    (applyLoop team 4 l seen m).1 q =
      if q ∈ l ∧ q ∉ seen ∧ m q = some team then none else m q := by
  induction l generalizing seen m with
  | nil => simp [applyLoop]
  | cons p l ih =>
    rw [applyLoop]
    by_cases hseen : p ∈ seen
    · rw [if_pos hseen, ih]
      have : (q ∈ p :: l ∧ q ∉ seen ∧ m q = some team) ↔
          (q ∈ l ∧ q ∉ seen ∧ m q = some team) := by
        constructor
        · rintro ⟨hql, hqs, hqt⟩
          rcases List.mem_cons.mp hql with rfl | hql
          · exact absurd hseen hqs
          · exact ⟨hql, hqs, hqt⟩
        · rintro ⟨hql, hqs, hqt⟩
          exact ⟨List.mem_cons_of_mem _ hql, hqs, hqt⟩
      simp only [this]
    · rw [if_neg hseen, if_pos rfl]
      by_cases hqp : q = p
      · -- the player the loop is at: it is removed exactly when it is in the team
        subst hqp
        by_cases hqt : m q = some team <;> simp [hqt, ih, hseen]
      · by_cases hpt : m p = some team <;>
          simp [hpt, ih, hqp, List.mem_cons]

end Loop

end Team
end SakuraTools
