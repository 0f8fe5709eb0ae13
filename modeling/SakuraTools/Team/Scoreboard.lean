import SakuraTools.Team.TeamState

/-!
# B's scoreboard

B's client keeps the teams of its own scoreboard and applies every team packet it receives;
a packet that names an unknown team, or that removes a player from a team it is not in, is
an error that disconnects B.  `TeamState` is meant to mirror this scoreboard.  This file
states the rules of the client over a scoreboard whose members are always in known teams,
and proves that the packets sent to it are legal and that `TeamState` tracks it.
-/

namespace SakuraTools
namespace Team

/-- The scoreboard of a client: a player can only be in a team that exists. -/
structure Scoreboard where
  /-- The teams. -/
  teams : Finset Name
  /-- The team of each player that is in one. -/
  members : Members
  /-- Every member's team exists. -/
  known : ∀ p t, members p = some t → t ∈ teams

/-- A team packet as the client reads it. -/
structure TeamPacket where
  team : Name
  method : ℤ
  players : List Name
deriving DecidableEq, Repr

/-- What B receives: team packets, and login packets, which start a new scoreboard. -/
inductive Message where
  | login
  | team (packet : TeamPacket)
deriving DecidableEq, Repr

namespace Scoreboard

/-- The scoreboard of a client that just logged in. -/
def empty : Scoreboard := ⟨∅, fun _ => none, by simp⟩

/-- Create a team, if there is none of that name. -/
def create (B : Scoreboard) (team : Name) : Scoreboard where
  teams := insert team B.teams
  members := B.members
  known p t h := Finset.mem_insert_of_mem (B.known p t h)

/-- Delete a team and drop its members. -/
def delete (B : Scoreboard) (team : Name) : Scoreboard where
  teams := B.teams.erase team
  members p := if B.members p = some team then none else B.members p
  known p t h := by
    split_ifs at h with hp
    exact Finset.mem_erase.mpr ⟨fun ht => hp (ht ▸ h), B.known p t h⟩

/-- Move a player into an existing team. -/
def join (B : Scoreboard) {team : Name} (ht : team ∈ B.teams) (player : Name) : Scoreboard where
  teams := B.teams
  members := Function.update B.members player (some team)
  known p t h := by
    by_cases hp : p = player
    · subst hp
      rw [Function.update_self] at h
      exact Option.some.inj h ▸ ht
    · rw [Function.update_of_ne hp] at h
      exact B.known p t h

/-- Move the listed players into an existing team. -/
def joinAll (B : Scoreboard) {team : Name} (ht : team ∈ B.teams) : List Name → Scoreboard
  | [] => B
  | p :: ps => joinAll (B.join ht p) ht ps

/-- Take a player out of its team. -/
def leave (B : Scoreboard) (player : Name) : Scoreboard where
  teams := B.teams
  members := Function.update B.members player none
  known p t h := by
    by_cases hp : p = player
    · subst hp
      rw [Function.update_self] at h
      exact absurd h (by simp)
    · rw [Function.update_of_ne hp] at h
      exact B.known p t h

/-- Take the listed players out of a team.  It is an error to list a player that is not in
that team at its turn. -/
def leaveAll (B : Scoreboard) (team : Name) : List Name → Option Scoreboard
  | [] => some B
  | p :: ps => if B.members p = some team then (B.leave p).leaveAll team ps else none

lemma mem_create (B : Scoreboard) (team : Name) : team ∈ (B.create team).teams :=
  Finset.mem_insert_self team B.teams

/-- The reaction of the client to a packet, `none` when it is an error. -/
def receive (B : Scoreboard) : Message → Option Scoreboard
  | .login => some empty
  | .team ⟨team, method, players⟩ =>
    if method = 0 then
      some ((B.create team).joinAll (B.mem_create team) players)
    else if ht : team ∈ B.teams then
      if method = 1 then some (B.delete team)
      else if method = 2 then some B
      else if method = 3 then some (B.joinAll ht players)
      else if method = 4 then B.leaveAll team players
      else none
    else none

/-- The reaction of the client to a sequence of packets. -/
def receiveAll (B : Scoreboard) : List Message → Option Scoreboard
  | [] => some B
  | m :: ms => (B.receive m).bind fun B' => B'.receiveAll ms

@[simp] lemma create_teams (B : Scoreboard) (team : Name) :
    (B.create team).teams = insert team B.teams := rfl

@[simp] lemma create_members (B : Scoreboard) (team : Name) :
    (B.create team).members = B.members := rfl

@[simp] lemma delete_teams (B : Scoreboard) (team : Name) :
    (B.delete team).teams = B.teams.erase team := rfl

@[simp] lemma delete_members (B : Scoreboard) (team : Name) :
    (B.delete team).members =
      fun p => if B.members p = some team then none else B.members p := rfl

@[simp] lemma leave_members (B : Scoreboard) (player : Name) :
    (B.leave player).members = Function.update B.members player none := rfl

lemma receiveAll_append (B : Scoreboard) (ms ms' : List Message) :
    B.receiveAll (ms ++ ms') = (B.receiveAll ms).bind fun B' => B'.receiveAll ms' := by
  induction ms generalizing B with
  | nil => rfl
  | cons m ms ih =>
    simp only [List.cons_append, receiveAll, Option.bind_assoc]
    congr 1
    funext B'
    exact ih B'

@[simp] lemma receiveAll_singleton (B : Scoreboard) (m : Message) :
    B.receiveAll [m] = B.receive m := by
  cases h : B.receive m <;> simp [receiveAll, h]

@[simp] lemma joinAll_teams (B : Scoreboard) {team : Name} (ht : team ∈ B.teams) (ps : List Name) :
    (B.joinAll ht ps).teams = B.teams := by
  induction ps generalizing B with
  | nil => rfl
  | cons p ps ih => exact ih (B.join ht p) ht

@[simp] lemma joinAll_members (B : Scoreboard) {team : Name} (ht : team ∈ B.teams)
    (ps : List Name) :
    (B.joinAll ht ps).members =
      ps.foldl (fun m p => Function.update m p (some team)) B.members := by
  induction ps generalizing B with
  | nil => rfl
  | cons p ps ih => exact ih (B.join ht p) ht

/-- The players that the filter passes on for a removal can leave the team one after
another, and what is left is what the filter keeps. -/
lemma leaveAll_applyLoop (B : Scoreboard) (team : Name) (l : List Name) (seen : Finset Name) :
    ∃ B', B.leaveAll team (applyLoop team 4 l seen B.members).2 = some B' ∧
      B'.teams = B.teams ∧ B'.members = (applyLoop team 4 l seen B.members).1 := by
  induction l generalizing B seen with
  | nil => exact ⟨B, rfl, rfl, rfl⟩
  | cons p l ih =>
    rw [applyLoop]
    by_cases hseen : p ∈ seen
    · simpa [hseen] using ih B seen
    · by_cases hp : B.members p = some team
      · obtain ⟨B', hB', hteams, hmembers⟩ := ih (B.leave p) (insert p seen)
        rw [leave_members] at hB' hmembers
        refine ⟨B', ?_, hteams, ?_⟩
        · simpa [hseen, hp, leaveAll] using hB'
        · simpa [hseen, hp] using hmembers
      · simpa [hseen, hp] using ih B (insert p seen)

/-- The packets that only move players are accepted.  A packet nobody is left to move in
would change nothing. -/
lemma receive_players (B : Scoreboard) {team : Name} {method : ℤ}
    (hm : method = 3 ∨ method = 4) (ht : team ∈ B.teams) (l : List Name) :
    ∃ B', B.receive (.team ⟨team, method, (applyLoop team method l ∅ B.members).2⟩) = some B' ∧
      B'.teams = B.teams ∧ B'.members = (applyLoop team method l ∅ B.members).1 ∧
      ((applyLoop team method l ∅ B.members).2 = [] → B' = B) := by
  rcases hm with rfl | rfl
  · refine ⟨B.joinAll ht (applyLoop team 3 l ∅ B.members).2, ?_, ?_, ?_, ?_⟩
    · simp [receive, ht]
    · simp
    · simp [applyLoop_members_join (show (3 : ℤ) ≠ 4 by decide)]
    · intro hnil
      rw [hnil]
      rfl
  · obtain ⟨B', hB', hteams, hmembers⟩ := leaveAll_applyLoop B team l ∅
    refine ⟨B', ?_, hteams, hmembers, ?_⟩
    · simpa [receive, ht] using hB'
    · intro hnil
      rw [hnil] at hB'
      exact (Option.some.inj hB').symm

end Scoreboard

/-! ## The session -/

/-- What happens to the filter during the sessions of B: a team packet of the remote server
arrives while A and B have the given names, or a login packet resets it. -/
inductive Call where
  | login
  | apply (team : Name) (method : ℤ) (players : List Name) (a b : Name)
deriving DecidableEq, Repr

/-- One call: the new state of the filter and what is sent to B. -/
def TeamState.call (s : TeamState) : Call → TeamState × List Message
  | .login => (.empty, [.login])
  | .apply team method players a b =>
    let r := s.apply team method players a b
    (r.1, if r.2.send then [.team ⟨team, method, r.2.players⟩] else [])

/-- A sequence of calls from the empty state: the state reached and all that was sent. -/
def runCalls (calls : List Call) : TeamState × List Message :=
  calls.foldl (fun r c => ((r.1.call c).1, r.2 ++ (r.1.call c).2)) (.empty, [])

lemma runCalls_concat (calls : List Call) (c : Call) :
    runCalls (calls ++ [c]) =
      (((runCalls calls).1.call c).1, (runCalls calls).2 ++ ((runCalls calls).1.call c).2) := by
  simp [runCalls]

/-- `TeamState` mirrors the scoreboard. -/
def Mirrors (s : TeamState) (B : Scoreboard) : Prop :=
  s.teams = B.teams ∧ s.members = B.members

/-- One call keeps the mirror: B accepts what is sent, and what is sent lists nobody twice. -/
lemma Mirrors.call {s : TeamState} {B : Scoreboard} (h : Mirrors s B) (c : Call) :
    (∃ B', B.receiveAll (s.call c).2 = some B' ∧ Mirrors (s.call c).1 B') ∧
      ∀ packet, Message.team packet ∈ (s.call c).2 → packet.players.Nodup := by
  obtain ⟨hteams, hmembers⟩ := h
  cases c with
  | login => exact ⟨⟨.empty, rfl, rfl, rfl⟩, by simp [TeamState.call]⟩
  | apply team method players a b =>
    rcases method_cases s team method with hr | rfl | ⟨rfl, ht⟩ | ⟨rfl, ht⟩ | ⟨hm, ht⟩
    · simp only [TeamState.call, apply_refused hr]
      exact ⟨⟨B, rfl, hteams, hmembers⟩, by simp⟩
    · simp only [TeamState.call, apply_create, if_true]
      refine ⟨⟨_, rfl, ?_, ?_⟩, ?_⟩
      · simp [hteams]
      · simp [hmembers, applyLoop_members_join (show (0 : ℤ) ≠ 4 by decide)]
      · intro packet hp
        obtain rfl := by simpa using hp
        exact (applyLoop_nodup ..).1
    · simp only [TeamState.call, apply_delete ht, if_true]
      refine ⟨⟨B.delete team, ?_, ?_, ?_⟩, by simp⟩
      · simp [Scoreboard.receive, ← hteams, ht]
      · simp [hteams]
      · simp [hmembers]
    · simp only [TeamState.call, apply_parameters ht, if_true]
      refine ⟨⟨B, ?_, hteams, hmembers⟩, by simp⟩
      simp [Scoreboard.receive, ← hteams, ht]
    · simp only [TeamState.call, apply_players hm ht]
      obtain ⟨B', hB', hteams', hmembers', hnil'⟩ := B.receive_players hm (hteams ▸ ht)
        (candidates players a b)
      rw [← hmembers] at hB' hmembers' hnil'
      refine ⟨⟨B', ?_, hteams.trans hteams'.symm, hmembers'.symm⟩, ?_⟩
      · by_cases hnil : (applyLoop team method (candidates players a b) ∅ s.members).2 = []
        · simp [hnil, hnil' hnil, Scoreboard.receiveAll]
        · simpa [hnil] using hB'
      · intro packet hp
        obtain ⟨-, rfl⟩ := by simpa using hp
        exact (applyLoop_nodup ..).1

/-- After any sequence of calls B has accepted everything it was sent, no list it was sent
names a player twice, and the filter holds exactly the teams and members of B's scoreboard,
so that every member's team is a known one. -/
theorem scoreboard_tracked (calls : List Call) :
    (∃ B, Scoreboard.empty.receiveAll (runCalls calls).2 = some B ∧
        Mirrors (runCalls calls).1 B) ∧
      (∀ packet, Message.team packet ∈ (runCalls calls).2 → packet.players.Nodup) ∧
      ∀ p t, (runCalls calls).1.members p = some t → t ∈ (runCalls calls).1.teams := by
  have key : (∃ B, Scoreboard.empty.receiveAll (runCalls calls).2 = some B ∧
        Mirrors (runCalls calls).1 B) ∧
      ∀ packet, Message.team packet ∈ (runCalls calls).2 → packet.players.Nodup := by
    induction calls using List.reverseRecOn with
    | nil => exact ⟨⟨.empty, rfl, rfl, rfl⟩, by simp [runCalls]⟩
    | append_singleton calls c ih =>
      obtain ⟨⟨B, hB, hmirror⟩, hnodup⟩ := ih
      obtain ⟨⟨B', hB', hmirror'⟩, hnodup'⟩ := hmirror.call c
      rw [runCalls_concat]
      refine ⟨⟨B', ?_, hmirror'⟩, ?_⟩
      · rw [Scoreboard.receiveAll_append, hB]
        exact hB'
      · intro packet hp
        exact (List.mem_append.mp hp).elim (hnodup packet) (hnodup' packet)
  refine ⟨key.1, key.2, ?_⟩
  obtain ⟨⟨B, -, hteams, hmembers⟩, -⟩ := key
  intro p t h
  rw [hteams]
  exact B.known p t (hmembers ▸ h)

end Team
end SakuraTools
