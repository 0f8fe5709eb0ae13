import SakuraTools.Team.Alias
import SakuraTools.Team.Scoreboard

/-!
# The teams of a snapshot

`captureNow` of `native/world_snapshot.cpp` describes the teams of A's scoreboard by packets that
create them, behind the login packet.  B gets them through the filter, like the packets that come
after them from the remote server.  All together they keep B's scoreboard equal to A's, with B in
the place of A.
-/

namespace SakuraTools
namespace Team

/-- The loop of `captureNow` over the teams, each with its players. -/
def captureTeams (teams : List (Name × List Name)) : List Message :=
  teams.map fun t => .team ⟨t.1, 0, t.2⟩

/-- What the filter is called with for a packet. -/
def Message.call (a b : Name) : Message → Call
  | .login => .login
  | .team p => .apply p.team p.method p.players a b

/-- The teams that are listed are those of the scoreboard. -/
structure Scoreboard.Lists (A : Scoreboard) (teams : List (Name × List Name)) : Prop where
  names : ∀ t, t ∈ A.teams ↔ t ∈ teams.map Prod.fst
  players : ∀ t ∈ teams, ∀ p, p ∈ t.2 ↔ A.members p = some t.1

/-- The scoreboard as the filter would hold it. -/
def Scoreboard.state (A : Scoreboard) : TeamState := ⟨A.teams, A.members⟩

namespace Scoreboard

variable {A A' B : Scoreboard} {team : Name} {players : List Name}

@[ext] lemma ext (hteams : A.teams = B.teams) (hmembers : A.members = B.members) : A = B := by
  cases A
  cases B
  cases hteams
  cases hmembers
  rfl

lemma foldl_update_apply (m : Members) (team : Name) (players : List Name) (q : Name) :
    players.foldl (fun m p => Function.update m p (some team)) m q =
      if q ∈ players then some team else m q := by
  induction players generalizing m with
  | nil => simp
  | cons p players ih =>
    rw [List.foldl_cons, ih]
    by_cases hq : q ∈ players
    · simp [hq]
    · by_cases hqp : q = p <;> simp [hq, hqp]

/-- Players that leave a team one after another have all been in it. -/
lemma leaveAll_spec (h : A.leaveAll team players = some A') :
    A'.teams = A.teams ∧ (∀ p ∈ players, A.members p = some team) ∧
      ∀ q, A'.members q = if q ∈ players then none else A.members q := by
  induction players generalizing A with
  | nil =>
    cases h
    exact ⟨rfl, List.forall_mem_nil _, fun q => by simp⟩
  | cons p players ih =>
    rw [leaveAll] at h
    split at h
    · rename_i hp
      obtain ⟨hteams, hall, hmembers⟩ := ih h
      refine ⟨hteams, fun q hq => ?_, fun q => ?_⟩
      · rcases List.mem_cons.mp hq with rfl | hq
        · exact hp
        · have hleft := hall q hq
          by_cases hqp : q = p
          · exact hqp ▸ hp
          · rwa [leave_members, Function.update_of_ne hqp] at hleft
      · rw [hmembers q]
        by_cases hqp : q = p
        · subst hqp
          simp
        · simp [hqp]
    · cases h

/-- Whoever receives packets that are no errors does what the reference does. -/
lemma replay_state {p : TeamPacket} (b : Name) (h : A.receive (.team p) = some A') :
    (A.state.replay b ⟨p.team, p.method, p.players⟩).teams = A'.teams ∧
      ∀ q ≠ b, (A.state.replay b ⟨p.team, p.method, p.players⟩).members q = A'.members q := by
  obtain ⟨team, method, players⟩ := p
  rw [receive] at h
  by_cases hcreate : method = 0
  · rw [if_pos hcreate] at h
    obtain rfl := Option.some.inj h
    refine ⟨by simp [TeamState.replay, hcreate, state], fun q hq => ?_⟩
    simp [TeamState.replay, hcreate, state, foldl_update_apply, hq]
  · rw [if_neg hcreate] at h
    by_cases hteam : team ∈ A.teams
    · rw [dif_pos hteam] at h
      split_ifs at h with hdelete hparameters hjoin hleave
      · obtain rfl := Option.some.inj h
        refine ⟨by simp [TeamState.replay, hdelete, state, hteam], fun q _ => ?_⟩
        by_cases hq : A.members q = some team <;>
          simp [TeamState.replay, hdelete, state, hteam, hq]
      · obtain rfl := Option.some.inj h
        exact ⟨by simp [TeamState.replay, hparameters, state],
          fun q _ => by simp [TeamState.replay, hparameters, state]⟩
      · obtain rfl := Option.some.inj h
        refine ⟨by simp [TeamState.replay, hjoin, state, hteam], fun q hq => ?_⟩
        simp [TeamState.replay, hjoin, state, hteam, foldl_update_apply, hq]
      · obtain ⟨hteams, hall, hmembers⟩ := leaveAll_spec h
        refine ⟨by simp [TeamState.replay, hleave, state, hteam, hteams], fun q hq => ?_⟩
        rw [hmembers q]
        by_cases hmem : q ∈ players
        · simp [TeamState.replay, hleave, state, hteam, hmem, hq, hall q hmem]
        · simp [TeamState.replay, hleave, state, hteam, hmem]
    · rw [dif_neg hteam] at h
      cases h

/-! ## The snapshot -/

/-- The packets that create teams are never an error.  They put the listed players where `A` has
them, and leave the others. -/
lemma receiveAll_captureTeams (B : Scoreboard) {teams : List (Name × List Name)}
    (h : ∀ t ∈ teams, ∀ p, p ∈ t.2 ↔ A.members p = some t.1) :
    ∃ B', B.receiveAll (captureTeams teams) = some B' ∧
      (∀ t, t ∈ B'.teams ↔ t ∈ B.teams ∨ t ∈ teams.map Prod.fst) ∧
      ∀ q, ((∃ t ∈ teams, q ∈ t.2) → B'.members q = A.members q) ∧
        ((∀ t ∈ teams, q ∉ t.2) → B'.members q = B.members q) := by
  induction teams generalizing B with
  | nil => exact ⟨B, rfl, fun t => by simp, fun q => ⟨fun hq => by simp at hq, fun _ => rfl⟩⟩
  | cons t teams ih =>
    obtain ⟨B', hB', hteams, hmembers⟩ := ih ((B.create t.1).joinAll (B.mem_create t.1) t.2)
      fun t' ht' => h t' (List.mem_cons_of_mem t ht')
    refine ⟨B', hB', fun t' => ?_, fun q => ?_⟩
    · rw [hteams t', joinAll_teams, create_teams, Finset.mem_insert, List.map_cons, List.mem_cons,
        or_comm (a := t' = t.1), or_assoc]
    · obtain ⟨hlisted, hother⟩ := hmembers q
      rw [joinAll_members, foldl_update_apply, create_members] at hother
      refine ⟨fun hq => ?_, fun hq => ?_⟩
      · by_cases hlater : ∃ t' ∈ teams, q ∈ t'.2
        · exact hlisted hlater
        · obtain ⟨t', ht', hq⟩ := hq
          rcases List.mem_cons.mp ht' with rfl | ht'
          · rw [hother fun t'' ht'' hq'' => hlater ⟨t'', ht'', hq''⟩, if_pos hq]
            exact ((h t' List.mem_cons_self q).mp hq).symm
          · exact absurd ⟨t', ht', hq⟩ hlater
      · rw [hother fun t' ht' => hq t' (List.mem_cons_of_mem t ht'),
          if_neg (hq t List.mem_cons_self)]

/-- The packets of the snapshot build the scoreboard that they describe. -/
lemma Lists.receiveAll {teams : List (Name × List Name)} (h : A.Lists teams) :
    empty.receiveAll (captureTeams teams) = some A := by
  obtain ⟨B, hB, hteams, hmembers⟩ := receiveAll_captureTeams empty h.players
  rw [hB]
  congr 1
  ext q
  · rw [hteams, h.names]
    simp [empty]
  · by_cases hq : ∃ t ∈ teams, q ∈ t.2
    · rw [(hmembers q).1 hq]
    · rw [not_exists] at hq
      have hnone : A.members q = none := by
        by_contra hne
        obtain ⟨t, ht⟩ := Option.ne_none_iff_exists'.mp hne
        obtain ⟨x, hx, rfl⟩ := List.mem_map.mp ((h.names t).mp (A.known q t ht))
        exact hq x ⟨hx, (h.players x hx q).mpr ht⟩
      rw [(hmembers q).2 fun t ht hmem => hq t ⟨ht, hmem⟩, hnone]
      rfl

end Scoreboard

/-! ## The stream -/

section Stream

variable {a b : Name} {A A' : Scoreboard}

lemma exists_scoreboard (calls : List Call) : ∃ B,
    Scoreboard.empty.receiveAll (runCalls calls).2 = some B ∧ Mirrors (runCalls calls).1 B := by
  induction calls using List.reverseRecOn with
  | nil => exact ⟨.empty, rfl, rfl, rfl⟩
  | append_singleton calls c ih =>
    obtain ⟨B, hB, hmirrors⟩ := ih
    obtain ⟨⟨B', hB', hmirrors'⟩, -⟩ := hmirrors.call c
    refine ⟨B', ?_, (runCalls_concat calls c).symm ▸ hmirrors'⟩
    rw [runCalls_concat, Scoreboard.receiveAll_append, hB]
    exact hB'

/-- A packet that is no error for A keeps B's place. -/
lemma Aliased.call {s : TeamState} (h : Aliased a b s A.state) (ha : a ≠ []) (hb : b ≠ [])
    (hab : a ≠ b) {m : Message} (hm : A.receive m = some A') :
    Aliased a b (s.call (m.call a b)).1 A'.state := by
  cases m with
  | login =>
    cases hm
    exact ⟨rfl, fun _ _ => rfl, rfl⟩
  | team p =>
    have hstep := h.apply ha hb hab ⟨p.team, p.method, p.players⟩
    obtain ⟨hteams, hmembers⟩ := Scoreboard.replay_state b hm
    exact ⟨hstep.teams.trans hteams, fun q hq => (hstep.others q hq).trans (hmembers q hq),
      hstep.follows⟩

lemma aliased_run (ha : a ≠ []) (hb : b ≠ []) (hab : a ≠ b) {ms : List Message}
    (hms : Scoreboard.empty.receiveAll ms = some A) :
    Aliased a b (runCalls (ms.map (Message.call a b))).1 A.state := by
  induction ms using List.reverseRecOn generalizing A with
  | nil =>
    cases hms
    exact ⟨rfl, fun _ _ => rfl, rfl⟩
  | append_singleton ms m ih =>
    rw [Scoreboard.receiveAll_append] at hms
    obtain ⟨A₀, hms₀, hm⟩ := Option.bind_eq_some_iff.mp hms
    rw [List.map_append, List.map_singleton, runCalls_concat]
    exact (ih hms₀).call ha hb hab (Scoreboard.receiveAll_singleton A₀ m ▸ hm)

/-- B logs in while A plays.  The snapshot describes A's scoreboard, and then A and B get what the
remote server sends, without an error for A.  Then there is none for B, and B's scoreboard is A's:
all other players are in the same teams, and B is where A is. -/
theorem snapshot_teams (ha : a ≠ []) (hb : b ≠ []) (hab : a ≠ b) {teams : List (Name × List Name)}
    (hteams : A.Lists teams) {live : List Message} (hlive : A.receiveAll live = some A') :
    ∃ B, Scoreboard.empty.receiveAll
        (runCalls ((.login :: captureTeams teams ++ live).map (Message.call a b))).2 = some B ∧
      B.teams = A'.teams ∧ (∀ q ≠ b, B.members q = A'.members q) ∧
      B.members b = A'.members a := by
  have hall : Scoreboard.empty.receiveAll (.login :: captureTeams teams ++ live) = some A' := by
    rw [Scoreboard.receiveAll_append]
    show (Scoreboard.empty.receiveAll (captureTeams teams)).bind _ = _
    rw [hteams.receiveAll]
    exact hlive
  have halias := aliased_run ha hb hab hall
  obtain ⟨B, hB, hmirrors⟩ :=
    exists_scoreboard ((.login :: captureTeams teams ++ live).map (Message.call a b))
  refine ⟨B, hB, hmirrors.1.symm.trans halias.teams, fun q hq => ?_, ?_⟩
  · rw [← hmirrors.2]
    exact halias.others q hq
  · rw [← hmirrors.2]
    exact halias.follows.trans (halias.others a hab)

end Stream

/-- A team with one player. -/
def sampleScoreboard : Scoreboard :=
  (Scoreboard.empty.create [1]).join (Scoreboard.mem_create _ [1]) [65]

lemma sampleScoreboard_lists : sampleScoreboard.Lists [([1], [[65]])] where
  names t := by simp [sampleScoreboard, Scoreboard.join, Scoreboard.empty]
  players := by
    intro t ht p
    obtain rfl := List.mem_singleton.mp ht
    by_cases hp : p = [65] <;> simp [sampleScoreboard, Scoreboard.join, Scoreboard.empty, hp]

/-- The packet that takes the player out of the team. -/
def sampleLive : List Message := [.team ⟨[1], 4, [[65]]⟩]

lemma sampleLive_legal : sampleScoreboard.receiveAll sampleLive =
    some (sampleScoreboard.leave [65]) := rfl

/-- `B` logs in, and then `A` leaves the team. -/
theorem snapshot_teams_sample : ∃ B, Scoreboard.empty.receiveAll
    (runCalls ((Message.login :: captureTeams [([1], [[65]])] ++ sampleLive).map
      (Message.call [65] [66]))).2 = some B ∧
    B.members [66] = (sampleScoreboard.leave [65]).members [65] := by
  have ha : ([65] : Name) ≠ [] := List.cons_ne_nil 65 []
  have hb : ([66] : Name) ≠ [] := List.cons_ne_nil 66 []
  have hab : ([65] : Name) ≠ [66] := by decide
  obtain ⟨B, hB, -, -, hmember⟩ :=
    snapshot_teams ha hb hab sampleScoreboard_lists sampleLive_legal
  exact ⟨B, hB, hmember⟩

end Team
end SakuraTools
