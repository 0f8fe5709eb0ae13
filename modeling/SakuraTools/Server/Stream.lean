import SakuraTools.Server.Session
import SakuraTools.Team.Alias

/-!
# The packets that B is sent

`BServer_ForwardToB` hands a packet of A's server to the writer of B's channel; a bundle is taken
apart, whatever the depth.  Every JNI call on the way may fail: a packet comes with the answers of
the calls that handle it.
-/

namespace SakuraTools
namespace Server

open Team (Name TeamState RawPacket)

/-! ## Packets -/

/-- What `writeClientPacket` and `prepareTeamPacket` tell apart. -/
inductive PacketKind where
  | customPayload
  /-- `ClientboundSetPlayerTeamPacket` -/
  | team (p : RawPacket)
  /-- `ClientboundLoginPacket` -/
  | login
  /-- `ClientboundPlayerInfoUpdatePacket` -/
  | playerInfo
  | other
deriving DecidableEq, Repr

structure LeafPacket where
  id : ℕ
  kind : PacketKind
deriving DecidableEq, Repr

/-- The answers of the calls that write a packet. -/
structure WriteAnswers where
  /-- `prepareTeamPacket` has a reference to the packet; of a team update it has read the fields. -/
  read : Bool := true
  /-- The name of the class is found. -/
  named : Bool := true
  /-- The team packet for B is built. -/
  built : Bool := true
  /-- `PopLocalFrame` returns it. -/
  popped : Bool := true
  /-- `Channel.writeAndFlush` does not throw. -/
  written : Bool := true
  /-- `mirrorPlayerInfoUpdateToB` gets as far as writing a packet of its own. -/
  mirrored : Bool := true
  /-- `Channel.close` does not throw, if it is called. -/
  closed : Bool := true
deriving DecidableEq, Repr

/-- The answers of the calls that open a bundle. -/
structure BundleAnswers where
  subPackets : Bool := true
  iterator : Bool := true
deriving DecidableEq, Repr

mutual

/-- A packet on its way to B. -/
inductive Incoming where
  | leaf (p : LeafPacket) (x : WriteAnswers)
  | bundle (o : BundleAnswers) (subs : SubPackets) (x : WriteAnswers)

/-- What the iterator of a bundle returns, and whether `hasNext` and `next` throw. -/
inductive SubPackets where
  | done (hasNext : Bool)
  | null (hasNext next : Bool) (rest : SubPackets)
  | next (hasNext next : Bool) (sub : Incoming) (rest : SubPackets)

end

mutual

/-- The packets that are no bundles, in their order. -/
def Incoming.leaves : Incoming → List LeafPacket
  | .leaf p _ => [p]
  | .bundle _ subs _ => subs.leaves

def SubPackets.leaves : SubPackets → List LeafPacket
  | .done _ => []
  | .null _ _ rest => rest.leaves
  | .next _ _ sub rest => sub.leaves ++ rest.leaves

end

def Incoming.kind : Incoming → PacketKind
  | .leaf p _ => p.kind
  | .bundle _ _ _ => .other

def Incoming.answers : Incoming → WriteAnswers
  | .leaf _ x => x
  | .bundle _ _ x => x

/-! ## The writer -/

/-- The classes that were found when the server was installed, with their members, and the names
of the two players. -/
structure WriterRefs where
  bundle : Bool := true
  customPayload : Bool := true
  team : Bool := true
  aPlayer : Name := []
  bPlayer : Name := []
deriving DecidableEq, Repr

/-- What happens to the packets in B's channel. -/
inductive StreamEvent where
  | skipped (ps : List LeafPacket)
  /-- `TeamState` does not pass the update on. -/
  | suppressed (ps : List LeafPacket) (teams : TeamState)
  /-- A packet is written, which may be a bundle; a team update with the players for B. -/
  | written (ps : List LeafPacket) (players : Option (List Name))
  /-- A packet of `mirrorPlayerInfoUpdateToB` is written. -/
  | mirrored
  | closed

/-- The result of `prepareTeamPacket`. -/
inductive Prepared where
  | failed
  | nothing
  | output (players : Option (List Name))

def prepareTeamPacket (refs : WriterRefs) (teams : TeamState) (kind : PacketKind)
    (x : WriteAnswers) : TeamState × Prepared :=
  let output := if x.read then .output none else .failed
  match kind with
  | .team p =>
    if !refs.team then (teams, output)
    else if !x.read then (teams, .failed)
    else
      let (next, update) := teams.apply p.team p.method p.players refs.aPlayer refs.bPlayer
      if !update.send then (next, .nothing)
      else if !x.built then (teams, .failed)
      else (next, if x.popped then .output (some update.players) else .failed)
  | .login => (if x.named then .empty else teams, output)
  | .customPayload | .playerInfo | .other => (teams, output)

def writeClientPacket (refs : WriterRefs) (teams : TeamState) (packet : Incoming) :
    TeamState × List StreamEvent :=
  let x := packet.answers
  let close := if x.closed then [.closed] else []
  if refs.customPayload ∧ packet.kind = .customPayload then (teams, [.skipped packet.leaves])
  else
    match prepareTeamPacket refs teams packet.kind x with
    | (next, .failed) => (next, close)
    | (next, .nothing) => (next, [.suppressed packet.leaves teams])
    | (next, .output players) =>
      if !x.written then (next, close)
      else
        (next, .written packet.leaves players ::
          if packet.kind = .playerInfo ∧ x.mirrored then [.mirrored] else [])

mutual

/-- `forwardBundleExpanded`, which returns false for a packet that it does not take apart. -/
def forwardBundleExpanded (refs : WriterRefs) (teams : TeamState) :
    Incoming → Option (TeamState × List StreamEvent)
  | .leaf _ _ => none
  | .bundle o subs _ =>
    if !refs.bundle then none
    else if !o.subPackets then some (teams, [])
    else if !o.iterator then some (teams, [])
    else some (forwardSubPackets refs teams subs)

/-- The loop of `forwardBundleExpanded`. -/
def forwardSubPackets (refs : WriterRefs) (teams : TeamState) :
    SubPackets → TeamState × List StreamEvent
  | .done _ => (teams, [])
  | .null hasNext next rest =>
    if !hasNext then (teams, [])
    else if !next then (teams, [])
    else forwardSubPackets refs teams rest
  | .next hasNext next sub rest =>
    if !hasNext then (teams, [])
    else if !next then (teams, [])
    else
      let r :=
        match forwardBundleExpanded refs teams sub with
        | some r => r
        | none => writeClientPacket refs teams sub
      let r' := forwardSubPackets refs r.1 rest
      (r'.1, r.2 ++ r'.2)

end

/-- The packet is taken apart or written as it is. -/
def forward (refs : WriterRefs) (teams : TeamState) (p : Incoming) :
    TeamState × List StreamEvent :=
  match forwardBundleExpanded refs teams p with
  | some r => r
  | none => writeClientPacket refs teams p

/-- The answers of the calls of `BServer_ForwardToB` itself. -/
structure ForwardAnswers where
  /-- The name of the class is found. -/
  named : Bool := true
  /-- A local reference to B's channel is made. -/
  channel : Bool := true
deriving DecidableEq, Repr

/-- `BServer_ForwardToB` for a packet of the class `cls`, but for what it buffers. -/
def forwardToB (refs : WriterRefs) (s : Session) (teams : TeamState) (cls : String)
    (x : ForwardAnswers) (packet : Incoming) : TeamState × List StreamEvent :=
  if s.stopping ∨ (s.clientState ≠ .Play ∧ s.clientState ≠ .Syncing ∧
      s.clientState ≠ .AwaitReady) then (teams, [])
  else if !PacketPolicy.isGamePacket (if x.named then cls else "") then (teams, [])
  else if s.clientState = .Syncing then (teams, [])
  else if s.clientChannel = none ∨ !x.channel then (teams, [])
  else forward refs teams packet

/-! ## The packets that are reached -/

/-- A packet that gets to `writeClientPacket`, or what is behind a call that failed. -/
inductive Reached where
  | packet (p : Incoming)
  | lost (ps : List LeafPacket)

def Reached.leaves : Reached → List LeafPacket
  | .packet p => p.leaves
  | .lost ps => ps

mutual

/-- How far the bundles are taken apart. -/
def Incoming.reached (refs : WriterRefs) : Incoming → List Reached
  | .leaf p x => [.packet (.leaf p x)]
  | .bundle o subs x =>
    if !refs.bundle then [.packet (.bundle o subs x)]
    else if o.subPackets ∧ o.iterator then subs.reached refs
    else [.lost subs.leaves]

def SubPackets.reached (refs : WriterRefs) : SubPackets → List Reached
  | .done _ => []
  | .null hasNext next rest =>
    if hasNext ∧ next then rest.reached refs else [.lost rest.leaves]
  | .next hasNext next sub rest =>
    if hasNext ∧ next then sub.reached refs ++ rest.reached refs
    else [.lost (sub.leaves ++ rest.leaves)]

end

mutual

lemma Incoming.leaves_reached (refs : WriterRefs) :
    ∀ p : Incoming, (p.reached refs).flatMap Reached.leaves = p.leaves
  | .leaf p x => rfl
  | .bundle o subs x => by
    rw [Incoming.reached]
    split
    · simp [Reached.leaves]
    · split
      · exact subs.leaves_reached refs
      · simp [Reached.leaves, Incoming.leaves]

lemma SubPackets.leaves_reached (refs : WriterRefs) :
    ∀ subs : SubPackets, (subs.reached refs).flatMap Reached.leaves = subs.leaves
  | .done _ => rfl
  | .null hasNext next rest => by
    rw [SubPackets.reached]
    split
    · exact rest.leaves_reached refs
    · simp [Reached.leaves, SubPackets.leaves]
  | .next hasNext next sub rest => by
    rw [SubPackets.reached]
    split
    · rw [List.flatMap_append, sub.leaves_reached refs, rest.leaves_reached refs]
      rfl
    · simp [Reached.leaves, SubPackets.leaves]

end

/-- Write the packets that are reached, one after the other. -/
def writeReached (refs : WriterRefs) (teams : TeamState) :
    List Reached → TeamState × List StreamEvent
  | [] => (teams, [])
  | .lost _ :: rs => writeReached refs teams rs
  | .packet p :: rs =>
    let r := writeClientPacket refs teams p
    let r' := writeReached refs r.1 rs
    (r'.1, r.2 ++ r'.2)

lemma writeReached_append (refs : WriterRefs) (teams : TeamState) (rs rs' : List Reached) :
    writeReached refs teams (rs ++ rs') =
      ((writeReached refs (writeReached refs teams rs).1 rs').1,
        (writeReached refs teams rs).2 ++
          (writeReached refs (writeReached refs teams rs).1 rs').2) := by
  induction rs generalizing teams with
  | nil => rfl
  | cons r rs ih =>
    cases r with
    | lost ps => exact ih teams
    | packet p =>
      simp only [List.cons_append, writeReached, ih, List.append_assoc]

lemma writeReached_packet (refs : WriterRefs) (teams : TeamState) (p : Incoming) :
    writeReached refs teams [.packet p] = writeClientPacket refs teams p := by
  simp [writeReached]

mutual

/-- Taking a bundle apart is writing the packets that are reached. -/
lemma forward_eq (refs : WriterRefs) :
    ∀ (teams : TeamState) (p : Incoming),
      forward refs teams p = writeReached refs teams (p.reached refs)
  | teams, .leaf p x => (writeReached_packet refs teams (.leaf p x)).symm
  | teams, .bundle o subs x => by
    rw [forward, forwardBundleExpanded, Incoming.reached]
    by_cases hbundle : refs.bundle = true
    · by_cases hsub : o.subPackets = true
      · by_cases hiterator : o.iterator = true
        · simp [hbundle, hsub, hiterator, forwardSubPackets_eq refs teams subs]
        · simp [hbundle, hsub, hiterator, writeReached]
      · simp [hbundle, hsub, writeReached]
    · simp [hbundle, writeReached_packet]

lemma forwardSubPackets_eq (refs : WriterRefs) :
    ∀ (teams : TeamState) (subs : SubPackets),
      forwardSubPackets refs teams subs = writeReached refs teams (subs.reached refs)
  | teams, .done _ => rfl
  | teams, .null hasNext next rest => by
    rw [forwardSubPackets, SubPackets.reached]
    by_cases hnext : hasNext = true ∧ next = true
    · simp [hnext, forwardSubPackets_eq refs teams rest]
    · cases hasNext <;> cases next <;> simp_all [writeReached]
  | teams, .next hasNext next sub rest => by
    rw [forwardSubPackets, SubPackets.reached]
    by_cases hnext : hasNext = true ∧ next = true
    · simp only [hnext.1, hnext.2, Bool.not_true, Bool.false_eq_true, if_false, and_self, if_true]
      rw [writeReached_append, ← forward_eq refs teams sub]
      show (let r' := forwardSubPackets refs (forward refs teams sub).1 rest
        (r'.1, (forward refs teams sub).2 ++ r'.2)) = _
      rw [forwardSubPackets_eq refs _ rest]
    · cases hasNext <;> cases next <;> simp_all [writeReached]

end

/-! ## Gaps -/

/-- The packets that an event accounts for. -/
def StreamEvent.leaves : StreamEvent → List LeafPacket
  | .skipped ps | .suppressed ps _ | .written ps _ => ps
  | .mirrored | .closed => []

/-- Only custom payloads are skipped, and only what `TeamState` does not pass on is suppressed. -/
def StreamEvent.Exempt (refs : WriterRefs) : StreamEvent → Prop
  | .skipped ps => ∀ p ∈ ps, p.kind = .customPayload
  | .suppressed ps teams => ∀ p ∈ ps, ∃ q : RawPacket, p.kind = .team q ∧
      (teams.apply q.team q.method q.players refs.aPlayer refs.bPlayer).2.send = false
  | .written _ _ | .mirrored | .closed => True

/-- Every packet is written in its turn or exempt. -/
def Complete (refs : WriterRefs) (ps : List LeafPacket) (es : List StreamEvent) : Prop :=
  es.flatMap StreamEvent.leaves = ps ∧ ∀ e ∈ es, e.Exempt refs

/-- A packet that is reached does not get through. -/
def Fails (refs : WriterRefs) (teams : TeamState) (p : Incoming) : Prop :=
  match p.kind with
  | .customPayload =>
    refs.customPayload = false ∧ (p.answers.read = false ∨ p.answers.written = false)
  | .team q =>
    p.answers.read = false ∨
      ((refs.team = true →
          (teams.apply q.team q.method q.players refs.aPlayer refs.bPlayer).2.send = true) ∧
        ((refs.team = true ∧ (p.answers.built = false ∨ p.answers.popped = false)) ∨
          p.answers.written = false))
  | _ => p.answers.read = false ∨ p.answers.written = false

/-- `TeamState` after the packet. -/
def teamsAfter (refs : WriterRefs) (teams : TeamState) (p : Incoming) : TeamState :=
  match p.kind with
  | .team q =>
    let r := teams.apply q.team q.method q.players refs.aPlayer refs.bPlayer
    if refs.team ∧ p.answers.read ∧ (r.2.send → p.answers.built) then r.1 else teams
  | .login => if p.answers.named then .empty else teams
  | _ => teams

lemma leaf_of_kind {p : Incoming} (h : p.kind ≠ .other) :
    ∃ q : LeafPacket, p.leaves = [q] ∧ q.kind = p.kind := by
  cases p with
  | leaf q x => exact ⟨q, rfl, rfl⟩
  | bundle o subs x => exact absurd rfl h

section Write

variable {refs : WriterRefs} {teams : TeamState} {p : Incoming}

lemma write_of_failed (hskip : ¬(refs.customPayload = true ∧ p.kind = .customPayload))
    (h : (prepareTeamPacket refs teams p.kind p.answers).2 = .failed) :
    (writeClientPacket refs teams p).2 = if p.answers.closed then [.closed] else [] := by
  rw [writeClientPacket, if_neg hskip]
  cases hprepared : prepareTeamPacket refs teams p.kind p.answers with
  | mk next output =>
    rw [hprepared] at h
    cases h
    rfl

lemma write_of_nothing (hskip : ¬(refs.customPayload = true ∧ p.kind = .customPayload))
    (h : (prepareTeamPacket refs teams p.kind p.answers).2 = .nothing) :
    (writeClientPacket refs teams p).2 = [.suppressed p.leaves teams] := by
  rw [writeClientPacket, if_neg hskip]
  cases hprepared : prepareTeamPacket refs teams p.kind p.answers with
  | mk next output =>
    rw [hprepared] at h
    cases h
    rfl

lemma write_of_output {players : Option (List Name)}
    (hskip : ¬(refs.customPayload = true ∧ p.kind = .customPayload))
    (h : (prepareTeamPacket refs teams p.kind p.answers).2 = .output players) :
    (writeClientPacket refs teams p).2 =
      if p.answers.written = false then if p.answers.closed then [.closed] else []
      else .written p.leaves players ::
        if p.kind = .playerInfo ∧ p.answers.mirrored = true then [.mirrored] else [] := by
  rw [writeClientPacket, if_neg hskip]
  cases hprepared : prepareTeamPacket refs teams p.kind p.answers with
  | mk next output =>
    rw [hprepared] at h
    cases h
    cases p.answers.written with
    | false => simp
    | true => simp

/-- A packet that is written is accounted for. -/
lemma complete_written {es : List StreamEvent} {players : Option (List Name)} {c : Prop}
    [Decidable c] (h : es = .written p.leaves players :: if c then [.mirrored] else []) :
    Complete refs p.leaves es ∧ .closed ∉ es := by
  subst h
  split
  · exact ⟨⟨by simp [StreamEvent.leaves], by simp [StreamEvent.Exempt]⟩, by simp⟩
  · exact ⟨⟨by simp [StreamEvent.leaves], by simp [StreamEvent.Exempt]⟩, by simp⟩

/-- What is the same for every packet but a team update and a custom payload that is skipped. -/
lemma write_spec_of_output {players : Option (List Name)}
    (hskip : ¬(refs.customPayload = true ∧ p.kind = .customPayload))
    (h : (prepareTeamPacket refs teams p.kind p.answers).2 = .output players) :
    (p.answers.written = false → (writeClientPacket refs teams p).2 =
        if p.answers.closed then [.closed] else []) ∧
      (¬ p.answers.written = false →
        Complete refs p.leaves (writeClientPacket refs teams p).2 ∧
          .closed ∉ (writeClientPacket refs teams p).2) := by
  have hwrite := write_of_output hskip h
  constructor
  · intro hwritten
    rw [hwrite, if_pos hwritten]
  · intro hwritten
    rw [if_neg hwritten] at hwrite
    exact complete_written hwrite

/-- A packet that `TeamState` has no part in. -/
lemma write_spec_of_plain (hskip : ¬(refs.customPayload = true ∧ p.kind = .customPayload))
    (h : (prepareTeamPacket refs teams p.kind p.answers).2 =
      if p.answers.read then .output none else .failed) :
    (p.answers.read = false ∨ p.answers.written = false → (writeClientPacket refs teams p).2 =
        if p.answers.closed then [.closed] else []) ∧
      (¬(p.answers.read = false ∨ p.answers.written = false) →
        Complete refs p.leaves (writeClientPacket refs teams p).2 ∧
          .closed ∉ (writeClientPacket refs teams p).2) := by
  cases hread : p.answers.read with
  | false =>
    rw [hread] at h
    exact ⟨fun _ => write_of_failed hskip h, fun hno => absurd (.inl rfl) hno⟩
  | true =>
    rw [hread] at h
    simpa using write_spec_of_output hskip h

/-- A team update. -/
lemma write_spec_of_team {q : RawPacket}
    (hskip : ¬(refs.customPayload = true ∧ p.kind = .customPayload)) (hrefs : refs.team = true)
    (hkind : p.kind = .team q) :
    let send := (teams.apply q.team q.method q.players refs.aPlayer refs.bPlayer).2.send
    let fails := p.answers.read = false ∨ ((refs.team = true → send = true) ∧
      ((refs.team = true ∧ (p.answers.built = false ∨ p.answers.popped = false)) ∨
        p.answers.written = false))
    (fails → (writeClientPacket refs teams p).2 = if p.answers.closed then [.closed] else []) ∧
      (¬ fails → Complete refs p.leaves (writeClientPacket refs teams p).2 ∧
        .closed ∉ (writeClientPacket refs teams p).2) := by
  intro send fails
  cases hread : p.answers.read with
  | false =>
    have hfailed : (prepareTeamPacket refs teams p.kind p.answers).2 = .failed := by
      simp [hkind, prepareTeamPacket, hrefs, hread]
    exact ⟨fun _ => write_of_failed hskip hfailed, fun hno => absurd (.inl hread) hno⟩
  | true =>
    cases hsend : send with
    | false =>
      have hnothing : (prepareTeamPacket refs teams p.kind p.answers).2 = .nothing := by
        simp only [send] at hsend
        simp [hkind, prepareTeamPacket, hrefs, hread, hsend]
      obtain ⟨r, hleaves, hr⟩ := leaf_of_kind (p := p) (by simp [hkind])
      rw [write_of_nothing hskip hnothing, hleaves]
      refine ⟨by simp [fails, hread, hrefs, hsend], fun _ => ⟨⟨by simp [StreamEvent.leaves], ?_⟩,
        by simp⟩⟩
      simpa [StreamEvent.Exempt, hr, hkind] using hsend
    | true =>
      simp only [send] at hsend
      by_cases hbuilt : p.answers.built = true ∧ p.answers.popped = true
      · have houtput : (prepareTeamPacket refs teams p.kind p.answers).2 = .output
            (some (teams.apply q.team q.method q.players refs.aPlayer refs.bPlayer).2.players) := by
          simp [hkind, prepareTeamPacket, hrefs, hread, hsend, hbuilt]
        have hspec := write_spec_of_output hskip houtput
        simpa [fails, send, hread, hrefs, hsend, hbuilt] using hspec
      · have hfailed : (prepareTeamPacket refs teams p.kind p.answers).2 = .failed := by
          cases hb : p.answers.built with
          | false => simp [hkind, prepareTeamPacket, hrefs, hread, hsend, hb]
          | true =>
            have hpopped : p.answers.popped = false := by simpa [hb] using hbuilt
            simp [hkind, prepareTeamPacket, hrefs, hread, hsend, hb, hpopped]
        refine ⟨fun _ => write_of_failed hskip hfailed, fun hno => absurd ?_ hno⟩
        rw [not_and_or, Bool.not_eq_true, Bool.not_eq_true] at hbuilt
        exact .inr ⟨fun _ => hsend, .inl ⟨hrefs, hbuilt⟩⟩

/-- A packet that fails is answered by closing B's channel; any other is accounted for. -/
lemma writeClientPacket_spec (refs : WriterRefs) (teams : TeamState) (p : Incoming) :
    (Fails refs teams p → (writeClientPacket refs teams p).2 =
        if p.answers.closed then [.closed] else []) ∧
      (¬ Fails refs teams p → Complete refs p.leaves (writeClientPacket refs teams p).2 ∧
        .closed ∉ (writeClientPacket refs teams p).2) := by
  cases hkind : p.kind with
  | login | playerInfo | other =>
    rw [Fails, hkind]
    exact write_spec_of_plain (by simp [hkind]) (by rw [hkind]; rfl)
  | customPayload =>
    rw [Fails, hkind]
    by_cases hrefs : refs.customPayload = true
    · have hwrite : (writeClientPacket refs teams p).2 = [.skipped p.leaves] := by
        rw [writeClientPacket, if_pos ⟨hrefs, hkind⟩]
      obtain ⟨q, hleaves, hq⟩ := leaf_of_kind (p := p) (by simp [hkind])
      rw [hwrite, hleaves]
      refine ⟨by simp [hrefs], fun _ => ⟨⟨by simp [StreamEvent.leaves], ?_⟩, by simp⟩⟩
      simp [StreamEvent.Exempt, hq, hkind]
    · have hskip : ¬(refs.customPayload = true ∧ p.kind = .customPayload) := by simp [hrefs]
      have hplain : (prepareTeamPacket refs teams p.kind p.answers).2 =
          if p.answers.read then .output none else .failed := by rw [hkind]; rfl
      simpa [hrefs] using write_spec_of_plain hskip hplain
  | team q =>
    rw [Fails, hkind]
    have hskip : ¬(refs.customPayload = true ∧ p.kind = .customPayload) := by simp [hkind]
    by_cases hrefs : refs.team = true
    · exact write_spec_of_team hskip hrefs hkind
    · have hplain : (prepareTeamPacket refs teams p.kind p.answers).2 =
          if p.answers.read then .output none else .failed := by
        rw [hkind]
        simp [prepareTeamPacket, hrefs]
      simpa [hrefs] using write_spec_of_plain hskip hplain

lemma prepareTeamPacket_fst (refs : WriterRefs) (teams : TeamState) (p : Incoming) :
    (prepareTeamPacket refs teams p.kind p.answers).1 = teamsAfter refs teams p := by
  rw [teamsAfter]
  cases p.kind with
  | team q =>
    simp only [prepareTeamPacket]
    cases hrefs : refs.team with
    | false => simp
    | true =>
      cases hread : p.answers.read with
      | false => simp
      | true =>
        -- an update that is not to be sent is applied without building a packet
        cases hsend : (teams.apply q.team q.method q.players refs.aPlayer refs.bPlayer).2.send with
        | false => simp
        | true =>
          cases hbuilt : p.answers.built with
          | false => simp
          | true => simp
  | _ => rfl

lemma writeClientPacket_fst (refs : WriterRefs) (teams : TeamState) (p : Incoming) :
    (writeClientPacket refs teams p).1 = teamsAfter refs teams p := by
  rw [← prepareTeamPacket_fst, writeClientPacket]
  split
  · rename_i hskip
    rw [hskip.2]
    rfl
  · cases prepareTeamPacket refs teams p.kind p.answers with
    | mk next output =>
      cases output with
      | failed | nothing => rfl
      | output players =>
        cases p.answers.written with
        | false => simp
        | true => simp

end Write

/-- Nothing is lost and no packet fails, unless there is nothing in it. -/
def Unharmed (refs : WriterRefs) : TeamState → List Reached → Prop
  | _, [] => True
  | teams, .lost ps :: rs => ps = [] ∧ Unharmed refs teams rs
  | teams, .packet p :: rs =>
    (p.leaves = [] ∨ ¬ Fails refs teams p) ∧ Unharmed refs (teamsAfter refs teams p) rs

/-- Some packet fails and B's channel lets itself be closed. -/
def Answered (refs : WriterRefs) : TeamState → List Reached → Prop
  | _, [] => False
  | teams, .lost _ :: rs => Answered refs teams rs
  | teams, .packet p :: rs =>
    (Fails refs teams p ∧ p.answers.closed = true) ∨ Answered refs (teamsAfter refs teams p) rs

/-- What is accounted for in two parts of the packets is accounted for in each. -/
lemma append_eq_iff_of_sublist {α : Type} {l₁ l₂ m₁ m₂ : List α} (h₁ : l₁.Sublist m₁)
    (h₂ : l₂.Sublist m₂) : l₁ ++ l₂ = m₁ ++ m₂ ↔ l₁ = m₁ ∧ l₂ = m₂ := by
  constructor
  · intro heq
    have hlength := congrArg List.length heq
    rw [List.length_append, List.length_append] at hlength
    have hle₁ := h₁.length_le
    have hle₂ := h₂.length_le
    exact ⟨h₁.eq_of_length (by omega), h₂.eq_of_length (by omega)⟩
  · rintro ⟨rfl, rfl⟩
    rfl

/-- What the packets that are reached do to the stream. -/
structure Stream (refs : WriterRefs) (teams : TeamState) (rs : List Reached)
    (es : List StreamEvent) : Prop where
  closed : .closed ∈ es ↔ Answered refs teams rs
  sublist : (es.flatMap StreamEvent.leaves).Sublist (rs.flatMap Reached.leaves)
  complete : es.flatMap StreamEvent.leaves = rs.flatMap Reached.leaves ↔ Unharmed refs teams rs
  exempt : ∀ e ∈ es, e.Exempt refs

/-- One packet. -/
lemma stream_packet (refs : WriterRefs) (teams : TeamState) (p : Incoming) :
    let es := (writeClientPacket refs teams p).2
    (.closed ∈ es ↔ Fails refs teams p ∧ p.answers.closed = true) ∧
      (es.flatMap StreamEvent.leaves).Sublist p.leaves ∧
      (es.flatMap StreamEvent.leaves = p.leaves ↔ p.leaves = [] ∨ ¬ Fails refs teams p) ∧
      ∀ e ∈ es, e.Exempt refs := by
  intro es
  obtain ⟨hfails, hcomplete⟩ := writeClientPacket_spec refs teams p
  by_cases hf : Fails refs teams p
  · have hes : es = if p.answers.closed then [.closed] else [] := hfails hf
    have hleaves : es.flatMap StreamEvent.leaves = [] := by
      rw [hes]
      split <;> rfl
    refine ⟨?_, ?_, ?_, ?_⟩
    · rw [hes]
      split <;> simp_all
    · rw [hleaves]
      exact List.nil_sublist _
    · rw [hleaves]
      exact ⟨fun h => .inl h.symm, fun h => (h.resolve_right (not_not.mpr hf)).symm⟩
    · rw [hes]
      split <;> simp [StreamEvent.Exempt]
  · obtain ⟨⟨hleaves, hexempt⟩, hopen⟩ := hcomplete hf
    refine ⟨⟨fun h => absurd h hopen, fun h => absurd h.1 hf⟩, ?_, ?_, hexempt⟩
    · rw [hleaves]
    · exact ⟨fun _ => .inr hf, fun _ => hleaves⟩

lemma stream_writeReached (refs : WriterRefs) (teams : TeamState) (rs : List Reached) :
    Stream refs teams rs (writeReached refs teams rs).2 := by
  induction rs generalizing teams with
  | nil => exact ⟨by simp [writeReached, Answered], .refl _, by simp [writeReached, Unharmed],
      by simp [writeReached]⟩
  | cons r rs ih =>
    cases r with
    | lost ps =>
      obtain ⟨hclosed, hsublist, hunharmed, hexempt⟩ := ih teams
      refine ⟨hclosed, ?_, ?_, hexempt⟩
      · rw [List.flatMap_cons]
        exact hsublist.trans (List.sublist_append_right _ _)
      · have happend := append_eq_iff_of_sublist (List.nil_sublist ps) hsublist
        rw [List.nil_append] at happend
        rw [List.flatMap_cons, Unharmed, ← hunharmed]
        exact happend.trans (and_congr_left' eq_comm)
    | packet p =>
      obtain ⟨hclosed, hsublist, hcomplete, hexempt⟩ := stream_packet refs teams p
      obtain ⟨hclosed', hsublist', hcomplete', hexempt'⟩ := ih (teamsAfter refs teams p)
      simp only [writeReached, writeClientPacket_fst]
      refine ⟨?_, ?_, ?_, ?_⟩
      · rw [List.mem_append, hclosed, hclosed', Answered]
      · rw [List.flatMap_append, List.flatMap_cons]
        exact hsublist.append hsublist'
      · have happend := append_eq_iff_of_sublist hsublist hsublist'
        rw [List.flatMap_append, List.flatMap_cons, Unharmed, ← hcomplete']
        exact happend.trans (and_congr_left' hcomplete)
      · intro e he
        rcases List.mem_append.mp he with he | he
        · exact hexempt e he
        · exact hexempt' e he

/-- B's channel is gone or closed, if it was not closed before, or B has got everything that it
should. -/
def NoGap (refs : WriterRefs) (s : Session) (closed : Bool) (packet : Incoming)
    (es : List StreamEvent) : Prop :=
  s.clientChannel = none ∨ closed = true ∨ .closed ∈ es ∨ Complete refs packet.leaves es

/-- The packet gets to the writer. -/
lemma forwardToB_of_open {refs : WriterRefs} {s : Session} {teams : TeamState} {cls : String}
    {x : ForwardAnswers} {packet : Incoming} (hgame : PacketPolicy.isGamePacket cls = true)
    (hstate : s.clientState = .AwaitReady ∨ s.clientState = .Play) (hstop : s.stopping = false)
    (hnamed : x.named = true) (howner : s.clientChannel ≠ none) (hchannel : x.channel = true) :
    forwardToB refs s teams cls x packet = forward refs teams packet := by
  rcases hstate with hstate | hstate
  · simp [forwardToB, hstate, hstop, hnamed, hgame, howner, hchannel]
  · simp [forwardToB, hstate, hstop, hnamed, hgame, howner, hchannel]

/-- The packets that the session counts as forwarded are those that get to the writer, as long as
the calls of `BServer_ForwardToB` succeed. -/
theorem forwardToB_eq (refs : WriterRefs) (s : Session) (teams : TeamState) (p : Packet)
    (ref : Bool) (packet : Incoming) :
    forwardToB refs s teams p.cls {} packet =
      if (s.forwardToB p ref).2.any fun e => e matches .forwarded _ _ then forward refs teams packet
      else (teams, []) := by
  rw [forwardToB, Session.forwardToB]
  by_cases hclosed : s.stopping = true ∨ (s.clientState ≠ .Play ∧ s.clientState ≠ .Syncing ∧
      s.clientState ≠ .AwaitReady)
  · rw [if_pos hclosed, if_pos hclosed]
    rfl
  · rw [if_neg hclosed, if_neg hclosed]
    by_cases hgame : PacketPolicy.isGamePacket p.cls = true
    · by_cases hsync : s.clientState = .Syncing
      · simp only [hgame, hsync, Bool.not_true, Bool.false_eq_true, if_true, if_false]
        split_ifs <;> simp_all
      · cases howner : s.clientChannel with
        | none => simp [hgame, hsync]
        | some c => simp [hgame, hsync]
    · simp [hgame]

/-- Nothing happens to the packet. -/
lemma forwardToB_of_not_open {refs : WriterRefs} {s : Session} {teams : TeamState} {cls : String}
    {x : ForwardAnswers} {packet : Incoming}
    (h : s.stopping = true ∨ x.named = false ∨ s.clientChannel = none ∨ x.channel = false) :
    (forwardToB refs s teams cls x packet).2 = [] := by
  have hempty : PacketPolicy.isGamePacket "" = false := by decide
  rcases h with hstop | hnamed | howner | hchannel
  · simp [forwardToB, hstop]
  · simp [forwardToB, hnamed, hempty]
  · simp [forwardToB, howner]
  · simp [forwardToB, hchannel]

/-- A game packet in `AwaitReady` or `Play` leaves no gap in the stream of an open channel exactly
when there is nothing in it, or the session goes on, the class name and the channel are found, and
either nothing is lost and no packet fails or the channel is closed for one that does. -/
theorem stream_iff {refs : WriterRefs} {s : Session} {closed : Bool} {teams : TeamState}
    {cls : String} {x : ForwardAnswers} {packet : Incoming}
    (hgame : PacketPolicy.isGamePacket cls = true)
    (hstate : s.clientState = .AwaitReady ∨ s.clientState = .Play) :
    NoGap refs s closed packet (forwardToB refs s teams cls x packet).2 ↔
      s.clientChannel = none ∨ closed = true ∨ packet.leaves = [] ∨
        (s.stopping = false ∧ x.named = true ∧ x.channel = true ∧
          (Unharmed refs teams (packet.reached refs) ∨
            Answered refs teams (packet.reached refs))) := by
  by_cases hshut : s.stopping = true ∨ x.named = false ∨ s.clientChannel = none ∨ x.channel = false
  · rw [forwardToB_of_not_open hshut, NoGap, Complete]
    have hnot : ¬(s.clientChannel ≠ none ∧ s.stopping = false ∧ x.named = true ∧
        x.channel = true) := by
      rintro ⟨howner, hstop, hnamed, hchannel⟩
      simp [howner, hstop, hnamed, hchannel] at hshut
    by_cases howner : s.clientChannel = none
    · simp [howner]
    · have hnone : ¬(s.stopping = false ∧ x.named = true ∧ x.channel = true ∧
          (Unharmed refs teams (packet.reached refs) ∨
            Answered refs teams (packet.reached refs))) :=
        fun h => hnot ⟨howner, h.1, h.2.1, h.2.2.1⟩
      simp only [howner, hnone, List.not_mem_nil, List.flatMap_nil, false_or, or_false,
        false_imp_iff, implies_true, and_true]
      exact or_congr_right eq_comm
  · simp only [not_or, Bool.not_eq_true, Bool.not_eq_false] at hshut
    obtain ⟨hstop, hnamed, howner, hchannel⟩ := hshut
    have hforward : forwardToB refs s teams cls x packet = forward refs teams packet :=
      forwardToB_of_open hgame hstate hstop hnamed howner hchannel
    have hstream := stream_writeReached refs teams (packet.reached refs)
    rw [← forward_eq, ← hforward] at hstream
    have hleaves := packet.leaves_reached refs
    have hcomplete : Complete refs packet.leaves (forwardToB refs s teams cls x packet).2 ↔
        Unharmed refs teams (packet.reached refs) := by
      rw [← hstream.complete, hleaves]
      exact ⟨fun h => h.1, fun h => ⟨h, hstream.exempt⟩⟩
    -- there is nothing to lose in a packet without leaves
    have hempty (hnil : packet.leaves = []) : Unharmed refs teams (packet.reached refs) := by
      have hsublist := hstream.sublist
      rw [hleaves, hnil] at hsublist
      rw [← hstream.complete, hleaves, hnil]
      exact List.sublist_nil.mp hsublist
    rw [NoGap, hstream.closed, hcomplete]
    refine or_congr_right (or_congr_right ?_)
    constructor
    · rintro (hanswered | hunharmed)
      · exact .inr ⟨hstop, hnamed, hchannel, .inr hanswered⟩
      · exact .inr ⟨hstop, hnamed, hchannel, .inl hunharmed⟩
    · rintro (hnil | ⟨-, -, -, hunharmed | hanswered⟩)
      · exact .inr (hempty hnil)
      · exact .inr hunharmed
      · exact .inl hanswered

/-- B is in control. -/
def playing : Session where
  clientChannel := some 1
  clientState := .Play

def bundleClass : String := "net.minecraft.network.protocol.game.ClientboundBundlePacket"

/-- A bundle with a custom payload and another bundle in it, whose packet cannot be written. -/
def nestedBundle : Incoming :=
  .bundle {} (.next true true (.leaf ⟨0, .customPayload⟩ {})
    (.next true true
      (.bundle {} (.next true true (.leaf ⟨1, .other⟩ { written := false }) (.done true)) {})
      (.done true))) {}

theorem stream_iff_test :
    NoGap {} playing false nestedBundle
      (forwardToB {} playing .empty bundleClass {} nestedBundle).2 := by
  refine (stream_iff (by decide) (.inr rfl)).mpr (.inr (.inr (.inr ⟨rfl, rfl, rfl, .inr ?_⟩)))
  exact .inr (.inl ⟨.inr rfl, rfl⟩)

/-- The iterator of a bundle throws before its second packet. -/
def brokenBundle : Incoming :=
  .bundle {} (.next true true (.leaf ⟨0, .other⟩ {})
    (.next false true (.leaf ⟨1, .other⟩ {}) (.done true))) {}

/-- B does not get the rest of the bundle, and its channel stays open. -/
theorem stream_gap : ¬ NoGap {} playing false brokenBundle
    (forwardToB {} playing .empty bundleClass {} brokenBundle).2 := by
  have hes : (forwardToB {} playing .empty bundleClass {} brokenBundle).2 =
      [.written [⟨0, .other⟩] none] := rfl
  rw [hes]
  rintro (hnone | hbefore | hclosed | ⟨hleaves, -⟩)
  · cases hnone
  · cases hbefore
  · simp at hclosed
  · cases hleaves

end Server
end SakuraTools
