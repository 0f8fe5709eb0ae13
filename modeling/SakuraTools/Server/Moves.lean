import SakuraTools.Server.Session

/-!
# What a step of the session can do

The effects of a step with the facts that the code has tested, whatever the thread.
-/

namespace SakuraTools
namespace Server
namespace Session

/-! ## Critical sections -/

lemma forwardToB_cases (s : Session) (p : Packet) (ref : Bool) :
    s.forwardToB p ref = (s, []) ∨
      (∃ c, s.forwardToB p ref = (s, [.forwarded c p])) ∨
      (s.handoff.state = .Capturing ∧ s.clientState = .Syncing ∧
        (s.forwardToB p ref = ({ s with pending := s.pending ++ [p] }, []) ∨
          s.forwardToB p ref =
            ({ s with handoff := s.handoff.fail, pending := [] }, [.failed]))) := by
  unfold forwardToB
  split_ifs with hclosed hgame hsync hcap hroom
  · exact .inl rfl
  · exact .inl rfl
  · exact .inl rfl
  · exact .inr (.inr ⟨not_not.mp hcap, hsync, .inl rfl⟩)
  · exact .inr (.inr ⟨not_not.mp hcap, hsync, .inr rfl⟩)
  · cases howner : s.clientChannel with
    | none => exact .inl rfl
    | some c => exact .inr (.inl ⟨c, rfl⟩)

/-- What B is sent in a session that is open for it. -/
lemma forwardToB_of_open {s : Session} {c : Channel} (hstop : s.stopping = false)
    (hstate : s.clientState = .AwaitReady ∨ s.clientState = .Play)
    (howner : s.clientChannel = some c) (p : Packet) (ref : Bool) :
    s.forwardToB p ref =
      (s, if PacketPolicy.isGamePacket p.cls then [.forwarded c p] else []) := by
  by_cases hgame : PacketPolicy.isGamePacket p.cls = true
  · rcases hstate with hstate | hstate <;> simp [forwardToB, hstop, hstate, howner, hgame]
  · simp [forwardToB, hgame]

/-- What the snapshot buffer takes. -/
lemma forwardToB_of_syncing {s : Session} (hstop : s.stopping = false)
    (hstate : s.clientState = .Syncing) (hcap : s.handoff.state = .Capturing) (p : Packet)
    (ref : Bool) :
    s.forwardToB p ref =
        ({ s with
            pending := s.pending ++ if PacketPolicy.isGamePacket p.cls then [p] else [] }, []) ∨
      s.forwardToB p ref = ({ s with handoff := s.handoff.fail, pending := [] }, [.failed]) := by
  by_cases hgame : PacketPolicy.isGamePacket p.cls = true
  · by_cases hroom : s.pending.length < kMaxPendingPackets ∧ ref = true
    · simp [forwardToB, hstop, hstate, hcap, hgame, hroom]
    · simp [forwardToB, hstop, hstate, hcap, hgame, hroom]
  · simp [forwardToB, hgame]

lemma forwardAll_of_open {s : Session} {c : Channel} (hstop : s.stopping = false)
    (hstate : s.clientState = .AwaitReady) (howner : s.clientChannel = some c)
    (ps : List Packet) : s.forwardAll ps = (s, (gamePackets ps).map (.forwarded c)) := by
  induction ps with
  | nil => rfl
  | cons p ps ih =>
    rw [forwardAll, forwardToB_of_open hstop (.inl hstate) howner]
    simp only [ih]
    by_cases hgame : PacketPolicy.isGamePacket p.cls = true
    · simp [hgame]
    · simp [hgame]

lemma checkLoginTimeout_cases (s : Session) :
    s.checkLoginTimeout = (s, []) ∨
      (s.handoff.state ≠ .Idle ∧
        s.checkLoginTimeout =
          ({ s with handoff := s.handoff.fail.reset, pending := [] }, [.failed, .reset])) := by
  unfold checkLoginTimeout
  split_ifs with h
  · exact .inl rfl
  · refine .inr ⟨?_, rfl⟩
    intro hidle
    exact h (by simp [LoginHandoff.expired, hidle])

lemma finishMidSession_cases {s : Session} {c : Channel} (howner : s.clientChannel = some c) :
    s.finishMidSession c = (s, []) ∨
      (s.handoff.state ≠ .Capturing ∧
        s.finishMidSession c =
          ({ s with handoff := s.handoff.fail.fail.reset, pending := [] },
            [.failed, .failed, .reset])) ∨
      (s.stopping = false ∧ s.handoff.state = .Capturing ∧
        s.finishMidSession c =
          ({ s with
              handoff := { s.handoff with state := .AwaitingAck }
              clientState := .AwaitReady
              pending := [] },
            .sent c :: .enter c .AwaitReady :: (gamePackets s.pending).map (.forwarded c))) := by
  unfold finishMidSession
  by_cases hstop : s.stopping = true
  · exact .inl (if_pos hstop)
  · rw [if_neg hstop]
    by_cases hcap : s.handoff.state = .Capturing
    -- the drain runs in the state `AwaitReady`, in which packets are written at once
    · rw [LoginHandoff.snapshotSent_of_eq hcap]
      refine .inr (.inr ⟨by simpa using hstop, hcap, ?_⟩)
      have hall := forwardAll_of_open (c := c)
        (s := { s with
          handoff := { s.handoff with state := .AwaitingAck }
          clientState := .AwaitReady
          pending := [] }) (by simpa using hstop) rfl howner s.pending
      simp only [Bool.not_true, Bool.false_eq_true, if_false, hall]
    · rw [LoginHandoff.snapshotSent_of_ne hcap]
      refine .inr (.inl ⟨hcap, ?_⟩)
      simp [checkLoginTimeout]

/-- The confirmation of the local teleport is consumed; another packet changes nothing. -/
lemma handleClientPacket_cases (s : Session) (c : Channel) (m : ClientPacket) :
    s.handleClientPacket c m = (s, []) ∨
      ((m.cls = acceptTeleportation → m.ack ≠ some LoginHandoff.teleportId) ∧
        (s.clientState = .Play ∧ PacketPolicy.allowFromB m.cls = true) ∧
        s.handleClientPacket c m = (s, [.routed m])) ∨
      (s.clientState = .AwaitReady ∧
        (s.handoff.acknowledge LoginHandoff.teleportId).2.state = .Active ∧
        s.handleClientPacket c m =
          ({ s with
              handoff := (s.handoff.acknowledge LoginHandoff.teleportId).2
              clientState := .Play },
            [.acknowledged c, .enter c .Play])) ∨
      (¬(s.clientState = .AwaitReady ∧
          (s.handoff.acknowledge LoginHandoff.teleportId).2.state = .Active) ∧
        s.handleClientPacket c m =
          ({ s with handoff := (s.handoff.acknowledge LoginHandoff.teleportId).2 },
            [.acknowledged c])) := by
  -- a packet that is not the local confirmation falls through to the route
  have hroute (h : m.cls = acceptTeleportation → m.ack ≠ some LoginHandoff.teleportId)
      (heq : s.handleClientPacket c m =
        (s, if s.clientState = .Play ∧ PacketPolicy.allowFromB m.cls then [.routed m] else [])) :
      s.handleClientPacket c m = (s, []) ∨
        ((m.cls = acceptTeleportation → m.ack ≠ some LoginHandoff.teleportId) ∧
          (s.clientState = .Play ∧ PacketPolicy.allowFromB m.cls = true) ∧
          s.handleClientPacket c m = (s, [.routed m])) := by
    rw [heq]
    split
    · rename_i hplay
      exact .inr ⟨h, hplay, rfl⟩
    · exact .inl rfl
  by_cases hcls : m.cls = acceptTeleportation
  · cases hack : m.ack with
    | none => exact .inl (by simp [handleClientPacket, hcls, hack])
    | some id =>
      by_cases hid : id = LoginHandoff.teleportId
      · subst hid
        have hconsumed := s.handoff.acknowledge_fst LoginHandoff.teleportId
        simp only [decide_true] at hconsumed
        simp only [handleClientPacket, hcls, hack, hconsumed, if_true]
        split_ifs with hplay
        · exact .inr (.inr (.inl ⟨hplay.1, hplay.2, rfl⟩))
        · exact .inr (.inr (.inr ⟨hplay, rfl⟩))
      · have hne : m.ack ≠ some LoginHandoff.teleportId := by
          rw [hack]
          exact fun h => hid (Option.some.inj h)
        rcases hroute (fun _ => hne) (by
          simp [handleClientPacket, hcls, hack, LoginHandoff.acknowledge_of_ne hid]) with h | h
        · exact .inl h
        · exact .inr (.inl ⟨fun _ => by rw [← hack]; exact hne, h.2⟩)
  · rcases hroute (fun h => absurd h hcls) (by simp [handleClientPacket, hcls]) with h | h
    · exact .inl h
    · exact .inr (.inl h)

/-! ## What the critical sections leave alone -/

/-- The critical sections of the handoff. -/
inductive Section where
  | forward
  | finish
  | packet
  | timeout

/-- The events that a critical section can emit. -/
def Section.Emits : Section → Event → Prop
  | .forward, .forwarded _ _ | .forward, .failed => True
  | .finish, .sent _ | .finish, .enter _ .AwaitReady | .finish, .forwarded _ _
  | .finish, .failed | .finish, .reset => True
  | .packet, .acknowledged _ | .packet, .enter _ .Play | .packet, .routed _ => True
  | .timeout, .failed | .timeout, .reset => True
  | _, _ => False

/-- A critical section touches the handoff, the buffer and the state of B only. -/
structure InSection (k : Section) (s s' : Session) (es : List Event) : Prop where
  stopping : s'.stopping = s.stopping
  midSession : s'.midSession = s.midSession
  queue : s'.queue = s.queue
  world : s'.world = s.world
  events : ∀ e ∈ es, k.Emits e

/-- The lock is released. -/
lemma InSection.release {k : Section} {s s' : Session} {es : List Event}
    (h : InSection k s s' es) : InSection k s { s' with dispatch := none } es :=
  { h with }

lemma forwardToB_section (s : Session) (p : Packet) (ref : Bool) :
    InSection .forward s (s.forwardToB p ref).1 (s.forwardToB p ref).2 := by
  rcases s.forwardToB_cases p ref with heq | ⟨c, heq⟩ | ⟨-, -, heq | heq⟩
  all_goals
    rw [heq]
    exact ⟨rfl, rfl, rfl, rfl, by simp [Section.Emits]⟩

lemma forwardAll_section (s : Session) (ps : List Packet) :
    InSection .forward s (s.forwardAll ps).1 (s.forwardAll ps).2 := by
  induction ps generalizing s with
  | nil => exact ⟨rfl, rfl, rfl, rfl, by simp [forwardAll]⟩
  | cons p ps ih =>
    have hfirst := s.forwardToB_section p true
    have hrest := ih (s.forwardToB p true).1
    refine ⟨hrest.stopping.trans hfirst.stopping, hrest.midSession.trans hfirst.midSession,
      hrest.queue.trans hfirst.queue, hrest.world.trans hfirst.world, fun e he => ?_⟩
    rcases List.mem_append.mp he with he | he
    · exact hfirst.events e he
    · exact hrest.events e he

lemma checkLoginTimeout_section (s : Session) :
    InSection .timeout s s.checkLoginTimeout.1 s.checkLoginTimeout.2 := by
  rcases s.checkLoginTimeout_cases with heq | ⟨-, heq⟩
  all_goals
    rw [heq]
    exact ⟨rfl, rfl, rfl, rfl, by simp [Section.Emits]⟩

lemma finishMidSession_section (s : Session) (c : Channel) :
    InSection .finish s (s.finishMidSession c).1 (s.finishMidSession c).2 := by
  unfold finishMidSession
  split
  · exact ⟨rfl, rfl, rfl, rfl, by simp⟩
  · by_cases hcap : s.handoff.state = .Capturing
    · rw [LoginHandoff.snapshotSent_of_eq hcap]
      have hall := forwardAll_section
        { s with
          handoff := { s.handoff with state := .AwaitingAck }
          clientState := .AwaitReady
          pending := [] } s.pending
      refine ⟨hall.stopping, hall.midSession, hall.queue, hall.world, ?_⟩
      rintro e (_ | ⟨_, _ | ⟨_, he⟩⟩)
      · trivial
      · trivial
      · have hemits := hall.events e he
        cases e with
        | forwarded | failed => trivial
        | _ => exact False.elim hemits
    · rw [LoginHandoff.snapshotSent_of_ne hcap]
      simp only [Bool.not_false, if_true]
      exact ⟨rfl, rfl, rfl, rfl, by simp [checkLoginTimeout, Section.Emits]⟩

/-- The last section of a login that goes on with the snapshot. -/
lemma finishLogin_section (s : Session) (c : Channel) :
    InSection .finish s (({ s with login := none } : Session).finishMidSession c).1
      (({ s with login := none } : Session).finishMidSession c).2 :=
  { finishMidSession_section { s with login := none } c with }

lemma handleClientPacket_section (s : Session) (c : Channel) (m : ClientPacket) :
    InSection .packet s (s.handleClientPacket c m).1 (s.handleClientPacket c m).2 := by
  rcases s.handleClientPacket_cases c m with heq | ⟨-, -, heq⟩ | ⟨-, -, heq⟩ | ⟨-, heq⟩
  all_goals
    rw [heq]
    exact ⟨rfl, rfl, rfl, rfl, by simp [Section.Emits]⟩

/-! ## The effects of a step -/

/-- `completeLogin` goes on without touching anything that it shares. -/
inductive Goes (s : Session) (c : Channel) : LoginPc → LoginPc → Prop
  | rebuild (hmid : s.midSession = true) : Goes s c .greeted .rebuilding
  | skip (hmid : s.clientChannel = none ∨ s.midSession = false) : Goes s c .greeted .introduced
  | target : Goes s c .rebuilding .targeted
  | noTarget : Goes s c .rebuilding .failed
  | noJob : Goes s c .syncing .failed
  | notExecuted (j : JobId) : Goes s c (.listed j) (.timedOut j)
  | taken (j : JobId) (hok : (s.job j).ok = true) : Goes s c (.waiting j) .captured
  | notTaken (j : JobId) : Goes s c (.waiting j) .failed
  | timeout (j : JobId) : Goes s c (.waiting j) (.timedOut j)
  | wrote (hstop : s.stopping = false) (hstate : s.handoff.state = .Capturing) :
      Goes s c .captured .introduced
  | last : Goes s c .introduced (.finishing s.midSession)

/-- The effects of a step. -/
inductive Move (s : Session) : Session → List Event → Prop
  | stay : Move s s []
  | dispatch (p : Packet) (hfree : s.dispatch = none) (hworld : p ∉ s.world)
      (hqueue : .packet p ∉ s.queue) :
      Move s { s with dispatch := some (.relay p), queue := s.queue ++ [.packet p] }
        [.dispatched p]
  | forward (p : Packet) (ref : Bool) (hheld : s.dispatch = some (.relay p)) :
      Move s { (s.forwardToB p ref).1 with dispatch := none } (s.forwardToB p ref).2
  | apply (p : Packet) (q : List Task) (hidle : s.render = .idle)
      (hqueue : s.queue = .packet p :: q) :
      Move s { s with queue := q, world := s.world ++ [p] } []
  | drop (j : JobId) (q : List Task) (hidle : s.render = .idle)
      (hqueue : s.queue = .snapshot j :: q) :
      Move s { s with queue := q } []
  | find (j : JobId) (q : List Task) (hidle : s.render = .idle)
      (hqueue : s.queue = .snapshot j :: q) :
      Move s { s with queue := q, jobs := s.jobs.erase j, render := .found j } []
  | check (j : JobId) (hfound : s.render = .found j) (hcancelled : (s.job j).cancelled = false) :
      Move s { s with render := .checked j } []
  | abandon (j : JobId)
      (hpc : s.render = .found j ∨ s.render = .checked j ∨ s.render = .capturing j) :
      Move s { s with render := .finishing j false } []
  | boundary (j : JobId) (hchecked : s.render = .checked j) (hfree : s.dispatch = none)
      (hstate : s.handoff.state = .Capturing) :
      Move s { s with pending := [], render := .capturing j } [.boundary j]
  | capture (j : JobId) (hpc : s.render = .capturing j) :
      Move s { s with render := .finishing j true } [.captured j s.world]
  | publish (j : JobId) (ok : Bool) (hpc : s.render = .finishing j ok) :
      Move s (({ s with render := .idle } : Session).setJob j
        { s.job j with done := true, ok := ok && !(s.job j).cancelled }) []
  | intention (c : Channel) (hidle : s.busy c = false)
      (howner : s.clientChannel = none ∨ s.clientChannel = some c) :
      Move s { s with clientChannel := some c, clientState := .AwaitLogin }
        [.intention c, .enter c .AwaitLogin]
  | hello (c : Channel) (hidle : s.busy c = false) (howner : s.clientChannel = some c)
      (hstate : s.clientState = .AwaitLogin) :
      Move s (s.goto c .greeted) [.login c (!s.live.isEmpty) s.midSession]
  | leave (c : Channel) (pc : LoginPc) (hlogin : s.login = some (c, pc)) :
      Move s { s with login := none } []
  | go (c : Channel) (pc pc' : LoginPc) (hlogin : s.login = some (c, pc))
      (hgoes : Goes s c pc pc') : Move s (s.goto c pc') []
  | begin (c : Channel) (hlogin : s.login = some (c, .targeted)) (hfree : s.dispatch = none) :
      Move s
        { s with
            login := some (c, .syncing)
            pending := []
            handoff := s.handoff.begin s.now
            clientState := .Syncing }
        [.begun c, .enter c .Syncing]
  | list (c : Channel) (hlogin : s.login = some (c, .syncing)) :
      Move s
        { s with
            login := some (c, .listed s.nextJob)
            jobs := s.jobs ++ [s.nextJob]
            nextJob := s.nextJob + 1 }
        []
  | execute (c : Channel) (j : JobId) (hlogin : s.login = some (c, .listed j)) :
      Move s { s with login := some (c, .waiting j), queue := s.queue ++ [.snapshot j] }
        [.executed j]
  | cancel (c : Channel) (j : JobId) (hlogin : s.login = some (c, .timedOut j)) :
      Move s ((s.goto c (.cancelled j)).setJob j { s.job j with cancelled := true }) []
  | remove (c : Channel) (j : JobId) (hlogin : s.login = some (c, .cancelled j)) :
      Move s { s with login := some (c, .failed), jobs := s.jobs.erase j } []
  | writeFailed (c : Channel) (hlogin : s.login = some (c, .captured)) :
      Move s { s with login := some (c, .failed), pending := [], handoff := s.handoff.fail }
        [.failed]
  | finishMid (c : Channel) (hlogin : s.login = some (c, .finishing true))
      (hfree : s.dispatch = none) :
      Move s (({ s with login := none } : Session).finishMidSession c).1
        (({ s with login := none } : Session).finishMidSession c).2
  | finishPlay (c : Channel) (hlogin : s.login = some (c, .finishing false)) :
      Move s { s with login := none, clientState := .Play } [.enter c .Play]
  | packet (c : Channel) (m : ClientPacket) (hidle : s.busy c = false) (hfree : s.dispatch = none)
      (howner : s.clientChannel = some c) :
      Move s (s.handleClientPacket c m).1 (s.handleClientPacket c m).2
  | inactive (c : Channel) (hidle : s.busy c = false) (hfree : s.dispatch = none)
      (howner : s.clientChannel = some c) :
      Move s
        { s with
            clientChannel := none
            clientState := .AwaitHandshake
            handoff := s.handoff.reset
            pending := []
            dispatch := some (.inactive .decide) }
        [.enter c .AwaitHandshake, .reset]
  /-- `closeARemoteConnection`, under the lock of `Native_BSide_channelInactive`. -/
  | closing (pc : ClosePc) (dispatch : Option Holder) (live : List Connection)
      (target : Option Connection) (hheld : s.dispatch = some (.inactive pc))
      (hdispatch : ∀ p, dispatch ≠ some (.relay p)) :
      Move s { s with dispatch := dispatch, live := live, targetConnection := target } []
  /-- A's connections, and the clock. -/
  | world (live : List Connection) (target : Option Connection) (starting : Bool) (now : ℕ) :
      Move s
        { s with
            live := live
            targetConnection := target
            starting := starting
            now := now }
        []
  | captureLive (k : Connection) :
      Move s { s with targetConnection := some k, midSession := true, starting := false } []
  | timeout (hfree : s.dispatch = none) : Move s s.checkLoginTimeout.1 s.checkLoginTimeout.2
  | stop : Move s { s with stopping := true } [.stop]

lemma Move.of_eq {s s' : Session} {es : List Event} {r : Session × List Event}
    (hr : Move s r.1 r.2) (h : r = (s', es)) : Move s s' es := by
  subst h
  exact hr

lemma move_of_runTask {s s' : Session} {es : List Event} (h : s.runTask = some (s', es)) :
    Move s s' es := by
  cases hrender : s.render with
  | idle =>
    cases hqueue : s.queue with
    | nil => simp [runTask, hrender, hqueue] at h
    | cons t q =>
      cases t with
      | packet p =>
        simp only [runTask, hrender, hqueue, Option.some.injEq] at h
        cases h
        rw [← hrender]
        exact .apply p q hrender hqueue
      | snapshot j =>
        simp only [runTask, hrender, hqueue] at h
        by_cases hj : j ∈ s.jobs
        · rw [if_pos hj] at h
          cases h
          exact .find j q hrender hqueue
        · rw [if_neg hj] at h
          cases h
          rw [← hrender]
          exact .drop j q hrender hqueue
  | found | checked | capturing | finishing => simp [runTask, hrender] at h

lemma move_of_snapshotCheck {s s' : Session} {callback : Bool} {es : List Event}
    (h : s.snapshotCheck callback = some (s', es)) : Move s s' es := by
  cases hrender : s.render with
  | found j =>
    simp only [snapshotCheck, hrender] at h
    by_cases hc : callback = true ∧ (s.job j).cancelled = false
    · rw [if_pos hc] at h
      cases h
      exact .check j hrender hc.2
    · rw [if_neg hc] at h
      cases h
      exact .abandon j (.inl hrender)
  | idle | checked | capturing | finishing => simp [snapshotCheck, hrender] at h

lemma move_of_snapshotBoundary {s s' : Session} {es : List Event}
    (h : s.snapshotBoundary = some (s', es)) : Move s s' es := by
  cases hrender : s.render with
  | checked j =>
    cases hdispatch : s.dispatch with
    | some _ => simp [snapshotBoundary, hrender, hdispatch] at h
    | none =>
      by_cases hb : s.stopping = true ∨ s.handoff.state ≠ .Capturing
      · have hbegin : s.beginSnapshot = (false, s) := if_pos hb
        simp only [snapshotBoundary, hrender, hdispatch, hbegin] at h
        cases h
        rw [← hdispatch]
        exact .abandon j (.inr (.inl hrender))
      · have hbegin : s.beginSnapshot = (true, s.clearPendingPackets) := if_neg hb
        simp only [snapshotBoundary, hrender, hdispatch, hbegin] at h
        cases h
        rw [not_or, not_not] at hb
        exact .boundary j hrender hdispatch hb.2
  | idle | found | capturing | finishing => simp [snapshotBoundary, hrender] at h

lemma move_of_snapshotCapture {s s' : Session} {ok : Bool} {es : List Event}
    (h : s.snapshotCapture ok = some (s', es)) : Move s s' es := by
  cases hrender : s.render with
  | capturing j =>
    simp only [snapshotCapture, hrender] at h
    cases ok with
    | true =>
      cases h
      exact .capture j hrender
    | false =>
      cases h
      exact .abandon j (.inr (.inr hrender))
  | idle | found | checked | finishing => simp [snapshotCapture, hrender] at h

lemma move_of_snapshotPublish {s s' : Session} {es : List Event}
    (h : s.snapshotPublish = some (s', es)) : Move s s' es := by
  cases hrender : s.render with
  | finishing j ok =>
    simp only [snapshotPublish, hrender, Option.some.injEq] at h
    cases h
    exact .publish j ok hrender
  | idle | found | checked | capturing => simp [snapshotPublish, hrender] at h

lemma move_of_closeStep {s s' : Session} {hasChannel : Bool} {es : List Event}
    (h : s.closeStep hasChannel = some (s', es)) : Move s s' es := by
  cases hdispatch : s.dispatch with
  | none => simp [closeStep, hdispatch] at h
  | some holder =>
    cases holder with
    | relay p => simp [closeStep, hdispatch] at h
    | inactive pc =>
      cases pc with
      | decide =>
        simp only [closeStep, hdispatch] at h
        split at h
        · cases h
          exact .closing .decide none s.live s.targetConnection hdispatch (by simp)
        · cases h
          exact .closing .decide (some (.inactive .take)) s.live s.targetConnection hdispatch
            (by simp)
      | take =>
        cases htarget : s.targetConnection with
        | none =>
          simp only [closeStep, hdispatch, htarget, Option.some.injEq] at h
          cases h
          rw [← htarget]
          exact .closing .take none s.live s.targetConnection hdispatch (by simp)
        | some k =>
          simp only [closeStep, hdispatch, htarget, Option.some.injEq] at h
          cases h
          rw [← htarget]
          exact .closing .take (some (.inactive (.close k))) s.live s.targetConnection hdispatch
            (by simp)
      | close k =>
        simp only [closeStep, hdispatch] at h
        split at h
        · cases h
          exact .closing (.close k) (some (.inactive .clear)) (s.live.erase k)
            s.targetConnection hdispatch (by simp)
        · cases h
          exact .closing (.close k) none s.live s.targetConnection hdispatch (by simp)
      | clear =>
        simp only [closeStep, hdispatch, Option.some.injEq] at h
        cases h
        exact .closing .clear none s.live none hdispatch (by simp)

/-- The effects of a step of `completeLogin`. -/
inductive LoginMove (s : Session) (c : Channel) : LoginPc → Session → List Event → Prop
  | leave (pc : LoginPc) : LoginMove s c pc { s with login := none } []
  | go {pc pc' : LoginPc} (hgoes : Goes s c pc pc') : LoginMove s c pc (s.goto c pc') []
  | begin (hfree : s.dispatch = none) :
      LoginMove s c .targeted
        { s with
            login := some (c, .syncing)
            pending := []
            handoff := s.handoff.begin s.now
            clientState := .Syncing }
        [.begun c, .enter c .Syncing]
  | list :
      LoginMove s c .syncing
        { s with
            login := some (c, .listed s.nextJob)
            jobs := s.jobs ++ [s.nextJob]
            nextJob := s.nextJob + 1 }
        []
  | execute (j : JobId) :
      LoginMove s c (.listed j)
        { s with login := some (c, .waiting j), queue := s.queue ++ [.snapshot j] } [.executed j]
  | cancel (j : JobId) :
      LoginMove s c (.timedOut j)
        ((s.goto c (.cancelled j)).setJob j { s.job j with cancelled := true }) []
  | remove (j : JobId) :
      LoginMove s c (.cancelled j)
        { s with login := some (c, .failed), jobs := s.jobs.erase j } []
  | writeFailed (hfree : s.dispatch = none) :
      LoginMove s c .captured
        { s with login := some (c, .failed), pending := [], handoff := s.handoff.fail } [.failed]
  | finishMid (hfree : s.dispatch = none) :
      LoginMove s c (.finishing true) (({ s with login := none } : Session).finishMidSession c).1
        (({ s with login := none } : Session).finishMidSession c).2
  | finishPlay :
      LoginMove s c (.finishing false) { s with login := none, clientState := .Play }
        [.enter c .Play]

lemma LoginMove.of_eq {s s' : Session} {c : Channel} {pc : LoginPc} {es : List Event}
    {r : Session × List Event} (hr : LoginMove s c pc r.1 r.2) (h : r = (s', es)) :
    LoginMove s c pc s' es := by
  subst h
  exact hr

lemma loginStep_cases {s s' : Session} {c : Channel} {pc : LoginPc} {a : Action}
    {es : List Event} (h : s.loginStep c pc a = some (s', es)) : LoginMove s c pc s' es := by
  unfold loginStep at h
  split at h
  -- in the order of the definition
  case h_1 | h_12 =>
    cases h
    exact .leave _
  case h_2 =>
    cases h
    by_cases hmid : s.clientChannel ≠ none ∧ s.midSession = true
    · rw [if_pos hmid]
      exact .go (.rebuild hmid.2)
    · rw [if_neg hmid]
      refine .go (.skip ?_)
      rwa [not_and_or, not_not, Bool.not_eq_true] at hmid
  case h_3 =>
    cases h
    split
    · exact .go .target
    · exact .go .noTarget
  case h_4 =>
    split at h
    · rename_i hfree
      cases h
      exact .begin hfree
    · cases h
  case h_5 =>
    split at h
    · cases h
      exact .list
    · cases h
      exact .go .noJob
  case h_6 j _ =>
    split at h
    · cases h
      exact .execute j
    · cases h
      exact .go (.notExecuted j)
  case h_7 j ok =>
    split at h
    · cases h
      by_cases hok : (s.job j).ok = true ∧ ok = true
      · rw [if_pos hok]
        exact .go (.taken j hok.1)
      · rw [if_neg hok]
        exact .go (.notTaken j)
    · cases h
  case h_8 j =>
    split at h
    · cases h
    · cases h
      exact .go (.timeout j)
  case h_9 j =>
    cases h
    exact .cancel j
  case h_10 j =>
    cases h
    exact .remove j
  case h_11 =>
    split at h
    · cases h
    · rename_i hfree
      rw [not_not] at hfree
      split at h
      · rename_i hok
        cases h
        exact .go (.wrote hok.1 hok.2.1)
      · cases h
        exact .writeFailed hfree
  case h_13 =>
    cases h
    exact .go .last
  case h_14 =>
    split at h
    · rename_i hfree
      exact (LoginMove.finishMid hfree).of_eq (Option.some.inj h)
    · cases h
  case h_15 =>
    cases h
    exact .finishPlay
  case h_16 => cases h

lemma LoginMove.move {s s' : Session} {c : Channel} {pc : LoginPc} {es : List Event}
    (hlogin : s.login = some (c, pc)) (h : LoginMove s c pc s' es) : Move s s' es := by
  cases h with
  | leave => exact .leave c _ hlogin
  | go hgoes => exact .go c _ _ hlogin hgoes
  | begin hfree => exact .begin c hlogin hfree
  | list => exact .list c hlogin
  | execute j => exact .execute c j hlogin
  | cancel j => exact .cancel c j hlogin
  | remove j => exact .remove c j hlogin
  | writeFailed => exact .writeFailed c hlogin
  | finishMid hfree => exact .finishMid c hlogin hfree
  | finishPlay => exact .finishPlay c hlogin

lemma step_cases {s s' : Session} {a : Action} {es : List Event}
    (h : step s a = some (s', es)) : Move s s' es := by
  cases a with
  | relayRead p =>
    simp only [step, relayRead, Option.ite_none_right_eq_some, Option.some.injEq] at h
    obtain ⟨⟨hfree, hworld, hqueue⟩, heq⟩ := h
    cases heq
    exact .dispatch p hfree hworld hqueue
  | relayForward ref =>
    simp only [step, relayForward] at h
    split at h
    · rename_i p hheld
      exact (Move.forward p ref hheld).of_eq (Option.some.inj h)
    · cases h
  | runTask => exact move_of_runTask h
  | snapshotCheck callback => exact move_of_snapshotCheck h
  | snapshotBoundary => exact move_of_snapshotBoundary h
  | snapshotCapture ok => exact move_of_snapshotCapture h
  | snapshotPublish => exact move_of_snapshotPublish h
  | intention c =>
    simp only [step, Option.ite_none_left_eq_some, Bool.not_eq_true, Option.some.injEq,
      Session.intention] at h
    obtain ⟨hidle, heq⟩ := h
    split at heq
    · rename_i howner
      cases heq
      exact .intention c hidle howner
    · cases heq
      exact .stay
  | hello c =>
    simp only [step, Option.ite_none_left_eq_some, Bool.not_eq_true, Option.some.injEq,
      Session.hello] at h
    obtain ⟨hidle, heq⟩ := h
    split at heq
    · rename_i howner
      cases heq
      exact .hello c hidle howner.1 howner.2
    · cases heq
      exact .stay
  | packet c m =>
    simp only [step, Option.ite_none_left_eq_some, not_or, Bool.not_eq_true, not_not] at h
    obtain ⟨⟨hidle, hfree⟩, h⟩ := h
    split at h
    · rename_i howner
      exact (Move.packet c m hidle hfree howner).of_eq (Option.some.inj h)
    · cases h
      exact .stay
  | inactive c =>
    simp only [step, Option.ite_none_left_eq_some, not_or, Bool.not_eq_true, not_not,
      Option.some.injEq, Session.inactive] at h
    obtain ⟨⟨hidle, hfree⟩, heq⟩ := h
    split at heq
    · rename_i howner
      cases heq
      exact .inactive c hidle hfree howner
    · cases heq
      exact .stay
  | closeStep hasChannel => exact move_of_closeStep h
  | connectA k =>
    simp only [step, Option.ite_none_left_eq_some, Option.some.injEq] at h
    cases h.2
    exact .world (k :: s.live) (some k) s.starting s.now
  | disconnectA k =>
    cases h
    exact .world (s.live.erase k) s.targetConnection s.starting s.now
  | captureLive k =>
    simp only [step, Option.ite_none_right_eq_some, Option.some.injEq] at h
    cases h.2
    exact .captureLive k
  | startNotConnected =>
    simp only [step, Option.ite_none_right_eq_some, Option.some.injEq] at h
    cases h.2
    exact .world s.live s.targetConnection false s.now
  | checkLoginTimeout =>
    simp only [step, Option.ite_none_right_eq_some, Option.some.injEq] at h
    exact (Move.timeout h.1).of_eq h.2
  | requestStop =>
    cases h
    exact .stop
  | tick =>
    cases h
    exact .world s.live s.targetConnection s.starting (s.now + 1)
  | abortLogin | readMidSession | takeTarget | beginHandoff | listJob | execute | waitDone
    | waitTimeout | cancelJob | removeJob | writeSnapshot | closeFailed | readMidSessionAgain
    | finishLogin =>
    simp only [step] at h
    split at h
    · rename_i c pc hlogin
      exact (loginStep_cases h).move hlogin
    · cases h

end Session
end Server
end SakuraTools
