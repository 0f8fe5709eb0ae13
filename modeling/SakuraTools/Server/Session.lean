import SakuraTools.Lib.Transition
import SakuraTools.Server.LoginHandoff
import SakuraTools.Server.PacketPolicy

/-!
# A session of the proxy

The state that `native/server/` shares between its threads, and one step of each of them: A's
network thread (`relay_handler.cpp`), A's render thread (`world_snapshot.cpp`), the event loops
of B's channels (`forwarding.cpp`, `login.cpp`, `transport.cpp`) and the controller
(`lifecycle.cpp`).  A step is a critical section, or what a thread does between two of them.
The session ends with the request to stop; releasing its resources is not part of it.

A JNI call that can fail is a flag of the action that makes it.
-/

namespace SakuraTools
namespace Server

abbrev Channel := ℕ
abbrev Connection := ℕ
abbrev JobId := ℕ

inductive ClientState where
  | AwaitHandshake
  | AwaitLogin
  | Play
  | Syncing
  | AwaitReady
deriving DecidableEq, Repr

/-- `kMaxPendingPackets` -/
def kMaxPendingPackets : ℕ := 8192

/-- A packet of B: the name of its class and, for the confirmation of a teleport, the id that
the JNI call returns, if it does. -/
structure ClientPacket where
  cls : String
  ack : Option ℤ := none
deriving DecidableEq, Repr

def acceptTeleportation : String :=
  "net.minecraft.network.protocol.game.ServerboundAcceptTeleportationPacket"

/-- A task on the queue of Minecraft's main thread. -/
inductive Task where
  | packet (p : Packet)
  | snapshot (j : JobId)
deriving DecidableEq, Repr

/-- The flags of a snapshot job. -/
structure Job where
  done : Bool := false
  cancelled : Bool := false
  ok : Bool := false
deriving DecidableEq, Repr

/-- Where the render thread is in `runSnapshot`. -/
inductive RenderPc where
  | idle
  /-- The job was taken out of the list. -/
  | found (j : JobId)
  /-- The job is not cancelled. -/
  | checked (j : JobId)
  /-- The boundary was drawn. -/
  | capturing (j : JobId)
  | finishing (j : JobId) (ok : Bool)
deriving DecidableEq, Repr

/-- Where an event loop is in `completeLogin`. -/
inductive LoginPc where
  /-- Before the first test of `midSession`. -/
  | greeted
  /-- At the start of `reconstructAndSendLoginToB`. -/
  | rebuilding
  /-- A's connection was found. -/
  | targeted
  /-- The handoff has begun. -/
  | syncing
  /-- The job is in the list. -/
  | listed (j : JobId)
  /-- The task of the job was handed to `Minecraft.execute`. -/
  | waiting (j : JobId)
  | timedOut (j : JobId)
  | cancelled (j : JobId)
  /-- `CaptureWorldSnapshot` returned true. -/
  | captured
  /-- `reconstructAndSendLoginToB` returned false. -/
  | failed
  /-- Before the second test of `midSession`. -/
  | introduced
  | finishing (mid : Bool)
deriving DecidableEq, Repr

/-- Where `channelInactive` is after it has given the session up. -/
inductive ClosePc where
  | decide
  | take
  | close (k : Connection)
  | clear
deriving DecidableEq, Repr

/-- Who holds `dispatchMutex` from one step to the next. -/
inductive Holder where
  /-- `Native_RelayChannelRead`, between the task of the packet and its forwarding. -/
  | relay (p : Packet)
  /-- `Native_BSide_channelInactive` -/
  | inactive (pc : ClosePc)
deriving DecidableEq, Repr

structure Session where
  now : ℕ := 0
  /-- The controller is still looking for A's connection. -/
  starting : Bool := false
  stopping : Bool := false
  midSession : Bool := false
  handoff : LoginHandoff := {}
  pending : List Packet := []
  clientChannel : Option Channel := none
  clientState : ClientState := .AwaitHandshake
  targetConnection : Option Connection := none
  /-- A's open game connections. -/
  live : List Connection := []
  dispatch : Option Holder := none
  /-- The login in progress.  Only the owner of the session logs in, one packet at a time. -/
  login : Option (Channel × LoginPc) := none
  jobs : List JobId := []
  job : JobId → Job := fun _ => {}
  nextJob : JobId := 0
  /-- The queue of Minecraft's main thread. -/
  queue : List Task := []
  /-- The packets whose tasks have run, which make up A's world. -/
  world : List Packet := []
  render : RenderPc := .idle

inductive Event where
  | intention (c : Channel)
  /-- `completeLogin` starts; whether A has a live connection, and `midSession`. -/
  | login (c : Channel) (live mid : Bool)
  /-- `handoff.begin` -/
  | begun (c : Channel)
  | executed (j : JobId)
  | boundary (j : JobId)
  /-- The snapshot is taken: it shows the packets whose tasks have run. -/
  | captured (j : JobId) (world : List Packet)
  /-- `handoff.snapshotSent` returned true. -/
  | sent (c : Channel)
  /-- `handoff.acknowledge` returned true. -/
  | acknowledged (c : Channel)
  /-- `handoff.fail` -/
  | failed
  /-- `handoff.reset` -/
  | reset
  /-- `clientState.store` on behalf of a channel. -/
  | enter (c : Channel) (st : ClientState)
  /-- The task of a packet of A's server is queued. -/
  | dispatched (p : Packet)
  /-- A packet of A's server is written to B. -/
  | forwarded (c : Channel) (p : Packet)
  /-- A packet of B is passed to `routeToA`. -/
  | routed (m : ClientPacket)
  | stop
deriving DecidableEq, Repr

inductive Action where
  -- A's network thread
  | relayRead (p : Packet)
  | relayForward (ref : Bool)
  -- A's render thread
  | runTask
  | snapshotCheck (callback : Bool)
  | snapshotBoundary
  | snapshotCapture (ok : Bool)
  | snapshotPublish
  -- the event loops of B's channels
  | intention (c : Channel)
  | hello (c : Channel)
  | abortLogin
  | readMidSession
  | takeTarget (ok : Bool)
  | beginHandoff
  | listJob (ok : Bool)
  | execute (ok : Bool)
  | waitDone (ok : Bool)
  | waitTimeout
  | cancelJob
  | removeJob
  | writeSnapshot (ok : Bool)
  | closeFailed
  | readMidSessionAgain
  | finishLogin
  | packet (c : Channel) (m : ClientPacket)
  | inactive (c : Channel)
  | closeStep (hasChannel : Bool)
  -- A's connections
  | connectA (k : Connection)
  | disconnectA (k : Connection)
  -- the controller
  | captureLive (k : Connection)
  | startNotConnected
  | checkLoginTimeout
  | requestStop
  | tick
deriving DecidableEq, Repr

namespace Session

/-! ## Critical sections -/

/-- `clearPendingPackets` -/
def clearPendingPackets (s : Session) : Session := { s with pending := [] }

/-- `beginSnapshot` -/
def beginSnapshot (s : Session) : Bool × Session :=
  if s.stopping ∨ s.handoff.state ≠ .Capturing then (false, s) else (true, s.clearPendingPackets)

/-- `BServer_ForwardToB`; `ref` tells whether `NewGlobalRef` succeeds.  A packet counts as
forwarded when it is handed to the writer of the channel. -/
def forwardToB (s : Session) (p : Packet) (ref : Bool) : Session × List Event :=
  if s.stopping ∨ (s.clientState ≠ .Play ∧ s.clientState ≠ .Syncing ∧
      s.clientState ≠ .AwaitReady) then (s, [])
  else if !PacketPolicy.isGamePacket p.cls then (s, [])
  else if s.clientState = .Syncing then
    if s.handoff.state ≠ .Capturing then (s, [])
    else if s.pending.length < kMaxPendingPackets ∧ ref then
      ({ s with pending := s.pending ++ [p] }, [])
    else ({ s with handoff := s.handoff.fail, pending := [] }, [.failed])
  else
    match s.clientChannel with
    | none => (s, [])
    | some c => (s, [.forwarded c p])

/-- `BServer_CheckLoginTimeout` -/
def checkLoginTimeout (s : Session) : Session × List Event :=
  if !s.handoff.expired s.now ∧ s.handoff.state ≠ .Failed then (s, [])
  else ({ s with handoff := s.handoff.fail.reset, pending := [] }, [.failed, .reset])

/-- Forward the packets of a list one after the other. -/
def forwardAll (s : Session) : List Packet → Session × List Event
  | [] => (s, [])
  | p :: ps =>
    let (s, es) := s.forwardToB p true
    let (s, es') := s.forwardAll ps
    (s, es ++ es')

/-- The last section of `completeLogin` in a session that started with A in game. -/
def finishMidSession (s : Session) (c : Channel) : Session × List Event :=
  if s.stopping then (s, [])
  else
    let (sent, handoff) := s.handoff.snapshotSent
    if !sent then
      let (s, es) := ({ s with handoff := handoff.fail } : Session).checkLoginTimeout
      (s, .failed :: es)
    else
      let (s, es) := ({ s with
        handoff := handoff, clientState := .AwaitReady, pending := [] } : Session).forwardAll
          s.pending
      (s, .sent c :: .enter c .AwaitReady :: es)

/-- The end of `handleClientPacket`: B's packets once it owns the session. -/
def handleClientPacket (s : Session) (c : Channel) (m : ClientPacket) : Session × List Event :=
  let route : Session × List Event :=
    (s, if s.clientState = .Play ∧ PacketPolicy.allowFromB m.cls then [.routed m] else [])
  if m.cls = acceptTeleportation then
    match m.ack with
    | none => (s, [])
    | some id =>
      let (consumed, handoff) := s.handoff.acknowledge id
      if consumed then
        if s.clientState = .AwaitReady ∧ handoff.state = .Active then
          ({ s with handoff := handoff, clientState := .Play },
            [.acknowledged c, .enter c .Play])
        else ({ s with handoff := handoff }, [.acknowledged c])
      else route
  else route

/-- The event loop of the channel is in `completeLogin`. -/
def busy (s : Session) (c : Channel) : Bool := s.login.any fun l => l.1 == c

/-- The login in progress goes on at `pc`. -/
def goto (s : Session) (c : Channel) (pc : LoginPc) : Session := { s with login := some (c, pc) }

/-- A job with new flags. -/
def setJob (s : Session) (j : JobId) (x : Job) : Session :=
  { s with job := fun i => if i = j then x else s.job i }

/-! ## The steps of the threads -/

/-- A's network thread, in `Native_RelayChannelRead`.  A packet is a new object. -/
def relayRead (s : Session) (p : Packet) : Option (Session × List Event) :=
  if s.dispatch = none ∧ p ∉ s.world ∧ .packet p ∉ s.queue then
    some ({ s with dispatch := some (.relay p), queue := s.queue ++ [.packet p] }, [.dispatched p])
  else none

def relayForward (s : Session) (ref : Bool) : Option (Session × List Event) :=
  match s.dispatch with
  | some (.relay p) =>
    let (s, es) := s.forwardToB p ref
    some ({ s with dispatch := none }, es)
  | _ => none

/-- A's render thread takes a task from its queue; the task of a job is `runSnapshot`. -/
def runTask (s : Session) : Option (Session × List Event) :=
  match s.render, s.queue with
  | .idle, .packet p :: q => some ({ s with queue := q, world := s.world ++ [p] }, [])
  | .idle, .snapshot j :: q =>
    if j ∈ s.jobs then
      some ({ s with queue := q, jobs := s.jobs.erase j, render := .found j }, [])
    else some ({ s with queue := q }, [])
  | _, _ => none

/-- The test of the flag `cancelled`; `callback` tells whether the runtime is not shutting
down. -/
def snapshotCheck (s : Session) (callback : Bool) : Option (Session × List Event) :=
  match s.render with
  | .found j =>
    if callback ∧ (s.job j).cancelled = false then some ({ s with render := .checked j }, [])
    else some ({ s with render := .finishing j false }, [])
  | _ => none

def snapshotBoundary (s : Session) : Option (Session × List Event) :=
  match s.render, s.dispatch with
  | .checked j, none =>
    let (ok, s) := s.beginSnapshot
    if ok then some ({ s with render := .capturing j }, [.boundary j])
    else some ({ s with render := .finishing j false }, [])
  | _, _ => none

/-- `captureNow` -/
def snapshotCapture (s : Session) (ok : Bool) : Option (Session × List Event) :=
  match s.render with
  | .capturing j =>
    some ({ s with render := .finishing j ok }, if ok then [.captured j s.world] else [])
  | _ => none

def snapshotPublish (s : Session) : Option (Session × List Event) :=
  match s.render with
  | .finishing j ok =>
    let x := s.job j
    some (({ s with render := .idle } : Session).setJob j
      { x with done := true, ok := ok && !x.cancelled }, [])
  | _ => none

/-- The branch of `handleClientPacket` for the intention to log in. -/
def intention (s : Session) (c : Channel) : Session × List Event :=
  if s.clientChannel = none ∨ s.clientChannel = some c then
    ({ s with clientChannel := some c, clientState := .AwaitLogin },
      [.intention c, .enter c .AwaitLogin])
  else (s, [])

/-- The branch of `handleClientPacket` for the name of the player. -/
def hello (s : Session) (c : Channel) : Session × List Event :=
  if s.clientChannel = some c ∧ s.clientState = .AwaitLogin then
    (s.goto c .greeted, [.login c (!s.live.isEmpty) s.midSession])
  else (s, [])

/-- `completeLogin`, `reconstructAndSendLoginToB` and `CaptureWorldSnapshot`, from one critical
section to the next. -/
def loginStep (s : Session) (c : Channel) : LoginPc → Action → Option (Session × List Event)
  | .greeted, .abortLogin => some ({ s with login := none }, [])
  | .greeted, .readMidSession =>
    some (s.goto c (if s.clientChannel ≠ none ∧ s.midSession then .rebuilding else .introduced),
      [])
  | .rebuilding, .takeTarget ok =>
    some (s.goto c (if s.targetConnection ≠ none ∧ ok then .targeted else .failed), [])
  | .targeted, .beginHandoff =>
    if s.dispatch = none then
      some
        ({ s with
            login := some (c, .syncing)
            pending := []
            handoff := s.handoff.begin s.now
            clientState := .Syncing },
          [.begun c, .enter c .Syncing])
    else none
  | .syncing, .listJob ok =>
    if ok then
      some
        ({ s with
            login := some (c, .listed s.nextJob)
            jobs := s.jobs ++ [s.nextJob]
            nextJob := s.nextJob + 1 },
          [])
    else some (s.goto c .failed, [])
  | .listed j, .execute ok =>
    if ok then
      some ({ s with login := some (c, .waiting j), queue := s.queue ++ [.snapshot j] },
        [.executed j])
    else some (s.goto c (.timedOut j), [])
  | .waiting j, .waitDone ok =>
    if (s.job j).done then some (s.goto c (if (s.job j).ok ∧ ok then .captured else .failed), [])
    else none
  | .waiting j, .waitTimeout =>
    if (s.job j).done then none else some (s.goto c (.timedOut j), [])
  | .timedOut j, .cancelJob =>
    some ((s.goto c (.cancelled j)).setJob j { s.job j with cancelled := true }, [])
  | .cancelled j, .removeJob =>
    some ({ s with login := some (c, .failed), jobs := s.jobs.erase j }, [])
  | .captured, .writeSnapshot ok =>
    if s.dispatch ≠ none then none
    else if s.stopping = false ∧ s.handoff.state = .Capturing ∧ ok then
      some (s.goto c .introduced, [])
    else
      some ({ s with login := some (c, .failed), pending := [], handoff := s.handoff.fail },
        [.failed])
  | .failed, .closeFailed => some ({ s with login := none }, [])
  | .introduced, .readMidSessionAgain => some (s.goto c (.finishing s.midSession), [])
  | .finishing true, .finishLogin =>
    if s.dispatch = none then some (({ s with login := none } : Session).finishMidSession c)
    else none
  | .finishing false, .finishLogin =>
    some ({ s with login := none, clientState := .Play }, [.enter c .Play])
  | _, _ => none

/-- `Native_BSide_channelInactive`, up to the end of the session of the channel. -/
def inactive (s : Session) (c : Channel) : Session × List Event :=
  if s.clientChannel = some c then
    ({ s with
        clientChannel := none
        clientState := .AwaitHandshake
        handoff := s.handoff.reset
        pending := []
        dispatch := some (.inactive .decide) },
      [.enter c .AwaitHandshake, .reset])
  else (s, [])

/-- The rest of `Native_BSide_channelInactive`, with `closeARemoteConnection`. -/
def closeStep (s : Session) (hasChannel : Bool) : Option (Session × List Event) :=
  let done := { s with dispatch := none }
  match s.dispatch with
  | some (.inactive .decide) =>
    if s.midSession then some (done, [])
    else some ({ s with dispatch := some (.inactive .take) }, [])
  | some (.inactive .take) =>
    match s.targetConnection with
    | none => some (done, [])
    | some k => some ({ s with dispatch := some (.inactive (.close k)) }, [])
  | some (.inactive (.close k)) =>
    if hasChannel then
      some ({ s with live := s.live.erase k, dispatch := some (.inactive .clear) }, [])
    else some (done, [])
  | some (.inactive .clear) => some ({ done with targetConnection := none }, [])
  | _ => none

/-- One step of a thread.  The event loop of a channel handles one packet at a time.  It tests
`stopping` when the packet arrives, which says nothing about the moment at which it goes on. -/
def step : Step Session Action Event
  | s, .relayRead p => s.relayRead p
  | s, .relayForward ref => s.relayForward ref
  | s, .runTask => s.runTask
  | s, .snapshotCheck callback => s.snapshotCheck callback
  | s, .snapshotBoundary => s.snapshotBoundary
  | s, .snapshotCapture ok => s.snapshotCapture ok
  | s, .snapshotPublish => s.snapshotPublish
  | s, .intention c => if s.busy c then none else some (s.intention c)
  | s, .hello c => if s.busy c then none else some (s.hello c)
  | s, .packet c m =>
    if s.busy c ∨ s.dispatch ≠ none then none
    else if s.clientChannel = some c then some (s.handleClientPacket c m)
    else some (s, [])
  | s, .inactive c => if s.busy c ∨ s.dispatch ≠ none then none else some (s.inactive c)
  | s, .closeStep hasChannel => s.closeStep hasChannel
  | s, .connectA k =>
    if k ∈ s.live then none
    else some ({ s with live := k :: s.live, targetConnection := some k }, [])
  | s, .disconnectA k => some ({ s with live := s.live.erase k }, [])
  | s, .captureLive k =>
    if s.starting ∧ k ∈ s.live then
      some ({ s with targetConnection := some k, midSession := true, starting := false }, [])
    else none
  | s, .startNotConnected =>
    if s.starting ∧ s.live = [] then some ({ s with starting := false }, []) else none
  | s, .checkLoginTimeout => if s.dispatch = none then some s.checkLoginTimeout else none
  | s, .requestStop => some ({ s with stopping := true }, [.stop])
  | s, .tick => some ({ s with now := s.now + 1 }, [])
  | s, a =>
    match s.login with
    | some (c, pc) => s.loginStep c pc a
    | none => none

end Session
end Server
end SakuraTools
