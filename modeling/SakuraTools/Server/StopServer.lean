import SakuraTools.Server.Session

/-!
# Stopping the server

`InstallBServer` and `StopBServer` of `native/server/lifecycle.cpp`: what a session holds of
Netty and of Minecraft, and how an attempt to release it goes, depending on what the calls into
Java answer.  An attempt that fails keeps the references for the next one.
-/

namespace SakuraTools
namespace Server

/-! ## What a session holds -/

/-- A global reference. -/
abbrev Ref := ℕ

/-- The state of an event loop group. -/
inductive Group where
  | running
  | shuttingDown
  | terminated
deriving DecidableEq, Repr

/-- The channel that listens for B. -/
structure Listener where
  isOpen : Bool := true
deriving DecidableEq, Repr

/-- The thread that announces the server in the local network. -/
structure LanPinger where
  isAlive : Bool := true
deriving DecidableEq, Repr

/-- A weak reference to an accepted channel. -/
structure Child where
  isOpen : Bool := true
  collected : Bool := false
deriving DecidableEq, Repr

/-- `PlayerIdentity`, without the bytes of the uuid. -/
structure PlayerIdentity where
  uuid : Option Ref := none
  name : Option Ref := none
  ready : Bool := false
deriving DecidableEq, Repr

/-- What the callbacks of a session change. -/
structure SessionRefs where
  midSession : Bool := false
  handoff : LoginHandoff := {}
  pendingPackets : List Ref := []
  aPlayer : PlayerIdentity := {}
  bPlayer : PlayerIdentity := {}
  clientChannel : Option Ref := none
  clientState : ClientState := .AwaitHandshake
  targetConnection : Option Ref := none
  clientConnected : Bool := false
deriving DecidableEq, Repr

/-- `ServerState`, with the states of the objects that it refers to. -/
structure ServerState where
  bound : Bool := false
  listener : Option Listener := none
  eventLoop : Option Group := none
  lanPinger : Option LanPinger := none
  stopping : Bool := true
  children : List Child := []
  gateCancelled : Bool := false
  gateTasks : ℕ := 0
  session : SessionRefs := {}
deriving DecidableEq, Repr

/-! ## An attempt to stop -/

/-- What becomes of a child: its reference is null because it was collected, or `NewLocalRef`
throws, or the channel is closed, and the future succeeds in time or not. -/
inductive ChildAnswer where
  | null
  | throws
  | close (ok : Bool)
deriving DecidableEq, Repr

/-- What becomes of the LAN thread: a JNI call fails, or the thread was joined and `isAlive`
answers. -/
inductive LanAnswer where
  | throws
  | joined (alive : Bool)
deriving DecidableEq, Repr

/-- What the calls of an attempt answer: `waitNettyFuture` for the listener, for the children and
for the group, the LAN thread, and the wait for the gate tasks. -/
structure Answers where
  listener : Bool
  children : List ChildAnswer
  lan : LanAnswer
  shutdown : Bool
  drained : Bool
deriving DecidableEq, Repr

/-- The child is taken off the list. -/
def ChildAnswer.closed : ChildAnswer → Bool
  | .null => true
  | .throws => false
  | .close ok => ok

namespace ServerState

/-- `BServer_RequestStop` -/
def requestStop (s : ServerState) : ServerState :=
  { s with
    stopping := true
    gateCancelled := true
    session := { s.session with clientConnected := false } }

/-- What the calls do to the objects. -/
def called (s : ServerState) (a : Answers) : ServerState :=
  { s with
    listener := if a.listener then s.listener.map fun _ => ⟨false⟩ else s.listener
    lanPinger := if a.lan = .joined false then s.lanPinger.map fun _ => ⟨false⟩ else s.lanPinger
    eventLoop :=
      if a.shutdown then s.eventLoop.map fun _ => .terminated
      else s.eventLoop.map fun g => if g = .running then .shuttingDown else g
    gateTasks := if a.drained then 0 else s.gateTasks }

/-- The end of `StopBServer`, when everything has succeeded. -/
def release (s : ServerState) : ServerState :=
  { s with
    listener := none
    eventLoop := none
    lanPinger := none
    bound := false
    session :=
      { s.session with
        clientChannel := none
        clientState := .AwaitHandshake
        targetConnection := none
        aPlayer := {}
        bPlayer := {}
        midSession := false
        pendingPackets := []
        handoff := s.session.handoff.reset } }

/-- The children that are kept for the next attempt. -/
def pending (s : ServerState) (a : Answers) : List Child :=
  ((s.children.zip a.children).filter fun p => !p.2.closed).map Prod.fst

/-- The flag `ok` after the six steps: the listener, the children, the LAN thread, the group and
the gate tasks. -/
def succeeds (s : ServerState) (a : Answers) : Bool :=
  (s.listener.isNone || a.listener) && a.children.all ChildAnswer.closed &&
    (s.lanPinger.isNone || a.lan == .joined false) && (s.eventLoop.isNone || a.shutdown) &&
    a.drained

/-- `StopBServer` -/
def stopBServer (s : ServerState) (a : Answers) : Bool × ServerState :=
  let s := s.requestStop
  let after := { s.called a with children := s.pending a }
  if s.succeeds a then (true, after.release) else (false, after)

end ServerState

/-! ## What Java may answer -/

/-- Whether a child may answer so: a collected one is null, and a channel whose group has
terminated can not be closed. -/
def ChildAnswer.possible (group : Option Group) (c : Child) : ChildAnswer → Bool
  | .null => true
  | .throws => !c.collected
  | .close ok => !c.collected && !(ok && group == some .terminated)

/-- Whether the children may answer so. -/
def possibleChildren (group : Option Group) : List Child → List ChildAnswer → Bool
  | [], [] => true
  | c :: cs, a :: as => a.possible group c && possibleChildren group cs as
  | _, _ => false

/-- The assumptions about Java: `Channel.close` fails once the group has terminated, and then
`shutdownGracefully` succeeds; an ended thread is joined at once; and the wait for the gate tasks
ends when there are none.  Any other call can fail or run into its timeout. -/
def Answers.Possible (s : ServerState) (a : Answers) : Prop :=
  (a.listener = true → s.eventLoop ≠ some .terminated) ∧
    possibleChildren s.eventLoop s.children a.children = true ∧
    (s.lanPinger = some ⟨false⟩ → a.lan = .joined false) ∧
    (s.eventLoop = some .terminated → a.shutdown = true) ∧
    (s.gateTasks = 0 → a.drained = true)

instance (s : ServerState) (a : Answers) : Decidable (a.Possible s) :=
  inferInstanceAs (Decidable (_ ∧ _))

/-! ## Histories -/

/-- How far `InstallBServer` gets. -/
inductive Installed where
  /-- There is no class loader. -/
  | noLoader
  /-- There are no bindings, or no event loop group. -/
  | noGroup
  /-- The bind fails before it gives a channel. -/
  | noListener
  /-- There is a listener, `sync` succeeds or throws, and the announcement starts or does not. -/
  | listening (sync lan : Bool)
deriving DecidableEq, Repr

/-- The server, and whether the last `StopBServer` returned true since the last session: the
controller starts a session only then. -/
structure Lifecycle where
  server : ServerState := {}
  clean : Bool := true
deriving DecidableEq, Repr

inductive LifecycleAction where
  | install (result : Installed)
  /-- `Native_ServerInit_initChannel` -/
  | accept
  /-- The callbacks of the session change what they hold. -/
  | use (refs : SessionRefs)
  /-- `BServer_BlockAMainThreadUntilBConnected` queues a task. -/
  | queueGate
  /-- `Native_MainThreadGate_run` -/
  | runGate
  | endLan
  | closeListener
  | closeChild (k : ℕ)
  | terminate
  | collect (k : ℕ)
  | stop (a : Answers)
deriving DecidableEq, Repr

/-- `StopBServer` returns. -/
inductive LifecycleEvent where
  | stopped (result : Bool)
deriving DecidableEq, Repr

namespace ServerState

/-- `InstallBServer` -/
def install (s : ServerState) (result : Installed) : ServerState :=
  if s.bound then s
  else
    let opened := { s with
      gateCancelled := false
      stopping := false
      session := { s.session with midSession := false, clientConnected := false } }
    match result with
    | .noLoader => s
    | .noGroup => opened
    | .noListener => { opened with eventLoop := some .running }
    | .listening sync lan =>
      { opened with
        eventLoop := some .running
        listener := some {}
        bound := sync
        lanPinger := if sync && lan then some {} else none }

end ServerState

namespace Lifecycle

/-- Minecraft, Netty or the JVM change an object. -/
def outside (s : Lifecycle) (server : ServerState) : Option (Lifecycle × List LifecycleEvent) :=
  some ({ s with server := server }, [])

def step : Step Lifecycle LifecycleAction LifecycleEvent
  | s, .install result =>
    if s.clean then some ({ server := s.server.install result, clean := false }, []) else none
  | s, .accept =>
    if s.server.stopping = false ∧ s.server.listener = some ⟨true⟩ ∧
        s.server.eventLoop = some .running then
      s.outside { s.server with children := s.server.children.filter (!·.collected) ++ [{}] }
    else none
  | s, .use refs =>
    if s.server.stopping = false then s.outside { s.server with session := refs } else none
  | s, .queueGate =>
    if s.server.gateCancelled = false ∧ s.server.stopping = false then
      s.outside { s.server with gateTasks := s.server.gateTasks + 1 }
    else none
  | s, .runGate =>
    if s.server.gateTasks ≠ 0 ∧ (s.server.session.clientConnected ∨ s.server.gateCancelled) then
      s.outside { s.server with gateTasks := s.server.gateTasks - 1 }
    else none
  | s, .endLan => s.outside { s.server with lanPinger := s.server.lanPinger.map fun _ => ⟨false⟩ }
  | s, .closeListener =>
    s.outside { s.server with listener := s.server.listener.map fun _ => ⟨false⟩ }
  | s, .closeChild k =>
    s.outside { s.server with
      children := s.server.children.modify k fun c => { c with isOpen := false } }
  | s, .terminate =>
    if s.server.eventLoop = some .shuttingDown then
      s.outside { s.server with eventLoop := some .terminated }
    else none
  | s, .collect k =>
    s.outside { s.server with
      children := s.server.children.modify k fun c => { c with collected := true } }
  | s, .stop a =>
    if a.Possible s.server then
      let (result, server) := s.server.stopBServer a
      some ({ server := server, clean := result }, [.stopped result])
    else none

end Lifecycle

/-! ## The retry -/

namespace ServerState

/-- No gate task is left, the LAN thread has ended, every channel is closed and the group has
terminated. -/
structure Settled (s : ServerState) : Prop where
  gateTasks : s.gateTasks = 0
  lanPinger : ∀ t, s.lanPinger = some t → t = ⟨false⟩
  listener : ∀ l, s.listener = some l → l.isOpen = false
  children : ∀ c ∈ s.children, c.collected = false → c.isOpen = false
  eventLoop : ∀ g, s.eventLoop = some g → g = .terminated

/-- Nothing of the session is held any more. -/
structure Released (s : ServerState) : Prop where
  listener : s.listener = none
  eventLoop : s.eventLoop = none
  lanPinger : s.lanPinger = none
  children : s.children = []
  bound : s.bound = false
  session : s.session.midSession = false ∧ s.session.handoff.state = .Idle ∧
    s.session.pendingPackets = [] ∧ s.session.aPlayer = {} ∧ s.session.bPlayer = {} ∧
    s.session.clientChannel = none ∧ s.session.clientState = .AwaitHandshake ∧
    s.session.targetConnection = none ∧ s.session.clientConnected = false

variable {s : ServerState} {a : Answers}

/-- An attempt succeeds when each of its steps does. -/
lemma succeeds_iff : s.succeeds a = true ↔
    (s.listener = none ∨ a.listener = true) ∧ (∀ c ∈ a.children, c.closed = true) ∧
      (s.lanPinger = none ∨ a.lan = .joined false) ∧ (s.eventLoop = none ∨ a.shutdown = true) ∧
      a.drained = true := by
  simp [succeeds, and_assoc]

lemma stopBServer_fst (s : ServerState) (a : Answers) : (s.stopBServer a).1 = s.succeeds a := by
  cases h : s.succeeds a with
  | true => exact congrArg Prod.fst (if_pos (show s.requestStop.succeeds a = true from h))
  | false =>
    have hne : ¬ s.requestStop.succeeds a = true := by
      rw [Bool.not_eq_true]
      exact h
    exact congrArg Prod.fst (if_neg hne)

/-- And then it releases everything. -/
lemma released_of_succeeds (h : s.succeeds a = true) : (s.stopBServer a).2.Released := by
  obtain ⟨-, hchildren, -⟩ := succeeds_iff.mp h
  have hpending : s.requestStop.pending a = [] := by
    rw [pending, List.map_eq_nil_iff, List.filter_eq_nil_iff]
    intro p hp
    simp [hchildren p.2 (List.of_mem_zip hp).2]
  have hafter : (s.stopBServer a).2 =
      release { s.requestStop.called a with children := s.requestStop.pending a } :=
    congrArg Prod.snd (if_pos (show s.requestStop.succeeds a = true from h))
  rw [hafter]
  exact ⟨rfl, rfl, rfl, hpending, rfl, rfl, rfl, rfl, rfl, rfl, rfl, rfl, rfl, rfl⟩

/-- Collected children are taken off the list. -/
lemma closed_of_collected {group : Option Group} {cs : List Child} {as : List ChildAnswer}
    (h : possibleChildren group cs as = true) (hcs : ∀ c ∈ cs, c.collected = true) :
    ∀ x ∈ as, x.closed = true := by
  induction cs generalizing as with
  | nil =>
    cases as with
    | nil => simp
    | cons x as => cases h
  | cons c cs ih =>
    cases as with
    | nil => cases h
    | cons x as =>
      simp only [possibleChildren, Bool.and_eq_true] at h
      obtain ⟨hx, has⟩ := h
      have hc := hcs c List.mem_cons_self
      have hxs := ih has fun c' hc' => hcs c' (List.mem_cons_of_mem c hc')
      refine List.forall_mem_cons.mpr ⟨?_, hxs⟩
      cases x with
      | null => rfl
      | throws => simp [ChildAnswer.possible, hc] at hx
      | close ok => simp [ChildAnswer.possible, hc] at hx

/-- The answers of a settled server when no child is collected during the attempt. -/
def settledAnswers (s : ServerState) : Answers where
  listener := false
  children := s.children.map fun c => if c.collected then .null else .close false
  lan := .joined false
  shutdown := true
  drained := true

lemma settledAnswers_possible (s : ServerState) : s.settledAnswers.Possible s := by
  refine ⟨by simp [settledAnswers], ?_, fun _ => rfl, fun _ => rfl, fun _ => rfl⟩
  simp only [settledAnswers]
  induction s.children with
  | nil => rfl
  | cons c cs ih =>
    rw [List.map_cons, possibleChildren, ih, Bool.and_true]
    cases hc : c.collected with
    | true => rfl
    | false => simp [ChildAnswer.possible, hc]

/-- A listener belongs to a group. -/
def Grouped (s : ServerState) : Prop := s.eventLoop = none → s.listener = none

lemma Grouped.install (h : s.Grouped) (result : Installed) : (s.install result).Grouped := by
  unfold ServerState.install
  split
  · exact h
  · cases result with
    | noLoader => exact h
    | noGroup => exact h
    | noListener => exact fun hnone => absurd hnone (by simp)
    | listening sync lan => exact fun hnone => absurd hnone (by simp)

lemma Grouped.stopBServer (h : s.Grouped) (a : Answers) : (s.stopBServer a).2.Grouped := by
  simp only [ServerState.stopBServer]
  split
  · exact fun _ => rfl
  · intro hnone
    have hgroup : s.eventLoop = none := by
      simp only [called, requestStop] at hnone
      split at hnone
      · exact Option.map_eq_none_iff.mp hnone
      · exact Option.map_eq_none_iff.mp hnone
    simp [called, requestStop, h hgroup]

end ServerState

/-- In every history a listener belongs to a group. -/
lemma grouped_run {tr : List LifecycleEvent} {s : Lifecycle}
    (hrun : Step.Run Lifecycle.step {} tr s) : s.server.Grouped := by
  refine hrun.invariant (I := fun _ s => s.server.Grouped) (fun _ => rfl) ?_
  rintro - s a s' es hs hstep
  cases a with
  | install result =>
    simp only [Lifecycle.step, Option.ite_none_right_eq_some] at hstep
    cases hstep.2
    exact hs.install result
  | accept =>
    simp only [Lifecycle.step, Option.ite_none_right_eq_some, Lifecycle.outside] at hstep
    cases hstep.2
    exact hs
  | use refs =>
    simp only [Lifecycle.step, Option.ite_none_right_eq_some, Lifecycle.outside] at hstep
    cases hstep.2
    exact hs
  | queueGate =>
    simp only [Lifecycle.step, Option.ite_none_right_eq_some, Lifecycle.outside] at hstep
    cases hstep.2
    exact hs
  | runGate =>
    simp only [Lifecycle.step, Option.ite_none_right_eq_some, Lifecycle.outside] at hstep
    cases hstep.2
    exact hs
  | endLan =>
    cases hstep
    exact hs
  | closeListener =>
    cases hstep
    intro hnone
    change s.server.listener.map _ = none
    rw [hs hnone]
    rfl
  | closeChild k =>
    cases hstep
    exact hs
  | terminate =>
    simp only [Lifecycle.step, Option.ite_none_right_eq_some, Lifecycle.outside] at hstep
    cases hstep.2
    exact fun hnone => absurd hnone (by simp)
  | collect k =>
    cases hstep
    exact hs
  | stop a =>
    simp only [Lifecycle.step, Option.ite_none_right_eq_some] at hstep
    cases hstep.2
    exact hs.stopBServer a

/-- A listener that is still held when its group has terminated can not be closed any more. -/
lemma stuck_of_listener {tr : List LifecycleEvent} {s : Lifecycle}
    (hrun : Step.Run Lifecycle.step {} tr s) (hs : s.server.Settled)
    (hne : s.server.listener ≠ none) {a : Answers} (ha : a.Possible s.server) :
    (s.server.stopBServer a).1 = false := by
  have hgroup : s.server.eventLoop = some .terminated := by
    cases hgroup : s.server.eventLoop with
    | none => exact absurd (grouped_run hrun hgroup) hne
    | some g => rw [hs.eventLoop g hgroup]
  rw [ServerState.stopBServer_fst, ← Bool.not_eq_true]
  intro hsucceeds
  obtain ⟨hlistener, -⟩ := ServerState.succeeds_iff.mp hsucceeds
  exact ha.1 (hlistener.resolve_left hne) hgroup

/-- Once everything has come to rest, the next attempt succeeds and releases everything exactly
when there is no listener to close and the channels of all children have been collected.  A
listener that is still held makes every attempt fail. -/
theorem stopBServer_retry_iff {tr : List LifecycleEvent} {s : Lifecycle}
    (hrun : Step.Run Lifecycle.step {} tr s) (hs : s.server.Settled) :
    ((∀ a, a.Possible s.server →
        (s.server.stopBServer a).1 = true ∧ (s.server.stopBServer a).2.Released) ↔
      s.server.listener = none ∧ ∀ c ∈ s.server.children, c.collected = true) ∧
    (s.server.listener ≠ none → ∀ a, a.Possible s.server → (s.server.stopBServer a).1 = false) := by
  refine ⟨⟨fun h => ?_, ?_⟩, fun hne a ha => stuck_of_listener hrun hs hne ha⟩
  · obtain ⟨hstopped, -⟩ := h _ s.server.settledAnswers_possible
    rw [ServerState.stopBServer_fst] at hstopped
    obtain ⟨hlistener, hchildren, -⟩ := ServerState.succeeds_iff.mp hstopped
    constructor
    · exact hlistener.resolve_right (by simp [ServerState.settledAnswers])
    · intro c hc
      have hclosed := hchildren _ (List.mem_map_of_mem hc)
      by_contra hcollected
      simp [hcollected, ChildAnswer.closed] at hclosed
  · rintro ⟨hlistener, hcollected⟩ a ⟨-, hchildren, hlan, hshutdown, hdrained⟩
    have hsucceeds : s.server.succeeds a = true := by
      refine ServerState.succeeds_iff.mpr ⟨.inl hlistener,
        ServerState.closed_of_collected hchildren hcollected, ?_, ?_, hdrained hs.gateTasks⟩
      · cases hpinger : s.server.lanPinger with
        | none => exact .inl rfl
        | some t => exact .inr (hlan (by rw [hpinger, hs.lanPinger t hpinger]))
      · cases hgroup : s.server.eventLoop with
        | none => exact .inl rfl
        | some g => exact .inr (hshutdown (by rw [hgroup, hs.eventLoop g hgroup]))
    exact ⟨(s.server.stopBServer_fst a).trans hsucceeds,
      ServerState.released_of_succeeds hsucceeds⟩

/-- The bind fails, and the group needs longer to terminate than the first attempt waits. -/
def failedBindActions : List LifecycleAction :=
  [.install .noListener, .stop ⟨true, [], .joined false, false, true⟩, .terminate]

/-- What is left then. -/
def unboundServer : ServerState where
  gateCancelled := true
  eventLoop := some .terminated

theorem stopBServer_retry_test : ∃ s, Step.Run Lifecycle.step {} [.stopped false] s ∧
    s.server.Settled ∧ ∀ a, a.Possible s.server →
      (s.server.stopBServer a).1 = true ∧ (s.server.stopBServer a).2.Released := by
  have hexec : Step.exec Lifecycle.step {} failedBindActions =
      some (⟨unboundServer, false⟩, [.stopped false]) := by decide
  have hrun := Step.run_of_exec hexec
  have hs : unboundServer.Settled :=
    ⟨rfl, by simp [unboundServer], by simp [unboundServer], by simp [unboundServer],
      by simp [unboundServer]⟩
  exact ⟨_, hrun, hs, (stopBServer_retry_iff hrun hs).1.mpr ⟨rfl, by simp [unboundServer]⟩⟩

/-- Everything is closed in time but for a task of Minecraft's main thread, which runs later. -/
def lateGateActions : List LifecycleAction :=
  [.install (.listening true true), .queueGate, .stop ⟨true, [], .joined false, true, false⟩,
    .runGate]

/-- What is left then. -/
def boundServer : ServerState where
  bound := true
  listener := some ⟨false⟩
  eventLoop := some .terminated
  lanPinger := some ⟨false⟩
  gateCancelled := true

/-- The first attempt fails only because a gate task has not run.  When it has, nothing is left to
wait for, and every further attempt fails, because the closed listener is closed again. -/
theorem stopBServer_stuck : ∃ s, Step.Run Lifecycle.step {} [.stopped false] s ∧
    s.server.Settled ∧ ∀ a, a.Possible s.server → (s.server.stopBServer a).1 = false := by
  have hexec : Step.exec Lifecycle.step {} lateGateActions =
      some (⟨boundServer, false⟩, [.stopped false]) := by decide
  have hrun := Step.run_of_exec hexec
  have hs : boundServer.Settled :=
    ⟨rfl, by simp [boundServer], by simp [boundServer], by simp [boundServer],
      by simp [boundServer]⟩
  exact ⟨_, hrun, hs, fun a ha => stuck_of_listener hrun hs (by simp [boundServer]) ha⟩

end Server
end SakuraTools
