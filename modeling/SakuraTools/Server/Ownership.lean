import SakuraTools.Server.Moves

/-!
# Who owns the session

The callbacks of any number of B's channels, from the moment at which they test `stopping` to
their return: `handleClientPacket` reads the state of B before it tests who owns the session, and
`Native_BSide_channelInactive` releases `clientMutex` before it drops what the session has left.
The channels outlive a session; `StopBServer` releases it and `InstallBServer` starts the next.
-/

namespace SakuraTools
namespace Server

/-- What B sends, as far as `handleClientPacket` tells it apart. -/
inductive Received where
  /-- The intention to log in or to ask for the status. -/
  | intention (status : Bool)
  | statusRequest
  | pingRequest
  /-- Any other packet, and whether it tells the name of the player. -/
  | other (hello : Bool) (m : ClientPacket)
deriving DecidableEq, Repr

/-- Where a callback of a channel is, but for `completeLogin`. -/
inductive Callback where
  /-- `handleClientPacket` has loaded `clientState`. -/
  | loaded (m : Received) (state : ClientState)
  /-- The channel was found to own the session. -/
  | owned (hello : Bool) (m : ClientPacket) (state : ClientState)
  /-- `Native_BSide_channelInactive` waits for `dispatchMutex`. -/
  | inactive
  /-- The channel has given up the session and holds `dispatchMutex`. -/
  | released
  /-- What the session has left is dropped. -/
  | closing
deriving DecidableEq, Repr

/-- The callback holds `dispatchMutex`. -/
def Callback.Holds (k : Callback) : Prop := k = .released ∨ k = .closing

/-- How far `StopBServer` has released the session. -/
inductive Stopped where
  | no
  /-- `clientChannel` is released. -/
  | client
  | target
  | midSession
  | yes
deriving DecidableEq, Repr

structure Channels where
  session : Session := {}
  callbacks : List (Channel × Callback) := []
  stopped : Stopped := .no

inductive ChannelAction where
  /-- `Native_BSide_channelRead` and `Native_BSide_channelInactive` are called; `ref` tells whether
  the channel of a packet is found. -/
  | read (c : Channel) (m : Received) (ref : Bool)
  | inactive (c : Channel)
  /-- A callback goes on; `ref` is the result of its next JNI call. -/
  | go (c : Channel) (k : Callback) (ref : Bool)
  /-- `completeLogin` goes on. -/
  | login (c : Channel) (a : Action)
  /-- A's threads and the controller. -/
  | other (a : Action)
  /-- The next section of `StopBServer`. -/
  | release
  /-- `InstallBServer` -/
  | install
deriving DecidableEq, Repr

/-- The channel on whose event loop the action takes place. -/
def ChannelAction.channel : ChannelAction → Option Channel
  | .read c _ _ | .inactive c | .go c _ _ | .login c _ => some c
  | .other _ | .release | .install => none

/-- The action belongs to A's threads or to the controller. -/
def Action.IsOther : Action → Bool
  | .relayRead _ | .relayForward _ | .runTask | .snapshotCheck _ | .snapshotBoundary
  | .snapshotCapture _ | .snapshotPublish | .connectA _ | .disconnectA _ | .captureLive _
  | .startNotConnected | .checkLoginTimeout | .requestStop | .tick => true
  | _ => false

/-- An action of theirs that needs `dispatchMutex`. -/
def Action.locks : Action → Bool
  | .relayRead _ | .relayForward _ | .snapshotBoundary | .checkLoginTimeout => true
  | _ => false

namespace Channels

/-- The event loop of the channel runs a callback. -/
def busy (s : Channels) (c : Channel) : Bool :=
  s.session.busy c || s.callbacks.any fun x => x.1 == c

/-- The callback of the channel returns. -/
def finish (s : Channels) (c : Channel) (session : Session) : Channels :=
  { s with session := session, callbacks := s.callbacks.filter fun x => x.1 != c }

/-- The callback of the channel goes on at `k`. -/
def goto (s : Channels) (c : Channel) (k : Callback) (session : Session) : Channels :=
  { s.finish c session with callbacks := (c, k) :: (s.finish c session).callbacks }

/-- `handleClientPacket` after it has loaded `clientState`, up to the test of the owner.  A session
without an owner needs a reference to the channel. -/
def handle (s : Channels) (c : Channel) (state : ClientState) (ref : Bool) :
    Received → Channels × List Event
  | .intention true | .statusRequest | .pingRequest => (s.finish c s.session, [])
  | .intention false =>
    if s.session.clientChannel = none ∧ ref = false then (s.finish c s.session, [])
    else
      let (session, es) := s.session.intention c
      (s.finish c session, es)
  | .other hello m =>
    if s.session.clientChannel = some c then (s.goto c (.owned hello m state) s.session, [])
    else (s.finish c s.session, [])

/-- `handleClientPacket` for the owner of the session. -/
def handleOwned (s : Channels) (c : Channel) (hello : Bool) (m : ClientPacket)
    (state : ClientState) : Option (Channels × List Event) :=
  if state = .AwaitLogin ∧ hello then
    some (s.finish c (s.session.goto c .greeted),
      [.login c (!s.session.live.isEmpty) s.session.midSession])
  else if s.session.dispatch = none then
    let (session, es) := s.session.handleClientPacket c m
    some (s.finish c session, es)
  else none

/-- `Native_BSide_channelInactive`, with the section of `clientMutex`. -/
def handleInactive (s : Channels) (c : Channel) (ref : Bool) : Option (Channels × List Event) :=
  if s.session.dispatch ≠ none then none
  else if ref ∧ s.session.clientChannel = some c then
    some
      (s.goto c .released
        { s.session with
          clientChannel := none
          clientState := .AwaitHandshake
          dispatch := some (.inactive .decide) },
        [.enter c .AwaitHandshake])
  else some (s.finish c s.session, [])

/-- The callback of a channel goes on. -/
def go (s : Channels) (c : Channel) (ref : Bool) : Callback → Option (Channels × List Event)
  | .loaded m state => some (s.handle c state ref m)
  | .owned hello m state => s.handleOwned c hello m state
  | .inactive => s.handleInactive c ref
  | .released =>
    some (s.goto c .closing { s.session with handoff := s.session.handoff.reset, pending := [] },
      [.reset])
  | .closing =>
    (s.session.closeStep ref).map fun (session, es) =>
      (if session.dispatch = none then s.finish c session else s.goto c .closing session, es)

/-- No callback is running. -/
def Drained (s : Channels) : Prop :=
  s.callbacks = [] ∧ s.session.login = none ∧ s.session.dispatch = none ∧ s.session.render = .idle

instance (s : Channels) : Decidable s.Drained :=
  inferInstanceAs (Decidable (_ ∧ _ ∧ _ ∧ _))

/-- The end of `StopBServer`, when everything is closed. -/
def release (s : Channels) : Option (Channels × List Event) :=
  match s.stopped with
  | .no =>
    if s.session.stopping ∧ s.Drained then
      some
        ({ s with
            session := { s.session with clientChannel := none, clientState := .AwaitHandshake }
            stopped := .client },
          [])
    else none
  | .client =>
    some ({ s with session := { s.session with targetConnection := none }, stopped := .target }, [])
  | .target =>
    some ({ s with session := { s.session with midSession := false }, stopped := .midSession }, [])
  | .midSession =>
    if s.session.dispatch = none then
      some
        ({ s with
            session := { s.session with pending := [], handoff := s.session.handoff.reset }
            stopped := .yes },
          [.reset])
    else none
  | .yes => none

/-- The event loop of a channel runs one callback at a time. -/
def step : Step Channels ChannelAction Event
  | s, .read c m ref =>
    if s.busy c then none
    else if s.session.stopping ∨ ref = false then some (s, [])
    else some (s.goto c (.loaded m s.session.clientState) s.session, [])
  | s, .inactive c =>
    if s.busy c then none
    else if s.session.stopping then some (s, [])
    else some (s.goto c .inactive s.session, [])
  | s, .go c k ref => if (c, k) ∈ s.callbacks then s.go c ref k else none
  | s, .login c a =>
    match s.session.login with
    | some (c', pc) =>
      if c' = c then
        (s.session.loginStep c pc a).map fun (session, es) => ({ s with session := session }, es)
      else none
    | none => none
  | s, .other a =>
    if a.IsOther then
      (Session.step s.session a).map fun (session, es) => ({ s with session := session }, es)
    else none
  | s, .release => s.release
  | s, .install =>
    if s.stopped = .yes then
      some
        ({ s with
            session := { s.session with stopping := false, midSession := false, starting := true }
            stopped := .no },
          [])
    else none

/-- The effects of a step. -/
inductive ChannelMove (s : Channels) : ChannelAction → Channels → List Event → Prop
  | ignoreRead (c : Channel) (m : Received) (ref : Bool) : ChannelMove s (.read c m ref) s []
  | read (c : Channel) (m : Received) (ref : Bool) (hbusy : s.busy c = false)
      (hrunning : s.session.stopping = false) :
      ChannelMove s (.read c m ref) (s.goto c (.loaded m s.session.clientState) s.session) []
  | ignoreInactive (c : Channel) : ChannelMove s (.inactive c) s []
  | inactive (c : Channel) (hbusy : s.busy c = false) (hrunning : s.session.stopping = false) :
      ChannelMove s (.inactive c) (s.goto c .inactive s.session) []
  | go {c : Channel} {k : Callback} {ref : Bool} {s' : Channels} {es : List Event}
      (hc : (c, k) ∈ s.callbacks) (hgo : s.go c ref k = some (s', es)) :
      ChannelMove s (.go c k ref) s' es
  | login {c : Channel} {pc : LoginPc} {a : Action} {σ : Session} {es : List Event}
      (hlogin : s.session.login = some (c, pc))
      (hstep : s.session.loginStep c pc a = some (σ, es)) :
      ChannelMove s (.login c a) { s with session := σ } es
  | other {a : Action} {σ : Session} {es : List Event} (ha : a.IsOther = true)
      (hstep : Session.step s.session a = some (σ, es)) :
      ChannelMove s (.other a) { s with session := σ } es
  | release {s' : Channels} {es : List Event} (hrelease : s.release = some (s', es)) :
      ChannelMove s .release s' es
  | install (hstopped : s.stopped = .yes) :
      ChannelMove s .install
        { s with
            session := { s.session with stopping := false, midSession := false, starting := true }
            stopped := .no }
        []

lemma step_cases {s s' : Channels} {a : ChannelAction} {es : List Event}
    (h : step s a = some (s', es)) : ChannelMove s a s' es := by
  cases a with
  | read c m ref =>
    simp only [step, Option.ite_none_left_eq_some, Bool.not_eq_true] at h
    obtain ⟨hbusy, h⟩ := h
    split at h
    · cases h
      exact .ignoreRead c m ref
    · rename_i hopen
      cases h
      exact .read c m ref hbusy (by simpa using fun hstop => hopen (.inl hstop))
  | inactive c =>
    simp only [step, Option.ite_none_left_eq_some, Bool.not_eq_true] at h
    obtain ⟨hbusy, h⟩ := h
    split at h
    · cases h
      exact .ignoreInactive c
    · rename_i hrunning
      cases h
      exact .inactive c hbusy (by simpa using hrunning)
  | go c k ref =>
    simp only [step, Option.ite_none_right_eq_some] at h
    exact .go h.1 h.2
  | login c a =>
    simp only [step] at h
    split at h
    · rename_i c' pc hlogin
      obtain ⟨rfl, h⟩ := Option.ite_none_right_eq_some.mp h
      obtain ⟨⟨σ, es'⟩, hlog, heq⟩ := Option.map_eq_some_iff.mp h
      cases heq
      exact .login hlogin hlog
    · cases h
  | other a =>
    obtain ⟨ha, h⟩ := Option.ite_none_right_eq_some.mp h
    obtain ⟨⟨σ, es'⟩, hother, heq⟩ := Option.map_eq_some_iff.mp h
    cases heq
    exact .other ha hother
  | release => exact .release h
  | install =>
    simp only [step, Option.ite_none_right_eq_some, Option.some.injEq] at h
    cases h.2
    exact .install h.1

end Channels

/-! ## What the steps leave alone -/

/-- The owner stays, nothing is passed on to A, and what `dispatchMutex` guards stays as long as a
disconnecting channel holds it. -/
structure Session.Keeps (s s' : Session) (es : List Event) : Prop where
  clientChannel : s'.clientChannel = s.clientChannel
  held : ∀ pc, s.dispatch = some (.inactive pc) →
    s'.dispatch = s.dispatch ∧ s'.handoff = s.handoff ∧ s'.pending = s.pending
  routed : ∀ m, .routed m ∉ es

namespace Session

variable {s s' : Session} {es : List Event}

/-- A step that needs `dispatchMutex`. -/
lemma Keeps.of_free (hchannel : s'.clientChannel = s.clientChannel) (hfree : s.dispatch = none)
    (hes : ∀ m, .routed m ∉ es) : Keeps s s' es where
  clientChannel := hchannel
  held pc hheld := by simp [hfree] at hheld
  routed := hes

/-- A step that does not touch what `dispatchMutex` guards. -/
lemma Keeps.of_eq (hchannel : s'.clientChannel = s.clientChannel)
    (hdispatch : s'.dispatch = s.dispatch) (hhandoff : s'.handoff = s.handoff)
    (hpending : s'.pending = s.pending) (hes : ∀ m, .routed m ∉ es) : Keeps s s' es where
  clientChannel := hchannel
  held _ _ := ⟨hdispatch, hhandoff, hpending⟩
  routed := hes

lemma not_routed_of_section {k : Section} (hk : k ≠ .packet) (h : InSection k s s' es)
    (m : ClientPacket) : .routed m ∉ es := by
  intro hm
  have hemits := h.events _ hm
  cases k with
  | packet => exact hk rfl
  | forward | finish | timeout => exact hemits

lemma forwardToB_owner (s : Session) (p : Packet) (ref : Bool) :
    (s.forwardToB p ref).1.clientChannel = s.clientChannel ∧
      (s.forwardToB p ref).1.clientState = s.clientState ∧
      (s.forwardToB p ref).1.login = s.login := by
  rcases s.forwardToB_cases p ref with heq | ⟨c, heq⟩ | ⟨-, -, heq | heq⟩
  all_goals
    rw [heq]
    exact ⟨rfl, rfl, rfl⟩

lemma checkLoginTimeout_owner (s : Session) :
    s.checkLoginTimeout.1.clientChannel = s.clientChannel ∧
      s.checkLoginTimeout.1.clientState = s.clientState ∧
      s.checkLoginTimeout.1.login = s.login := by
  rcases s.checkLoginTimeout_cases with heq | ⟨-, heq⟩
  all_goals
    rw [heq]
    exact ⟨rfl, rfl, rfl⟩

/-- A step that leaves alone what B's callbacks share; the flags are only raised. -/
structure Apart (s s' : Session) (es : List Event) : Prop where
  clientChannel : s'.clientChannel = s.clientChannel
  clientState : s'.clientState = s.clientState
  login : s'.login = s.login
  dispatch : s'.dispatch = s.dispatch
  handoff : s'.handoff = s.handoff
  pending : s'.pending = s.pending
  midSession : s.midSession = true → s'.midSession = true
  stopping : s.stopping = true → s'.stopping = true
  routed : ∀ m, .routed m ∉ es

/-- What A's threads and the controller do to what B's callbacks share. -/
inductive OtherMove (s : Session) : Action → Session → List Event → Prop
  | apart {a : Action} {s' : Session} {es : List Event} (hlocks : a.locks = false)
      (h : Apart s s' es) : OtherMove s a s' es
  | dispatch (p : Packet) (hfree : s.dispatch = none) :
      OtherMove s (.relayRead p)
        { s with dispatch := some (.relay p), queue := s.queue ++ [.packet p] } [.dispatched p]
  | forward (p : Packet) (ref : Bool) (hheld : s.dispatch = some (.relay p)) :
      OtherMove s (.relayForward ref) { (s.forwardToB p ref).1 with dispatch := none }
        (s.forwardToB p ref).2
  | refuse (render : RenderPc) (hfree : s.dispatch = none)
      (hrefuse : s.stopping = true ∨ s.handoff.state ≠ .Capturing) :
      OtherMove s .snapshotBoundary { s with render := render } []
  | boundary (j : JobId) (hfree : s.dispatch = none)
      (hbegin : ¬(s.stopping = true ∨ s.handoff.state ≠ .Capturing)) :
      OtherMove s .snapshotBoundary { s with pending := [], render := .capturing j } [.boundary j]
  | timeout (hfree : s.dispatch = none) :
      OtherMove s .checkLoginTimeout s.checkLoginTimeout.1 s.checkLoginTimeout.2

lemma OtherMove.of_eq {a : Action} {r : Session × List Event} (hr : OtherMove s a r.1 r.2)
    (h : r = (s', es)) : OtherMove s a s' es := by
  subst h
  exact hr

lemma otherMove_of_snapshotBoundary (h : s.snapshotBoundary = some (s', es)) :
    OtherMove s .snapshotBoundary s' es := by
  simp only [snapshotBoundary] at h
  split at h
  · rename_i hfree
    by_cases hb : s.stopping = true ∨ s.handoff.state ≠ .Capturing
    · have hbegin : s.beginSnapshot = (false, s) := if_pos hb
      simp only [hbegin] at h
      cases h
      exact .refuse _ hfree hb
    · have hbegin : s.beginSnapshot = (true, s.clearPendingPackets) := if_neg hb
      simp only [hbegin] at h
      cases h
      exact .boundary _ hfree hb
  · cases h

lemma otherMove_of_step {a : Action} (ha : a.IsOther = true) (h : step s a = some (s', es)) :
    OtherMove s a s' es := by
  cases a with
  | relayRead p =>
    simp only [step, relayRead, Option.ite_none_right_eq_some, Option.some.injEq] at h
    obtain ⟨⟨hfree, -⟩, heq⟩ := h
    cases heq
    exact .dispatch p hfree
  | relayForward ref =>
    simp only [step, relayForward] at h
    split at h
    · rename_i p hheld
      exact (OtherMove.forward p ref hheld).of_eq (Option.some.inj h)
    · cases h
  | snapshotBoundary => exact otherMove_of_snapshotBoundary h
  | checkLoginTimeout =>
    simp only [step, Option.ite_none_right_eq_some, Option.some.injEq] at h
    exact (OtherMove.timeout h.1).of_eq h.2
  -- the others take no lock
  | runTask =>
    refine .apart rfl ?_
    simp only [step, runTask] at h
    split at h
    · cases h
      exact ⟨rfl, rfl, rfl, rfl, rfl, rfl, id, id, by simp⟩
    · split at h
      all_goals
        cases h
        exact ⟨rfl, rfl, rfl, rfl, rfl, rfl, id, id, by simp⟩
    · cases h
  | snapshotCheck callback =>
    refine .apart rfl ?_
    simp only [step, snapshotCheck] at h
    split at h
    · split at h
      all_goals
        cases h
        exact ⟨rfl, rfl, rfl, rfl, rfl, rfl, id, id, by simp⟩
    · cases h
  | snapshotCapture ok =>
    refine .apart rfl ?_
    simp only [step, snapshotCapture] at h
    split at h
    · cases h
      exact ⟨rfl, rfl, rfl, rfl, rfl, rfl, id, id, by cases ok <;> simp⟩
    · cases h
  | snapshotPublish =>
    refine .apart rfl ?_
    simp only [step, snapshotPublish] at h
    split at h
    · cases h
      exact ⟨rfl, rfl, rfl, rfl, rfl, rfl, id, id, by simp⟩
    · cases h
  | connectA k =>
    simp only [step, Option.ite_none_left_eq_some, Option.some.injEq] at h
    cases h.2
    exact .apart rfl ⟨rfl, rfl, rfl, rfl, rfl, rfl, id, id, by simp⟩
  | captureLive k =>
    simp only [step, Option.ite_none_right_eq_some, Option.some.injEq] at h
    cases h.2
    exact .apart rfl ⟨rfl, rfl, rfl, rfl, rfl, rfl, fun _ => rfl, id, by simp⟩
  | startNotConnected =>
    simp only [step, Option.ite_none_right_eq_some, Option.some.injEq] at h
    cases h.2
    exact .apart rfl ⟨rfl, rfl, rfl, rfl, rfl, rfl, id, id, by simp⟩
  | requestStop =>
    cases h
    exact .apart rfl ⟨rfl, rfl, rfl, rfl, rfl, rfl, id, fun _ => rfl, by simp⟩
  | disconnectA k | tick =>
    cases h
    exact .apart rfl ⟨rfl, rfl, rfl, rfl, rfl, rfl, id, id, by simp⟩
  | _ => cases ha

/-- A's threads and the controller have no part in who owns the session. -/
lemma keeps_of_isOther {a : Action} (ha : a.IsOther = true)
    (h : step s a = some (s', es)) :
    Keeps s s' es ∧ s'.clientState = s.clientState ∧ s'.login = s.login := by
  cases otherMove_of_step ha h with
  | apart _ h =>
    exact ⟨.of_eq h.clientChannel h.dispatch h.handoff h.pending h.routed, h.clientState, h.login⟩
  | dispatch p hfree => exact ⟨.of_free rfl hfree (by simp), rfl, rfl⟩
  | forward p ref hheld =>
    obtain ⟨hchannel, hstate, hlogin⟩ := s.forwardToB_owner p ref
    have hes := not_routed_of_section (by simp) (s.forwardToB_section p ref)
    refine ⟨⟨hchannel, ?_, hes⟩, hstate, hlogin⟩
    intro pc hpc
    simp [hheld] at hpc
  | refuse render hfree => exact ⟨.of_free rfl hfree (by simp), rfl, rfl⟩
  | boundary j hfree => exact ⟨.of_free rfl hfree (by simp), rfl, rfl⟩
  | timeout hfree =>
    obtain ⟨hchannel, hstate, hlogin⟩ := s.checkLoginTimeout_owner
    have hes := not_routed_of_section (by simp) s.checkLoginTimeout_section
    exact ⟨.of_free hchannel hfree hes, hstate, hlogin⟩

/-- What a step of the login of the owner does. -/
structure LoginKeeps (c : Channel) (s s' : Session) (es : List Event) : Prop
    extends Keeps s s' es where
  clientState : s'.clientState = s.clientState ∨ s'.clientState ≠ .AwaitHandshake
  login : s'.login = none ∨ ∃ pc, s'.login = some (c, pc)

/-- The login goes on without touching what is shared. -/
lemma loginKeeps_of_eq {c : Channel} (hchannel : s'.clientChannel = s.clientChannel)
    (hdispatch : s'.dispatch = s.dispatch) (hhandoff : s'.handoff = s.handoff)
    (hpending : s'.pending = s.pending) (hstate : s'.clientState = s.clientState)
    (hlogin : s'.login = none ∨ ∃ pc, s'.login = some (c, pc)) : LoginKeeps c s s' [] where
  toKeeps := .of_eq hchannel hdispatch hhandoff hpending (by simp)
  clientState := .inl hstate
  login := hlogin

lemma loginKeeps_goto {c : Channel} (pc : LoginPc) : LoginKeeps c s (s.goto c pc) [] :=
  loginKeeps_of_eq rfl rfl rfl rfl rfl (.inr ⟨pc, rfl⟩)

lemma loginKeeps_finish {c : Channel} (howner : s.clientChannel = some c)
    (hlogin : s.login = none) (hfree : s.dispatch = none) :
    LoginKeeps c s (s.finishMidSession c).1 (s.finishMidSession c).2 := by
  have hes := not_routed_of_section (by simp) (s.finishMidSession_section c)
  rcases finishMidSession_cases howner with heq | ⟨-, heq⟩ | ⟨-, -, heq⟩
  · rw [heq] at hes ⊢
    exact ⟨.of_free rfl hfree hes, .inl rfl, .inl hlogin⟩
  · rw [heq] at hes ⊢
    exact ⟨.of_free rfl hfree hes, .inl rfl, .inl hlogin⟩
  · rw [heq] at hes ⊢
    exact ⟨.of_free rfl hfree hes, .inr (by simp), .inl hlogin⟩

lemma loginKeeps_of_loginStep {c : Channel} {pc : LoginPc} {a : Action}
    (howner : s.clientChannel = some c) (h : s.loginStep c pc a = some (s', es)) :
    LoginKeeps c s s' es := by
  cases loginStep_cases h with
  | leave => exact loginKeeps_of_eq rfl rfl rfl rfl rfl (.inl rfl)
  | go => exact loginKeeps_goto _
  | begin hfree => exact ⟨.of_free rfl hfree (by simp), .inr (by simp), .inr ⟨_, rfl⟩⟩
  | list => exact loginKeeps_of_eq rfl rfl rfl rfl rfl (.inr ⟨_, rfl⟩)
  | execute j => exact ⟨.of_eq rfl rfl rfl rfl (by simp), .inl rfl, .inr ⟨_, rfl⟩⟩
  | cancel j => exact loginKeeps_of_eq rfl rfl rfl rfl rfl (.inr ⟨_, rfl⟩)
  | remove j => exact loginKeeps_of_eq rfl rfl rfl rfl rfl (.inr ⟨_, rfl⟩)
  | writeFailed hfree => exact ⟨.of_free rfl hfree (by simp), .inl rfl, .inr ⟨_, rfl⟩⟩
  | finishMid hfree =>
    have hkeeps := loginKeeps_finish (s := { s with login := none }) howner rfl hfree
    exact { hkeeps with held := by simp [hfree] }
  | finishPlay => exact ⟨.of_eq rfl rfl rfl rfl (by simp), .inr (by simp), .inl rfl⟩

/-- A packet that is passed on to A. -/
lemma routed_of_handleClientPacket {c : Channel} {m m' : ClientPacket}
    (h : .routed m' ∈ (s.handleClientPacket c m).2) :
    m' = m ∧ s.clientState = .Play ∧ PacketPolicy.allowFromB m.cls = true := by
  rcases s.handleClientPacket_cases c m with heq | ⟨-, hplay, heq⟩ | ⟨-, -, heq⟩ | ⟨-, heq⟩
  · simp [heq] at h
  · rw [heq] at h
    cases List.mem_singleton.mp h
    exact ⟨rfl, hplay⟩
  · simp [heq] at h
  · simp [heq] at h

lemma handleClientPacket_owner (s : Session) (c : Channel) (m : ClientPacket) :
    (s.handleClientPacket c m).1.clientChannel = s.clientChannel ∧
      (s.handleClientPacket c m).1.dispatch = s.dispatch ∧
      (s.handleClientPacket c m).1.login = s.login ∧
      ((s.handleClientPacket c m).1.clientState = s.clientState ∨
        (s.handleClientPacket c m).1.clientState ≠ .AwaitHandshake) := by
  rcases s.handleClientPacket_cases c m with heq | ⟨-, -, heq⟩ | ⟨-, -, heq⟩ | ⟨-, heq⟩
  · rw [heq]
    exact ⟨rfl, rfl, rfl, .inl rfl⟩
  · rw [heq]
    exact ⟨rfl, rfl, rfl, .inl rfl⟩
  · rw [heq]
    exact ⟨rfl, rfl, rfl, .inr (by simp)⟩
  · rw [heq]
    exact ⟨rfl, rfl, rfl, .inl rfl⟩

/-- The rest of `Native_BSide_channelInactive` leaves the session alone. -/
lemma closeStep_owner {hasChannel : Bool} (h : s.closeStep hasChannel = some (s', es)) :
    s'.clientChannel = s.clientChannel ∧ s'.clientState = s.clientState ∧ s'.login = s.login ∧
      s'.handoff = s.handoff ∧ s'.pending = s.pending ∧ es = [] ∧
      (s'.dispatch = none ∨ ∃ pc, s'.dispatch = some (.inactive pc)) := by
  simp only [closeStep] at h
  split at h
  · split at h
    · cases h
      exact ⟨rfl, rfl, rfl, rfl, rfl, rfl, .inl rfl⟩
    · cases h
      exact ⟨rfl, rfl, rfl, rfl, rfl, rfl, .inr ⟨_, rfl⟩⟩
  · split at h
    · cases h
      exact ⟨rfl, rfl, rfl, rfl, rfl, rfl, .inl rfl⟩
    · cases h
      exact ⟨rfl, rfl, rfl, rfl, rfl, rfl, .inr ⟨_, rfl⟩⟩
  · split at h
    · cases h
      exact ⟨rfl, rfl, rfl, rfl, rfl, rfl, .inr ⟨_, rfl⟩⟩
    · cases h
      exact ⟨rfl, rfl, rfl, rfl, rfl, rfl, .inl rfl⟩
  · cases h
    exact ⟨rfl, rfl, rfl, rfl, rfl, rfl, .inl rfl⟩
  · cases h

end Session

/-! ## The owner -/

lemma owner_ne {o : Option Channel} {c d : Channel} (ho : o = some c) (hd : d ≠ c) :
    o ≠ some d := by
  rw [ho]
  intro heq
  exact hd (Option.some.inj heq).symm

lemma Session.busy_eq_false {s : Session} {c : Channel} :
    s.busy c = false ↔ ∀ pc, s.login ≠ some (c, pc) := by
  cases hlogin : s.login with
  | none => simp [busy, hlogin]
  | some l => simp [busy, hlogin, Prod.ext_iff]

namespace Channels

variable {s s' : Channels} {es : List Event}

@[simp] lemma mem_finish {c : Channel} {σ : Session} {x : Channel × Callback} :
    x ∈ (s.finish c σ).callbacks ↔ x ∈ s.callbacks ∧ x.1 ≠ c := by
  simp [finish]

@[simp] lemma mem_goto {c : Channel} {k : Callback} {σ : Session} {x : Channel × Callback} :
    x ∈ (s.goto c k σ).callbacks ↔ x = (c, k) ∨ x ∈ s.callbacks ∧ x.1 ≠ c := by
  simp [goto, finish]

/-- The state of B says whether the session has an owner, only the owner logs in or is past the
test of the owner, and one callback at most holds `dispatchMutex`. -/
structure Owned (s : Channels) : Prop where
  state : s.session.clientState = .AwaitHandshake ↔ s.session.clientChannel = none
  login : ∀ c pc, s.session.login = some (c, pc) → s.session.clientChannel = some c
  owned : ∀ c hello m state, (c, .owned hello m state) ∈ s.callbacks →
    s.session.clientChannel = some c
  idle : ∀ x ∈ s.callbacks, s.session.busy x.1 = false
  held : ∀ x ∈ s.callbacks, x.2.Holds → ∃ pc, s.session.dispatch = some (.inactive pc)
  one : ∀ x ∈ s.callbacks, ∀ y ∈ s.callbacks, x.2.Holds → y.2.Holds → x = y

/-- A channel may leave its callback in a session that is still one for every other channel. -/
structure Passes (s : Channels) (c : Channel) (σ : Session) : Prop where
  state : σ.clientState = .AwaitHandshake ↔ σ.clientChannel = none
  login : ∀ d pc, σ.login = some (d, pc) → σ.clientChannel = some d
  owner : ∀ d, d ≠ c → s.session.clientChannel = some d → σ.clientChannel = some d
  idle : ∀ d, d ≠ c → s.session.busy d = false → σ.busy d = false
  held : ∀ x ∈ s.callbacks, x.1 ≠ c → x.2.Holds → ∃ pc, σ.dispatch = some (.inactive pc)

lemma Owned.passes (h : s.Owned) (c : Channel) : s.Passes c s.session where
  state := h.state
  login := h.login
  owner _ _ howner := howner
  idle _ _ hidle := hidle
  held x hx _ hholds := h.held x hx hholds

lemma Owned.finish (h : s.Owned) {c : Channel} {σ : Session} (hσ : s.Passes c σ) :
    (s.finish c σ).Owned where
  state := hσ.state
  login := hσ.login
  owned d hello m state hd := by
    rw [mem_finish] at hd
    exact hσ.owner d hd.2 (h.owned d hello m state hd.1)
  idle x hx := by
    rw [mem_finish] at hx
    exact hσ.idle x.1 hx.2 (h.idle x hx.1)
  held x hx hholds := by
    rw [mem_finish] at hx
    exact hσ.held x hx.1 hx.2 hholds
  one x hx y hy hholds hholds' := by
    rw [mem_finish] at hx hy
    exact h.one x hx.1 y hy.1 hholds hholds'

lemma Owned.goto (h : s.Owned) {c : Channel} {k : Callback} {σ : Session} (hσ : s.Passes c σ)
    (hidle : σ.busy c = false)
    (howned : ∀ hello m state, k = .owned hello m state → σ.clientChannel = some c)
    (hheld : k.Holds → (∃ pc, σ.dispatch = some (.inactive pc)) ∧
      ∀ x ∈ s.callbacks, x.1 ≠ c → ¬ x.2.Holds) : (s.goto c k σ).Owned where
  state := hσ.state
  login := hσ.login
  owned d hello m state hd := by
    rw [mem_goto] at hd
    rcases hd with heq | hd
    · cases heq
      exact howned hello m state rfl
    · exact (h.finish hσ).owned d hello m state (mem_finish.mpr hd)
  idle x hx := by
    rw [mem_goto] at hx
    rcases hx with rfl | hx
    · exact hidle
    · exact (h.finish hσ).idle x (mem_finish.mpr hx)
  held x hx hholds := by
    rw [mem_goto] at hx
    rcases hx with rfl | hx
    · exact (hheld hholds).1
    · exact (h.finish hσ).held x (mem_finish.mpr hx) hholds
  one x hx y hy hholds hholds' := by
    rw [mem_goto] at hx hy
    rcases hx with rfl | hx
    · rcases hy with rfl | hy
      · rfl
      · exact absurd hholds' ((hheld hholds).2 y hy.1 hy.2)
    · rcases hy with rfl | hy
      · exact absurd hholds ((hheld hholds').2 x hx.1 hx.2)
      · exact h.one x hx.1 y hy.1 hholds hholds'

/-- A step of a thread that leaves the callbacks alone. -/
lemma Owned.keeps (h : s.Owned) {σ : Session} (hkeeps : Session.Keeps s.session σ es)
    (hstate : σ.clientState = .AwaitHandshake ↔ s.session.clientChannel = none)
    (hlogin : ∀ c pc, σ.login = some (c, pc) → ∃ pc', s.session.login = some (c, pc')) :
    Owned { s with session := σ } where
  state := by
    rw [hkeeps.clientChannel]
    exact hstate
  login c pc hpc := by
    obtain ⟨pc', hpc'⟩ := hlogin c pc hpc
    exact hkeeps.clientChannel.trans (h.login c pc' hpc')
  owned c hello m state hc := hkeeps.clientChannel.trans (h.owned c hello m state hc)
  idle x hx := by
    refine Session.busy_eq_false.mpr ?_
    intro pc hpc
    obtain ⟨pc', hpc'⟩ := hlogin x.1 pc hpc
    exact Session.busy_eq_false.mp (h.idle x hx) pc' hpc'
  held x hx hholds := by
    obtain ⟨pc, hpc⟩ := h.held x hx hholds
    exact ⟨pc, (hkeeps.held pc hpc).1.trans hpc⟩
  one := h.one

/-- What a callback of `c` does to the session of another channel, and what it may drop. -/
structure Respects (s : Channels) (c : Channel) (k : Callback) (s' : Channels) (es : List Event) :
    Prop where
  owner : ∀ d, d ≠ c → s.session.clientChannel = some d →
    s'.session.clientChannel = some d ∧ s'.session.clientState = s.session.clientState
  dropped : k = .released ∨ (s.session.clientChannel = some c ∧ s.session.dispatch = none) ∨
    s'.session.handoff = s.session.handoff ∧ s'.session.pending = s.session.pending
  routed : ∀ m, .routed m ∈ es → (∃ hello state, k = .owned hello m state) ∧
    s.session.clientChannel = some c ∧ s.session.clientState = .Play ∧
      PacketPolicy.allowFromB m.cls = true

lemma respects_of_eq {c : Channel} {k : Callback} (h : s'.session = s.session) :
    Respects s c k s' [] where
  owner d _ howner := by
    rw [h]
    exact ⟨howner, rfl⟩
  dropped := by
    rw [h]
    exact .inr (.inr ⟨rfl, rfl⟩)
  routed := by simp

lemma handle_respects (h : s.Owned) {c : Channel} {m : Received} {state : ClientState}
    (hc : (c, .loaded m state) ∈ s.callbacks) (ref : Bool) :
    (s.handle c state ref m).1.Owned ∧
      Respects s c (.loaded m state) (s.handle c state ref m).1 (s.handle c state ref m).2 := by
  have hreturn : (s.finish c s.session).Owned ∧
      Respects s c (.loaded m state) (s.finish c s.session) [] :=
    ⟨h.finish (h.passes c), respects_of_eq rfl⟩
  cases m with
  | statusRequest => exact hreturn
  | pingRequest => exact hreturn
  | intention status =>
    cases status with
    | true => exact hreturn
    | false =>
      simp only [handle, Session.intention]
      split
      · exact hreturn
      · split
        · rename_i howner
          have honly (d : Channel) (hd : s.session.clientChannel = some d) : d = c := by
            rw [hd] at howner
            exact Option.some.inj (howner.resolve_left (by simp))
          refine ⟨h.finish ⟨by simp, ?_, ?_, fun d _ hidle => hidle, fun x hx _ => h.held x hx⟩,
            ⟨?_, .inr (.inr ⟨rfl, rfl⟩), by simp⟩⟩
          · intro d pc hpc
            rw [honly d (h.login d pc hpc)]
          · intro d hd hdowner
            exact absurd (honly d hdowner) hd
          · intro d hd hdowner
            exact absurd (honly d hdowner) hd
        · exact hreturn
  | other hello m =>
    simp only [handle]
    split
    · rename_i howner
      refine ⟨h.goto (h.passes c) (h.idle _ hc) (fun _ _ _ _ => howner) ?_, respects_of_eq rfl⟩
      intro hholds
      simp [Callback.Holds] at hholds
    · exact hreturn

lemma handleOwned_respects (h : s.Owned) {c : Channel} {hello : Bool} {m : ClientPacket}
    {state : ClientState} (hc : (c, .owned hello m state) ∈ s.callbacks)
    (hstep : s.handleOwned c hello m state = some (s', es)) :
    s'.Owned ∧ Respects s c (.owned hello m state) s' es := by
  have howner := h.owned c hello m state hc
  simp only [handleOwned] at hstep
  split at hstep
  · cases hstep
    refine ⟨h.finish ⟨h.state, ?_, fun d _ hd => hd, ?_, fun x hx _ => h.held x hx⟩, ?_⟩
    · intro d pc hpc
      cases hpc
      exact howner
    · intro d hd _
      refine Session.busy_eq_false.mpr ?_
      intro pc hpc
      cases hpc
      exact hd rfl
    · exact ⟨fun d hd hdowner => absurd hdowner (owner_ne howner hd), .inr (.inr ⟨rfl, rfl⟩),
        by simp⟩
  · split at hstep
    · rename_i hfree
      obtain ⟨hchannel, hdispatch, hlogin, hstate⟩ := s.session.handleClientPacket_owner c m
      cases hstep
      refine ⟨h.finish ⟨?_, ?_, ?_, ?_, ?_⟩, ⟨?_, .inr (.inl ⟨howner, hfree⟩), ?_⟩⟩
      · rw [hchannel]
        rcases hstate with hstate | hstate
        · rw [hstate]
          exact h.state
        · simp [hstate, howner]
      · intro d pc hpc
        rw [hlogin] at hpc
        rw [hchannel]
        exact h.login d pc hpc
      · intro d hd hdowner
        exact absurd hdowner (owner_ne howner hd)
      · intro d _ hidle
        rw [Session.busy, hlogin]
        exact hidle
      · intro x hx _ hholds
        rw [hdispatch]
        exact h.held x hx hholds
      · intro d hd hdowner
        exact absurd hdowner (owner_ne howner hd)
      · intro m' hm'
        obtain ⟨rfl, hplay, hallow⟩ := Session.routed_of_handleClientPacket hm'
        exact ⟨⟨hello, state, rfl⟩, howner, hplay, hallow⟩
    · cases hstep

lemma handleInactive_respects (h : s.Owned) {c : Channel} {ref : Bool}
    (hc : (c, .inactive) ∈ s.callbacks) (hstep : s.handleInactive c ref = some (s', es)) :
    s'.Owned ∧ Respects s c .inactive s' es := by
  simp only [handleInactive] at hstep
  split at hstep
  · cases hstep
  · rename_i hfree
    rw [not_not] at hfree
    have hnone (x : Channel × Callback) (hx : x ∈ s.callbacks) : ¬ x.2.Holds := by
      intro hholds
      obtain ⟨pc, hpc⟩ := h.held x hx hholds
      simp [hfree] at hpc
    split at hstep
    · rename_i howner
      cases hstep
      refine ⟨h.goto ⟨by simp, ?_, ?_, fun d _ hidle => hidle, ?_⟩ (h.idle _ hc) (by simp) ?_,
        ⟨?_, .inr (.inr ⟨rfl, rfl⟩), by simp⟩⟩
      -- the owner does not log in while it runs this callback
      · intro d pc hpc
        by_cases hd : d = c
        · subst hd
          exact absurd hpc (Session.busy_eq_false.mp (h.idle _ hc) pc)
        · exact absurd (h.login d pc hpc) (owner_ne howner.2 hd)
      · intro d hd hdowner
        exact absurd hdowner (owner_ne howner.2 hd)
      · intro x hx _ hholds
        exact absurd hholds (hnone x hx)
      · intro _
        exact ⟨⟨_, rfl⟩, fun x hx _ => hnone x hx⟩
      · intro d hd hdowner
        exact absurd hdowner (owner_ne howner.2 hd)
    · cases hstep
      exact ⟨h.finish (h.passes c), respects_of_eq rfl⟩

/-- No other callback holds `dispatchMutex`. -/
lemma Owned.holds_unique (h : s.Owned) {c : Channel} {k : Callback} (hc : (c, k) ∈ s.callbacks)
    (hk : k.Holds) {x : Channel × Callback} (hx : x ∈ s.callbacks) (hne : x.1 ≠ c) :
    ¬ x.2.Holds := by
  intro hholds
  have heq := h.one x hx (c, k) hc hholds hk
  exact hne (congrArg Prod.fst heq)

lemma go_respects (h : s.Owned) {c : Channel} {k : Callback} {ref : Bool}
    (hc : (c, k) ∈ s.callbacks) (hstep : s.go c ref k = some (s', es)) :
    s'.Owned ∧ Respects s c k s' es := by
  cases k with
  | loaded m state =>
    have hrespects := handle_respects h hc ref
    rw [Option.some.inj hstep] at hrespects
    exact hrespects
  | owned hello m state => exact handleOwned_respects h hc hstep
  | inactive => exact handleInactive_respects h hc hstep
  | released =>
    cases hstep
    refine ⟨h.goto ?_ (h.idle _ hc) (by simp) ?_, ⟨fun d _ hd => ⟨hd, rfl⟩, .inl rfl, by simp⟩⟩
    · exact { h.passes c with }
    · intro _
      exact ⟨h.held _ hc (.inl rfl), fun x hx hne => h.holds_unique hc (.inl rfl) hx hne⟩
  | closing =>
    obtain ⟨⟨σ, es'⟩, hclose, heq⟩ := Option.map_eq_some_iff.mp hstep
    obtain ⟨hchannel, hstate, hlogin, hhandoff, hpending, rfl, hdispatch⟩ :=
      Session.closeStep_owner hclose
    have hpasses : s.Passes c σ := by
      refine ⟨?_, ?_, ?_, ?_, ?_⟩
      · rw [hstate, hchannel]
        exact h.state
      · rw [hlogin, hchannel]
        exact h.login
      · intro d _ hd
        rw [hchannel]
        exact hd
      · intro d _ hidle
        rw [Session.busy, hlogin]
        exact hidle
      · intro x hx hne hholds
        exact absurd hholds (h.holds_unique hc (.inr rfl) hx hne)
    have hrespects (t : Channels) (ht : t.session = σ) : Respects s c .closing t [] := by
      refine ⟨?_, .inr (.inr ?_), by simp⟩
      · intro d _ hd
        rw [ht, hchannel, hstate]
        exact ⟨hd, rfl⟩
      · rw [ht]
        exact ⟨hhandoff, hpending⟩
    simp only [Prod.mk.injEq] at heq
    obtain ⟨rfl, rfl⟩ := heq
    split
    · exact ⟨h.finish hpasses, hrespects _ rfl⟩
    · rename_i hheld
      have hidle : σ.busy c = false := by
        rw [Session.busy, hlogin]
        exact h.idle _ hc
      refine ⟨h.goto hpasses hidle (by simp) ?_, hrespects _ rfl⟩
      intro _
      exact ⟨hdispatch.resolve_left hheld,
        fun x hx hne => h.holds_unique hc (.inr rfl) hx hne⟩

/-! ## Every step -/

/-- A step in a session with one owner. -/
structure OneOwner (s : Channels) (a : ChannelAction) (s' : Channels) (es : List Event) : Prop where
  /-- Another channel has no part in the session, but for what its own session has left. -/
  foreign : ∀ c d, a.channel = some c → s.session.clientChannel = some d → d ≠ c →
    s'.session.clientChannel = some d ∧ s'.session.clientState = s.session.clientState ∧
      (∀ m, .routed m ∉ es) ∧
      ((c, .released) ∉ s.callbacks →
        s'.session.handoff = s.session.handoff ∧ s'.session.pending = s.session.pending)
  /-- What a session has left stays as it is until its channel drops it. -/
  left : ∀ c, (c, .released) ∈ s.callbacks → a.channel ≠ some c →
    s'.session.handoff = s.session.handoff ∧ s'.session.pending = s.session.pending
  /-- Only what the owner sends reaches A. -/
  routed : ∀ m, .routed m ∈ es → ∃ c hello state ref, a = .go c (.owned hello m state) ref ∧
    s.session.clientChannel = some c ∧ s.session.clientState = .Play ∧
      PacketPolicy.allowFromB m.cls = true

/-- Nothing of the session changes. -/
lemma oneOwner_of_eq {a : ChannelAction} (hsession : s'.session = s.session) :
    OneOwner s a s' [] where
  foreign c d _ howner _ := by
    rw [hsession]
    exact ⟨howner, rfl, by simp, fun _ => ⟨rfl, rfl⟩⟩
  left c _ _ := by
    rw [hsession]
    exact ⟨rfl, rfl⟩
  routed := by simp

/-- The step does not belong to a channel. -/
lemma oneOwner_of_none {a : ChannelAction} (ha : a.channel = none)
    (hleft : ∀ c, (c, .released) ∈ s.callbacks →
      s'.session.handoff = s.session.handoff ∧ s'.session.pending = s.session.pending)
    (hes : ∀ m, .routed m ∉ es) : OneOwner s a s' es where
  foreign c d hc := by simp [ha] at hc
  left c hc _ := hleft c hc
  routed m hm := absurd hm (hes m)

lemma Owned.start : Owned { session := { starting := true } } where
  state := by simp
  login := by simp
  owned := by simp
  idle := by simp
  held := by simp
  one := by simp

/-- A channel that does not own the session has a callback at the start of which nothing of the
session changes. -/
lemma Owned.call (h : s.Owned) {c : Channel} {k : Callback} (hbusy : s.busy c = false)
    (hk : ¬ k.Holds) (howned : ∀ hello m state, k ≠ .owned hello m state) :
    (s.goto c k s.session).Owned := by
  rw [busy, Bool.or_eq_false_iff] at hbusy
  refine h.goto (h.passes c) hbusy.1 ?_ ?_
  · intro hello m state heq
    exact absurd heq (howned hello m state)
  · intro hholds
    exact absurd hholds hk

lemma go_oneOwner (h : s.Owned) {c : Channel} {k : Callback} {ref : Bool}
    (hc : (c, k) ∈ s.callbacks) (hrespects : Respects s c k s' es) :
    OneOwner s (.go c k ref) s' es where
  foreign c' d hc' howner hd := by
    cases hc'
    obtain ⟨howner', hstate⟩ := hrespects.owner d hd howner
    have hother : s.session.clientChannel ≠ some c := owner_ne howner hd.symm
    refine ⟨howner', hstate, ?_, ?_⟩
    · intro m hm
      exact hother (hrespects.routed m hm).2.1
    · intro hreleased
      rcases hrespects.dropped with hk | hk | hk
      · subst hk
        exact absurd hc hreleased
      · exact absurd hk.1 hother
      · exact hk
  left c' hc' hne := by
    rcases hrespects.dropped with hk | hk | hk
    · subst hk
      have heq := h.one _ hc _ hc' (.inl rfl) (.inl rfl)
      exact absurd (congrArg (fun x : Channel × Callback => some x.1) heq) hne
    · obtain ⟨pc, hpc⟩ := h.held _ hc' (.inl rfl)
      simp [hk.2] at hpc
    · exact hk
  routed m hm := by
    obtain ⟨⟨hello, state, rfl⟩, howner, hplay, hallow⟩ := hrespects.routed m hm
    exact ⟨c, hello, state, ref, rfl, howner, hplay, hallow⟩

lemma release_oneOwner (h : s.Owned) (hstep : s.release = some (s', es)) :
    s'.Owned ∧ OneOwner s .release s' es := by
  simp only [release] at hstep
  split at hstep
  · split at hstep
    · rename_i hdrained
      obtain ⟨-, hcallbacks, hlogin, -⟩ := hdrained
      cases hstep
      refine ⟨?_, oneOwner_of_none rfl (fun c _ => ⟨rfl, rfl⟩) (by simp)⟩
      constructor <;> simp [hcallbacks, hlogin]
    · cases hstep
  · cases hstep
    exact ⟨{ h with }, oneOwner_of_none rfl (fun c _ => ⟨rfl, rfl⟩) (by simp)⟩
  · cases hstep
    exact ⟨{ h with }, oneOwner_of_none rfl (fun c _ => ⟨rfl, rfl⟩) (by simp)⟩
  · split at hstep
    · rename_i hfree
      cases hstep
      refine ⟨{ h with }, oneOwner_of_none rfl ?_ (by simp)⟩
      intro c hc
      obtain ⟨pc, hpc⟩ := h.held _ hc (.inl rfl)
      simp [hfree] at hpc
    · cases hstep
  · cases hstep

lemma login_oneOwner (h : s.Owned) {c : Channel} {pc : LoginPc} {a : Action} {σ : Session}
    (hlogin : s.session.login = some (c, pc))
    (hstep : s.session.loginStep c pc a = some (σ, es)) :
    Owned { s with session := σ } ∧ OneOwner s (.login c a) { s with session := σ } es := by
  have howner := h.login c pc hlogin
  have hkeeps := Session.loginKeeps_of_loginStep howner hstep
  constructor
  · refine h.keeps hkeeps.toKeeps ?_ ?_
    · rcases hkeeps.clientState with hstate | hstate
      · rw [hstate]
        exact h.state
      · simp [hstate, howner]
    · intro c' pc' hpc'
      rcases hkeeps.login with hnone | ⟨pc'', hpc''⟩
      · simp [hnone] at hpc'
      · rw [hpc''] at hpc'
        cases hpc'
        exact ⟨pc, hlogin⟩
  · refine ⟨?_, ?_, fun m hm => absurd hm (hkeeps.routed m)⟩
    · intro c' d hc' hd hne
      cases hc'
      rw [howner] at hd
      exact absurd (Option.some.inj hd).symm hne
    · intro c' hc' _
      obtain ⟨pc', hpc'⟩ := h.held _ hc' (.inl rfl)
      exact (hkeeps.held pc' hpc').2

lemma other_oneOwner (h : s.Owned) {a : Action} {σ : Session} (ha : a.IsOther = true)
    (hstep : Session.step s.session a = some (σ, es)) :
    Owned { s with session := σ } ∧ OneOwner s (.other a) { s with session := σ } es := by
  obtain ⟨hkeeps, hstate, hlogin⟩ := Session.keeps_of_isOther ha hstep
  constructor
  · refine h.keeps hkeeps ?_ ?_
    · rw [hstate]
      exact h.state
    · intro c pc hpc
      rw [hlogin] at hpc
      exact ⟨pc, hpc⟩
  · refine oneOwner_of_none rfl ?_ hkeeps.routed
    intro c hc
    obtain ⟨pc, hpc⟩ := h.held _ hc (.inl rfl)
    exact (hkeeps.held pc hpc).2

lemma step_oneOwner (h : s.Owned) {a : ChannelAction} (hstep : step s a = some (s', es)) :
    s'.Owned ∧ OneOwner s a s' es := by
  cases step_cases hstep with
  | ignoreRead | ignoreInactive => exact ⟨h, oneOwner_of_eq rfl⟩
  | read c m ref hbusy =>
    exact ⟨h.call hbusy (by simp [Callback.Holds]) (by simp), oneOwner_of_eq rfl⟩
  | inactive c hbusy =>
    exact ⟨h.call hbusy (by simp [Callback.Holds]) (by simp), oneOwner_of_eq rfl⟩
  | go hc hgo =>
    obtain ⟨howned, hrespects⟩ := go_respects h hc hgo
    exact ⟨howned, go_oneOwner h hc hrespects⟩
  | login hlogin hlog => exact login_oneOwner h hlogin hlog
  | other ha hother => exact other_oneOwner h ha hother
  | release hrelease => exact release_oneOwner h hrelease
  | install => exact ⟨{ h with }, oneOwner_of_none rfl (fun c _ => ⟨rfl, rfl⟩) (by simp)⟩

end Channels

/-- In every run, with any number of channels, the state of B says whether the session has an
owner.  No other channel changes the session, except that the one that gave it up last may still
drop what its own session has left, and only the owner's packets, in `Play` and by the rules,
reach A. -/
theorem owner_run {tr : List Event} {s : Channels}
    (hrun : Step.Run Channels.step { session := { starting := true } } tr s) :
    (s.session.clientState = .AwaitHandshake ↔ s.session.clientChannel = none) ∧
      ∀ a s' es, Channels.step s a = some (s', es) → s.OneOwner a s' es := by
  have howned : s.Owned := by
    refine hrun.invariant (I := fun _ s => s.Owned) Channels.Owned.start ?_
    intro _ s a s' es hs hstep
    exact (Channels.step_oneOwner hs hstep).1
  refine ⟨howned.state, ?_⟩
  intro a s' es hstep
  exact (Channels.step_oneOwner howned hstep).2

/-- A channel announces that it wants to log in. -/
def intentionActions (c : Channel) (state : ClientState) : List ChannelAction :=
  [.read c (.intention false) true, .go c (.loaded (.intention false) state) true]

/-- The packet that tells the name of the player. -/
def helloPacket : ClientPacket where
  cls := "net.minecraft.network.protocol.login.ServerboundHelloPacket"

/-- One channel owns the session while the intention of another is read. -/
def intrusionActions : List ChannelAction :=
  intentionActions 1 .AwaitHandshake ++ intentionActions 2 .AwaitLogin

theorem owner_run_test : ∃ tr s,
    Step.Run Channels.step { session := { starting := true } } tr s ∧
      s.session.clientChannel = some 1 ∧
      (s.session.clientState = .AwaitHandshake ↔ s.session.clientChannel = none) ∧
      ∀ a s' es, Channels.step s a = some (s', es) → s.OneOwner a s' es := by
  have hexec : (Step.exec Channels.step { session := { starting := true } } intrusionActions).map
      (fun r => r.1.session.clientChannel) = some (some 1) := by decide
  obtain ⟨⟨s, tr⟩, hs, howner⟩ := Option.map_eq_some_iff.mp hexec
  have hrun := Step.run_of_exec hs
  exact ⟨tr, s, hrun, howner, owner_run hrun⟩

/-- B's login gets as far as the handoff and fails; the channel gives the session up, and another
channel takes it. -/
def takeoverActions : List ChannelAction :=
  [.other (.connectA 0), .other (.captureLive 0)] ++ intentionActions 1 .AwaitHandshake ++
    [.read 1 (.other true helloPacket) true,
      .go 1 (.loaded (.other true helloPacket) .AwaitLogin) true,
      .go 1 (.owned true helloPacket .AwaitLogin) true, .login 1 .readMidSession,
      .login 1 (.takeTarget true), .login 1 .beginHandoff, .login 1 (.listJob false),
      .login 1 .closeFailed, .inactive 1, .go 1 .inactive true] ++
    intentionActions 2 .AwaitHandshake

/-- The disconnect of a channel resets the handoff when the next one owns the session already. -/
theorem owner_takeover : ∃ tr s s' es,
    Step.Run Channels.step { session := { starting := true } } tr s ∧
      s.session.clientChannel = some 2 ∧
      Channels.step s (.go 1 .released true) = some (s', es) ∧
      s'.session.handoff ≠ s.session.handoff := by
  have hexec : (Step.exec Channels.step { session := { starting := true } } takeoverActions).map
      (fun r => (r.1.callbacks, r.1.session.clientChannel, r.1.session.handoff.state)) =
        some ([(1, .released)], some 2, .Capturing) := by decide
  obtain ⟨⟨s, tr⟩, hs, heq⟩ := Option.map_eq_some_iff.mp hexec
  simp only [Prod.mk.injEq] at heq
  obtain ⟨hcallbacks, howner, hstate⟩ := heq
  have hstep : Channels.step s (.go 1 .released true) = s.go 1 true .released :=
    if_pos (by simp [hcallbacks])
  refine ⟨tr, s, _, _, Step.run_of_exec hs, howner, hstep.trans rfl, ?_⟩
  intro hhandoff
  have hidle : s.session.handoff.reset.state = s.session.handoff.state :=
    congrArg LoginHandoff.state hhandoff
  rw [hstate] at hidle
  cases hidle

end Server
end SakuraTools
