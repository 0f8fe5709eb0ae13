import SakuraTools.Server.Ownership

/-!
# When packets are buffered

`pendingPackets` is filled and emptied by several threads.  Between two critical sections it holds
packets only while the handoff captures the world and B waits in `Syncing`, provided that the owner
of the session announces no other login there.
-/

namespace SakuraTools
namespace Server

/-- What is known of the state of B and of `midSession` while its login is at a point of
`completeLogin`. -/
def LoginPc.Fits (state : ClientState) (mid : Bool) : LoginPc → Prop
  | .greeted => state = .AwaitLogin
  | .failed => True
  | .introduced => state = .Syncing → mid = true
  | .finishing mid' => state = .Syncing → mid' = true
  | _ => mid = true

/-! ## The threads of a session -/

namespace Session

variable {s s' : Session} {es : List Event}

/-- What a step does to the buffer: it leaves it alone, empties it, or appends a packet that the
handoff captures. -/
inductive Buffers (s s' : Session) : Prop
  | keep (hpending : s'.pending = s.pending) (hhandoff : s'.handoff = s.handoff)
  | clear (hpending : s'.pending = [])
  | append (p : Packet) (hpending : s'.pending = s.pending ++ [p])
      (hhandoff : s'.handoff = s.handoff) (hstate : s.clientState = .Syncing)
      (hcap : s.handoff.state = .Capturing) (hstop : s.stopping = false)

lemma forwardToB_buffers (s : Session) (p : Packet) (ref : Bool) :
    Buffers s (s.forwardToB p ref).1 := by
  unfold forwardToB
  split_ifs with hclosed hgame hsync hcap hroom
  · exact .keep rfl rfl
  · exact .keep rfl rfl
  · exact .keep rfl rfl
  · rw [not_or] at hclosed
    exact .append p rfl rfl hsync (not_not.mp hcap) (by simpa using hclosed.1)
  · exact .clear rfl
  · split
    · exact .keep rfl rfl
    · exact .keep rfl rfl

lemma checkLoginTimeout_buffers (s : Session) : Buffers s s.checkLoginTimeout.1 := by
  rcases s.checkLoginTimeout_cases with heq | ⟨-, heq⟩
  · rw [heq]
    exact .keep rfl rfl
  · rw [heq]
    exact .clear rfl

lemma forwardToB_flags (s : Session) (p : Packet) (ref : Bool) :
    (s.forwardToB p ref).1.midSession = s.midSession ∧
      (s.forwardToB p ref).1.stopping = s.stopping := by
  have hsection := s.forwardToB_section p ref
  exact ⟨hsection.midSession, hsection.stopping⟩

/-- A's threads and the controller: the flags are only raised. -/
lemma buffers_of_isOther {a : Action} (ha : a.IsOther = true) (h : step s a = some (s', es)) :
    Buffers s s' ∧ (s.midSession = true → s'.midSession = true) ∧
      (s.stopping = true → s'.stopping = true) := by
  cases otherMove_of_step ha h with
  | apart _ h => exact ⟨.keep h.pending h.handoff, h.midSession, h.stopping⟩
  | dispatch p => exact ⟨.keep rfl rfl, id, id⟩
  | forward p ref =>
    have hbuffers := s.forwardToB_buffers p ref
    obtain ⟨hmid, hstop⟩ := s.forwardToB_flags p ref
    refine ⟨?_, fun h => hmid.trans h, fun h => hstop.trans h⟩
    rcases hbuffers with ⟨hpending, hhandoff⟩ | hpending | ⟨q, hpending, hhandoff, hrest⟩
    · exact .keep hpending hhandoff
    · exact .clear hpending
    · exact .append q hpending hhandoff hrest ‹_› ‹_›
  | refuse => exact ⟨.keep rfl rfl, id, id⟩
  | boundary => exact ⟨.clear rfl, id, id⟩
  | timeout =>
    have hsection := s.checkLoginTimeout_section
    exact ⟨s.checkLoginTimeout_buffers, fun h => hsection.midSession.trans h,
      fun h => hsection.stopping.trans h⟩

/-- What the login of the owner does. -/
structure LoginBuffers (s s' : Session) : Prop where
  buffers : Buffers s s'
  /-- B leaves `Syncing` only when nothing is buffered. -/
  state : s'.clientState = s.clientState ∨ s'.pending = [] ∨ s.clientState ≠ .Syncing
  mid : s'.midSession = s.midSession
  stop : s'.stopping = s.stopping
  fits : ∀ c pc, s'.login = some (c, pc) → pc.Fits s'.clientState s'.midSession

lemma loginBuffers_goto {c : Channel} {pc : LoginPc} (h : pc.Fits s.clientState s.midSession) :
    LoginBuffers s (s.goto c pc) where
  buffers := .keep rfl rfl
  state := .inl rfl
  mid := rfl
  stop := rfl
  fits c' pc' hpc := by
    cases hpc
    exact h

lemma loginBuffers_return : LoginBuffers s { s with login := none } where
  buffers := .keep rfl rfl
  state := .inl rfl
  mid := rfl
  stop := rfl
  fits c' pc' hpc := by cases hpc

lemma loginBuffers_finish {c : Channel} (howner : s.clientChannel = some c) :
    LoginBuffers s (({ s with login := none } : Session).finishMidSession c).1 := by
  rcases finishMidSession_cases (s := { s with login := none }) howner with
    heq | ⟨-, heq⟩ | ⟨-, -, heq⟩
  · rw [heq]
    exact loginBuffers_return
  · rw [heq]
    exact ⟨.clear rfl, .inl rfl, rfl, rfl, by simp⟩
  · rw [heq]
    exact ⟨.clear rfl, .inr (.inl rfl), rfl, rfl, by simp⟩

/-- What is known at a point of `completeLogin` is enough for what is known at the next one. -/
lemma Goes.fits {c : Channel} {pc pc' : LoginPc} (h : Goes s c pc pc')
    (hfits : pc.Fits s.clientState s.midSession) : pc'.Fits s.clientState s.midSession := by
  cases h with
  | rebuild hmid => exact hmid
  | skip =>
    intro hsync
    rw [LoginPc.Fits, hsync] at hfits
    cases hfits
  | target | notExecuted | taken | timeout => exact hfits
  | noTarget | noJob | notTaken => trivial
  | wrote => exact fun _ => hfits
  | last => exact hfits

lemma loginBuffers_of_loginStep {c : Channel} {pc : LoginPc} {a : Action}
    (howner : s.clientChannel = some c) (hfits : pc.Fits s.clientState s.midSession)
    (h : s.loginStep c pc a = some (s', es)) : LoginBuffers s s' := by
  cases loginStep_cases h with
  | leave => exact loginBuffers_return
  | go hgoes => exact loginBuffers_goto (hgoes.fits hfits)
  | begin =>
    exact ⟨.clear rfl, .inr (.inl rfl), rfl, rfl, fun c' pc' hpc => by cases hpc; exact hfits⟩
  | list | execute =>
    exact ⟨.keep rfl rfl, .inl rfl, rfl, rfl, fun c' pc' hpc => by cases hpc; exact hfits⟩
  | cancel =>
    exact ⟨.keep rfl rfl, .inl rfl, rfl, rfl, fun c' pc' hpc => by cases hpc; exact hfits⟩
  | remove =>
    exact ⟨.keep rfl rfl, .inl rfl, rfl, rfl, fun c' pc' hpc => by cases hpc; trivial⟩
  | writeFailed =>
    exact ⟨.clear rfl, .inl rfl, rfl, rfl, fun c' pc' hpc => by cases hpc; trivial⟩
  | finishMid => exact loginBuffers_finish howner
  | finishPlay =>
    refine ⟨.keep rfl rfl, .inr (.inr ?_), rfl, rfl, by simp⟩
    intro hsync
    cases hfits hsync

/-- What a packet of the owner does to the buffer. -/
lemma handleClientPacket_buffers (s : Session) (c : Channel) (m : ClientPacket) :
    let s' := (s.handleClientPacket c m).1
    s'.pending = s.pending ∧ s'.midSession = s.midSession ∧ s'.stopping = s.stopping ∧
      (s.clientState = .Syncing → s.handoff.state = .Capturing →
        s'.clientState = .Syncing ∧ s'.handoff.state = .Capturing) := by
  rcases s.handleClientPacket_cases c m with heq | ⟨-, -, heq⟩ | ⟨hready, -, heq⟩ | ⟨-, heq⟩
  · rw [heq]
    exact ⟨rfl, rfl, rfl, fun hs hc => ⟨hs, hc⟩⟩
  · rw [heq]
    exact ⟨rfl, rfl, rfl, fun hs hc => ⟨hs, hc⟩⟩
  · rw [heq]
    refine ⟨rfl, rfl, rfl, ?_⟩
    intro hs
    rw [hs] at hready
    cases hready
  · rw [heq]
    refine ⟨rfl, rfl, rfl, ?_⟩
    intro hs hc
    refine ⟨hs, ?_⟩
    rw [LoginHandoff.acknowledge_state_of_ne (by simp [hc])]
    exact hc

lemma intention_buffer (s : Session) (c : Channel) :
    (s.intention c).1.pending = s.pending ∧ (s.intention c).1.dispatch = s.dispatch := by
  unfold intention
  split
  · exact ⟨rfl, rfl⟩
  · exact ⟨rfl, rfl⟩

lemma closeStep_flags {hasChannel : Bool} (h : s.closeStep hasChannel = some (s', es)) :
    s'.midSession = s.midSession ∧ s'.stopping = s.stopping := by
  simp only [closeStep] at h
  split at h
  · split at h <;> cases h <;> exact ⟨rfl, rfl⟩
  · split at h <;> cases h <;> exact ⟨rfl, rfl⟩
  · split at h <;> cases h <;> exact ⟨rfl, rfl⟩
  · cases h
    exact ⟨rfl, rfl⟩
  · cases h

end Session

/-! ## The callbacks of the channels -/

namespace Channels

variable {s s' : Channels} {es : List Event}

/-- What a packet meets before the test of the owner does not touch the buffer. -/
lemma handle_buffer (s : Channels) (c : Channel) (state : ClientState) (ref : Bool) (m : Received) :
    (s.handle c state ref m).1.session.pending = s.session.pending ∧
      (s.handle c state ref m).1.session.dispatch = s.session.dispatch := by
  unfold handle
  split
  · exact ⟨rfl, rfl⟩
  · exact ⟨rfl, rfl⟩
  · exact ⟨rfl, rfl⟩
  · split
    · exact ⟨rfl, rfl⟩
    · exact s.session.intention_buffer c
  · split
    · exact ⟨rfl, rfl⟩
    · exact ⟨rfl, rfl⟩

/-- The owner of the session announces no login while B waits in `Syncing`. -/
def Unannounced (s : Channels) : Prop :=
  ∀ c state, (c, .loaded (.intention false) state) ∈ s.callbacks →
    s.session.clientChannel = some c → s.session.clientState ≠ .Syncing

/-- `StopBServer` is releasing the session. -/
def Releasing (s : Channels) : Prop := s.stopped ≠ .no ∧ s.stopped ≠ .yes

/-- `StopBServer` releases the session when every callback has returned, and leaves nothing
buffered. -/
structure Halted (s : Channels) : Prop where
  quiet : s.stopped ≠ .no →
    s.session.stopping = true ∧ s.callbacks = [] ∧ s.session.login = none
  empty : s.stopped = .yes → s.session.pending = []

/-- Packets are buffered while B waits in `Syncing` for its world, until a channel that disconnects
or `StopBServer` drops them. -/
structure Buffering (s : Channels) : Prop where
  buffered : s.session.pending ≠ [] →
    (s.session.clientState = .Syncing ∧ s.session.handoff.state = .Capturing) ∨
      (∃ pc, s.session.dispatch = some (.inactive pc)) ∨ s.Releasing
  dropped : ∀ c, (c, .closing) ∈ s.callbacks → s.session.pending = []
  /-- The state that a callback of the owner has loaded is the state of B still. -/
  loaded : ∀ c m state, (c, .loaded m state) ∈ s.callbacks → s.session.clientChannel = some c →
    state = s.session.clientState
  owned : ∀ c hello m state, (c, .owned hello m state) ∈ s.callbacks →
    state = s.session.clientState
  login : ∀ c pc, s.session.login = some (c, pc) →
    pc.Fits s.session.clientState s.session.midSession

lemma Buffering.start : Buffering { session := { starting := true } } where
  buffered h := absurd rfl h
  dropped _ _ := rfl
  loaded := by simp
  owned := by simp
  login := by simp

/-- A step of a thread that leaves the callbacks alone. -/
lemma Buffering.thread (h : s.Buffering) (ho : s.Owned) {σ : Session}
    (hkeeps : Session.Keeps s.session σ es) (hbuffers : Session.Buffers s.session σ)
    (hstate : σ.clientState = s.session.clientState ∨ σ.pending = [] ∨
      s.session.clientState ≠ .Syncing)
    (hcurrent : ∀ x ∈ s.callbacks, s.session.clientChannel = some x.1 →
      σ.clientState = s.session.clientState)
    (hfits : ∀ c pc, σ.login = some (c, pc) → pc.Fits σ.clientState σ.midSession) :
    Buffering { s with session := σ } where
  buffered := by
    intro hne
    rcases hbuffers with ⟨hpending, hhandoff⟩ | hpending | ⟨p, -, hhandoff, hsync, hcap, -⟩
    · rw [hpending] at hne
      rcases h.buffered hne with ⟨hsync, hcap⟩ | ⟨pc, hpc⟩ | hreleasing
      · rcases hstate with hstate | hnil | hother
        · exact .inl ⟨hstate.trans hsync, by rw [hhandoff, hcap]⟩
        · exact absurd (hpending.symm.trans hnil) hne
        · exact absurd hsync hother
      · exact .inr (.inl ⟨pc, (hkeeps.held pc hpc).1.trans hpc⟩)
      · exact .inr (.inr hreleasing)
    · exact absurd hpending hne
    · rcases hstate with hstate | hnil | hother
      · exact .inl ⟨hstate.trans hsync, by rw [hhandoff, hcap]⟩
      · exact absurd hnil hne
      · exact absurd hsync hother
  dropped c hc := by
    obtain ⟨pc, hpc⟩ := ho.held _ hc (.inr rfl)
    exact (hkeeps.held pc hpc).2.2.trans (h.dropped c hc)
  loaded c m state hc howner := by
    rw [hkeeps.clientChannel] at howner
    exact (h.loaded c m state hc howner).trans (hcurrent _ hc howner).symm
  owned c hello m state hc :=
    (h.owned c hello m state hc).trans (hcurrent _ hc (ho.owned c hello m state hc)).symm
  login := hfits

lemma Buffering.other (h : s.Buffering) (ho : s.Owned) {a : Action} {σ : Session}
    (ha : a.IsOther = true) (hstep : Session.step s.session a = some (σ, es)) :
    Buffering { s with session := σ } := by
  obtain ⟨hkeeps, hstate, hlogin⟩ := Session.keeps_of_isOther ha hstep
  obtain ⟨hbuffers, hmid, -⟩ := Session.buffers_of_isOther ha hstep
  refine h.thread ho hkeeps hbuffers (.inl hstate) (fun _ _ _ => hstate) ?_
  intro c pc hpc
  rw [hlogin] at hpc
  have hfits := h.login c pc hpc
  rw [hstate]
  cases pc with
  | greeted => exact hfits
  | failed => trivial
  | introduced => exact fun hsync => hmid (hfits hsync)
  | finishing mid => exact hfits
  | _ => exact hmid hfits

lemma Buffering.loginStep (h : s.Buffering) (ho : s.Owned) {c : Channel} {pc : LoginPc}
    {a : Action} {σ : Session} (hlogin : s.session.login = some (c, pc))
    (hstep : s.session.loginStep c pc a = some (σ, es)) : Buffering { s with session := σ } := by
  have howner := ho.login c pc hlogin
  have hkeeps := Session.loginKeeps_of_loginStep howner hstep
  have hbuffers := Session.loginBuffers_of_loginStep howner (h.login c pc hlogin) hstep
  refine h.thread ho hkeeps.toKeeps hbuffers.buffers hbuffers.state ?_ hbuffers.fits
  -- the owner runs no callback while it logs in
  intro x hx howner'
  rw [howner] at howner'
  cases howner'
  exact absurd hlogin (Session.busy_eq_false.mp (ho.idle x hx) pc)

/-- A channel may leave its callback in such a session. -/
structure Leaves (s : Channels) (c : Channel) (σ : Session) : Prop where
  buffered : σ.pending ≠ [] → (σ.clientState = .Syncing ∧ σ.handoff.state = .Capturing) ∨
    ∃ pc, σ.dispatch = some (.inactive pc)
  dropped : ∀ d, d ≠ c → (d, .closing) ∈ s.callbacks → σ.pending = []
  other : ∀ d, d ≠ c → s.session.clientChannel = some d ∨ σ.clientChannel = some d →
    s.session.clientChannel = some d ∧ σ.clientState = s.session.clientState
  login : ∀ d pc, σ.login = some (d, pc) → pc.Fits σ.clientState σ.midSession

lemma Buffering.leaves (h : s.Buffering) (hno : s.stopped = .no) (c : Channel) :
    s.Leaves c s.session where
  buffered hne := by
    rcases h.buffered hne with hsync | hheld | hreleasing
    · exact .inl hsync
    · exact .inr hheld
    · exact absurd hno hreleasing.1
  dropped d _ := h.dropped d
  other d _ howner := ⟨howner.elim id id, rfl⟩
  login := h.login

lemma Buffering.finish (h : s.Buffering) (ho : s.Owned) {c : Channel} {σ : Session}
    (hσ : s.Leaves c σ) : (s.finish c σ).Buffering where
  buffered hne := (hσ.buffered hne).imp_right .inl
  dropped d hd := by
    rw [mem_finish] at hd
    exact hσ.dropped d hd.2 hd.1
  loaded d m state hd howner := by
    rw [mem_finish] at hd
    obtain ⟨howner', hstate⟩ := hσ.other d hd.2 (.inr howner)
    exact (h.loaded d m state hd.1 howner').trans hstate.symm
  owned d hello m state hd := by
    rw [mem_finish] at hd
    obtain ⟨-, hstate⟩ := hσ.other d hd.2 (.inl (ho.owned d hello m state hd.1))
    exact (h.owned d hello m state hd.1).trans hstate.symm
  login := hσ.login

lemma Buffering.goto (h : s.Buffering) (ho : s.Owned) {c : Channel} {k : Callback} {σ : Session}
    (hσ : s.Leaves c σ) (hclosing : k = .closing → σ.pending = [])
    (hstate : ∀ state, (∃ m, k = .loaded m state) ∨ (∃ hello m, k = .owned hello m state) →
      state = σ.clientState) : (s.goto c k σ).Buffering where
  buffered hne := (hσ.buffered hne).imp_right .inl
  dropped d hd := by
    rw [mem_goto] at hd
    rcases hd with heq | hd
    · cases heq
      exact hclosing rfl
    · exact hσ.dropped d hd.2 hd.1
  loaded d m state hd howner := by
    rw [mem_goto] at hd
    rcases hd with heq | hd
    · cases heq
      exact hstate state (.inl ⟨m, rfl⟩)
    · exact (h.finish ho hσ).loaded d m state (mem_finish.mpr hd) howner
  owned d hello m state hd := by
    rw [mem_goto] at hd
    rcases hd with heq | hd
    · cases heq
      exact hstate state (.inr ⟨hello, m, rfl⟩)
    · exact (h.finish ho hσ).owned d hello m state (mem_finish.mpr hd)
  login := hσ.login

lemma Buffering.handle (h : s.Buffering) (ho : s.Owned) (hno : s.stopped = .no) {c : Channel}
    {m : Received} {state : ClientState} {ref : Bool} (hc : (c, .loaded m state) ∈ s.callbacks)
    (hsilent : s.Unannounced) : (s.handle c state ref m).1.Buffering := by
  have hreturn : (s.finish c s.session).Buffering := h.finish ho (h.leaves hno c)
  cases m with
  | statusRequest => exact hreturn
  | pingRequest => exact hreturn
  | intention status =>
    cases status with
    | true => exact hreturn
    | false =>
      simp only [Channels.handle, Session.intention]
      split
      · exact hreturn
      · split
        · rename_i howner
          have honly (d : Channel) (hd : s.session.clientChannel = some d) : d = c := by
            rw [hd] at howner
            exact Option.some.inj (howner.resolve_left (by simp))
          refine h.finish ho ⟨?_, fun d _ => h.dropped d, ?_, ?_⟩
          · intro hne
            rcases h.buffered hne with ⟨hsync, -⟩ | hheld | hreleasing
            -- B waits in `Syncing`, so the session has an owner, and it is this channel
            · exfalso
              have hsome : s.session.clientChannel ≠ none := by
                intro hnone
                rw [ho.state.mpr hnone] at hsync
                cases hsync
              exact hsilent c state hc (howner.resolve_left hsome) hsync
            · exact .inr hheld
            · exact absurd hno hreleasing.1
          · rintro d hd (hdowner | hdowner)
            · exact absurd (honly d hdowner) hd
            · exact absurd (Option.some.inj hdowner).symm hd
          · intro d pc hpc
            have hdc := honly d (ho.login d pc hpc)
            subst hdc
            exact absurd hpc (Session.busy_eq_false.mp (ho.idle _ hc) pc)
        · exact hreturn
  | other hello m =>
    simp only [Channels.handle]
    split
    · rename_i howner
      refine h.goto ho (h.leaves hno c) (by simp) ?_
      rintro state' (⟨m', heq⟩ | ⟨hello', m', heq⟩)
      · cases heq
      · cases heq
        exact h.loaded c _ _ hc howner
    · exact hreturn

lemma Buffering.handleOwned (h : s.Buffering) (ho : s.Owned) (hno : s.stopped = .no) {c : Channel}
    {hello : Bool} {m : ClientPacket} {state : ClientState}
    (hc : (c, .owned hello m state) ∈ s.callbacks)
    (hstep : s.handleOwned c hello m state = some (s', es)) : s'.Buffering := by
  have howner := ho.owned c hello m state hc
  have hother (σ : Session) (hσ : σ.clientChannel = some c) (d : Channel) (hd : d ≠ c)
      (hdowner : s.session.clientChannel = some d ∨ σ.clientChannel = some d) : False := by
    rw [howner, hσ] at hdowner
    exact hd (Option.some.inj (hdowner.elim id id)).symm
  simp only [Channels.handleOwned] at hstep
  split at hstep
  · rename_i hhello
    cases hstep
    refine h.finish ho ⟨(h.leaves hno c).buffered, fun d _ => h.dropped d, ?_, ?_⟩
    · intro d hd hdowner
      exact (hother _ howner d hd hdowner).elim
    · intro d pc hpc
      cases hpc
      exact (h.owned c hello m state hc).symm.trans hhello.1
  · split at hstep
    · rename_i hfree
      obtain ⟨hpending, hmid, -, hsync⟩ := s.session.handleClientPacket_buffers c m
      obtain ⟨hchannel, -, hlogin, -⟩ := s.session.handleClientPacket_owner c m
      cases hstep
      refine h.finish ho ⟨?_, ?_, ?_, ?_⟩
      · intro hne
        rw [hpending] at hne
        rcases h.buffered hne with ⟨hs, hcap⟩ | ⟨pc, hpc⟩ | hreleasing
        · exact .inl (hsync hs hcap)
        · simp [hfree] at hpc
        · exact absurd hno hreleasing.1
      · intro d _ hd
        exact hpending.trans (h.dropped d hd)
      · intro d hd hdowner
        exact (hother _ (hchannel.trans howner) d hd hdowner).elim
      · intro d pc hpc
        rw [hlogin] at hpc
        have hdowner := ho.login d pc hpc
        rw [howner] at hdowner
        cases hdowner
        exact absurd hpc (Session.busy_eq_false.mp (ho.idle _ hc) pc)
    · cases hstep

lemma Buffering.handleInactive (h : s.Buffering) (ho : s.Owned) (hno : s.stopped = .no)
    {c : Channel} {ref : Bool} (hc : (c, .inactive) ∈ s.callbacks)
    (hstep : s.handleInactive c ref = some (s', es)) : s'.Buffering := by
  simp only [Channels.handleInactive] at hstep
  split at hstep
  · cases hstep
  · split at hstep
    · rename_i howner
      cases hstep
      refine h.goto ho ⟨fun _ => .inr ⟨_, rfl⟩, fun d _ => h.dropped d, ?_, ?_⟩
        (by simp) (by simp)
      · rintro d hd (hdowner | hdowner)
        · rw [howner.2] at hdowner
          exact absurd (Option.some.inj hdowner).symm hd
        · cases hdowner
      · intro d pc hpc
        have hdowner := ho.login d pc hpc
        rw [howner.2] at hdowner
        cases hdowner
        exact absurd hpc (Session.busy_eq_false.mp (ho.idle _ hc) pc)
    · cases hstep
      exact h.finish ho (h.leaves hno c)

/-- `StopBServer` has not begun to release a session that is not stopping. -/
lemma Halted.no_of_running (hh : s.Halted) (hrunning : s.session.stopping = false) :
    s.stopped = .no := by
  by_contra hne
  rw [(hh.quiet hne).1] at hrunning
  cases hrunning

lemma Halted.no_of_login (hh : s.Halted) {c : Channel} {pc : LoginPc}
    (hlogin : s.session.login = some (c, pc)) : s.stopped = .no := by
  by_contra hne
  rw [(hh.quiet hne).2.2] at hlogin
  cases hlogin

lemma Halted.no_of_mem (hh : s.Halted) {x : Channel × Callback} (hx : x ∈ s.callbacks) :
    s.stopped = .no := by
  by_contra hne
  rw [(hh.quiet hne).2.1] at hx
  cases hx

lemma Buffering.go (h : s.Buffering) (ho : s.Owned) (hh : s.Halted) {c : Channel} {k : Callback}
    {ref : Bool} (hc : (c, k) ∈ s.callbacks) (hsilent : s.Unannounced)
    (hstep : s.go c ref k = some (s', es)) : s'.Buffering := by
  have hno := hh.no_of_mem hc
  cases k with
  | loaded m state =>
    have hhandle : (s.handle c state ref m).1.Buffering := h.handle ho hno hc hsilent
    rw [Option.some.inj hstep] at hhandle
    exact hhandle
  | owned hello m state => exact h.handleOwned ho hno hc hstep
  | inactive => exact h.handleInactive ho hno hc hstep
  | released =>
    cases hstep
    refine h.goto ho ⟨fun hne => absurd rfl hne, fun _ _ _ => rfl, ?_, h.login⟩
      (fun _ => rfl) (by simp)
    intro d _ hdowner
    exact ⟨hdowner.elim id id, rfl⟩
  | closing =>
    obtain ⟨⟨σ, es'⟩, hclose, heq⟩ := Option.map_eq_some_iff.mp hstep
    obtain ⟨hchannel, hstate, hlogin, -, hpending, -, -⟩ := Session.closeStep_owner hclose
    obtain ⟨hmid, -⟩ := Session.closeStep_flags hclose
    have hnil : σ.pending = [] := hpending.trans (h.dropped c hc)
    have hleaves : s.Leaves c σ := by
      refine ⟨fun hne => absurd hnil hne, fun _ _ _ => hnil, ?_, ?_⟩
      · intro d _ hdowner
        rw [hchannel] at hdowner
        exact ⟨hdowner.elim id id, hstate⟩
      · rw [hlogin, hstate, hmid]
        exact h.login
    simp only [Prod.mk.injEq] at heq
    obtain ⟨rfl, -⟩ := heq
    split
    · exact h.finish ho hleaves
    · exact h.goto ho hleaves (fun _ => hnil) (by simp)

lemma Buffering.release (h : s.Buffering) (hh : s.Halted) (hstep : s.release = some (s', es)) :
    s'.Buffering := by
  simp only [Channels.release] at hstep
  split at hstep
  · split at hstep
    · rename_i hdrained
      obtain ⟨-, hcallbacks, hlogin, -⟩ := hdrained
      cases hstep
      refine ⟨fun _ => .inr (.inr ⟨by simp, by simp⟩), ?_, ?_, ?_, ?_⟩
      · simp [hcallbacks]
      · simp [hcallbacks]
      · simp [hcallbacks]
      · simp [hlogin]
    · cases hstep
  · cases hstep
    exact { h with buffered := fun _ => .inr (.inr ⟨by simp, by simp⟩) }
  · rename_i htarget
    cases hstep
    refine { h with buffered := fun _ => .inr (.inr ⟨by simp, by simp⟩), login := ?_ }
    simp [(hh.quiet (by simp [htarget])).2.2]
  · split at hstep
    · cases hstep
      exact { h with
        buffered := fun hne => absurd rfl hne
        dropped := fun _ _ => rfl }
    · cases hstep
  · cases hstep

lemma Buffering.install (h : s.Buffering) (hh : s.Halted) (hyes : s.stopped = .yes) :
    Buffering
      { s with
        session := { s.session with stopping := false, midSession := false, starting := true }
        stopped := .no } := by
  refine { h with buffered := fun hne => absurd (hh.empty hyes) hne, login := ?_ }
  simp [(hh.quiet (by simp [hyes])).2.2]

lemma Halted.start : Halted { session := { starting := true } } where
  quiet h := absurd rfl h
  empty _ := rfl

lemma Halted.of_running (hno : s.stopped = .no) : s.Halted where
  quiet hne := absurd hno hne
  empty hyes := by cases hno.symm.trans hyes

/-- A callback of a channel leaves `StopBServer` where it is. -/
lemma go_stopped {c : Channel} {k : Callback} {ref : Bool} (hstep : s.go c ref k = some (s', es)) :
    s'.stopped = s.stopped := by
  cases k with
  | loaded m state =>
    have hstopped : (s.handle c state ref m).1.stopped = s.stopped := by
      unfold Channels.handle
      split
      · rfl
      · rfl
      · rfl
      · split <;> rfl
      · split <;> rfl
    rw [Option.some.inj hstep] at hstopped
    exact hstopped
  | owned hello m state =>
    simp only [Channels.go, Channels.handleOwned] at hstep
    split at hstep
    · cases hstep
      rfl
    · split at hstep
      · cases hstep
        rfl
      · cases hstep
  | inactive =>
    simp only [Channels.go, Channels.handleInactive] at hstep
    split at hstep
    · cases hstep
    · split at hstep <;> cases hstep <;> rfl
  | released =>
    cases hstep
    rfl
  | closing =>
    obtain ⟨⟨σ, es'⟩, -, heq⟩ := Option.map_eq_some_iff.mp hstep
    simp only [Prod.mk.injEq] at heq
    obtain ⟨rfl, -⟩ := heq
    split <;> rfl

lemma Halted.other (hh : s.Halted) {a : Action} {σ : Session} (ha : a.IsOther = true)
    (hstep : Session.step s.session a = some (σ, es)) : Halted { s with session := σ } where
  quiet hne := by
    obtain ⟨-, -, hlogin⟩ := Session.keeps_of_isOther ha hstep
    obtain ⟨-, -, hstop⟩ := Session.buffers_of_isOther ha hstep
    obtain ⟨hstopping, hcallbacks, hnone⟩ := hh.quiet hne
    exact ⟨hstop hstopping, hcallbacks, hlogin.trans hnone⟩
  empty hyes := by
    have hne : s.stopped ≠ .no := fun hno => by cases hno.symm.trans hyes
    obtain ⟨hbuffers, -, -⟩ := Session.buffers_of_isOther ha hstep
    rcases hbuffers with ⟨hpending, -⟩ | hpending | ⟨p, -, -, -, -, hrunning⟩
    · exact hpending.trans (hh.empty hyes)
    · exact hpending
    -- nothing is buffered any more once `stopping` is set
    · have hstopping := (hh.quiet hne).1
      simp [hrunning] at hstopping

lemma Halted.release (hh : s.Halted) (hstep : s.release = some (s', es)) : s'.Halted := by
  simp only [Channels.release] at hstep
  split at hstep
  · split at hstep
    · rename_i hdrained
      obtain ⟨hstopping, hcallbacks, hlogin, -⟩ := hdrained
      cases hstep
      exact ⟨fun _ => ⟨hstopping, hcallbacks, hlogin⟩, by simp⟩
    · cases hstep
  · rename_i hclient
    cases hstep
    exact ⟨fun _ => hh.quiet (by simp [hclient]), by simp⟩
  · rename_i htarget
    cases hstep
    exact ⟨fun _ => hh.quiet (by simp [htarget]), by simp⟩
  · rename_i hmid
    split at hstep
    · cases hstep
      exact ⟨fun _ => hh.quiet (by simp [hmid]), fun _ => rfl⟩
    · cases hstep
  · cases hstep

lemma Halted.step (hh : s.Halted) {a : ChannelAction}
    (hstep : Channels.step s a = some (s', es)) : s'.Halted := by
  cases step_cases hstep with
  | ignoreRead | ignoreInactive => exact hh
  | read c m ref _ hrunning => exact .of_running (hh.no_of_running hrunning)
  | inactive c _ hrunning => exact .of_running (hh.no_of_running hrunning)
  | go hc hgo => exact .of_running ((go_stopped hgo).trans (hh.no_of_mem hc))
  | login hlogin => exact .of_running (hh.no_of_login hlogin)
  | other ha hother => exact hh.other ha hother
  | release hrelease => exact hh.release hrelease
  | install => exact .of_running rfl

/-- Every step of a session buffers as it should, but for an announcement of the owner in
`Syncing`. -/
lemma Buffering.step (h : s.Buffering) (ho : s.Owned) (hh : s.Halted) {a : ChannelAction}
    (hstep : Channels.step s a = some (s', es)) (hsilent : s.Unannounced) : s'.Buffering := by
  cases step_cases hstep with
  | ignoreRead | ignoreInactive => exact h
  | read c m ref _ hrunning =>
    refine h.goto ho (h.leaves (hh.no_of_running hrunning) c) (by simp) ?_
    rintro state (⟨m', heq⟩ | ⟨hello, m', heq⟩)
    · cases heq
      rfl
    · cases heq
  | inactive c _ hrunning =>
    exact h.goto ho (h.leaves (hh.no_of_running hrunning) c) (by simp) (by simp)
  | go hc hgo => exact h.go ho hh hc hsilent hgo
  | login hlogin hlog => exact h.loginStep ho hlogin hlog
  | other ha hother => exact h.other ho ha hother
  | release hrelease => exact h.release hh hrelease
  | install hstopped => exact h.install hh hstopped

end Channels
end Server
end SakuraTools
