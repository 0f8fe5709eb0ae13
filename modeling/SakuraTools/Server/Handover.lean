import SakuraTools.Server.Phase

/-!
# Control is handed to B through an acknowledged snapshot

The invariant that ties the state of a session to the phase of its current login.
-/

namespace SakuraTools
namespace Server

/-- The state at the start of a session: B is not there, and no snapshot has been asked for. -/
structure Session.Start (s : Session) : Prop where
  stopping : s.stopping = false
  clientChannel : s.clientChannel = none
  clientState : s.clientState = .AwaitHandshake
  handoff : s.handoff.state = .Idle
  pending : s.pending = []
  dispatch : s.dispatch = none
  login : s.login = none
  job : ∀ j, s.job j = {}
  render : s.render = .idle
  queue : ∀ j, .snapshot j ∉ s.queue

/-- The job that the render thread is working on. -/
def RenderPc.job : RenderPc → Option JobId
  | .idle => none
  | .found j | .checked j | .capturing j | .finishing j _ => some j

namespace Session

/-- Nobody has started with the job. -/
def Unused (s : Session) (j : JobId) : Prop :=
  (s.job j).ok = false ∧ s.render.job ≠ some j ∧ .snapshot j ∉ s.queue

end Session

namespace Phase

/-- The snapshot of the login is taken, or the login is broken. -/
def Taken (ph : Phase) (c : Channel) : Prop :=
  (∃ j world, ph = captured c j world) ∨ ph = broken c

/-- What the place of an event loop in `completeLogin` says about the phase. -/
def AtPc (ph : Phase) (s : Session) (c : Channel) : LoginPc → Prop
  | .greeted => ∃ mid, ph = greeted c mid ∧ (mid = true → s.midSession = true)
  | .rebuilding | .targeted => (∃ mid, ph = greeted c mid) ∧ s.midSession = true
  | .syncing => ph = begun c ∨ ph = broken c
  | .listed j => (ph = begun c ∨ ph = broken c) ∧ s.Unused j ∧ j < s.nextJob
  | .waiting j =>
    ph = executed c j ∨ ph = bounded c j ∨ (∃ world, ph = captured c j world) ∨ ph = broken c
  | .timedOut _ | .cancelled _ | .failed => True
  | .captured => ph.Taken c
  | .introduced => ph.Taken c ∨ (ph = greeted c false ∧ s.handoff.state = .Idle)
  | .finishing mid =>
    (ph.Taken c ∧ mid = true) ∨ (ph = greeted c false ∧ s.handoff.state = .Idle)

/-- The phase of the current login describes the state of the session. -/
structure Tracks (ph : Phase) (s : Session) : Prop where
  owner : ∀ c pc, s.login = some (c, pc) → s.clientChannel = some c
  pc : ∀ c pc, s.login = some (c, pc) → ph.AtPc s c pc
  idle : s.midSession = false → s.handoff.state = .Idle
  started : ph.Started → s.midSession = true
  broken : ∀ c, ph = broken c → s.handoff.state = .Idle ∨ s.handoff.state = .Failed
  ready : s.clientState = .AwaitReady →
    (∃ c, ph = .broken c) ∨
      ∃ c j world, ph = sent c j world ∧ s.clientChannel = some c ∧
        s.handoff.state = .AwaitingAck
  unfinished : ∀ c j, ph = executed c j ∨ ph = bounded c j →
    (s.job j).ok = false ∧ s.render ≠ .finishing j true
  unbounded : ∀ c j, ph = executed c j → s.render ≠ .capturing j
  fresh : ∀ j, s.nextJob ≤ j → s.Unused j

namespace AtPc

variable {ph : Phase} {s s' : Session} {c : Channel} {pc : LoginPc}

lemma mono (h : ph.AtPc s c pc) (hmid : s.midSession = true → s'.midSession = true)
    (hidle : s.handoff.state = .Idle → s'.handoff.state = .Idle)
    (hunused : ∀ j, s.Unused j → s'.Unused j) (hnext : s.nextJob ≤ s'.nextJob) :
    ph.AtPc s' c pc := by
  cases pc with
  | greeted =>
    obtain ⟨mid, hph, hm⟩ := h
    exact ⟨mid, hph, fun hmid' => hmid (hm hmid')⟩
  | rebuilding | targeted => exact ⟨h.1, hmid h.2⟩
  | listed j => exact ⟨h.1, hunused j h.2.1, Nat.lt_of_lt_of_le h.2.2 hnext⟩
  | introduced | finishing =>
    rcases h with h | ⟨hph, hstate⟩
    · exact .inl h
    · exact .inr ⟨hph, hidle hstate⟩
  | syncing | waiting | timedOut | cancelled | captured | failed => exact h

lemma taken_onFailed (h : ph.Taken c) : ph.onFailed.Taken c := by
  rcases h with ⟨j, world, rfl⟩ | rfl
  · exact .inr rfl
  · exact .inr rfl

/-- A failure breaks a login that has begun its handoff. -/
lemma onFailed (h : ph.AtPc s c pc) (hidle : ph = greeted c false → s.handoff.state = .Idle →
      s'.handoff.state = .Idle) (hmid : s.midSession = true → s'.midSession = true)
    (hunused : ∀ j, s.Unused j → s'.Unused j) (hnext : s.nextJob ≤ s'.nextJob) :
    ph.onFailed.AtPc s' c pc := by
  cases pc with
  | greeted =>
    obtain ⟨mid, rfl, hm⟩ := h
    exact ⟨mid, rfl, fun hmid' => hmid (hm hmid')⟩
  | rebuilding | targeted =>
    obtain ⟨⟨mid, rfl⟩, hm⟩ := h
    exact ⟨⟨mid, rfl⟩, hmid hm⟩
  | syncing =>
    rcases h with rfl | rfl
    · exact .inr rfl
    · exact .inr rfl
  | listed j =>
    obtain ⟨hph, hj, hlt⟩ := h
    refine ⟨.inr ?_, hunused j hj, Nat.lt_of_lt_of_le hlt hnext⟩
    rcases hph with rfl | rfl
    · rfl
    · rfl
  | waiting j =>
    refine .inr (.inr (.inr ?_))
    rcases h with rfl | rfl | ⟨world, rfl⟩ | rfl
    · rfl
    · rfl
    · rfl
    · rfl
  | captured => exact taken_onFailed h
  | introduced =>
    rcases h with h | ⟨rfl, hstate⟩
    · exact .inl (taken_onFailed h)
    · exact .inr ⟨rfl, hidle rfl hstate⟩
  | finishing mid =>
    rcases h with ⟨h, hm⟩ | ⟨rfl, hstate⟩
    · exact .inl ⟨taken_onFailed h, hm⟩
    · exact .inr ⟨rfl, hidle rfl hstate⟩
  | timedOut | cancelled | failed => trivial

/-- The steps of the render thread are noticed while the event loop waits for the job. -/
lemma onBoundary (h : ph.AtPc s c pc) (j : JobId) : (ph.onBoundary j).AtPc s c pc := by
  cases ph with
  | executed c' i =>
    by_cases hi : i = j
    · cases pc <;> simp_all [AtPc, Phase.onBoundary, Taken]
    · rwa [Phase.onBoundary, if_neg hi]
  | _ => exact h

lemma onCaptured (h : ph.AtPc s c pc) (j : JobId) (world : List Packet) :
    (ph.onCaptured j world).AtPc s c pc := by
  cases ph with
  | bounded c' i =>
    by_cases hi : i = j
    · cases pc <;> simp_all [AtPc, Phase.onCaptured, Taken]
    · rwa [Phase.onCaptured, if_neg hi]
  | _ => exact h

end AtPc

namespace Tracks

variable {ph : Phase} {s : Session}

lemma login_eq_none (h : Tracks ph s) {c : Channel} (hidle : s.busy c = false)
    (howner : s.clientChannel = none ∨ s.clientChannel = some c) : s.login = none := by
  cases hlogin : s.login with
  | none => rfl
  | some l =>
    have hl := h.owner l.1 l.2 hlogin
    rcases howner with howner | howner
    · rw [howner] at hl
      cases hl
    · rw [howner] at hl
      cases hl
      simp [Session.busy, hlogin] at hidle

lemma not_ready (h : Tracks ph s) (hbroken : ∀ c, ph ≠ .broken c)
    (hsent : ∀ c j world, ph ≠ .sent c j world) : s.clientState ≠ .AwaitReady := by
  intro hstate
  rcases h.ready hstate with ⟨c, hph⟩ | ⟨c, j, world, hph, -⟩
  · exact hbroken c hph
  · exact hsent c j world hph

lemma setLogin (h : Tracks ph s) (login : Option (Channel × LoginPc))
    (hlogin : ∀ c pc, login = some (c, pc) → s.clientChannel = some c ∧ ph.AtPc s c pc) :
    Tracks ph { s with login := login } :=
  { h with
    owner := fun c pc hpc => (hlogin c pc hpc).1
    pc := fun c pc hpc => (hlogin c pc hpc).2 }

/-- The event loop goes on to another place. -/
lemma goto (h : Tracks ph s) {c : Channel} {pc : LoginPc} (hlogin : s.login = some (c, pc))
    (pc' : LoginPc)
    (hpc : ph.AtPc s c pc → ph.AtPc s c pc') : Tracks ph (s.goto c pc') := by
  refine h.setLogin _ ?_
  rintro c' pc'' heq
  cases heq
  exact ⟨h.owner c pc hlogin, hpc (h.pc c pc hlogin)⟩

/-- A failure breaks the login, and the handoff notices it. -/
lemma fail (h : Tracks ph s) {x : LoginHandoff} (hx : x.state = .Idle ∨ x.state = .Failed)
    (hidle : ∀ c, ph = greeted c false → s.handoff.state = .Idle → x.state = .Idle)
    (hmid : s.midSession = false → x.state = .Idle) :
    Tracks ph.onFailed { s with handoff := x } where
  owner := h.owner
  pc c pc hpc := (h.pc c pc hpc).onFailed (hidle c) id (fun _ hj => hj) le_rfl
  idle := hmid
  started hph := by
    refine h.started ?_
    cases ph with
    | outside | greeted => exact hph.elim
    | _ => trivial
  broken _ _ := hx
  ready hstate := by
    rcases h.ready hstate with ⟨c, rfl⟩ | ⟨c, j, world, rfl, -⟩
    · exact .inl ⟨c, rfl⟩
    · exact .inl ⟨c, rfl⟩
  unfinished c j hph := by cases ph <;> simp [Phase.onFailed] at hph
  unbounded c j hph := by cases ph <;> simp [Phase.onFailed] at hph
  fresh := h.fresh

/-- A failure after which the handoff is idle. -/
lemma failIdle (h : Tracks ph s) {x : LoginHandoff} (hx : x.state = .Idle) :
    Tracks ph.onFailed { s with handoff := x } :=
  h.fail (.inl hx) (fun _ _ _ => hx) fun _ => hx

/-- The tasks of A's render thread. -/
lemma work (h : Tracks ph s) (queue : List Task) (render : RenderPc) (job : JobId → Job)
    (hunused : ∀ j, s.Unused j →
      Session.Unused { s with queue := queue, render := render, job := job } j)
    (hunfinished : ∀ j, (s.job j).ok = false → s.render ≠ .finishing j true →
      (job j).ok = false ∧ render ≠ .finishing j true)
    (hunbounded : ∀ j, s.render ≠ .capturing j → render ≠ .capturing j) :
    Tracks ph { s with queue := queue, render := render, job := job } where
  owner := h.owner
  pc c pc hpc := (h.pc c pc hpc).mono id id hunused le_rfl
  idle := h.idle
  started := h.started
  broken := h.broken
  ready := h.ready
  unfinished c j hph := hunfinished j (h.unfinished c j hph).1 (h.unfinished c j hph).2
  unbounded c j hph := hunbounded j (h.unbounded c j hph)
  fresh j hj := hunused j (h.fresh j hj)

lemma forward (h : Tracks ph s) (p : Packet) (ref : Bool) :
    Tracks ((s.forwardToB p ref).2.foldl Phase.next ph)
        { (s.forwardToB p ref).1 with dispatch := none } ∧
      Along Phase.next Allowed ph (s.forwardToB p ref).2 := by
  rcases s.forwardToB_cases p ref with heq | ⟨c, heq⟩ | ⟨hcap, -, heq | heq⟩
  · rw [heq]
    exact ⟨{ h with }, trivial⟩
  · rw [heq]
    exact ⟨{ h with }, trivial, trivial⟩
  · rw [heq]
    exact ⟨{ h with }, trivial⟩
  · rw [heq]
    have hne : s.handoff.state ≠ .Idle := by
      rw [hcap]
      exact nofun
    have hfail := h.fail (x := s.handoff.fail) (.inr rfl) (fun _ _ hidle => absurd hidle hne)
      fun hmid => absurd (h.idle hmid) hne
    exact ⟨{ hfail with }, trivial, trivial⟩

lemma timeout (h : Tracks ph s) :
    Tracks (s.checkLoginTimeout.2.foldl Phase.next ph) s.checkLoginTimeout.1 ∧
      Along Phase.next Allowed ph s.checkLoginTimeout.2 := by
  rcases s.checkLoginTimeout_cases with heq | ⟨-, heq⟩
  · rw [heq]
    exact ⟨h, trivial⟩
  · rw [heq]
    have hfail := h.failIdle (x := s.handoff.fail.reset) rfl
    have hreset := hfail.failIdle (x := s.handoff.fail.reset) rfl
    exact ⟨{ hreset with }, trivial, trivial, trivial⟩

lemma inactive (h : Tracks ph s) {c : Channel} (hidle : s.busy c = false)
    (howner : s.clientChannel = some c) :
    Tracks ph.onFailed
      { s with
          clientChannel := none
          clientState := .AwaitHandshake
          handoff := s.handoff.reset
          pending := []
          dispatch := some (.inactive .decide) } := by
  have hlogin := h.login_eq_none hidle (.inr howner)
  have hfail := h.failIdle (x := s.handoff.reset) rfl
  refine { hfail with owner := ?_, ready := nofun }
  intro c' pc hpc
  rw [hlogin] at hpc
  cases hpc

lemma boundary (h : Tracks ph s) {j : JobId} (hchecked : s.render = .checked j) :
    Tracks (ph.onBoundary j) { s with pending := [], render := .capturing j } := by
  have hunused (i : JobId) (hi : s.Unused i) :
      Session.Unused { s with pending := [], render := .capturing j } i := by
    refine ⟨hi.1, ?_, hi.2.2⟩
    have := hi.2.1
    rwa [hchecked] at this
  have hpc (c : Channel) (pc : LoginPc) (hlogin : s.login = some (c, pc)) :
      (ph.onBoundary j).AtPc { s with pending := [], render := .capturing j } c pc :=
    ((h.pc c pc hlogin).onBoundary j).mono id id hunused le_rfl
  have hfresh (i : JobId) (hi : s.nextJob ≤ i) := hunused i (h.fresh i hi)
  by_cases hph : ∃ c, ph = executed c j
  · obtain ⟨c, rfl⟩ := hph
    have hnext : (executed c j).onBoundary j = bounded c j := if_pos rfl
    rw [hnext] at hpc ⊢
    refine { h with
      pc := hpc, fresh := hfresh, started := fun _ => h.started trivial, broken := nofun,
      ready := fun hstate => absurd hstate (h.not_ready nofun nofun),
      unfinished := ?_, unbounded := nofun }
    rintro c' i (hc | hc)
    · cases hc
    · cases hc
      exact ⟨(h.unfinished c j (.inl rfl)).1, nofun⟩
  · rw [onBoundary_of_not hph] at hpc ⊢
    refine { h with pc := hpc, fresh := hfresh, unfinished := ?_, unbounded := ?_ }
    · exact fun c i hc => ⟨(h.unfinished c i hc).1, nofun⟩
    · rintro c i rfl heq
      cases heq
      exact hph ⟨c, rfl⟩

lemma capture (h : Tracks ph s) {j : JobId} (hpc : s.render = .capturing j) :
    Tracks (ph.onCaptured j s.world) { s with render := .finishing j true } := by
  have hunused (i : JobId) (hi : s.Unused i) :
      Session.Unused { s with render := .finishing j true } i := by
    refine ⟨hi.1, ?_, hi.2.2⟩
    have := hi.2.1
    rwa [hpc] at this
  have hat (c : Channel) (pc : LoginPc) (hlogin : s.login = some (c, pc)) :
      (ph.onCaptured j s.world).AtPc { s with render := .finishing j true } c pc :=
    ((h.pc c pc hlogin).onCaptured j s.world).mono id id hunused le_rfl
  have hfresh (i : JobId) (hi : s.nextJob ≤ i) := hunused i (h.fresh i hi)
  by_cases hph : ∃ c, ph = bounded c j
  · obtain ⟨c, rfl⟩ := hph
    have hnext : (bounded c j).onCaptured j s.world = captured c j s.world := if_pos rfl
    rw [hnext] at hat ⊢
    refine { h with
      pc := hat, fresh := hfresh, started := fun _ => h.started trivial, broken := nofun,
      ready := fun hstate => absurd hstate (h.not_ready nofun nofun),
      unfinished := ?_, unbounded := nofun }
    rintro c' i (hc | hc)
    · cases hc
    · cases hc
  · rw [onCaptured_of_not hph] at hat ⊢
    refine { h with pc := hat, fresh := hfresh, unfinished := ?_, unbounded := nofun }
    intro c i hc
    refine ⟨(h.unfinished c i hc).1, ?_⟩
    rintro heq
    cases heq
    rcases hc with rfl | rfl
    · exact h.unbounded c j rfl hpc
    · exact hph ⟨c, rfl⟩

lemma execute (h : Tracks ph s) {c : Channel} {j : JobId}
    (hlogin : s.login = some (c, .listed j)) :
    Tracks (ph.onExecuted j)
      { s with login := some (c, .waiting j), queue := s.queue ++ [.snapshot j] } := by
  obtain ⟨hph, hj, hlt⟩ := h.pc c _ hlogin
  have howner (c' : Channel) (pc : LoginPc) (heq : some (c, LoginPc.waiting j) = some (c', pc)) :
      s.clientChannel = some c' := by
    cases heq
    exact h.owner c _ hlogin
  have hfresh (i : JobId) (hi : s.nextJob ≤ i) : Session.Unused
      { s with login := some (c, .waiting j), queue := s.queue ++ [.snapshot j] } i := by
    obtain ⟨hok, hrender, hqueue⟩ := h.fresh i hi
    have hne : i ≠ j := Nat.ne_of_gt (Nat.lt_of_lt_of_le hlt hi)
    exact ⟨hok, hrender, by simp [hqueue, hne]⟩
  rcases hph with rfl | rfl
  · refine { h with
      owner := howner, pc := ?_, fresh := hfresh, started := fun _ => h.started trivial,
      broken := nofun, ready := fun hstate => absurd hstate (h.not_ready nofun nofun),
      unfinished := ?_, unbounded := ?_ }
    · rintro c' pc heq
      cases heq
      exact .inl rfl
    · rintro c' i (hc | hc)
      · cases hc
        exact ⟨hj.1, fun heq => hj.2.1 (by rw [heq]; rfl)⟩
      · cases hc
    · rintro c' i hc
      cases hc
      exact fun heq => hj.2.1 (by rw [heq]; rfl)
  · refine { h with owner := howner, pc := ?_, fresh := hfresh }
    rintro c' pc heq
    cases heq
    exact .inr (.inr (.inr rfl))

lemma list (h : Tracks ph s) {c : Channel} (hlogin : s.login = some (c, .syncing)) :
    Tracks ph
      { s with
          login := some (c, .listed s.nextJob)
          jobs := s.jobs ++ [s.nextJob]
          nextJob := s.nextJob + 1 } := by
  have hfresh := h.fresh s.nextJob le_rfl
  refine { h with owner := ?_, pc := ?_, fresh := ?_ }
  · rintro c' pc heq
    cases heq
    exact h.owner c _ hlogin
  · rintro c' pc heq
    cases heq
    exact ⟨h.pc c _ hlogin, hfresh, Nat.lt_succ_self _⟩
  · exact fun j hj => h.fresh j (Nat.le_of_succ_le hj)

lemma «begin» (h : Tracks ph s) {c : Channel} (hlogin : s.login = some (c, .targeted)) :
    Tracks (ph.onBegun c)
      { s with
          login := some (c, .syncing)
          pending := []
          handoff := s.handoff.begin s.now
          clientState := .Syncing } := by
  obtain ⟨⟨mid, rfl⟩, hmid⟩ := h.pc c _ hlogin
  have hnext : (greeted c mid).onBegun c = begun c := if_pos rfl
  rw [hnext]
  refine { h with
    owner := ?_, pc := ?_, idle := ?_, started := fun _ => hmid, broken := nofun, ready := nofun,
    unfinished := ?_, unbounded := nofun }
  · rintro c' pc heq
    cases heq
    exact h.owner c _ hlogin
  · rintro c' pc heq
    cases heq
    exact .inl rfl
  · intro hmid'
    have hfalse : s.midSession = false := hmid'
    rw [hmid] at hfalse
    cases hfalse
  · rintro c' i (hc | hc)
    · cases hc
    · cases hc

lemma intention (h : Tracks ph s) {c : Channel} (hidle : s.busy c = false)
    (howner : s.clientChannel = none ∨ s.clientChannel = some c) :
    Tracks ph { s with clientChannel := some c, clientState := .AwaitLogin } := by
  have hlogin := h.login_eq_none hidle howner
  refine { h with owner := ?_, ready := nofun }
  intro c' pc hpc
  rw [hlogin] at hpc
  cases hpc

lemma hello (h : Tracks ph s) {c : Channel} (howner : s.clientChannel = some c)
    (hstate : s.clientState = .AwaitLogin) :
    Tracks (greeted c s.midSession) (s.goto c .greeted) := by
  refine { h with
    owner := ?_, pc := ?_, started := nofun, broken := nofun, ready := ?_, unfinished := nofun,
    unbounded := nofun }
  · rintro c' pc heq
    cases heq
    exact howner
  · rintro c' pc heq
    cases heq
    exact ⟨_, rfl, id⟩
  · intro hready
    have : s.clientState = .AwaitReady := hready
    rw [hstate] at this
    cases this

lemma go (h : Tracks ph s) {c : Channel} {pc pc' : LoginPc} (hlogin : s.login = some (c, pc))
    (hgoes : Session.Goes s c pc pc') : Tracks ph (s.goto c pc') := by
  refine h.goto hlogin _ ?_
  cases hgoes with
  | rebuild hmid =>
    rintro ⟨mid, hph, -⟩
    exact ⟨⟨mid, hph⟩, hmid⟩
  | skip hmid =>
    rintro ⟨mid, hph, hm⟩
    rcases hmid with hnone | hmid
    · rw [h.owner c _ hlogin] at hnone
      cases hnone
    · cases mid with
      | false => exact .inr ⟨hph, h.idle hmid⟩
      | true => simp [hmid] at hm
  | target => exact id
  | taken j hok =>
    rintro (hph | hph | ⟨world, hph⟩ | hph)
    · rw [(h.unfinished c j (.inl hph)).1] at hok
      cases hok
    · rw [(h.unfinished c j (.inr hph)).1] at hok
      cases hok
    · exact .inl ⟨j, world, hph⟩
    · exact .inr hph
  | wrote => exact .inl
  | last =>
    rintro (htaken | hph)
    · refine .inl ⟨htaken, h.started ?_⟩
      rcases htaken with ⟨j, world, rfl⟩ | rfl
      · trivial
      · trivial
    · exact .inr hph
  | noTarget | noJob | notExecuted | notTaken | timeout => exact fun _ => trivial

end Tracks

/-- Writing packets to B does not concern the login. -/
lemma foldl_forwarded (ph : Phase) (c : Channel) (ps : List Packet) :
    (ps.map (Event.forwarded c)).foldl next ph = ph := by
  induction ps with
  | nil => rfl
  | cons p ps ih => exact ih

lemma along_forwarded (ph : Phase) (c : Channel) (ps : List Packet) :
    Along next Allowed ph (ps.map (Event.forwarded c)) := by
  induction ps with
  | nil => trivial
  | cons p ps ih => exact ⟨trivial, ih⟩

namespace Tracks

variable {ph : Phase} {s : Session}

/-- A handoff that is still open at the end of `completeLogin` has its snapshot. -/
lemma captured_of_capturing (h : Tracks ph s) {c : Channel}
    (hlogin : s.login = some (c, .finishing true)) (hcap : s.handoff.state = .Capturing) :
    ∃ j world, ph = .captured c j world := by
  rcases h.pc c _ hlogin with ⟨hph | rfl, -⟩ | ⟨-, hidle⟩
  · exact hph
  · rcases h.broken c rfl with hs | hs
    · simp [hs] at hcap
    · simp [hs] at hcap
  · simp [hidle] at hcap

lemma finishMid (h : Tracks ph s) {c : Channel} (hlogin : s.login = some (c, .finishing true)) :
    Tracks ((({ s with login := none } : Session).finishMidSession c).2.foldl Phase.next ph)
        (({ s with login := none } : Session).finishMidSession c).1 ∧
      Along Phase.next Allowed ph
        (({ s with login := none } : Session).finishMidSession c).2 := by
  have hnone : Tracks ph { s with login := none } := h.setLogin none (by simp)
  have howner := h.owner c _ hlogin
  rcases Session.finishMidSession_cases (s := { s with login := none }) howner with
    heq | ⟨-, heq⟩ | ⟨-, hcap, heq⟩
  · rw [heq]
    exact ⟨hnone, trivial⟩
  · rw [heq]
    -- `fail`, and then `fail` and `reset` in the check of the timeout
    have hfail := hnone.failIdle (x := s.handoff.fail.fail.reset) rfl
    have hagain := hfail.failIdle (x := s.handoff.fail.fail.reset) rfl
    have hreset := hagain.failIdle (x := s.handoff.fail.fail.reset) rfl
    exact ⟨{ hreset with }, trivial, trivial, trivial, trivial⟩
  · rw [heq]
    have hcap : s.handoff.state = .Capturing := hcap
    obtain ⟨j, world, rfl⟩ := h.captured_of_capturing hlogin hcap
    have hmid := h.started trivial
    simp only [List.foldl_cons, Phase.next, onSent, if_true]
    rw [foldl_forwarded]
    refine ⟨{ hnone with
      idle := ?_, started := fun _ => hmid, broken := by simp, ready := ?_, unfinished := ?_,
      unbounded := by simp, pc := by simp }, trivial, ?_, ?_⟩
    · intro hmid'
      have hfalse : s.midSession = false := hmid'
      rw [hmid] at hfalse
      cases hfalse
    · exact fun _ => .inr ⟨c, j, world, rfl, howner, rfl⟩
    · rintro c' i (hc | hc)
      · cases hc
      · cases hc
    · simp only [Phase.next, onSent, if_true]
      exact ⟨j, world, rfl⟩
    · exact along_forwarded _ c _

lemma finishPlay (h : Tracks ph s) {c : Channel}
    (hlogin : s.login = some (c, .finishing false)) :
    Tracks ph { s with login := none, clientState := .Play } ∧ ph = greeted c false := by
  constructor
  · exact { h.setLogin none nofun with ready := nofun, pc := nofun }
  · rcases h.pc c _ hlogin with ⟨-, hmid⟩ | ⟨hph, -⟩
    · cases hmid
    · exact hph

/-- An acknowledgement counts only if the snapshot was sent. -/
lemma acknowledge (h : Tracks ph s) (c : Channel) (hlogin : s.login = none) {st : ClientState}
    (hst : st = .AwaitReady → s.clientState = .AwaitReady ∧ s.handoff.state ≠ .AwaitingAck) :
    Tracks (ph.onAcknowledged c)
      { s with
          handoff := (s.handoff.acknowledge LoginHandoff.teleportId).2
          clientState := st } := by
  have hpc (ph' : Phase) (c' : Channel) (pc : LoginPc) (heq : s.login = some (c', pc)) :
      ph'.AtPc
        { s with
            handoff := (s.handoff.acknowledge LoginHandoff.teleportId).2
            clientState := st } c' pc := by
    rw [hlogin] at heq
    cases heq
  -- the confirmation does not come before the snapshot was sent in any other phase
  have hkeep (hs : s.handoff.state = .Idle ∨ s.handoff.state = .Failed) :
      (s.handoff.acknowledge LoginHandoff.teleportId).2 = s.handoff := by
    refine LoginHandoff.acknowledge_state_of_ne ?_
    rcases hs with hs | hs
    · simp [hs]
    · simp [hs]
  have hidle (hmid : s.midSession = false) :
      (s.handoff.acknowledge LoginHandoff.teleportId).2.state = .Idle := by
    rw [hkeep (.inl (h.idle hmid))]
    exact h.idle hmid
  have hready (hstate : st = .AwaitReady) : ∃ c, ph = .broken c := by
    obtain ⟨hstate, hack⟩ := hst hstate
    rcases h.ready hstate with hph | ⟨c', j, world, -, -, hs⟩
    · exact hph
    · exact absurd hs hack
  by_cases hph : ∃ j world, ph = .sent c j world
  · obtain ⟨j, world, rfl⟩ := hph
    have hnext : (Phase.sent c j world).onAcknowledged c = .acknowledged c j world := if_pos rfl
    rw [hnext]
    refine { h with
      pc := hpc _, idle := hidle, started := fun _ => h.started trivial, broken := nofun,
      ready := ?_, unfinished := ?_, unbounded := nofun }
    · intro hstate
      obtain ⟨c', hc'⟩ := hready hstate
      cases hc'
    · rintro c' i (hc | hc)
      · cases hc
      · cases hc
  · rw [onAcknowledged_of_not hph]
    refine { h with pc := hpc _, idle := hidle, broken := ?_, ready := ?_ }
    · intro c' hc'
      rw [hkeep (h.broken c' hc')]
      exact h.broken c' hc'
    · exact fun hstate => .inl (hready hstate)

lemma packet (h : Tracks ph s) {c : Channel} (hidle : s.busy c = false)
    (howner : s.clientChannel = some c) (m : ClientPacket) :
    Tracks ((s.handleClientPacket c m).2.foldl Phase.next ph) (s.handleClientPacket c m).1 ∧
      Along Phase.next Allowed ph (s.handleClientPacket c m).2 := by
  have hlogin := h.login_eq_none hidle (.inr howner)
  rcases s.handleClientPacket_cases c m with heq | ⟨-, -, heq⟩ | ⟨hstate, hact, heq⟩ | ⟨hnot, heq⟩
  · rw [heq]
    exact ⟨h, trivial⟩
  · rw [heq]
    exact ⟨h, trivial, trivial⟩
  · rw [heq]
    refine ⟨h.acknowledge c hlogin nofun, trivial, ?_, trivial⟩
    rcases h.ready hstate with ⟨c', rfl⟩ | ⟨c', j, world, rfl, hc', -⟩
    · have hs := h.broken c' rfl
      rw [LoginHandoff.acknowledge_state_of_ne (by rcases hs with hs | hs <;> simp [hs])] at hact
      simp [hact] at hs
    · rw [howner] at hc'
      cases hc'
      exact .inl ⟨j, world, if_pos rfl⟩
  · rw [heq]
    refine ⟨h.acknowledge c hlogin ?_, trivial, trivial⟩
    intro hstate
    refine ⟨hstate, fun hack => hnot ⟨hstate, ?_⟩⟩
    rw [LoginHandoff.acknowledge_local, if_pos hack]

/-- The render thread takes a task out of its queue. -/
lemma dequeue (h : Tracks ph s) {t : Task} {q : List Task} (hqueue : s.queue = t :: q) :
    Tracks ph { s with queue := q } := by
  refine h.work q s.render s.job ?_ (fun j hok hrender => ⟨hok, hrender⟩) fun _ => id
  rintro j ⟨hok, hrender, hq⟩
  rw [hqueue] at hq
  exact ⟨hok, hrender, fun hmem => hq (List.mem_cons_of_mem _ hmem)⟩

lemma find (h : Tracks ph s) {j : JobId} {q : List Task} (hqueue : s.queue = .snapshot j :: q) :
    Tracks ph { s with queue := q, render := .found j } := by
  refine h.work q (.found j) s.job ?_ (fun i hok _ => ⟨hok, nofun⟩) nofun
  rintro i ⟨hok, hrender, hq⟩
  rw [hqueue] at hq
  refine ⟨hok, ?_, fun hmem => hq (List.mem_cons_of_mem _ hmem)⟩
  -- a job that nobody has started with is not in the queue
  rintro heq
  cases heq
  exact hq List.mem_cons_self

lemma check (h : Tracks ph s) {j : JobId} (hfound : s.render = .found j) :
    Tracks ph { s with render := .checked j } := by
  refine h.work s.queue (.checked j) s.job ?_ (fun i hok _ => ⟨hok, nofun⟩) nofun
  rintro i ⟨hok, hrender, hq⟩
  rw [hfound] at hrender
  exact ⟨hok, hrender, hq⟩

lemma abandon (h : Tracks ph s) {j : JobId}
    (hpc : s.render = .found j ∨ s.render = .checked j ∨ s.render = .capturing j) :
    Tracks ph { s with render := .finishing j false } := by
  refine h.work s.queue (.finishing j false) s.job ?_ (fun i hok _ => ⟨hok, nofun⟩) nofun
  rintro i ⟨hok, hrender, hq⟩
  refine ⟨hok, ?_, hq⟩
  rcases hpc with hpc | hpc | hpc
  · rwa [hpc] at hrender
  · rwa [hpc] at hrender
  · rwa [hpc] at hrender

/-- A job is published that has been taken, if the phase is still waiting for it. -/
lemma publish (h : Tracks ph s) {j : JobId} {ok : Bool} (hpc : s.render = .finishing j ok) :
    Tracks ph (({ s with render := .idle } : Session).setJob j
      { s.job j with done := true, ok := ok && !(s.job j).cancelled }) := by
  refine h.work s.queue .idle (fun i => if i = j then
    { s.job j with done := true, ok := ok && !(s.job j).cancelled } else s.job i) ?_ ?_ nofun
  · rintro i ⟨hok, hrender, hq⟩
    have hne : i ≠ j := by
      rintro rfl
      exact hrender (by rw [hpc]; rfl)
    exact ⟨by simpa [hne] using hok, nofun, hq⟩
  · intro i hok hrender
    by_cases hi : i = j
    · subst hi
      have hfalse : ok = false := by
        cases ok with
        | false => rfl
        | true => exact absurd hpc hrender
      simp [hfalse]
    · simpa [hi] using hok

lemma cancel (h : Tracks ph s) {c : Channel} {j : JobId}
    (hlogin : s.login = some (c, .timedOut j)) :
    Tracks ph ((s.goto c (.cancelled j)).setJob j { s.job j with cancelled := true }) := by
  have hok (i : JobId) : (((s.goto c (.cancelled j)).setJob j
      { s.job j with cancelled := true }).job i).ok = (s.job i).ok := by
    by_cases hi : i = j
    · simp [Session.setJob, hi]
    · simp [Session.setJob, Session.goto, hi]
  exact (h.goto hlogin (.cancelled j) fun _ => trivial).work
    s.queue s.render ((s.goto c (.cancelled j)).setJob j { s.job j with cancelled := true }).job
    (fun i hi => ⟨(hok i).trans hi.1, hi.2⟩) (fun i hi hr => ⟨(hok i).trans hi, hr⟩) fun _ => id

/-- The snapshot could not be written. -/
lemma writeFailed (h : Tracks ph s) {c : Channel} (hlogin : s.login = some (c, .captured)) :
    Tracks ph.onFailed
      { s with login := some (c, .failed), pending := [], handoff := s.handoff.fail } := by
  have hmid : s.midSession = true := by
    refine h.started ?_
    rcases h.pc c _ hlogin with ⟨j, world, rfl⟩ | rfl
    · trivial
    · trivial
  have hfail := (h.goto hlogin .failed fun _ => trivial).fail (x := s.handoff.fail)
    (.inr rfl) ?_ fun hfalse => absurd hfalse (by simp [Session.goto, hmid])
  · exact { hfail with }
  · rintro c' rfl
    rcases h.pc c _ hlogin with ⟨j, world, hc⟩ | hc
    · cases hc
    · cases hc

/-- The step lemma: the phase keeps up with the session, and nothing happens that the phase
does not allow. -/
lemma step {s' : Session} {a : Action} {es : List Event} (h : Tracks ph s)
    (hstep : Session.step s a = some (s', es)) :
    Tracks (es.foldl Phase.next ph) s' ∧ Along Phase.next Allowed ph es := by
  cases Session.step_cases hstep with
  | stay => exact ⟨h, trivial⟩
  | dispatch p =>
    refine ⟨{ h.work (s.queue ++ [Task.packet p]) s.render s.job ?_ ?_
      fun _ => id with }, trivial, trivial⟩
    · rintro j ⟨hok, hrender, hqueue⟩
      exact ⟨hok, hrender, by simpa using hqueue⟩
    · exact fun j hok hrender => ⟨hok, hrender⟩
  | forward p ref => exact h.forward p ref
  | apply p q _ hqueue => exact ⟨{ h.dequeue hqueue with }, trivial⟩
  | drop j q _ hqueue => exact ⟨h.dequeue hqueue, trivial⟩
  | find j q _ hqueue => exact ⟨{ h.find hqueue with }, trivial⟩
  | check j hfound => exact ⟨h.check hfound, trivial⟩
  | abandon j hpc => exact ⟨h.abandon hpc, trivial⟩
  | boundary j hchecked => exact ⟨h.boundary hchecked, trivial, trivial⟩
  | capture j hpc => exact ⟨h.capture hpc, trivial, trivial⟩
  | publish j ok hpc => exact ⟨h.publish hpc, trivial⟩
  | intention c hidle howner => exact ⟨h.intention hidle howner, trivial, trivial, trivial⟩
  | hello c _ howner hstate => exact ⟨h.hello howner hstate, trivial, trivial⟩
  | leave c pc hlogin => exact ⟨h.setLogin none nofun, trivial⟩
  | go c pc pc' hlogin hgoes => exact ⟨h.go hlogin hgoes, trivial⟩
  | «begin» c hlogin =>
    obtain ⟨⟨mid, hph⟩, -⟩ := h.pc c _ hlogin
    exact ⟨h.begin hlogin, ⟨mid, hph⟩, trivial, trivial⟩
  | list c hlogin => exact ⟨h.list hlogin, trivial⟩
  | execute c j hlogin => exact ⟨h.execute hlogin, trivial, trivial⟩
  | cancel c j hlogin => exact ⟨h.cancel hlogin, trivial⟩
  | remove c j hlogin =>
    exact ⟨{ h.goto hlogin .failed fun _ => trivial with }, trivial⟩
  | writeFailed c hlogin => exact ⟨h.writeFailed hlogin, trivial, trivial⟩
  | finishMid c hlogin => exact h.finishMid hlogin
  | finishPlay c hlogin => exact ⟨(h.finishPlay hlogin).1, .inr (h.finishPlay hlogin).2, trivial⟩
  | packet c m hidle _ howner => exact h.packet hidle howner m
  | inactive c hidle _ howner => exact ⟨h.inactive hidle howner, trivial, trivial, trivial⟩
  | closing | world => exact ⟨{ h with }, trivial⟩
  | stop => exact ⟨{ h with }, trivial, trivial⟩
  | captureLive k =>
    refine ⟨{ h with pc := ?_, idle := nofun, started := fun _ => rfl }, trivial⟩
    exact fun c pc hpc => (h.pc c pc hpc).mono (fun _ => rfl) id (fun _ hj => hj) le_rfl
  | timeout => exact h.timeout

end Tracks

/-! ## Runs -/

lemma tracks_start {s : Session} (h : s.Start) : Tracks outside s where
  owner c pc hpc := by simp [h.login] at hpc
  pc c pc hpc := by simp [h.login] at hpc
  idle _ := h.handoff
  started := nofun
  broken := nofun
  ready hstate := by simp [h.clientState] at hstate
  unfinished := nofun
  unbounded := nofun
  fresh j _ := ⟨by rw [h.job], by simp [h.render, RenderPc.job], h.queue j⟩

lemma tracks_run {s₀ s : Session} {tr : List Event} (h₀ : s₀.Start)
    (hrun : Step.Run Session.step s₀ tr s) :
    Tracks (tr.foldl next outside) s ∧ Along next Allowed outside tr := by
  refine hrun.along (tracks_start h₀) ?_
  exact fun _ _ _ _ _ h hstep => h.step hstep

/-- Every event of a run is allowed in the phase that the events before it lead to. -/
lemma allowed_run {s₀ s : Session} {pre post : List Event} {e : Event} (h₀ : s₀.Start)
    (hrun : Step.Run Session.step s₀ (pre ++ e :: post) s) :
    Allowed (pre.foldl next outside) e :=
  (along_append.mp (tracks_run h₀ hrun).2).2.1

/-- B enters `Play` after the steps of the handover, or at a login that found A out of game. -/
lemma play_run {s₀ s : Session} {pre post : List Event} {c : Channel} (h₀ : s₀.Start)
    (hrun : Step.Run Session.step s₀ (pre ++ .enter c .Play :: post) s) :
    (∃ live mid j world, LoginWith c live mid (handoverSteps c j world) pre) ∨
      ∃ live, LoginWith c live false [] pre := by
  have hhistory := history_foldl pre
  rcases allowed_run h₀ hrun with ⟨j, world, hph⟩ | hph
  · rw [hph] at hhistory
    obtain ⟨live, mid, h⟩ := hhistory
    exact .inl ⟨live, mid, j, world, h⟩
  · rw [hph] at hhistory
    exact .inr hhistory

/-- After a failure, B enters neither `AwaitReady` nor `Play` before it logs in again. -/
lemma failed_run {s₀ s : Session} {pre t t' post : List Event} {c c' : Channel} {e : Event}
    {st : ClientState} (h₀ : s₀.Start)
    (hrun : Step.Run Session.step s₀
      (pre ++ .begun c :: (t ++ e :: (t' ++ .enter c' st :: post))) s)
    (he : e = .failed ∨ e = .reset) (hst : st = .AwaitReady ∨ st = .Play) :
    ∃ e' ∈ t ++ t', e'.IsLogin := by
  by_contra hnone
  push Not at hnone
  obtain ⟨mid, hgreeted⟩ := allowed_run h₀ hrun
  have hbegun : (pre ++ [Event.begun c]).foldl next outside = begun c := by
    rw [List.foldl_append, hgreeted]
    exact if_pos rfl
  have hstart : (begun c).Started := trivial
  have hstarted : (t.foldl next (begun c)).Started :=
    hstart.foldl fun e' he' => hnone e' (List.mem_append_left _ he')
  obtain ⟨c'', hbroken⟩ := hstarted.onFailed
  have hfailed : (t.foldl next (begun c)).next e = broken c'' := by
    rcases he with rfl | rfl
    · exact hbroken
    · exact hbroken
  have hlast := foldl_broken (c := c'') fun e' he' => hnone e' (List.mem_append_right t he')
  have hrun' : Step.Run Session.step s₀
      ((pre ++ .begun c :: (t ++ e :: t')) ++ .enter c' st :: post) s := by
    simpa using hrun
  have hallowed := allowed_run h₀ hrun'
  have hphase : (pre ++ .begun c :: (t ++ e :: t')).foldl next outside = broken c'' := by
    rw [← List.singleton_append, ← List.append_assoc, List.foldl_append, hbegun,
      List.foldl_append, List.foldl_cons, hfailed, hlast]
  rw [hphase] at hallowed
  rcases hst with rfl | rfl
  · obtain ⟨j, world, h⟩ := hallowed
    cases h
  · rcases hallowed with ⟨j, world, h⟩ | h
    · cases h
    · cases h

end Phase

/-- `midSession` stays set, and the logins see it. -/
lemma midSession_step {s s' : Session} {a : Action} {es : List Event}
    (hmid : s.midSession = true) (hstep : Session.step s a = some (s', es)) :
    s'.midSession = true ∧ ∀ c live mid, .login c live mid ∈ es → mid = true := by
  have hsection {k : Session.Section} {s' : Session} {es : List Event}
      (h : Session.InSection k s s' es) :
      s'.midSession = true ∧ ∀ c live mid, .login c live mid ∈ es → mid = true := by
    refine ⟨h.midSession.trans hmid, ?_⟩
    intro c live mid he
    have hemits := h.events _ he
    cases k with
    | forward | finish | packet | timeout => exact False.elim hemits
  cases Session.step_cases hstep with
  | forward p ref => exact hsection (s.forwardToB_section p ref).release
  | finishMid c => exact hsection (s.finishLogin_section c)
  | packet c m => exact hsection (s.handleClientPacket_section c m)
  | timeout => exact hsection s.checkLoginTimeout_section
  | hello c => exact ⟨hmid, by simp [hmid]⟩
  | captureLive => exact ⟨rfl, by simp⟩
  | _ => exact ⟨hmid, by simp⟩

lemma midSession_run {s₀ s : Session} {tr : List Event} (hmid : s₀.midSession = true)
    (hrun : Step.Run Session.step s₀ tr s) :
    ∀ c live mid, .login c live mid ∈ tr → mid = true := by
  have hinv := hrun.invariant
    (I := fun tr s => s.midSession = true ∧ ∀ c live mid, .login c live mid ∈ tr → mid = true)
    ⟨hmid, by simp⟩ ?_
  · exact hinv.2
  · rintro tr s a s' es ⟨hmid, htr⟩ hstep
    obtain ⟨hmid', hes⟩ := midSession_step hmid hstep
    refine ⟨hmid', ?_⟩
    intro c live mid hmem
    rcases List.mem_append.mp hmem with hmem | hmem
    · exact htr c live mid hmem
    · exact hes c live mid hmem

/-- The confirmation of the local teleport is never passed on to A's connection. -/
lemma routed_step {s s' : Session} {a : Action} {es : List Event}
    (hstep : Session.step s a = some (s', es)) {m : ClientPacket} (hm : .routed m ∈ es)
    (hcls : m.cls = acceptTeleportation) : m.ack ≠ some LoginHandoff.teleportId := by
  cases Session.step_cases hstep with
  | forward p ref => exact False.elim ((s.forwardToB_section p ref).events _ hm)
  | finishMid c => exact False.elim ((s.finishLogin_section c).events _ hm)
  | packet c m' =>
    rcases s.handleClientPacket_cases c m' with heq | ⟨hack, -, heq⟩ | ⟨-, -, heq⟩ | ⟨-, heq⟩
    · simp [heq] at hm
    · rw [heq] at hm
      cases List.mem_singleton.mp hm
      exact hack hcls
    · simp [heq] at hm
    · simp [heq] at hm
  | timeout => exact False.elim (s.checkLoginTimeout_section.events _ hm)
  | _ => simp at hm

/-- In a session that started with A in game, B gets control only after the handoff of the same
login has begun and its snapshot was taken, sent and acknowledged, with no failure or reset
since.  After a failure the login gets nowhere, and the confirmation of the snapshot is never
passed on to A's connection. -/
theorem handover_run {s₀ s : Session} {tr : List Event} (h₀ : s₀.Start)
    (hmid : s₀.midSession = true) (hrun : Step.Run Session.step s₀ tr s) :
    (∀ pre c post, tr = pre ++ .enter c .Play :: post →
      ∃ live mid j world, LoginWith c live mid (handoverSteps c j world) pre) ∧
    (∀ pre c t e t' c' st post,
      tr = pre ++ .begun c :: (t ++ e :: (t' ++ .enter c' st :: post)) →
      (e = .failed ∨ e = .reset) → (st = .AwaitReady ∨ st = .Play) →
      ∃ e' ∈ t ++ t', e'.IsLogin) ∧
    (∀ s a s' es, Session.step s a = some (s', es) → ∀ m, .routed m ∈ es →
      m.cls = acceptTeleportation → m.ack ≠ some LoginHandoff.teleportId) := by
  refine ⟨?_, ?_, fun s a s' es hstep m hm => routed_step hstep hm⟩
  · rintro pre c post rfl
    rcases Phase.play_run h₀ hrun with h | ⟨live, pre', t₀, t, rfl, -⟩
    · exact h
    · have hlogin := midSession_run hmid hrun c live false (by simp)
      cases hlogin
  · rintro pre c t e t' c' st post rfl
    exact Phase.failed_run h₀ hrun

/-- What the threads do in a login that succeeds. -/
def loginActions (c : Channel) : List Action :=
  [.intention c, .hello c, .readMidSession, .takeTarget true, .beginHandoff, .listJob true,
    .execute true, .runTask, .snapshotCheck true, .snapshotBoundary, .snapshotCapture true,
    .snapshotPublish, .waitDone true, .writeSnapshot true, .readMidSessionAgain, .finishLogin,
    .packet c ⟨acceptTeleportation, some LoginHandoff.teleportId⟩]

def inGame : Session where
  midSession := true
  live := [0]
  targetConnection := some 0

lemma inGame_start : inGame.Start :=
  ⟨rfl, rfl, rfl, rfl, rfl, rfl, rfl, fun _ => rfl, rfl, by simp [inGame]⟩

/-- B logs in while A is in game. -/
theorem handover_run_test : ∃ pre post s,
    Step.Run Session.step inGame (pre ++ .enter 1 .Play :: post) s ∧
      ∃ live mid j world, LoginWith 1 live mid (handoverSteps 1 j world) pre := by
  obtain ⟨s, hrun⟩ : ∃ s, Step.Run Session.step inGame
      ([.intention 1, .enter 1 .AwaitLogin, .login 1 true true, .begun 1, .enter 1 .Syncing,
        .executed 0, .boundary 0, .captured 0 [], .sent 1, .enter 1 .AwaitReady,
        .acknowledged 1] ++ .enter 1 .Play :: []) s :=
    Step.run_of_trace (show (Step.exec Session.step inGame (loginActions 1)).map Prod.snd =
      some _ by decide)
  exact ⟨_, [], s, hrun, (handover_run inGame_start rfl hrun).1 _ 1 [] rfl⟩

end Server
end SakuraTools
