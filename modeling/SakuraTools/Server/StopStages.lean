import SakuraTools.Server.Proxy

/-!
# The stages of a stop

What the calls of `stopSession` have achieved when they have returned true, and that it stays so
until `stopSession` returns: `StopBServer` has closed the channels and waited for the gate tasks,
and `UninstallConnectionHook` has restored `Connection`.  A `Connection` that the callback has seen
and that is defined after the classes were listed stays as it is.
-/

namespace SakuraTools
namespace Server

/-- The listener is closed, and so is every channel that `initChannel` has accepted and that is
alive. -/
structure ChannelsClosed (s : ServerState) (j : Java) : Prop where
  listening : j.listening = false
  channels : ∀ c ∈ s.children ++ j.unlisted, c.collected = false → c.isOpen = false

/-- The event of the hook is disabled, and no `Connection` is patched any more. -/
structure Java.Unhooked (j : Java) : Prop where
  hooked : j.hooked = false
  restored : ∀ c ∈ j.classes, c.isConnection = true → c.patched = false

/-! ## The controller -/

/-- `StopBServer` has returned true in the call of `stopSession` that is running. -/
def Controller.stopped : Controller → Bool
  | .stop _ (.unhook stopped) | .stop _ (.detach stopped _) => stopped
  | _ => false

/-- `UninstallConnectionHook` has returned true in the call of `stopSession` that is running. -/
def Controller.unhooked : Controller → Bool
  | .stop _ (.detach _ unhooked) => unhooked
  | _ => false

/-- The controller is in `startSession`. -/
def Controller.starting : Controller → Bool
  | .install | .openGate | .activate => true
  | _ => false

/-- The step is one of the last three of `stopSession`. -/
def RuntimeAction.late : RuntimeAction → Bool
  | .server _ | .unhook _ | .detach _ _ => true
  | _ => false

namespace Runtime

/-- A session can start, or it has started and the gate is still closed. -/
def Fresh (r : Runtime) : Prop :=
  (r.pc.resting = true ∧ r.active = false ∧ r.clean = true) ∨ r.pc = .install ∨ r.pc = .openGate

variable {r r' : Runtime} {a : RuntimeAction} {es : List RuntimeEvent}

/-- The step is not one that ends `stopSession` well, and it does not make a session possible. -/
structure Early (r r' : Runtime) : Prop where
  stopped : r'.pc.stopped = true → r.pc.stopped = true
  unhooked : r'.pc.unhooked = true → r.pc.unhooked = true
  fresh : r'.Fresh → r.Fresh
  activate : r'.pc = .activate → r.Fresh ∨ r.pc = .activate

/-- A callback leaves the controller alone. -/
lemma Early.callback (hpc : r'.pc = r.pc) (hactive : r'.active = r.active)
    (hclean : r'.clean = r.clean) : Early r r' := by
  refine ⟨?_, ?_, ?_, ?_⟩
  · rw [hpc]
    exact id
  · rw [hpc]
    exact id
  · rw [Fresh, hpc, hactive, hclean]
    exact id
  · rw [hpc]
    exact .inr

/-- The controller goes on, but not to the end of `stopSession` and not into `startSession`. -/
lemma Early.move (hstopped : r'.pc.stopped = false) (hunhooked : r'.pc.unhooked = false)
    (hactivate : r'.pc ≠ .activate) (hfresh : r'.Fresh → r.Fresh) : Early r r' := by
  refine ⟨?_, ?_, hfresh, fun h => absurd h hactivate⟩
  · rw [hstopped]
    simp
  · rw [hunhooked]
    simp

lemma pc_ne (hstarting : r.pc.starting = false) {pc : Controller} (hpc : pc.starting = true) :
    r.pc ≠ pc := by
  intro h
  rw [h, hpc] at hstarting
  cases hstarting

/-- No session is possible outside the loop of the controller. -/
lemma not_fresh (hresting : r.pc.resting = false) (hinstall : r.pc ≠ .install)
    (hopen : r.pc ≠ .openGate) : ¬ r.Fresh := by
  rintro (⟨h, -⟩ | h | h)
  · rw [hresting] at h
    cases h
  · exact hinstall h
  · exact hopen h

lemma not_fresh_of_away (hresting : r.pc.resting = false) (hstarting : r.pc.starting = false) :
    ¬ r.Fresh := not_fresh hresting (pc_ne hstarting rfl) (pc_ne hstarting rfl)

/-- The controller stands where no session is possible. -/
lemma Early.away (hstopped : r'.pc.stopped = false) (hunhooked : r'.pc.unhooked = false)
    (hresting : r'.pc.resting = false) (hstarting : r'.pc.starting = false) : Early r r' :=
  .move hstopped hunhooked (pc_ne hstarting rfl) fun h =>
    absurd h (not_fresh_of_away hresting hstarting)

/-- `startSession` returns. -/
lemma Early.started (r : Runtime) (result : Bool) : Early r (r.started result).1 := by
  cases result with
  | false => exact .away rfl rfl rfl rfl
  | true =>
    refine .move rfl rfl (pc_ne rfl rfl) ?_
    rintro (⟨-, h, -⟩ | h | h) <;> cases h

/-- A session is possible after `stopSession` only when it has returned true. -/
lemma eq_true_of_fresh {caller : StopCaller} {result : Bool} {now : ℕ}
    (h : (r.stopped caller result now).1.Fresh) : result = true := by
  cases caller with
  | exit => exact absurd h (not_fresh_of_away rfl rfl)
  | retry =>
    rcases h with ⟨-, -, h⟩ | h | h
    · exact h
    · cases h
    · cases h
  | failedStart =>
    rcases h with ⟨-, -, h⟩ | h | h
    · exact h
    · cases h
    · cases h
  | delete =>
    rcases h with ⟨-, -, h⟩ | h | h
    · exact h
    · cases h
    · cases h

/-- `stopSession` gives up. -/
lemma Early.gaveUp (r : Runtime) (caller : StopCaller) (now : ℕ) :
    Early r (r.stopped caller false now).1 := by
  have hnot : ¬ (r.stopped caller false now).1.Fresh := fun h => by cases eq_true_of_fresh h
  cases caller with
  | exit => exact .away rfl rfl rfl rfl
  | retry => exact .move rfl rfl (pc_ne rfl rfl) fun h => absurd h hnot
  | failedStart => exact .move rfl rfl (pc_ne rfl rfl) fun h => absurd h hnot
  | delete => exact .move rfl rfl (pc_ne rfl rfl) fun h => absurd h hnot

/-- The controller goes on with its loop. -/
lemma Early.rest (hpc : r.pc.resting = true) (hpc' : r'.pc.resting = true)
    (hactive : r'.active = r.active) (hclean : r'.clean = r.clean) : Early r r' := by
  have hnot : ∀ {pc}, r'.pc = pc → pc.resting = true := fun h => h ▸ hpc'
  refine .move ?_ ?_ (fun h => by cases hnot h) ?_
  · cases h : r'.pc with
    | stop caller stage => cases hnot h
    | _ => rfl
  · cases h : r'.pc with
    | stop caller stage => cases hnot h
    | _ => rfl
  · rintro (⟨-, h⟩ | h | h)
    · exact .inl ⟨hpc, hactive ▸ h.1, hclean ▸ h.2⟩
    · cases hnot h
    · cases hnot h

lemma early_of_step (ha : a.late = false) (hstep : r.step a = some (r', es)) : Early r r' := by
  cases a with
  | construct =>
    cases hstep
    exact .callback rfl rfl rfl
  | destroy k =>
    simp only [step] at hstep
    split at hstep
    · cases hstep
    · cases hstep
      exact .callback rfl rfl rfl
    · cases hstep
      exact .callback rfl rfl rfl
  | retry now frame =>
    obtain ⟨hpc, hstep⟩ := Option.ite_none_right_eq_some.mp hstep
    have hrest : r.pc.resting = true := by rw [hpc]; rfl
    split at hstep
    · cases hstep
      cases frame with
      | true => exact .away rfl rfl rfl rfl
      | false => exact .rest hrest rfl rfl rfl
    · cases hstep
      exact .rest hrest rfl rfl rfl
  | start frame =>
    obtain ⟨hpc, hstep⟩ := Option.ite_none_right_eq_some.mp hstep
    have hrest : r.pc.resting = true := by rw [hpc]; rfl
    split at hstep
    · rename_i hguard
      simp only [Bool.and_eq_true, Bool.not_eq_true'] at hguard
      obtain ⟨⟨-, hactive⟩, hclean⟩ := hguard
      split at hstep
      · cases hstep
        exact .move rfl rfl (by simp) fun _ => .inl ⟨hrest, hactive, hclean⟩
      · cases hstep
        exact .rest hrest rfl rfl rfl
    · cases hstep
      exact .rest hrest rfl rfl rfl
  | install hookBridge relayHandler =>
    obtain ⟨hpc, hstep⟩ := Option.ite_none_right_eq_some.mp hstep
    split at hstep
    · cases hstep
      exact .move rfl rfl (by simp) fun _ => .inr (.inl hpc)
    · cases hstep
      exact .started r false
  | openGate =>
    obtain ⟨hpc, hstep⟩ := Option.ite_none_right_eq_some.mp hstep
    cases hstep
    refine ⟨fun h => (by cases h), fun h => (by cases h),
      fun h => absurd h (not_fresh rfl (by simp) (by simp)), fun _ => ?_⟩
    exact .inl (.inr (.inr hpc))
  | activate hook server connection blocked =>
    obtain ⟨-, hstep⟩ := Option.ite_none_right_eq_some.mp hstep
    cases hstep
    exact .started r _
  | delete pressed frame =>
    obtain ⟨hpc, hstep⟩ := Option.ite_none_right_eq_some.mp hstep
    have hrest : r.pc.resting = true := by rw [hpc]; rfl
    split at hstep
    · cases hstep
      cases frame with
      | true => exact .away rfl rfl rfl rfl
      | false => exact .rest hrest rfl rfl rfl
    · cases hstep
      exact .rest hrest rfl rfl rfl
  | wait result =>
    obtain ⟨hpc, hstep⟩ := Option.ite_none_right_eq_some.mp hstep
    have hrest : r.pc.resting = true := by rw [hpc]; rfl
    cases hstep
    cases result with
    | failed => exact .rest hrest rfl rfl rfl
    | object => exact .rest hrest rfl rfl rfl
    | timeout => exact .rest hrest rfl rfl rfl
  | exit frame =>
    obtain ⟨-, hstep⟩ := Option.ite_none_right_eq_some.mp hstep
    cases hstep
    cases frame with
    | true => exact .away rfl rfl rfl rfl
    | false => exact .away rfl rfl rfl rfl
  | request =>
    simp only [step] at hstep
    split at hstep
    · cases hstep
      exact .away rfl rfl rfl rfl
    · cases hstep
  | close =>
    simp only [step] at hstep
    split at hstep
    · cases hstep
      exact .away rfl rfl rfl rfl
    · cases hstep
  | drain now =>
    simp only [step] at hstep
    split at hstep
    · split at hstep
      · cases hstep
        exact .away rfl rfl rfl rfl
      · cases hstep
        exact .gaveUp r _ now
    · cases hstep
  | server stopped => cases ha
  | unhook unhooked => cases ha
  | detach detached now => cases ha

/-- `stopSession` returns true only from its last step. -/
lemma detach_of_stopSession (hstep : r.step a = some (r', es)) (hmem : .stopSession true ∈ es) :
    ∃ caller detached now, a = .detach detached now ∧ r.pc = .stop caller (.detach true true) ∧
      detached = true := by
  cases a with
  | detach detached now =>
    simp only [step] at hstep
    split at hstep
    · rename_i caller stopped unhooked hpc
      cases hstep
      simp only [List.mem_singleton, RuntimeEvent.stopSession.injEq] at hmem
      obtain ⟨⟨rfl, rfl⟩, rfl⟩ := by simpa using hmem
      exact ⟨caller, true, now, rfl, hpc, rfl⟩
    · cases hstep
  | drain now =>
    simp only [step] at hstep
    split at hstep
    · split at hstep
      · cases hstep
        simp at hmem
      · cases hstep
        simp at hmem
    · cases hstep
  | construct =>
    cases hstep
    split_ifs at hmem <;> simp at hmem
  | destroy k =>
    simp only [step] at hstep
    split at hstep
    · cases hstep
    · cases hstep
      simp at hmem
    · cases hstep
      cases hmem
  | retry now frame =>
    obtain ⟨-, hstep⟩ := Option.ite_none_right_eq_some.mp hstep
    split at hstep <;> cases hstep <;> cases hmem
  | start frame =>
    obtain ⟨-, hstep⟩ := Option.ite_none_right_eq_some.mp hstep
    split_ifs at hstep <;> cases hstep <;> simp at hmem
  | install hookBridge relayHandler =>
    obtain ⟨-, hstep⟩ := Option.ite_none_right_eq_some.mp hstep
    split at hstep <;> cases hstep <;> cases hmem
  | openGate =>
    obtain ⟨-, hstep⟩ := Option.ite_none_right_eq_some.mp hstep
    cases hstep
    simp at hmem
  | delete pressed frame =>
    obtain ⟨-, hstep⟩ := Option.ite_none_right_eq_some.mp hstep
    split at hstep <;> cases hstep <;> cases hmem
  | activate hook server connection blocked =>
    obtain ⟨-, hstep⟩ := Option.ite_none_right_eq_some.mp hstep
    cases hstep
    cases hmem
  | wait result =>
    obtain ⟨-, hstep⟩ := Option.ite_none_right_eq_some.mp hstep
    cases hstep
    cases hmem
  | exit frame =>
    obtain ⟨-, hstep⟩ := Option.ite_none_right_eq_some.mp hstep
    cases hstep
    cases hmem
  | request | close | server stopped | unhook unhooked =>
    simp only [step] at hstep
    split at hstep <;> cases hstep
    cases hmem

end Runtime

namespace Runtime

variable {r r' : Runtime} {a : RuntimeAction} {es : List RuntimeEvent}

/-- Only the return of `UninstallConnectionHook` says that the hook is gone. -/
lemma unhooked_of_step (ha : ∀ unhooked, a ≠ .unhook unhooked)
    (hstep : r.step a = some (r', es)) (h : r'.pc.unhooked = true) : r.pc.unhooked = true := by
  cases hlate : a.late with
  | false => exact (early_of_step hlate hstep).unhooked h
  | true =>
    cases a with
    | server stopped =>
      simp only [step] at hstep
      split at hstep
      · cases hstep
        cases h
      · cases hstep
    | unhook unhooked => exact absurd rfl (ha unhooked)
    | detach detached now =>
      simp only [step] at hstep
      split at hstep
      · rename_i caller stopped unhooked hpc
        cases hstep
        cases caller <;> cases h
      · cases hstep
    | _ => cases hlate

lemma eq_true_of_unhooked {unhooked : Bool} (hstep : r.step (.unhook unhooked) = some (r', es))
    (h : r'.pc.unhooked = true) : unhooked = true := by
  simp only [step] at hstep
  split at hstep
  · cases hstep
    exact h
  · cases hstep

end Runtime

/-! ## Closing the channels -/

namespace ServerState

variable {s : ServerState} {a : Answers}

lemma stopBServer_of_not_succeeds (h : s.succeeds a = false) :
    (s.stopBServer a).2 = { s.requestStop.called a with children := s.requestStop.pending a } := by
  have hne : ¬ s.requestStop.succeeds a = true := by
    rw [Bool.not_eq_true]
    exact h
  exact congrArg Prod.snd (if_neg hne)

lemma stopBServer_of_succeeds (h : s.succeeds a = true) : (s.stopBServer a).2 =
    release { s.requestStop.called a with children := s.requestStop.pending a } :=
  congrArg Prod.snd (if_pos (show s.requestStop.succeeds a = true from h))

lemma stopBServer_children (s : ServerState) (a : Answers) :
    (s.stopBServer a).2.children = s.pending a := by
  cases h : s.succeeds a with
  | true =>
    rw [stopBServer_of_succeeds h]
    rfl
  | false =>
    rw [stopBServer_of_not_succeeds h]
    rfl

lemma mem_of_mem_pending {c : Child} (h : c ∈ s.pending a) : c ∈ s.children := by
  obtain ⟨p, hp, rfl⟩ := List.mem_map.mp h
  exact (List.of_mem_zip (List.mem_filter.mp hp).1).1

lemma gateTasks_of_succeeds (h : s.succeeds a = true) : (s.stopBServer a).2.gateTasks = 0 := by
  obtain ⟨-, -, -, -, hdrained⟩ := succeeds_iff.mp h
  rw [stopBServer_of_succeeds h]
  exact if_pos hdrained

/-- `BServer_BlockAMainThreadUntilBConnected` touches nothing but the counter of the tasks. -/
lemma exists_blockAMainThread (s : ServerState) (found executed : Bool) :
    ∃ n, (s.blockAMainThread found executed).2 = { s with gateTasks := n } := by
  simp only [blockAMainThread]
  split_ifs
  · exact ⟨s.gateTasks, rfl⟩
  · exact ⟨s.gateTasks, rfl⟩
  · exact ⟨s.gateTasks, rfl⟩
  · exact ⟨s.gateTasks + 1, rfl⟩
  · exact ⟨s.gateTasks, rfl⟩

/-- There is no group, or it has terminated. -/
def Ended (s : ServerState) : Prop := s.eventLoop = none ∨ s.eventLoop = some .terminated

/-- A group that does not terminate in the attempt had terminated before, if it has now. -/
lemma ended_of_stopBServer (h : (s.eventLoop.isSome && a.shutdown) = false)
    (hended : (s.stopBServer a).2.Ended) : s.Ended := by
  cases hgroup : s.eventLoop with
  | none => exact .inl hgroup
  | some g =>
    rw [hgroup] at h
    have hshutdown : a.shutdown = false := h
    have hfails : s.succeeds a = false := by
      simp [succeeds, hgroup, hshutdown]
    rw [stopBServer_of_not_succeeds hfails] at hended
    simp only [Ended, called, requestStop, hshutdown, hgroup] at hended
    cases g with
    | running => simp at hended
    | shuttingDown => simp at hended
    | terminated => exact .inr hgroup

end ServerState

/-- What happens to single channels does not open any. -/
lemma ChannelsClosed.mono {s s' : ServerState} {j j' : Java} (h : ChannelsClosed s j)
    (hlistening : j'.listening = true → j.listening = true)
    (hchannels : ∀ c ∈ s'.children ++ j'.unlisted, ∃ c' ∈ s.children ++ j.unlisted,
      (c.collected = false → c'.collected = false) ∧ (c.isOpen = true → c'.isOpen = true)) :
    ChannelsClosed s' j' := by
  refine ⟨?_, fun c hc hlive => ?_⟩
  · by_contra hopen
    have := hlistening (by simpa using hopen)
    rw [h.listening] at this
    cases this
  · obtain ⟨c', hc', hcollected, hopen⟩ := hchannels c hc
    have hclosed := h.channels c' hc' (hcollected hlive)
    by_contra hne
    have := hopen (by simpa using hne)
    rw [hclosed] at this
    cases this

/-- The change does not open a channel and does not bring it back to life. -/
def Child.Fading (f : Child → Child) : Prop :=
  ∀ c, ((f c).collected = false → c.collected = false) ∧ ((f c).isOpen = true → c.isOpen = true)

lemma Child.fading_close : Child.Fading Child.close := fun _ => ⟨id, fun h => (by cases h)⟩

lemma Child.fading_collect : Child.Fading Child.collect := fun _ => ⟨fun h => (by cases h), id⟩

lemma Child.Fading.exists_of_mem_modify {f : Child → Child} (hf : Child.Fading f) {l : List Child}
    {k : ℕ} {c : Child} (h : c ∈ l.modify k f) :
    ∃ c' ∈ l, (c.collected = false → c'.collected = false) ∧
      (c.isOpen = true → c'.isOpen = true) := by
  obtain ⟨i, hi⟩ := List.mem_iff_getElem?.mp h
  rw [List.getElem?_modify] at hi
  obtain ⟨c', hc', rfl⟩ := Option.map_eq_some_iff.mp hi
  refine ⟨c', List.mem_iff_getElem?.mpr ⟨i, hc'⟩, ?_⟩
  split
  · exact hf c'
  · exact ⟨id, id⟩

namespace ChannelsClosed

variable {s : ServerState} {j : Java} {f : Child → Child}

lemma modifyChild (h : ChannelsClosed s j) (hf : Child.Fading f) (k : ℕ) :
    ChannelsClosed { s with children := s.children.modify k f } j := by
  refine h.mono id fun c hc => ?_
  rcases List.mem_append.mp hc with hc | hc
  · obtain ⟨c', hc', hkeep⟩ := hf.exists_of_mem_modify hc
    exact ⟨c', List.mem_append_left _ hc', hkeep⟩
  · exact ⟨c, List.mem_append_right _ hc, id, id⟩

lemma modifyUnlisted (h : ChannelsClosed s j) (hf : Child.Fading f) (k : ℕ) :
    ChannelsClosed s { j with unlisted := j.unlisted.modify k f } := by
  refine h.mono id fun c hc => ?_
  rcases List.mem_append.mp hc with hc | hc
  · exact ⟨c, List.mem_append_left _ hc, id, id⟩
  · obtain ⟨c', hc', hkeep⟩ := hf.exists_of_mem_modify hc
    exact ⟨c', List.mem_append_right _ hc', hkeep⟩

end ChannelsClosed

namespace Proxy

variable {s : Proxy} {a : Answers}

lemma closeAll_channelsClosed (s : Proxy) :
    ChannelsClosed s.closeAll.server s.closeAll.java := by
  refine ⟨rfl, fun c hc _ => ?_⟩
  rcases List.mem_append.mp hc with hc | hc
  · obtain ⟨c', -, rfl⟩ := List.mem_map.mp hc
    rfl
  · obtain ⟨c', -, rfl⟩ := List.mem_map.mp hc
    rfl

@[simp] lemma stopBServer_fst (s : Proxy) (a : Answers) :
    (s.stopBServer a).1 = s.server.succeeds a :=
  s.server.stopBServer_fst a

@[simp] lemma stopBServer_eventLoop (s : Proxy) (a : Answers) :
    (s.stopBServer a).2.server.eventLoop = (s.server.stopBServer a).2.eventLoop := by
  simp only [stopBServer]
  split <;> rfl

@[simp] lemma stopBServer_gateTasks (s : Proxy) (a : Answers) :
    (s.stopBServer a).2.server.gateTasks = (s.server.stopBServer a).2.gateTasks := by
  simp only [stopBServer]
  split <;> rfl

@[simp] lemma stopBServer_runtime (s : Proxy) (a : Answers) :
    (s.stopBServer a).2.runtime = s.runtime := by
  simp only [stopBServer]
  split <;> rfl

lemma stopBServer_relay (s : Proxy) (a : Answers) : (s.stopBServer a).2.relay = s.relay := by
  simp only [stopBServer]
  split <;> rfl

lemma stopBServer_pipelines (s : Proxy) (a : Answers) :
    (s.stopBServer a).2.java.pipelines = s.java.pipelines := by
  simp only [stopBServer]
  split <;> rfl

/-- A child that is taken off the list was a child, and it has not been opened. -/
lemma exists_of_mem_dropped {s : ServerState} {c : Child} (h : c ∈ dropped s a) :
    ∃ c' ∈ s.children, c.collected = c'.collected ∧ (c.isOpen = true → c'.isOpen = true) := by
  obtain ⟨p, hp, rfl⟩ := List.mem_map.mp h
  refine ⟨p.1, (List.of_mem_zip (List.mem_filter.mp hp).1).1, rfl, ?_⟩
  simp only [Bool.and_eq_true]
  exact And.left

/-- `StopBServer` leaves no channel open if there is no group or the group terminates, whatever
becomes of the weak references. -/
lemma stopBServer_channelsClosed (h : s.server.Ended → ChannelsClosed s.server s.java)
    (hended : (s.stopBServer a).2.server.Ended) :
    ChannelsClosed (s.stopBServer a).2.server (s.stopBServer a).2.java := by
  rw [ServerState.Ended, stopBServer_eventLoop] at hended
  simp only [stopBServer]
  split
  · exact closeAll_channelsClosed _
  · rename_i hgroup
    have hbefore := ServerState.ended_of_stopBServer (by simpa using hgroup) hended
    refine (h hbefore).mono ?_ fun c hc => ?_
    · simp only [Bool.and_eq_true]
      exact And.left
    · rw [ServerState.stopBServer_children] at hc
      rcases List.mem_append.mp hc with hc | hc
      · exact ⟨c, List.mem_append_left _ (ServerState.mem_of_mem_pending hc), id, id⟩
      · rcases List.mem_append.mp hc with hc | hc
        · exact ⟨c, List.mem_append_right _ hc, id, id⟩
        · obtain ⟨c', hc', hcollected, hopen⟩ := exists_of_mem_dropped hc
          exact ⟨c', List.mem_append_left _ hc', fun h => hcollected ▸ h, hopen⟩

end Proxy

/-! ## The hook -/

namespace Java

variable {j : Java}

lemma retransformIfLoaded_hooked (j : Java) (called : Bool) (x : RetransformAnswers) :
    (j.retransformIfLoaded called x).2.hooked = j.hooked := by
  simp only [retransformIfLoaded]
  split <;> rfl

lemma exists_retransformIfLoaded (j : Java) (called : Bool) (x : RetransformAnswers) :
    ∃ classes, (j.retransformIfLoaded called x).2 = { j with classes := classes } := by
  simp only [retransformIfLoaded]
  split
  · exact ⟨j.classes, rfl⟩
  · exact ⟨_, rfl⟩

/-- Installing the hook touches nothing but the hook and the classes. -/
lemma exists_installConnectionHook (j : Java) (gate : RuntimeGate) (x : InstallHookAnswers) :
    ∃ hooked classes, (j.installConnectionHook gate x).2 =
      { j with hooked := hooked, classes := classes } := by
  simp only [installConnectionHook]
  split
  · exact ⟨j.hooked, j.classes, rfl⟩
  · split
    · exact ⟨j.hooked, j.classes, rfl⟩
    · obtain ⟨classes, heq⟩ := exists_retransformIfLoaded { j with hooked := true } gate.enter.1
        x.toRetransformAnswers
      exact ⟨true, classes, heq⟩

/-- Uninstalling the hook touches nothing but the hook and the classes. -/
lemma exists_uninstallConnectionHook (j : Java) (x : UninstallHookAnswers) :
    ∃ hooked classes, (j.uninstallConnectionHook x).2 =
      { j with hooked := hooked, classes := classes } := by
  simp only [uninstallConnectionHook]
  split
  · exact ⟨j.hooked, j.classes, rfl⟩
  · obtain ⟨classes, heq⟩ := exists_retransformIfLoaded { j with hooked := false } false
      x.toRetransformAnswers
    exact ⟨false, classes, heq⟩

lemma installConnectionHook_pipelines (j : Java) (gate : RuntimeGate) (x : InstallHookAnswers) :
    (j.installConnectionHook gate x).2.pipelines = j.pipelines := by
  obtain ⟨hooked, classes, heq⟩ := j.exists_installConnectionHook gate x
  rw [heq]

lemma uninstallConnectionHook_pipelines (j : Java) (x : UninstallHookAnswers) :
    (j.uninstallConnectionHook x).2.pipelines = j.pipelines := by
  obtain ⟨hooked, classes, heq⟩ := j.exists_uninstallConnectionHook x
  rw [heq]

/-- A retransformation without the callback restores the class. -/
lemma retransformClass_restored {c : LoadedClass} {x : ClassAnswer}
    (h : (retransformClass false c x).1 = true)
    (hc : (retransformClass false c x).2.isConnection = true) :
    (retransformClass false c x).2.patched = false := by
  simp only [retransformClass] at h hc ⊢
  split_ifs at h hc ⊢ <;> simp_all

/-- When `UninstallConnectionHook` returns true, the event is disabled and every `Connection` that
was loaded has been retransformed. -/
lemma uninstallConnectionHook_restored {x : UninstallHookAnswers}
    (h : (j.uninstallConnectionHook x).1 = true) : (j.uninstallConnectionHook x).2.Unhooked := by
  simp only [uninstallConnectionHook] at h ⊢
  split at h
  · cases h
  · rename_i hnotified
    rw [if_neg hnotified]
    refine ⟨retransformIfLoaded_hooked _ _ _, ?_⟩
    simp only [retransformIfLoaded] at h ⊢
    split at h
    · cases h
    · rename_i hloaded
      rw [if_neg hloaded]
      intro c hc hconnection
      obtain ⟨done, hdone, rfl⟩ := List.mem_map.mp hc
      have hok := List.all_eq_true.mp h done hdone
      obtain ⟨c', -, rfl⟩ := List.mem_map.mp hdone
      exact retransformClass_restored hok hconnection

end Java

/-! ## What the attempts have achieved -/

/-- A session starts without a group; without a running group there is no open channel; and what
`StopBServer` reports to a call of `stopSession` is still so. -/
structure ProxyInv (s : Proxy) : Prop where
  ended : s.server.Ended → ChannelsClosed s.server s.java
  fresh : s.runtime.Fresh ∨ s.runtime.pc = .activate ∧ s.starting.server = none →
    s.server.eventLoop = none
  stopped : s.runtime.pc.stopped = true → s.server.eventLoop = none ∧ s.server.gateTasks = 0

namespace ProxyInv

variable {s s' : Proxy} {es : List RuntimeEvent}

lemma start : ProxyInv {} := by
  refine ⟨fun _ => ⟨rfl, ?_⟩, fun _ => rfl, fun h => (by cases h)⟩
  intro c hc
  cases hc

/-- A step that is not one of the controller and leaves the group alone. -/
lemma keep (h : ProxyInv s) (hruntime : s'.runtime = s.runtime)
    (hstarting : s.runtime.pc = .activate → s'.starting.server = none → s.starting.server = none)
    (hloop : s'.server.eventLoop = s.server.eventLoop)
    (hgate : s.runtime.pc.stopped = true → s.server.gateTasks = 0 → s'.server.gateTasks = 0)
    (hchannels : s.server.Ended → ChannelsClosed s.server s.java →
      ChannelsClosed s'.server s'.java) : ProxyInv s' where
  ended := by
    rw [ServerState.Ended, hloop]
    exact fun hended => hchannels hended (h.ended hended)
  fresh := by
    rw [hruntime, hloop]
    exact fun hfresh => h.fresh (hfresh.imp_right fun ⟨hpc, hnone⟩ => ⟨hpc, hstarting hpc hnone⟩)
  stopped := by
    rw [hruntime, hloop]
    exact fun hstopped => ⟨(h.stopped hstopped).1, hgate hstopped (h.stopped hstopped).2⟩

/-- A step of the controller or of a callback, but for the last three of `stopSession`. -/
lemma control (h : ProxyInv s) {a : RuntimeAction} (ha : a.late = false)
    (hstep : s.control a = some (s', es)) : ProxyInv s' := by
  obtain ⟨r, hr, heq⟩ := Option.map_eq_some_iff.mp hstep
  cases heq
  have hearly := Runtime.early_of_step ha hr
  refine ⟨h.ended, ?_, fun hs => h.stopped (hearly.stopped hs)⟩
  rintro (hfresh | ⟨hpc, hserver⟩)
  · exact h.fresh (.inl (hearly.fresh hfresh))
  · exact h.fresh ((hearly.activate hpc).imp_right fun hpc => ⟨hpc, hserver⟩)

lemma installConnectionHook (h : ProxyInv s) (x : InstallHookAnswers) :
    ProxyInv { s with
      java := (s.java.installConnectionHook s.runtime.gate x).2
      starting := { s.starting with
        hook := some (s.java.installConnectionHook s.runtime.gate x).1 } } := by
  obtain ⟨hooked, classes, hjava⟩ := s.java.exists_installConnectionHook s.runtime.gate x
  refine h.keep rfl (fun _ hnone => hnone) rfl (fun _ hzero => hzero) fun _ hclosed => ?_
  rw [hjava]
  exact ⟨hclosed.listening, hclosed.channels⟩

/-- `BServer_BlockAMainThreadUntilBConnected` is called outside `stopSession`. -/
lemma blockAMainThread (h : ProxyInv s) (hpc : s.runtime.pc = .activate) (found executed : Bool) :
    ProxyInv { s with
      server := (s.server.blockAMainThread found executed).2
      starting := { s.starting with
        blocked := some (s.server.blockAMainThread found executed).1 } } := by
  obtain ⟨n, hserver⟩ := s.server.exists_blockAMainThread found executed
  simp only [hserver]
  refine h.keep rfl (fun _ hnone => hnone) rfl (fun hstopped => ?_)
    (fun _ hclosed => ⟨hclosed.listening, hclosed.channels⟩)
  rw [hpc] at hstopped
  cases hstopped

/-- The group terminates some time after it has been asked to. -/
lemma terminate (h : ProxyInv s) (hgroup : s.server.eventLoop = some .shuttingDown) :
    ProxyInv { s.closeAll with
      server := { s.closeAll.server with eventLoop := some .terminated } } where
  ended := fun _ => ⟨rfl, (Proxy.closeAll_channelsClosed s).channels⟩
  fresh := fun hfresh => by
    have hnone := h.fresh hfresh
    rw [hgroup] at hnone
    cases hnone
  stopped := fun hstopped => by
    have hnone := (h.stopped hstopped).1
    rw [hgroup] at hnone
    cases hnone

/-- `InstallBServer` finds no group of a session before. -/
lemma installBServer (h : ProxyInv s) (hpc : s.runtime.pc = .activate)
    (hserver : s.starting.server = none) (result : Installed) (listening : Bool) :
    ProxyInv { s with
      server := s.server.install result
      java := { s.java with listening := s.java.listening || s.server.opened result listening }
      starting := { s.starting with server := some (s.server.installed result) } } where
  ended := by
    have hnone : s.server.eventLoop = none := h.fresh (.inr ⟨hpc, hserver⟩)
    obtain ⟨hclosed, hchannels⟩ := h.ended (.inl hnone)
    intro hended
    cases hbound : s.server.bound with
    | true =>
      have hinstall : s.server.install result = s.server := if_pos hbound
      rw [hinstall]
      exact ⟨by simp [hclosed, ServerState.opened, hbound], hchannels⟩
    | false =>
      rw [ServerState.install, if_neg (by simp [hbound])] at hended ⊢
      cases result with
      | noLoader => exact ⟨by simp [hclosed, ServerState.opened], hchannels⟩
      | noGroup => exact ⟨by simp [hclosed, ServerState.opened], hchannels⟩
      | noListener => simp [ServerState.Ended] at hended
      | listening sync lan => simp [ServerState.Ended] at hended
  fresh := by
    rintro (hfresh | ⟨-, hfresh⟩)
    · exact absurd hfresh (Runtime.not_fresh (by rw [hpc]; rfl) (by simp [hpc]) (by simp [hpc]))
    · cases hfresh
  stopped := by
    intro h
    rw [hpc] at h
    cases h

/-- `StopBServer` returns. -/
lemma stopBServer (h : ProxyInv s) {a : Answers}
    (hstep : (s.stopBServer a).2.control (.server (s.stopBServer a).1) = some (s', es)) :
    ProxyInv s' := by
  obtain ⟨r, hr, heq⟩ := Option.map_eq_some_iff.mp hstep
  cases heq
  simp only [Runtime.step] at hr
  split at hr
  · cases hr
    refine ⟨Proxy.stopBServer_channelsClosed h.ended, ?_, fun hstopped => ?_⟩
    · rintro (hfresh | ⟨hpc, -⟩)
      · exact absurd hfresh (Runtime.not_fresh_of_away rfl rfl)
      · cases hpc
    · have hsucceeds : s.server.succeeds a = true := by
        rw [← Proxy.stopBServer_fst]
        exact hstopped
      change (s.stopBServer a).2.server.eventLoop = none ∧
        (s.stopBServer a).2.server.gateTasks = 0
      rw [Proxy.stopBServer_eventLoop, Proxy.stopBServer_gateTasks]
      exact ⟨(ServerState.released_of_succeeds hsucceeds).eventLoop,
        ServerState.gateTasks_of_succeeds hsucceeds⟩
  · cases hr

/-- `UninstallConnectionHook` returns. -/
lemma uninstallConnectionHook (h : ProxyInv s) {x : UninstallHookAnswers}
    (hstep : { s with java := (s.java.uninstallConnectionHook x).2 }.control
      (.unhook (s.java.uninstallConnectionHook x).1) = some (s', es)) : ProxyInv s' := by
  obtain ⟨r, hr, heq⟩ := Option.map_eq_some_iff.mp hstep
  cases heq
  obtain ⟨hooked, classes, hjava⟩ := s.java.exists_uninstallConnectionHook x
  simp only [Runtime.step] at hr
  split at hr
  · rename_i hpc
    cases hr
    refine ⟨fun hended => ?_, ?_, fun hstopped => h.stopped (by rw [hpc]; exact hstopped)⟩
    · rw [hjava]
      exact ⟨(h.ended hended).listening, (h.ended hended).channels⟩
    · rintro (hfresh | ⟨hpc, -⟩)
      · exact absurd hfresh (Runtime.not_fresh_of_away rfl rfl)
      · cases hpc
  · cases hr

/-- `stopSession` returns. -/
lemma detachAll (h : ProxyInv s) {x : DetachAnswers} {now : ℕ}
    (hstep : (s.detachAll x).2.control (.detach (s.detachAll x).1 now) = some (s', es)) :
    ProxyInv s' := by
  obtain ⟨r, hr, heq⟩ := Option.map_eq_some_iff.mp hstep
  cases heq
  simp only [Runtime.step] at hr
  split at hr
  · rename_i caller stopped unhooked hpc
    change s.runtime.pc = .stop caller (.detach stopped unhooked) at hpc
    cases hr
    have hclosed : s.server.Ended → ChannelsClosed s.server s.java := h.ended
    refine ⟨fun hended => ⟨(hclosed hended).listening, (hclosed hended).channels⟩, ?_, ?_⟩
    · rintro (hfresh | ⟨hpc', -⟩)
      · have hresult := Runtime.eq_true_of_fresh hfresh
        simp only [Bool.and_eq_true] at hresult
        exact (h.stopped (by rw [hpc]; exact hresult.1.1)).1
      · cases caller <;> cases hpc'
    · intro h
      cases caller <;> cases h
  · cases hr

/-- The calls of `startSession` and the callbacks attach the handler, and touch nothing else. -/
lemma attach (h : ProxyInv s) {relay : RelayGlobals} {pipelines : Handle → Pipeline}
    {starting : Starting} (hstarting : starting.server = s.starting.server) :
    ProxyInv { s with
      relay := relay
      java := { s.java with pipelines := pipelines }
      starting := starting } :=
  h.keep rfl (fun _ hnone => hstarting ▸ hnone) rfl (fun _ hzero => hzero)
    fun _ hclosed => ⟨hclosed.listening, hclosed.channels⟩

/-- What Minecraft, Netty, the JVM and the callbacks do to the server and to Java's objects. -/
lemma outside (h : ProxyInv s) {server : ServerState} {java : Java}
    (hloop : server.eventLoop = s.server.eventLoop)
    (hgate : s.server.gateTasks = 0 → server.gateTasks = 0)
    (hchannels : s.server.Ended → ChannelsClosed s.server s.java → ChannelsClosed server java) :
    ProxyInv { s with server := server, java := java } :=
  h.keep rfl (fun _ hnone => hnone) hloop (fun _ => hgate) hchannels

lemma step (h : ProxyInv s) {a : ProxyAction} (hstep : s.step a = some (s', es)) :
    ProxyInv s' := by
  cases a with
  | runtime a =>
    obtain ⟨hplain, hstep⟩ := Option.ite_none_right_eq_some.mp hstep
    refine h.control ?_ hstep
    cases a <;> first | rfl | cases hplain
  | installRelayHandler hookBridge x =>
    simp only [Proxy.step] at hstep
    split at hstep
    · obtain ⟨r, hr, -⟩ := Option.map_eq_some_iff.mp hstep
      obtain ⟨hpc, -⟩ := Option.ite_none_right_eq_some.mp hr
      change s.runtime.pc = .install at hpc
      have hready : ProxyInv { (s.installRelayHandler x).2 with starting := {} } := by
        refine h.keep rfl (fun hactivate => ?_) rfl (fun _ hzero => hzero)
          fun _ hclosed => hclosed
        rw [hpc] at hactivate
        cases hactivate
      exact hready.control rfl hstep
    · exact h.control rfl hstep
  | installConnectionHook x =>
    obtain ⟨-, hstep⟩ := Option.ite_none_right_eq_some.mp hstep
    cases hstep
    exact h.installConnectionHook x
  | installBServer result listening =>
    obtain ⟨⟨hpc, -, hserver⟩, hstep⟩ := Option.ite_none_right_eq_some.mp hstep
    cases hstep
    exact h.installBServer hpc hserver result listening
  | tryCapture connected pipeline x y =>
    obtain ⟨-, hstep⟩ := Option.ite_none_right_eq_some.mp hstep
    cases pipeline with
    | none =>
      cases hstep
      exact h.attach rfl
    | some p =>
      obtain ⟨-, hstep⟩ := Option.ite_none_left_eq_some.mp hstep
      cases hstep
      exact h.attach rfl
  | blockAMainThread found executed =>
    obtain ⟨⟨hpc, -⟩, hstep⟩ := Option.ite_none_right_eq_some.mp hstep
    cases hstep
    exact h.blockAMainThread hpc found executed
  | activate =>
    obtain ⟨-, hstep⟩ := Option.ite_none_right_eq_some.mp hstep
    exact h.control rfl hstep
  | requestStop =>
    have hrequested : ProxyInv { s with server := s.server.requestStop } :=
      h.keep rfl (fun _ hnone => hnone) rfl (fun _ hzero => hzero)
        fun _ hclosed => ⟨hclosed.listening, hclosed.channels⟩
    exact hrequested.control rfl hstep
  | stopBServer a =>
    obtain ⟨-, hstep⟩ := Option.ite_none_right_eq_some.mp hstep
    exact h.stopBServer hstep
  | uninstallConnectionHook x => exact h.uninstallConnectionHook hstep
  | detachAll x now => exact h.detachAll hstep
  | initChannel weak =>
    obtain ⟨⟨-, -, hrunning⟩, hstep⟩ := Option.ite_none_right_eq_some.mp hstep
    have hnot : ¬ s.server.Ended := by
      rintro (hended | hended) <;> rw [hrunning] at hended <;> cases hended
    cases weak with
    | true =>
      cases hstep
      exact h.outside rfl id fun hended => absurd hended hnot
    | false =>
      cases hstep
      exact h.outside rfl id fun hended => absurd hended hnot
  | channelActive ctx x pipeline y =>
    obtain ⟨-, hstep⟩ := Option.ite_none_right_eq_some.mp hstep
    cases hstep
    exact h.attach rfl
  | use refs =>
    cases hstep
    exact h.outside rfl id fun _ hclosed => ⟨hclosed.listening, hclosed.channels⟩
  | readClass isConnection patch =>
    cases hstep
    exact h.outside rfl id fun _ hclosed => ⟨hclosed.listening, hclosed.channels⟩
  | defineClass k =>
    simp only [Proxy.step] at hstep
    split at hstep
    · cases hstep
      exact h.outside rfl id fun _ hclosed => ⟨hclosed.listening, hclosed.channels⟩
    · cases hstep
  | runGate =>
    obtain ⟨-, hstep⟩ := Option.ite_none_right_eq_some.mp hstep
    cases hstep
    refine h.outside rfl (fun hzero => ?_)
      fun _ hclosed => ⟨hclosed.listening, hclosed.channels⟩
    simp [hzero]
  | endLan =>
    cases hstep
    exact h.outside rfl id fun _ hclosed => ⟨hclosed.listening, hclosed.channels⟩
  | terminate =>
    obtain ⟨hgroup, hstep⟩ := Option.ite_none_right_eq_some.mp hstep
    cases hstep
    exact h.terminate hgroup
  | closeListener =>
    cases hstep
    exact h.outside rfl id fun _ hclosed => ⟨rfl, hclosed.channels⟩
  | closeChild k =>
    cases hstep
    exact h.outside rfl id fun _ hclosed => hclosed.modifyChild Child.fading_close k
  | closeUnlisted k =>
    cases hstep
    exact h.outside rfl id fun _ hclosed => hclosed.modifyUnlisted Child.fading_close k
  | collectChild k =>
    cases hstep
    exact h.outside rfl id fun _ hclosed => hclosed.modifyChild Child.fading_collect k
  | collectUnlisted k =>
    cases hstep
    exact h.outside rfl id fun _ hclosed => hclosed.modifyUnlisted Child.fading_collect k
  | removeHandler p =>
    cases hstep
    exact h.attach rfl
  | collectPipeline p =>
    cases hstep
    exact h.attach rfl

end ProxyInv

/-! ## The hook while `stopSession` returns -/

namespace Proxy

variable {s s' : Proxy} {a : ProxyAction} {es : List RuntimeEvent}

/-- What a step must meet: the JVM defines no class that the callback has patched when
`UninstallConnectionHook` has listed the classes and `stopSession` has not yet returned. -/
def settled (s : Proxy) : ProxyAction → Bool
  | .defineClass k => !(s.runtime.pc.unhooked && s.java.loading[k]?.any LoadedClass.hooked)
  | _ => true

/-- What `UninstallConnectionHook` has reported to the call of `stopSession` is still so. -/
def HookGone (s : Proxy) : Prop := s.runtime.pc.unhooked = true → s.java.Unhooked

/-- A step is silent, and leaves the controller and the hook alone, or it installs the hook, or the
JVM defines a class; otherwise it is a step of the controller or of a callback, and `stopSession`
ends with `RelayHandler_DetachAll`. -/
inductive StepCase (s : Proxy) (a : ProxyAction) (s' : Proxy) (es : List RuntimeEvent) : Prop
  | silent (hruntime : s'.runtime = s.runtime) (hes : es = []) (hsettled : s.settled a = true)
      (hhooked : s'.java.hooked = s.java.hooked) (hclasses : s'.java.classes = s.java.classes)
  | install (hpc : s.runtime.pc = .activate) (hruntime : s'.runtime = s.runtime) (hes : es = [])
      (hsettled : s.settled a = true)
  | define (c : LoadedClass) (hruntime : s'.runtime = s.runtime) (hes : es = [])
      (hsettled : s.settled a = !(s.runtime.pc.unhooked && c.hooked))
      (hhooked : s'.java.hooked = s.java.hooked)
      (hclasses : s'.java.classes = s.java.classes ++ [c])
  | unhook (x : UninstallHookAnswers) (hsettled : s.settled a = true)
      (hstep : ({ s with java := (s.java.uninstallConnectionHook x).2 } : Proxy).control
        (.unhook (s.java.uninstallConnectionHook x).1) = some (s', es))
  | control (b : RuntimeAction) (t : Proxy) (hstep : t.control b = some (s', es))
      (hb : ∀ unhooked, b ≠ .unhook unhooked) (hsettled : s.settled a = true)
      (hruntime : t.runtime = s.runtime) (hhooked : t.java.hooked = s.java.hooked)
      (hclasses : t.java.classes = s.java.classes)
      (hdetach : ∀ detached now, b = .detach detached now →
        ∃ x, a = .detachAll x now ∧ t = (s.detachAll x).2 ∧ detached = (s.detachAll x).1)

lemma step_cases (hstep : s.step a = some (s', es)) : StepCase s a s' es := by
  cases a with
  | runtime a =>
    obtain ⟨hplain, hstep⟩ := Option.ite_none_right_eq_some.mp hstep
    refine .control a s hstep ?_ rfl rfl rfl rfl ?_
    · rintro unhooked rfl
      cases hplain
    · rintro detached now rfl
      cases hplain
  | installRelayHandler hookBridge x =>
    simp only [step] at hstep
    split at hstep
    · exact .control _ _ hstep (by simp) rfl rfl rfl rfl (by simp)
    · exact .control _ _ hstep (by simp) rfl rfl rfl rfl (by simp)
  | installConnectionHook x =>
    obtain ⟨⟨hpc, -⟩, hstep⟩ := Option.ite_none_right_eq_some.mp hstep
    cases hstep
    exact .install hpc rfl rfl rfl
  | installBServer result listening =>
    obtain ⟨-, hstep⟩ := Option.ite_none_right_eq_some.mp hstep
    cases hstep
    exact .silent rfl rfl rfl rfl rfl
  | tryCapture connected pipeline x y =>
    obtain ⟨-, hstep⟩ := Option.ite_none_right_eq_some.mp hstep
    cases pipeline with
    | none =>
      cases hstep
      exact .silent rfl rfl rfl rfl rfl
    | some p =>
      obtain ⟨-, hstep⟩ := Option.ite_none_left_eq_some.mp hstep
      cases hstep
      exact .silent rfl rfl rfl rfl rfl
  | blockAMainThread found executed =>
    obtain ⟨-, hstep⟩ := Option.ite_none_right_eq_some.mp hstep
    cases hstep
    exact .silent rfl rfl rfl rfl rfl
  | activate =>
    obtain ⟨-, hstep⟩ := Option.ite_none_right_eq_some.mp hstep
    exact .control _ _ hstep (by simp) rfl rfl rfl rfl (by simp)
  | requestStop =>
    exact .control .request { s with server := s.server.requestStop } hstep (by simp) rfl rfl rfl
      rfl (by simp)
  | stopBServer x =>
    obtain ⟨-, hstep⟩ := Option.ite_none_right_eq_some.mp hstep
    refine .control _ (s.stopBServer x).2 hstep (by simp) rfl (stopBServer_runtime s x) ?_ ?_
      (by simp)
    · simp only [stopBServer]
      split <;> rfl
    · simp only [stopBServer]
      split <;> rfl
  | uninstallConnectionHook x => exact .unhook x rfl hstep
  | detachAll x now =>
    refine .control (.detach (s.detachAll x).1 now) (s.detachAll x).2 hstep (by simp) rfl rfl rfl
      rfl ?_
    rintro detached now' h
    cases h
    exact ⟨x, rfl, rfl, rfl⟩
  | initChannel weak =>
    obtain ⟨-, hstep⟩ := Option.ite_none_right_eq_some.mp hstep
    cases weak with
    | true =>
      cases hstep
      exact .silent rfl rfl rfl rfl rfl
    | false =>
      cases hstep
      exact .silent rfl rfl rfl rfl rfl
  | channelActive ctx x pipeline y =>
    obtain ⟨-, hstep⟩ := Option.ite_none_right_eq_some.mp hstep
    cases hstep
    exact .silent rfl rfl rfl rfl rfl
  | defineClass k =>
    simp only [step] at hstep
    split at hstep
    · rename_i c hc
      cases hstep
      exact .define c rfl rfl (by simp [settled, hc]) rfl rfl
    · cases hstep
  | runGate =>
    obtain ⟨-, hstep⟩ := Option.ite_none_right_eq_some.mp hstep
    cases hstep
    exact .silent rfl rfl rfl rfl rfl
  | terminate =>
    obtain ⟨-, hstep⟩ := Option.ite_none_right_eq_some.mp hstep
    cases hstep
    exact .silent rfl rfl rfl rfl rfl
  -- the others are not guarded
  | _ =>
    cases hstep
    exact .silent rfl rfl rfl rfl rfl

/-- What a step does to the hook and to the classes: nothing, it restores them or makes nothing of
what has been reported, or it defines a class. -/
inductive HookStep (s : Proxy) (a : ProxyAction) (s' : Proxy) : Prop
  | other (hsettled : s.settled a = true)
      (hpc : s'.runtime.pc.unhooked = true → s.runtime.pc.unhooked = true)
      (hhooked : s'.java.hooked = s.java.hooked) (hclasses : s'.java.classes = s.java.classes)
  | renew (hsettled : s.settled a = true) (h : s'.HookGone)
  | define (c : LoadedClass) (hsettled : s.settled a = !(s.runtime.pc.unhooked && c.hooked))
      (hruntime : s'.runtime = s.runtime) (hhooked : s'.java.hooked = s.java.hooked)
      (hclasses : s'.java.classes = s.java.classes ++ [c])

lemma hookStep_of_step (hstep : s.step a = some (s', es)) : HookStep s a s' := by
  cases step_cases hstep with
  | silent hruntime _ hsettled hhooked hclasses =>
    exact .other hsettled (fun h => hruntime ▸ h) hhooked hclasses
  | install hpc hruntime _ hsettled =>
    refine .renew hsettled fun h => ?_
    rw [hruntime, hpc] at h
    cases h
  | define c hruntime _ hsettled hhooked hclasses =>
    exact .define c hsettled hruntime hhooked hclasses
  | unhook x hsettled hstep =>
    obtain ⟨r, hr, heq⟩ := Option.map_eq_some_iff.mp hstep
    cases heq
    refine .renew hsettled fun h => ?_
    exact Java.uninstallConnectionHook_restored (Runtime.eq_true_of_unhooked hr h)
  | control b t hstep hb hsettled hruntime hhooked hclasses _ =>
    obtain ⟨r, hr, heq⟩ := Option.map_eq_some_iff.mp hstep
    cases heq
    rw [hruntime] at hr
    exact .other hsettled (Runtime.unhooked_of_step hb hr) hhooked hclasses

/-- The event of the hook stays disabled in every run. -/
lemma hooked_step (h : s.runtime.pc.unhooked = true → s.java.hooked = false)
    (hstep : s.step a = some (s', es)) (hpc : s'.runtime.pc.unhooked = true) :
    s'.java.hooked = false := by
  cases hookStep_of_step hstep with
  | other _ hback hhooked =>
    rw [hhooked]
    exact h (hback hpc)
  | renew _ hgone => exact (hgone hpc).hooked
  | define c _ hruntime hhooked =>
    rw [hhooked]
    exact h (hruntime ▸ hpc)

/-- The condition is exactly what keeps the classes restored. -/
theorem settled_iff (h : s.HookGone) (hstep : s.step a = some (s', es)) :
    s.settled a = true ↔ s'.HookGone := by
  cases hookStep_of_step hstep with
  | other hsettled hback hhooked hclasses =>
    refine iff_of_true hsettled fun hpc => ?_
    have hunhooked := h (hback hpc)
    exact ⟨hhooked.trans hunhooked.hooked, hclasses ▸ hunhooked.restored⟩
  | renew hsettled hgone => exact iff_of_true hsettled hgone
  | define c hsettled hruntime hhooked hclasses =>
    rw [hsettled, Bool.not_eq_true', Bool.and_eq_false_iff]
    constructor
    · intro hclean hpc
      rw [hruntime] at hpc
      have hunhooked := h hpc
      refine ⟨hhooked.trans hunhooked.hooked, fun c' hc' hconnection => ?_⟩
      rw [hclasses] at hc'
      rcases List.mem_append.mp hc' with hc' | hc'
      · exact hunhooked.restored c' hc' hconnection
      · rw [List.mem_singleton.mp hc'] at hconnection ⊢
        simpa [LoadedClass.hooked, hpc, hconnection] using hclean
    · intro hgone
      by_contra hne
      simp only [not_or, Bool.not_eq_false, LoadedClass.hooked, Bool.and_eq_true] at hne
      obtain ⟨hpc, hconnection, hpatched⟩ := hne
      have hmem : c ∈ s'.java.classes := by
        rw [hclasses]
        exact List.mem_append_right _ List.mem_cons_self
      have hrestored := (hgone (hruntime ▸ hpc)).restored c hmem hconnection
      rw [hpatched] at hrestored
      cases hrestored

end Proxy

/-! ## Runs -/

namespace Proxy

variable {s s' : Proxy} {a : ProxyAction} {es tr : List RuntimeEvent}

/-- The controller and the callbacks run as in their own model. -/
theorem runtime_of_run (hrun : Step.Run step {} tr s) :
    Step.Run Runtime.step {} tr s.runtime := by
  refine hrun.project Proxy.runtime fun s a s' es hstep => ?_
  cases step_cases hstep with
  | silent hruntime hes | install _ hruntime hes | define _ hruntime hes =>
    exact .inl ⟨hruntime, hes⟩
  | unhook x _ hcontrol =>
    obtain ⟨r, hr, heq⟩ := Option.map_eq_some_iff.mp hcontrol
    cases heq
    exact .inr ⟨_, hr⟩
  | control b t hcontrol _ _ ht =>
    obtain ⟨r, hr, heq⟩ := Option.map_eq_some_iff.mp hcontrol
    cases heq
    exact .inr ⟨b, ht ▸ hr⟩

/-- While `StopBServer`, `UninstallConnectionHook` and `RelayHandler_DetachAll` are running, no
callback is. -/
theorem no_callback_of_run (hrun : Step.Run step {} tr s) (hpc : s.runtime.pc.emptied = true) :
    true ∉ s.runtime.callbacks := by
  obtain ⟨hinv, -⟩ := (runtime_of_run hrun).along (I := RuntimeInv) RuntimeInv.start
    fun m r b r' es h => h.step
  have hzero := hinv.emptied hpc
  rw [hinv.count] at hzero
  exact List.count_eq_zero.mp hzero

lemma proxyInv_of_run (hrun : Step.Run step {} tr s) : ProxyInv s :=
  hrun.invariant (I := fun _ s => ProxyInv s) ProxyInv.start fun _ _ _ _ _ h hstep => h.step hstep

lemma hooked_of_run (hrun : Step.Run step {} tr s) :
    s.runtime.pc.unhooked = true → s.java.hooked = false :=
  hrun.invariant (I := fun _ s => s.runtime.pc.unhooked = true → s.java.hooked = false)
    (fun h => (by cases h)) fun _ _ _ _ _ h hstep => hooked_step h hstep

/-- `stopSession` returns true at the end of `RelayHandler_DetachAll`, when all three functions
have. -/
lemma detachAll_of_stopSession (hstep : s.step a = some (s', es))
    (hmem : .stopSession true ∈ es) :
    ∃ x now caller, a = .detachAll x now ∧ s.runtime.pc = .stop caller (.detach true true) ∧
      (s.detachAll x).1 = true ∧ s'.server = s.server ∧ s'.java = (s.detachAll x).2.java ∧
      s'.relay = (s.detachAll x).2.relay := by
  cases step_cases hstep with
  | silent _ hes | install _ _ hes | define _ _ hes =>
    rw [hes] at hmem
    cases hmem
  | unhook x _ hcontrol =>
    obtain ⟨r, hr, heq⟩ := Option.map_eq_some_iff.mp hcontrol
    cases heq
    obtain ⟨caller, detached, now, hb, -⟩ := Runtime.detach_of_stopSession hr hmem
    cases hb
  | control b t hcontrol _ _ ht _ _ hdetach =>
    obtain ⟨r, hr, heq⟩ := Option.map_eq_some_iff.mp hcontrol
    cases heq
    obtain ⟨caller, detached, now, rfl, hpc, rfl⟩ := Runtime.detach_of_stopSession hr hmem
    obtain ⟨x, rfl, rfl, hdetached⟩ := hdetach _ _ rfl
    exact ⟨x, now, caller, rfl, hpc, hdetached.symm, rfl, rfl, rfl⟩

end Proxy
end Server
end SakuraTools
