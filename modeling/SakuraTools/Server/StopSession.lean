import SakuraTools.Server.StopStages

/-!
# When a stop is announced

`stopSession` returns true when its three calls have.  Whether the relay handler has then been taken
out of every pipeline depends on the list of the pipelines, which `attachHandlerToPipeline` fills
and `RelayHandler_DetachAll` empties: on whether it is complete.  Whether `Connection` is then what
it was depends on the classes that `UninstallConnectionHook` has found: on whether the JVM defines
another one meanwhile.
-/

namespace SakuraTools
namespace Server

/-! ## What a stop promises -/

namespace Proxy

/-- What is true when `stopSession` returns true: the channels are closed, the class loader is
unhooked, there is no gate task, and no live pipeline contains a relay handler. -/
structure Stopped (s : Proxy) : Prop where
  closed : ChannelsClosed s.server s.java
  unhooked : s.java.Unhooked
  gateTasks : s.server.gateTasks = 0
  detached : ∀ p, (s.java.pipelines p).collected = false → (s.java.pipelines p).handlers = 0

/-- What a step must meet: when it puts the handler into a pipeline, it gets a weak reference to the
pipeline; and when it looks for the handlers, `NewLocalRef` does not give null for a pipeline that
is alive and contains a handler. -/
def tracked (s : Proxy) : ProxyAction → Bool
  | .tryCapture _ (some p) x y => !s.adds x p y || y.weak
  | .channelActive true x (some p) y => !s.adds x p y || y.weak
  | .detachAll x _ =>
    s.relay.relay.netty.pipelineCls.isNone ||
      s.relay.pipelines.all fun p =>
        !(s.java.pipelines p).owes || (x.pipelines p).ref != .null
  | _ => true

/-- The step is such that nothing escapes `stopSession`: no pipeline, and no class. -/
def orderly (s : Proxy) (a : ProxyAction) : Bool := s.tracked a && s.settled a

end Proxy

/-! ## The list of the pipelines -/

lemma Pipeline.owes_iff {p : Pipeline} :
    p.owes = true ↔ p.collected = false ∧ p.handlers ≠ 0 := by
  simp [Pipeline.owes]

/-- The pipeline still has a handler to be removed. -/
def Owes (w : Handle → Pipeline) (p : Handle) : Prop := (w p).owes = true

/-- Every live pipeline that contains a relay handler is listed, and none contains two. -/
structure Listed (w : Handle → Pipeline) (l : List Handle) : Prop where
  covers : Registry.Covers (Owes w) l
  single : ∀ p, (w p).collected = false → (w p).handlers ≤ 1

section Seek

variable {dead l : List Handle} {p q : Handle}

/-- The loop keeps the pipelines that have not been collected. -/
lemma mem_seekPipeline (hq : q ∈ l) (hdead : q ∉ dead) : q ∈ (seekPipeline dead p l).2 := by
  induction l with
  | nil => cases hq
  | cons r rs ih =>
    rcases List.mem_cons.mp hq with rfl | hq
    · rw [seekPipeline, if_neg hdead]
      split
      · exact List.mem_cons_self
      · exact List.mem_cons_self
    · rw [seekPipeline]
      split
      · exact ih hq
      · split
        · exact List.mem_cons_of_mem r hq
        · exact List.mem_cons_of_mem r (ih hq)

lemma mem_of_mem_seekPipeline (hq : q ∈ (seekPipeline dead p l).2) : q ∈ l := by
  induction l with
  | nil => cases hq
  | cons r rs ih =>
    rw [seekPipeline] at hq
    split at hq
    · exact List.mem_cons_of_mem r (ih hq)
    · split at hq
      · exact hq
      · rcases List.mem_cons.mp hq with rfl | hq
        · exact List.mem_cons_self
        · exact List.mem_cons_of_mem r (ih hq)

/-- A live pipeline that the loop does not find is not listed. -/
lemma not_mem_of_seekPipeline (hdead : p ∉ dead) (h : (seekPipeline dead p l).1 = false) :
    p ∉ l := by
  induction l with
  | nil => exact List.not_mem_nil
  | cons r rs ih =>
    rw [seekPipeline] at h
    split at h
    · rename_i hr
      have hpr : p ≠ r := fun hpr => hdead (hpr ▸ hr)
      simpa [hpr] using ih h
    · split at h
      · cases h
      · rename_i hrp
        simpa [Ne.symm hrp] using ih h

end Seek

namespace Proxy

variable {s : Proxy} {x : InstallAnswers} {p : Handle} {y : AttachAnswers}

/-- The list after the handler has been attached to a pipeline. -/
def attachedList (s : Proxy) (x : InstallAnswers) (p : Handle) (y : AttachAnswers) : List Handle :=
  if (ensureInstalled s.relay x).1 then
    (seekPipeline (s.learned y).dead p s.relay.pipelines).2 ++
      if s.adds x p y && y.weak then [p] else []
  else s.relay.pipelines

@[simp] lemma learned_weak (s : Proxy) (y : AttachAnswers) : (s.learned y).weak = y.weak := rfl

@[simp] lemma learned_handler (s : Proxy) (y : AttachAnswers) :
    (s.learned y).handler = y.handler := rfl

@[simp] lemma learned_addBefore (s : Proxy) (y : AttachAnswers) :
    (s.learned y).addBefore = y.addBefore := rfl

@[simp] lemma learned_addFirst (s : Proxy) (y : AttachAnswers) :
    (s.learned y).addFirst = y.addFirst := rfl

lemma ensureInstalled_pipelines (g : RelayGlobals) (x : InstallAnswers) :
    (ensureInstalled g x).2.1.pipelines = g.pipelines := by
  rw [ensureInstalled]
  split <;> rfl

lemma attachHandlerToPipeline_pipelines (g : RelayGlobals) (p : Handle) (y : AttachAnswers) :
    (attachHandlerToPipeline g p y).2.1.pipelines = (seekPipeline y.dead p g.pipelines).2 ++
      if !(seekPipeline y.dead p g.pipelines).1 &&
        (g.relay.valid && y.handler && (y.addBefore || y.addFirst)) && y.weak then [p] else [] := by
  cases hsought : (seekPipeline y.dead p g.pipelines).1 with
  | true => simp [attachHandlerToPipeline, hsought]
  | false =>
    simp only [attachHandlerToPipeline, hsought]
    split_ifs <;> simp_all

lemma attachHandlerToPipeline_fst (g : RelayGlobals) (p : Handle) (y : AttachAnswers) :
    (attachHandlerToPipeline g p y).1 = ((seekPipeline y.dead p g.pipelines).1 ||
      (g.relay.valid && y.handler && (y.addBefore || y.addFirst))) := by
  simp only [attachHandlerToPipeline]
  cases hsought : (seekPipeline y.dead p g.pipelines).1 with
  | true => simp
  | false =>
    cases hmade : g.relay.valid && y.handler with
    | false => simp
    | true =>
      cases hbefore : y.addBefore with
      | true => simp
      | false => cases hfirst : y.addFirst <;> simp

/-- The pipeline gets the handler exactly when the call returns true for a pipeline that it does not
find in the list. -/
theorem adds_iff : s.adds x p y = true ↔ (s.attachToPipelineObject p x y).1 = true ∧
    (seekPipeline (s.learned y).dead p s.relay.pipelines).1 = false := by
  simp only [attachToPipelineObject, Server.attachToPipelineObject, adds]
  by_cases hensured : (Server.installRelayHandler s.relay.relay x).1 = true
  · cases hsought : (seekPipeline (s.learned y).dead p s.relay.pipelines).1 with
    | true => simp
    | false => simp [hensured, hsought, attachHandlerToPipeline_fst, ensureInstalled_pipelines]
  · simp [hensured]

lemma attachToPipelineObject_pipelines (s : Proxy) (p : Handle) (x : InstallAnswers)
    (y : AttachAnswers) :
    (s.attachToPipelineObject p x y).2.relay.pipelines = s.attachedList x p y := by
  simp only [attachToPipelineObject, Server.attachToPipelineObject, attachedList, adds]
  by_cases hensured : (Server.installRelayHandler s.relay.relay x).1 = true
  · simp [hensured, attachHandlerToPipeline_pipelines, ensureInstalled_pipelines]
  · simp [hensured, ensureInstalled_pipelines]

lemma attachToPipeline_pipelines (s : Proxy) (x : InstallAnswers) (p : Handle)
    (y : AttachAnswers) :
    (s.attachToPipeline true x (some p) y).relay.pipelines = s.attachedList x p y := by
  simp only [attachToPipeline, Server.attachToPipeline, attachedList, adds]
  by_cases hensured : (Server.installRelayHandler s.relay.relay x).1 = true
  · simp [hensured, attachHandlerToPipeline_pipelines, ensureInstalled_pipelines]
  · simp [hensured, ensureInstalled_pipelines]

lemma mem_learned_dead {q : Handle} (s : Proxy) (y : AttachAnswers) :
    q ∈ (s.learned y).dead ↔ q ∈ s.relay.pipelines ∧ (s.java.pipelines q).collected = true := by
  simp [learned]

/-- A live pipeline that gets the handler has not been listed. -/
lemma not_mem_of_adds (hp : (s.java.pipelines p).collected = false) (h : s.adds x p y = true) :
    p ∉ s.relay.pipelines := by
  simp only [adds, Bool.and_eq_true, Bool.not_eq_true'] at h
  refine not_mem_of_seekPipeline ?_ h.1.2
  rw [mem_learned_dead, hp]
  simp

/-- The loop keeps the live pipelines. -/
lemma covers_seekPipeline (h : Registry.Covers (Owes s.java.pipelines) s.relay.pipelines) :
    Registry.Covers (Owes s.java.pipelines)
      (seekPipeline (s.learned y).dead p s.relay.pipelines).2 := by
  refine h.prune (fun q hq => hq) fun q hq howes => mem_seekPipeline hq ?_
  rw [mem_learned_dead, (Pipeline.owes_iff.mp howes).1]
  simp

/-- What becomes of a pipeline when the handler is attached to one. -/
lemma attached_of_adds (h : s.adds x p y = true) : s.attached x p y =
    Function.update s.java.pipelines p
      { s.java.pipelines p with handlers := (s.java.pipelines p).handlers + 1 } := if_pos h

lemma attached_of_not_adds (h : s.adds x p y = false) : s.attached x p y = s.java.pipelines := by
  rw [attached, h]
  rfl

/-- Attaching the handler keeps the list complete if there is a weak reference to the pipeline that
gets it. -/
lemma listed_attach (h : Listed s.java.pipelines s.relay.pipelines)
    (hp : (s.java.pipelines p).collected = false) (hweak : s.adds x p y = true → y.weak = true) :
    Listed (s.attached x p y) (s.attachedList x p y) := by
  have hkept := covers_seekPipeline (p := p) (y := y) h.covers
  cases hadds : s.adds x p y with
  | false =>
    rw [attached_of_not_adds hadds, attachedList, hadds]
    refine ⟨?_, h.single⟩
    split
    · exact hkept.prune (fun q hq => hq) fun q hq _ => List.mem_append_left _ hq
    · exact h.covers
  | true =>
    -- the pipeline was not listed, and so it did not contain the handler
    have hnew : (s.java.pipelines p).handlers = 0 := by
      by_contra hne
      exact not_mem_of_adds hp hadds (h.covers p (Pipeline.owes_iff.mpr ⟨hp, hne⟩))
    have hensured : (ensureInstalled s.relay x).1 = true := by
      simp only [adds, Bool.and_eq_true] at hadds
      exact hadds.1.1
    rw [attached_of_adds hadds, attachedList, if_pos hensured, hadds, hweak hadds]
    refine ⟨hkept.enter fun q hqp hq => ?_, fun q hq => ?_⟩
    · rwa [Owes, Function.update_of_ne hqp] at hq
    · by_cases hqp : q = p
      · subst hqp
        simp [hnew]
      · rw [Function.update_of_ne hqp] at hq ⊢
        exact h.single q hq

end Proxy

/-! ## Detaching -/

section Detach

variable {x : DetachAnswers} {w : Handle → Pipeline} {p q : Handle}

lemma removeHandler_self (w : Handle → Pipeline) (p : Handle) :
    removeHandler w p p = { w p with handlers := (w p).handlers - 1 } := Function.update_self ..

lemma removeHandler_of_ne (h : q ≠ p) : removeHandler w p q = w q := Function.update_of_ne h ..

/-- No handler gets into a pipeline, and no pipeline comes back to life. -/
lemma removeHandler_le (w : Handle → Pipeline) (p q : Handle) :
    (removeHandler w p q).collected = (w q).collected ∧
      (removeHandler w p q).handlers ≤ (w q).handlers := by
  by_cases hqp : q = p
  · rw [hqp, removeHandler_self]
    exact ⟨rfl, Nat.sub_le _ _⟩
  · rw [removeHandler_of_ne hqp]
    exact ⟨rfl, le_rfl⟩

lemma detachHandler_snd (x : DetachAnswers) (w : Handle → Pipeline) (p : Handle) :
    (detachHandler x w p).2 = w ∨ (detachHandler x w p).2 = removeHandler w p := by
  simp only [detachHandler]
  split
  · exact .inl rfl
  · exact .inl rfl
  · split_ifs
    · exact .inl rfl
    · exact .inl rfl
    · exact .inl rfl
    · exact .inr rfl
    · exact .inl rfl

lemma detachHandler_le (x : DetachAnswers) (w : Handle → Pipeline) (p q : Handle) :
    ((detachHandler x w p).2 q).collected = (w q).collected ∧
      ((detachHandler x w p).2 q).handlers ≤ (w q).handlers := by
  rcases detachHandler_snd x w p with h | h
  · rw [h]
    exact ⟨rfl, le_rfl⟩
  · rw [h]
    exact removeHandler_le w p q

lemma owes_of_le {v v' : Pipeline} (hcollected : v'.collected = v.collected)
    (hhandlers : v'.handlers ≤ v.handlers) (h : v'.owes = true) : v.owes = true := by
  rw [Pipeline.owes_iff] at h ⊢
  exact ⟨hcollected ▸ h.1, by omega⟩

/-- A live pipeline with a handler that is taken off the list has lost a handler, if `NewLocalRef`
has not given null for it. -/
lemma removed_of_detachHandler (howes : (w p).owes = true) (href : (x.pipelines p).ref ≠ .null)
    (h : (detachHandler x w p).1 = true) : (detachHandler x w p).2 = removeHandler w p := by
  obtain ⟨hlive, hhandlers⟩ := Pipeline.owes_iff.mp howes
  simp only [detachHandler, hlive] at h ⊢
  cases hr : (x.pipelines p).ref with
  | null => exact absurd hr href
  | throws => simp [hr, LocalRef.of] at h
  | made =>
    simp only [hr, LocalRef.of, Bool.false_eq_true, if_false, if_neg hhandlers] at h ⊢
    split_ifs at h ⊢ with hfound hget hremoved
    · rfl
    · simp_all

/-- A pipeline that is taken off the list contains no handler any more, if `NewLocalRef` has not
given null for it while it was alive and contained one. -/
lemma not_owes_of_detachHandler (hsingle : (w p).collected = false → (w p).handlers ≤ 1)
    (href : (w p).owes = true → (x.pipelines p).ref ≠ .null)
    (h : (detachHandler x w p).1 = true) : ¬ ((detachHandler x w p).2 p).owes = true := by
  intro howes
  have hle := detachHandler_le x w p p
  have hbefore := owes_of_le hle.1 hle.2 howes
  have hone := hsingle (Pipeline.owes_iff.mp hbefore).1
  rw [removed_of_detachHandler hbefore (href hbefore) h, removeHandler_self,
    Pipeline.owes_iff] at howes
  exact howes.2 (Nat.sub_eq_zero_of_le hone)

/-- A pass keeps the list complete if `NewLocalRef` gives null for no live pipeline that contains a
handler. -/
lemma listed_sweep {l : List Handle} (h : Listed w l)
    (href : ∀ p ∈ l, (w p).owes = true → (x.pipelines p).ref ≠ .null) :
    Listed (Registry.sweep (detachHandler x) w l).2 (Registry.sweep (detachHandler x) w l).1 := by
  -- what is still to be removed was to be removed at the beginning
  let J (v : Handle → Pipeline) : Prop :=
    ∀ p, (v p).collected = (w p).collected ∧ (v p).handlers ≤ (w p).handlers
  have hJ : ∀ v p, J v → J (detachHandler x v p).2 := by
    intro v p hv q
    have hle := detachHandler_le x v p q
    exact ⟨hle.1.trans (hv q).1, le_trans hle.2 (hv q).2⟩
  have hstart : J w := fun p => ⟨rfl, le_rfl⟩
  constructor
  · refine Registry.Covers.sweep hstart (fun v p _ => hJ v p) ?_ ?_ h.covers
    · intro v p q
      have hle := detachHandler_le x v p q
      exact owes_of_le hle.1 hle.2
    · intro v p hp hv
      refine not_owes_of_detachHandler ?_ ?_
      · rw [(hv p).1]
        exact fun hlive => le_trans (hv p).2 (h.single p hlive)
      · exact fun howes => href p hp (owes_of_le (hv p).1 (hv p).2 howes)
  · intro p hlive
    have hafter := Registry.sweep_invariant hstart (l := l) fun v p _ => hJ v p
    rw [(hafter p).1] at hlive
    exact le_trans (hafter p).2 (h.single p hlive)

end Detach

namespace Proxy

variable {s s' : Proxy} {a : ProxyAction} {es : List RuntimeEvent}

/-- What is listed, and what is in the pipelines. -/
def ListedIn (s : Proxy) : Prop := Listed s.java.pipelines s.relay.pipelines

lemma listed_detachAll (h : s.ListedIn) {x : DetachAnswers}
    (htracked : s.relay.relay.netty.pipelineCls.isSome = true →
      ∀ p ∈ s.relay.pipelines, Owes s.java.pipelines p → (x.pipelines p).ref ≠ .null) :
    (s.detachAll x).2.ListedIn := by
  rw [ListedIn]
  simp only [detachAll, Server.detachAll]
  split
  · rename_i hcls
    have hswept := listed_sweep h (htracked hcls)
    refine ⟨fun p hp => ?_, hswept.single⟩
    have hkept := hswept.covers p hp
    exact List.mem_filter.mpr ⟨Registry.sweep_sublist.mem hkept, by simpa using hkept⟩
  · exact h

/-- What a step does to the pipelines and to the list of them. -/
inductive PipelineStep (s : Proxy) (a : ProxyAction) (s' : Proxy) : Prop
  /-- No pipeline gets a handler. -/
  | other (htracked : s.tracked a = true) (hlist : s'.relay.pipelines = s.relay.pipelines)
      (hle : ∀ p, ((s'.java.pipelines p).collected = false →
        (s.java.pipelines p).collected = false) ∧
          (s'.java.pipelines p).handlers ≤ (s.java.pipelines p).handlers)
  | attach (x : InstallAnswers) (p : Handle) (y : AttachAnswers)
      (htracked : s.tracked a = (!s.adds x p y || y.weak))
      (hlive : (s.java.pipelines p).collected = false)
      (hlist : s'.relay.pipelines = s.attachedList x p y)
      (hpipelines : s'.java.pipelines = s.attached x p y)
  | detach (x : DetachAnswers) (now : ℕ) (ha : a = .detachAll x now)
      (hlist : s'.relay.pipelines = (s.detachAll x).2.relay.pipelines)
      (hpipelines : s'.java.pipelines = (s.detachAll x).2.java.pipelines)

namespace PipelineStep

/-- A step that does not touch the pipelines. -/
lemma same (htracked : s.tracked a = true) (hlist : s'.relay.pipelines = s.relay.pipelines)
    (hpipelines : s'.java.pipelines = s.java.pipelines) : PipelineStep s a s' := by
  refine .other htracked hlist fun p => ?_
  rw [hpipelines]
  exact ⟨id, le_rfl⟩

/-- The controller does not touch the pipelines. -/
lemma control {t : Proxy} {b : RuntimeAction} (hstep : t.control b = some (s', es))
    (htracked : s.tracked a = true) (hlist : t.relay.pipelines = s.relay.pipelines)
    (hpipelines : t.java.pipelines = s.java.pipelines) : PipelineStep s a s' := by
  obtain ⟨r, -, heq⟩ := Option.map_eq_some_iff.mp hstep
  cases heq
  exact .same htracked hlist hpipelines

end PipelineStep

lemma attachToPipeline_pipelines_none (s : Proxy) (ctx : Bool) (x : InstallAnswers)
    (y : AttachAnswers) :
    (s.attachToPipeline ctx x none y).relay.pipelines = s.relay.pipelines := by
  simp only [attachToPipeline, Server.attachToPipeline]
  split_ifs <;> simp_all [ensureInstalled_pipelines]

lemma pipelineStep_of_step (hstep : s.step a = some (s', es)) : PipelineStep s a s' := by
  cases a with
  | runtime a =>
    obtain ⟨-, hstep⟩ := Option.ite_none_right_eq_some.mp hstep
    exact .control hstep rfl rfl rfl
  | installRelayHandler hookBridge x =>
    simp only [step] at hstep
    split at hstep
    · exact .control hstep rfl rfl rfl
    · exact .control hstep rfl rfl rfl
  | installConnectionHook x =>
    obtain ⟨-, hstep⟩ := Option.ite_none_right_eq_some.mp hstep
    cases hstep
    exact .same rfl rfl (s.java.installConnectionHook_pipelines s.runtime.gate x)
  | installBServer result listening =>
    obtain ⟨-, hstep⟩ := Option.ite_none_right_eq_some.mp hstep
    cases hstep
    exact .same rfl rfl rfl
  | tryCapture connected pipeline x y =>
    obtain ⟨-, hstep⟩ := Option.ite_none_right_eq_some.mp hstep
    cases pipeline with
    | none =>
      cases hstep
      exact .same rfl rfl rfl
    | some p =>
      obtain ⟨hlive, hstep⟩ := Option.ite_none_left_eq_some.mp hstep
      cases hstep
      exact .attach x p y rfl (by simpa using hlive) (attachToPipelineObject_pipelines s p x y) rfl
  | blockAMainThread found executed =>
    obtain ⟨-, hstep⟩ := Option.ite_none_right_eq_some.mp hstep
    cases hstep
    exact .same rfl rfl rfl
  | activate =>
    obtain ⟨-, hstep⟩ := Option.ite_none_right_eq_some.mp hstep
    exact .control hstep rfl rfl rfl
  | requestStop => exact .control (t := { s with server := s.server.requestStop }) hstep rfl rfl rfl
  | stopBServer a =>
    obtain ⟨-, hstep⟩ := Option.ite_none_right_eq_some.mp hstep
    exact .control (t := (s.stopBServer a).2) hstep rfl
      (congrArg RelayGlobals.pipelines (stopBServer_relay s a)) (stopBServer_pipelines s a)
  | uninstallConnectionHook x =>
    exact .control (t := { s with java := (s.java.uninstallConnectionHook x).2 }) hstep rfl rfl
      (s.java.uninstallConnectionHook_pipelines x)
  | detachAll x now =>
    obtain ⟨r, -, heq⟩ := Option.map_eq_some_iff.mp hstep
    cases heq
    exact .detach x now rfl rfl rfl
  | initChannel weak =>
    obtain ⟨-, hstep⟩ := Option.ite_none_right_eq_some.mp hstep
    cases weak with
    | true =>
      cases hstep
      exact .same rfl rfl rfl
    | false =>
      cases hstep
      exact .same rfl rfl rfl
  | channelActive ctx x pipeline y =>
    obtain ⟨⟨-, hlive⟩, hstep⟩ := Option.ite_none_right_eq_some.mp hstep
    cases hstep
    cases pipeline with
    | none =>
      have htracked : s.tracked (.channelActive ctx x none y) = true := by cases ctx <;> rfl
      exact .same htracked (attachToPipeline_pipelines_none s ctx x y) rfl
    | some p =>
      cases ctx with
      | false => exact .same rfl rfl rfl
      | true => exact .attach x p y rfl (hlive p rfl) (attachToPipeline_pipelines s x p y) rfl
  | defineClass k =>
    simp only [step] at hstep
    split at hstep
    · cases hstep
      exact .same rfl rfl rfl
    · cases hstep
  | runGate =>
    obtain ⟨-, hstep⟩ := Option.ite_none_right_eq_some.mp hstep
    cases hstep
    exact .same rfl rfl rfl
  | terminate =>
    obtain ⟨-, hstep⟩ := Option.ite_none_right_eq_some.mp hstep
    cases hstep
    exact .same rfl rfl rfl
  | removeHandler p =>
    cases hstep
    refine .other rfl rfl fun q => ?_
    have hle := removeHandler_le s.java.pipelines p q
    exact ⟨fun hlive => hle.1 ▸ hlive, hle.2⟩
  | collectPipeline p =>
    cases hstep
    refine .other rfl rfl fun q => ?_
    by_cases hqp : q = p
    · subst hqp
      simp
    · simp [Function.update_of_ne hqp]
  -- the others are about the server and the classes
  | _ =>
    cases hstep
    exact .same rfl rfl rfl

/-- A step that meets the condition keeps the list complete. -/
lemma listed_step (h : s.ListedIn) (htracked : s.tracked a = true)
    (hstep : s.step a = some (s', es)) : s'.ListedIn := by
  rw [ListedIn]
  cases pipelineStep_of_step hstep with
  | other _ hlist hle =>
    rw [hlist]
    refine ⟨h.covers.prune (fun p hp => ?_) fun p hp _ => hp, fun p hlive => ?_⟩
    · obtain ⟨hlive, hhandlers⟩ := Pipeline.owes_iff.mp hp
      have hp' := (hle p).2
      exact Pipeline.owes_iff.mpr ⟨(hle p).1 hlive, by omega⟩
    · exact le_trans (hle p).2 (h.single p ((hle p).1 hlive))
  | attach x p y ht hlive hlist hpipelines =>
    rw [hlist, hpipelines]
    refine listed_attach h hlive fun hadds => ?_
    rw [htracked, hadds] at ht
    exact ht.symm
  | detach x now ha hlist hpipelines =>
    subst ha
    rw [hlist, hpipelines]
    refine listed_detachAll h fun hcls p hp howes => ?_
    simp only [tracked, Bool.or_eq_true, List.all_eq_true] at htracked
    rcases htracked with hnone | hall
    · simp [Option.isNone_iff_eq_none.mp hnone] at hcls
    · simpa [show (s.java.pipelines p).owes = true from howes] using hall p hp

/-- A pipeline that gets the handler without a weak reference is not listed. -/
lemma not_mem_attachedList {x : InstallAnswers} {p : Handle} {y : AttachAnswers}
    (hp : (s.java.pipelines p).collected = false) (hadds : s.adds x p y = true)
    (hweak : y.weak = false) : Owes (s.attached x p y) p ∧ p ∉ s.attachedList x p y := by
  constructor
  · rw [attached_of_adds hadds]
    refine Pipeline.owes_iff.mpr ?_
    simp [hp]
  · rw [attachedList, hweak]
    split
    · simpa using fun hmem => not_mem_of_adds hp hadds (mem_of_mem_seekPipeline hmem)
    · exact not_mem_of_adds hp hadds

/-- A live pipeline for which `NewLocalRef` gives null is taken off the list as it is. -/
lemma not_mem_sweep {x : DetachAnswers} {w : Handle → Pipeline} {p : Handle} {l : List Handle}
    (howes : Owes w p) (href : (x.pipelines p).ref = .null) :
    Owes (Registry.sweep (detachHandler x) w l).2 p ∧
      p ∉ (Registry.sweep (detachHandler x) w l).1 := by
  have hnull : ∀ v : Handle → Pipeline, v p = w p → detachHandler x v p = (true, v) := by
    intro v hv
    simp [detachHandler, href, LocalRef.of]
  have hJ : ∀ (v : Handle → Pipeline) (q : Handle), v p = w p →
      (detachHandler x v q).2 p = w p := by
    intro v q hv
    by_cases hpq : p = q
    · rw [← hpq, hnull v hv]
      exact hv
    · rcases detachHandler_snd x v q with h | h
      · rw [h]
        exact hv
      · rw [h, removeHandler_of_ne hpq]
        exact hv
  constructor
  · have hsame := Registry.sweep_invariant (J := fun v => v p = w p) rfl (l := l)
      fun v q _ => hJ v q
    rw [Owes, hsame]
    exact howes
  · refine Registry.not_mem_sweep (J := fun v => v p = w p) rfl hJ fun v hv => ?_
    rw [hnull v hv]

/-- A step that does not meet the condition leaves a live pipeline that contains the handler and is
not listed. -/
lemma exists_unlisted_of_not_tracked (htracked : s.tracked a = false)
    (hstep : s.step a = some (s', es)) :
    ∃ p, Owes s'.java.pipelines p ∧ p ∉ s'.relay.pipelines := by
  cases pipelineStep_of_step hstep with
  | other ht =>
    rw [htracked] at ht
    cases ht
  | attach x p y ht hlive hlist hpipelines =>
    rw [htracked, eq_comm, Bool.or_eq_false_iff, Bool.not_eq_false'] at ht
    rw [hlist, hpipelines]
    exact ⟨p, not_mem_attachedList hlive ht.1 ht.2⟩
  | detach x now ha hlist hpipelines =>
    subst ha
    simp only [tracked, Bool.or_eq_false_iff, Option.isNone_eq_false_iff, List.all_eq_false]
      at htracked
    obtain ⟨hcls, p, hp, href⟩ := htracked
    obtain ⟨howes, hnull⟩ : Owes s.java.pipelines p ∧ (x.pipelines p).ref = .null := by
      simpa [Owes] using href
    have hdropped := not_mem_sweep (l := s.relay.pipelines) howes hnull
    rw [hlist, hpipelines]
    refine ⟨p, ?_⟩
    simp only [detachAll, Server.detachAll, hcls, if_true]
    exact ⟨hdropped.1, fun hmem => hdropped.2 (by simpa using (List.mem_filter.mp hmem).2)⟩

/-- The condition is exactly what keeps the list complete. -/
theorem tracked_iff (h : s.ListedIn) (hstep : s.step a = some (s', es)) :
    s.tracked a = true ↔ s'.ListedIn := by
  refine ⟨fun htracked => listed_step h htracked hstep, fun hlisted => ?_⟩
  by_contra hne
  obtain ⟨p, howes, hp⟩ := exists_unlisted_of_not_tracked (by simpa using hne) hstep
  exact hp (hlisted.covers p howes)

end Proxy

/-! ## Whole runs -/

namespace Proxy

variable {s s' : Proxy} {a : ProxyAction} {es tr : List RuntimeEvent}

/-- The list of the pipelines is complete along a run whose steps all meet the condition, and what
`UninstallConnectionHook` has reported is still so. -/
lemma complete_of_run (hrun : Step.Run (Step.restrict orderly step) {} tr s) :
    s.ListedIn ∧ s.HookGone := by
  have hlisted : ListedIn {} :=
    ⟨fun p hp => absurd rfl (Pipeline.owes_iff.mp hp).2, fun _ _ => Nat.zero_le 1⟩
  have hgone : HookGone {} := fun h => (by cases h)
  refine hrun.invariant (I := fun _ s => s.ListedIn ∧ s.HookGone) ⟨hlisted, hgone⟩ ?_
  rintro _ s a s' es ⟨hl, hg⟩ hstep
  obtain ⟨horderly, hstep⟩ := Step.restrict_eq_some.mp hstep
  obtain ⟨htracked, hsettled⟩ := Bool.and_eq_true_iff.mp horderly
  exact ⟨listed_step hl htracked hstep, (settled_iff hg hstep).mp hsettled⟩

/-- In every run, whenever `stopSession` returns true, the listener and the accepted channels are
closed, the hook is disabled, and there is no gate task.  This does not depend on the weak
references to the channels. -/
theorem released_of_stopSession (hrun : Step.Run step {} tr s)
    (hstep : s.step a = some (s', es)) (hmem : .stopSession true ∈ es) :
    ChannelsClosed s'.server s'.java ∧ s'.java.hooked = false ∧ s'.server.gateTasks = 0 := by
  have hinv := proxyInv_of_run hrun
  obtain ⟨x, now, caller, -, hpc, -, hserver, hjava, -⟩ := detachAll_of_stopSession hstep hmem
  obtain ⟨hnone, hgate⟩ := hinv.stopped (by rw [hpc]; rfl)
  have hclosed := hinv.ended (.inl hnone)
  have hhooked := hooked_of_run hrun (by rw [hpc]; rfl)
  rw [hserver, hjava]
  exact ⟨⟨hclosed.listening, hclosed.channels⟩, hhooked, hgate⟩

/-- In a run whose steps all meet the condition, whenever `stopSession` returns true, the listener
and the accepted channels are closed, the hook is disabled and `Connection` retransformed, there is
no gate task, and no live pipeline contains a relay handler. -/
theorem stopped_of_stopSession (hrun : Step.Run (Step.restrict orderly step) {} tr s)
    (hstep : Step.restrict orderly step s a = some (s', es)) (hmem : .stopSession true ∈ es) :
    s'.Stopped := by
  obtain ⟨horderly, hstep⟩ := Step.restrict_eq_some.mp hstep
  obtain ⟨hlisted, hgone⟩ := complete_of_run hrun
  obtain ⟨hclosed, -, hgate⟩ := released_of_stopSession hrun.of_restrict hstep hmem
  have hcovers := (listed_step hlisted (Bool.and_eq_true_iff.mp horderly).1 hstep).covers
  obtain ⟨x, now, caller, -, hpc, hdetached, -, hjava, hrelay⟩ :=
    detachAll_of_stopSession hstep hmem
  have hunhooked : s.java.Unhooked := hgone (by rw [hpc]; rfl)
  refine ⟨hclosed, ?_, hgate, fun p hlive => ?_⟩
  · rw [hjava]
    exact ⟨hunhooked.hooked, hunhooked.restored⟩
  -- `RelayHandler_DetachAll` has returned true because the list is empty
  · have hempty : s'.relay.pipelines = [] := by
      rw [hrelay]
      exact List.isEmpty_iff.mp hdetached
    rw [hempty] at hcovers
    by_contra hne
    exact hcovers.not_owes_of_nil p (Pipeline.owes_iff.mpr ⟨hlive, hne⟩)

/-- A session that captures A's connection and that DEL stops, up to the last step.  There is a weak
reference to the pipeline, or there is none. -/
def stopActions (weak : Bool) : List ProxyAction :=
  [.runtime (.retry 0 true), .runtime (.start true), .installRelayHandler true RelayHandler.found,
    .runtime .openGate, .installConnectionHook {}, .installBServer (.listening true true) true,
    .tryCapture true (some 20) RelayHandler.found { weak := weak }, .activate,
    .runtime .construct, .readClass true true, .initChannel false, .runtime (.destroy 0),
    .defineClass 0, .runtime (.delete true true), .requestStop, .runtime .close,
    .runtime (.drain 1), .stopBServer ⟨true, [], .joined false, true, true⟩,
    .uninstallConnectionHook {}]

theorem stopped_of_stopSession_test : ∃ tr s a s' es,
    Step.Run (Step.restrict orderly step) {} tr s ∧
      Step.restrict orderly step s a = some (s', es) ∧ .stopSession true ∈ es ∧ s'.Stopped := by
  have h : ((Step.exec (Step.restrict orderly step) {} (stopActions true)).bind fun r =>
      Step.restrict orderly step r.1 (.detachAll {} 2)).map Prod.snd =
      some [.stopSession true] := by decide
  obtain ⟨⟨s', es⟩, hlast, hes⟩ := Option.map_eq_some_iff.mp h
  obtain ⟨⟨s, tr⟩, hexec, hstep⟩ := Option.bind_eq_some_iff.mp hlast
  obtain rfl : es = [.stopSession true] := hes
  have hrun := Step.run_of_exec hexec
  have hmem := List.mem_singleton_self (RuntimeEvent.stopSession true)
  exact ⟨tr, s, _, s', _, hrun, hstep, hmem, stopped_of_stopSession hrun hstep hmem⟩

/-- There is no weak reference to the pipeline.  Everything else succeeds, `stopSession` returns
true, and the handler is still in the pipeline of A's connection. -/
theorem stopSession_early : ∃ tr s a s' es, Step.Run step {} tr s ∧ step s a = some (s', es) ∧
    .stopSession true ∈ es ∧ s'.java.pipelines 20 = ⟨1, false⟩ ∧ ¬ s'.Stopped := by
  have h : ((Step.exec step {} (stopActions false)).bind fun r =>
      step r.1 (.detachAll {} 2)).map (fun r => (r.2, r.1.java.pipelines 20)) =
      some ([.stopSession true], ⟨1, false⟩) := by decide
  obtain ⟨⟨s', es⟩, hlast, heq⟩ := Option.map_eq_some_iff.mp h
  obtain ⟨⟨s, tr⟩, hexec, hstep⟩ := Option.bind_eq_some_iff.mp hlast
  obtain ⟨hes, hpipeline⟩ := Prod.mk.inj heq
  obtain rfl : es = [.stopSession true] := hes
  have hpipeline : s'.java.pipelines 20 = ⟨1, false⟩ := hpipeline
  refine ⟨tr, s, _, s', _, Step.run_of_exec hexec, hstep, List.mem_singleton_self _, hpipeline,
    fun hstopped => ?_⟩
  have hhandlers := hstopped.detached 20 (by rw [hpipeline])
  rw [hpipeline] at hhandlers
  cases hhandlers

end Proxy

end Server
end SakuraTools
