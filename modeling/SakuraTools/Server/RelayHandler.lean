import SakuraTools.Lib.Transition

/-!
# The bindings of the relay handler

`InstallRelayHandler` of `native/relay_handler.cpp` defines the class of the handler and then looks
up the methods of Netty.  The handler counts as valid as soon as it has a class.  What the JVM
answers to each definition and to each lookup is part of the action.
-/

namespace SakuraTools
namespace Server

/-! ## The handler and its references -/

/-- A `jclass` or a `jmethodID` that is not null, or the identity of a pipeline. -/
abbrev Handle := ℕ

/-- `RelayHandler::NettyRefs` -/
structure NettyRefs where
  contextCls : Option Handle := none
  pipelineMid : Option Handle := none
  fireChannelReadMid : Option Handle := none
  ctxWriteMid : Option Handle := none
  ctxWriteFlushMid : Option Handle := none
  pipelineCls : Option Handle := none
  addFirstMid : Option Handle := none
  addBeforeMid : Option Handle := none
  promiseCls : Option Handle := none
  promiseSetSuccessMid : Option Handle := none
deriving DecidableEq, Repr

/-- The methods that the test at the end of `cacheNettyRefs` asks for. -/
inductive NettyMethod where
  | pipeline
  | fireChannelRead
  | ctxWrite
  | addFirst
  | addBefore
  | promiseSetSuccess
deriving DecidableEq, Repr

namespace NettyRefs

def mid (n : NettyRefs) : NettyMethod → Option Handle
  | .pipeline => n.pipelineMid
  | .fireChannelRead => n.fireChannelReadMid
  | .ctxWrite => n.ctxWriteMid
  | .addFirst => n.addFirstMid
  | .addBefore => n.addBeforeMid
  | .promiseSetSuccess => n.promiseSetSuccessMid

/-- The test at the end of `cacheNettyRefs`. -/
def resolved (n : NettyRefs) : Bool :=
  !(!n.pipelineMid.isSome || !n.fireChannelReadMid.isSome || !n.ctxWriteMid.isSome ||
    !n.addFirstMid.isSome || !n.addBeforeMid.isSome || !n.promiseSetSuccessMid.isSome)

lemma resolved_iff {n : NettyRefs} : n.resolved = true ↔ ∀ m, (n.mid m).isSome = true := by
  constructor
  · intro h m
    simp only [resolved, Bool.not_or, Bool.not_not, Bool.and_eq_true] at h
    obtain ⟨⟨⟨⟨⟨hpipeline, hread⟩, hwrite⟩, hfirst⟩, hbefore⟩, hsuccess⟩ := h
    cases m <;> assumption
  · intro h
    simp only [resolved, Bool.not_or, Bool.not_not, Bool.and_eq_true]
    exact ⟨⟨⟨⟨⟨h .pipeline, h .fireChannelRead⟩, h .ctxWrite⟩, h .addFirst⟩, h .addBefore⟩,
      h .promiseSetSuccess⟩

end NettyRefs

/-- `RelayHandler` without the names of its class. -/
structure RelayHandler where
  klass : Option Handle := none
  ctor : Option Handle := none
  netty : NettyRefs := {}
deriving DecidableEq, Repr

/-- `RelayHandler::valid` -/
def RelayHandler.valid (r : RelayHandler) : Bool := r.klass.isSome

/-! ## The installation -/

/-- The answers to `defineRelayClass`: of `DefineClass`, `RegisterNatives`, `GetMethodID` and
`NewGlobalRef`. -/
structure DefineAnswers where
  defined : Bool
  registered : Bool
  ctor : Option Handle
  klass : Option Handle
deriving DecidableEq, Repr

/-- The answers to `cacheNettyRefs`: which classes are loaded, and for each reference what
`NewGlobalRef` or `GetMethodID` returns when it is called. -/
structure NettyAnswers extends NettyRefs where
  contextLoaded : Bool
  pipelineLoaded : Bool
  promiseLoaded : Bool
deriving DecidableEq, Repr

/-- The answers to one call of `InstallRelayHandler`: whether it gets an environment and finds
Minecraft's class loader, and those to its two halves. -/
structure InstallAnswers where
  env : Bool := true
  mcLoader : Bool := true
  relay : DefineAnswers
  netty : NettyAnswers
deriving DecidableEq, Repr

/-- `defineRelayClass` -/
def defineRelayClass (r : RelayHandler) (x : DefineAnswers) : Bool × RelayHandler :=
  if !x.defined then (false, r)
  else if !x.registered then (false, r)
  else if !x.ctor.isSome then (false, r)
  else (true, { r with klass := x.klass, ctor := x.ctor })

/-- `cacheNettyRefs` -/
def cacheNettyRefs (n : NettyRefs) (x : NettyAnswers) : Bool × NettyRefs :=
  if !x.contextLoaded then (false, n)
  else
    let n := { n with
      contextCls := x.contextCls
      pipelineMid := x.pipelineMid
      fireChannelReadMid := x.fireChannelReadMid
      ctxWriteMid := x.ctxWriteMid
      ctxWriteFlushMid := x.ctxWriteFlushMid }
    if !x.pipelineLoaded then (false, n)
    else
      let n := { n with
        pipelineCls := x.pipelineCls
        addFirstMid := x.addFirstMid
        addBeforeMid := x.addBeforeMid }
      if !x.promiseLoaded then (false, n)
      else
        let n := { n with
          promiseCls := x.promiseCls
          promiseSetSuccessMid := x.promiseSetSuccessMid }
        (n.resolved, n)

/-- `InstallRelayHandler` -/
def installRelayHandler (r : RelayHandler) (x : InstallAnswers) : Bool × RelayHandler :=
  if r.valid then (true, r)
  else if !x.env then (false, r)
  else if !x.mcLoader then (false, r)
  else
    let defined := defineRelayClass r x.relay
    if !defined.1 then (false, defined.2)
    else
      let cached := cacheNettyRefs defined.2.netty x.netty
      (cached.1, { defined.2 with netty := cached.2 })

/-! ## Attaching the handler -/

/-- What `attachHandlerToPipeline` learns: which of the pipelines that it knows have been collected,
whether the handler is made, whether `addBefore` and `addFirst` return without an exception, and
whether the weak reference is made. -/
structure AttachAnswers where
  dead : List Handle := []
  handler : Bool := true
  addBefore : Bool := true
  addFirst : Bool := true
  weak : Bool := true
deriving DecidableEq, Repr

/-- `g_relay` and `g_pipelines`, and whether any pipeline has got a handler. -/
structure RelayGlobals where
  relay : RelayHandler := {}
  pipelines : List Handle := []
  attached : Bool := false
deriving DecidableEq, Repr

inductive BindingEvent where
  /-- `InstallRelayHandler` has returned; with the references after the call. -/
  | returned (ok : Bool) (netty : NettyRefs)
  /-- A handler that is valid is attached without a call of `InstallRelayHandler`. -/
  | skipped (netty : NettyRefs)
  /-- A method is called through its id. -/
  | called (mid : Option Handle)
deriving DecidableEq, Repr

/-- The loop of `attachHandlerToPipeline`, which drops the pipelines that have been collected until
it finds the pipeline. -/
def seekPipeline (dead : List Handle) (pipeline : Handle) : List Handle → Bool × List Handle
  | [] => (false, [])
  | p :: ps =>
    if p ∈ dead then seekPipeline dead pipeline ps
    else if p = pipeline then (true, p :: ps)
    else ((seekPipeline dead pipeline ps).1, p :: (seekPipeline dead pipeline ps).2)

/-- `attachHandlerToPipeline`.  There is no object of a class that is null. -/
def attachHandlerToPipeline (g : RelayGlobals) (pipeline : Handle) (y : AttachAnswers) :
    Bool × RelayGlobals × List BindingEvent :=
  let sought := seekPipeline y.dead pipeline g.pipelines
  let g := { g with pipelines := sought.2 }
  let added := { g with
    pipelines := if y.weak then g.pipelines ++ [pipeline] else g.pipelines
    attached := true }
  if sought.1 then (true, g, [])
  else if !(g.relay.valid && y.handler) then (false, g, [])
  else if y.addBefore then (true, added, [.called g.relay.netty.addBeforeMid])
  else if y.addFirst then
    (true, added, [.called g.relay.netty.addBeforeMid, .called g.relay.netty.addFirstMid])
  else (false, g, [.called g.relay.netty.addBeforeMid, .called g.relay.netty.addFirstMid])

/-- The test that `RelayHandler_AttachToPipeline` and `RelayHandler_AttachToPipelineObject` begin
with: whether they go on. -/
def ensureInstalled (g : RelayGlobals) (x : InstallAnswers) :
    Bool × RelayGlobals × List BindingEvent :=
  if g.relay.valid then (true, g, [.skipped g.relay.netty])
  else
    let installed := installRelayHandler g.relay x
    (installed.1, { g with relay := installed.2 }, [.returned installed.1 installed.2.netty])

/-- `RelayHandler_AttachToPipeline`; `pipeline` is what `ctx.pipeline()` returns, if it returns. -/
def attachToPipeline (g : RelayGlobals) (ctx : Bool) (x : InstallAnswers)
    (pipeline : Option Handle) (y : AttachAnswers) : RelayGlobals × List BindingEvent :=
  if !ctx then (g, [])
  else
    let ensured := ensureInstalled g x
    let g := ensured.2.1
    if !ensured.1 then (g, ensured.2.2)
    else
      match pipeline with
      | none => (g, ensured.2.2 ++ [.called g.relay.netty.pipelineMid])
      | some p =>
        let attached := attachHandlerToPipeline g p y
        (attached.2.1, ensured.2.2 ++ .called g.relay.netty.pipelineMid :: attached.2.2)

/-- `RelayHandler_AttachToPipelineObject` -/
def attachToPipelineObject (g : RelayGlobals) (pipeline : Option Handle) (x : InstallAnswers)
    (y : AttachAnswers) : Bool × RelayGlobals × List BindingEvent :=
  match pipeline with
  | none => (false, g, [])
  | some p =>
    let ensured := ensureInstalled g x
    let g := ensured.2.1
    if !ensured.1 then (false, g, ensured.2.2)
    else
      let attached := attachHandlerToPipeline g p y
      (attached.1, attached.2.1, ensured.2.2 ++ attached.2.2)

/-- `RelayHandler_DetachAll`, which leaves the pipelines whose handler it could not remove, and all
of them when it has no class to look up the methods in. -/
def detachAll (g : RelayGlobals) (kept : List Handle) : RelayGlobals :=
  if g.relay.netty.pipelineCls.isSome then
    { g with pipelines := g.pipelines.filter (· ∈ kept) }
  else g

/-- `Native_RelayWrite`, when it has decided whether to let the packet through. -/
def relayWriteCalls (n : NettyRefs) (allow promise : Bool) : List BindingEvent :=
  if allow then [.called n.ctxWriteMid]
  else if promise && n.promiseSetSuccessMid.isSome then [.called n.promiseSetSuccessMid]
  else []

inductive BindingAction where
  /-- `startSession` installs the handler. -/
  | installRelayHandler (x : InstallAnswers)
  | attachToPipeline (ctx : Bool) (x : InstallAnswers) (pipeline : Option Handle)
      (y : AttachAnswers)
  | attachToPipelineObject (pipeline : Option Handle) (x : InstallAnswers) (y : AttachAnswers)
  /-- `stopSession` removes the handlers. -/
  | detachAll (kept : List Handle)
  -- the methods of a handler in a pipeline
  | channelRead
  | write (allow promise : Bool)
deriving DecidableEq, Repr

namespace RelayHandler

/-- One call into `relay_handler.cpp`.  No handler is called that is in no pipeline. -/
def step : Step RelayGlobals BindingAction BindingEvent
  | g, .installRelayHandler x =>
    let installed := installRelayHandler g.relay x
    some ({ g with relay := installed.2 }, [.returned installed.1 installed.2.netty])
  | g, .attachToPipeline ctx x pipeline y => some (attachToPipeline g ctx x pipeline y)
  | g, .attachToPipelineObject pipeline x y => some (attachToPipelineObject g pipeline x y).2
  | g, .detachAll kept => some (detachAll g kept, [])
  | g, .channelRead =>
    if g.attached then some (g, [.called g.relay.netty.fireChannelReadMid]) else none
  | g, .write allow promise =>
    if g.attached then some (g, relayWriteCalls g.relay.netty allow promise) else none

end RelayHandler

/-! ## What an installation finds -/

/-- Whether `cacheNettyRefs` gets as far as looking up the method. -/
def NettyAnswers.asks (x : NettyAnswers) : NettyMethod → Bool
  | .pipeline | .fireChannelRead | .ctxWrite => x.contextLoaded
  | .addFirst | .addBefore => x.contextLoaded && x.pipelineLoaded
  | .promiseSetSuccess => x.contextLoaded && x.pipelineLoaded && x.promiseLoaded

namespace InstallAnswers

/-- Nothing stops the call before `defineRelayClass` returns true. -/
def defines (x : InstallAnswers) : Bool :=
  x.env && x.mcLoader && x.relay.defined && x.relay.registered && x.relay.ctor.isSome

/-- The call stores a class that is not null. -/
def stores (x : InstallAnswers) : Bool := x.defines && x.relay.klass.isSome

/-- What is known of each method after the call, from what was known before. -/
def learn (x : InstallAnswers) (known : NettyMethod → Option Handle) (m : NettyMethod) :
    Option Handle :=
  if x.defines && x.netty.asks m then x.netty.mid m else known m

end InstallAnswers

section Install

variable {r : RelayHandler} {n : NettyRefs} {x : InstallAnswers}

lemma cacheNettyRefs_mid (n : NettyRefs) (x : NettyAnswers) (m : NettyMethod) :
    (cacheNettyRefs n x).2.mid m = if x.asks m then x.mid m else n.mid m := by
  cases hcontext : x.contextLoaded with
  | false => cases m <;> simp [cacheNettyRefs, NettyAnswers.asks, hcontext]
  | true =>
    cases hpipeline : x.pipelineLoaded with
    | false =>
      cases m <;> simp [cacheNettyRefs, NettyAnswers.asks, NettyRefs.mid, hcontext, hpipeline]
    | true =>
      cases hpromise : x.promiseLoaded with
      | false =>
        cases m <;>
          simp [cacheNettyRefs, NettyAnswers.asks, NettyRefs.mid, hcontext, hpipeline, hpromise]
      | true =>
        cases m <;>
          simp [cacheNettyRefs, NettyAnswers.asks, NettyRefs.mid, hcontext, hpipeline, hpromise]

/-- `cacheNettyRefs` does not return true with a method missing. -/
lemma resolved_of_cacheNettyRefs {x : NettyAnswers} (h : (cacheNettyRefs n x).1 = true) :
    (cacheNettyRefs n x).2.resolved = true := by
  cases hcontext : x.contextLoaded with
  | false => simp [cacheNettyRefs, hcontext] at h
  | true =>
    cases hpipeline : x.pipelineLoaded with
    | false => simp [cacheNettyRefs, hcontext, hpipeline] at h
    | true =>
      cases hpromise : x.promiseLoaded with
      | false => simp [cacheNettyRefs, hcontext, hpipeline, hpromise] at h
      -- the last test is what is returned
      | true =>
        simp only [cacheNettyRefs, hcontext, hpipeline, hpromise] at h ⊢
        exact h

lemma installRelayHandler_of_valid (hr : r.valid = true) :
    installRelayHandler r x = (true, r) := by
  simp [installRelayHandler, hr]

/-- A call that does not get through `defineRelayClass` changes nothing. -/
lemma installRelayHandler_of_not_defines (hr : r.valid = false) (hx : x.defines = false) :
    installRelayHandler r x = (false, r) := by
  simp only [InstallAnswers.defines, Bool.and_eq_false_iff] at hx
  rcases hx with (((henv | hloader) | hdefined) | hregistered) | hctor
  · simp [installRelayHandler, hr, henv]
  · simp [installRelayHandler, hr, hloader]
  · simp [installRelayHandler, defineRelayClass, hr, hdefined]
  · simp [installRelayHandler, defineRelayClass, hr, hregistered]
  · simp [installRelayHandler, defineRelayClass, hr, hctor]

lemma installRelayHandler_of_defines (hr : r.valid = false) (hx : x.defines = true) :
    installRelayHandler r x = ((cacheNettyRefs r.netty x.netty).1,
      { klass := x.relay.klass, ctor := x.relay.ctor,
        netty := (cacheNettyRefs r.netty x.netty).2 }) := by
  simp only [InstallAnswers.defines, Bool.and_eq_true] at hx
  obtain ⟨⟨⟨⟨henv, hloader⟩, hdefined⟩, hregistered⟩, hctor⟩ := hx
  simp [installRelayHandler, defineRelayClass, hr, henv, hloader, hdefined, hregistered, hctor]

/-- What a call makes of a handler that is not valid. -/
lemma installRelayHandler_spec (hr : r.valid = false) :
    (installRelayHandler r x).2.valid = x.stores ∧
      (installRelayHandler r x).2.netty.mid = x.learn r.netty.mid ∧
      ((installRelayHandler r x).1 = true →
        (installRelayHandler r x).2.netty.resolved = true) := by
  cases hx : x.defines with
  | false =>
    rw [installRelayHandler_of_not_defines hr hx]
    refine ⟨by simp [hr, InstallAnswers.stores, hx], ?_, by simp⟩
    funext m
    simp [InstallAnswers.learn, hx]
  | true =>
    rw [installRelayHandler_of_defines hr hx]
    refine ⟨by simp [RelayHandler.valid, InstallAnswers.stores, hx], ?_,
      resolved_of_cacheNettyRefs⟩
    funext m
    simp [InstallAnswers.learn, hx, cacheNettyRefs_mid]

end Install

/-! ## Readiness -/

/-- The answers to `InstallRelayHandler`, if the action calls it unless the handler is valid. -/
def BindingAction.install? : BindingAction → Option InstallAnswers
  | .installRelayHandler x => some x
  | .attachToPipeline ctx x _ _ => if ctx then some x else none
  | .attachToPipelineObject pipeline x _ => if pipeline.isSome then some x else none
  | .detachAll _ | .channelRead | .write _ _ => none

/-- Whoever is told that the handler is ready finds every method resolved. -/
def BindingEvent.Ready : BindingEvent → Prop
  | .returned ok netty => ok = true → netty.resolved = true
  | .skipped netty => netty.resolved = true
  | .called _ => True

instance (e : BindingEvent) : Decidable e.Ready :=
  match e with
  | .returned ok netty => inferInstanceAs (Decidable (ok = true → netty.resolved = true))
  | .skipped netty => inferInstanceAs (Decidable (netty.resolved = true))
  | .called _ => .isTrue trivial

namespace RelayHandler

/-- When a call stores the class, the last lookup of each method, in this call or before it, has
found the method; or nobody comes to `InstallRelayHandler` any more.  `known` is what the lookups so
far have found. -/
def Whole : (NettyMethod → Option Handle) → List BindingAction → Prop
  | _, [] => True
  | known, a :: as =>
    match a.install? with
    | none => Whole known as
    | some x =>
      if x.stores then (∀ m, (x.learn known m).isSome = true) ∨ ∀ b ∈ as, b.install? = none
      else Whole (x.learn known) as

variable {g g' : RelayGlobals} {a : BindingAction} {es : List BindingEvent} {x : InstallAnswers}

@[simp] lemma attachHandlerToPipeline_relay (g : RelayGlobals) (pipeline : Handle)
    (y : AttachAnswers) : (attachHandlerToPipeline g pipeline y).2.1.relay = g.relay := by
  simp only [attachHandlerToPipeline]
  split_ifs <;> rfl

lemma attachHandlerToPipeline_ready (g : RelayGlobals) (pipeline : Handle) (y : AttachAnswers) :
    ∀ e ∈ (attachHandlerToPipeline g pipeline y).2.2, e.Ready := by
  simp only [attachHandlerToPipeline]
  split_ifs <;> simp [BindingEvent.Ready]

/-- An action that does not come to `InstallRelayHandler` leaves the handler as it is. -/
lemma step_of_quiet (ha : a.install? = none) (h : step g a = some (g', es)) :
    g'.relay = g.relay ∧ ∀ e ∈ es, e.Ready := by
  cases a with
  | installRelayHandler x => cases ha
  | attachToPipeline ctx x pipeline y =>
    cases ctx with
    | true => cases ha
    | false =>
      cases h
      exact ⟨rfl, by simp⟩
  | attachToPipelineObject pipeline x y =>
    cases pipeline with
    | some p => cases ha
    | none =>
      cases h
      exact ⟨rfl, by simp⟩
  | detachAll kept =>
    cases h
    refine ⟨?_, by simp⟩
    rw [detachAll]
    split <;> rfl
  | channelRead =>
    obtain ⟨-, heq⟩ := Option.ite_none_right_eq_some.mp h
    cases heq
    exact ⟨rfl, by simp [BindingEvent.Ready]⟩
  | write allow promise =>
    obtain ⟨-, heq⟩ := Option.ite_none_right_eq_some.mp h
    cases heq
    refine ⟨rfl, ?_⟩
    rw [relayWriteCalls]
    split_ifs <;> simp [BindingEvent.Ready]

@[simp] lemma ensureInstalled_fst (g : RelayGlobals) (x : InstallAnswers) :
    (ensureInstalled g x).1 = (installRelayHandler g.relay x).1 := by
  cases hg : g.relay.valid with
  | true => simp [ensureInstalled, hg, installRelayHandler_of_valid]
  | false => simp [ensureInstalled, hg]

@[simp] lemma ensureInstalled_relay (g : RelayGlobals) (x : InstallAnswers) :
    (ensureInstalled g x).2.1.relay = (installRelayHandler g.relay x).2 := by
  cases hg : g.relay.valid with
  | true => simp [ensureInstalled, hg, installRelayHandler_of_valid]
  | false => simp [ensureInstalled, hg]

/-- What a call of `InstallRelayHandler` may be asked for: that a handler that it calls ready has
its references. -/
def Delivers (r : RelayHandler) (x : InstallAnswers) : Prop :=
  (installRelayHandler r x).1 = true → (installRelayHandler r x).2.netty.resolved = true

lemma ensureInstalled_ready (g : RelayGlobals) (x : InstallAnswers) :
    (∀ e ∈ (ensureInstalled g x).2.2, e.Ready) ↔ Delivers g.relay x := by
  cases hg : g.relay.valid with
  | true => simp [ensureInstalled, hg, Delivers, installRelayHandler_of_valid, BindingEvent.Ready]
  | false => simp [ensureInstalled, hg, Delivers, BindingEvent.Ready]

lemma attachToPipeline_spec (g : RelayGlobals) (x : InstallAnswers) (pipeline : Option Handle)
    (y : AttachAnswers) :
    (attachToPipeline g true x pipeline y).1.relay = (installRelayHandler g.relay x).2 ∧
      ((∀ e ∈ (attachToPipeline g true x pipeline y).2, e.Ready) ↔ Delivers g.relay x) := by
  rw [← ensureInstalled_ready]
  simp only [attachToPipeline, Bool.not_true, Bool.false_eq_true, if_false]
  split
  · exact ⟨ensureInstalled_relay g x, Iff.rfl⟩
  cases pipeline with
  | none =>
    refine ⟨ensureInstalled_relay g x, ?_⟩
    simp [BindingEvent.Ready, or_imp, forall_and]
  | some p =>
    have hattach := attachHandlerToPipeline_ready (ensureInstalled g x).2.1 p y
    refine ⟨by simp, ?_⟩
    simp only [List.mem_append, List.mem_cons, or_imp, forall_and, forall_eq]
    exact and_iff_left ⟨trivial, hattach⟩

lemma attachToPipelineObject_spec (g : RelayGlobals) (p : Handle) (x : InstallAnswers)
    (y : AttachAnswers) :
    (attachToPipelineObject g (some p) x y).2.1.relay = (installRelayHandler g.relay x).2 ∧
      ((∀ e ∈ (attachToPipelineObject g (some p) x y).2.2, e.Ready) ↔ Delivers g.relay x) := by
  rw [← ensureInstalled_ready]
  simp only [attachToPipelineObject]
  split
  · exact ⟨ensureInstalled_relay g x, Iff.rfl⟩
  · have hattach := attachHandlerToPipeline_ready (ensureInstalled g x).2.1 p y
    refine ⟨by simp, ?_⟩
    simp only [List.mem_append, or_imp, forall_and]
    exact and_iff_left hattach

/-- An action that comes to `InstallRelayHandler` tells nothing else than that call. -/
lemma step_of_install (ha : a.install? = some x) (h : step g a = some (g', es)) :
    g'.relay = (installRelayHandler g.relay x).2 ∧
      ((∀ e ∈ es, e.Ready) ↔ Delivers g.relay x) := by
  cases a with
  | installRelayHandler x' =>
    cases ha
    cases h
    exact ⟨rfl, by simp [BindingEvent.Ready, Delivers]⟩
  | attachToPipeline ctx x' pipeline y =>
    obtain ⟨rfl, hx⟩ := Option.ite_none_right_eq_some.mp ha
    cases hx
    rw [step, Option.some.injEq, Prod.ext_iff] at h
    obtain ⟨rfl, rfl⟩ := h
    exact attachToPipeline_spec g x pipeline y
  | attachToPipelineObject pipeline x' y =>
    obtain ⟨hp, hx⟩ := Option.ite_none_right_eq_some.mp ha
    cases hx
    obtain ⟨p, rfl⟩ := Option.isSome_iff_exists.mp hp
    rw [step, Option.some.injEq, Prod.ext_iff] at h
    obtain ⟨rfl, rfl⟩ := h
    exact attachToPipelineObject_spec g p x y
  | detachAll kept => cases ha
  | channelRead => cases ha
  | write allow promise => cases ha

/-! ## Sequences of calls -/

variable {as : List BindingAction} {tr : List BindingEvent}

/-- Once the handler is valid its references stay as they are, so that they must be complete as soon
as anybody asks. -/
lemma ready_iff_of_valid (hg : g.relay.valid = true) (h : step.exec g as = some (g', tr)) :
    (∀ e ∈ tr, e.Ready) ↔ g.relay.netty.resolved = true ∨ ∀ b ∈ as, b.install? = none := by
  induction as generalizing g tr with
  | nil =>
    cases h
    simp
  | cons a as ih =>
    obtain ⟨g₁, es, tr', hstep, hexec, rfl⟩ := Step.exec_cons h
    simp only [List.mem_append, or_imp, forall_and, List.mem_cons, forall_eq]
    cases ha : a.install? with
    | none =>
      obtain ⟨hrelay, hes⟩ := step_of_quiet ha hstep
      rw [ih (by rw [hrelay, hg]) hexec, hrelay]
      simp only [true_and, and_iff_right_iff_imp]
      exact fun _ => hes
    | some x =>
      obtain ⟨hrelay, hes⟩ := step_of_install ha hstep
      rw [Delivers, installRelayHandler_of_valid hg] at hes
      rw [installRelayHandler_of_valid hg] at hrelay
      rw [hes, ih (by rw [hrelay, hg]) hexec, hrelay]
      simp only [forall_const, reduceCtorEq, false_and, or_false]
      exact ⟨fun h => h.1, fun h => ⟨h, .inl h⟩⟩

/-- Before the handler is valid nobody is told that it is ready without its references being
complete; what counts is the call that makes it valid. -/
lemma ready_iff_of_invalid (hg : g.relay.valid = false) (h : step.exec g as = some (g', tr)) :
    (∀ e ∈ tr, e.Ready) ↔ Whole g.relay.netty.mid as := by
  induction as generalizing g tr with
  | nil =>
    cases h
    simp [Whole]
  | cons a as ih =>
    obtain ⟨g₁, es, tr', hstep, hexec, rfl⟩ := Step.exec_cons h
    simp only [List.mem_append, or_imp, forall_and, Whole]
    cases ha : a.install? with
    | none =>
      obtain ⟨hrelay, hes⟩ := step_of_quiet ha hstep
      rw [ih (by rw [hrelay, hg]) hexec, hrelay]
      simp only [and_iff_right_iff_imp]
      exact fun _ => hes
    | some x =>
      obtain ⟨hrelay, hes⟩ := step_of_install ha hstep
      obtain ⟨hvalid, hmid, hresolved⟩ := installRelayHandler_spec (x := x) hg
      rw [← hrelay] at hvalid hmid hresolved
      rw [hes, Delivers, ← hrelay, and_iff_right hresolved]
      cases hstores : x.stores with
      | true =>
        rw [hstores] at hvalid
        rw [ready_iff_of_valid hvalid hexec, NettyRefs.resolved_iff, hmid]
        simp only [hstores, if_true]
      | false =>
        rw [hstores] at hvalid
        rw [ih hvalid hexec, hmid]
        simp only [hstores, Bool.false_eq_true, if_false]

/-- Nobody is told that the handler is ready while a method is missing, if and only if no call that
stores the class leaves a method missing and is followed by another call. -/
theorem ready_iff (h : step.exec {} as = some (g, tr)) :
    (∀ e ∈ tr, e.Ready) ↔ Whole (fun _ => none) as := by
  have hmid : ({} : RelayGlobals).relay.netty.mid = fun _ => none := by
    funext m
    cases m <;> rfl
  rw [ready_iff_of_invalid rfl h, hmid]

/-- Everything is found. -/
def found : InstallAnswers where
  relay := { defined := true, registered := true, ctor := some 1, klass := some 2 }
  netty :=
    { contextCls := some 3, pipelineMid := some 4, fireChannelReadMid := some 5
      ctxWriteMid := some 6, ctxWriteFlushMid := some 7, pipelineCls := some 8
      addFirstMid := some 9, addBeforeMid := some 10, promiseCls := some 11
      promiseSetSuccessMid := some 12
      contextLoaded := true, pipelineLoaded := true, promiseLoaded := true }

/-- `DefineClass` fails, and the next start succeeds. -/
def retried : List BindingAction :=
  [.installRelayHandler { found with relay := { found.relay with defined := false } },
    .detachAll [], .installRelayHandler found, .attachToPipeline true found (some 20) {}]

theorem ready_iff_test : ∃ g tr, step.exec {} retried = some (g, tr) ∧ ∀ e ∈ tr, e.Ready := by
  obtain ⟨⟨g, tr⟩, h⟩ := Option.isSome_iff_exists.mp
    (show (step.exec {} retried).isSome = true by decide)
  refine ⟨g, tr, h, (ready_iff h).mpr (.inl fun m => ?_)⟩
  cases m <;> rfl

/-- The class is defined and `ChannelPipeline` is not loaded; the next start finds a handler that is
valid. -/
def resumed : List BindingAction :=
  [.installRelayHandler { found with netty := { found.netty with pipelineLoaded := false } },
    .detachAll [], .installRelayHandler found, .attachToPipeline true found (some 20) {}]

/-- The handler counts as ready, and `addBefore` is called through an id that is null. -/
theorem ready_resumed : ∃ g tr, step.exec {} resumed = some (g, tr) ∧ .called none ∈ tr ∧
    ¬ ∀ e ∈ tr, e.Ready := by
  obtain ⟨⟨g, tr⟩, h⟩ := Option.isSome_iff_exists.mp
    (show (step.exec {} resumed).isSome = true by decide)
  have htr : (step.exec {} resumed).map (fun r => decide (.called none ∈ r.2 ∧
      ¬ ∀ e ∈ r.2, e.Ready)) = some true := by decide
  rw [h] at htr
  exact ⟨g, tr, h, by simpa using htr⟩

/-! ## Calls through the ids -/

/-- A handler in a pipeline has its class and its references. -/
def Sound (g : RelayGlobals) : Prop :=
  g.attached = true → g.relay.valid = true ∧ g.relay.netty.resolved = true

/-- A handler that is valid is not changed by an installation. -/
lemma Sound.install (hg : Sound g) (hattached : g.attached = true) :
    (installRelayHandler g.relay x).2.valid = true ∧
      (installRelayHandler g.relay x).2.netty.resolved = true := by
  rw [installRelayHandler_of_valid (hg hattached).1]
  exact hg hattached

lemma ensureInstalled_attached (g : RelayGlobals) (x : InstallAnswers) :
    (ensureInstalled g x).2.1.attached = g.attached := by
  rw [ensureInstalled]
  split <;> rfl

lemma Sound.ensure (hg : Sound g) : Sound (ensureInstalled g x).2.1 := by
  intro hattached
  rw [ensureInstalled_attached] at hattached
  rw [ensureInstalled_relay]
  exact hg.install hattached

lemma called_of_ensure {mid : Option Handle} : .called mid ∉ (ensureInstalled g x).2.2 := by
  rw [ensureInstalled]
  split <;> simp

lemma Sound.attach (hg : Sound g) (pipeline : Handle) (y : AttachAnswers)
    (hres : g.relay.netty.resolved = true) :
    Sound (attachHandlerToPipeline g pipeline y).2.1 ∧
      ∀ mid, .called mid ∈ (attachHandlerToPipeline g pipeline y).2.2 → mid.isSome = true := by
  have hmid := NettyRefs.resolved_iff.mp hres
  have hbefore : g.relay.netty.addBeforeMid.isSome = true := hmid .addBefore
  have hfirst : g.relay.netty.addFirstMid.isSome = true := hmid .addFirst
  simp only [attachHandlerToPipeline]
  split
  · exact ⟨hg, by simp⟩
  split
  · exact ⟨hg, by simp⟩
  rename_i hmade
  have hvalid : g.relay.valid = true := by
    rw [Bool.not_eq_true', Bool.not_eq_false, Bool.and_eq_true] at hmade
    exact hmade.1
  split
  · exact ⟨fun _ => ⟨hvalid, hres⟩, by simpa using hbefore⟩
  split
  · exact ⟨fun _ => ⟨hvalid, hres⟩, by simp [hbefore, hfirst]⟩
  · exact ⟨hg, by simp [hbefore, hfirst]⟩

lemma Sound.attachToPipeline {ctx : Bool} {pipeline : Option Handle} {y : AttachAnswers}
    (hg : Sound g) (hready : ∀ e ∈ (attachToPipeline g ctx x pipeline y).2, e.Ready) :
    Sound (attachToPipeline g ctx x pipeline y).1 ∧
      ∀ mid, .called mid ∈ (attachToPipeline g ctx x pipeline y).2 → mid.isSome = true := by
  cases ctx with
  | false => exact ⟨hg, by simp [Server.attachToPipeline]⟩
  | true =>
    rw [(attachToPipeline_spec g x pipeline y).2, Delivers, ← ensureInstalled_fst,
      ← ensureInstalled_relay] at hready
    cases hgo : (ensureInstalled g x).1 with
    | false =>
      simp only [Server.attachToPipeline, hgo, Bool.not_true, Bool.not_false, Bool.false_eq_true,
        if_false, if_true]
      exact ⟨hg.ensure, fun mid hmid => absurd hmid called_of_ensure⟩
    | true =>
      have hres := hready hgo
      have hpipeline : (ensureInstalled g x).2.1.relay.netty.pipelineMid.isSome = true :=
        NettyRefs.resolved_iff.mp hres .pipeline
      simp only [Server.attachToPipeline, hgo, Bool.not_true, Bool.false_eq_true, if_false]
      cases pipeline with
      | none =>
        refine ⟨hg.ensure, ?_⟩
        simp only [List.mem_append, called_of_ensure, List.mem_singleton,
          BindingEvent.called.injEq, false_or, forall_eq]
        exact hpipeline
      | some p =>
        obtain ⟨hsound, hcalled⟩ := hg.ensure.attach p y hres
        refine ⟨hsound, ?_⟩
        simp only [List.mem_append, called_of_ensure, List.mem_cons, BindingEvent.called.injEq,
          false_or, forall_eq_or_imp]
        exact ⟨hpipeline, hcalled⟩

lemma Sound.attachToPipelineObject {pipeline : Option Handle} {y : AttachAnswers}
    (hg : Sound g) (hready : ∀ e ∈ (attachToPipelineObject g pipeline x y).2.2, e.Ready) :
    Sound (attachToPipelineObject g pipeline x y).2.1 ∧
      ∀ mid, .called mid ∈ (attachToPipelineObject g pipeline x y).2.2 → mid.isSome = true := by
  cases pipeline with
  | none => exact ⟨hg, by simp [Server.attachToPipelineObject]⟩
  | some p =>
    rw [(attachToPipelineObject_spec g p x y).2, Delivers, ← ensureInstalled_fst,
      ← ensureInstalled_relay] at hready
    cases hgo : (ensureInstalled g x).1 with
    | false =>
      simp only [Server.attachToPipelineObject, hgo, Bool.not_false, if_true]
      exact ⟨hg.ensure, fun mid hmid => absurd hmid called_of_ensure⟩
    | true =>
      have hres := hready hgo
      simp only [Server.attachToPipelineObject, hgo, Bool.not_true, Bool.false_eq_true, if_false]
      obtain ⟨hsound, hcalled⟩ := hg.ensure.attach p y hres
      refine ⟨hsound, ?_⟩
      simpa only [List.mem_append, called_of_ensure, false_or] using hcalled

/-- The methods of a handler in a pipeline use what the handler was attached with. -/
lemma Sound.write (hg : Sound g) (hattached : g.attached = true) (allow promise : Bool) :
    ∀ mid, .called mid ∈ relayWriteCalls g.relay.netty allow promise → mid.isSome = true := by
  have hwrite : g.relay.netty.ctxWriteMid.isSome = true :=
    NettyRefs.resolved_iff.mp (hg hattached).2 .ctxWrite
  rw [relayWriteCalls]
  split_ifs with hallow hpromise
  · simpa using hwrite
  · rw [Bool.and_eq_true] at hpromise
    simpa using hpromise.2
  · simp

lemma Sound.step (hg : Sound g) (hstep : step g a = some (g', es)) (hready : ∀ e ∈ es, e.Ready) :
    Sound g' ∧ ∀ mid, .called mid ∈ es → mid.isSome = true := by
  cases a with
  | installRelayHandler x =>
    cases hstep
    exact ⟨fun hattached => hg.install hattached, by simp⟩
  | attachToPipeline ctx x pipeline y =>
    rw [RelayHandler.step, Option.some.injEq, Prod.ext_iff] at hstep
    obtain ⟨rfl, rfl⟩ := hstep
    exact hg.attachToPipeline hready
  | attachToPipelineObject pipeline x y =>
    rw [RelayHandler.step, Option.some.injEq, Prod.ext_iff] at hstep
    obtain ⟨rfl, rfl⟩ := hstep
    exact hg.attachToPipelineObject hready
  | detachAll kept =>
    cases hstep
    refine ⟨?_, by simp⟩
    rw [detachAll]
    split
    · exact hg
    · exact hg
  | channelRead =>
    obtain ⟨hattached, heq⟩ := Option.ite_none_right_eq_some.mp hstep
    cases heq
    have hread : g.relay.netty.fireChannelReadMid.isSome = true :=
      NettyRefs.resolved_iff.mp (hg hattached).2 .fireChannelRead
    exact ⟨hg, by simpa using hread⟩
  | write allow promise =>
    obtain ⟨hattached, heq⟩ := Option.ite_none_right_eq_some.mp hstep
    cases heq
    exact ⟨hg, hg.write hattached allow promise⟩

/-- As long as nobody is misled about the handler, nothing is called through an id that is null. -/
theorem called_isSome (hrun : Step.Run step {} tr g) (hready : ∀ e ∈ tr, e.Ready)
    {mid : Option Handle} (hmid : .called mid ∈ tr) : mid.isSome = true := by
  have hinv := hrun.invariant (I := fun tr g => (∀ e ∈ tr, e.Ready) →
    Sound g ∧ ∀ mid, .called mid ∈ tr → mid.isSome = true) (fun _ => ⟨by simp [Sound], by simp⟩) ?_
  · exact (hinv hready).2 mid hmid
  · intro tr g a g' es ih hstep hready
    simp only [List.mem_append, or_imp, forall_and] at hready
    obtain ⟨hsound, hcalled⟩ := ih hready.1
    obtain ⟨hsound', hcalled'⟩ := hsound.step hstep hready.2
    refine ⟨hsound', fun mid hmid => ?_⟩
    rcases List.mem_append.mp hmid with hmid | hmid
    · exact hcalled mid hmid
    · exact hcalled' mid hmid

end RelayHandler

end Server
end SakuraTools
