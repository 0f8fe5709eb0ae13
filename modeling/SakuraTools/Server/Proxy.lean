import Mathlib.Logic.Function.Basic
import SakuraTools.Lib.Registry
import SakuraTools.Server.RelayHandler
import SakuraTools.Server.RuntimeGate
import SakuraTools.Server.StopServer

/-!
# The proxy as a whole

`startSession` and `stopSession` of `native/loader.cpp`, with the functions of the other files that
they call.  The controller, the server and the relay handler are those of their own modules; here
they act on one set of Java objects: the channels of the server, the loaded classes and the
pipelines that the relay handler is put into.

Any call into Java can fail.  Of Netty it is assumed that a call of `addBefore` or `addFirst` that
throws does not add the handler, and that an event loop group closes its channels before the future
of `shutdownGracefully` succeeds.
-/

namespace SakuraTools
namespace Server

/-! ## The objects of Java -/

/-- A pipeline, with the number of relay handlers in it. -/
structure Pipeline where
  handlers : ℕ := 0
  collected : Bool := false
deriving DecidableEq, Repr

/-- The pipeline is alive and contains a relay handler. -/
def Pipeline.owes (p : Pipeline) : Bool := !p.collected && p.handlers != 0

/-- A class: whether its signature is that of Minecraft's `Connection`, and whether its code is the
one that `ClassFileLoadHookCallback` has made. -/
structure LoadedClass where
  isConnection : Bool
  patched : Bool := false
deriving DecidableEq, Repr

/-- The class is a `Connection` with the call of the hook. -/
def LoadedClass.hooked (c : LoadedClass) : Bool := c.isConnection && c.patched

/-- What a session does to the objects of Java. -/
structure Java where
  /-- There is an open channel that listens. -/
  listening : Bool := false
  /-- The channels that `initChannel` has accepted and that are not among the children of the
  server, because they have no weak reference or have been taken off the list. -/
  unlisted : List Child := []
  /-- The event `ClassFileLoadHook` is enabled. -/
  hooked : Bool := false
  /-- The classes that the JVM has read, with the callback, and not yet defined. -/
  loading : List LoadedClass := []
  /-- The classes that `GetLoadedClasses` lists. -/
  classes : List LoadedClass := []
  pipelines : Handle → Pipeline := fun _ => {}

/-! ## The hook of the class loader -/

/-- What JVMTI answers for a loaded class: to `GetClassSignature` and `RetransformClasses`, and
whether the callback, when it is called for the class, gives patched bytes. -/
structure ClassAnswer where
  signature : Bool := true
  retransform : Bool := true
  patch : Bool := true
deriving DecidableEq, Repr

/-- The answers to `RetransformIfLoaded`: to `GetLoadedClasses`, and for each class. -/
structure RetransformAnswers where
  loaded : Bool := true
  classes : ℕ → ClassAnswer := fun _ => {}

/-- The answers to `InstallConnectionHook`: whether `g_hook` is valid, and those to
`AddCapabilities`, `SetEventCallbacks`, `SetEventNotificationMode` and `RetransformIfLoaded`. -/
structure InstallHookAnswers extends RetransformAnswers where
  hook : Bool := true
  capabilities : Bool := true
  callbacks : Bool := true
  notified : Bool := true

/-- The answers to `UninstallConnectionHook`: to `SetEventNotificationMode` and to
`RetransformIfLoaded`. -/
structure UninstallHookAnswers extends RetransformAnswers where
  notified : Bool := true

/-- The body of the loop of `RetransformIfLoaded`.  The code of a class is made anew from the
original: it is patched if the callback is called and patches it. -/
def retransformClass (called : Bool) (c : LoadedClass) (x : ClassAnswer) : Bool × LoadedClass :=
  if !x.signature then (false, c)
  else if c.isConnection then
    if x.retransform then (true, { c with patched := called && x.patch }) else (false, c)
  else (true, c)

namespace Java

/-- `RetransformIfLoaded` -/
def retransformIfLoaded (j : Java) (called : Bool) (x : RetransformAnswers) : Bool × Java :=
  if !x.loaded then (false, j)
  else
    let done := j.classes.zipIdx.map fun c => retransformClass called c.1 (x.classes c.2)
    (done.all Prod.fst, { j with classes := done.map Prod.snd })

/-- `InstallConnectionHook`; the callback does nothing unless `g_runtimeGate` lets it enter. -/
def installConnectionHook (j : Java) (gate : RuntimeGate) (x : InstallHookAnswers) : Bool × Java :=
  if !x.hook then (false, j)
  else if !(x.capabilities && x.callbacks && x.notified) then (false, j)
  else { j with hooked := true }.retransformIfLoaded gate.enter.1 x.toRetransformAnswers

/-- `UninstallConnectionHook` -/
def uninstallConnectionHook (j : Java) (x : UninstallHookAnswers) : Bool × Java :=
  if !x.notified then (false, j)
  else { j with hooked := false }.retransformIfLoaded false x.toRetransformAnswers

end Java

/-! ## Detaching the relay handler -/

/-- What `NewLocalRef` of a weak reference does: it returns null, throws, or makes a reference. -/
inductive LocalRef where
  | null
  | throws
  | made
deriving DecidableEq, Repr

/-- There is no reference to an object that has been collected. -/
def LocalRef.of (collected : Bool) : LocalRef → LocalRef
  | .made => if collected then .null else .made
  | r => r

/-- The answers to `RelayHandler_DetachAll` for a pipeline: to `NewLocalRef`, and whether `get` and
`remove` return without an exception.  A `remove` that throws may have removed the handler. -/
structure PipelineAnswer where
  ref : LocalRef := .made
  get : Bool := true
  remove : Bool := true
  removed : Bool := false
deriving DecidableEq, Repr

/-- The answers to `RelayHandler_DetachAll`: whether the methods `remove` and `get` are found, and
for each pipeline. -/
structure DetachAnswers where
  remove : Bool := true
  get : Bool := true
  pipelines : Handle → PipelineAnswer := fun _ => {}

/-- A handler is taken out of the pipeline. -/
def removeHandler (w : Handle → Pipeline) (p : Handle) : Handle → Pipeline :=
  Function.update w p { w p with handlers := (w p).handlers - 1 }

/-- The body of the loop of `RelayHandler_DetachAll`: the flag `ok`, and what becomes of the
pipelines. -/
def detachHandler (x : DetachAnswers) (w : Handle → Pipeline) (p : Handle) :
    Bool × (Handle → Pipeline) :=
  let y := x.pipelines p
  match y.ref.of (w p).collected with
  | .throws => (false, w)
  | .null => (true, w)
  | .made =>
    if !(x.remove && x.get) then (false, w)
    else if !y.get then (false, w)
    else if (w p).handlers = 0 then (true, w)
    else (y.remove, if y.remove || y.removed then removeHandler w p else w)

/-! ## The proxy -/

/-- What `startSession` has got from its calls since the gate is open. -/
structure Starting where
  hook : Option Bool := none
  server : Option Bool := none
  connection : Option LiveConnectionState := none
  blocked : Option Bool := none
deriving DecidableEq, Repr

/-- `startSession` returns: a call has failed, the connection has been captured, or the task for the
main thread has been queued or not.  The loop that looks for the connection can be left at any time,
by DEL or when its attempts are used up. -/
def Starting.over (x : Starting) : Bool :=
  x.hook == some false || x.server == some false ||
    x.server == some true && (x.connection != some .NotConnected || x.blocked.isSome)

/-- The controller, the call of `startSession`, and what they act on. -/
structure Proxy where
  runtime : Runtime := {}
  starting : Starting := {}
  server : ServerState := {}
  relay : RelayGlobals := {}
  java : Java := {}

inductive ProxyAction where
  /-- The callbacks and the controller, where these touch nothing but their own variables. -/
  | runtime (a : RuntimeAction)
  -- `startSession`
  | installRelayHandler (hookBridge : Bool) (x : InstallAnswers)
  | installConnectionHook (x : InstallHookAnswers)
  | installBServer (result : Installed) (listening : Bool)
  | tryCapture (connected : Bool) (pipeline : Option Handle) (x : InstallAnswers)
      (y : AttachAnswers)
  | blockAMainThread (found executed : Bool)
  | activate
  -- `stopSession`
  | requestStop
  | stopBServer (a : Answers)
  | uninstallConnectionHook (x : UninstallHookAnswers)
  | detachAll (x : DetachAnswers) (now : ℕ)
  -- the bodies of callbacks
  | initChannel (weak : Bool)
  | channelActive (ctx : Bool) (x : InstallAnswers) (pipeline : Option Handle)
      (y : AttachAnswers)
  | use (refs : SessionRefs)
  -- Minecraft, Netty and the JVM
  | readClass (isConnection patch : Bool)
  | defineClass (k : ℕ)
  | runGate
  | endLan
  | terminate
  | closeListener
  | closeChild (k : ℕ)
  | closeUnlisted (k : ℕ)
  | collectChild (k : ℕ)
  | collectUnlisted (k : ℕ)
  | removeHandler (p : Handle)
  | collectPipeline (p : Handle)

/-- `BServer_BlockAMainThreadUntilBConnected`: whether the lookups succeed, and whether `execute`
returns without an exception. -/
def ServerState.blockAMainThread (s : ServerState) (found executed : Bool) : Bool × ServerState :=
  if s.session.clientConnected then (true, s)
  else if !found then (false, s)
  else if s.gateCancelled then (false, s)
  else if executed then (true, { s with gateTasks := s.gateTasks + 1 })
  else (false, s)

/-- The result of `InstallBServer`. -/
def ServerState.installed (s : ServerState) (result : Installed) : Bool :=
  s.bound ||
    match result with
    | .listening sync _ => sync
    | .noLoader | .noGroup | .noListener => false

/-- `InstallBServer` has opened a channel that listens.  The channel may be lost: the call that asks
the future for it can fail, or there is no global reference to it. -/
def ServerState.opened (s : ServerState) (result : Installed) (listening : Bool) : Bool :=
  !s.bound &&
    match result with
    | .listening _ _ => true
    | .noListener => listening
    | .noLoader | .noGroup => false

/-- The channel is closed. -/
def Child.close (c : Child) : Child := { c with isOpen := false }

/-- The channel is collected. -/
def Child.collect (c : Child) : Child := { c with collected := true }

namespace Proxy

/-- The controller or a callback takes a step. -/
def control (s : Proxy) (a : RuntimeAction) : Option (Proxy × List RuntimeEvent) :=
  (s.runtime.step a).map fun r => ({ s with runtime := r.1 }, r.2)

/-- `InstallRelayHandler` in `startSession`. -/
def installRelayHandler (s : Proxy) (x : InstallAnswers) : Bool × Proxy :=
  let installed := Server.installRelayHandler s.relay.relay x
  (installed.1, { s with relay := { s.relay with relay := installed.2 } })

/-- What the loop of `attachHandlerToPipeline` learns of the pipelines that have been collected. -/
def learned (s : Proxy) (y : AttachAnswers) : AttachAnswers :=
  { y with dead := s.relay.pipelines.filter fun p => (s.java.pipelines p).collected }

/-- The pipeline gets the handler: it is not listed, the handler is made, and `addBefore` or
`addFirst` returns.  A call of these that throws does not add anything. -/
def adds (s : Proxy) (x : InstallAnswers) (p : Handle) (y : AttachAnswers) : Bool :=
  let ensured := ensureInstalled s.relay x
  ensured.1 && !(seekPipeline (s.learned y).dead p s.relay.pipelines).1 &&
    (ensured.2.1.relay.valid && y.handler && (y.addBefore || y.addFirst))

/-- What becomes of the pipelines when the handler is attached to one. -/
def attached (s : Proxy) (x : InstallAnswers) (p : Handle) (y : AttachAnswers) :
    Handle → Pipeline :=
  if s.adds x p y then
    Function.update s.java.pipelines p
      { s.java.pipelines p with handlers := (s.java.pipelines p).handlers + 1 }
  else s.java.pipelines

/-- `RelayHandler_AttachToPipelineObject`, as `BServer_TryCaptureLiveConnection` calls it. -/
def attachToPipelineObject (s : Proxy) (p : Handle) (x : InstallAnswers) (y : AttachAnswers) :
    Bool × Proxy :=
  let result := Server.attachToPipelineObject s.relay (some p) x (s.learned y)
  (result.1, { s with
    relay := result.2.1
    java := { s.java with pipelines := s.attached x p y } })

/-- `RelayHandler_AttachToPipeline`, as `Native_onChannelActive` calls it. -/
def attachToPipeline (s : Proxy) (ctx : Bool) (x : InstallAnswers) (pipeline : Option Handle)
    (y : AttachAnswers) : Proxy :=
  { s with
    relay := (Server.attachToPipeline s.relay ctx x pipeline (s.learned y)).1
    java := { s.java with
      pipelines :=
        match pipeline with
        | none => s.java.pipelines
        | some p => if ctx then s.attached x p y else s.java.pipelines } }

/-- The event loop group terminates, and closes all its channels. -/
def closeAll (s : Proxy) : Proxy :=
  { s with
    server := { s.server with
      listener := s.server.listener.map fun _ => ⟨false⟩
      children := s.server.children.map Child.close }
    java := { s.java with
      listening := false
      unlisted := s.java.unlisted.map Child.close } }

/-- The children that an attempt takes off the list. -/
def dropped (s : ServerState) (a : Answers) : List Child :=
  ((s.children.zip a.children).filter fun p => p.2.closed).map fun p =>
    { p.1 with isOpen := p.1.isOpen && p.2 != .close true }

/-- `StopBServer`.  The future of `shutdownGracefully` succeeds when the group has terminated. -/
def stopBServer (s : Proxy) (a : Answers) : Bool × Proxy :=
  let result := s.server.stopBServer a
  let after := { s with
    server := result.2
    java := { s.java with
      listening := s.java.listening && !(s.server.listener.isSome && a.listener)
      unlisted := s.java.unlisted ++ dropped s.server a } }
  (result.1, if s.server.eventLoop.isSome && a.shutdown then after.closeAll else after)

/-- `RelayHandler_DetachAll`: the entries that are kept, and what becomes of the pipelines. -/
def detachAll (s : Proxy) (x : DetachAnswers) : Bool × Proxy :=
  let swept :=
    if s.relay.relay.netty.pipelineCls.isSome then
      Registry.sweep (detachHandler x) s.java.pipelines s.relay.pipelines
    else (s.relay.pipelines, s.java.pipelines)
  let relay := Server.detachAll s.relay swept.1
  (relay.pipelines.isEmpty, { s with
    relay := relay
    java := { s.java with pipelines := swept.2 } })

/-- Minecraft, Netty or the JVM, or what a callback calls, change the server. -/
def outside (s : Proxy) (server : ServerState) (java : Java) :
    Option (Proxy × List RuntimeEvent) :=
  some ({ s with server := server, java := java }, [])

end Proxy

/-- The step is one of a callback or of the controller by itself. -/
def RuntimeAction.plain : RuntimeAction → Bool
  | .install _ _ | .activate _ _ _ _ | .request | .server _ | .unhook _ | .detach _ _ => false
  | _ => true

namespace Proxy

def step : Step Proxy ProxyAction RuntimeEvent
  | s, .runtime a => if a.plain then s.control a else none
  | s, .installRelayHandler hookBridge x =>
    if hookBridge then
      { (s.installRelayHandler x).2 with starting := {} }.control
        (.install true (s.installRelayHandler x).1)
    else s.control (.install false false)
  | s, .installConnectionHook x =>
    if s.runtime.pc = .activate ∧ s.starting.hook = none then
      let (hook, java) := s.java.installConnectionHook s.runtime.gate x
      some ({ s with java := java, starting := { s.starting with hook := some hook } }, [])
    else none
  | s, .installBServer result listening =>
    if s.runtime.pc = .activate ∧ s.starting.hook = some true ∧ s.starting.server = none then
      some ({ s with
        server := s.server.install result
        java := { s.java with
          listening := s.java.listening || s.server.opened result listening }
        starting := { s.starting with server := some (s.server.installed result) } }, [])
    else none
  | s, .tryCapture connected pipeline x y =>
    if s.runtime.pc = .activate ∧ s.starting.server = some true ∧
        (s.starting.connection = none ∨ s.starting.connection = some .Failed) then
      match pipeline with
      | none =>
        let connection := if connected then .Failed else .NotConnected
        some ({ s with starting := { s.starting with connection := some connection } }, [])
      | some p =>
        if (s.java.pipelines p).collected then none
        else
          let (attached, t) := s.attachToPipelineObject p x y
          let connection := if attached then .Captured else .Failed
          some ({ t with starting := { s.starting with connection := some connection } }, [])
    else none
  | s, .blockAMainThread found executed =>
    if s.runtime.pc = .activate ∧ s.starting.connection = some .NotConnected ∧
        s.starting.blocked = none then
      let (blocked, server) := s.server.blockAMainThread found executed
      some ({ s with server := server, starting := { s.starting with blocked := some blocked } },
        [])
    else none
  | s, .activate =>
    if s.starting.over then
      s.control (.activate (s.starting.hook.getD false) (s.starting.server.getD false)
        s.starting.connection (s.starting.blocked.getD false))
    else none
  | s, .requestStop => { s with server := s.server.requestStop }.control .request
  | s, .stopBServer a =>
    if a.children.length = s.server.children.length then
      let (stopped, t) := s.stopBServer a
      t.control (.server stopped)
    else none
  | s, .uninstallConnectionHook x =>
    let (unhooked, java) := s.java.uninstallConnectionHook x
    { s with java := java }.control (.unhook unhooked)
  | s, .detachAll x now =>
    let (detached, t) := s.detachAll x
    t.control (.detach detached now)
  | s, .initChannel weak =>
    -- the callback has been admitted, and the channel belongs to a group that runs
    if true ∈ s.runtime.callbacks ∧ s.server.stopping = false ∧
        s.server.eventLoop = some .running then
      let live := s.server.children.filter (!·.collected)
      if weak then s.outside { s.server with children := live ++ [{}] } s.java
      else s.outside { s.server with children := live }
        { s.java with unlisted := s.java.unlisted ++ [{}] }
    else none
  | s, .channelActive ctx x pipeline y =>
    if true ∈ s.runtime.callbacks ∧ ∀ p ∈ pipeline, (s.java.pipelines p).collected = false then
      some (s.attachToPipeline ctx x pipeline y, [])
    else none
  | s, .use refs => s.outside { s.server with session := refs } s.java
  | s, .readClass isConnection patch =>
    -- the callback of the hook is one of those that `g_runtimeGate` counts, and it returns before
    -- the JVM defines the class
    let patched := isConnection && patch && s.java.hooked && s.runtime.callbacks.contains true
    s.outside s.server { s.java with loading := s.java.loading ++ [⟨isConnection, patched⟩] }
  | s, .defineClass k =>
    match s.java.loading[k]? with
    | some c =>
      s.outside s.server { s.java with
        loading := s.java.loading.eraseIdx k
        classes := s.java.classes ++ [c] }
    | none => none
  | s, .runGate =>
    if s.server.session.clientConnected ∨ s.server.gateCancelled then
      s.outside { s.server with gateTasks := s.server.gateTasks - 1 } s.java
    else none
  | s, .endLan =>
    s.outside { s.server with lanPinger := s.server.lanPinger.map fun _ => ⟨false⟩ } s.java
  | s, .terminate =>
    if s.server.eventLoop = some .shuttingDown then
      let t := s.closeAll
      t.outside { t.server with eventLoop := some .terminated } t.java
    else none
  | s, .closeListener =>
    s.outside { s.server with listener := s.server.listener.map fun _ => ⟨false⟩ }
      { s.java with listening := false }
  | s, .closeChild k =>
    s.outside { s.server with children := s.server.children.modify k Child.close } s.java
  | s, .closeUnlisted k =>
    s.outside s.server { s.java with unlisted := s.java.unlisted.modify k Child.close }
  | s, .collectChild k =>
    s.outside { s.server with children := s.server.children.modify k Child.collect } s.java
  | s, .collectUnlisted k =>
    s.outside s.server { s.java with unlisted := s.java.unlisted.modify k Child.collect }
  | s, .removeHandler p =>
    s.outside s.server { s.java with pipelines := Server.removeHandler s.java.pipelines p }
  | s, .collectPipeline p =>
    s.outside s.server { s.java with
      pipelines := Function.update s.java.pipelines p
        { s.java.pipelines p with collected := true } }

end Proxy
end Server
end SakuraTools
