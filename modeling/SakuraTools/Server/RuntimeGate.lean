import Mathlib.Data.List.Induction
import Mathlib.Data.List.Perm.Basic
import SakuraTools.Lib.Transition

/-!
# The runtime gate

`RuntimeGate` of `native/runtime_gate.h` and the controller `RuntimeThread` of
`native/loader.cpp`.  A session is stopped in two steps: no callback is admitted any more, and
when the last one has left, what the session used is released.
-/

namespace SakuraTools
namespace Server

/-! ## The gate -/

/-- `RuntimeGate`.  A callback object lives on the stack of its thread, so that there are never
so many of them that `++inFlight_` wraps. -/
structure RuntimeGate where
  enabled : Bool := false
  inFlight : ℕ := 0
deriving DecidableEq, Repr

namespace RuntimeGate

/-- `RuntimeGate::enter` -/
def enter (g : RuntimeGate) : Bool × RuntimeGate :=
  if g.enabled then (true, { g with inFlight := g.inFlight + 1 }) else (false, g)

/-- `RuntimeGate::leave`, where the counter is an `unsigned`. -/
def leave (g : RuntimeGate) : RuntimeGate :=
  { g with inFlight := if g.inFlight = 0 then 4294967295 else g.inFlight - 1 }

/-- `RuntimeGate::start` -/
def start (g : RuntimeGate) : RuntimeGate := { g with enabled := true }

/-- `RuntimeGate::stopFor` before it waits. -/
def close (g : RuntimeGate) : RuntimeGate := { g with enabled := false }

/-- The predicate of the wait.  At its end `stopFor` returns the value of it, whether it was
woken or has timed out. -/
def drained (g : RuntimeGate) : Bool := g.inFlight == 0

end RuntimeGate

/-! ## The controller -/

inductive LiveConnectionState where
  | NotConnected
  | Captured
  | Failed
deriving DecidableEq, Repr

/-- The places in `RuntimeThread` that call `stopSession`. -/
inductive StopCaller where
  | retry
  | failedStart
  | delete
  | exit
deriving DecidableEq, Repr

/-- What `stopSession` does next. -/
inductive StopStage where
  | request
  | close
  | drain
  /-- `StopBServer` is running. -/
  | server
  | unhook (stopped : Bool)
  | detach (stopped unhooked : Bool)
deriving DecidableEq, Repr

/-- What `RuntimeThread` does next: the parts of its loop in their order, with `startSession`
before, at and after `g_runtimeGate.start()`. -/
inductive Controller where
  | retry
  | start
  | install
  | openGate
  | activate
  | delete
  | wait
  | exit
  | done
  | stop (caller : StopCaller) (stage : StopStage)
deriving DecidableEq, Repr

/-- The result of `WaitForSingleObject`. -/
inductive WaitResult where
  | object
  | timeout
  | failed
deriving DecidableEq, Repr

/-- The gate, the live `RuntimeCallback` objects with their `entered_`, and the variables of
`RuntimeThread`. -/
structure Runtime where
  gate : RuntimeGate := {}
  callbacks : List Bool := []
  active : Bool := false
  clean : Bool := true
  requested : Bool := true
  retryAt : ℕ := 0
  pc : Controller := .retry
deriving DecidableEq, Repr

/-- What a callback or the controller does, with what it learns from its surroundings: the clock,
the key, whether a local frame is allocated, and the results of the functions that are called. -/
inductive RuntimeAction where
  | construct
  | destroy (k : ℕ)
  | retry (now : ℕ) (frame : Bool)
  | start (frame : Bool)
  | install (hookBridge relayHandler : Bool)
  | openGate
  | activate (hook server : Bool) (connection : Option LiveConnectionState) (blocked : Bool)
  | delete (pressed frame : Bool)
  | wait (result : WaitResult)
  | exit (frame : Bool)
  | request
  | close
  | drain (now : ℕ)
  | server (stopped : Bool)
  | unhook (unhooked : Bool)
  | detach (detached : Bool) (now : ℕ)
deriving DecidableEq, Repr

inductive RuntimeEvent where
  | admitted
  | rejected
  /-- A callback has left, and the counter has wrapped or not. -/
  | left (wrapped : Bool)
  | opened
  /-- `StopBServer` is entered. -/
  | stopServer
  /-- `startSession` is entered, with the flag `active`. -/
  | startSession (active : Bool)
  /-- `stopSession` returns. -/
  | stopSession (stopped : Bool)
deriving DecidableEq, Repr

/-- The result of `startSession` once the gate is open.  There is no connection state when DEL is
pressed or no local frame is allocated. -/
def activated (hook server : Bool) (connection : Option LiveConnectionState) (blocked : Bool) :
    Bool :=
  hook && server &&
    match connection with
    | none => false
    | some .Failed => false
    | some .NotConnected => blocked
    | some .Captured => true

namespace Runtime

/-- `stopSession` returns to its caller. -/
def stopped (s : Runtime) (caller : StopCaller) (result : Bool) (now : ℕ) :
    Runtime × List RuntimeEvent :=
  (match caller with
    | .retry => { s with clean := result, retryAt := now + 1000, pc := .start }
    | .failedStart => { s with clean := result, pc := .delete }
    | .delete => { s with clean := result, active := false, pc := .wait }
    | .exit => { s with pc := .done }, [.stopSession result])

/-- `startSession` returns: when it has failed, `stopSession` is called. -/
def started (s : Runtime) (result : Bool) : Runtime × List RuntimeEvent :=
  ({ s with active := result, pc := if result then .delete else .stop .failedStart .request }, [])

/-- The call of `stopSession` in a new local frame, or what follows it. -/
def callStop (s : Runtime) (frame : Bool) (caller : StopCaller) (next : Controller) :
    Runtime × List RuntimeEvent :=
  ({ s with pc := if frame then .stop caller .request else next }, [])

def step : Step Runtime RuntimeAction RuntimeEvent
  | s, .construct =>
    let (entered, gate) := s.gate.enter
    some ({ s with gate := gate, callbacks := entered :: s.callbacks },
      [if entered then .admitted else .rejected])
  | s, .destroy k =>
    match s.callbacks[k]? with
    | none => none
    | some true => some ({ s with gate := s.gate.leave, callbacks := s.callbacks.eraseIdx k },
        [.left (s.gate.inFlight == 0)])
    | some false => some ({ s with callbacks := s.callbacks.eraseIdx k }, [])
  | s, .retry now frame =>
    if s.pc = .retry then
      if !s.active && !s.clean && s.retryAt ≤ now then
        some (callStop { s with retryAt := if frame then s.retryAt else now + 1000 } frame .retry
          .start)
      else some ({ s with pc := .start }, [])
    else none
  | s, .start frame =>
    if s.pc = .start then
      if s.requested && !s.active && s.clean then
        if frame then some ({ s with requested := false, pc := .install }, [.startSession s.active])
        else some ({ s with requested := false, pc := .delete }, [])
      else some ({ s with pc := .delete }, [])
    else none
  | s, .install hookBridge relayHandler =>
    if s.pc = .install then
      if hookBridge && relayHandler then some ({ s with pc := .openGate }, [])
      else some (s.started false)
    else none
  | s, .openGate =>
    if s.pc = .openGate then
      some ({ s with gate := s.gate.start, pc := .activate }, [.opened])
    else none
  | s, .activate hook server connection blocked =>
    if s.pc = .activate then some (s.started (activated hook server connection blocked))
    else none
  | s, .delete pressed frame =>
    if s.pc = .delete then
      if pressed && (s.active || s.requested) then
        some (callStop { s with requested := false } frame .delete .wait)
      else some ({ s with pc := .wait }, [])
    else none
  | s, .wait result =>
    if s.pc = .wait then
      some ({ s with
        requested := if result = .object ∧ s.active = false then true else s.requested
        pc := if result = .failed then .exit else .retry }, [])
    else none
  | s, .exit frame => if s.pc = .exit then some (s.callStop frame .exit .done) else none
  | s, .request =>
    match s.pc with
    | .stop caller .request => some ({ s with pc := .stop caller .close }, [])
    | _ => none
  | s, .close =>
    match s.pc with
    | .stop caller .close =>
      some ({ s with gate := s.gate.close, pc := .stop caller .drain }, [])
    | _ => none
  | s, .drain now =>
    match s.pc with
    | .stop caller .drain =>
      if s.gate.drained then some ({ s with pc := .stop caller .server }, [.stopServer])
      else some (s.stopped caller false now)
    | _ => none
  | s, .server stopped =>
    match s.pc with
    | .stop caller .server => some ({ s with pc := .stop caller (.unhook stopped) }, [])
    | _ => none
  | s, .unhook unhooked =>
    match s.pc with
    | .stop caller (.unhook stopped) =>
      some ({ s with pc := .stop caller (.detach stopped unhooked) }, [])
    | _ => none
  | s, .detach detached now =>
    match s.pc with
    | .stop caller (.detach stopped unhooked) =>
      some (s.stopped caller (stopped && unhooked && detached) now)
    | _ => none

end Runtime

/-! ## What a trace tells -/

/-- What the events tell: how many admitted callbacks have not left, whether `StopBServer` has
begun since the gate was opened last, and whether the most recent `stopSession` since the last
session has returned true. -/
structure RuntimeMonitor where
  executing : ℕ := 0
  stopping : Bool := false
  clean : Bool := true

namespace RuntimeMonitor

def next (m : RuntimeMonitor) : RuntimeEvent → RuntimeMonitor
  | .admitted => { m with executing := m.executing + 1 }
  | .rejected => m
  | .left _ => { m with executing := m.executing - 1 }
  | .opened => { m with stopping := false }
  | .stopServer => { m with stopping := true }
  | .startSession _ => { m with clean := false }
  | .stopSession result => { m with clean := result }

def ok (m : RuntimeMonitor) : RuntimeEvent → Prop
  | .admitted => m.stopping = false
  | .left wrapped => wrapped = false ∧ 0 < m.executing
  | .stopServer => m.executing = 0
  | .startSession active => active = false ∧ m.clean = true
  | .rejected | .opened | .stopSession _ => True

end RuntimeMonitor

namespace Controller

/-- The gate has been closed by the `stopSession` that is running. -/
def shut : Controller → Bool
  | .stop _ .drain | .stop _ .server | .stop _ (.unhook _) | .stop _ (.detach _ _) => true
  | _ => false

/-- The callbacks have left: `StopBServer` is running or has run. -/
def emptied : Controller → Bool
  | .stop _ .server | .stop _ (.unhook _) | .stop _ (.detach _ _) => true
  | _ => false

/-- The controller is in its loop, outside `startSession` and `stopSession`. -/
def resting : Controller → Bool
  | .retry | .start | .delete | .wait | .exit => true
  | _ => false

end Controller

/-- The invariant of the gate and its controller. -/
structure RuntimeInv (m : RuntimeMonitor) (s : Runtime) : Prop where
  count : s.gate.inFlight = s.callbacks.count true
  executing : m.executing = s.gate.inFlight
  stopping : m.stopping = true → s.gate.enabled = false
  shut : s.pc.shut = true → s.gate.enabled = false
  emptied : s.pc.emptied = true → s.gate.inFlight = 0
  clean : s.pc.resting = true → s.active = false → s.clean = true → m.clean = true

namespace RuntimeInv

variable {m : RuntimeMonitor} {s : Runtime}

lemma start : RuntimeInv {} {} := by
  constructor
  · rfl
  · rfl
  · intro h
    cases h
  · intro h
    cases h
  · intro h
    cases h
  · exact fun _ _ _ => rfl

/-- A step of the controller that leaves the gate alone. -/
lemma move (h : RuntimeInv m s) {m' : RuntimeMonitor} {s' : Runtime} (hgate : s'.gate = s.gate)
    (hcallbacks : s'.callbacks = s.callbacks) (hexecuting : m'.executing = m.executing)
    (hstopping : m'.stopping = true → s.gate.enabled = false)
    (hshut : s'.pc.shut = true → s.gate.enabled = false)
    (hemptied : s'.pc.emptied = true → s.gate.inFlight = 0)
    (hclean : s'.pc.resting = true → s'.active = false → s'.clean = true → m'.clean = true) :
    RuntimeInv m' s' where
  count := by
    rw [hgate, hcallbacks]
    exact h.count
  executing := by
    rw [hexecuting, hgate]
    exact h.executing
  stopping := by
    rw [hgate]
    exact hstopping
  shut := by
    rw [hgate]
    exact hshut
  emptied := by
    rw [hgate]
    exact hemptied
  clean := hclean

/-- A step within the loop, which leaves `active` and `clean` alone. -/
lemma rest (h : RuntimeInv m s) (hpc : s.pc.resting = true) {s' : Runtime}
    (hgate : s'.gate = s.gate) (hcallbacks : s'.callbacks = s.callbacks)
    (hactive : s'.active = s.active) (hclean : s'.clean = s.clean)
    (hshut : s'.pc.shut = false) (hemptied : s'.pc.emptied = false) : RuntimeInv m s' := by
  refine h.move hgate hcallbacks rfl h.stopping ?_ ?_ ?_
  · rw [hshut]
    simp
  · rw [hemptied]
    simp
  · rw [hactive, hclean]
    exact fun _ => h.clean hpc

/-- `stopSession` is called. -/
lemma callStop (h : RuntimeInv m s) (hpc : s.pc.resting = true) (frame : Bool)
    (caller : StopCaller) {next : Controller} (hshut : next.shut = false)
    (hemptied : next.emptied = false) {s₀ : Runtime} (hgate : s₀.gate = s.gate)
    (hcallbacks : s₀.callbacks = s.callbacks) (hactive : s₀.active = s.active)
    (hclean : s₀.clean = s.clean) : RuntimeInv m (s₀.callStop frame caller next).1 := by
  cases frame with
  | false => exact h.rest hpc hgate hcallbacks hactive hclean hshut hemptied
  | true => exact h.rest hpc hgate hcallbacks hactive hclean rfl rfl

/-- `stopSession` returns. -/
lemma stopped (h : RuntimeInv m s) (caller : StopCaller) (result : Bool) (now : ℕ) :
    RuntimeInv { m with clean := result } (s.stopped caller result now).1 := by
  have hno : ∀ {p : Prop}, false = true → p := fun h => absurd h (by decide)
  cases caller with
  | retry => exact h.move rfl rfl rfl h.stopping hno hno fun _ _ hr => hr
  | failedStart => exact h.move rfl rfl rfl h.stopping hno hno fun _ _ hr => hr
  | delete => exact h.move rfl rfl rfl h.stopping hno hno fun _ _ hr => hr
  | exit => exact h.move rfl rfl rfl h.stopping hno hno hno

/-- `startSession` returns: a session that has failed to start is not clean before it is
stopped. -/
lemma started (h : RuntimeInv m s) (result : Bool) : RuntimeInv m (s.started result).1 := by
  have hno : ∀ {p : Prop}, false = true → p := fun h => absurd h (by decide)
  cases result with
  | false => exact h.move rfl rfl rfl h.stopping hno hno hno
  | true =>
    refine h.move rfl rfl rfl h.stopping hno hno fun _ hactive => ?_
    cases hactive

/-- Every callback that is admitted or leaves keeps the invariant. -/
lemma construct (h : RuntimeInv m s) {s' : Runtime} {es : List RuntimeEvent}
    (hstep : s.step .construct = some (s', es)) :
    RuntimeInv (es.foldl RuntimeMonitor.next m) s' ∧
      Along RuntimeMonitor.next RuntimeMonitor.ok m es := by
  have hcount := h.count
  cases henabled : s.gate.enabled with
  | false =>
    have henter : s.gate.enter = (false, s.gate) := by
      rw [RuntimeGate.enter, henabled]
      rfl
    simp only [Runtime.step, henter, Option.some.injEq, Prod.mk.injEq] at hstep
    obtain ⟨rfl, rfl⟩ := hstep
    refine ⟨⟨?_, h.executing, h.stopping, h.shut, h.emptied, h.clean⟩, trivial, trivial⟩
    simpa using hcount
  | true =>
    have henter : s.gate.enter = (true, { s.gate with inFlight := s.gate.inFlight + 1 }) :=
      if_pos henabled
    simp only [Runtime.step, henter, Option.some.injEq, Prod.mk.injEq] at hstep
    obtain ⟨rfl, rfl⟩ := hstep
    -- an open gate: nothing has been shut, and `StopBServer` has not begun
    have hstopping : m.stopping = false := by
      by_contra hne
      have hclosed := h.stopping (by simpa using hne)
      rw [henabled] at hclosed
      cases hclosed
    have hshut : s.pc.shut = false := by
      by_contra hne
      have hclosed := h.shut (by simpa using hne)
      rw [henabled] at hclosed
      cases hclosed
    have hemptied : s.pc.emptied = false := by
      revert hshut
      cases s.pc with
      | stop caller stage => cases stage <;> simp [Controller.shut, Controller.emptied]
      | _ => simp [Controller.emptied]
    refine ⟨⟨?_, ?_, ?_, ?_, ?_, h.clean⟩, hstopping, trivial⟩
    · simpa using hcount
    · exact congrArg (· + 1) h.executing
    · exact h.stopping
    · exact h.shut
    · intro hne
      rw [hemptied] at hne
      cases hne

lemma destroy (h : RuntimeInv m s) {k : ℕ} {s' : Runtime} {es : List RuntimeEvent}
    (hstep : s.step (.destroy k) = some (s', es)) :
    RuntimeInv (es.foldl RuntimeMonitor.next m) s' ∧
      Along RuntimeMonitor.next RuntimeMonitor.ok m es := by
  have hexecuting := h.executing
  cases hk : s.callbacks[k]? with
  | none =>
    simp only [Runtime.step, hk] at hstep
    cases hstep
  | some entered =>
    obtain ⟨hlt, hget⟩ := List.getElem?_eq_some_iff.mp hk
    have hcount := (List.getElem_cons_eraseIdx_perm hlt).count_eq true
    rw [hget, ← h.count] at hcount
    cases entered with
    | false =>
      simp only [Runtime.step, hk, Option.some.injEq, Prod.mk.injEq] at hstep
      obtain ⟨rfl, rfl⟩ := hstep
      refine ⟨⟨?_, h.executing, h.stopping, h.shut, h.emptied, h.clean⟩, trivial⟩
      rw [List.count_cons_of_ne (by decide)] at hcount
      exact hcount.symm
    | true =>
      simp only [Runtime.step, hk, Option.some.injEq, Prod.mk.injEq] at hstep
      obtain ⟨rfl, rfl⟩ := hstep
      rw [List.count_cons_self] at hcount
      -- the object that leaves is one of those that are counted
      have hpos : s.gate.inFlight ≠ 0 := by omega
      have hleave : s.gate.leave = { s.gate with inFlight := s.gate.inFlight - 1 } := by
        rw [RuntimeGate.leave, if_neg hpos]
      have hwrapped : (s.gate.inFlight == 0) = false := beq_eq_false_iff_ne.mpr hpos
      refine ⟨⟨?_, ?_, ?_, ?_, ?_, h.clean⟩, ⟨hwrapped, ?_⟩, trivial⟩
      · rw [hleave]
        change s.gate.inFlight - 1 = (s.callbacks.eraseIdx k).count true
        omega
      · rw [hleave]
        exact congrArg (· - 1) hexecuting
      · rw [hleave]
        exact h.stopping
      · rw [hleave]
        exact h.shut
      · intro hemptied
        exact absurd (h.emptied hemptied) hpos
      · omega

/-- The next step of `stopSession`, with the events of a monitor that counts the same
callbacks. -/
lemma stage (h : RuntimeInv m s) {m' : RuntimeMonitor} {caller : StopCaller} {stage : StopStage}
    (hexecuting : m'.executing = m.executing)
    (hstopping : m'.stopping = true → s.gate.enabled = false)
    (hshut : (Controller.stop caller stage).shut = true → s.gate.enabled = false)
    (hemptied : (Controller.stop caller stage).emptied = true → s.gate.inFlight = 0) :
    RuntimeInv m' { s with pc := .stop caller stage } := by
  refine h.move rfl rfl hexecuting hstopping hshut hemptied fun hresting => ?_
  cases hresting

/-- The next step of `stopSession` after the callbacks have left. -/
lemma advance (h : RuntimeInv m s) {caller : StopCaller} {stage stage' : StopStage}
    (hpc : s.pc = .stop caller stage) (hshut : (Controller.stop caller stage).shut = true)
    (hemptied : (Controller.stop caller stage).emptied = true) :
    RuntimeInv m { s with pc := .stop caller stage' } := by
  rw [← hpc] at hshut hemptied
  exact h.stage rfl h.stopping (fun _ => h.shut hshut) (fun _ => h.emptied hemptied)

/-- `startSession` is called only when no session is active and the last one is cleaned up. -/
lemma startSession (h : RuntimeInv m s) {frame : Bool} {s' : Runtime} {es : List RuntimeEvent}
    (hstep : s.step (.start frame) = some (s', es)) :
    RuntimeInv (es.foldl RuntimeMonitor.next m) s' ∧
      Along RuntimeMonitor.next RuntimeMonitor.ok m es := by
  have hno : ∀ {p : Prop}, false = true → p := fun h => absurd h (by decide)
  simp only [Runtime.step, Option.ite_none_right_eq_some] at hstep
  obtain ⟨hpc, hstep⟩ := hstep
  have hrest : s.pc.resting = true := by rw [hpc]; rfl
  split at hstep
  · rename_i hguard
    simp only [Bool.and_eq_true, Bool.not_eq_true'] at hguard
    obtain ⟨⟨-, hactive⟩, hclean⟩ := hguard
    split at hstep
    · cases hstep
      exact ⟨h.move rfl rfl rfl h.stopping hno hno hno,
        ⟨hactive, h.clean hrest hactive hclean⟩, trivial⟩
    · cases hstep
      exact ⟨h.rest hrest rfl rfl rfl rfl rfl rfl, trivial⟩
  · cases hstep
    exact ⟨h.rest hrest rfl rfl rfl rfl rfl rfl, trivial⟩

/-- `StopBServer` begins when the counter of a closed gate has come to zero. -/
lemma drain (h : RuntimeInv m s) {now : ℕ} {s' : Runtime} {es : List RuntimeEvent}
    (hstep : s.step (.drain now) = some (s', es)) :
    RuntimeInv (es.foldl RuntimeMonitor.next m) s' ∧
      Along RuntimeMonitor.next RuntimeMonitor.ok m es := by
  simp only [Runtime.step] at hstep
  split at hstep
  · rename_i caller hpc
    have hclosed : s.gate.enabled = false := h.shut (by rw [hpc]; rfl)
    split at hstep
    · rename_i hdrained
      have hzero : s.gate.inFlight = 0 := eq_of_beq hdrained
      cases hstep
      refine ⟨h.stage rfl (fun _ => hclosed) (fun _ => hclosed) (fun _ => hzero), ?_, trivial⟩
      exact h.executing.trans hzero
    · cases hstep
      exact ⟨h.stopped caller false now, trivial, trivial⟩
  · cases hstep

/-- The controller keeps the invariant. -/
lemma control (h : RuntimeInv m s) {a : RuntimeAction} (hc : a ≠ .construct)
    (hd : ∀ k, a ≠ .destroy k) {s' : Runtime} {es : List RuntimeEvent}
    (hstep : s.step a = some (s', es)) :
    RuntimeInv (es.foldl RuntimeMonitor.next m) s' ∧
      Along RuntimeMonitor.next RuntimeMonitor.ok m es := by
  have hno : ∀ {p : Prop}, false = true → p := fun h => absurd h (by decide)
  cases a with
  | construct => exact absurd rfl hc
  | destroy k => exact absurd rfl (hd k)
  | retry now frame =>
    simp only [Runtime.step, Option.ite_none_right_eq_some] at hstep
    obtain ⟨hpc, hstep⟩ := hstep
    have hrest : s.pc.resting = true := by rw [hpc]; rfl
    split at hstep
    · cases hstep
      exact ⟨h.callStop hrest frame .retry rfl rfl rfl rfl rfl rfl, trivial⟩
    · cases hstep
      exact ⟨h.rest hrest rfl rfl rfl rfl rfl rfl, trivial⟩
  | start frame => exact h.startSession hstep
  | install hookBridge relayHandler =>
    simp only [Runtime.step, Option.ite_none_right_eq_some] at hstep
    obtain ⟨-, hstep⟩ := hstep
    split at hstep
    · cases hstep
      exact ⟨h.move rfl rfl rfl h.stopping hno hno hno, trivial⟩
    · cases hstep
      exact ⟨h.started false, trivial⟩
  | openGate =>
    simp only [Runtime.step, Option.ite_none_right_eq_some] at hstep
    obtain ⟨-, hstep⟩ := hstep
    cases hstep
    exact ⟨⟨h.count, h.executing, hno, hno, hno, hno⟩, trivial, trivial⟩
  | activate hook server connection blocked =>
    simp only [Runtime.step, Option.ite_none_right_eq_some] at hstep
    obtain ⟨-, hstep⟩ := hstep
    cases hstep
    exact ⟨h.started _, trivial⟩
  | delete pressed frame =>
    simp only [Runtime.step, Option.ite_none_right_eq_some] at hstep
    obtain ⟨hpc, hstep⟩ := hstep
    have hrest : s.pc.resting = true := by rw [hpc]; rfl
    split at hstep
    · cases hstep
      exact ⟨h.callStop hrest frame .delete rfl rfl rfl rfl rfl rfl, trivial⟩
    · cases hstep
      exact ⟨h.rest hrest rfl rfl rfl rfl rfl rfl, trivial⟩
  | wait result =>
    simp only [Runtime.step, Option.ite_none_right_eq_some] at hstep
    obtain ⟨hpc, hstep⟩ := hstep
    have hrest : s.pc.resting = true := by rw [hpc]; rfl
    cases hstep
    cases result with
    | failed => exact ⟨h.rest hrest rfl rfl rfl rfl rfl rfl, trivial⟩
    | object => exact ⟨h.rest hrest rfl rfl rfl rfl rfl rfl, trivial⟩
    | timeout => exact ⟨h.rest hrest rfl rfl rfl rfl rfl rfl, trivial⟩
  | exit frame =>
    simp only [Runtime.step, Option.ite_none_right_eq_some] at hstep
    obtain ⟨hpc, hstep⟩ := hstep
    have hrest : s.pc.resting = true := by rw [hpc]; rfl
    cases hstep
    exact ⟨h.callStop hrest frame .exit rfl rfl rfl rfl rfl rfl, trivial⟩
  | request =>
    simp only [Runtime.step] at hstep
    split at hstep
    · cases hstep
      exact ⟨h.stage rfl h.stopping hno hno, trivial⟩
    · cases hstep
  | close =>
    simp only [Runtime.step] at hstep
    split at hstep
    · cases hstep
      exact ⟨⟨h.count, h.executing, fun _ => rfl, fun _ => rfl, hno, hno⟩, trivial⟩
    · cases hstep
  | drain now => exact h.drain hstep
  | server stopped =>
    simp only [Runtime.step] at hstep
    split at hstep
    · rename_i hpc
      cases hstep
      exact ⟨h.advance hpc rfl rfl, trivial⟩
    · cases hstep
  | unhook unhooked =>
    simp only [Runtime.step] at hstep
    split at hstep
    · rename_i hpc
      cases hstep
      exact ⟨h.advance hpc rfl rfl, trivial⟩
    · cases hstep
  | detach detached now =>
    simp only [Runtime.step] at hstep
    split at hstep
    · cases hstep
      exact ⟨h.stopped _ _ now, trivial, trivial⟩
    · cases hstep

lemma step (h : RuntimeInv m s) {a : RuntimeAction} {s' : Runtime} {es : List RuntimeEvent}
    (hstep : s.step a = some (s', es)) :
    RuntimeInv (es.foldl RuntimeMonitor.next m) s' ∧
      Along RuntimeMonitor.next RuntimeMonitor.ok m es := by
  by_cases hc : a = .construct
  · exact h.construct (hc ▸ hstep)
  · by_cases hd : ∃ k, a = .destroy k
    · obtain ⟨k, rfl⟩ := hd
      exact h.destroy hstep
    · exact h.control hc (fun k hk => hd ⟨k, hk⟩) hstep

end RuntimeInv

/-! ## Whole runs -/

/-- The event is the beginning of a session or the end of `stopSession`. -/
def RuntimeEvent.OfSession : RuntimeEvent → Prop
  | .startSession _ | .stopSession _ => True
  | _ => False

/-- The last call of `stopSession` after the last session has returned true. -/
def CleanedUp (tr : List RuntimeEvent) : Prop :=
  ∃ t t', tr = t ++ .stopSession true :: t' ∧ ∀ e ∈ t', ¬ e.OfSession

/-- Once `StopBServer` has begun, the monitor waits for the gate to be opened. -/
lemma stopping_foldl {m : RuntimeMonitor} (hm : m.stopping = true) {t : List RuntimeEvent}
    (ht : .opened ∉ t) : (t.foldl RuntimeMonitor.next m).stopping = true := by
  induction t generalizing m with
  | nil => exact hm
  | cons e t ih =>
    refine ih ?_ fun h => ht (List.mem_cons_of_mem _ h)
    cases e with
    | opened => exact absurd List.mem_cons_self ht
    | stopServer => rfl
    | admitted => exact hm
    | rejected => exact hm
    | left => exact hm
    | startSession => exact hm
    | stopSession => exact hm

/-- The monitor is clean when there has been no session, or the last one is cleaned up. -/
lemma cleanedUp_of_clean {tr : List RuntimeEvent}
    (h : (tr.foldl RuntimeMonitor.next {}).clean = true) :
    (∀ e ∈ tr, ¬ e.OfSession) ∨ CleanedUp tr := by
  induction tr using List.reverseRecOn with
  | nil =>
    left
    intro e he
    cases he
  | append_singleton tr e ih =>
    rw [List.foldl_append] at h
    -- an event that is not of a session leaves the monitor as it is
    have hquiet : ¬ e.OfSession → (tr.foldl RuntimeMonitor.next {}).clean = true →
        (∀ e' ∈ tr ++ [e], ¬ e'.OfSession) ∨ CleanedUp (tr ++ [e]) := by
      intro he hclean
      rcases ih hclean with hnone | ⟨t, t', rfl, ht'⟩
      · left
        intro e' he'
        rcases List.mem_append.mp he' with he' | he'
        · exact hnone e' he'
        · rwa [List.mem_singleton.mp he']
      · refine .inr ⟨t, t' ++ [e], by simp, fun e' he' => ?_⟩
        rcases List.mem_append.mp he' with he' | he'
        · exact ht' e' he'
        · rwa [List.mem_singleton.mp he']
    cases e with
    | admitted => exact hquiet id h
    | rejected => exact hquiet id h
    | left => exact hquiet id h
    | opened => exact hquiet id h
    | stopServer => exact hquiet id h
    | startSession => cases h
    | stopSession result =>
      obtain rfl : result = true := h
      exact .inr ⟨tr, [], rfl, by simp⟩

/-- Callbacks are drained before the cleanup, and the cleanup comes before the next session: the
counter is the number of admitted callbacks that are alive; while `StopBServer` is running there
is none, and from then on none is admitted before the gate is opened again; a session begins only
when none is active and the last one has been stopped completely. -/
theorem runtime_run {tr : List RuntimeEvent} {s : Runtime}
    (hrun : Step.Run Runtime.step {} tr s) :
    (s.gate.inFlight = s.callbacks.count true ∧ .left true ∉ tr) ∧
    ((∀ caller, s.pc = .stop caller .server → true ∉ s.callbacks) ∧
      ∀ pre t post, tr = pre ++ .stopServer :: (t ++ .admitted :: post) → .opened ∈ t) ∧
    ∀ pre active post, tr = pre ++ .startSession active :: post →
      active = false ∧ ((∃ active', .startSession active' ∈ pre) → CleanedUp pre) := by
  obtain ⟨hinv, halong⟩ := hrun.along (I := RuntimeInv) RuntimeInv.start fun m s a s' es h =>
    h.step
  refine ⟨⟨hinv.count, fun hmem => ?_⟩, ⟨fun caller hpc => ?_, ?_⟩, ?_⟩
  · obtain ⟨pre, post, rfl⟩ := List.append_of_mem hmem
    obtain ⟨-, ⟨hwrapped, -⟩, -⟩ := along_append.mp halong
    cases hwrapped
  · have hzero : s.gate.inFlight = 0 := hinv.emptied (by rw [hpc]; rfl)
    rw [hinv.count] at hzero
    exact List.count_eq_zero.mp hzero
  · rintro pre t post rfl
    obtain ⟨-, -, hrest⟩ := along_append.mp halong
    obtain ⟨-, hadmitted, -⟩ := along_append.mp hrest
    by_contra hnot
    rw [RuntimeMonitor.ok, stopping_foldl rfl hnot] at hadmitted
    cases hadmitted
  · rintro pre active post rfl
    obtain ⟨-, ⟨hactive, hclean⟩, -⟩ := along_append.mp halong
    refine ⟨hactive, ?_⟩
    rintro ⟨active', hmem⟩
    exact (cleanedUp_of_clean hclean).resolve_left fun hnone => hnone _ hmem trivial

/-- The controller in its first session: the gate opens, a callback enters, the key is pressed,
and the callback leaves only after `stopSession` has given up waiting. -/
def restartActions : List RuntimeAction :=
  [.retry 0 true, .start true, .install true true, .openGate, .construct,
    .activate true true (some .Captured) true, .delete true true, .request, .close, .drain 5,
    .wait .object, .construct, .destroy 1, .retry 2000 true, .request, .close, .drain 2001,
    .server true, .unhook true, .detach true 2002, .start true]

/-- The second session begins after the callback has left and the first one is cleaned up. -/
theorem runtime_run_test : ∃ pre s,
    Step.Run Runtime.step {} (pre ++ .startSession false :: []) s ∧
      .startSession false ∈ pre ∧ CleanedUp pre := by
  obtain ⟨s, hrun⟩ : ∃ s, Step.Run Runtime.step {}
      ([.startSession false, .opened, .admitted, .stopSession false, .rejected, .left false,
        .stopServer, .stopSession true] ++ .startSession false :: []) s :=
    Step.run_of_trace (show (Step.exec Runtime.step {} restartActions).map Prod.snd =
      some _ by decide)
  obtain ⟨-, -, hsessions⟩ := runtime_run hrun
  exact ⟨_, s, hrun, List.mem_cons_self, (hsessions _ false [] rfl).2 ⟨false, List.mem_cons_self⟩⟩

end Server
end SakuraTools
