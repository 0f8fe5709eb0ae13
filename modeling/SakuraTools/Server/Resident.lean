import SakuraTools.Server.RuntimeGate

/-!
# The resident controller

The named event of `injector/RuntimeControl.h`, between the injectors that call `TryResumeProxy` and
the threads that run `RuntimeThread` of `native/loader.cpp` in the process of A.  The first thread
to create the event stays and waits for it.  An injector that finds the event signals it, and one
that does not loads the DLL, which starts another thread.  Windows keeps the event as long as
someone has a handle of it.
-/

namespace SakuraTools
namespace Server

/-! ## The parties -/

/-- The event under the name `Local\SakuraTools.Resume.v1.` of the process, which resets itself
when a wait has succeeded. -/
structure ResumeEvent where
  signaled : Bool := false
  handles : ℕ := 1
deriving DecidableEq, Repr

/-- What a call of `RuntimeThread` does next. -/
inductive ThreadState where
  | create
  /-- The event was there, and is signalled. -/
  | signal
  | closeFound
  /-- The event is new: the thread looks for the JVM. -/
  | boot
  | loop (r : Runtime)
  | closeOwn
  | ended
deriving DecidableEq, Repr

/-- What a call of `DoInject` does next: first `TryResumeProxy`, then the rest. -/
inductive InjectorState where
  | «open»
  | set
  | close (signalled : Bool)
  | load
  | done (ok : Bool)
deriving DecidableEq, Repr

/-- The process of A, and the injectors. -/
structure Residence where
  event : Option ResumeEvent := none
  threads : List ThreadState := []
  injectors : List InjectorState := []

/-- What a party does, with the answers of Windows and of the JVM. -/
inductive ResidenceAction where
  /-- An injector is started. -/
  | arrive
  | open (i : ℕ) (access : Bool)
  | set (i : ℕ) (ok : Bool)
  | close (i : ℕ)
  /-- A thread starts or not, whatever the injector learns of it. -/
  | load (i : ℕ) (started ok : Bool)
  | create (j : ℕ) (ok : Bool)
  | signal (j : ℕ) (ok : Bool)
  | closeFound (j : ℕ)
  | boot (j : ℕ) (ok : Bool)
  /-- The controller in the loop of a thread makes a step. -/
  | run (j : ℕ) (a : RuntimeAction)
  | closeOwn (j : ℕ)

inductive ResidenceEvent where
  /-- A thread has created the event. -/
  | resident
  /-- The event is signalled, and there is a thread that may still wait for it, or not. -/
  | resumed (heard : Bool)
  /-- The wait of a controller has taken the signal. -/
  | taken
  /-- A controller discards the requests, because DEL is pressed. -/
  | reset
  /-- The thread that has created the event will not wait for it any more: it has no JVM to work
  with, or its wait has failed. -/
  | deaf
  /-- The thread that has created the event closes it. -/
  | left
  | session (e : RuntimeEvent)
deriving DecidableEq, Repr

/-! ## Handles -/

/-- The thread has a handle of the event. -/
def ThreadState.holds : ThreadState → Bool
  | signal | closeFound | boot | loop _ | closeOwn => true
  | create | ended => false

/-- The thread has created the event, and not closed it. -/
def ThreadState.resident : ThreadState → Bool
  | boot | loop _ | closeOwn => true
  | _ => false

/-- The controller has left its loop. -/
def Controller.leaving : Controller → Bool
  | exit | done => true
  | stop caller _ => caller == .exit
  | _ => false

/-- The thread has created the event and may still wait for it. -/
def ThreadState.listens : ThreadState → Bool
  | boot => true
  | loop r => !r.pc.leaving
  | _ => false

def InjectorState.holds : InjectorState → Bool
  | set | close _ => true
  | _ => false

/-- One handle of the event is closed. -/
def ResumeEvent.release (e : ResumeEvent) : Option ResumeEvent :=
  if e.handles ≤ 1 then none else some { e with handles := e.handles - 1 }

namespace Residence

def holders (s : Residence) : ℕ :=
  s.threads.countP ThreadState.holds + s.injectors.countP InjectorState.holds

def residents (s : Residence) : ℕ := s.threads.countP ThreadState.resident

def listeners (s : Residence) : ℕ := s.threads.countP ThreadState.listens

/-- `SetEvent` -/
def setEvent (s : Residence) : Residence :=
  { s with event := s.event.map fun e => { e with signaled := true } }

/-- `CloseHandle` -/
def closeHandle (s : Residence) : Residence := { s with event := s.event.bind ResumeEvent.release }

/-- What the wait at the end of the loop returns: a signal that is there ends it, and is taken. -/
def waits (s : Residence) : WaitResult → Bool
  | .object => s.event.any ResumeEvent.signaled
  | .timeout => !s.event.any ResumeEvent.signaled
  | .failed => true

/-- The controller calls `ResetEvent`. -/
def resets (r : Runtime) : RuntimeAction → Bool
  | .delete pressed _ => r.pc == .delete && pressed && (r.active || r.requested)
  | _ => false

/-- The step takes the signal away. -/
def clears (r : Runtime) (a : RuntimeAction) : Bool := resets r a || a == .wait .object

def step : Step Residence ResidenceAction ResidenceEvent
  | s, .arrive => some ({ s with injectors := s.injectors ++ [.open] }, [])
  | s, .open i access =>
    if s.injectors[i]? = some .open then
      if access = false then some ({ s with injectors := s.injectors.set i (.done false) }, [])
      else
        match s.event with
        | none => some ({ s with injectors := s.injectors.set i .load }, [])
        | some e =>
          some ({ s with event := some { e with handles := e.handles + 1 }
                         injectors := s.injectors.set i .set }, [])
    else none
  | s, .set i ok =>
    if s.injectors[i]? = some .set then
      let s' := { s with injectors := s.injectors.set i (.close ok) }
      if ok then some (s'.setEvent, [.resumed (0 < s.listeners)]) else some (s', [])
    else none
  | s, .close i =>
    match s.injectors[i]? with
    | some (.close ok) =>
      some ({ s with injectors := s.injectors.set i (.done ok) }.closeHandle, [])
    | _ => none
  | s, .load i started ok =>
    if s.injectors[i]? = some .load then
      some ({ s with injectors := s.injectors.set i (.done ok)
                     threads := if started then s.threads ++ [.create] else s.threads }, [])
    else none
  | s, .create j ok =>
    if s.threads[j]? = some .create then
      if ok = false then some ({ s with threads := s.threads.set j .ended }, [])
      else
        match s.event with
        | none => some ({ s with event := some {}, threads := s.threads.set j .boot }, [.resident])
        | some e =>
          some ({ s with event := some { e with handles := e.handles + 1 }
                         threads := s.threads.set j .signal }, [])
    else none
  | s, .signal j ok =>
    if s.threads[j]? = some .signal then
      let s' := { s with threads := s.threads.set j .closeFound }
      if ok then some (s'.setEvent, [.resumed (0 < s.listeners)]) else some (s', [])
    else none
  | s, .closeFound j =>
    if s.threads[j]? = some .closeFound then
      some ({ s with threads := s.threads.set j .ended }.closeHandle, [])
    else none
  | s, .boot j ok =>
    if s.threads[j]? = some .boot then
      if ok then some ({ s with threads := s.threads.set j (.loop {}) }, [])
      else some ({ s with threads := s.threads.set j .closeOwn }, [.deaf])
    else none
  | s, .run j a =>
    match s.threads[j]? with
    | some (.loop r) =>
      if (match a with | .wait result => s.waits result | _ => true) then
        match r.step a with
        | none => none
        | some (r', es) =>
          some ({ s with
            event := if clears r a then s.event.map fun e => { e with signaled := false }
              else s.event
            threads := s.threads.set j (if r'.pc = .done then .closeOwn else .loop r') },
            (if resets r a then [.reset] else if a = .wait .object then [.taken]
              else if a = .wait .failed then [.deaf] else []) ++ es.map .session)
      else none
    | _ => none
  | s, .closeOwn j =>
    if s.threads[j]? = some .closeOwn then
      some ({ s with threads := s.threads.set j .ended }.closeHandle, [.left])
    else none

end Residence

/-! ## Requests of a controller -/

/-- A session is started. -/
def RuntimeEvent.starts : RuntimeEvent → Bool
  | startSession _ => true
  | _ => false

namespace Runtime

variable {r r' : Runtime} {a : RuntimeAction} {es : List RuntimeEvent}

/-- Only the wait makes a request, and a session that starts uses one up. -/
lemma requests_of_step (hstep : r.step a = some (r', es)) :
    r'.requested.toNat + es.countP RuntimeEvent.starts ≤
      r.requested.toNat + (a == .wait .object).toNat := by
  cases a with
  | start frame =>
    simp only [step, Option.ite_none_right_eq_some] at hstep
    obtain ⟨-, hstep⟩ := hstep
    split at hstep
    · rename_i hrequested
      simp only [Bool.and_eq_true] at hrequested
      rw [hrequested.1.1]
      split at hstep
      · cases hstep
        exact Nat.le_refl 1
      · cases hstep
        exact Nat.zero_le 1
    · cases hstep
      exact Nat.le_refl _
  | wait result =>
    simp only [step, Option.ite_none_right_eq_some, Option.some.injEq, Prod.mk.injEq] at hstep
    obtain ⟨-, rfl, rfl⟩ := hstep
    cases result with
    | object => exact Nat.le_trans (Bool.toNat_le _) (Nat.le_add_left 1 _)
    | timeout => exact Nat.le_refl _
    | failed => exact Nat.le_refl _
  | _ =>
    simp only [step, callStop, started, stopped] at hstep
    grind [RuntimeEvent.starts]

/-- The loop is left when the wait fails, for good. -/
lemma leaving_of_step (hstep : r.step a = some (r', es)) :
    r'.pc.leaving = (r.pc.leaving || a == .wait .failed) := by
  cases a with
  | wait result =>
    simp only [step, Option.ite_none_right_eq_some, Option.some.injEq, Prod.mk.injEq] at hstep
    obtain ⟨hpc, rfl, -⟩ := hstep
    rw [hpc]
    cases result <;> rfl
  | _ =>
    simp only [step, callStop, started, stopped] at hstep
    grind [Controller.leaving]

lemma events_of_wait {result : WaitResult} (hstep : r.step (.wait result) = some (r', es)) :
    es = [] := by
  simp only [step, Option.ite_none_right_eq_some, Option.some.injEq, Prod.mk.injEq] at hstep
  exact hstep.2.2.symm

lemma pc_of_wait {result : WaitResult} (hstep : r.step (.wait result) = some (r', es)) :
    r.pc = .wait := (Option.ite_none_right_eq_some.mp hstep).1

/-- The requests are discarded. -/
lemma requested_of_resets (hstep : r.step a = some (r', es))
    (h : Residence.resets r a = true) : r'.requested = false ∧ es = [] := by
  cases a with
  | delete pressed frame =>
    simp only [Residence.resets, Bool.and_eq_true, beq_iff_eq] at h
    obtain ⟨⟨hpc, hpressed⟩, hheld⟩ := h
    simp only [step, hpc, hpressed, hheld, Bool.and_true, if_true, callStop, Option.some.injEq,
      Prod.mk.injEq] at hstep
    obtain ⟨rfl, rfl⟩ := hstep
    exact ⟨rfl, rfl⟩
  | _ => cases h

end Runtime

/-! ## What a step does -/

/-- The thread has been asked for a session. -/
def ThreadState.wants : ThreadState → Bool
  | boot => true
  | loop r => r.requested
  | _ => false

lemma ThreadState.holds_of_resident {t : ThreadState} (h : t.resident = true) :
    t.holds = true := by
  cases t with
  | boot => rfl
  | loop r => rfl
  | closeOwn => rfl
  | _ => cases h

lemma ThreadState.resident_of_listens {t : ThreadState} (h : t.listens = true) :
    t.resident = true := by
  cases t with
  | boot => rfl
  | loop r => rfl
  | _ => cases h

lemma ThreadState.resident_of_wants {t : ThreadState} (h : t.wants = true) : t.resident = true := by
  cases t with
  | boot => rfl
  | loop r => rfl
  | _ => cases h

namespace Residence

variable {s s' : Residence} {es : List ResidenceEvent}

/-- The threads that have been asked for a session. -/
def wanting (s : Residence) : ℕ := s.threads.countP ThreadState.wants

def signaled (s : Residence) : Bool := s.event.any ResumeEvent.signaled

lemma residents_le_holders : s.residents ≤ s.holders :=
  Nat.le_trans (List.countP_mono_left fun _ _ => ThreadState.holds_of_resident)
    (Nat.le_add_right _ _)

lemma wanting_le_residents : s.wanting ≤ s.residents :=
  List.countP_mono_left fun _ _ => ThreadState.resident_of_wants

lemma listeners_le_residents : s.listeners ≤ s.residents :=
  List.countP_mono_left fun _ _ => ThreadState.resident_of_listens

lemma toNat_eq_ite (b : Bool) : b.toNat = if b then 1 else 0 := by
  cases b <;> rfl

/-- Replacing an element of a list. -/
lemma countP_set_add {α : Type} (p : α → Bool) {l : List α} {i : ℕ} {x : α} (y : α)
    (h : l[i]? = some x) :
    (l.set i y).countP p + (p x).toNat = l.countP p + (p y).toNat := by
  obtain ⟨hlt, rfl⟩ := List.getElem?_eq_some_iff.mp h
  have hle := List.boole_getElem_le_countP (p := p) hlt
  rw [List.countP_set hlt]
  rw [toNat_eq_ite, toNat_eq_ite]
  omega

/-- What a step changes in the numbers of handles, of residents, of threads that have been asked and
of threads that may still wait. -/
structure Counts (s s' : Residence)
    (holds holds' resident resident' wants wants' listens listens' : Bool) : Prop where
  holders : s'.holders + holds.toNat = s.holders + holds'.toNat
  residents : s'.residents + resident.toNat = s.residents + resident'.toNat
  wanting : s'.wanting + wants.toNat = s.wanting + wants'.toNat
  listeners : s'.listeners + listens.toNat = s.listeners + listens'.toNat

lemma counts_thread (s' : Residence) {j : ℕ} {x : ThreadState} (hx : s.threads[j]? = some x)
    (y : ThreadState) (hthreads : s'.threads = s.threads.set j y)
    (hinjectors : s'.injectors = s.injectors) :
    Counts s s' x.holds y.holds x.resident y.resident x.wants y.wants x.listens y.listens where
  holders := by
    have := countP_set_add ThreadState.holds y hx
    simp only [Residence.holders, hthreads, hinjectors]
    omega
  residents := by
    simp only [Residence.residents, hthreads]
    exact countP_set_add ThreadState.resident y hx
  wanting := by
    simp only [Residence.wanting, hthreads]
    exact countP_set_add ThreadState.wants y hx
  listeners := by
    simp only [Residence.listeners, hthreads]
    exact countP_set_add ThreadState.listens y hx

lemma counts_injector (s' : Residence) {i : ℕ} {x : InjectorState}
    (hx : s.injectors[i]? = some x) (y : InjectorState)
    (hinjectors : s'.injectors = s.injectors.set i y) (hthreads : s'.threads = s.threads) :
    Counts s s' x.holds y.holds false false false false false false where
  holders := by
    have := countP_set_add InjectorState.holds y hx
    simp only [Residence.holders, hthreads, hinjectors]
    omega
  residents := by simp only [Residence.residents, hthreads]
  wanting := by simp only [Residence.wanting, hthreads]
  listeners := by simp only [Residence.listeners, hthreads]

/-- What a step does to the event, with the events that it emits. -/
inductive Move (s s' : Residence) : List ResidenceEvent → Prop
  | keep (hevent : s'.event = s.event) (hholders : s'.holders = s.holders)
      (hresidents : s'.residents = s.residents) (hlisteners : s'.listeners = s.listeners)
      (hwanting : s'.wanting ≤ s.wanting) : Move s s' []
  | found {e : ResumeEvent} (hevent : s.event = some e)
      (hevent' : s'.event = some { e with handles := e.handles + 1 })
      (hholders : s'.holders = s.holders + 1) (hresidents : s'.residents = s.residents)
      (hlisteners : s'.listeners = s.listeners) (hwanting : s'.wanting ≤ s.wanting) : Move s s' []
  | created (hevent : s.event = none) (hevent' : s'.event = some {})
      (hholders : s'.holders = s.holders + 1) (hresidents : s'.residents = s.residents + 1)
      (hlisteners : s'.listeners = s.listeners + 1) (hwanting : s'.wanting = s.wanting + 1) :
      Move s s' [.resident]
  | signalled (hevent : s'.event = s.event.map fun e => { e with signaled := true })
      (hholders : s'.holders = s.holders) (hresidents : s'.residents = s.residents)
      (hlisteners : s'.listeners = s.listeners) (hwanting : s'.wanting = s.wanting)
      (hheld : 0 < s.holders) : Move s s' [.resumed (0 < s.listeners)]
  | closed (hevent : s'.event = s.event.bind ResumeEvent.release)
      (hholders : s'.holders + 1 = s.holders) (hresidents : s'.residents = s.residents)
      (hlisteners : s'.listeners = s.listeners) (hwanting : s'.wanting = s.wanting) : Move s s' []
  | deafened (hevent : s'.event = s.event) (hholders : s'.holders = s.holders)
      (hresidents : s'.residents = s.residents) (hlisteners : s'.listeners + 1 = s.listeners)
      (hwanting : s'.wanting ≤ s.wanting) : Move s s' [.deaf]
  | left (hevent : s'.event = s.event.bind ResumeEvent.release)
      (hholders : s'.holders + 1 = s.holders) (hresidents : s'.residents + 1 = s.residents)
      (hlisteners : s'.listeners = s.listeners) (hwanting : s'.wanting = s.wanting) :
      Move s s' [.left]
  | ran {es : List RuntimeEvent} (hevent : s'.event = s.event) (hholders : s'.holders = s.holders)
      (hresidents : s'.residents = s.residents) (hlisteners : s'.listeners = s.listeners)
      (hwanting : s'.wanting + es.countP RuntimeEvent.starts ≤ s.wanting) :
      Move s s' (es.map .session)
  | took (hpos : 0 < s.listeners) (hsignaled : s.signaled = true)
      (hevent : s'.event = s.event.map fun e => { e with signaled := false })
      (hholders : s'.holders = s.holders) (hresidents : s'.residents = s.residents)
      (hlisteners : s'.listeners = s.listeners) (hwanting : s'.wanting ≤ s.wanting + 1) :
      Move s s' [.taken]
  | reset (hevent : s'.event = s.event.map fun e => { e with signaled := false })
      (hholders : s'.holders = s.holders) (hresidents : s'.residents = s.residents)
      (hlisteners : s'.listeners = s.listeners)
      (hwanting : s.residents ≤ 1 → s'.wanting = 0) : Move s s' [.reset]

/-- An injector makes a step that does not concern the event. -/
lemma move_injector {i : ℕ} {x y : InjectorState} (hx : s.injectors[i]? = some x)
    (hholds : x.holds = y.holds) :
    Move s { s with injectors := s.injectors.set i y } [] := by
  have hcounts := counts_injector { s with injectors := s.injectors.set i y } hx y rfl rfl
  have hholders := hcounts.holders
  rw [hholds] at hholders
  exact .keep rfl (Nat.add_right_cancel hholders) rfl rfl (Nat.le_refl _)

/-- The same for a thread. -/
lemma move_thread {j : ℕ} {x y : ThreadState} (hx : s.threads[j]? = some x)
    (hholds : x.holds = y.holds) (hresident : x.resident = y.resident)
    (hlistens : x.listens = y.listens) (hwants : y.wants.toNat ≤ x.wants.toNat) :
    Move s { s with threads := s.threads.set j y } [] := by
  obtain ⟨hholders, hresidents, hwanting, hlisteners⟩ :=
    counts_thread { s with threads := s.threads.set j y } hx y rfl rfl
  rw [hholds] at hholders
  rw [hresident] at hresidents
  rw [hlistens] at hlisteners
  exact .keep rfl (Nat.add_right_cancel hholders) (Nat.add_right_cancel hresidents)
    (Nat.add_right_cancel hlisteners) (by omega)

/-- Only the resident thread can have been asked. -/
lemma wanting_eq_of_resident {j : ℕ} {x : ThreadState} (hj : s.threads[j]? = some x)
    (hx : x.resident = true) (hle : s.residents ≤ 1) : s.wanting = x.wants.toNat := by
  have hresidents := countP_set_add ThreadState.resident .ended hj
  have hwanting := countP_set_add ThreadState.wants .ended hj
  -- another thread that has been asked would be a second resident
  have hothers : (s.threads.set j .ended).countP ThreadState.wants ≤
      (s.threads.set j .ended).countP ThreadState.resident :=
    List.countP_mono_left fun _ _ => ThreadState.resident_of_wants
  rw [hx] at hresidents
  change _ + 1 = s.residents + 0 at hresidents
  change _ = s.wanting + 0 at hwanting
  omega

/-- What the controller in the loop of a thread does. -/
lemma move_run {j : ℕ} {r r' : Runtime} {a : RuntimeAction} {es : List RuntimeEvent}
    (hj : s.threads[j]? = some (.loop r))
    (hwaits : (match a with | .wait result => s.waits result | _ => true) = true)
    (hr : r.step a = some (r', es)) :
    Move s { s with
      event := if clears r a then s.event.map fun e => { e with signaled := false } else s.event
      threads := s.threads.set j (if r'.pc = .done then .closeOwn else .loop r') }
      ((if resets r a then [.reset] else if a = .wait .object then [.taken]
        else if a = .wait .failed then [.deaf] else []) ++ es.map .session) := by
  generalize hy : (if r'.pc = .done then ThreadState.closeOwn else .loop r') = y
  have hholds : y.holds = true := by
    rw [← hy]
    split <;> rfl
  have hresident : y.resident = true := by
    rw [← hy]
    split <;> rfl
  have hwants : y.wants.toNat ≤ r'.requested.toNat := by
    rw [← hy]
    split
    · exact Nat.zero_le _
    · exact Nat.le_refl _
  have hlistens : y.listens = !r'.pc.leaving := by
    rw [← hy]
    split
    · rename_i hdone
      rw [hdone]
      rfl
    · rfl
  have hrequests := Runtime.requests_of_step hr
  have hleaving := Runtime.leaving_of_step hr
  obtain ⟨hholders, hresidents, hwanting, hlisteners⟩ := counts_thread { s with
    event := if clears r a then s.event.map fun e => { e with signaled := false } else s.event
    threads := s.threads.set j y } hj y rfl rfl
  rw [hholds] at hholders
  rw [hresident] at hresidents
  rw [hlistens, hleaving] at hlisteners
  have hholders := Nat.add_right_cancel hholders
  have hresidents := Nat.add_right_cancel hresidents
  -- the thread listens as before unless its wait fails
  have hsame (ha : a ≠ .wait .failed) := by
    rw [beq_eq_false_iff_ne.mpr ha, Bool.or_false] at hlisteners
    exact Nat.add_right_cancel hlisteners
  change _ + r.requested.toNat = _ at hwanting
  by_cases hreset : resets r a = true
  · obtain ⟨hnone, rfl⟩ := Runtime.requested_of_resets hr hreset
    rw [if_pos hreset]
    refine .reset (if_pos (by rw [clears, hreset, Bool.true_or])) hholders hresidents
      (hsame fun ha => ?_) fun hle => ?_
    · rw [ha] at hreset
      cases hreset
    · obtain ⟨hlt, -⟩ := List.getElem?_eq_some_iff.mp hj
      rw [hnone] at hwants
      rw [wanting_eq_of_resident (List.getElem?_set_self hlt) hresident (hresidents ▸ hle)]
      exact Nat.le_zero.mp hwants
  · rw [if_neg hreset]
    by_cases hobject : a = .wait .object
    · subst hobject
      cases Runtime.events_of_wait hr
      have hclears : clears r (.wait .object) = true := by simp [clears]
      rw [if_pos rfl]
      refine .took (List.countP_pos_iff.mpr ⟨_, List.mem_of_getElem? hj, ?_⟩) hwaits ?_
        hholders hresidents (hsame (by simp)) ?_
      · rw [ThreadState.listens, Runtime.pc_of_wait hr]
        rfl
      · simp only [hclears, if_true]
      · simp only [beq_self_eq_true, Bool.toNat_true] at hrequests
        omega
    · have hclears : ¬ clears r a = true := by
        simp [clears, hreset, hobject]
      rw [beq_eq_false_iff_ne.mpr hobject, Bool.toNat_false] at hrequests
      rw [if_neg hobject]
      by_cases hfailed : a = .wait .failed
      · have hpc := Runtime.pc_of_wait (hfailed ▸ hr)
        cases Runtime.events_of_wait (hfailed ▸ hr)
        rw [if_pos hfailed]
        refine .deafened (if_neg hclears) hholders hresidents ?_ (by omega)
        simpa [ThreadState.listens, hpc, hfailed, Controller.leaving] using hlisteners
      · rw [if_neg hfailed, List.nil_append]
        exact .ran (if_neg hclears) hholders hresidents (hsame hfailed) (by omega)

lemma move_of_step {a : ResidenceAction} (hstep : step s a = some (s', es)) : Move s s' es := by
  cases a with
  | arrive =>
    cases hstep
    refine .keep rfl ?_ rfl rfl (Nat.le_refl _)
    simp [holders, InjectorState.holds]
  | «open» i access =>
    simp only [step, Option.ite_none_right_eq_some] at hstep
    obtain ⟨hi, hstep⟩ := hstep
    split at hstep
    · cases hstep
      exact move_injector hi rfl
    · split at hstep
      · cases hstep
        exact move_injector hi rfl
      · rename_i e he
        cases hstep
        obtain ⟨hholders, -, -, -⟩ := counts_injector { s with
          event := some { e with handles := e.handles + 1 }
          injectors := s.injectors.set i .set } hi .set rfl rfl
        exact .found he rfl hholders rfl rfl (Nat.le_refl _)
  | set i ok =>
    simp only [step, Option.ite_none_right_eq_some] at hstep
    obtain ⟨hi, hstep⟩ := hstep
    split at hstep
    · cases hstep
      obtain ⟨hholders, -, -, -⟩ := counts_injector
        (setEvent { s with injectors := s.injectors.set i (.close ok) }) hi (.close ok) rfl rfl
      refine .signalled rfl (Nat.add_right_cancel hholders) rfl rfl rfl ?_
      have hpos : 0 < s.injectors.countP InjectorState.holds :=
        List.countP_pos_iff.mpr ⟨_, List.mem_of_getElem? hi, rfl⟩
      simp only [holders]
      omega
    · cases hstep
      exact move_injector hi rfl
  | close i =>
    simp only [step] at hstep
    split at hstep
    · rename_i ok hi
      cases hstep
      obtain ⟨hholders, -, -, -⟩ := counts_injector
        (closeHandle { s with injectors := s.injectors.set i (.done ok) }) hi (.done ok) rfl rfl
      exact .closed rfl hholders rfl rfl rfl
    · cases hstep
  | load i started ok =>
    simp only [step, Option.ite_none_right_eq_some] at hstep
    obtain ⟨hi, hstep⟩ := hstep
    cases hstep
    have hcount := countP_set_add InjectorState.holds (.done ok) hi
    simp only [InjectorState.holds] at hcount
    cases started with
    | false =>
      refine .keep rfl ?_ rfl rfl (Nat.le_refl _)
      simp only [holders, Bool.false_eq_true, if_false]
      omega
    | true =>
      refine .keep rfl ?_ ?_ ?_ ?_
      · simp only [holders, if_true, List.countP_append, List.countP_singleton, ThreadState.holds,
          Bool.false_eq_true, if_false]
        omega
      · simp [residents, ThreadState.resident]
      · simp [listeners, ThreadState.listens]
      · simp [wanting, ThreadState.wants]
  | create j ok =>
    simp only [step, Option.ite_none_right_eq_some] at hstep
    obtain ⟨hj, hstep⟩ := hstep
    split at hstep
    · cases hstep
      exact move_thread hj rfl rfl rfl (Nat.le_refl _)
    · split at hstep
      · rename_i hevent
        cases hstep
        obtain ⟨hholders, hresidents, hwanting, hlisteners⟩ := counts_thread
          { s with event := some {}, threads := s.threads.set j .boot } hj .boot rfl rfl
        exact .created hevent rfl hholders hresidents hlisteners hwanting
      · rename_i e hevent
        cases hstep
        obtain ⟨hholders, hresidents, hwanting, hlisteners⟩ := counts_thread { s with
          event := some { e with handles := e.handles + 1 }
          threads := s.threads.set j .signal } hj .signal rfl rfl
        exact .found hevent rfl hholders hresidents hlisteners (Nat.le_of_eq hwanting)
  | signal j ok =>
    simp only [step, Option.ite_none_right_eq_some] at hstep
    obtain ⟨hj, hstep⟩ := hstep
    split at hstep
    · cases hstep
      obtain ⟨hholders, hresidents, hwanting, hlisteners⟩ := counts_thread
        (setEvent { s with threads := s.threads.set j .closeFound }) hj .closeFound rfl rfl
      refine .signalled rfl (Nat.add_right_cancel hholders) hresidents hlisteners hwanting ?_
      have hpos : 0 < s.threads.countP ThreadState.holds :=
        List.countP_pos_iff.mpr ⟨_, List.mem_of_getElem? hj, rfl⟩
      simp only [holders]
      omega
    · cases hstep
      exact move_thread hj rfl rfl rfl (Nat.le_refl _)
  | closeFound j =>
    simp only [step, Option.ite_none_right_eq_some] at hstep
    obtain ⟨hj, hstep⟩ := hstep
    cases hstep
    obtain ⟨hholders, hresidents, hwanting, hlisteners⟩ := counts_thread
      (closeHandle { s with threads := s.threads.set j .ended }) hj .ended rfl rfl
    exact .closed rfl hholders hresidents hlisteners hwanting
  | boot j ok =>
    simp only [step, Option.ite_none_right_eq_some] at hstep
    obtain ⟨hj, hstep⟩ := hstep
    split at hstep
    · cases hstep
      exact move_thread hj rfl rfl rfl (Nat.le_refl _)
    · cases hstep
      obtain ⟨hholders, hresidents, hwanting, hlisteners⟩ := counts_thread
        { s with threads := s.threads.set j .closeOwn } hj .closeOwn rfl rfl
      exact .deafened rfl (Nat.add_right_cancel hholders) (Nat.add_right_cancel hresidents)
        hlisteners (Nat.le_trans (Nat.le_add_right _ _) (Nat.le_of_eq hwanting))
  | run j a =>
    simp only [step] at hstep
    split at hstep
    · rename_i r hj
      rw [Option.ite_none_right_eq_some] at hstep
      obtain ⟨hwaits, hstep⟩ := hstep
      split at hstep
      · cases hstep
      · rename_i r' es' hr
        cases hstep
        exact move_run hj hwaits hr
    · cases hstep
  | closeOwn j =>
    simp only [step, Option.ite_none_right_eq_some] at hstep
    obtain ⟨hj, hstep⟩ := hstep
    cases hstep
    obtain ⟨hholders, hresidents, hwanting, hlisteners⟩ := counts_thread
      (closeHandle { s with threads := s.threads.set j .ended }) hj .ended rfl rfl
    exact .left rfl hholders hresidents hlisteners hwanting

/-! ## Runs -/

variable {tr : List ResidenceEvent}

/-- The handles of the event are those that the parties have, and without one there is no event. -/
structure Valid (s : Residence) : Prop where
  handles : ∀ e, s.event = some e → e.handles = s.holders ∧ 0 < s.holders
  free : s.event = none → s.holders = 0
  unique : s.residents ≤ 1

lemma valid_empty : Valid {} where
  handles e he := by cases he
  free _ := rfl
  unique := Nat.zero_le 1

lemma Valid.closed (hs : s.Valid) (hevent : s'.event = s.event.bind ResumeEvent.release)
    (hholders : s'.holders + 1 = s.holders) (hle : s'.residents ≤ s.residents) : s'.Valid := by
  have hunique := hs.unique
  cases he : s.event with
  | none =>
    have := hs.free he
    omega
  | some e =>
    obtain ⟨hhandles, -⟩ := hs.handles e he
    rw [he, Option.bind_some, ResumeEvent.release] at hevent
    split at hevent
    · refine ⟨fun e' he' => ?_, fun _ => by omega, by omega⟩
      rw [hevent] at he'
      cases he'
    · refine ⟨fun e' he' => ?_, fun hnone => ?_, by omega⟩
      · rw [hevent] at he'
        cases he'
        change e.handles - 1 = _ ∧ _
        omega
      · rw [hevent] at hnone
        cases hnone

lemma Valid.signal (hs : s.Valid) {signaled : Bool}
    (hevent : s'.event = s.event.map fun e => { e with signaled := signaled })
    (hholders : s'.holders = s.holders) (hresidents : s'.residents = s.residents) : s'.Valid := by
  refine ⟨fun e' he' => ?_, fun hnone => ?_, hresidents ▸ hs.unique⟩
  · rw [hevent] at he'
    obtain ⟨e, he, rfl⟩ := Option.map_eq_some_iff.mp he'
    rw [hholders]
    exact hs.handles e he
  · rw [hholders]
    exact hs.free (Option.map_eq_none_iff.mp (hevent ▸ hnone))

lemma Valid.same (hs : s.Valid) (hevent : s'.event = s.event) (hholders : s'.holders = s.holders)
    (hresidents : s'.residents = s.residents) : s'.Valid := by
  refine ⟨?_, ?_, hresidents ▸ hs.unique⟩
  · rw [hevent, hholders]
    exact hs.handles
  · rw [hevent, hholders]
    exact hs.free

lemma Valid.move (hs : s.Valid) (h : Move s s' es) : s'.Valid := by
  cases h with
  | keep hevent hholders hresidents => exact hs.same hevent hholders hresidents
  | @found e hevent hevent' hholders hresidents =>
    refine ⟨fun e' he' => ?_, fun hnone => ?_, hresidents ▸ hs.unique⟩
    · rw [hevent'] at he'
      cases he'
      have := (hs.handles e hevent).1
      change e.handles + 1 = _ ∧ _
      omega
    · rw [hevent'] at hnone
      cases hnone
  | created hevent hevent' hholders hresidents =>
    -- nobody has a handle, so that no thread is resident
    have hfree := hs.free hevent
    have hle := residents_le_holders (s := s)
    refine ⟨fun e' he' => ?_, fun hnone => ?_, by omega⟩
    · rw [hevent'] at he'
      cases he'
      change 1 = _ ∧ _
      omega
    · rw [hevent'] at hnone
      cases hnone
  | signalled hevent hholders hresidents => exact hs.signal hevent hholders hresidents
  | closed hevent hholders hresidents =>
    exact hs.closed hevent hholders (Nat.le_of_eq hresidents)
  | deafened hevent hholders hresidents => exact hs.same hevent hholders hresidents
  | left hevent hholders hresidents => exact hs.closed hevent hholders (by omega)
  | ran hevent hholders hresidents => exact hs.same hevent hholders hresidents
  | took _ _ hevent hholders hresidents => exact hs.signal hevent hholders hresidents
  | reset hevent hholders hresidents => exact hs.signal hevent hholders hresidents

/-- While a thread is resident, there is the event. -/
lemma Valid.exists_event (hs : s.Valid) (hpos : 0 < s.holders) : ∃ e, s.event = some e := by
  cases he : s.event with
  | none =>
    have := hs.free he
    omega
  | some e => exact ⟨e, rfl⟩

/-- Closing a handle does not touch the signal as long as someone else has one. -/
lemma signaled_closed (hevent : s'.event = s.event.bind ResumeEvent.release) (hs' : s'.Valid)
    (hpos : 0 < s'.holders) : s'.signaled = s.signaled := by
  obtain ⟨e', he'⟩ := hs'.exists_event hpos
  rw [he'] at hevent
  obtain ⟨e, he, hrelease⟩ := Option.bind_eq_some_iff.mp hevent.symm
  simp only [ResumeEvent.release, Option.ite_none_left_eq_some, Option.some.injEq] at hrelease
  rw [signaled, signaled, he, he', ← hrelease.2]
  rfl

/-- A signal has been given since the signal was last taken away. -/
def asked : Bool → ResidenceEvent → Bool
  | _, .resumed _ => true
  | _, .taken | _, .reset | _, .resident => false
  | b, _ => b

lemma asked_session (b : Bool) (es : List RuntimeEvent) :
    (es.map ResidenceEvent.session).foldl asked b = b := by
  induction es with
  | nil => rfl
  | cons e es ih => exact ih

/-- What is known of a run from its trace. -/
structure Traced (tr : List ResidenceEvent) (s : Residence) : Prop extends Valid s where
  count : tr.count .resident = tr.count .left + s.residents
  listening : tr.count .resident = tr.count .deaf + s.listeners
  began : s.event.isSome = true → 0 < tr.count .resident
  asked : 0 < s.residents → s.signaled = tr.foldl asked false

lemma count_session {e : ResidenceEvent} (he : ∀ e', e ≠ .session e') (es : List RuntimeEvent) :
    (es.map ResidenceEvent.session).count e = 0 :=
  List.count_eq_zero.mpr fun hmem =>
    have ⟨e', _, heq⟩ := List.mem_map.mp hmem
    he e' heq.symm

lemma Traced.keep (hs : Traced tr s) (hs' : s'.Valid) (hevent : s'.event = s.event)
    (hresidents : s'.residents = s.residents) (hlisteners : s'.listeners = s.listeners) :
    Traced tr s' where
  toValid := hs'
  count := hresidents ▸ hs.count
  listening := hlisteners ▸ hs.listening
  began := hevent ▸ hs.began
  asked hpos := by
    rw [signaled, hevent]
    exact hs.asked (hresidents ▸ hpos)

/-- The signal is set or taken away, and the event says so. -/
lemma Traced.signal (hs : Traced tr s) (hs' : s'.Valid) {signaled : Bool} {e : ResidenceEvent}
    (hevent : s'.event = s.event.map fun e => { e with signaled := signaled })
    (hresidents : s'.residents = s.residents) (hlisteners : s'.listeners = s.listeners)
    (hresident : e ≠ .resident) (hdeaf : e ≠ .deaf) (hleft : e ≠ .left)
    (hasked : ∀ b, Residence.asked b e = signaled) : Traced (tr ++ [e]) s' where
  toValid := hs'
  count := by simp [hs.count, hresidents, hresident, hleft]
  listening := by
    have hlistening := hs.listening
    simp [hlistening, hlisteners, hresident, hdeaf]
  began hsome := by
    rw [hevent, Option.isSome_map] at hsome
    rw [List.count_append]
    exact Nat.lt_of_lt_of_le (hs.began hsome) (Nat.le_add_right _ _)
  asked hpos := by
    obtain ⟨e', he'⟩ := hs.exists_event
      (Nat.lt_of_lt_of_le (hresidents ▸ hpos) residents_le_holders)
    rw [Residence.signaled, hevent, he', List.foldl_append]
    exact (hasked _).symm

lemma Traced.move (hs : Traced tr s) (h : Move s s' es) : Traced (tr ++ es) s' := by
  have hs' := hs.toValid.move h
  have hcount := hs.count
  have hlistening := hs.listening
  cases h with
  | keep hevent _ hresidents hlisteners =>
    rw [List.append_nil]
    exact hs.keep hs' hevent hresidents hlisteners
  | @found e hevent hevent' _ hresidents hlisteners =>
    rw [List.append_nil]
    refine ⟨hs', hresidents ▸ hcount, hlisteners ▸ hlistening,
      fun _ => hs.began (by rw [hevent]; rfl), fun hpos => ?_⟩
    rw [← hs.asked (hresidents ▸ hpos), signaled, signaled, hevent, hevent']
    rfl
  | created _ hevent' _ hresidents hlisteners =>
    refine ⟨hs', ?_, ?_, fun _ => ?_, fun _ => ?_⟩
    · simp [hcount, hresidents, Nat.add_assoc]
    · simp [hlistening, hlisteners, Nat.add_assoc]
    · simp
    · rw [signaled, hevent', List.foldl_append]
      rfl
  | signalled hevent _ hresidents hlisteners =>
    exact hs.signal hs' hevent hresidents hlisteners (by simp) (by simp) (by simp) fun _ => rfl
  | closed hevent _ hresidents hlisteners =>
    rw [List.append_nil]
    refine ⟨hs', hresidents ▸ hcount, hlisteners ▸ hlistening, fun hsome => hs.began ?_,
      fun hpos => ?_⟩
    · obtain ⟨e', he'⟩ := Option.isSome_iff_exists.mp hsome
      rw [hevent] at he'
      obtain ⟨e, he, -⟩ := Option.bind_eq_some_iff.mp he'
      rw [he]
      rfl
    · rw [signaled_closed hevent hs' (Nat.lt_of_lt_of_le hpos residents_le_holders)]
      exact hs.asked (hresidents ▸ hpos)
  | deafened hevent _ hresidents hlisteners =>
    refine ⟨hs', ?_, ?_, fun hsome => ?_, fun hpos => ?_⟩
    · simp [hcount, hresidents]
    · rw [List.count_append, List.count_append, List.count_singleton_self,
        List.count_cons_of_ne (by decide), List.count_nil]
      omega
    · simpa using hs.began (hevent ▸ hsome)
    · rw [signaled, hevent, List.foldl_append]
      exact hs.asked (hresidents ▸ hpos)
  | left hevent _ hresidents hlisteners =>
    have hunique := hs.unique
    refine ⟨hs', ?_, ?_, fun hsome => ?_, fun hpos => by omega⟩
    · rw [List.count_append, List.count_append, List.count_singleton_self,
        List.count_cons_of_ne (by decide), List.count_nil]
      omega
    · simp [hlistening, hlisteners]
    · rw [List.count_append]
      omega
  | ran hevent _ hresidents hlisteners =>
    obtain ⟨-, hcount, hlistening, hbegan, hasked⟩ := hs.keep hs' hevent hresidents hlisteners
    refine ⟨hs', ?_, ?_, ?_, ?_⟩
    · rw [List.count_append, List.count_append, count_session (by simp), count_session (by simp)]
      exact hcount
    · rw [List.count_append, List.count_append, count_session (by simp), count_session (by simp)]
      exact hlistening
    · rw [List.count_append, count_session (by simp)]
      exact hbegan
    · rw [List.foldl_append, asked_session]
      exact hasked
  | took _ _ hevent _ hresidents hlisteners =>
    exact hs.signal hs' hevent hresidents hlisteners (by simp) (by simp) (by simp) fun _ => rfl
  | reset hevent _ hresidents hlisteners =>
    exact hs.signal hs' hevent hresidents hlisteners (by simp) (by simp) (by simp) fun _ => rfl

lemma traced_empty : Traced [] {} where
  toValid := valid_empty
  count := rfl
  listening := rfl
  began h := by cases h
  asked _ := rfl

lemma traced (hrun : Step.Run step {} tr s) : Traced tr s :=
  hrun.invariant traced_empty fun _ _ _ _ _ hs hstep => hs.move (move_of_step hstep)

/-- A thread becomes resident and starts a session, and an injector signals it. -/
def sampleActions : List ResidenceAction :=
  [.arrive, .open 0 true, .load 0 true true, .create 0 true, .boot 0 true, .run 0 (.retry 0 true),
    .run 0 (.start true), .arrive, .open 1 true, .set 1 true]

def sampleTrace : List ResidenceEvent :=
  [.resident, .session (.startSession false), .resumed true]

def sampleState : Residence where
  event := some { signaled := true, handles := 2 }
  threads := [.loop { requested := false, pc := .install }]
  injectors := [.done true, .close true]

lemma run_sample : Step.Run step {} sampleTrace sampleState :=
  Step.run_of_exec (show step.exec {} sampleActions = _ from rfl)

/-- The resident thread does not find the JVM, and before it closes the event, an injector signals
it. -/
def lostActions : List ResidenceAction :=
  [.arrive, .open 0 true, .load 0 true true, .create 0 true, .arrive, .open 1 true, .boot 0 false,
    .set 1 true]

/-- There is one resident thread at most: another one can begin only after it has closed the
event. -/
theorem resident_unique (hrun : Step.Run step {} tr s) :
    s.residents ≤ 1 ∧ tr.count .resident = tr.count .left + s.residents :=
  ⟨(traced hrun).unique, (traced hrun).count⟩

theorem resident_unique_sample : sampleState.residents ≤ 1 ∧
    sampleTrace.count .resident = sampleTrace.count .left + sampleState.residents :=
  resident_unique run_sample

/-- While a thread is resident, the event is signalled exactly when a signal has been given since
the last one was taken or discarded. -/
theorem signaled_eq (hrun : Step.Run step {} tr s) (hpos : 0 < s.residents) :
    s.signaled = tr.foldl asked false :=
  (traced hrun).asked hpos

theorem signaled_eq_sample : 0 < sampleState.residents ∧
    sampleState.signaled = sampleTrace.foldl asked false :=
  ⟨by decide, signaled_eq run_sample (by decide)⟩

/-- A signal that no thread can hear is given only after a thread has created the event, and after
every thread that has created it has given up waiting for it. -/
theorem resumed_heard (hrun : Step.Run step {} tr s) {pre post : List ResidenceEvent}
    (htr : tr = pre ++ .resumed false :: post) :
    0 < pre.count .deaf ∧ pre.count .resident = pre.count .deaf := by
  refine (hrun.history (I := Traced) (P := fun pre e => e = .resumed false →
    0 < pre.count .deaf ∧ pre.count .resident = pre.count .deaf) traced_empty ?_).2
    pre _ post htr rfl
  intro tr s a s' es hs hstep
  refine ⟨hs.move (move_of_step hstep), fun pre e post hes he => ?_⟩
  have hmem : ResidenceEvent.resumed false ∈ es := by
    rw [hes, he]
    simp
  cases move_of_step hstep with
  | signalled _ _ _ _ _ hheld =>
    cases pre with
    | nil =>
      have hnone : ¬ 0 < s.listeners := by simpa using hmem
      obtain ⟨e', he'⟩ := hs.exists_event hheld
      have hbegan := hs.began (by rw [he']; rfl)
      have hlistening := hs.listening
      rw [List.append_nil]
      omega
    | cons e' pre => simp at hes
  | _ => simp at hmem

theorem resumed_heard_sample : ∃ s, Step.Run step {} [.resident, .deaf, .resumed false] s ∧
    0 < List.count ResidenceEvent.deaf [.resident, .deaf] := by
  obtain ⟨s, hrun⟩ := Step.run_of_trace (show (step.exec {} lostActions).map Prod.snd =
    some [.resident, .deaf, .resumed false] from rfl)
  have htr : [ResidenceEvent.resident, .deaf, .resumed false] =
      [.resident, .deaf] ++ .resumed false :: [] := rfl
  exact ⟨s, hrun, (resumed_heard hrun htr).1⟩

/-! ## Requests -/

/-- The sessions that may be started: one for a thread that becomes resident, and one for each
signal that it can hear, unless DEL stops a session or discards a request later. -/
def credit : ℕ → ResidenceEvent → ℕ
  | n, .resident => n + 1
  | n, .resumed heard => n + heard.toNat
  | _, .reset | _, .left => 0
  | n, .session e => n - e.starts.toNat
  | n, .taken | n, .deaf => n

/-- The sessions that the requests which are there will start. -/
def pending (s : Residence) : ℕ :=
  s.wanting + if 0 < s.listeners then s.signaled.toNat else 0

structure Funded (n : ℕ) (s : Residence) : Prop extends Valid s where
  pending_le : s.pending ≤ n

/-- A session is started only for a request. -/
def Paid (n : ℕ) (e : ResidenceEvent) : Prop :=
  ∀ active, e = .session (.startSession active) → 0 < n

lemma paid_session {n : ℕ} {es : List RuntimeEvent} (hle : es.countP RuntimeEvent.starts ≤ n) :
    (es.map ResidenceEvent.session).foldl credit n = n - es.countP RuntimeEvent.starts ∧
      Along credit Paid n (es.map .session) := by
  induction es generalizing n with
  | nil => exact ⟨rfl, trivial⟩
  | cons e es ih =>
    have hcons : (e :: es).countP RuntimeEvent.starts =
        es.countP RuntimeEvent.starts + e.starts.toNat := by
      rw [List.countP_cons, toNat_eq_ite]
    rw [hcons] at hle ⊢
    obtain ⟨hfold, halong⟩ := ih (n := n - e.starts.toNat) (by omega)
    refine ⟨?_, fun active he => ?_, halong⟩
    · rw [List.map_cons, List.foldl_cons]
      rw [show credit n (.session e) = n - e.starts.toNat from rfl, hfold]
      omega
    · cases he
      change _ + 1 ≤ n at hle
      omega

lemma pending_of_same (hevent : s'.event = s.event) (hlisteners : s'.listeners = s.listeners)
    {k l : ℕ} (hwanting : s'.wanting + k ≤ s.wanting + l) : s'.pending + k ≤ s.pending + l := by
  simp only [pending, signaled, hevent, hlisteners]
  omega

lemma Funded.move {n : ℕ} (hs : Funded n s) (h : Move s s' es) :
    Funded (es.foldl credit n) s' ∧ Along credit Paid n es := by
  have hs' := hs.toValid.move h
  have hle := hs.pending_le
  have hunique := hs.unique
  have hlistening := listeners_le_residents (s := s')
  cases h with
  | keep hevent _ _ hlisteners hwanting =>
    exact ⟨⟨hs', Nat.le_trans (pending_of_same (k := 0) (l := 0) hevent hlisteners hwanting) hle⟩,
      trivial⟩
  | @found e hevent hevent' _ _ hlisteners hwanting =>
    refine ⟨⟨hs', Nat.le_trans ?_ hle⟩, trivial⟩
    have hsignaled : s'.signaled = s.signaled := by
      rw [signaled, signaled, hevent, hevent']
      rfl
    rw [pending, pending, hsignaled, hlisteners]
    omega
  | created hevent hevent' _ _ _ hwanting =>
    refine ⟨⟨hs', ?_⟩, fun _ he => (by cases he), trivial⟩
    have hsignaled : s'.signaled = false := by
      rw [signaled, hevent']
      rfl
    change _ ≤ n + 1
    rw [pending] at hle
    rw [pending, hsignaled]
    simp only [Bool.toNat_false, ite_self]
    omega
  | signalled _ _ _ hlisteners hwanting =>
    refine ⟨⟨hs', ?_⟩, fun _ he => (by cases he), trivial⟩
    have hsignaled := Bool.toNat_le s'.signaled
    change _ ≤ n + (decide (0 < s.listeners)).toNat
    rw [pending] at hle
    rw [pending, hlisteners, hwanting]
    split
    · rename_i hpos
      rw [decide_eq_true hpos, Bool.toNat_true]
      omega
    · omega
  | closed hevent _ _ hlisteners hwanting =>
    refine ⟨⟨hs', Nat.le_trans ?_ hle⟩, trivial⟩
    rw [pending, pending, hlisteners, hwanting]
    split
    · rename_i hpos
      have hheld : 0 < s'.holders := by
        have := residents_le_holders (s := s')
        omega
      exact Nat.le_of_eq (by rw [signaled_closed hevent hs' hheld])
    · exact Nat.le_refl _
  | deafened hevent _ _ hlisteners hwanting =>
    refine ⟨⟨hs', Nat.le_trans ?_ hle⟩, fun _ he => (by cases he), trivial⟩
    rw [pending, pending, signaled, signaled, hevent, if_pos (c := 0 < s.listeners) (by omega)]
    split <;> omega
  | left _ _ hresidents _ _ =>
    refine ⟨⟨hs', ?_⟩, fun _ he => (by cases he), trivial⟩
    -- the resident thread was the only one, and only it can have been asked
    have hwanting := wanting_le_residents (s := s')
    rw [pending, if_neg (by omega)]
    change _ ≤ 0
    omega
  | ran hevent _ _ hlisteners hwanting =>
    have hpending := pending_of_same (l := 0) hevent hlisteners hwanting
    obtain ⟨hfold, halong⟩ := paid_session (Nat.le_trans (Nat.le_trans (Nat.le_add_left _ _)
      hpending) hle)
    refine ⟨⟨hs', ?_⟩, halong⟩
    rw [hfold]
    omega
  | took hpos hsignaled hevent _ _ hlisteners hwanting =>
    refine ⟨⟨hs', Nat.le_trans ?_ hle⟩, fun _ he => (by cases he), trivial⟩
    have hsignaled' : s'.signaled = false := by
      rw [signaled, hevent]
      cases s.event <;> rfl
    rw [pending, pending, if_pos hpos, hsignaled, hsignaled']
    simp only [Bool.toNat_false, Bool.toNat_true, ite_self]
    omega
  | reset hevent _ _ _ hwanting =>
    refine ⟨⟨hs', ?_⟩, fun _ he => (by cases he), trivial⟩
    have hsignaled : s'.signaled = false := by
      rw [signaled, hevent]
      cases s.event <;> rfl
    rw [pending, hwanting hunique, hsignaled]
    simp

/-- Every session that starts uses up a request of its own: the injection that has made the thread
resident, or a signal that a resident thread could hear, made since DEL last stopped a session or
discarded a request. -/
theorem startSession_paid (hrun : Step.Run step {} tr s) : Along credit Paid 0 tr :=
  (hrun.along (I := Funded) ⟨valid_empty, Nat.le_refl 0⟩
    fun _ _ _ _ _ hs hstep => hs.move (move_of_step hstep)).2

theorem startSession_paid_sample : Along credit Paid 0 sampleTrace := startSession_paid run_sample

end Residence

end Server
end SakuraTools
