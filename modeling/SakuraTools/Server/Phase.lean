import Mathlib.Data.List.Induction
import SakuraTools.Server.Moves

/-!
# How far the current login has come

A monitor that reads the trace of a session.  It remembers the login of B and which of the
steps towards the control of A's connection it has taken: the handoff has begun, the task of
the snapshot is queued, the boundary is drawn, the snapshot is taken, sent and acknowledged.
A failure or a reset of the handoff breaks the login.
-/

namespace SakuraTools
namespace Server

/-! ## Logins in a trace -/

/-- The events that start a login. -/
def Event.IsLogin : Event → Prop
  | .login _ _ _ => True
  | _ => False

/-- The events that end a login that has begun its handoff. -/
def Event.Ends : Event → Prop
  | .login _ _ _ | .failed | .reset => True
  | _ => False

/-- The last login in the trace is the one of `c`, and the events `ms` have happened in it,
with no failure or reset since the first of them. -/
def LoginWith (c : Channel) (live mid : Bool) (ms tr : List Event) : Prop :=
  ∃ pre t₀ t, tr = pre ++ .login c live mid :: (t₀ ++ t) ∧ (∀ e ∈ t₀, ¬ e.IsLogin) ∧
    Since (fun e => ¬ e.Ends) ms t

lemma not_isLogin_of_not_ends {e : Event} (h : ¬ e.Ends) : ¬ e.IsLogin := by
  cases e <;> simp_all [Event.Ends, Event.IsLogin]

lemma LoginWith.start (c : Channel) (live mid : Bool) (tr : List Event) :
    LoginWith c live mid [] (tr ++ [.login c live mid]) :=
  ⟨tr, [], [], rfl, by simp, by simp [Since]⟩

lemma LoginWith.quiet {c : Channel} {live mid : Bool} {ms tr : List Event} {e : Event}
    (h : LoginWith c live mid ms tr) (he : ¬ e.Ends) : LoginWith c live mid ms (tr ++ [e]) := by
  obtain ⟨pre, t₀, t, rfl, ht₀, ht⟩ := h
  exact ⟨pre, t₀, t ++ [e], by simp, ht₀, ht.quiet he⟩

lemma LoginWith.mark {c : Channel} {live mid : Bool} {ms tr : List Event}
    (h : LoginWith c live mid ms tr) (m : Event) :
    LoginWith c live mid (ms ++ [m]) (tr ++ [m]) := by
  obtain ⟨pre, t₀, t, rfl, ht₀, ht⟩ := h
  exact ⟨pre, t₀, t ++ [m], by simp, ht₀, ht.mark m⟩

/-- Before its handoff begins, a login is not disturbed by a failure. -/
lemma LoginWith.greeted {c : Channel} {live mid : Bool} {tr : List Event} {e : Event}
    (h : LoginWith c live mid [] tr) (he : ¬ e.IsLogin) :
    LoginWith c live mid [] (tr ++ [e]) := by
  obtain ⟨pre, t₀, t, rfl, ht₀, ht⟩ := h
  refine ⟨pre, t₀ ++ t ++ [e], [], by simp, ?_, by simp [Since]⟩
  intro e' he'
  rcases List.mem_append.mp he' with he' | he'
  · rcases List.mem_append.mp he' with he' | he'
    · exact ht₀ e' he'
    · exact not_isLogin_of_not_ends (ht e' he')
  · rwa [List.mem_singleton.mp he']

lemma LoginWith.forget {c : Channel} {live mid : Bool} {ms tr : List Event}
    (h : LoginWith c live mid ms tr) (hms : ∀ m ∈ ms, ¬ m.IsLogin) :
    LoginWith c live mid [] tr := by
  obtain ⟨pre, t₀, t, rfl, ht₀, ht⟩ := h
  refine ⟨pre, t₀ ++ t, [], by simp, ?_, by simp [Since]⟩
  intro e he
  rcases List.mem_append.mp he with he | he
  · exact ht₀ e he
  · rcases ht.mem he with he | he
    · exact hms e he
    · exact not_isLogin_of_not_ends he

/-- The steps by which B gets control. -/
def handoverSteps (c : Channel) (j : JobId) (world : List Packet) : List Event :=
  [.begun c, .executed j, .boundary j, .captured j world, .sent c, .acknowledged c]

/-! ## The phase -/

inductive Phase where
  | outside
  | greeted (c : Channel) (mid : Bool)
  | begun (c : Channel)
  | executed (c : Channel) (j : JobId)
  | bounded (c : Channel) (j : JobId)
  | captured (c : Channel) (j : JobId) (world : List Packet)
  | sent (c : Channel) (j : JobId) (world : List Packet)
  | acknowledged (c : Channel) (j : JobId) (world : List Packet)
  | broken (c : Channel)
deriving DecidableEq, Repr

namespace Phase

def onBegun (c : Channel) : Phase → Phase
  | greeted c' mid => if c' = c then begun c else greeted c' mid
  | ph => ph

def onExecuted (j : JobId) : Phase → Phase
  | begun c => executed c j
  | ph => ph

def onBoundary (j : JobId) : Phase → Phase
  | executed c i => if i = j then bounded c i else executed c i
  | ph => ph

def onCaptured (j : JobId) (world : List Packet) : Phase → Phase
  | bounded c i => if i = j then captured c i world else bounded c i
  | ph => ph

def onSent (c : Channel) : Phase → Phase
  | captured c' j world => if c' = c then sent c' j world else captured c' j world
  | ph => ph

def onAcknowledged (c : Channel) : Phase → Phase
  | sent c' j world => if c' = c then acknowledged c' j world else sent c' j world
  | ph => ph

def onFailed : Phase → Phase
  | outside => outside
  | greeted c mid => greeted c mid
  | begun c | executed c _ | bounded c _ | captured c _ _ | sent c _ _ | acknowledged c _ _
  | broken c => broken c

def next (ph : Phase) : Event → Phase
  | .login c _ mid => greeted c mid
  | .begun c => ph.onBegun c
  | .executed j => ph.onExecuted j
  | .boundary j => ph.onBoundary j
  | .captured j world => ph.onCaptured j world
  | .sent c => ph.onSent c
  | .acknowledged c => ph.onAcknowledged c
  | .failed | .reset => ph.onFailed
  | .intention _ | .enter _ _ | .dispatched _ | .forwarded _ _ | .routed _ | .stop => ph

lemma onBoundary_of_not {ph : Phase} {j : JobId} (h : ¬ ∃ c, ph = executed c j) :
    ph.onBoundary j = ph := by
  cases ph with
  | executed c i =>
    have hne : i ≠ j := fun hi => h ⟨c, by rw [hi]⟩
    exact if_neg hne
  | _ => rfl

lemma onCaptured_of_not {ph : Phase} {j : JobId} {world : List Packet}
    (h : ¬ ∃ c, ph = bounded c j) : ph.onCaptured j world = ph := by
  cases ph with
  | bounded c i =>
    have hne : i ≠ j := fun hi => h ⟨c, by rw [hi]⟩
    exact if_neg hne
  | _ => rfl

lemma onAcknowledged_of_not {ph : Phase} {c : Channel}
    (h : ¬ ∃ j world, ph = sent c j world) : ph.onAcknowledged c = ph := by
  cases ph with
  | sent c' j world =>
    have hne : c' ≠ c := fun hc => h ⟨j, world, by rw [hc]⟩
    exact if_neg hne
  | _ => rfl

/-- What a session may do in a phase: B gets control after the acknowledgement, or when A was
not in game, and it is sent the stream after the snapshot. -/
def Allowed (ph : Phase) : Event → Prop
  | .begun c => ∃ mid, ph = greeted c mid
  | .enter c .Play => (∃ j world, ph = acknowledged c j world) ∨ ph = greeted c false
  | .enter c .AwaitReady => ∃ j world, ph = sent c j world
  | _ => True

/-- The handoff of the login has begun. -/
def Started : Phase → Prop
  | outside | greeted _ _ => False
  | _ => True

/-! ## Phases and traces -/

/-- The steps that a phase stands for. -/
def History : Phase → List Event → Prop
  | greeted c mid, tr => ∃ live, LoginWith c live mid [] tr
  | begun c, tr => ∃ live mid, LoginWith c live mid [.begun c] tr
  | executed c j, tr => ∃ live mid, LoginWith c live mid [.begun c, .executed j] tr
  | bounded c j, tr =>
    ∃ live mid, LoginWith c live mid [.begun c, .executed j, .boundary j] tr
  | captured c j world, tr =>
    ∃ live mid,
      LoginWith c live mid [.begun c, .executed j, .boundary j, .captured j world] tr
  | sent c j world, tr =>
    ∃ live mid,
      LoginWith c live mid [.begun c, .executed j, .boundary j, .captured j world, .sent c] tr
  | acknowledged c j world, tr =>
    ∃ live mid,
      LoginWith c live mid (handoverSteps c j world) tr
  | outside, _ | broken _, _ => True

lemma History.quiet {ph : Phase} {tr : List Event} {e : Event} (h : ph.History tr)
    (he : ¬ e.Ends) : ph.History (tr ++ [e]) := by
  cases ph with
  | outside | broken => trivial
  | greeted =>
    obtain ⟨live, h⟩ := h
    exact ⟨live, h.quiet he⟩
  | begun | executed | bounded | captured | sent | acknowledged =>
    obtain ⟨live, mid, h⟩ := h
    exact ⟨live, mid, h.quiet he⟩

lemma History.onFailed {ph : Phase} {tr : List Event} {e : Event} (h : ph.History tr)
    (he : ¬ e.IsLogin) : ph.onFailed.History (tr ++ [e]) := by
  cases ph with
  | greeted =>
    obtain ⟨live, h⟩ := h
    exact ⟨live, h.greeted he⟩
  | _ => trivial

/-- The monitor knows what has happened. -/
lemma History.next {ph : Phase} {tr : List Event} (h : ph.History tr) (e : Event) :
    (ph.next e).History (tr ++ [e]) := by
  have hquiet (he : ¬ e.Ends) : ph.History (tr ++ [e]) := h.quiet he
  cases e with
  | login c live mid => exact ⟨live, .start c live mid tr⟩
  | failed | reset => exact h.onFailed id
  | intention | enter | dispatched | forwarded | routed | stop => exact hquiet id
  | begun c =>
    cases ph with
    | greeted c' mid =>
      by_cases hc : c' = c
      · subst hc
        obtain ⟨live, h⟩ := h
        simpa only [Phase.next, onBegun, if_true] using ⟨live, mid, h.mark (.begun c')⟩
      · simpa only [Phase.next, onBegun, if_neg hc] using hquiet id
    | _ => exact hquiet id
  | executed j =>
    cases ph with
    | begun c =>
      obtain ⟨live, mid, h⟩ := h
      exact ⟨live, mid, h.mark _⟩
    | _ => exact hquiet id
  | boundary j =>
    cases ph with
    | executed c i =>
      by_cases hi : i = j
      · subst hi
        obtain ⟨live, mid, h⟩ := h
        simpa only [Phase.next, onBoundary, if_true] using ⟨live, mid, h.mark (.boundary i)⟩
      · simpa only [Phase.next, onBoundary, if_neg hi] using hquiet id
    | _ => exact hquiet id
  | captured j world =>
    cases ph with
    | bounded c i =>
      by_cases hi : i = j
      · subst hi
        obtain ⟨live, mid, h⟩ := h
        simpa only [Phase.next, onCaptured, if_true] using
          ⟨live, mid, h.mark (.captured i world)⟩
      · simpa only [Phase.next, onCaptured, if_neg hi] using hquiet id
    | _ => exact hquiet id
  | sent c =>
    cases ph with
    | captured c' j world =>
      by_cases hc : c' = c
      · subst hc
        obtain ⟨live, mid, h⟩ := h
        simpa only [Phase.next, onSent, if_true] using ⟨live, mid, h.mark (.sent c')⟩
      · simpa only [Phase.next, onSent, if_neg hc] using hquiet id
    | _ => exact hquiet id
  | acknowledged c =>
    cases ph with
    | sent c' j world =>
      by_cases hc : c' = c
      · subst hc
        obtain ⟨live, mid, h⟩ := h
        simpa only [Phase.next, onAcknowledged, if_true] using
          ⟨live, mid, h.mark (.acknowledged c')⟩
      · simpa only [Phase.next, onAcknowledged, if_neg hc] using hquiet id
    | _ => exact hquiet id

lemma history_foldl (tr : List Event) : (tr.foldl next outside).History tr := by
  induction tr using List.reverseRecOn with
  | nil => trivial
  | append_singleton tr e ih =>
    rw [List.foldl_append]
    exact ih.next e

/-! ## After a failure -/

/-- A login that has begun its handoff is over only when the next one starts. -/
lemma Started.next {ph : Phase} (h : ph.Started) {e : Event} (he : ¬ e.IsLogin) :
    (ph.next e).Started := by
  cases e with
  | login => exact absurd trivial he
  | failed | reset =>
    cases ph with
    | outside | greeted => exact h.elim
    | _ => trivial
  | intention | enter | dispatched | forwarded | routed | stop => exact h
  | begun | executed =>
    cases ph with
    | outside | greeted => exact h.elim
    | _ => trivial
  | boundary =>
    cases ph with
    | executed =>
      simp only [Phase.next, onBoundary]
      split <;> trivial
    | _ => exact h
  | captured =>
    cases ph with
    | bounded =>
      simp only [Phase.next, onCaptured]
      split <;> trivial
    | _ => exact h
  | sent =>
    cases ph with
    | captured =>
      simp only [Phase.next, onSent]
      split <;> trivial
    | _ => exact h
  | acknowledged =>
    cases ph with
    | sent =>
      simp only [Phase.next, onAcknowledged]
      split <;> trivial
    | _ => exact h

lemma Started.foldl {ph : Phase} (h : ph.Started) {tr : List Event}
    (htr : ∀ e ∈ tr, ¬ e.IsLogin) : (tr.foldl Phase.next ph).Started := by
  induction tr generalizing ph with
  | nil => exact h
  | cons e tr ih =>
    rw [List.forall_mem_cons] at htr
    exact ih (h.next htr.1) htr.2

lemma Started.onFailed {ph : Phase} (h : ph.Started) : ∃ c, ph.onFailed = broken c := by
  cases ph with
  | outside | greeted => exact h.elim
  | _ => exact ⟨_, rfl⟩

lemma foldl_broken {c : Channel} {tr : List Event} (htr : ∀ e ∈ tr, ¬ e.IsLogin) :
    tr.foldl next (broken c) = broken c := by
  induction tr with
  | nil => rfl
  | cons e tr ih =>
    rw [List.forall_mem_cons] at htr
    have he : (broken c).next e = broken c := by
      cases e with
      | login => exact absurd trivial htr.1
      | _ => rfl
    rw [List.foldl_cons, he]
    exact ih htr.2

end Phase
end Server
end SakuraTools
