import SakuraTools.Lib.Transition
import SakuraTools.Server.Session

/-!
# A's target connection

`closeARemoteConnection` takes the target under `targetMutex`, closes its channel without the lock
and clears the target under the lock again.  A's network thread sets the target to another
connection at any time.
-/

namespace SakuraTools
namespace Server

/-- Where `closeARemoteConnection` is. -/
inductive CloserPc where
  | take
  /-- The connection was taken. -/
  | close (k : Connection)
  | clear
deriving DecidableEq, Repr

/-- How far the channel of a connection gets closed. -/
inductive CloseResult where
  /-- `Connection.channel` is null. -/
  | noChannel
  /-- `Channel.close` throws, which is only logged. -/
  | throws
  | closed
deriving DecidableEq, Repr

/-- The target and the call of `closeARemoteConnection` in progress.  Its caller holds
`dispatchMutex`, so there is one at a time. -/
structure Target where
  targetConnection : Option Connection := none
  closer : Option CloserPc := none
deriving DecidableEq, Repr

inductive TargetEvent where
  | set (k : Option Connection)
  /-- The channel of the connection was closed. -/
  | closed (k : Connection)
  /-- The target was cleared, and what it was. -/
  | cleared (found : Option Connection)
deriving DecidableEq, Repr

inductive TargetAction where
  /-- `BServer_SetTargetConnection`, with the reference that it stores. -/
  | setTargetConnection (k : Option Connection)
  /-- `closeARemoteConnection` is called; whether the field and the method are known. -/
  | call (refs : Bool)
  | take
  | close (result : CloseResult)
  | clear
deriving DecidableEq, Repr

namespace Target

def step : Step Target TargetAction TargetEvent
  | s, .setTargetConnection k => some ({ s with targetConnection := k }, [.set k])
  | s, .call refs =>
    if s.closer = none then some ({ s with closer := if refs then some .take else none }, [])
    else none
  | s, .take =>
    if s.closer = some .take then
      some ({ s with closer := s.targetConnection.map .close }, [])
    else none
  | s, .close result =>
    match s.closer, result with
    | some (.close _), .noChannel => some ({ s with closer := none }, [])
    | some (.close _), .throws => some ({ s with closer := some .clear }, [])
    | some (.close k), .closed => some ({ s with closer := some .clear }, [.closed k])
    | _, _ => none
  | s, .clear =>
    if s.closer = some .clear then
      some ({ targetConnection := none, closer := none }, [.cleared s.targetConnection])
    else none

/-! ## The last connection -/

/-- The connection of the last call of `BServer_SetTargetConnection`. -/
def lastSet (k : Option Connection) : TargetEvent → Option Connection
  | .set k' => k'
  | .closed _ | .cleared _ => k

/-- The target is the connection that was set last, unless `closeARemoteConnection` has closed its
channel. -/
def Kept (tr : List TargetEvent) (s : Target) : Prop :=
  s.targetConnection = tr.foldl lastSet none ∨
    ∃ k, tr.foldl lastSet none = some k ∧ .closed k ∈ tr

/-- Whenever `closeARemoteConnection` clears the target, it finds none or a connection whose channel
it has closed. -/
def ClearsClosed (tr : List TargetEvent) : Prop :=
  ∀ pre k post, tr = pre ++ .cleared (some k) :: post → .closed k ∈ pre

lemma ClearsClosed.of_append {tr es : List TargetEvent} (h : ClearsClosed (tr ++ es)) :
    ClearsClosed tr := by
  rintro pre k post rfl
  exact h pre k (post ++ es) (by simp)

lemma ClearsClosed.of_prefix {tr pre : List TargetEvent} (h : ClearsClosed tr)
    (hpre : pre <+: tr) : ClearsClosed pre := by
  obtain ⟨post, rfl⟩ := hpre
  exact h.of_append

/-! ## Runs -/

variable {s s' : Target} {tr : List TargetEvent}

lemma length_events {a : TargetAction} {es : List TargetEvent} (h : step s a = some (s', es)) :
    es.length ≤ 1 := by
  unfold step at h
  grind

/-- What a step does to the target. -/
lemma step_target {a : TargetAction} {es : List TargetEvent} (h : step s a = some (s', es)) :
    (es = [] ∧ s'.targetConnection = s.targetConnection) ∨
      (∃ k, es = [.set k] ∧ s'.targetConnection = k) ∨
      (∃ k, es = [.closed k] ∧ s'.targetConnection = s.targetConnection) ∨
      (es = [.cleared s.targetConnection] ∧ s'.targetConnection = none) := by
  cases a with
  | setTargetConnection k =>
    cases h
    exact .inr (.inl ⟨k, rfl, rfl⟩)
  | call refs =>
    simp only [step, Option.ite_none_right_eq_some, Option.some.injEq] at h
    cases h.2
    exact .inl ⟨rfl, rfl⟩
  | take =>
    simp only [step, Option.ite_none_right_eq_some, Option.some.injEq] at h
    cases h.2
    exact .inl ⟨rfl, rfl⟩
  | close result =>
    simp only [step] at h
    split at h
    · cases h
      exact .inl ⟨rfl, rfl⟩
    · cases h
      exact .inl ⟨rfl, rfl⟩
    · cases h
      exact .inr (.inr (.inl ⟨_, rfl, rfl⟩))
    · cases h
  | clear =>
    simp only [step, Option.ite_none_right_eq_some, Option.some.injEq] at h
    cases h.2
    exact .inr (.inr (.inr ⟨rfl, rfl⟩))

lemma step_clear {a : TargetAction} {found : Option Connection}
    (h : step s a = some (s', [.cleared found])) :
    a = .clear ∧ s.targetConnection = found ∧ s'.targetConnection = none ∧ s'.closer = none := by
  cases a with
  | setTargetConnection k => cases h
  | call refs =>
    simp only [step, Option.ite_none_right_eq_some] at h
    cases h.2
  | take =>
    simp only [step, Option.ite_none_right_eq_some] at h
    cases h.2
  | close result =>
    simp only [step] at h
    split at h <;> cases h
  | clear =>
    simp only [step, Option.ite_none_right_eq_some, Option.some.injEq] at h
    cases h.2
    exact ⟨rfl, rfl, rfl, rfl⟩

/-- The target is the last connection or none. -/
lemma target_run (hrun : Step.Run step {} tr s) :
    s.targetConnection = none ∨ s.targetConnection = tr.foldl lastSet none := by
  refine hrun.invariant
    (I := fun tr s => s.targetConnection = none ∨ s.targetConnection = tr.foldl lastSet none)
    (.inl rfl) ?_
  intro tr s a s' es hs hstep
  rw [List.foldl_append]
  rcases step_target hstep with ⟨rfl, heq⟩ | ⟨k, rfl, heq⟩ | ⟨k, rfl, heq⟩ | ⟨rfl, heq⟩
  · rw [heq]
    exact hs
  · exact .inr heq
  · rw [heq]
    exact hs
  · exact .inl heq

/-- An event that is not a call of `BServer_SetTargetConnection`. -/
lemma Kept.add {e : TargetEvent} (h : Kept tr s) (he : ∀ k, lastSet k e = k)
    (heq : s'.targetConnection = s.targetConnection) : Kept (tr ++ [e]) s' := by
  rw [Kept, List.foldl_append, List.foldl_cons, List.foldl_nil, he, heq]
  refine h.imp id ?_
  rintro ⟨k, hlast, hclosed⟩
  exact ⟨k, hlast, List.mem_append_left _ hclosed⟩

/-- A connection that is set while the old one is being closed stays, as long as every clear finds
what was closed. -/
lemma kept_run (hrun : Step.Run step {} tr s) (htr : ClearsClosed tr) : Kept tr s := by
  induction hrun with
  | start => exact .inl rfl
  | @step tr s s' a es hrun hstep ih =>
    have hkept := ih htr.of_append
    rcases step_target hstep with ⟨rfl, heq⟩ | ⟨k, rfl, heq⟩ | ⟨k, rfl, heq⟩ | ⟨rfl, heq⟩
    · rw [Kept, heq, List.append_nil]
      exact hkept
    · refine .inl ?_
      rw [heq, List.foldl_append]
      rfl
    · exact hkept.add (fun _ => rfl) heq
    · cases hfound : s.targetConnection with
      | none => exact hkept.add (fun _ => rfl) (heq.trans hfound.symm)
      | some k =>
        rw [hfound] at htr
        have hlast := (target_run hrun).resolve_left (by simp [hfound])
        refine .inr ⟨k, ?_, List.mem_append_left _ (htr tr k [] rfl)⟩
        rw [List.foldl_append]
        exact hlast.symm.trans hfound

end Target

/-- Whenever no call is in progress, the target is the connection that was set last or that one has
a channel that `closeARemoteConnection` has closed, exactly when every clear of
`closeARemoteConnection` finds no other connection than one whose channel it has closed.  And then
the same holds in every state. -/
theorem target_iff {tr : List TargetEvent} {s : Target}
    (hrun : Step.Run Target.step {} tr s) :
    ((∀ pre s', pre <+: tr → Step.Run Target.step {} pre s' → s'.closer = none → s'.Kept pre) ↔
      Target.ClearsClosed tr) ∧
    (Target.ClearsClosed tr → s.Kept tr) := by
  refine ⟨⟨?_, ?_⟩, Target.kept_run hrun⟩
  · rintro h pre k post rfl
    obtain ⟨s, a, s', hrun', hstep⟩ :=
      hrun.exists_step (fun _ _ _ _ => Target.length_events) rfl
    obtain ⟨rfl, hfound, hnone, hcloser⟩ := Target.step_clear hstep
    -- the clear has found the connection that was set last
    have hlast : pre.foldl Target.lastSet none = some k := by
      rw [← hfound]
      exact ((Target.target_run hrun').resolve_left (by simp [hfound])).symm
    rcases h _ s' (by simp) (hrun'.step hstep) hcloser with hkept | ⟨k', hlast', hclosed⟩
    · rw [hnone, List.foldl_append, hlast] at hkept
      cases hkept
    · rw [List.foldl_append, hlast] at hlast'
      cases hlast'
      simpa using hclosed
  · intro h pre s' hpre hrun' _
    exact Target.kept_run hrun' (h.of_prefix hpre)

/-- B leaves while A stays away. -/
def leaveActions : List TargetAction :=
  [.setTargetConnection (some 1), .call true, .take, .close .closed, .clear]

theorem target_iff_test : ∃ s,
    Step.Run Target.step {} [.set (some 1), .closed 1, .cleared (some 1)] s ∧
      ∀ pre s', pre <+: [.set (some 1), .closed 1, .cleared (some 1)] →
        Step.Run Target.step {} pre s' → s'.closer = none → s'.Kept pre := by
  obtain ⟨s, hrun⟩ := Step.run_of_trace (show (Step.exec Target.step {} leaveActions).map Prod.snd =
    some [.set (some 1), .closed 1, .cleared (some 1)] by decide)
  refine ⟨s, hrun, (target_iff hrun).1.mpr ?_⟩
  intro pre k post htr
  rcases pre with _ | ⟨_, _ | ⟨_, _ | ⟨_, pre⟩⟩⟩
  · simp at htr
  · simp at htr
  · cases htr
    simp
  · simp at htr

/-- B leaves, and A connects again while its old channel is being closed. -/
def reconnectTargetActions : List TargetAction :=
  [.setTargetConnection (some 1), .call true, .take, .close .closed,
    .setTargetConnection (some 2), .clear]

/-- The new connection is forgotten, although nothing has closed it. -/
theorem target_forgotten : ∃ s tr, Step.Run Target.step {} tr s ∧ s.closer = none ∧
    s.targetConnection = none ∧ tr.foldl Target.lastSet none = some 2 ∧ .closed 2 ∉ tr := by
  have hexec : Step.exec Target.step {} reconnectTargetActions =
      some ({}, [.set (some 1), .closed 1, .set (some 2), .cleared (some 2)]) := by decide
  exact ⟨_, _, Step.run_of_exec hexec, rfl, rfl, rfl, by decide⟩

/-! ## In the session -/

/-- Where `closeARemoteConnection` is in a step of `channelInactive`. -/
def ClosePc.closer : ClosePc → Option CloserPc
  | .decide => none
  | .take => some .take
  | .close k => some (.close k)
  | .clear => some .clear

/-- The target of a session. -/
def Session.target (s : Session) : Target where
  targetConnection := s.targetConnection
  closer := match s.dispatch with
    | some (.inactive pc) => pc.closer
    | _ => none

/-- The last steps of `channelInactive` are those of `closeARemoteConnection`, which is left out in
a session that started with A in game. -/
theorem closeStep_target {s s' : Session} {hasChannel : Bool} {es : List Event}
    (h : s.closeStep hasChannel = some (s', es)) :
    s'.target = s.target ∨
      ∃ a tr, a ∈ [.call true, .take, .close (if hasChannel then .closed else .noChannel), .clear] ∧
        Target.step s.target a = some (s'.target, tr) := by
  cases hdispatch : s.dispatch with
  | none => simp [Session.closeStep, hdispatch] at h
  | some holder =>
    cases holder with
    | relay p => simp [Session.closeStep, hdispatch] at h
    | inactive pc =>
      have hcloser : s.target = ⟨s.targetConnection, pc.closer⟩ := by
        simp [Session.target, hdispatch]
      rw [hcloser]
      cases pc with
      | decide =>
        simp only [Session.closeStep, hdispatch] at h
        split at h
        · cases h
          exact .inl rfl
        · cases h
          exact .inr ⟨.call true, [], by simp, rfl⟩
      | take =>
        simp only [Session.closeStep, hdispatch] at h
        split at h
        · rename_i htarget
          cases h
          refine .inr ⟨.take, [], by simp, ?_⟩
          simp [Target.step, ClosePc.closer, Session.target, htarget]
        · rename_i k htarget
          cases h
          refine .inr ⟨.take, [], by simp, ?_⟩
          simp [Target.step, ClosePc.closer, Session.target, htarget]
      | close k =>
        simp only [Session.closeStep, hdispatch] at h
        split at h
        · rename_i hchannel
          cases h
          exact .inr ⟨.close .closed, [.closed k], by simp [hchannel], rfl⟩
        · rename_i hchannel
          cases h
          exact .inr ⟨.close .noChannel, [], by simp [hchannel], rfl⟩
      | clear =>
        simp only [Session.closeStep, hdispatch, Option.some.injEq] at h
        cases h
        exact .inr ⟨.clear, [.cleared s.targetConnection], by simp, rfl⟩

end Server
end SakuraTools
