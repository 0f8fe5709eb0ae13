import Mathlib.Data.List.Nodup
import SakuraTools.Lib.Transition
import SakuraTools.Server.PacketPolicy

/-!
# The bypass marks of the relay

`native/relay_handler.cpp` sits in A's pipeline.  It writes a packet that B's thread marked,
and filters every other one by the packet policy.  The marks are kept in a bounded list, the
oldest mark being dropped when the list is full.
-/

namespace SakuraTools
namespace Server

/-- Who handed a packet to A's connection. -/
inductive Origin where
  | A
  | B
deriving DecidableEq, Repr

/-- The marks with the packets that are on their way to `Native_RelayWrite`. -/
structure Relay where
  /-- `g_bypassPending`, the oldest mark first. -/
  marks : List ℕ := []
  /-- The packet that B's thread has marked and is about to send. -/
  routing : Option Packet := none
  /-- What `Connection.send` was called with and has not been written yet. -/
  inFlight : List (Origin × Packet) := []
  /-- The identities of all packet objects so far. -/
  used : List ℕ := []
  /-- What `BServer_IsBActive` returns. -/
  bActive : Bool := true
deriving DecidableEq, Repr

/-- `RelayFilter_MarkBypass`; `ref` tells whether `NewGlobalRef` succeeds. -/
def markBypass (marks : List ℕ) (packet : ℕ) (ref : Bool) : List ℕ :=
  if !ref then marks
  else if marks.length > 256 then marks.tail ++ [packet]
  else marks ++ [packet]

/-- `consumeBypassMark` -/
def consumeBypassMark (marks : List ℕ) (msg : ℕ) : Bool × List ℕ :=
  if msg ∈ marks then (true, marks.erase msg) else (false, marks)

inductive RelayAction where
  /-- `routeToA` on B's thread, up to the mark. -/
  | mark (p : Packet) (ref : Bool)
  /-- `routeToA`, the call of `Connection.send`. -/
  | send
  /-- A's client sends a packet of its own. -/
  | sendA (p : Packet)
  /-- `Native_RelayWrite` on A's event loop. -/
  | write (o : Origin) (p : Packet)
  /-- B gains or loses control. -/
  | setActive (b : Bool)
deriving DecidableEq, Repr

inductive RelayEvent where
  /-- A packet is marked; `outstanding` marks were pending before. -/
  | marked (p : Packet) (outstanding : ℕ) (ref : Bool)
  | written (o : Origin) (p : Packet) (bActive : Bool)
  | discarded (o : Origin) (p : Packet)
deriving DecidableEq, Repr

/-- `Native_RelayWrite` -/
def relayWrite (s : Relay) (o : Origin) (p : Packet) : Relay × List RelayEvent :=
  let (bypass, marks) := consumeBypassMark s.marks p.id
  let allow := bypass || PacketPolicy.allowFromA p.cls s.bActive
  ({ s with marks := marks, inFlight := s.inFlight.erase (o, p) },
    [if allow then .written o p s.bActive else .discarded o p])

/-- One step of B's thread, A's client or A's event loop.  A new packet is a new object, and
B's thread only routes what the policy allows it to. -/
def relayStep : Step Relay RelayAction RelayEvent
  | s, .mark p ref =>
    if s.bActive ∧ PacketPolicy.allowFromB p.cls ∧ p.id ∉ s.used ∧ s.routing = none then
      some
        ({ s with
            marks := markBypass s.marks p.id ref
            routing := some p
            used := p.id :: s.used },
          [.marked p s.marks.length ref])
    else none
  | s, .send =>
    match s.routing with
    | none => none
    | some p => some ({ s with inFlight := s.inFlight ++ [(.B, p)], routing := none }, [])
  | s, .sendA p =>
    if p.id ∉ s.used then
      some ({ s with inFlight := s.inFlight ++ [(.A, p)], used := p.id :: s.used }, [])
    else none
  | s, .write o p => if (o, p) ∈ s.inFlight then some (relayWrite s o p) else none
  | s, .setActive b => some ({ s with bActive := b }, [])

/-- What a step can do. -/
inductive RelayMove (s : Relay) : Relay → List RelayEvent → Prop
  | mark (p : Packet) (ref : Bool) (hfresh : p.id ∉ s.used) (hrouting : s.routing = none) :
      RelayMove s
        { s with
            marks := markBypass s.marks p.id ref
            routing := some p
            used := p.id :: s.used }
        [.marked p s.marks.length ref]
  | send (p : Packet) (hrouting : s.routing = some p) :
      RelayMove s { s with inFlight := s.inFlight ++ [(.B, p)], routing := none } []
  | sendA (p : Packet) (hfresh : p.id ∉ s.used) :
      RelayMove s { s with inFlight := s.inFlight ++ [(.A, p)], used := p.id :: s.used } []
  | write (o : Origin) (p : Packet) (hp : (o, p) ∈ s.inFlight) :
      RelayMove s (relayWrite s o p).1 (relayWrite s o p).2
  | setActive (b : Bool) : RelayMove s { s with bActive := b } []

lemma relayStep_cases {s s' : Relay} {a : RelayAction} {es : List RelayEvent}
    (h : relayStep s a = some (s', es)) : RelayMove s s' es := by
  cases a with
  | mark p ref =>
    simp only [relayStep, Option.ite_none_right_eq_some, Option.some.injEq] at h
    obtain ⟨⟨-, -, hfresh, hrouting⟩, heq⟩ := h
    cases heq
    exact .mark p ref hfresh hrouting
  | send =>
    cases hrouting : s.routing with
    | none => simp [relayStep, hrouting] at h
    | some p =>
      simp only [relayStep, hrouting, Option.some.injEq] at h
      cases h
      exact .send p hrouting
  | sendA p =>
    simp only [relayStep, Option.ite_none_right_eq_some, Option.some.injEq] at h
    obtain ⟨hfresh, heq⟩ := h
    cases heq
    exact .sendA p hfresh
  | write o p =>
    simp only [relayStep, Option.ite_none_right_eq_some, Option.some.injEq] at h
    obtain ⟨hp, heq⟩ := h
    cases heq
    exact .write o p hp
  | setActive b =>
    cases h
    exact .setActive b

/-! ## What the marks mean -/

/-- The packets on their way, with the one that is marked but not sent yet. -/
def Relay.outstanding (s : Relay) : List (Origin × Packet) :=
  (s.routing.toList.map fun p => (.B, p)) ++ s.inFlight

@[simp] lemma mem_outstanding {s : Relay} {o : Origin} {p : Packet} :
    (o, p) ∈ s.outstanding ↔ (o = .B ∧ s.routing = some p) ∨ (o, p) ∈ s.inFlight := by
  simp only [Relay.outstanding, List.mem_append, List.mem_map, Option.mem_toList,
    Prod.mk.injEq]
  constructor
  · rintro (⟨q, hq, rfl, rfl⟩ | h)
    · exact .inl ⟨rfl, hq⟩
    · exact .inr h
  · rintro (⟨rfl, hp⟩ | h)
    · exact .inl ⟨p, hp, rfl, rfl⟩
    · exact .inr h

/-- Packet objects are distinct, and A's packets are not marked. -/
structure RelayInv (s : Relay) : Prop where
  outstanding_used : ∀ o p, (o, p) ∈ s.outstanding → p.id ∈ s.used
  marks_used : ∀ i ∈ s.marks, i ∈ s.used
  nodup : (s.outstanding.map fun x => x.2.id).Nodup
  unmarked : ∀ p, (.A, p) ∈ s.outstanding → p.id ∉ s.marks

/-- Every packet of B that is on its way is marked. -/
def Relay.AllMarked (s : Relay) : Prop := ∀ p, (.B, p) ∈ s.outstanding → p.id ∈ s.marks

lemma mem_markBypass {marks : List ℕ} {packet i : ℕ} {ref : Bool}
    (h : i ∈ markBypass marks packet ref) : i ∈ marks ∨ i = packet := by
  unfold markBypass at h
  split at h
  · exact .inl h
  · split at h
    · rcases List.mem_append.mp h with h | h
      · exact .inl (List.mem_of_mem_tail h)
      · exact .inr (List.mem_singleton.mp h)
    · rcases List.mem_append.mp h with h | h
      · exact .inl h
      · exact .inr (List.mem_singleton.mp h)

/-- No mark is dropped while there is room. -/
lemma markBypass_of_le {marks : List ℕ} {packet : ℕ} (h : marks.length ≤ 256) :
    markBypass marks packet true = marks ++ [packet] := by
  simp [markBypass, Nat.not_lt.mpr h]

lemma mem_consumeBypassMark {marks : List ℕ} {msg i : ℕ}
    (h : i ∈ (consumeBypassMark marks msg).2) : i ∈ marks := by
  unfold consumeBypassMark at h
  split at h
  · exact List.mem_of_mem_erase h
  · exact h

lemma mem_consumeBypassMark_of_ne {marks : List ℕ} {msg i : ℕ} (hi : i ∈ marks)
    (hne : i ≠ msg) : i ∈ (consumeBypassMark marks msg).2 := by
  unfold consumeBypassMark
  split
  · exact (List.mem_erase_of_ne hne).mpr hi
  · exact hi

/-- What a write does, by the mark of its packet. -/
lemma relayWrite_events (s : Relay) (o : Origin) (p : Packet) :
    (relayWrite s o p).2 =
      if p.id ∈ s.marks ∨ PacketPolicy.allowFromA p.cls s.bActive = true then
        [.written o p s.bActive] else [.discarded o p] := by
  simp only [relayWrite, consumeBypassMark]
  by_cases hp : p.id ∈ s.marks
  · simp [hp]
  · by_cases hallow : PacketPolicy.allowFromA p.cls s.bActive = true
    · simp [hp, hallow]
    · simp [hp, hallow]

/-- What a write takes out of the packets on their way. -/
lemma outstanding_relayWrite (s : Relay) (o : Origin) (p : Packet) :
    (relayWrite s o p).1.outstanding.Sublist s.outstanding := by
  unfold Relay.outstanding relayWrite
  exact (List.Sublist.refl _).append List.erase_sublist

/-- A packet is on its way once. -/
lemma ne_of_mem_outstanding_relayWrite {s : Relay} (h : RelayInv s) {o o' : Origin}
    {p q : Packet} (hp : (o, p) ∈ s.inFlight)
    (hq : (o', q) ∈ (relayWrite s o p).1.outstanding) : q.id ≠ p.id := by
  have hnodup := h.nodup
  unfold Relay.outstanding at hnodup
  rw [List.map_append, List.nodup_append] at hnodup
  obtain ⟨-, hflight, hdisjoint⟩ := hnodup
  have hmem : p.id ∈ s.inFlight.map fun x => x.2.id := List.mem_map.mpr ⟨(o, p), hp, rfl⟩
  rcases List.mem_append.mp hq with hq | hq
  · exact hdisjoint _ (List.mem_map.mpr ⟨(o', q), hq, rfl⟩) _ hmem
  · intro heq
    have hflight' : s.inFlight.Nodup := List.Nodup.of_map _ hflight
    obtain ⟨hne, hq'⟩ := (List.Nodup.mem_erase_iff hflight').mp hq
    exact hne (List.inj_on_of_nodup_map hflight hq' hp heq)

lemma relayInv_step {s s' : Relay} {a : RelayAction} {es : List RelayEvent} (h : RelayInv s)
    (hstep : relayStep s a = some (s', es)) : RelayInv s' := by
  cases relayStep_cases hstep with
  | mark p ref hfresh hrouting =>
    have hunused (o : Origin) (q : Packet) (hq : (o, q) ∈ s.inFlight) : q.id ≠ p.id := by
      rintro heq
      exact hfresh (heq ▸ h.outstanding_used o q (mem_outstanding.mpr (.inr hq)))
    refine ⟨?_, ?_, ?_, ?_⟩
    · intro o q hq
      rcases mem_outstanding.mp hq with ⟨-, hq⟩ | hq
      · cases hq
        exact List.mem_cons_self
      · exact List.mem_cons_of_mem _ (h.outstanding_used o q (mem_outstanding.mpr (.inr hq)))
    · intro i hi
      rcases mem_markBypass hi with hi | rfl
      · exact List.mem_cons_of_mem _ (h.marks_used i hi)
      · exact List.mem_cons_self
    · have hnodup := h.nodup
      simp only [Relay.outstanding, hrouting, Option.toList_none, List.map_nil,
        List.nil_append] at hnodup
      refine List.nodup_cons.mpr ⟨?_, hnodup⟩
      intro hmem
      obtain ⟨⟨o, q⟩, hq, heq⟩ := List.mem_map.mp hmem
      exact hunused o q hq heq
    · intro q hq hmark
      rcases mem_outstanding.mp hq with ⟨hB, -⟩ | hq
      · cases hB
      · rcases mem_markBypass hmark with hmark | heq
        · exact h.unmarked q (mem_outstanding.mpr (.inr hq)) hmark
        · exact hunused .A q hq heq
  | send p hrouting =>
    have hperm : (s.inFlight ++ [(Origin.B, p)]).Perm s.outstanding := by
      simp only [Relay.outstanding, hrouting, Option.toList_some, List.map_cons, List.map_nil]
      exact List.perm_append_comm
    refine ⟨?_, h.marks_used, ?_, ?_⟩
    · exact fun o q hq => h.outstanding_used o q (hperm.subset hq)
    · exact ((hperm.map _).nodup_iff).mpr h.nodup
    · exact fun q hq => h.unmarked q (hperm.subset hq)
  | sendA p hfresh =>
    have hout : Relay.outstanding { s with
        inFlight := s.inFlight ++ [(Origin.A, p)], used := p.id :: s.used } =
          s.outstanding ++ [(Origin.A, p)] := by
      simp [Relay.outstanding]
    refine ⟨?_, fun i hi => List.mem_cons_of_mem _ (h.marks_used i hi), ?_, ?_⟩
    · intro o q hq
      rcases List.mem_append.mp (hout ▸ hq) with hq | hq
      · exact List.mem_cons_of_mem _ (h.outstanding_used o q hq)
      · cases List.mem_singleton.mp hq
        exact List.mem_cons_self
    · rw [hout, List.map_append, List.nodup_append]
      refine ⟨h.nodup, by simp, ?_⟩
      rintro i hi j hj rfl
      obtain ⟨⟨o, q⟩, hq, rfl⟩ := List.mem_map.mp hi
      have heq : q.id = p.id := List.mem_singleton.mp hj
      exact hfresh (heq ▸ h.outstanding_used o q hq)
    · intro q hq hmark
      rcases List.mem_append.mp (hout ▸ hq) with hq | hq
      · exact h.unmarked q hq hmark
      · cases List.mem_singleton.mp hq
        exact hfresh (h.marks_used _ hmark)
  | write o p hp =>
    have hsub := outstanding_relayWrite s o p
    refine ⟨?_, ?_, (hsub.map _).nodup h.nodup, ?_⟩
    · exact fun o' q hq => h.outstanding_used o' q (hsub.subset hq)
    · exact fun i hi => h.marks_used i (mem_consumeBypassMark hi)
    · exact fun q hq hmark => h.unmarked q (hsub.subset hq) (mem_consumeBypassMark hmark)
  | setActive b => exact ⟨h.outstanding_used, h.marks_used, h.nodup, h.unmarked⟩

/-- A packet of A's own is written only if the policy allows it. -/
lemma relayStep_written {s s' : Relay} {a : RelayAction} {es : List RelayEvent} (h : RelayInv s)
    (hstep : relayStep s a = some (s', es)) {p : Packet} {b : Bool}
    (hp : RelayEvent.written .A p b ∈ es) : PacketPolicy.allowFromA p.cls b = true := by
  cases relayStep_cases hstep with
  | write o q hq =>
    rw [relayWrite_events] at hp
    split at hp
    · rename_i hallow
      cases List.mem_singleton.mp hp
      exact hallow.resolve_left (h.unmarked p (mem_outstanding.mpr (.inr hq)))
    · cases List.mem_singleton.mp hp
  | mark q ref => cases List.mem_singleton.mp hp
  | send | sendA | setActive => cases hp

/-- At most 256 marks are pending when B's thread adds one, and the reference for it can be
created. -/
def RelayEvent.HasRoom : RelayEvent → Prop
  | .marked _ outstanding ref => outstanding ≤ 256 ∧ ref = true
  | _ => True

/-- While there is room, every packet of B that is on its way stays marked, and none is
discarded. -/
lemma allMarked_step {s s' : Relay} {a : RelayAction} {es : List RelayEvent} (h : RelayInv s)
    (hm : s.AllMarked) (hstep : relayStep s a = some (s', es)) (hroom : ∀ e ∈ es, e.HasRoom) :
    s'.AllMarked ∧ ∀ p, RelayEvent.discarded .B p ∉ es := by
  cases relayStep_cases hstep with
  | mark p ref hfresh hrouting =>
    obtain ⟨hle, rfl⟩ := hroom _ List.mem_cons_self
    refine ⟨?_, by simp⟩
    intro q hq
    rw [markBypass_of_le hle]
    rcases mem_outstanding.mp hq with ⟨-, hq⟩ | hq
    · cases hq
      exact List.mem_append_right _ (List.mem_singleton.mpr rfl)
    · exact List.mem_append_left _ (hm q (mem_outstanding.mpr (.inr hq)))
  | send p hrouting =>
    refine ⟨?_, by simp⟩
    intro q hq
    apply hm q
    rcases mem_outstanding.mp hq with ⟨-, hq⟩ | hq
    · cases hq
    · rcases List.mem_append.mp hq with hq | hq
      · exact mem_outstanding.mpr (.inr hq)
      · cases List.mem_singleton.mp hq
        exact mem_outstanding.mpr (.inl ⟨rfl, hrouting⟩)
  | sendA p hfresh =>
    refine ⟨?_, by simp⟩
    intro q hq
    apply hm q
    rcases mem_outstanding.mp hq with hq | hq
    · exact mem_outstanding.mpr (.inl hq)
    · rcases List.mem_append.mp hq with hq | hq
      · exact mem_outstanding.mpr (.inr hq)
      · cases List.mem_singleton.mp hq
  | write o p hp =>
    constructor
    · intro q hq
      have hne := ne_of_mem_outstanding_relayWrite h hp hq
      exact mem_consumeBypassMark_of_ne (hm q ((outstanding_relayWrite s o p).subset hq)) hne
    · intro q hq
      rw [relayWrite_events] at hq
      split at hq
      · cases List.mem_singleton.mp hq
      · rename_i hdeny
        cases List.mem_singleton.mp hq
        exact hdeny (.inl (hm p (mem_outstanding.mpr (.inr hp))))
  | setActive b => exact ⟨hm, by simp⟩

/-- A packet of B that is on its way stays there until it is written or discarded. -/
lemma outstanding_step {s s' : Relay} {a : RelayAction} {es : List RelayEvent}
    (hstep : relayStep s a = some (s', es)) {p : Packet}
    (hp : (.B, p) ∈ s.outstanding ∨ ∃ n ref, RelayEvent.marked p n ref ∈ es) :
    (.B, p) ∈ s'.outstanding ∨ (∃ b, RelayEvent.written .B p b ∈ es) ∨
      RelayEvent.discarded .B p ∈ es := by
  cases relayStep_cases hstep with
  | mark q ref hfresh hrouting =>
    refine .inl (mem_outstanding.mpr ?_)
    rcases hp with hp | ⟨n, ref', hp⟩
    · rcases mem_outstanding.mp hp with ⟨-, hp⟩ | hp
      · simp [hrouting] at hp
      · exact .inr hp
    · cases List.mem_singleton.mp hp
      exact .inl ⟨rfl, rfl⟩
  | send q hrouting =>
    refine .inl (mem_outstanding.mpr (.inr ?_))
    rcases hp with hp | ⟨n, ref', hp⟩
    · rcases mem_outstanding.mp hp with ⟨-, hp⟩ | hp
      · cases hrouting.symm.trans hp
        exact List.mem_append_right _ (List.mem_singleton.mpr rfl)
      · exact List.mem_append_left _ hp
    · cases hp
  | sendA q hfresh =>
    refine .inl (mem_outstanding.mpr ?_)
    rcases hp with hp | ⟨n, ref', hp⟩
    · exact (mem_outstanding.mp hp).imp_right fun hp => List.mem_append_left _ hp
    · cases hp
  | write o q hq =>
    have hout : (.B, p) ∈ s.outstanding := by
      rcases hp with hp | ⟨n, ref', hp⟩
      · exact hp
      · rw [relayWrite_events] at hp
        split at hp
        · cases List.mem_singleton.mp hp
        · cases List.mem_singleton.mp hp
    by_cases heq : (o, q) = (.B, p)
    · cases heq
      refine .inr ?_
      rw [relayWrite_events]
      split
      · exact .inl ⟨_, List.mem_singleton.mpr rfl⟩
      · exact .inr (List.mem_singleton.mpr rfl)
    · refine .inl (mem_outstanding.mpr ?_)
      exact (mem_outstanding.mp hout).imp_right fun hp =>
        (List.mem_erase_of_ne (Ne.symm heq)).mpr hp
  | setActive b =>
    rcases hp with hp | ⟨n, ref', hp⟩
    · exact .inl hp
    · cases hp

/-! ## Runs -/

/-- No packet is on its way. -/
structure Relay.Quiet (s : Relay) : Prop where
  routing_eq : s.routing = none
  inFlight_eq : s.inFlight = []
  marks_used : ∀ i ∈ s.marks, i ∈ s.used

lemma Relay.Quiet.outstanding_eq {s : Relay} (h : s.Quiet) : s.outstanding = [] := by
  simp [Relay.outstanding, h.routing_eq, h.inFlight_eq]

lemma Relay.Quiet.inv {s : Relay} (h : s.Quiet) : RelayInv s where
  outstanding_used := by simp [h.outstanding_eq]
  marks_used := h.marks_used
  nodup := by simp [h.outstanding_eq]
  unmarked := by simp [h.outstanding_eq]

lemma relayInv_run {s₀ s : Relay} {tr : List RelayEvent} (h₀ : s₀.Quiet)
    (hrun : Step.Run relayStep s₀ tr s) : RelayInv s :=
  hrun.invariant (I := fun _ s => RelayInv s) h₀.inv fun _ _ _ _ _ h hstep => relayInv_step h hstep

lemma written_run {s₀ s : Relay} {tr : List RelayEvent} (h₀ : s₀.Quiet)
    (hrun : Step.Run relayStep s₀ tr s) {p : Packet} {b : Bool}
    (hp : RelayEvent.written .A p b ∈ tr) : PacketPolicy.allowFromA p.cls b = true := by
  induction hrun with
  | start => cases hp
  | step hrun hstep ih =>
    rcases List.mem_append.mp hp with hp | hp
    · exact ih hp
    · exact relayStep_written (relayInv_run h₀ hrun) hstep hp

lemma allMarked_run {s₀ s : Relay} {tr : List RelayEvent} (h₀ : s₀.Quiet)
    (hrun : Step.Run relayStep s₀ tr s) (hroom : ∀ e ∈ tr, e.HasRoom) :
    s.AllMarked ∧ ∀ p, RelayEvent.discarded .B p ∉ tr := by
  induction hrun with
  | start => exact ⟨by simp [Relay.AllMarked, h₀.routing_eq, h₀.inFlight_eq], by simp⟩
  | step hrun hstep ih =>
    obtain ⟨hm, hnone⟩ := ih fun e he => hroom e (List.mem_append_left _ he)
    obtain ⟨hm', hnone'⟩ := allMarked_step (relayInv_run h₀ hrun) hm hstep
      fun e he => hroom e (List.mem_append_right _ he)
    refine ⟨hm', ?_⟩
    intro p hp
    rcases List.mem_append.mp hp with hp | hp
    · exact hnone p hp
    · exact hnone' p hp

lemma outstanding_run {s₀ s : Relay} {tr : List RelayEvent}
    (hrun : Step.Run relayStep s₀ tr s) {p : Packet} {n : ℕ} {ref : Bool}
    (hp : RelayEvent.marked p n ref ∈ tr) :
    (.B, p) ∈ s.outstanding ∨ (∃ b, RelayEvent.written .B p b ∈ tr) ∨
      RelayEvent.discarded .B p ∈ tr := by
  induction hrun with
  | start => cases hp
  | @step tr s s' a es hrun hstep ih =>
    have hlater (h : (.B, p) ∈ s.outstanding ∨ ∃ n ref, RelayEvent.marked p n ref ∈ es) :
        (.B, p) ∈ s'.outstanding ∨ (∃ b, RelayEvent.written .B p b ∈ tr ++ es) ∨
          RelayEvent.discarded .B p ∈ tr ++ es := by
      rcases outstanding_step hstep h with h | ⟨b, h⟩ | h
      · exact .inl h
      · exact .inr (.inl ⟨b, List.mem_append_right _ h⟩)
      · exact .inr (.inr (List.mem_append_right _ h))
    rcases List.mem_append.mp hp with hp | hp
    · rcases ih hp with h | ⟨b, h⟩ | h
      · exact hlater (.inl h)
      · exact .inr (.inl ⟨b, List.mem_append_left _ h⟩)
      · exact .inr (.inr (List.mem_append_left _ h))
    · exact hlater (.inr ⟨n, ref, hp⟩)

/-- In every run, A's packets are written only when the policy allows it.  In a run in which
there was always room for the marks, no packet of B is discarded: each is written, or still on
its way. -/
theorem relay_run {s₀ s : Relay} {tr : List RelayEvent} (h₀ : s₀.Quiet)
    (hrun : Step.Run relayStep s₀ tr s) :
    (∀ p b, RelayEvent.written .A p b ∈ tr → PacketPolicy.allowFromA p.cls b = true) ∧
      ((∀ e ∈ tr, e.HasRoom) → ∀ p n ref, RelayEvent.marked p n ref ∈ tr →
        RelayEvent.discarded .B p ∉ tr ∧
          ((∃ b, RelayEvent.written .B p b ∈ tr) ∨ (.B, p) ∈ s.outstanding)) := by
  refine ⟨fun p b hp => written_run h₀ hrun hp, ?_⟩
  intro hroom p n ref hp
  have hnone := (allMarked_run h₀ hrun hroom).2 p
  refine ⟨hnone, ?_⟩
  rcases outstanding_run hrun hp with h | h | h
  · exact .inr h
  · exact .inl h
  · exact absurd h hnone

def movePlayer (id : ℕ) : Packet :=
  ⟨id, "net.minecraft.network.protocol.game.ServerboundMovePlayerPacket"⟩

/-- B moves, A sends a heartbeat and a movement of its own. -/
theorem relay_run_test : ∃ tr s, Step.Run relayStep {} tr s ∧
    RelayEvent.written .B (movePlayer 0) true ∈ tr ∧
    RelayEvent.discarded .A (movePlayer 2) ∈ tr ∧
    RelayEvent.discarded .B (movePlayer 0) ∉ tr ∧
    ∀ p b, RelayEvent.written .A p b ∈ tr → PacketPolicy.allowFromA p.cls b = true := by
  let acts : List RelayAction := [.mark (movePlayer 0) true, .send,
    .sendA ⟨1, "net.minecraft.network.protocol.game.ServerboundKeepAlivePacket"⟩,
    .sendA (movePlayer 2), .write .A (movePlayer 2), .write .B (movePlayer 0),
    .write .A ⟨1, "net.minecraft.network.protocol.game.ServerboundKeepAlivePacket"⟩]
  obtain ⟨r, hr, htr⟩ : ∃ r, Step.exec relayStep {} acts = some r ∧ r.2 =
      [.marked (movePlayer 0) 0 true, .discarded .A (movePlayer 2),
        .written .B (movePlayer 0) true,
        .written .A ⟨1, "net.minecraft.network.protocol.game.ServerboundKeepAlivePacket"⟩ true] :=
    ⟨_, rfl, by decide⟩
  have hrun : Step.Run relayStep {} r.2 r.1 := Step.run_of_exec hr
  obtain ⟨hA, hB⟩ := relay_run ⟨rfl, rfl, by simp⟩ hrun
  rw [htr] at hA hB
  refine ⟨_, _, htr ▸ hrun, by simp, by simp, ?_, hA⟩
  refine (hB ?_ (movePlayer 0) 0 true List.mem_cons_self).1
  simp [RelayEvent.HasRoom]

/-- The relay after `n` movements of B, none of which has been written. -/
def backlog (n : ℕ) : Relay where
  marks := List.range n
  inFlight := (List.range n).map fun i => (.B, movePlayer i)
  used := (List.range n).reverse

lemma movePlayer_allowed (i : ℕ) : PacketPolicy.allowFromB (movePlayer i).cls = true := by
  change PacketPolicy.allowFromB "net.minecraft.network.protocol.game.ServerboundMovePlayerPacket"
    = true
  decide

lemma mark_backlog (n : ℕ) : relayStep (backlog n) (.mark (movePlayer n) true) =
    some
      ({ backlog n with
          marks := markBypass (List.range n) n true
          routing := some (movePlayer n)
          used := n :: (backlog n).used },
        [.marked (movePlayer n) n true]) := by
  have hfresh : (movePlayer n).id ∉ (backlog n).used := by
    simp [backlog, movePlayer]
  rw [relayStep, if_pos ⟨rfl, movePlayer_allowed n, hfresh, rfl⟩]
  simp [backlog, movePlayer]

lemma run_backlog {n : ℕ} (hn : n ≤ 257) :
    ∃ tr, Step.Run relayStep {} tr (backlog n) ∧
      (0 < n → RelayEvent.marked (movePlayer 0) 0 true ∈ tr) := by
  induction n with
  | zero => exact ⟨[], .start, fun h => absurd h (Nat.lt_irrefl 0)⟩
  | succ n ih =>
    obtain ⟨tr, hrun, hmem⟩ := ih (by omega)
    have hmark := mark_backlog n
    rw [markBypass_of_le (by simp; omega)] at hmark
    have hsend := (hrun.step hmark).step (a := .send) rfl
    refine ⟨_, by simpa [backlog, List.range_succ] using hsend, ?_⟩
    intro _
    cases n with
    | zero => exact List.mem_append_right _ (List.mem_singleton.mpr rfl)
    | succ n => exact List.mem_append_left _ (hmem (Nat.succ_pos n))

lemma zero_notMem_markBypass {n : ℕ} (hn : 256 < n) :
    0 ∉ markBypass (List.range n) n true := by
  have htail : 0 ∉ (List.range n).tail := by
    obtain ⟨k, rfl⟩ : ∃ k, n = k + 1 := ⟨n - 1, by omega⟩
    simp [List.range_succ_eq_map]
  simp only [markBypass, Bool.not_true, Bool.false_eq_true, if_false, List.length_range, hn,
    if_true, List.mem_append, List.mem_singleton]
  rintro (h | h)
  · exact htail h
  · omega

/-- A packet of B that has lost its mark is swallowed. -/
lemma relayStep_write_unmarked {s : Relay} {p : Packet} (hp : (.B, p) ∈ s.inFlight)
    (hmark : p.id ∉ s.marks) (hdeny : PacketPolicy.allowFromA p.cls s.bActive = false) :
    relayStep s (.write .B p) = some ((relayWrite s .B p).1, [.discarded .B p]) := by
  have hevents := relayWrite_events s .B p
  rw [if_neg (by simp [hmark, hdeny])] at hevents
  rw [relayStep, if_pos hp, ← hevents]

/-- With 258 packets on their way, the mark of the first one is dropped and B's packet is
swallowed. -/
theorem relay_swallows : ∃ tr s, Step.Run relayStep {} tr s ∧
    RelayEvent.marked (movePlayer 0) 0 true ∈ tr ∧
    RelayEvent.discarded .B (movePlayer 0) ∈ tr := by
  -- the number of packets stays a variable, so that no list of that length is computed
  obtain ⟨n, hn⟩ : ∃ n, n = 257 := ⟨257, rfl⟩
  obtain ⟨tr, hrun, hmem⟩ := run_backlog (n := n) (by omega)
  have hsend := (hrun.step (mark_backlog n)).step (a := .send) rfl
  have hflight : (Origin.B, movePlayer 0) ∈ (backlog n).inFlight ++ [(.B, movePlayer n)] :=
    List.mem_append_left _ (List.mem_map.mpr ⟨0, by simp; omega, rfl⟩)
  have hmark : (movePlayer 0).id ∉ markBypass (List.range n) n true :=
    zero_notMem_markBypass (by omega)
  have hdeny := PacketPolicy.allowFromA_of_allowFromB (movePlayer_allowed 0)
  have hwrite := hsend.step (relayStep_write_unmarked hflight hmark hdeny)
  have hfirst := hmem (by omega)
  refine ⟨_, _, hwrite, ?_, List.mem_append_right _ (List.mem_singleton.mpr rfl)⟩
  exact List.mem_append_left _ (List.mem_append_left _ (List.mem_append_left _ hfirst))

end Server
end SakuraTools
