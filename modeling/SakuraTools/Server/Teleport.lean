import Mathlib.Data.List.Count
import SakuraTools.Server.Relay
import SakuraTools.Server.Window

/-!
# Who confirms a teleport

A's server moves the player with a teleport and waits for its confirmation.  A receives every
teleport and B those that are forwarded to it, after the one of the snapshot; each client
confirms what it receives.  A's confirmations pass the filter of `Native_RelayWrite`, B's the end
of `handleClientPacket`.
-/

namespace SakuraTools
namespace Server

def playerPosition : String :=
  "net.minecraft.network.protocol.game.ClientboundPlayerPositionPacket"

/-- `BServer_IsBActive` -/
def Session.isBActive (s : Session) : Bool := !s.stopping && s.clientState == .Play

/-- The packet that A's network thread is about to forward. -/
def Session.held (s : Session) : List Packet :=
  match s.dispatch with
  | some (.relay p) => [p]
  | _ => []

/-- The packets that are on their way to B. -/
def Session.waiting (s : Session) : List Packet := s.pending ++ s.held

/-- The proxy with its two clients. -/
structure Teleports where
  session : Session := {}
  /-- The ids of the teleports of A's server. -/
  issued : List ℤ := []
  /-- The teleports that A has not confirmed yet. -/
  inboxA : List ℤ := []
  /-- The teleports that B has not confirmed yet, with the channel that received them. -/
  inboxB : List (Channel × ℤ) := []

inductive TeleportAction where
  /-- A step of the proxy, other than for a confirmation of B. -/
  | proxy (a : Action)
  | confirmA (id : ℤ)
  /-- `read` tells whether the JNI call for the id succeeds. -/
  | confirmB (c : Channel) (id : ℤ) (read : Bool)
deriving DecidableEq, Repr

inductive TeleportEvent where
  /-- A confirmation is let through to A's server. -/
  | through (o : Origin) (id : ℤ)
  /-- B gets control. -/
  | handover
  /-- B loses control, or the session is about to stop. -/
  | ended
deriving DecidableEq, Repr

/-- A packet with which B confirms a teleport. -/
def Action.isConfirmation : Action → Bool
  | .packet _ m => m.cls == acceptTeleportation
  | _ => false

/-- The packets that are written to B, in order. -/
def writtenToB (es : List Event) : List Packet :=
  es.filterMap fun
    | .forwarded _ p => some p
    | _ => none

/-- The confirmations that `handleClientPacket` passes to `routeToA`. -/
def confirmations (es : List Event) : List TeleportEvent :=
  es.filterMap fun
    | .routed m => if m.cls = acceptTeleportation then m.ack.map (.through .B) else none
    | _ => none

/-- What a step does to the control of B. -/
def control (s s' : Session) : List TeleportEvent :=
  if (s.clientState = .Play ∧ s'.clientState ≠ .Play) ∨
      (s.stopping = false ∧ s'.stopping = true) then [.ended]
  else if s.clientState ≠ .Play ∧ s'.clientState = .Play then [.handover]
  else []

/-- The position in the snapshot that `CaptureWorldSnapshot` has written to B. -/
def snapshotPosition (s s' : Session) : List (Channel × ℤ) :=
  match s.login, s'.login with
  | some (c, .captured), some (_, .introduced) => [(c, LoginHandoff.teleportId)]
  | _, _ => []

namespace Teleports

-- `getId` of a position packet: the id of the teleport
variable (getId : Packet → ℤ)

/-- The ids of the teleports among the packets. -/
def positions (ps : List Packet) : List ℤ :=
  (ps.filter fun p => p.cls = playerPosition).map getId

/-- The teleports that B receives from A's server. -/
def mirrored (es : List Event) : List (Channel × ℤ) :=
  es.filterMap fun
    | .forwarded c p => if p.cls = playerPosition then some (c, getId p) else none
    | _ => none

/-- A step of the proxy, with what the clients receive in it. -/
def proxy (t : Teleports) (a : Action) : Option (Teleports × List TeleportEvent) :=
  (Session.step t.session a).map fun (s, es) =>
    ({ session := s
       issued := t.issued ++ positions getId (dispatched es)
       inboxA := t.inboxA ++ positions getId (dispatched es)
       inboxB := t.inboxB ++ (snapshotPosition t.session s ++ mirrored getId es) },
      confirmations es ++ control t.session s)

/-- One step.  A confirms its teleports in any order, B in the order in which it received
them. -/
def step : Step Teleports TeleportAction TeleportEvent
  | t, .proxy a => if a.isConfirmation then none else t.proxy getId a
  | t, .confirmA id =>
    if id ∈ t.inboxA then
      some
        ({ t with inboxA := t.inboxA.erase id },
          if PacketPolicy.allowFromA acceptTeleportation t.session.isBActive then
            [.through .A id]
          else [])
    else none
  | t, .confirmB c id read =>
    if t.inboxB.find? (fun x => x.1 == c) = some (c, id) then
      ({ t with inboxB := t.inboxB.erase (c, id) } : Teleports).proxy getId
        (.packet c ⟨acceptTeleportation, if read then some id else none⟩)
    else none

end Teleports

/-! ## The packets on their way to B -/

lemma writtenToB_map (c : Channel) (ps : List Packet) :
    writtenToB (ps.map (.forwarded c)) = ps := by
  induction ps with
  | nil => rfl
  | cons p ps ih => exact congrArg (p :: ·) ih

section Written

variable {s s' : Session} {es : List Event} (f : Packet → Bool)

/-- Nothing is written, and nothing new is on its way. -/
lemma countP_written_of_kept (hes : writtenToB es = [])
    (hpending : s'.pending = s.pending ∨ s'.pending = [])
    (hdispatch : s'.dispatch = s.dispatch ∨ s'.held = []) :
    (writtenToB es).countP f + s'.waiting.countP f ≤
      s.waiting.countP f + (dispatched es).countP f := by
  have hp : s'.pending.countP f ≤ s.pending.countP f := by
    rcases hpending with h | h
    · rw [h]
    · simp [h]
  have hr : s'.held.countP f ≤ s.held.countP f := by
    rcases hdispatch with h | h
    · rw [Session.held, Session.held, h]
    · simp [h]
  simp only [hes, Session.waiting, List.countP_append, List.countP_nil]
  omega

lemma countP_written_forward {p : Packet} (hdispatch : s.dispatch = some (.relay p)) (ref : Bool) :
    (writtenToB (s.forwardToB p ref).2).countP f +
        ({ (s.forwardToB p ref).1 with dispatch := none } : Session).waiting.countP f ≤
      s.waiting.countP f + (dispatched (s.forwardToB p ref).2).countP f := by
  have hheld : s.held = [p] := by
    rw [Session.held, hdispatch]
  rcases s.forwardToB_cases p ref with heq | ⟨c, heq⟩ | ⟨-, -, heq | heq⟩
  · rw [heq]
    exact countP_written_of_kept f rfl (.inl rfl) (.inr rfl)
  · rw [heq]
    simp only [Session.waiting, hheld, List.countP_append]
    show [p].countP f + (s.pending.countP f + 0) ≤ s.pending.countP f + [p].countP f + 0
    omega
  · rw [heq]
    simp only [Session.waiting, hheld, List.countP_append]
    show 0 + (s.pending.countP f + [p].countP f + 0) ≤
      s.pending.countP f + [p].countP f + 0
    omega
  · rw [heq]
    exact countP_written_of_kept f rfl (.inr rfl) (.inr rfl)

lemma countP_written_finish {c : Channel} (howner : s.clientChannel = some c) :
    (writtenToB (({ s with login := none } : Session).finishMidSession c).2).countP f +
        (({ s with login := none } : Session).finishMidSession c).1.waiting.countP f ≤
      s.waiting.countP f +
        (dispatched (({ s with login := none } : Session).finishMidSession c).2).countP f := by
  rcases Session.finishMidSession_cases (s := { s with login := none }) howner with
    heq | ⟨-, heq⟩ | ⟨-, -, heq⟩
  · rw [heq]
    exact countP_written_of_kept f rfl (.inl rfl) (.inl rfl)
  · rw [heq]
    exact countP_written_of_kept f rfl (.inr rfl) (.inl rfl)
  · rw [heq]
    -- the packets of the buffer are written, as far as they are game packets
    have hgame : (gamePackets s.pending).countP f ≤ s.pending.countP f :=
      List.filter_sublist.countP_le
    have hwritten : writtenToB (.sent c :: .enter c .AwaitReady ::
        (gamePackets s.pending).map (Event.forwarded c)) = gamePackets s.pending :=
      writtenToB_map c _
    simp only [Session.waiting, hwritten, List.countP_append]
    show (gamePackets s.pending).countP f + (0 + s.held.countP f) ≤ _
    omega

/-- A packet of A's server is written to B at most once: a step writes what was on its way, and
only what it dispatches is added. -/
lemma countP_written_step {ph : Phase} {a : Action} (ht : ph.Tracks s)
    (hstep : Session.step s a = some (s', es)) :
    (writtenToB es).countP f + s'.waiting.countP f ≤
      s.waiting.countP f + (dispatched es).countP f := by
  cases Session.step_cases hstep with
  | dispatch p hfree =>
    have hheld : s.held = [] := by
      rw [Session.held, hfree]
    simp only [Session.waiting, hheld, List.countP_append]
    show 0 + (s.pending.countP f + [p].countP f) ≤ s.pending.countP f + 0 + [p].countP f
    omega
  | forward p ref hdispatch => exact countP_written_forward f hdispatch ref
  | finishMid c hlogin => exact countP_written_finish f (ht.owner c _ hlogin)
  | packet c m =>
    rcases s.handleClientPacket_cases c m with heq | ⟨-, -, heq⟩ | ⟨-, -, heq⟩ | ⟨-, heq⟩
    all_goals
      rw [heq]
      exact countP_written_of_kept f rfl (.inl rfl) (.inl rfl)
  | timeout =>
    rcases s.checkLoginTimeout_cases with heq | ⟨-, heq⟩
    · rw [heq]
      exact countP_written_of_kept f rfl (.inl rfl) (.inl rfl)
    · rw [heq]
      exact countP_written_of_kept f rfl (.inr rfl) (.inl rfl)
  | boundary | «begin» | writeFailed => exact countP_written_of_kept f rfl (.inr rfl) (.inl rfl)
  | inactive c => exact countP_written_of_kept f rfl (.inr rfl) (.inr rfl)
  | closing pc dispatch live target hheld hdispatch =>
    refine countP_written_of_kept f rfl (.inl rfl) (.inr ?_)
    simp only [Session.held]
  | _ => exact countP_written_of_kept f rfl (.inl rfl) (.inl rfl)

end Written

/-! ## The confirmations of B -/

lemma routed_notMem_loginStep {s s' : Session} {c : Channel} {pc : LoginPc} {a : Action}
    {es : List Event} (h : s.loginStep c pc a = some (s', es)) (m : ClientPacket) :
    .routed m ∉ es := by
  cases Session.loginStep_cases h with
  | finishMid => exact (Session.finishMidSession_section _ c).events _
  | _ => simp

/-- Only B's packets are passed to `routeToA`. -/
lemma packet_of_routed {s s' : Session} {a : Action} {es : List Event} {m : ClientPacket}
    (h : Session.step s a = some (s', es)) (hm : .routed m ∈ es) : ∃ c, a = .packet c m := by
  cases a with
  | packet c m' =>
    simp only [Session.step, Option.ite_none_left_eq_some] at h
    obtain ⟨-, h⟩ := h
    split at h
    · rcases s.handleClientPacket_cases c m' with heq | ⟨-, -, heq⟩ | ⟨-, -, heq⟩ | ⟨-, heq⟩
      all_goals
        rw [heq] at h
        cases h
        simp at hm
      exact ⟨c, by rw [hm]⟩
    · cases h
      cases hm
  | relayForward ref =>
    simp only [Session.step, Session.relayForward] at h
    split at h
    · rename_i p _
      have hes : (s.forwardToB p ref).2 = es := congrArg Prod.snd (Option.some.inj h)
      rw [← hes] at hm
      exact False.elim ((s.forwardToB_section p ref).events _ hm)
    · cases h
  | checkLoginTimeout =>
    simp only [Session.step, Option.ite_none_right_eq_some] at h
    have hes : s.checkLoginTimeout.2 = es := congrArg Prod.snd (Option.some.inj h.2)
    rw [← hes] at hm
    exact False.elim (s.checkLoginTimeout_section.events _ hm)
  | abortLogin | readMidSession | takeTarget | beginHandoff | listJob | execute | waitDone
    | waitTimeout | cancelJob | removeJob | writeSnapshot | closeFailed | readMidSessionAgain
    | finishLogin =>
    simp only [Session.step] at h
    split at h
    · exact absurd hm (routed_notMem_loginStep h m)
    · cases h
  | _ =>
    simp only [Session.step, Session.relayRead, Session.runTask, Session.snapshotCheck,
      Session.snapshotBoundary, Session.snapshotCapture, Session.snapshotPublish,
      Session.intention, Session.hello, Session.inactive, Session.closeStep] at h
    repeat' split at h
    all_goals
      cases h
    all_goals
      simp at hm

/-- B's confirmation of a teleport of A's server is passed on once B is in control, and the
session does not change. -/
lemma confirmations_step {s s' : Session} {a : Action} {es : List Event}
    (h : Session.step s a = some (s', es)) : confirmations es = [] ∨
      ∃ c id, a = .packet c ⟨acceptTeleportation, some id⟩ ∧ id ≠ LoginHandoff.teleportId ∧
        s.clientState = .Play ∧ s' = s ∧ confirmations es = [.through .B id] := by
  by_cases hrouted : ∃ m, .routed m ∈ es
  · obtain ⟨⟨cls, ack⟩, hm⟩ := hrouted
    obtain ⟨c, rfl⟩ := packet_of_routed h hm
    simp only [Session.step, Option.ite_none_left_eq_some] at h
    obtain ⟨-, h⟩ := h
    split at h
    · rcases s.handleClientPacket_cases c ⟨cls, ack⟩ with
        heq | ⟨hack, ⟨hplay, -⟩, heq⟩ | ⟨-, -, heq⟩ | ⟨-, heq⟩
      all_goals
        rw [heq] at h
        cases h
      · cases hm
      · by_cases hcls : cls = acceptTeleportation
        · cases ack with
          | none => exact .inl (by simp [confirmations])
          | some id =>
            subst hcls
            have hid : id ≠ LoginHandoff.teleportId := fun heq => hack rfl (congrArg some heq)
            exact .inr ⟨c, id, rfl, hid, hplay, rfl, by simp [confirmations]⟩
        · exact .inl (by simp [confirmations, hcls])
      · simp at hm
      · simp at hm
    · cases h
      cases hm
  · left
    refine List.filterMap_eq_nil_iff.mpr ?_
    intro e he
    cases e with
    | routed m => exact absurd ⟨m, he⟩ hrouted
    | _ => rfl

/-! ## One step -/

namespace Teleports

variable {getId : Packet → ℤ}

lemma allowFromA_acceptTeleportation (b : Bool) :
    PacketPolicy.allowFromA acceptTeleportation b = !b := by
  cases b <;> decide

/-- The packet is a teleport with this id. -/
def Carries (getId : Packet → ℤ) (id : ℤ) (p : Packet) : Bool :=
  p.cls = playerPosition ∧ getId p = id

lemma count_positions (ps : List Packet) (id : ℤ) :
    (positions getId ps).count id = ps.countP (Carries getId id) := by
  rw [positions, List.count, List.countP_map, List.countP_filter]
  congr 1
  funext p
  by_cases hid : getId p = id
  · simp [Carries, hid]
  · simp [Carries, hid]

lemma count_mirrored (es : List Event) (id : ℤ) :
    ((mirrored getId es).map Prod.snd).count id = (writtenToB es).countP (Carries getId id) := by
  induction es with
  | nil => rfl
  | cons e es ih =>
    cases e with
    | forwarded c p =>
      by_cases hcls : p.cls = playerPosition
      · by_cases hid : getId p = id
        · simpa [mirrored, writtenToB, Carries, hcls, hid] using ih
        · simpa [mirrored, writtenToB, Carries, hcls, hid] using ih
      · simpa [mirrored, writtenToB, Carries, hcls] using ih
    | _ => exact ih

/-- The position in the snapshot is not one of A's server. -/
lemma count_snapshotPosition (s s' : Session) {id : ℤ} (hid : id ≠ LoginHandoff.teleportId) :
    ((snapshotPosition s s').map Prod.snd).count id = 0 := by
  unfold snapshotPosition
  split
  · simp [hid.symm]
  · rfl

/-- The confirmations that B still owes, if everything on the way is written to it. -/
def due (getId : Packet → ℤ) (id : ℤ) (t : Teleports) : ℕ :=
  (t.inboxB.map Prod.snd).count id + t.session.waiting.countP (Carries getId id)

lemma control_cases (s s' : Session) :
    control s s' = [.ended] ∨
      ((s.stopping = false → s'.stopping = false) ∧
        ((control s s' = [.handover] ∧ s.clientState ≠ .Play ∧ s'.clientState = .Play) ∨
          (control s s' = [] ∧ (s'.clientState = .Play ↔ s.clientState = .Play)))) := by
  unfold control
  split_ifs with hended hhandover
  · exact .inl rfl
  · rw [not_or, not_and, not_and, Bool.not_eq_true] at hended
    exact .inr ⟨hended.2, .inl ⟨rfl, hhandover⟩⟩
  · rw [not_or, not_and, not_not, not_and, Bool.not_eq_true] at hended
    rw [not_and, not_imp_not] at hhandover
    exact .inr ⟨hended.2, .inr ⟨rfl, hhandover, hended.1⟩⟩

lemma through_notMem_control (s s' : Session) (o : Origin) (id : ℤ) :
    .through o id ∉ control s s' := by
  unfold control
  split_ifs
  all_goals simp

/-- What a step of the proxy lets through, and what it does to the inboxes. -/
lemma proxy_cases {t t' : Teleports} {a : Action} {es : List TeleportEvent} {ph : Phase}
    (ht : ph.Tracks t.session) (h : t.proxy getId a = some (t', es)) :
    (∃ ph : Phase, ph.Tracks t'.session) ∧
      (∀ id, t'.inboxA.count id + t.issued.count id = t.inboxA.count id + t'.issued.count id) ∧
      (∀ id, id ≠ LoginHandoff.teleportId →
        due getId id t' + t.issued.count id ≤ due getId id t + t'.issued.count id) ∧
      (es = control t.session t'.session ∨
        ∃ c id, a = .packet c ⟨acceptTeleportation, some id⟩ ∧ id ≠ LoginHandoff.teleportId ∧
          t.session.clientState = .Play ∧ t'.session = t.session ∧ es = [.through .B id]) := by
  obtain ⟨⟨s, evs⟩, hstep, heq⟩ := Option.map_eq_some_iff.mp h
  cases heq
  refine ⟨⟨_, (ht.step hstep).1⟩, ?_, ?_, ?_⟩
  · intro id
    simp only [List.count_append]
    omega
  · intro id hid
    have hwritten := countP_written_step (Carries getId id) ht hstep
    simp only [due, List.map_append, List.count_append, count_snapshotPosition _ _ hid,
      count_mirrored, count_positions]
    omega
  · rcases confirmations_step hstep with hnone | ⟨c, id, rfl, hid, hplay, rfl, hes⟩
    · exact .inl (by simp [hnone])
    · exact .inr ⟨c, id, rfl, hid, hplay, rfl, by simp [hes, control]⟩

/-! ## Runs -/

/-- A teleport is confirmed by a client as often as the client received it, and no more than
A's server issued it. -/
structure Counted (getId : Packet → ℤ) (tr : List TeleportEvent) (t : Teleports) : Prop where
  tracks : ∃ ph : Phase, ph.Tracks t.session
  fromA : ∀ id, tr.count (.through .A id) + t.inboxA.count id ≤ t.issued.count id
  fromB : ∀ id, id ≠ LoginHandoff.teleportId →
    tr.count (.through .B id) + due getId id t ≤ t.issued.count id
  notLocal : .through .B LoginHandoff.teleportId ∉ tr

/-- As long as the session of B lasts, A's confirmations come before the handover and B's after
it. -/
def Parted (tr : List TeleportEvent) (s : Session) : Prop :=
  .ended ∉ tr → s.stopping = false ∧
    ((s.clientState ≠ .Play ∧ ∀ id, .through .B id ∉ tr) ∨
      (s.clientState = .Play ∧ ∃ t₁ t₂, tr = t₁ ++ .handover :: t₂ ∧
        (∀ id, .through .B id ∉ t₁) ∧ ∀ id, .through .A id ∉ t₂))

variable {tr : List TeleportEvent} {t t' : Teleports}

/-- A step that lets nothing through. -/
lemma Counted.silent {es : List TeleportEvent} (h : Counted getId tr t)
    (hes : ∀ o id, .through o id ∉ es) (ht' : ∃ ph : Phase, ph.Tracks t'.session)
    (hA : ∀ id, t'.inboxA.count id + t.issued.count id ≤ t.inboxA.count id + t'.issued.count id)
    (hB : ∀ id, id ≠ LoginHandoff.teleportId →
      due getId id t' + t.issued.count id ≤ due getId id t + t'.issued.count id) :
    Counted getId (tr ++ es) t' := by
  have hcount (o : Origin) (id : ℤ) :
      (tr ++ es).count (.through o id) = tr.count (.through o id) := by
    rw [List.count_append, List.count_eq_zero_of_not_mem (hes o id), Nat.add_zero]
  refine ⟨ht', ?_, ?_, ?_⟩
  · intro id
    have hfrom := h.fromA id
    have hin := hA id
    rw [hcount]
    omega
  · intro id hid
    have hfrom := h.fromB id hid
    have hin := hB id hid
    rw [hcount]
    omega
  · rw [List.mem_append, not_or]
    exact ⟨h.notLocal, hes _ _⟩

lemma count_append_through (tr : List TeleportEvent) (o : Origin) (id id' : ℤ) :
    (tr ++ [TeleportEvent.through o id]).count (.through o id') =
      tr.count (.through o id') + [id].count id' := by
  simp [List.count_append, List.count_singleton]

lemma count_append_through_of_ne (tr : List TeleportEvent) {o o' : Origin} (ho : o ≠ o')
    (id id' : ℤ) : (tr ++ [TeleportEvent.through o id]).count (.through o' id') =
      tr.count (.through o' id') := by
  simp [List.count_append, ho]

lemma count_cons_eq (id : ℤ) (ids : List ℤ) (id' : ℤ) :
    (id :: ids).count id' = ids.count id' + [id].count id' := by
  simp [List.count_cons]

/-- B has received what it confirms. -/
lemma due_erase {c : Channel} {id : ℤ}
    (h : t.inboxB.find? (fun x => x.1 == c) = some (c, id)) (id' : ℤ) :
    due getId id' { t with inboxB := t.inboxB.erase (c, id) } + [id].count id' =
      due getId id' t := by
  have hperm := List.perm_cons_erase (List.mem_of_find?_eq_some h)
  have hcount : (t.inboxB.map Prod.snd).count id' =
      ((t.inboxB.erase (c, id)).map Prod.snd).count id' + [id].count id' := by
    rw [(hperm.map Prod.snd).count_eq id']
    exact count_cons_eq id _ id'
  simp only [due]
  omega

lemma counted_step {a : TeleportAction} {es : List TeleportEvent} (h : Counted getId tr t)
    (hstep : step getId t a = some (t', es)) : Counted getId (tr ++ es) t' := by
  obtain ⟨ph, ht⟩ := h.tracks
  cases a with
  | proxy a =>
    simp only [step, Option.ite_none_left_eq_some] at hstep
    obtain ⟨hno, hstep⟩ := hstep
    obtain ⟨ht', hA, hB, rfl | ⟨c, id, rfl, -⟩⟩ := proxy_cases ht hstep
    · exact h.silent (through_notMem_control _ _) ht' (fun id => Nat.le_of_eq (hA id)) hB
    · exact absurd (by simp [Action.isConfirmation]) hno
  | confirmA id =>
    simp only [step, Option.ite_none_right_eq_some, Option.some.injEq] at hstep
    obtain ⟨hid, heq⟩ := hstep
    have hcount (id' : ℤ) :
        (t.inboxA.erase id).count id' + [id].count id' = t.inboxA.count id' := by
      rw [(List.perm_cons_erase hid).count_eq id']
      exact (count_cons_eq id _ id').symm
    split_ifs at heq
    · cases heq
      refine ⟨h.tracks, ?_, ?_, by simpa using h.notLocal⟩
      · intro id'
        have hfrom := h.fromA id'
        have hin := hcount id'
        rw [count_append_through]
        show _ + (t.inboxA.erase id).count id' ≤ t.issued.count id'
        omega
      · intro id' hid'
        rw [count_append_through_of_ne tr (by simp)]
        exact h.fromB id' hid'
    · cases heq
      refine h.silent (by simp) h.tracks ?_ fun _ _ => le_refl _
      intro id'
      have hle := hcount id'
      show (t.inboxA.erase id).count id' + t.issued.count id' ≤
        t.inboxA.count id' + t.issued.count id'
      omega
  | confirmB c id read =>
    simp only [step, Option.ite_none_right_eq_some] at hstep
    obtain ⟨hfind, hstep⟩ := hstep
    have hdue : ∀ id', due getId id' _ + _ = due getId id' t := due_erase hfind
    have ht₀ : ph.Tracks ({ t with inboxB := t.inboxB.erase (c, id) } : Teleports).session := ht
    obtain ⟨ht', hA, hB, rfl | ⟨c', id', heq, hid, hplay, hsame, rfl⟩⟩ := proxy_cases ht₀ hstep
    · refine h.silent (through_notMem_control _ _) ht' (fun id => Nat.le_of_eq (hA id)) ?_
      intro id' hid'
      have hin : _ + t.issued.count id' ≤ _ := hB id' hid'
      have hless := hdue id'
      omega
    · have hread : id = id' := by
        cases read with
        | true =>
          simp only [if_true, Action.packet.injEq, ClientPacket.mk.injEq, Option.some.injEq] at heq
          exact heq.2.2
        | false => cases heq
      subst hread
      refine ⟨ht', ?_, ?_, ?_⟩
      · intro id'
        have hfrom := h.fromA id'
        have hin : _ + t.issued.count id' = t.inboxA.count id' + _ := hA id'
        rw [count_append_through_of_ne tr (by simp)]
        omega
      · intro id' hid'
        have hfrom := h.fromB id' hid'
        have hin : _ + t.issued.count id' ≤ _ := hB id' hid'
        have hless := hdue id'
        rw [count_append_through]
        omega
      · rw [List.mem_append, List.mem_singleton, not_or]
        exact ⟨h.notLocal, by simp [hid.symm]⟩

lemma Parted.control {s : Session} (h : Parted tr s) (s' : Session) :
    Parted (tr ++ SakuraTools.Server.control s s') s' := by
  intro hended
  rw [List.mem_append, not_or] at hended
  obtain ⟨hstop, hpart⟩ := h hended.1
  rcases control_cases s s' with hc | ⟨hstop', ⟨hc, hbefore, hafter⟩ | ⟨hc, hsame⟩⟩
  · exact absurd (by simp [hc]) hended.2
  · refine ⟨hstop' hstop, .inr ⟨hafter, tr, [], by rw [hc], ?_, by simp⟩⟩
    rcases hpart with ⟨-, hnone⟩ | ⟨hplay, -⟩
    · exact hnone
    · exact absurd hplay hbefore
  · rw [hc, List.append_nil, Ne, hsame]
    exact ⟨hstop' hstop, hpart⟩

lemma parted_step {a : TeleportAction} {es : List TeleportEvent} {ph : Phase}
    (ht : ph.Tracks t.session) (h : Parted tr t.session) (hstep : step getId t a = some (t', es)) :
    Parted (tr ++ es) t'.session := by
  cases a with
  | proxy a =>
    simp only [step, Option.ite_none_left_eq_some] at hstep
    obtain ⟨hno, hstep⟩ := hstep
    obtain ⟨-, -, -, rfl | ⟨c, id, rfl, -⟩⟩ := proxy_cases ht hstep
    · exact h.control t'.session
    · exact absurd (by simp [Action.isConfirmation]) hno
  | confirmA id =>
    simp only [step, Option.ite_none_right_eq_some, Option.some.injEq] at hstep
    obtain ⟨hid, heq⟩ := hstep
    rw [allowFromA_acceptTeleportation] at heq
    split_ifs at heq with hactive
    · cases heq
      intro hended
      rw [List.mem_append, not_or] at hended
      obtain ⟨hstop, hpart⟩ := h hended.1
      refine ⟨hstop, ?_⟩
      rcases hpart with ⟨hbefore, hnone⟩ | ⟨hplay, -⟩
      · exact .inl ⟨hbefore, by simpa using hnone⟩
      -- in control, B is active
      · simp [Session.isBActive, hstop, hplay] at hactive
    · cases heq
      rw [List.append_nil]
      exact h
  | confirmB c id read =>
    simp only [step, Option.ite_none_right_eq_some] at hstep
    obtain ⟨-, hstep⟩ := hstep
    have ht₀ : ph.Tracks ({ t with inboxB := t.inboxB.erase (c, id) } : Teleports).session := ht
    obtain ⟨-, -, -, rfl | ⟨c', id', -, -, hplay, hsame, rfl⟩⟩ := proxy_cases ht₀ hstep
    · exact h.control t'.session
    · rw [hsame]
      intro hended
      rw [List.mem_append, not_or] at hended
      obtain ⟨hstop, hpart⟩ := h hended.1
      refine ⟨hstop, .inr ⟨hplay, ?_⟩⟩
      rcases hpart with ⟨hbefore, -⟩ | ⟨-, t₁, t₂, rfl, hB, hA⟩
      · exact absurd hplay hbefore
      · refine ⟨t₁, t₂ ++ [.through .B id'], by simp, hB, ?_⟩
        intro id
        simpa using hA id

/-- B is not there yet, and A owes confirmations only for teleports of its server. -/
structure Start (t : Teleports) : Prop where
  session : t.session.Start
  inboxA : ∀ id, t.inboxA.count id ≤ t.issued.count id
  inboxB : t.inboxB = []

lemma counted_start (h : Start t) : Counted getId [] t where
  tracks := ⟨_, Phase.tracks_start h.session⟩
  fromA := by simpa using h.inboxA
  fromB := by simp [due, h.inboxB, Session.waiting, Session.held, h.session.pending,
    h.session.dispatch]
  notLocal := List.not_mem_nil

lemma parted_start (h : Start t) : Parted [] t.session := by
  intro _
  refine ⟨h.session.stopping, .inl ⟨?_, by simp⟩⟩
  simp [h.session.clientState]

/-- A teleport is confirmed to A's server at most once by each client.  In a session of B that
does not end, both clients' confirmations are let through only when A's comes before the handover
and B's after it. -/
theorem teleport_run {t₀ : Teleports} (h₀ : t₀.Start) (hrun : Step.Run (step getId) t₀ tr t)
    (id : ℤ) :
    tr.count (.through .A id) ≤ t.issued.count id ∧
    tr.count (.through .B id) ≤ t.issued.count id ∧
    (.ended ∉ tr →
      tr.count (.through .A id) + tr.count (.through .B id) ≤ t.issued.count id ∨
        ∃ t₁ t₂, tr = t₁ ++ .handover :: t₂ ∧ .through .A id ∈ t₁ ∧ .through .B id ∈ t₂) := by
  obtain ⟨hcounted, hparted⟩ := hrun.invariant
    (I := fun tr t => Counted getId tr t ∧ Parted tr t.session)
    ⟨counted_start h₀, parted_start h₀⟩ fun tr t a t' es h hstep =>
      ⟨counted_step h.1 hstep, parted_step h.1.tracks.choose_spec h.2 hstep⟩
  have hA : tr.count (.through .A id) ≤ t.issued.count id := by
    have hfrom := hcounted.fromA id
    omega
  have hB : tr.count (.through .B id) ≤ t.issued.count id := by
    by_cases hid : id = LoginHandoff.teleportId
    · subst hid
      rw [List.count_eq_zero_of_not_mem hcounted.notLocal]
      exact Nat.zero_le _
    · have hfrom := hcounted.fromB id hid
      omega
  refine ⟨hA, hB, ?_⟩
  intro hended
  by_cases hboth : .through .A id ∈ tr ∧ .through .B id ∈ tr
  · obtain ⟨-, ⟨-, hnone⟩ | ⟨-, t₁, t₂, rfl, hnoB, hnoA⟩⟩ := hparted hended
    · exact absurd hboth.2 (hnone id)
    · right
      refine ⟨t₁, t₂, rfl, ?_, ?_⟩
      · simpa [hnoA id] using hboth.1
      · simpa [hnoB id] using hboth.2
  · left
    rcases not_and_or.mp hboth with hno | hno
    · rw [List.count_eq_zero_of_not_mem hno, Nat.zero_add]
      exact hB
    · rw [List.count_eq_zero_of_not_mem hno, Nat.add_zero]
      exact hA

/-- A teleport of A's server, whose id is the identity of the packet. -/
def teleport (id : ℕ) : Packet := ⟨id, playerPosition⟩

/-- B logs in, and a teleport is mirrored before B has confirmed its snapshot. -/
def mirrorActions (id : ℕ) : List TeleportAction :=
  (loginActions 1).dropLast.map .proxy ++
    [.proxy (.relayRead (teleport id)), .proxy (.relayForward true)]

lemma inGame_teleports : Start { session := inGame } :=
  ⟨inGame_start, fun _ => le_refl _, rfl⟩

/-- A confirms the first teleport before the handover, and B the second one after it. -/
theorem teleport_run_test : ∃ tr t, Step.Run (step fun p => p.id) { session := inGame } tr t ∧
    tr = [.through .A 7, .handover, .through .B 8] ∧
    ∀ id, tr.count (.through .A id) ≤ t.issued.count id ∧
      tr.count (.through .B id) ≤ t.issued.count id := by
  obtain ⟨t, hrun⟩ : ∃ t, Step.Run (step fun p => p.id) { session := inGame }
      [.through .A 7, .handover, .through .B 8] t :=
    Step.run_of_trace (show (Step.exec (step fun p => p.id) { session := inGame }
      (mirrorActions 7 ++ [.confirmA 7, .confirmB 1 LoginHandoff.teleportId true,
        .proxy (.relayRead (teleport 8)), .proxy (.relayForward true), .confirmB 1 7 false,
        .confirmA 8, .confirmB 1 8 true])).map Prod.snd = some _ by decide)
  refine ⟨_, t, hrun, rfl, ?_⟩
  intro id
  obtain ⟨hA, hB, -⟩ := teleport_run inGame_teleports hrun id
  exact ⟨hA, hB⟩

/-- A confirms a teleport before B is in control, and B confirms the same teleport after it. -/
theorem teleport_twice : ∃ t₀ tr t, Start t₀ ∧ Step.Run (step fun p => p.id) t₀ tr t ∧
    t.issued = [7] ∧ .ended ∉ tr ∧
    tr.count (.through .A 7) + tr.count (.through .B 7) = 2 := by
  obtain ⟨r, hr, hissued, htr⟩ : ∃ r, Step.exec (step fun p => p.id) { session := inGame }
      (mirrorActions 7 ++ [.confirmA 7, .confirmB 1 LoginHandoff.teleportId true,
        .confirmB 1 7 true]) = some r ∧ r.1.issued = [7] ∧
      r.2 = [.through .A 7, .handover, .through .B 7] := ⟨_, rfl, by decide, by decide⟩
  refine ⟨_, r.2, r.1, inGame_teleports, Step.run_of_exec hr, hissued, ?_, ?_⟩
  · simp [htr]
  · simp [htr]

end Teleports
end Server
end SakuraTools
