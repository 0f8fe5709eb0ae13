import SakuraTools.Server.Decoder
import SakuraTools.Server.StopServer
import Mathlib.Data.List.Count

/-!
# The references of the buffered packets

`pendingPackets` holds a global reference to each packet.  The session says which packets are
buffered; the functions that touch the buffer create these references, hand their packets to the
writer of B's channel and delete them.
-/

namespace SakuraTools
namespace Server

inductive RefEvent where
  /-- The reference is put into `pendingPackets`. -/
  | created (r : Ref)
  /-- The packet is handed to the writer of B's channel. -/
  | forwarded (r : Ref)
  | deleted (r : Ref)
deriving DecidableEq, Repr

structure Buffer where
  /-- `pendingPackets` -/
  refs : List Ref := []
  /-- What `completeLogin` has swapped out of `pendingPackets`, with the packets, and its channel.
  It holds `dispatchMutex` until the last of them is deleted. -/
  drain : Option (Channel × List (Ref × Packet)) := none
  /-- The next reference that `NewGlobalRef` returns. -/
  next : Ref := 0
deriving DecidableEq, Repr

namespace Buffer

/-! ## The functions that touch the buffer -/

def clearPendingPackets (b : Buffer) : Buffer × List RefEvent :=
  ({ b with refs := [] }, b.refs.map .deleted)

def beginSnapshot (b : Buffer) (s : Session) : Buffer × List RefEvent :=
  if s.stopping ∨ s.handoff.state ≠ .Capturing then (b, []) else b.clearPendingPackets

/-- `BServer_ForwardToB`; `ref` tells whether `NewGlobalRef` succeeds. -/
def forwardToB (b : Buffer) (s : Session) (p : Packet) (ref : Bool) : Buffer × List RefEvent :=
  if s.stopping ∨ (s.clientState ≠ .Play ∧ s.clientState ≠ .Syncing ∧
      s.clientState ≠ .AwaitReady) then (b, [])
  else if !PacketPolicy.isGamePacket p.cls then (b, [])
  else if s.clientState = .Syncing then
    if s.handoff.state ≠ .Capturing then (b, [])
    else if b.refs.length < kMaxPendingPackets ∧ ref then
      ({ b with refs := b.refs ++ [b.next], next := b.next + 1 }, [.created b.next])
    else b.clearPendingPackets
  else (b, [])

/-- `BServer_CheckLoginTimeout` -/
def checkLoginTimeout (b : Buffer) (s : Session) : Buffer × List RefEvent :=
  if !s.handoff.expired s.now ∧ s.handoff.state ≠ .Failed then (b, []) else b.clearPendingPackets

/-- The last section of `completeLogin` in a session that started with A in game, up to the loop
over the packets. -/
def finishMidSession (b : Buffer) (s : Session) (c : Channel) : Buffer × List RefEvent :=
  if s.stopping then (b, [])
  else
    let (sent, handoff) := s.handoff.snapshotSent
    if !sent then b.checkLoginTimeout { s with handoff := handoff.fail }
    else ({ b with refs := [], drain := some (c, b.refs.zip s.pending) }, [])

/-- `completeLogin` and `reconstructAndSendLoginToB`. -/
def loginStep (b : Buffer) (s : Session) (c : Channel) :
    LoginPc → Action → Buffer × List RefEvent
  | .targeted, .beginHandoff => b.clearPendingPackets
  | .captured, .writeSnapshot ok =>
    if s.stopping = false ∧ s.handoff.state = .Capturing ∧ ok then (b, [])
    else b.clearPendingPackets
  | .finishing true, .finishLogin => b.finishMidSession s c
  | _, _ => (b, [])

/-- What a step of the session does with the references. -/
def follow (b : Buffer) (s : Channels) : ChannelAction → Buffer × List RefEvent
  | .other (.relayForward ref) =>
    match s.session.dispatch with
    | some (.relay p) => b.forwardToB s.session p ref
    | _ => (b, [])
  | .other .snapshotBoundary => b.beginSnapshot s.session
  | .other .checkLoginTimeout => b.checkLoginTimeout s.session
  | .login c a =>
    match s.session.login with
    | some (_, pc) => b.loginStep s.session c pc a
    | none => (b, [])
  | .go _ .released _ => b.clearPendingPackets
  | .release => if s.stopped = .midSession then b.clearPendingPackets else (b, [])
  | _ => (b, [])

end Buffer

/-- The action needs `dispatchMutex` or the event loop of the channel. -/
def ChannelAction.waitsFor (c : Channel) : ChannelAction → Bool
  | .read c' _ _ | .inactive c' => c' == c
  | .go c' (.loaded _ _) _ => c' == c
  | .go _ _ _ | .login _ _ | .release => true
  | .other (.relayRead _) | .other (.relayForward _) | .other .snapshotBoundary
  | .other .checkLoginTimeout => true
  | .other _ | .install => false

structure PendingPackets where
  channels : Channels := { session := { starting := true } }
  buffer : Buffer := {}
  /-- `initChannel` sets the protocol of a new channel. -/
  protocols : Protocols := fun _ => .handshaking

inductive PendingAction where
  /-- The session goes on; `ok` tells whether `setProtocolState` succeeds. -/
  | channels (a : ChannelAction) (ok : Bool)
  /-- The next packet of the loop of `completeLogin`; `ref` is the result of `NewGlobalRef`, should
  the packet be buffered again. -/
  | drain (ref : Bool)
deriving DecidableEq, Repr

namespace PendingPackets

/-- The loop at the end of `completeLogin` forwards a packet and deletes its reference. -/
def drainStep (s : PendingPackets) (ref : Bool) : Option (PendingPackets × List RefEvent) :=
  match s.buffer.drain with
  | none => none
  | some (_, []) => some ({ s with buffer := { s.buffer with drain := none } }, [])
  | some (c, (r, p) :: rest) =>
    let session := s.channels.session.forwardToB p ref
    let buffer := s.buffer.forwardToB s.channels.session p ref
    let sent := session.2.any fun e => e matches .forwarded _ _
    some
      ({ s with
          channels := { s.channels with session := session.1 }
          buffer := { buffer.1 with drain := some (c, rest) } },
        buffer.2 ++ ((if sent then [.forwarded r] else []) ++ [.deleted r]))

/-- The session goes on beside the loop as far as it needs neither `dispatchMutex` nor the event
loop of the channel. -/
def step (decoder : Decoder) : Step PendingPackets PendingAction RefEvent
  | s, .channels a ok =>
    if s.buffer.drain.any fun d => a.waitsFor d.1 then none
    else if decoder.passes s.protocols a then
      (Channels.step s.channels a).map fun (channels, _) =>
        let (buffer, es) := s.buffer.follow s.channels a
        ({ channels := channels
           buffer := buffer
           protocols := switchProtocol s.protocols s.channels ok a }, es)
    else none
  | s, .drain ref => s.drainStep ref

end PendingPackets

/-! ## The life of a reference -/

/-- The event is about the reference. -/
def RefEvent.about (r : Ref) : RefEvent → Bool
  | .created r' | .forwarded r' | .deleted r' => r' == r

/-- What has happened to a reference. -/
def history (r : Ref) (tr : List RefEvent) : List RefEvent := tr.filter (RefEvent.about r)

/-- A reference is created once and deleted once; its packet is forwarded in between or not at all.
The number tells how often it is held. -/
inductive Life (r : Ref) : List RefEvent → ℕ → Prop
  | unborn : Life r [] 0
  | held : Life r [.created r] 1
  | dropped : Life r [.created r, .deleted r] 0
  | delivered : Life r [.created r, .forwarded r, .deleted r] 0

lemma Life.le_one {r : Ref} {past : List RefEvent} {n : ℕ} (h : Life r past n) : n ≤ 1 := by
  cases h <;> simp

lemma Life.of_nil {r : Ref} {n : ℕ} (h : Life r [] n) : n = 0 := by
  cases h
  rfl

lemma Life.of_one {r : Ref} {past : List RefEvent} (h : Life r past 1) : past = [.created r] := by
  cases h
  rfl

lemma history_append (r : Ref) (tr tr' : List RefEvent) :
    history r (tr ++ tr') = history r tr ++ history r tr' := List.filter_append ..

lemma history_deleted (r : Ref) (rs : List Ref) :
    history r (rs.map .deleted) = List.replicate (rs.count r) (.deleted r) := by
  induction rs with
  | nil => rfl
  | cons r' rs ih =>
    rw [history] at ih
    by_cases hr : r' = r
    · simp [history, RefEvent.about, hr, ih, List.replicate_succ]
    · simp [history, RefEvent.about, hr, ih]

namespace Buffer

variable {b b' : Buffer} {tr es : List RefEvent}

/-- The references to buffered packets, and those that the loop of `completeLogin` is to delete. -/
def held (b : Buffer) : List Ref := b.refs ++ b.drain.elim [] fun d => d.2.map Prod.fst

structure Conserved (tr : List RefEvent) (b : Buffer) : Prop where
  life : ∀ r, Life r (history r tr) (b.held.count r)
  fresh : ∀ r, b.next ≤ r → history r tr = []
  size : b.refs.length ≤ kMaxPendingPackets

/-- What a section may do to a reference. -/
inductive Turn (b b' : Buffer) (es : List RefEvent) (r : Ref) : Prop
  | stay (hes : history r es = []) (hheld : b'.held.count r = b.held.count r)
  | create (hr : r = b.next) (hnext : b.next < b'.next) (hes : history r es = [.created r])
      (hheld : b'.held.count r = b.held.count r + 1)
  | drop (hone : b.held.count r = 1) (hes : history r es = [.deleted r])
      (hheld : b'.held.count r = 0)
  | deliver (hone : b.held.count r = 1) (hes : history r es = [.forwarded r, .deleted r])
      (hheld : b'.held.count r = 0)

lemma Conserved.count_le (h : b.Conserved tr) (r : Ref) : b.held.count r ≤ 1 := (h.life r).le_one

lemma Conserved.step (h : b.Conserved tr) (hnext : b.next ≤ b'.next)
    (hsize : b'.refs.length ≤ kMaxPendingPackets) (hturn : ∀ r, Turn b b' es r) :
    b'.Conserved (tr ++ es) where
  size := hsize
  life r := by
    have hlife := h.life r
    rw [history_append]
    rcases hturn r with ⟨hes, hheld⟩ | ⟨hr, -, hes, hheld⟩ | ⟨hone, hes, hheld⟩ | ⟨hone, hes, hheld⟩
    · rw [hes, hheld, List.append_nil]
      exact hlife
    · rw [h.fresh r (Nat.le_of_eq hr.symm)] at hlife ⊢
      rw [hes, hheld, hlife.of_nil]
      exact .held
    · rw [hone] at hlife
      rw [hes, hheld, hlife.of_one]
      exact .dropped
    · rw [hone] at hlife
      rw [hes, hheld, hlife.of_one]
      exact .delivered
  fresh r hr := by
    have hpast := h.fresh r (Nat.le_trans hnext hr)
    have hlife := h.life r
    rw [hpast] at hlife
    have hzero := hlife.of_nil
    rw [history_append, hpast, List.nil_append]
    rcases hturn r with ⟨hes, -⟩ | ⟨rfl, hlt, -, -⟩ | ⟨hone, -, -⟩ | ⟨hone, -, -⟩
    · exact hes
    · exact absurd hr (Nat.not_le.mpr hlt)
    · omega
    · omega

lemma Conserved.nop (h : b.Conserved tr) : b.Conserved (tr ++ []) := by
  rw [List.append_nil]
  exact h

lemma Conserved.clear (h : b.Conserved tr) :
    b.clearPendingPackets.1.Conserved (tr ++ b.clearPendingPackets.2) := by
  refine h.step (Nat.le_refl _) (Nat.zero_le _) ?_
  intro r
  have hle := h.count_le r
  have hheld : b.held.count r = b.refs.count r + b.clearPendingPackets.1.held.count r := by
    simp [held, clearPendingPackets]
  have hes : history r b.clearPendingPackets.2 =
      List.replicate (b.refs.count r) (.deleted r) := history_deleted r b.refs
  by_cases hzero : b.refs.count r = 0
  · refine .stay ?_ ?_
    · rw [hes, hzero]
      rfl
    · omega
  · have hone : b.refs.count r = 1 := by omega
    refine .drop ?_ ?_ ?_
    · omega
    · rw [hes, hone]
      rfl
    · omega

lemma Conserved.forwardToB (h : b.Conserved tr) (s : Session) (p : Packet) (ref : Bool) :
    (b.forwardToB s p ref).1.Conserved (tr ++ (b.forwardToB s p ref).2) := by
  unfold Buffer.forwardToB
  split_ifs with _ _ _ _ hroom
  · exact h.nop
  · exact h.nop
  · exact h.nop
  · refine h.step (Nat.le_succ _) ?_ ?_
    · rw [List.length_append]
      exact hroom.1
    intro r
    by_cases hr : r = b.next
    · subst hr
      refine .create rfl (Nat.lt_succ_self _) (by simp [history, RefEvent.about]) ?_
      simp only [held, List.count_append, List.count_singleton_self]
      omega
    · refine .stay (by simp [history, RefEvent.about, Ne.symm hr]) ?_
      simp [held, List.count_append, Ne.symm hr]
  · exact h.clear
  · exact h.nop

lemma Conserved.checkLoginTimeout (h : b.Conserved tr) (s : Session) :
    (b.checkLoginTimeout s).1.Conserved (tr ++ (b.checkLoginTimeout s).2) := by
  unfold Buffer.checkLoginTimeout
  split_ifs
  · exact h.nop
  · exact h.clear

lemma finishMidSession_cases (b : Buffer) (s : Session) (c : Channel) :
    (s.stopping = true ∧ b.finishMidSession s c = (b, [])) ∨
      (s.stopping = false ∧ s.handoff.state ≠ .Capturing ∧
        b.finishMidSession s c = b.clearPendingPackets) ∨
      (s.stopping = false ∧ s.handoff.state = .Capturing ∧
        b.finishMidSession s c =
          ({ b with refs := [], drain := some (c, b.refs.zip s.pending) }, [])) := by
  unfold finishMidSession
  by_cases hstop : s.stopping = true
  · exact .inl ⟨hstop, if_pos hstop⟩
  · rw [if_neg hstop]
    rw [Bool.not_eq_true] at hstop
    by_cases hcap : s.handoff.state = .Capturing
    · rw [LoginHandoff.snapshotSent_of_eq hcap]
      exact .inr (.inr ⟨hstop, hcap, rfl⟩)
    · rw [LoginHandoff.snapshotSent_of_ne hcap]
      refine .inr (.inl ⟨hstop, hcap, ?_⟩)
      simp [checkLoginTimeout]

/-- The loop takes over the references; there is no other loop. -/
lemma Conserved.finishMidSession (h : b.Conserved tr) {s : Session} (c : Channel)
    (hdrain : b.drain = none) (hlength : b.refs.length = s.pending.length) :
    (b.finishMidSession s c).1.Conserved (tr ++ (b.finishMidSession s c).2) := by
  rcases b.finishMidSession_cases s c with ⟨-, heq⟩ | ⟨-, -, heq⟩ | ⟨-, -, heq⟩
  · rw [heq]
    exact h.nop
  · rw [heq]
    exact h.clear
  · rw [heq]
    refine h.step (Nat.le_refl _) (Nat.zero_le _) fun r => .stay rfl ?_
    have hzip : (b.refs.zip s.pending).map Prod.fst = b.refs :=
      List.map_fst_zip (Nat.le_of_eq hlength)
    simp [held, hdrain, hzip]

lemma Conserved.loginStep (h : b.Conserved tr) {s : Session} (c : Channel) (pc : LoginPc)
    (a : Action) (hdrain : b.drain = none) (hlength : b.refs.length = s.pending.length) :
    (b.loginStep s c pc a).1.Conserved (tr ++ (b.loginStep s c pc a).2) := by
  unfold Buffer.loginStep
  split
  · exact h.clear
  · split
    · exact h.nop
    · exact h.clear
  · exact h.finishMidSession c hdrain hlength
  · exact h.nop

lemma Conserved.follow (h : b.Conserved tr) {s : Channels} {a : ChannelAction}
    (hwaits : b.drain.any (fun d => a.waitsFor d.1) = false)
    (hlength : b.refs.length = s.session.pending.length) :
    (b.follow s a).1.Conserved (tr ++ (b.follow s a).2) := by
  unfold Buffer.follow
  split
  · split
    · exact h.forwardToB ..
    · exact h.nop
  · unfold Buffer.beginSnapshot
    split
    · exact h.nop
    · exact h.clear
  · exact h.checkLoginTimeout _
  · split
    · refine h.loginStep _ _ _ ?_ hlength
      cases hdrain : b.drain with
      | none => rfl
      | some d => simp [hdrain, ChannelAction.waitsFor] at hwaits
    · exact h.nop
  · exact h.clear
  · split
    · exact h.clear
    · exact h.nop
  · exact h.nop

lemma forwardToB_drain (b : Buffer) (s : Session) (p : Packet) (ref : Bool) :
    (b.forwardToB s p ref).1.drain = b.drain := by
  unfold forwardToB
  split_ifs <;> rfl

/-- Only the event loop of a login starts the loop over the packets. -/
lemma follow_drain (b : Buffer) (s : Channels) {a : ChannelAction}
    (ha : ∀ c a', a ≠ .login c a') : (b.follow s a).1.drain = b.drain := by
  unfold follow
  split
  · split
    · exact b.forwardToB_drain ..
    · rfl
  · unfold beginSnapshot
    split <;> rfl
  · unfold checkLoginTimeout
    split <;> rfl
  · exact absurd rfl (ha _ _)
  · rfl
  · split <;> rfl
  · rfl

/-- The loop deletes the reference whose packet it has handed to the writer, or not. -/
lemma Conserved.pop (h : b.Conserved tr) {c : Channel} {r : Ref} {p : Packet}
    {rest : List (Ref × Packet)} (hdrain : b.drain = some (c, (r, p) :: rest)) (sent : Bool) :
    Conserved (tr ++ ((if sent then [.forwarded r] else []) ++ [.deleted r]))
      { b with drain := some (c, rest) } := by
  refine h.step (Nat.le_refl _) h.size ?_
  intro r'
  have hle := h.count_le r'
  have hheld : b.held = b.refs ++ r :: rest.map Prod.fst := by simp [held, hdrain]
  have hheld' : ({ b with drain := some (c, rest) } : Buffer).held =
      b.refs ++ rest.map Prod.fst := by simp [held]
  by_cases hr : r = r'
  · subst hr
    rw [hheld, List.count_append, List.count_cons_self] at hle
    have hone : b.held.count r = 1 := by
      rw [hheld, List.count_append, List.count_cons_self]
      omega
    have hzero : ({ b with drain := some (c, rest) } : Buffer).held.count r = 0 := by
      rw [hheld', List.count_append]
      omega
    cases sent with
    | false => exact .drop hone (by simp [history, RefEvent.about]) hzero
    | true => exact .deliver hone (by simp [history, RefEvent.about]) hzero
  · refine .stay ?_ ?_
    · cases sent <;> simp [history, RefEvent.about, hr]
    · rw [hheld, hheld', List.count_append, List.count_append, List.count_cons_of_ne hr]

/-! ## The references follow the session -/

lemma forwardToB_length {s : Session} (h : b.refs.length = s.pending.length) (p : Packet)
    (ref : Bool) :
    (b.forwardToB s p ref).1.refs.length = (s.forwardToB p ref).1.pending.length := by
  unfold forwardToB Session.forwardToB
  rw [h]
  split_ifs
  · exact h
  · exact h
  · exact h
  · simp [h]
  · rfl
  · split <;> exact h

lemma checkLoginTimeout_length {s : Session} (h : b.refs.length = s.pending.length) :
    (b.checkLoginTimeout s).1.refs.length = s.checkLoginTimeout.1.pending.length := by
  unfold checkLoginTimeout Session.checkLoginTimeout
  split_ifs
  · exact h
  · rfl

/-- The last section of `completeLogin` leaves nothing in the buffer, unless the session stops. -/
lemma pending_finishMidSession {s : Session} {c : Channel} (howner : s.clientChannel = some c)
    (hstop : s.stopping = false) : (s.finishMidSession c).1.pending = [] := by
  unfold Session.finishMidSession
  rw [if_neg (by simp [hstop])]
  by_cases hcap : s.handoff.state = .Capturing
  · rw [LoginHandoff.snapshotSent_of_eq hcap]
    have hall := Session.forwardAll_of_open (c := c)
      (s := { s with
        handoff := { s.handoff with state := .AwaitingAck }
        clientState := .AwaitReady
        pending := [] }) hstop rfl howner s.pending
    simp [hall]
  · rw [LoginHandoff.snapshotSent_of_ne hcap]
    simp [Session.checkLoginTimeout]

lemma finishMidSession_length {s : Session} {c : Channel} (howner : s.clientChannel = some c)
    (h : b.refs.length = s.pending.length) :
    (b.finishMidSession s c).1.refs.length =
      (({ s with login := none } : Session).finishMidSession c).1.pending.length := by
  rcases b.finishMidSession_cases s c with ⟨hstop, heq⟩ | ⟨hstop, -, heq⟩ | ⟨hstop, -, heq⟩
  · rw [heq, Session.finishMidSession, if_pos hstop]
    exact h
  all_goals
    rw [heq, pending_finishMidSession (s := { s with login := none }) howner hstop]
    rfl

lemma loginStep_length {s s' : Session} {c : Channel} {pc : LoginPc} {a : Action}
    {ses : List Event} (howner : s.clientChannel = some c)
    (h : b.refs.length = s.pending.length) (hstep : s.loginStep c pc a = some (s', ses)) :
    (b.loginStep s c pc a).1.refs.length = s'.pending.length := by
  unfold Session.loginStep at hstep
  split at hstep
  case h_4 =>
    split at hstep
    · cases hstep
      rfl
    · cases hstep
  case h_11 =>
    split at hstep
    · cases hstep
    · split at hstep
      · rename_i hok
        cases hstep
        rw [loginStep, if_pos hok]
        exact h
      · rename_i hok
        cases hstep
        rw [loginStep, if_neg hok]
        rfl
  case h_14 =>
    split at hstep
    · have hlength := finishMidSession_length howner h
      rw [Option.some.inj hstep] at hlength
      exact hlength
    · cases hstep
  case h_16 => cases hstep
  -- the other steps leave the buffer alone
  all_goals
    unfold loginStep
    first
    | cases hstep; exact h
    | split at hstep <;> cases hstep <;> exact h

/-- An action that takes no lock has no part in the references. -/
lemma follow_of_apart {s : Channels} {a : Action} (ha : a.IsOther = true)
    (hlocks : a.locks = false) : b.follow s (.other a) = (b, []) := by
  cases a with
  | relayRead | relayForward | snapshotBoundary | checkLoginTimeout => cases hlocks
  | runTask | snapshotCheck | snapshotCapture | snapshotPublish | connectA | disconnectA
    | captureLive | startNotConnected | requestStop | tick => rfl
  | _ => cases ha

/-- A's threads and the controller; what needs no lock takes none. -/
lemma other_length {s : Channels} {a : Action} {σ : Session} {ses : List Event}
    (h : b.refs.length = s.session.pending.length) (ha : a.IsOther = true)
    (hstep : Session.step s.session a = some (σ, ses)) :
    (b.follow s (.other a)).1.refs.length = σ.pending.length ∧
      ∀ c, ChannelAction.waitsFor c (.other a) = false → σ.dispatch = s.session.dispatch := by
  cases Session.otherMove_of_step ha hstep with
  | apart hlocks hapart =>
    rw [follow_of_apart ha hlocks, hapart.pending]
    exact ⟨h, fun _ _ => hapart.dispatch⟩
  | dispatch p => exact ⟨h, by simp [ChannelAction.waitsFor]⟩
  | forward p ref hheld =>
    rw [follow, hheld]
    exact ⟨forwardToB_length h p ref, by simp [ChannelAction.waitsFor]⟩
  | refuse render _ hrefuse =>
    rw [follow, beginSnapshot, if_pos hrefuse]
    exact ⟨h, by simp [ChannelAction.waitsFor]⟩
  | boundary j _ hbegin =>
    rw [follow, beginSnapshot, if_neg hbegin]
    exact ⟨rfl, by simp [ChannelAction.waitsFor]⟩
  | timeout => exact ⟨checkLoginTimeout_length h, by simp [ChannelAction.waitsFor]⟩

lemma go_length {s s' : Channels} {c : Channel} {k : Callback} {ref : Bool} {ses : List Event}
    (h : b.refs.length = s.session.pending.length) (hstep : s.go c ref k = some (s', ses)) :
    (b.follow s (.go c k ref)).1.refs.length = s'.session.pending.length := by
  cases k with
  | loaded m state =>
    have hpending := (s.handle_buffer c state ref m).1
    rw [Option.some.inj hstep] at hpending
    rw [hpending]
    exact h
  | owned hello m state =>
    simp only [Channels.go, Channels.handleOwned] at hstep
    split at hstep
    · cases hstep
      exact h
    · split at hstep
      · obtain ⟨hpending, -⟩ := s.session.handleClientPacket_buffers c m
        cases hstep
        exact h.trans (congrArg List.length hpending).symm
      · cases hstep
  | inactive =>
    simp only [Channels.go, Channels.handleInactive] at hstep
    split at hstep
    · cases hstep
    · split at hstep <;> cases hstep <;> exact h
  | released =>
    cases hstep
    rfl
  | closing =>
    obtain ⟨⟨σ, es'⟩, hclose, heq⟩ := Option.map_eq_some_iff.mp hstep
    obtain ⟨-, -, -, -, hpending, -, -⟩ := Session.closeStep_owner hclose
    simp only [Prod.mk.injEq] at heq
    obtain ⟨rfl, -⟩ := heq
    have hlength := h.trans (congrArg List.length hpending).symm
    split
    · exact hlength
    · exact hlength

/-- The references follow the buffer of the session in every step. -/
lemma follow_length {s s' : Channels} {a : ChannelAction} {ses : List Event} (ho : s.Owned)
    (h : b.refs.length = s.session.pending.length) (hstep : Channels.step s a = some (s', ses)) :
    (b.follow s a).1.refs.length = s'.session.pending.length := by
  cases Channels.step_cases hstep with
  | ignoreRead | read | ignoreInactive | inactive | install => exact h
  | go _ hgo => exact go_length h hgo
  | login hlogin hlog =>
    rw [follow, hlogin]
    exact loginStep_length (ho.login _ _ hlogin) h hlog
  | other ha hother => exact (other_length h ha hother).1
  | release hrelease =>
    simp only [Channels.release] at hrelease
    split at hrelease
    · rename_i hno
      split at hrelease
      · cases hrelease
        simpa [follow, hno] using h
      · cases hrelease
    · rename_i hclient
      cases hrelease
      simpa [follow, hclient] using h
    · rename_i htarget
      cases hrelease
      simpa [follow, htarget] using h
    · rename_i hmid
      split at hrelease
      · cases hrelease
        rw [follow, if_pos hmid]
        rfl
      · cases hrelease
    · cases hrelease

end Buffer

/-! ## Runs -/

/-- Writing a packet to B, with `dispatchMutex` held by the loop of `completeLogin`. -/
lemma Session.keeps_forwardToB {s : Session} (hfree : s.dispatch = none) (p : Packet)
    (ref : Bool) : Keeps s (s.forwardToB p ref).1 (s.forwardToB p ref).2 :=
  .of_free (s.forwardToB_owner p ref).1 hfree
    (not_routed_of_section (by simp) (s.forwardToB_section p ref))

lemma Session.forwardToB_dispatch (s : Session) (p : Packet) (ref : Bool) :
    (s.forwardToB p ref).1.dispatch = s.dispatch := by
  rcases s.forwardToB_cases p ref with heq | ⟨c, heq⟩ | ⟨-, -, heq | heq⟩
  all_goals rw [heq]

namespace PendingPackets

variable {s s' : PendingPackets} {tr es : List RefEvent}

/-- The loop runs with `dispatchMutex` held, and `StopBServer` waits for it. -/
def Guarded (b : Buffer) (s : Channels) : Prop :=
  b.drain ≠ none → s.session.dispatch = none ∧ s.stopped = .no

structure Sound (tr : List RefEvent) (s : PendingPackets) : Prop where
  owned : s.channels.Owned
  halted : s.channels.Halted
  conserved : s.buffer.Conserved tr
  follows : s.buffer.refs.length = s.channels.session.pending.length
  guarded : Guarded s.buffer s.channels
  buffering : s.channels.Buffering
  decoded : s.channels.Decoded s.protocols

lemma guarded_of_eq {b b' : Buffer} {t t' : Channels} (h : Guarded b t)
    (hdrain : b'.drain = b.drain) (hdispatch : t'.session.dispatch = t.session.dispatch)
    (hstopped : t'.stopped = t.stopped) : Guarded b' t' := by
  intro hne
  rw [hdrain] at hne
  rw [hdispatch, hstopped]
  exact h hne

lemma guarded_loginStep {b : Buffer} {t : Channels} {c : Channel} {pc : LoginPc} {a : Action}
    {σ : Session} {ses : List Event} (howner : t.session.clientChannel = some c)
    (hno : t.stopped = .no) (hdrain : b.drain = none)
    (hstep : t.session.loginStep c pc a = some (σ, ses)) :
    Guarded (b.loginStep t.session c pc a).1 { t with session := σ } := by
  intro hne
  refine ⟨?_, hno⟩
  unfold Buffer.loginStep at hne
  split at hne
  · exact absurd hdrain hne
  · split at hne
    · exact absurd hdrain hne
    · exact absurd hdrain hne
  · simp only [Session.loginStep] at hstep
    split at hstep
    · rename_i hfree
      have hdispatch :
          (({ t.session with login := none } : Session).finishMidSession c).1.dispatch = none := by
        rcases Session.finishMidSession_cases (s := { t.session with login := none }) howner with
          heq | ⟨-, heq⟩ | ⟨-, -, heq⟩
        all_goals
          rw [heq]
          exact hfree
      rw [Option.some.inj hstep] at hdispatch
      exact hdispatch
    · cases hstep
  · exact absurd hdrain hne

lemma guarded_follow {b : Buffer} {t t' : Channels} {a : ChannelAction} {ses : List Event}
    (h : Guarded b t) (hlength : b.refs.length = t.session.pending.length) (ho : t.Owned)
    (hh : t.Halted)
    (hwaits : b.drain.any (fun d => a.waitsFor d.1) = false)
    (hstep : Channels.step t a = some (t', ses)) : Guarded (b.follow t a).1 t' := by
  have hidle (hwait : ∀ c, a.waitsFor c = true) : b.drain = none := by
    cases hdrain : b.drain with
    | none => rfl
    | some d => simp [hdrain, hwait] at hwaits
  cases Channels.step_cases hstep with
  | ignoreRead | read | ignoreInactive | inactive => exact guarded_of_eq h rfl rfl rfl
  | @go c k ref _ _ _ hgo =>
    cases k with
    | loaded m state =>
      have hdispatch := (t.handle_buffer c state ref m).2
      rw [Option.some.inj hgo] at hdispatch
      exact guarded_of_eq h rfl hdispatch (Channels.go_stopped hgo)
    | owned | inactive | released | closing =>
      intro hne
      exact absurd (hidle fun _ => rfl) hne
  | login hlogin hlog =>
    rw [Buffer.follow, hlogin]
    exact guarded_loginStep (ho.login _ _ hlogin) (hh.no_of_login hlogin) (hidle fun _ => rfl) hlog
  | other ha hother =>
    intro hne
    rw [Buffer.follow_drain _ _ (by simp)] at hne
    obtain ⟨d, hd⟩ := Option.ne_none_iff_exists'.mp hne
    rw [hd, Option.any_some] at hwaits
    rw [(Buffer.other_length hlength ha hother).2 d.1 hwaits]
    exact h hne
  | release =>
    intro hne
    rw [Buffer.follow_drain _ _ (by simp)] at hne
    exact absurd (hidle fun _ => rfl) hne
  | install hstopped =>
    intro hne
    cases hstopped.symm.trans (h hne).2

lemma Sound.start : Sound [] {} where
  owned := .start
  halted := .start
  conserved := ⟨fun _ => .unborn, fun _ _ => rfl, Nat.zero_le _⟩
  follows := rfl
  guarded h := absurd rfl h
  buffering := .start
  decoded := .start rfl rfl

/-- The session goes on. -/
lemma Sound.channels (h : s.Sound tr) (decoder : Decoder) {a : ChannelAction} {ok : Bool}
    {t : Channels} {ses : List Event} (hpasses : decoder.passes s.protocols a = true)
    (hwaits : s.buffer.drain.any (fun d => a.waitsFor d.1) = false)
    (hstep : Channels.step s.channels a = some (t, ses)) :
    Sound (tr ++ (s.buffer.follow s.channels a).2)
      ⟨t, (s.buffer.follow s.channels a).1, switchProtocol s.protocols s.channels ok a⟩ where
  owned := (Channels.step_oneOwner h.owned hstep).1
  halted := h.halted.step hstep
  conserved := h.conserved.follow hwaits h.follows
  follows := Buffer.follow_length h.owned h.follows hstep
  guarded := guarded_follow h.guarded h.follows h.owned h.halted hwaits hstep
  buffering := h.buffering.step h.owned h.halted hstep h.decoded.unannounced
  decoded := h.decoded.step h.owned decoder hpasses hstep

/-- The loop of `completeLogin` goes on. -/
lemma Sound.drain (h : s.Sound tr) {ref : Bool} (hstep : s.drainStep ref = some (s', es)) :
    Sound (tr ++ es) s' := by
  unfold drainStep at hstep
  split at hstep
  · cases hstep
  · rename_i c hdrain
    cases hstep
    rw [List.append_nil]
    refine ⟨h.owned, h.halted, ⟨?_, h.conserved.fresh, h.conserved.size⟩, h.follows,
      fun hne => absurd rfl hne, h.buffering, h.decoded⟩
    intro r
    have hlife := h.conserved.life r
    simpa [Buffer.held, hdrain] using hlife
  · rename_i c r p rest hdrain
    obtain ⟨hfree, hno⟩ := h.guarded (by simp [hdrain])
    have hkeeps := Session.keeps_forwardToB hfree p ref
    obtain ⟨hchannel, hstate, hlogin⟩ := s.channels.session.forwardToB_owner p ref
    have hdrain' := (s.buffer.forwardToB_drain s.channels.session p ref).trans hdrain
    have hconserved := (h.conserved.forwardToB s.channels.session p ref).pop hdrain'
      ((s.channels.session.forwardToB p ref).2.any fun e => e matches .forwarded _ _)
    have hfits (c' : Channel) (pc : LoginPc)
        (hpc : (s.channels.session.forwardToB p ref).1.login = some (c', pc)) :
        s.channels.session.login = some (c', pc) := hlogin.symm.trans hpc
    obtain ⟨rfl, rfl⟩ := Prod.mk.inj (Option.some.inj hstep)
    refine ⟨?_, .of_running hno, ?_, Buffer.forwardToB_length h.follows p ref, ?_, ?_, ?_⟩
    · refine h.owned.keeps hkeeps ?_ fun c' pc hpc => ⟨pc, hfits c' pc hpc⟩
      rw [hstate]
      exact h.owned.state
    · rw [← List.append_assoc]
      exact hconserved
    · intro _
      exact ⟨(s.channels.session.forwardToB_dispatch p ref).trans hfree, hno⟩
    · refine h.buffering.thread h.owned hkeeps (s.channels.session.forwardToB_buffers p ref)
        (.inl hstate) (fun _ _ _ => hstate) ?_
      intro c' pc hpc
      rw [hstate, (s.channels.session.forwardToB_flags p ref).1]
      exact h.buffering.login c' pc (hfits c' pc hpc)
    · exact ⟨h.decoded.callbacks,
        h.decoded.greeted.of_eq (fun _ => id) hlogin hchannel (hstate ▸ id)⟩

lemma Sound.step (h : s.Sound tr) {decoder : Decoder} {a : PendingAction}
    (hstep : PendingPackets.step decoder s a = some (s', es)) : Sound (tr ++ es) s' := by
  cases a with
  | channels a ok =>
    obtain ⟨hwaits, hstep⟩ := Option.ite_none_left_eq_some.mp hstep
    obtain ⟨hpasses, hstep⟩ := Option.ite_none_right_eq_some.mp hstep
    obtain ⟨⟨t, ses⟩, hchannels, heq⟩ := Option.map_eq_some_iff.mp hstep
    cases heq
    rw [Bool.not_eq_true] at hwaits
    exact h.channels decoder hpasses hwaits hchannels
  | drain ref => exact h.drain hstep

/-- `dispatchMutex` is free and `StopBServer` is not releasing the session. -/
def Free (s : PendingPackets) : Prop :=
  s.channels.session.dispatch = none ∧ s.buffer.drain = none ∧ ¬ s.channels.Releasing

end PendingPackets

/-- In every run each reference that is put into `pendingPackets` is deleted once, after its packet
was forwarded once at most, or it is still held, which none is after `StopBServer`.  The buffer
keeps within its bound, and packets are buffered only while B waits in `Syncing` and the handoff
captures. -/
theorem pending_run (decoder : Decoder) {tr : List RefEvent} {s : PendingPackets}
    (hrun : Step.Run (PendingPackets.step decoder) {} tr s) :
    (∀ r, Life r (history r tr) (s.buffer.held.count r)) ∧
      (s.channels.stopped = .yes → s.buffer.held = []) ∧
      s.buffer.refs.length ≤ kMaxPendingPackets ∧
      (s.Free → s.buffer.refs ≠ [] →
        s.channels.session.clientState = .Syncing ∧
          s.channels.session.handoff.state = .Capturing) := by
  have hsound : s.Sound tr := by
    refine hrun.invariant (I := fun tr s => s.Sound tr) .start ?_
    intro tr s a s' es hs hstep
    exact hs.step hstep
  refine ⟨hsound.conserved.life, ?_, hsound.conserved.size, ?_⟩
  · intro hyes
    have hrefs : s.buffer.refs = [] := by
      rw [← List.length_eq_zero_iff, hsound.follows, hsound.halted.empty hyes]
      rfl
    have hdrain : s.buffer.drain = none := by
      by_contra hne
      cases hyes.symm.trans (hsound.guarded hne).2
    simp [Buffer.held, hrefs, hdrain]
  · rintro ⟨hfree, -, hreleasing⟩ hne
    have hpending : s.channels.session.pending ≠ [] := by
      intro hnil
      have hfollows := hsound.follows
      rw [hnil] at hfollows
      exact hne (List.length_eq_zero_iff.mp hfollows)
    rcases hsound.buffering.buffered hpending with hsync | ⟨pc, hpc⟩ | hstop
    · exact hsync
    · simp [hfree] at hpc
    · exact absurd hstop hreleasing

/-- The protocol that a packet belongs to. -/
def Received.protocol : Received → ConnectionProtocol
  | .intention _ => .handshaking
  | .statusRequest | .pingRequest => .status
  | .other true _ => .login
  | .other false _ => .play

/-- A packet is found in its own protocol only. -/
def minecraftDecoder : Decoder where
  decodes p m := p == m.protocol
  intention p status h := beq_iff_eq.mp h
  hello p m h := by
    rw [beq_iff_eq.mp h]
    simp [Received.protocol]

/-- B logs in with A in game, and a packet of A's server comes while the world is captured. -/
def bufferActions : List ChannelAction :=
  [.other (.connectA 0), .other (.captureLive 0)] ++ intentionActions 1 .AwaitHandshake ++
    [.read 1 (.other true helloPacket) true,
      .go 1 (.loaded (.other true helloPacket) .AwaitLogin) true,
      .go 1 (.owned true helloPacket .AwaitLogin) true, .login 1 .readMidSession,
      .login 1 (.takeTarget true), .login 1 .beginHandoff,
      .other (.relayRead ⟨0, "net.minecraft.network.protocol.game.ClientboundBlockUpdatePacket"⟩),
      .other (.relayForward true)]

theorem pending_run_test : ∃ s, Step.Run (PendingPackets.step minecraftDecoder) {} [.created 0] s ∧
    s.buffer.refs = [0] ∧ s.channels.session.clientState = .Syncing ∧
      s.channels.session.handoff.state = .Capturing := by
  have hexec : (Step.exec (PendingPackets.step minecraftDecoder) {}
      (bufferActions.map (.channels · true))).map (fun r =>
        (r.2, r.1.buffer, r.1.channels.session.dispatch, r.1.channels.stopped)) =
          some ([.created 0], { refs := [0], next := 1 }, none, .no) := by decide
  obtain ⟨⟨s, tr⟩, hs, heq⟩ := Option.map_eq_some_iff.mp hexec
  simp only [Prod.mk.injEq] at heq
  obtain ⟨rfl, hbuffer, hfree, hno⟩ := heq
  have hrun := Step.run_of_exec hs
  have hrefs : s.buffer.refs = [0] := by rw [hbuffer]
  refine ⟨s, hrun, hrefs, (pending_run minecraftDecoder hrun).2.2.2 ⟨hfree, ?_, ?_⟩ ?_⟩
  · rw [hbuffer]
  · exact fun hreleasing => hreleasing.1 hno
  · rw [hrefs]
    decide

end Server
end SakuraTools
