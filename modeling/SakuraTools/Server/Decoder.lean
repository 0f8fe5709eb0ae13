import SakuraTools.Server.Buffering
import Mathlib.Logic.Function.Basic

/-!
# What a channel can receive

What Minecraft's decoder makes of the bytes of a channel depends on the protocol that
`setProtocolState` has given the channel.  `initChannel` sets it to `HANDSHAKING`, and nothing sets
it back: a channel that has told the name of its player announces no other login.
-/

namespace SakuraTools
namespace Server

inductive ConnectionProtocol where
  | handshaking
  | status
  | login
  | play
deriving DecidableEq, Repr

/-- Which packets the decoder finds in which protocol.  The intention is a packet of `HANDSHAKING`,
and the one that tells the name of the player is not. -/
structure Decoder where
  decodes : ConnectionProtocol → Received → Bool
  intention : ∀ p status, decodes p (.intention status) = true → p = .handshaking
  hello : ∀ p m, decodes p (.other true m) = true → p ≠ .handshaking

abbrev Protocols := Channel → ConnectionProtocol

/-- What a channel reads has come through the decoder. -/
def Decoder.passes (d : Decoder) (p : Protocols) : ChannelAction → Bool
  | .read c m _ => d.decodes (p c) m
  | _ => true

/-- `setProtocolState`, which can fail and leave the protocol as it is. -/
def setProtocolState (p : Protocols) (c : Channel) (next : ConnectionProtocol) (ok : Bool) :
    Protocols :=
  if ok then Function.update p c next else p

/-- The protocol that a step of the session is to set: the intention of a channel sets it, and so
does the beginning of `completeLogin`. -/
def Channels.switches (s : Channels) : ChannelAction → Option (Channel × ConnectionProtocol)
  | .go c (.loaded (.intention status) _) _ => some (c, if status then .status else .login)
  | .login c _ =>
    match s.session.login with
    | some (_, .greeted) => some (c, .play)
    | _ => none
  | _ => none

/-- The protocols after a step of the session. -/
def switchProtocol (p : Protocols) (s : Channels) (ok : Bool) (a : ChannelAction) : Protocols :=
  match s.switches a with
  | some (c, next) => setProtocolState p c next ok
  | none => p

/-! ## The protocols change in one direction -/

section Protocol

variable {p : Protocols} {s : Channels} {a : ChannelAction} {ok : Bool} {d : Channel}

/-- A channel switches its own protocol, and not back to `HANDSHAKING`. -/
lemma Channels.switches_cases {c : Channel} {next : ConnectionProtocol}
    (h : s.switches a = some (c, next)) : a.channel = some c ∧ next ≠ .handshaking := by
  unfold switches at h
  split at h
  · cases h
    refine ⟨rfl, ?_⟩
    split <;> simp
  · split at h
    · cases h
      exact ⟨rfl, by simp⟩
    · cases h
  · cases h

lemma setProtocolState_cases (p : Protocols) (c : Channel) (next : ConnectionProtocol) (ok : Bool)
    (d : Channel) : setProtocolState p c next ok d = p d ∨
      d = c ∧ setProtocolState p c next ok d = next := by
  unfold setProtocolState
  split
  · by_cases hdc : d = c
    · rw [hdc, Function.update_self]
      exact .inr ⟨rfl, rfl⟩
    · exact .inl (Function.update_of_ne hdc next p)
  · exact .inl rfl

lemma switchProtocol_cases (p : Protocols) (s : Channels) (ok : Bool) (a : ChannelAction)
    (d : Channel) : switchProtocol p s ok a d = p d ∨
      a.channel = some d ∧ switchProtocol p s ok a d ≠ .handshaking := by
  cases hswitches : s.switches a with
  | none => exact .inl (by rw [switchProtocol, hswitches])
  | some x =>
    obtain ⟨hchannel, hnext⟩ := Channels.switches_cases hswitches
    rw [switchProtocol, hswitches]
    rcases setProtocolState_cases p x.1 x.2 ok d with hsame | ⟨rfl, hset⟩
    · exact .inl hsame
    · exact .inr ⟨hchannel, hset.trans_ne hnext⟩

lemma switchProtocol_of_ne (h : a.channel ≠ some d) : switchProtocol p s ok a d = p d :=
  (switchProtocol_cases p s ok a d).resolve_right fun hset => h hset.1

/-- A channel that has left `HANDSHAKING` does not get back. -/
lemma switchProtocol_left (h : p d ≠ .handshaking) :
    switchProtocol p s ok a d ≠ .handshaking := by
  rcases switchProtocol_cases p s ok a d with hsame | ⟨-, hset⟩
  · rw [hsame]
    exact h
  · exact hset

end Protocol

/-! ## What the protocols say of the session -/

/-- What a callback has received was decoded in the protocol that its channel still has, or has
left. -/
def Callback.Decoded (p : ConnectionProtocol) : Callback → Prop
  | .loaded (.intention _) _ => p = .handshaking
  | .loaded (.other true _) _ | .owned true _ _ => p ≠ .handshaking
  | _ => True

/-- The channel that logs in has left `HANDSHAKING`, and so has the owner of a session in
`Syncing`. -/
structure Session.Greeted (p : Protocols) (s : Session) : Prop where
  login : ∀ c pc, s.login = some (c, pc) → p c ≠ .handshaking
  syncing : ∀ c, s.clientChannel = some c → s.clientState = .Syncing → p c ≠ .handshaking

namespace Session.Greeted

variable {p p' : Protocols} {s s' : Session}

lemma of_eq (h : s.Greeted p) (hleft : ∀ c, p c ≠ .handshaking → p' c ≠ .handshaking)
    (hlogin : s'.login = s.login) (hchannel : s'.clientChannel = s.clientChannel)
    (hstate : s'.clientState = .Syncing → s.clientState = .Syncing) : s'.Greeted p' where
  login c pc hpc := hleft c (h.login c pc (hlogin ▸ hpc))
  syncing c hc hsync := hleft c (h.syncing c (hchannel ▸ hc) (hstate hsync))

/-- The owner has left `HANDSHAKING`, and no other channel logs in. -/
lemma of_owner {c : Channel} (hgreeted : p c ≠ .handshaking) (howner : s.clientChannel = some c)
    (hlogin : ∀ d pc, s.login = some (d, pc) → d = c) : s.Greeted p where
  login d pc hpc := by
    rw [hlogin d pc hpc]
    exact hgreeted
  syncing d hd _ := by
    rw [howner] at hd
    cases hd
    exact hgreeted

end Session.Greeted

namespace Channels

variable {p : Protocols} {s s' : Channels} {es : List Event}

/-- The callbacks, the login and the owner of the session have the protocols that they must. -/
structure Decoded (p : Protocols) (s : Channels) : Prop where
  callbacks : ∀ x ∈ s.callbacks, x.2.Decoded (p x.1)
  greeted : s.session.Greeted p

/-- No owner of a session in `Syncing` announces a login. -/
lemma Decoded.unannounced (h : s.Decoded p) : s.Unannounced := by
  intro c state hc howner hsync
  exact h.greeted.syncing c howner hsync (h.callbacks _ hc)

lemma Decoded.start {session : Session} (hlogin : session.login = none)
    (howner : session.clientChannel = none) : Decoded p { session := session } where
  callbacks := by simp
  greeted := ⟨by simp [hlogin], by simp [howner]⟩

lemma Decoded.finish (h : s.Decoded p) {p' : Protocols} {c : Channel} {σ : Session}
    (hsame : ∀ d, d ≠ c → p' d = p d) (hσ : σ.Greeted p') : (s.finish c σ).Decoded p' where
  callbacks x hx := by
    rw [mem_finish] at hx
    rw [hsame x.1 hx.2]
    exact h.callbacks x hx.1
  greeted := hσ

lemma Decoded.goto (h : s.Decoded p) {c : Channel} {k : Callback} {σ : Session}
    (hk : k.Decoded (p c)) (hσ : σ.Greeted p) : (s.goto c k σ).Decoded p where
  callbacks x hx := by
    rw [mem_goto] at hx
    rcases hx with rfl | hx
    · exact hk
    · exact h.callbacks x hx.1
  greeted := hσ

/-- A callback begins with a packet that the decoder has found. -/
lemma Decoded.read (h : s.Decoded p) (d : Decoder) {c : Channel} {m : Received}
    (hm : d.decodes (p c) m = true) :
    (s.goto c (.loaded m s.session.clientState) s.session).Decoded p := by
  refine h.goto ?_ h.greeted
  cases m with
  | intention status => exact d.intention _ _ hm
  | statusRequest | pingRequest => trivial
  | other hello m =>
    cases hello with
    | true => exact d.hello _ _ hm
    | false => trivial

/-- The intention of a channel. -/
lemma Decoded.intention (h : s.Decoded p) {p' : Protocols}
    (hleft : ∀ c, p c ≠ .handshaking → p' c ≠ .handshaking) (c : Channel) :
    (s.session.intention c).1.Greeted p' := by
  unfold Session.intention
  split
  · exact ⟨fun d pc hpc => hleft d (h.greeted.login d pc hpc), by simp⟩
  · exact h.greeted.of_eq hleft rfl rfl id

lemma Decoded.handle (h : s.Decoded p) {c : Channel} {m : Received} {state : ClientState}
    {ref ok : Bool} (hc : (c, .loaded m state) ∈ s.callbacks) :
    (s.handle c state ref m).1.Decoded
      (switchProtocol p s ok (.go c (.loaded m state) ref)) := by
  have hsame (d : Channel) (hd : d ≠ c) :
      switchProtocol p s ok (.go c (.loaded m state) ref) d = p d :=
    switchProtocol_of_ne fun heq => hd (Option.some.inj heq).symm
  have hleft (d : Channel) : p d ≠ .handshaking →
      switchProtocol p s ok (.go c (.loaded m state) ref) d ≠ .handshaking := switchProtocol_left
  have hreturn := h.finish hsame (h.greeted.of_eq hleft rfl rfl id)
  cases m with
  | statusRequest | pingRequest => exact hreturn
  | intention status =>
    cases status with
    | true => exact hreturn
    | false =>
      simp only [Channels.handle]
      split
      · exact hreturn
      · exact h.finish hsame (h.intention hleft c)
  | other hello m =>
    simp only [Channels.handle]
    split
    · refine h.goto ?_ h.greeted
      have hdecoded := h.callbacks _ hc
      cases hello with
      | true => exact hdecoded
      | false => trivial
    · exact hreturn

lemma Decoded.handleOwned (h : s.Decoded p) (ho : s.Owned) {c : Channel} {hello : Bool}
    {m : ClientPacket} {state : ClientState} (hc : (c, .owned hello m state) ∈ s.callbacks)
    (hstep : s.handleOwned c hello m state = some (s', es)) : s'.Decoded p := by
  simp only [Channels.handleOwned] at hstep
  split at hstep
  · rename_i hhello
    cases hstep
    have hgreeted : p c ≠ .handshaking := by
      have hdecoded := h.callbacks _ hc
      rw [hhello.2] at hdecoded
      exact hdecoded
    refine h.finish (fun _ _ => rfl) (.of_owner hgreeted (ho.owned c hello m state hc) ?_)
    intro d pc hpc
    cases hpc
    rfl
  · split at hstep
    · obtain ⟨hchannel, -, hlogin, -⟩ := s.session.handleClientPacket_owner c m
      cases hstep
      refine h.finish (fun _ _ => rfl) (h.greeted.of_eq (fun _ => id) hlogin hchannel ?_)
      rcases s.session.handleClientPacket_cases c m with heq | ⟨-, -, heq⟩ | ⟨-, -, heq⟩ | ⟨-, heq⟩
      · rw [heq]
        exact id
      · rw [heq]
        exact id
      · rw [heq]
        simp
      · rw [heq]
        exact id
    · cases hstep

lemma Decoded.handleInactive (h : s.Decoded p) {c : Channel} {ref : Bool}
    (hstep : s.handleInactive c ref = some (s', es)) : s'.Decoded p := by
  simp only [Channels.handleInactive] at hstep
  split at hstep
  · cases hstep
  · split at hstep
    · cases hstep
      exact h.goto trivial ⟨h.greeted.login, by simp⟩
    · cases hstep
      exact h.finish (fun _ _ => rfl) h.greeted

lemma Decoded.go (h : s.Decoded p) (ho : s.Owned) {c : Channel} {k : Callback} {ref ok : Bool}
    (hc : (c, k) ∈ s.callbacks) (hstep : s.go c ref k = some (s', es)) :
    s'.Decoded (switchProtocol p s ok (.go c k ref)) := by
  cases k with
  | loaded m state =>
    have hhandle : (s.handle c state ref m).1.Decoded
        (switchProtocol p s ok (.go c (.loaded m state) ref)) := h.handle hc
    rw [Option.some.inj hstep] at hhandle
    exact hhandle
  | owned hello m state => exact h.handleOwned ho hc hstep
  | inactive => exact h.handleInactive hstep
  | released =>
    cases hstep
    exact h.goto trivial ⟨h.greeted.login, h.greeted.syncing⟩
  | closing =>
    obtain ⟨⟨σ, es'⟩, hclose, heq⟩ := Option.map_eq_some_iff.mp hstep
    obtain ⟨hchannel, hstate, hlogin, -⟩ := Session.closeStep_owner hclose
    have hσ : σ.Greeted p := h.greeted.of_eq (fun _ => id) hlogin hchannel (hstate ▸ id)
    simp only [Prod.mk.injEq] at heq
    obtain ⟨rfl, -⟩ := heq
    split
    · exact h.finish (fun _ _ => rfl) hσ
    · exact h.goto trivial hσ

/-- The login of the owner goes on, and its channel runs no other callback. -/
lemma Decoded.loginStep (h : s.Decoded p) (ho : s.Owned) {c : Channel} {pc : LoginPc} {a : Action}
    {ok : Bool} {σ : Session} (hlogin : s.session.login = some (c, pc))
    (hstep : s.session.loginStep c pc a = some (σ, es)) :
    Decoded (switchProtocol p s ok (.login c a)) { s with session := σ } where
  callbacks x hx := by
    have hne : (ChannelAction.login c a).channel ≠ some x.1 := by
      intro heq
      cases heq
      exact Session.busy_eq_false.mp (ho.idle x hx) pc hlogin
    rw [switchProtocol_of_ne hne]
    exact h.callbacks x hx
  greeted := by
    have howner := ho.login c pc hlogin
    have hkeeps := Session.loginKeeps_of_loginStep howner hstep
    refine .of_owner (switchProtocol_left (h.greeted.login c pc hlogin))
      (hkeeps.clientChannel.trans howner) ?_
    intro d pc' hpc'
    rcases hkeeps.login with hnone | ⟨pc'', hpc''⟩
    · simp [hnone] at hpc'
    · rw [hpc''] at hpc'
      cases hpc'
      rfl

lemma Decoded.release (h : s.Decoded p) (hstep : s.release = some (s', es)) : s'.Decoded p := by
  simp only [Channels.release] at hstep
  split at hstep
  · split at hstep
    · cases hstep
      exact ⟨h.callbacks, h.greeted.login, by simp⟩
    · cases hstep
  · cases hstep
    exact ⟨h.callbacks, h.greeted.login, h.greeted.syncing⟩
  · cases hstep
    exact ⟨h.callbacks, h.greeted.login, h.greeted.syncing⟩
  · split at hstep
    · cases hstep
      exact ⟨h.callbacks, h.greeted.login, h.greeted.syncing⟩
    · cases hstep
  · cases hstep

/-- Every step keeps the protocols in line with the session, if what is read has come through the
decoder. -/
lemma Decoded.step (h : s.Decoded p) (ho : s.Owned) (d : Decoder) {a : ChannelAction} {ok : Bool}
    (hpasses : d.passes p a = true) (hstep : Channels.step s a = some (s', es)) :
    s'.Decoded (switchProtocol p s ok a) := by
  cases step_cases hstep with
  | ignoreRead | ignoreInactive => exact h
  | read c m ref => exact h.read d hpasses
  | inactive c => exact h.goto trivial h.greeted
  | go hc hgo => exact h.go ho hc hgo
  | login hlogin hlog => exact h.loginStep ho hlogin hlog
  | other ha hother =>
    obtain ⟨hkeeps, hstate, hlogin⟩ := Session.keeps_of_isOther ha hother
    exact ⟨h.callbacks, h.greeted.of_eq (fun _ => id) hlogin hkeeps.clientChannel (hstate ▸ id)⟩
  | release hrelease => exact h.release hrelease
  | install => exact ⟨h.callbacks, h.greeted.login, h.greeted.syncing⟩

end Channels
end Server
end SakuraTools
