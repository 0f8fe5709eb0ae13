import Mathlib.Data.List.Nodup
import Mathlib.Logic.Function.Basic
import SakuraTools.Server.PlayerInfo

/-!
# B in the list of players

`sendSelfInfoToB` tells B's game of B's own player, who is not shown in the list, and
`mirrorPlayerInfoUpdateToB` then says of this player what A's server says of A.  Both hand a buffer
to the constructor of the packet, and no packet is sent if the constructor throws.  A's game and
B's game handle the packets of A's server in the same way.
-/

namespace SakuraTools
namespace Server
namespace PlayerInfo

open SakuraTools.Parser

variable {Uuid Component Name Props : Type}

/-! ## What the game does with packets -/

/-- The buffer with the methods for a profile: a name of at most 16 characters, and properties. -/
structure ProfileByteBuf (Uuid Component Name Props : Type) extends
    FriendlyByteBuf Uuid Component where
  utf : Codec Unit UInt8 Name
  gameProfileProperties : Codec Unit UInt8 Props
  /-- A number below 128 is a byte. -/
  varInt_one : varInt.write 1 = byte.write 1

/-- An entry of a packet in the game: a field that is not announced has its default. -/
structure Announced (Uuid Component Name Props : Type) extends Entry Uuid Component where
  profile : Option (Name × Props)
  listed : Bool
deriving DecidableEq

/-- A `ClientboundPlayerInfoUpdatePacket` with all that the game handles. -/
structure Announcement (Uuid Component Name Props : Type) where
  actions : UInt8
  entries : List (Announced Uuid Component Name Props)
deriving DecidableEq

/-- What `mirrorPlayerInfoUpdateToB` looks at. -/
def Announcement.update (p : Announcement Uuid Component Name Props) :
    InfoUpdate Uuid Component :=
  ⟨p.actions, p.entries.map Announced.toEntry⟩

/-- The ids of the players that a packet is about. -/
def Announcement.ids (p : Announcement Uuid Component Name Props) : List Uuid :=
  p.entries.map fun e => e.profileId

/-- A player in the game's list. -/
structure Player (Component Name Props : Type) where
  profile : Option (Name × Props)
  gameMode : Option Int32 := some 0
  listed : Bool := false
  latency : Int32 := 0
  displayName : Option Component := none
deriving DecidableEq

/-- The game's list of players. -/
abbrev PlayerList (Uuid Component Name Props : Type) := Uuid → Option (Player Component Name Props)

/-- The actions of a packet, for a player that is in the list. -/
def Player.apply (actions : UInt8) (e : Announced Uuid Component Name Props)
    (q : Player Component Name Props) : Player Component Name Props where
  profile := q.profile
  gameMode := if has actions 0x04 then e.gameMode else q.gameMode
  listed := if has actions 0x08 then e.listed else q.listed
  latency := if has actions 0x10 then e.latency else q.latency
  displayName := if has actions 0x20 then e.displayName else q.displayName

section PlayerList

variable [DecidableEq Uuid]

/-- A player is put into the list, unless there is one with this id. -/
def addPlayer (l : PlayerList Uuid Component Name Props) (e : Announced Uuid Component Name Props) :
    PlayerList Uuid Component Name Props :=
  Function.update l e.profileId (l e.profileId <|> some { profile := e.profile })

def updatePlayer (actions : UInt8) (l : PlayerList Uuid Component Name Props)
    (e : Announced Uuid Component Name Props) : PlayerList Uuid Component Name Props :=
  Function.update l e.profileId ((l e.profileId).map (Player.apply actions e))

/-- The game handles the packet: first it adds the new players. -/
def handle (l : PlayerList Uuid Component Name Props) (p : Announcement Uuid Component Name Props) :
    PlayerList Uuid Component Name Props :=
  p.entries.foldl (updatePlayer p.actions)
    (if has p.actions 0x01 then p.entries.foldl addPlayer l else l)

end PlayerList

/-- An entry with the fields that have been read, or their defaults. -/
def Fields.announced (f : Fields Component) (profileId : Uuid) (profile : Option (Name × Props)) :
    Announced Uuid Component Name Props where
  profileId := profileId
  profile := profile
  gameMode := some (f.gameMode.getD 0)
  listed := f.listed.getD false
  latency := f.latency.getD 0
  displayName := f.displayName.getD none

def readProfile (F : ProfileByteBuf Uuid Component Name Props) :
    Parser Unit UInt8 (Name × Props) := do
  let name ← F.utf.read
  let props ← F.gameProfileProperties.read
  pure (name, props)

def readAnnounced (F : ProfileByteBuf Uuid Component Name Props) (actions : UInt8) :
    Parser Unit UInt8 (Announced Uuid Component Name Props) := do
  let profileId ← F.uuid.read
  let profile ← readIf (has actions 0x01) (readProfile F)
  let fields ← readFields F.toFriendlyByteBuf actions
  pure (fields.announced profileId profile)

/-- The constructor of the packet, as far as no chat is initialised. -/
def readAnnouncement (F : ProfileByteBuf Uuid Component Name Props) :
    Parser Unit UInt8 (Announcement Uuid Component Name Props) := do
  let actions ← F.byte.read
  if has actions 0x02 then fail ()
  else
    let count ← F.varInt.read
    let entries ← times (readAnnounced F actions) count.toNatClampNeg
    pure ⟨actions, entries⟩

/-! ## The packets of the proxy -/

/-- The packet in which `captureNow` describes A's list: the players that are online, with five
actions. -/
def captureInfo (l : PlayerList Uuid Component Name Props) (online : List Uuid) :
    Announcement Uuid Component Name Props where
  actions := 0x3D
  entries := online.filterMap fun id => (l id).map fun q =>
    ⟨⟨id, q.gameMode, q.latency, q.displayName⟩, q.profile, q.listed⟩

/-- The bindings of `sendSelfInfoToB` that have been found. -/
structure SelfInfoRefs where
  minecraftCls : Bool := true
  mcGetInstanceMid : Bool := true
  mcGetProfilePropsMid : Bool := true
  friendlyBufCls : Bool := true
  friendlyBufCtor : Bool := true
  fbbWriteByteMid : Bool := true
  fbbWriteBooleanMid : Bool := true
  fbbWriteVarIntMid : Bool := true
  fbbWriteUUIDMid : Bool := true
  fbbWriteUtfMid : Bool := true
  fbbWriteGpPropsMid : Bool := true
  unpooledCls : Bool := true
  unpooledBufferMid : Bool := true
  playerInfoUpdatePacketCls : Bool := true
  playerInfoUpdatePacketBufCtor : Bool := true
deriving DecidableEq, Repr

def SelfInfoRefs.required (refs : SelfInfoRefs) : Bool :=
  refs.minecraftCls && refs.mcGetInstanceMid && refs.mcGetProfilePropsMid &&
    refs.friendlyBufCls && refs.friendlyBufCtor && refs.fbbWriteByteMid &&
    refs.fbbWriteBooleanMid && refs.fbbWriteVarIntMid && refs.fbbWriteUUIDMid &&
    refs.fbbWriteUtfMid && refs.fbbWriteGpPropsMid && refs.unpooledCls &&
    refs.unpooledBufferMid && refs.playerInfoUpdatePacketCls && refs.playerInfoUpdatePacketBufCtor

/-- The answers of the calls of `sendSelfInfoToB`: whether a call returns what it should, and
whether there is no exception after the buffer has been written. -/
structure SelfInfoAnswers where
  minecraft : Bool := true
  profileProps : Bool := true
  unpooled : Bool := true
  friendly : Bool := true
  written : Bool := true

/-- `sendSelfInfoToB`, with the buffer that it hands to the constructor of the packet.  `props` are
the properties of the profile that A's game has. -/
def sendSelfInfoToB (F : ProfileByteBuf Uuid Component Name Props) (refs : SelfInfoRefs)
    (x : SelfInfoAnswers) (offlineUuid : Uuid) (name : Name) (props : Props) :
    Option (List UInt8) :=
  if !refs.required then none
  else if !x.minecraft then none
  else if !x.profileProps then none
  else if !x.unpooled then none
  else if !x.friendly then none
  else if !x.written then none
  else
    some (F.byte.write 0x1D ++ (F.byte.write 0x01 ++ (F.uuid.write offlineUuid ++
      (F.utf.write name ++ (F.gameProfileProperties.write props ++ (F.varInt.write 0 ++
        -- keep B's profile for its skin, but show only the server's players
        (F.boolean.write false ++ F.varInt.write 0)))))))

section Forward

variable [DecidableEq Uuid]

/-- The packet that is made of a buffer reaches B, unless its constructor throws. -/
def receive (F : ProfileByteBuf Uuid Component Name Props)
    (l : PlayerList Uuid Component Name Props) (buf : Option (List UInt8)) :
    PlayerList Uuid Component Name Props :=
  match buf.map (readAnnouncement F) with
  | some (.ok (p, _)) => handle l p
  | _ => l

/-- The part of `writeClientPacket` for these packets: B gets the packet of A's server, and then
the one with B's entry. -/
def forward (F : ProfileByteBuf Uuid Component Name Props) (refs : MirrorRefs) (s : Players Uuid)
    (l : PlayerList Uuid Component Name Props)
    (r : MirrorAnswers × Announcement Uuid Component Name Props) :
    PlayerList Uuid Component Name Props :=
  receive F (handle l r.2)
    (mirrorPlayerInfoUpdateToB F.toFriendlyByteBuf refs r.1 s r.2.update)

end Forward

/-! ## The list -/

section PlayerList

variable [DecidableEq Uuid] {l : PlayerList Uuid Component Name Props}
  {p : Announcement Uuid Component Name Props} {actions : UInt8} {id : Uuid}
  {es : List (Announced Uuid Component Name Props)} {e : Announced Uuid Component Name Props}
  {q : Player Component Name Props}

lemma foldl_updatePlayer_of_not_mem (h : ∀ e ∈ es, e.profileId ≠ id) :
    es.foldl (updatePlayer actions) l id = l id := by
  induction es generalizing l with
  | nil => rfl
  | cons e es ih =>
    rw [List.foldl_cons, ih fun e' he' => h e' (List.mem_cons_of_mem e he'), updatePlayer,
      Function.update_of_ne (h e List.mem_cons_self).symm]

/-- The only entry of a player is applied. -/
lemma foldl_updatePlayer_of_mem (hnodup : (es.map fun e => e.profileId).Nodup) (he : e ∈ es)
    (hl : l e.profileId = some q) :
    es.foldl (updatePlayer actions) l e.profileId = some (q.apply actions e) := by
  induction es generalizing l with
  | nil => cases he
  | cons e' es ih =>
    rw [List.map_cons, List.nodup_cons] at hnodup
    rw [List.foldl_cons]
    rcases List.mem_cons.mp he with rfl | he
    · have hne : ∀ e' ∈ es, e'.profileId ≠ e.profileId := fun e' he' heq =>
        hnodup.1 (List.mem_map.mpr ⟨e', he', heq⟩)
      rw [foldl_updatePlayer_of_not_mem hne, updatePlayer, Function.update_self, hl]
      rfl
    · refine ih hnodup.2 he ?_
      have hne : e.profileId ≠ e'.profileId := fun heq =>
        hnodup.1 (List.mem_map.mpr ⟨e, he, heq⟩)
      rw [updatePlayer, Function.update_of_ne hne, hl]

lemma foldl_addPlayer_of_not_mem (h : ∀ e ∈ es, e.profileId ≠ id) :
    es.foldl addPlayer l id = l id := by
  induction es generalizing l with
  | nil => rfl
  | cons e es ih =>
    rw [List.foldl_cons, ih fun e' he' => h e' (List.mem_cons_of_mem e he'), addPlayer,
      Function.update_of_ne (h e List.mem_cons_self).symm]

/-- A player that is in the list is not replaced. -/
lemma foldl_addPlayer_of_some (hl : l id = some q) : es.foldl addPlayer l id = some q := by
  induction es generalizing l with
  | nil => exact hl
  | cons e es ih =>
    rw [List.foldl_cons]
    apply ih
    by_cases heq : id = e.profileId
    · subst heq
      rw [addPlayer, Function.update_self, hl]
      rfl
    · rw [addPlayer, Function.update_of_ne heq, hl]

/-- A packet does not change the players that it is not about. -/
lemma handle_of_not_mem (h : id ∉ p.ids) : handle l p id = l id := by
  have hne : ∀ e ∈ p.entries, e.profileId ≠ id := fun e he heq =>
    h (List.mem_map.mpr ⟨e, he, heq⟩)
  rw [handle, foldl_updatePlayer_of_not_mem hne]
  split
  · exact foldl_addPlayer_of_not_mem hne
  · rfl

lemma handle_of_mem (hnodup : p.ids.Nodup) (he : e ∈ p.entries) (hl : l e.profileId = some q) :
    handle l p e.profileId = some (q.apply p.actions e) := by
  refine foldl_updatePlayer_of_mem hnodup he ?_
  split
  · exact foldl_addPlayer_of_some hl
  · exact hl

omit [DecidableEq Uuid] in
lemma foldl_congr {f : PlayerList Uuid Component Name Props → Announced Uuid Component Name Props →
      PlayerList Uuid Component Name Props} (hf : ∀ l l' e, l id = l' id → f l e id = f l' e id)
    {l' : PlayerList Uuid Component Name Props} (h : l id = l' id) :
    es.foldl f l id = es.foldl f l' id := by
  induction es generalizing l l' with
  | nil => exact h
  | cons e es ih => exact ih (hf l l' e h)

/-- What becomes of a player depends on this player alone. -/
lemma handle_congr {l' : PlayerList Uuid Component Name Props} (h : l id = l' id) :
    handle l p id = handle l' p id := by
  refine foldl_congr (fun l l' e h => ?_) ?_
  · rw [updatePlayer, updatePlayer]
    by_cases he : id = e.profileId
    · subst he
      rw [Function.update_self, Function.update_self, h]
    · rw [Function.update_of_ne he, Function.update_of_ne he, h]
  · split
    · refine foldl_congr (fun l l' e h => ?_) h
      rw [addPlayer, addPlayer]
      by_cases he : id = e.profileId
      · subst he
        rw [Function.update_self, Function.update_self, h]
      · rw [Function.update_of_ne he, Function.update_of_ne he, h]
    · exact h

/-- A packet that adds players, one entry for each. -/
lemma handle_of_new (hadd : has p.actions 0x01 = true) (hnodup : p.ids.Nodup)
    (he : e ∈ p.entries) (hl : l e.profileId = none) : handle l p e.profileId =
      some (({ profile := e.profile } : Player Component Name Props).apply p.actions e) := by
  refine foldl_updatePlayer_of_mem hnodup he ?_
  rw [hadd, if_pos rfl]
  obtain ⟨before, after, hsplit⟩ := List.append_of_mem he
  rw [Announcement.ids, hsplit, List.map_append, List.map_cons, List.nodup_middle,
    List.nodup_cons, List.mem_append, not_or] at hnodup
  have hne : ∀ e' ∈ before, e'.profileId ≠ e.profileId := fun e' he' heq =>
    hnodup.1.1 (List.mem_map.mpr ⟨e', he', heq⟩)
  rw [hsplit, List.foldl_append, List.foldl_cons]
  apply foldl_addPlayer_of_some
  rw [addPlayer, Function.update_self, foldl_addPlayer_of_not_mem hne, hl]
  rfl

end PlayerList

/-! ## What the buffers are read as -/

section Buffers

variable {F : ProfileByteBuf Uuid Component Name Props} {actions : UInt8} {id : Uuid}

lemma reads_announced {f : Fields Component} {body : List UInt8}
    (hprofile : has actions 0x01 = false)
    (h : Reads (readFields F.toFriendlyByteBuf actions) body f) :
    Reads (readAnnounced F actions) (F.uuid.write id ++ body) (f.announced id none) := by
  refine (F.uuid.reads id).bind ?_
  rw [hprofile]
  exact (reads_pure none).nil_bind (h.bind_nil (reads_pure _))

lemma reads_announced_profile {f : Fields Component} {body : List UInt8} {name : Name}
    {props : Props} (hprofile : has actions 0x01 = true)
    (h : Reads (readFields F.toFriendlyByteBuf actions) body f) :
    Reads (readAnnounced F actions) (F.uuid.write id ++ (F.utf.write name ++
      (F.gameProfileProperties.write props ++ body))) (f.announced id (some (name, props))) := by
  have hread : Reads (readProfile F) (F.utf.write name ++ F.gameProfileProperties.write props)
      (name, props) :=
    (F.utf.reads name).bind ((F.gameProfileProperties.reads props).bind_nil (reads_pure _))
  rw [← List.append_assoc (F.utf.write name)]
  refine (F.uuid.reads id).bind ?_
  rw [hprofile]
  exact (hread.map some).bind (h.bind_nil (reads_pure _))

/-- A packet with one entry. -/
lemma reads_announcement {e : Announced Uuid Component Name Props} {b : List UInt8}
    (hchat : has actions 0x02 = false) (h : Reads (readAnnounced F actions) b e) :
    Reads (readAnnouncement F) (F.byte.write actions ++ (F.varInt.write 1 ++ b))
      ⟨actions, [e]⟩ := by
  refine (F.byte.reads actions).bind ?_
  rw [hchat]
  refine (F.varInt.reads 1).bind ?_
  have hone : (1 : Int32).toNatClampNeg = 1 := rfl
  rw [hone]
  have htimes : Reads (times (readAnnounced F actions) 1) b [e] :=
    h.bind_nil ((reads_pure []).bind_nil (reads_pure _))
  exact htimes.bind_nil (reads_pure _)

/-- What `sendSelfInfoToB` says. -/
def selfInfo (id : Uuid) (name : Name) (props : Props) :
    Announcement Uuid Component Name Props where
  actions := 0x1D
  entries := [Fields.announced ⟨some 0, some false, some 0, none⟩ id (some (name, props))]

lemma sendSelfInfoToB_eq {refs : SelfInfoRefs} {x : SelfInfoAnswers} {name : Name} {props : Props}
    {buf : List UInt8} (h : sendSelfInfoToB F refs x id name props = some buf) :
    buf = F.byte.write 0x1D ++ (F.varInt.write 1 ++ (F.uuid.write id ++ (F.utf.write name ++
      (F.gameProfileProperties.write props ++ (F.varInt.write 0 ++ (F.boolean.write false ++
        F.varInt.write 0)))))) := by
  unfold sendSelfInfoToB at h
  split_ifs at h
  obtain rfl := Option.some.inj h
  rw [F.varInt_one]

lemma reads_selfInfo {refs : SelfInfoRefs} {x : SelfInfoAnswers} {name : Name} {props : Props}
    {buf : List UInt8} (h : sendSelfInfoToB F refs x id name props = some buf) :
    Reads (readAnnouncement F) buf (selfInfo id name props) := by
  rw [sendSelfInfoToB_eq h]
  refine reads_announcement rfl (reads_announced_profile rfl ?_)
  exact (F.varInt.reads 0).map some |>.bind (((F.boolean.reads false).map some).bind
    (((F.varInt.reads 0).map some).bind_nil ((reads_pure none).nil_bind (reads_pure _))))

/-- What `mirrorPlayerInfoUpdateToB` says, when no field is left out. -/
lemma reads_mirrored {refs : MirrorRefs} {x : MirrorAnswers} {bits : UInt8}
    (hcomplete : Complete refs bits) (e : Entry Uuid Component) :
    Reads (readAnnouncement F) (F.byte.write (outBits bits) ++ (F.varInt.write 1 ++
      (F.uuid.write id ++ writeFields F.toFriendlyByteBuf refs x bits e)))
      ⟨outBits bits, [(writtenFields refs x bits e).announced id none]⟩ := by
  have hadd : has (outBits bits) 0x01 = false := by
    rw [outBits_eq, has, UInt8.and_assoc]
    exact decide_eq_false (not_not_intro (UInt8.and_zero (a := bits)))
  have hchat : has (outBits bits) 0x02 = false := by
    rw [outBits_eq, has, UInt8.and_assoc]
    exact decide_eq_false (not_not_intro (UInt8.and_zero (a := bits)))
  refine reads_announcement hchat (reads_announced hadd ?_)
  rw [readFields_outBits]
  exact reads_writeFields hcomplete x e

end Buffers

/-! ## B's own player -/

/-- B's player after a mirrored entry of A. -/
def Player.mirror (refs : MirrorRefs) (x : MirrorAnswers) (bits : UInt8)
    (e : Entry Uuid Component) (q : Player Component Name Props) :
    Player Component Name Props where
  profile := q.profile
  gameMode := if has bits 0x04 then some (writtenGameMode x e) else q.gameMode
  listed := if has bits 0x08 then false else q.listed
  latency := if has bits 0x10 then writtenLatency x e else q.latency
  displayName := if has bits 0x20 then writtenDisplayName refs x e else q.displayName

/-- The bindings without which a field is announced and not written. -/
def MirrorRefs.whole (refs : MirrorRefs) : Bool :=
  refs.piEntryGameModeMid && refs.gameTypeGetIdMid && refs.piEntryLatencyMid

lemma MirrorRefs.complete {refs : MirrorRefs} (h : refs.whole = true) (bits : UInt8) :
    Complete refs bits := by
  rw [MirrorRefs.whole, Bool.and_eq_true] at h
  exact ⟨fun _ => h.1, fun _ => h.2⟩

lemma Player.apply_announced (refs : MirrorRefs) (x : MirrorAnswers) (bits : UInt8)
    (e : Entry Uuid Component) (id : Uuid) (q : Player Component Name Props) :
    q.apply (outBits bits) ((writtenFields refs x bits e).announced id none) =
      q.mirror refs x bits e := by
  rw [Player.apply, has_outBits bits 0x04 rfl, has_outBits bits 0x08 rfl,
    has_outBits bits 0x10 rfl, has_outBits bits 0x20 rfl, Player.mirror, Fields.announced,
    writtenFields]
  cases has bits 0x04 <;> cases has bits 0x08 <;> cases has bits 0x10 <;> cases has bits 0x20 <;>
    rfl

section Own

variable [DecidableEq Uuid] {F : ProfileByteBuf Uuid Component Name Props} {refs : MirrorRefs}
  {s : Players Uuid} {l : PlayerList Uuid Component Name Props} {b : Uuid}
  {p : Announcement Uuid Component Name Props} {q : Player Component Name Props}

/-- A packet that is read from a buffer is handled. -/
lemma receive_of_reads {buf : List UInt8} (h : Reads (readAnnouncement F) buf p) :
    receive F l (some buf) = handle l p := by
  simp only [receive, Option.map_some, h.run]

/-- B's player after the packets that a packet of A's server has led to. -/
lemma forward_own (hrefs : refs.whole = true) (hb : s.bUuid = some b) (x : MirrorAnswers)
    (hp : b ∉ p.ids) (hl : l b = some q) : forward F refs s l (x, p) b =
      some ((mirroredEntry refs x s p.update).elim q fun r => q.mirror refs x p.actions r.2) := by
  have hsame : handle l p b = some q := (handle_of_not_mem hp).trans hl
  rw [forward, mirrorPlayerInfoUpdateToB]
  cases hentry : mirroredEntry refs x s p.update with
  | none => exact hsame
  | some r =>
    obtain ⟨b', e⟩ := r
    obtain rfl : b' = b := Option.some.inj ((mirroredEntry_spec hentry).1.symm.trans hb)
    rw [Option.map_some, receive_of_reads (reads_mirrored (MirrorRefs.complete hrefs _) e)]
    have hnodup : (Announcement.ids (⟨outBits p.actions,
        [(writtenFields refs x p.actions e).announced b' none]⟩ :
        Announcement Uuid Component Name Props)).Nodup := List.nodup_singleton b'
    refine (handle_of_mem hnodup List.mem_cons_self hsame).trans (congrArg some ?_)
    exact Player.apply_announced refs x p.actions e b' q

/-- What `sendSelfInfoToB` puts into B's list. -/
lemma receive_selfInfo {refs : SelfInfoRefs} {x : SelfInfoAnswers} {name : Name} {props : Props}
    {buf : List UInt8} (hsend : sendSelfInfoToB F refs x b name props = some buf)
    (hl : l b = none) :
    receive F l (some buf) b = some { profile := some (name, props) } := by
  rw [receive_of_reads (reads_selfInfo hsend)]
  have hadd : has 0x1D 0x01 = true := rfl
  refine (handle_of_new (p := selfInfo b name props) hadd (List.nodup_singleton b)
    List.mem_cons_self hl).trans ?_
  show some (Player.apply 0x1D _ _) = _
  rfl

end Own

/-! ## What stays and what follows -/

section Fields

variable {refs : MirrorRefs} {q qa : Player Component Name Props} {seen : UInt8 → Bool}
  {bits : UInt8}

/-- B's own player is in B's list, and B does not see him there. -/
def Hidden (profile : Option (Name × Props)) (q : Player Component Name Props) : Prop :=
  q.profile = profile ∧ q.listed = false

lemma Hidden.mirror {profile : Option (Name × Props)} (h : Hidden profile q) (x : MirrorAnswers)
    (bits : UInt8) (e : Entry Uuid Component) : Hidden profile (q.mirror refs x bits e) := by
  refine ⟨h.1, ?_⟩
  show (if has bits 0x08 then false else q.listed) = false
  rw [h.2, ite_self]

/-- The fields of B's player that have been announced of A's player are those of A's player, and the
others have their defaults. -/
structure Follows (seen : UInt8 → Bool) (q qa : Player Component Name Props) : Prop where
  gameMode : q.gameMode = if seen 0x04 then qa.gameMode else some 0
  latency : q.latency = if seen 0x10 then qa.latency else 0
  displayName : q.displayName = if seen 0x20 then qa.displayName else none

/-- The fields of A's entry are those of B's player after it. -/
lemma Follows.mirror (h : Follows seen q qa) {e : Announced Uuid Component Name Props}
    (hmode : e.gameMode.isSome = true) (first : Bool) (bits : UInt8) :
    Follows (fun bit => seen bit || has bits bit)
      (q.mirror { allEntriesFirst := first } {} bits e.toEntry) (qa.apply bits e) where
  gameMode := by
    have hwritten : some (writtenGameMode {} e.toEntry) = e.gameMode := by
      obtain ⟨id, hid⟩ := Option.isSome_iff_exists.mp hmode
      simp [writtenGameMode, hid]
    simp only [Player.mirror, Player.apply, hwritten, h.gameMode]
    cases has bits 0x04 <;> cases seen 0x04 <;> rfl
  latency := by
    simp only [Player.mirror, Player.apply, h.latency, writtenLatency]
    cases has bits 0x10 <;> cases seen 0x10 <;> rfl
  displayName := by
    simp only [Player.mirror, Player.apply, h.displayName, writtenDisplayName]
    cases has bits 0x20 <;> cases seen 0x20 <;> rfl

/-- A packet without a field for B leaves these fields of A's player alone. -/
lemma Follows.silent (h : Follows seen q qa) (e : Announced Uuid Component Name Props)
    (hbits : outBits bits = 0) :
    Follows (fun bit => seen bit || has bits bit) q (qa.apply bits e) := by
  have hnone (bit : UInt8) (hmask : 0x3c &&& bit = bit) : has bits bit = false := by
    rw [← has_outBits bits bit hmask, hbits, has, UInt8.zero_and]
    rfl
  exact ⟨by simp [Player.apply, hnone 0x04 rfl, h.gameMode],
    by simp [Player.apply, hnone 0x10 rfl, h.latency],
    by simp [Player.apply, hnone 0x20 rfl, h.displayName]⟩

lemma chosenEntries_found (first : Bool) (p : InfoUpdate Uuid Component) :
    chosenEntries { allEntriesFirst := first } {} p = p.entries := by
  rcases newEntries_eq p with h | h
  · cases first <;> simp [chosenEntries, listSize, h]
  -- no players are added: the other list is the longer one, unless both are empty
  · rcases Nat.eq_zero_or_pos p.entries.length with hzero | hpos
    · have hnil := List.eq_nil_of_length_eq_zero hzero
      cases first <;> simp [chosenEntries, listSize, h, hnil]
    · have hge : ¬ (p.entries.length : ℤ) < 0 := by omega
      cases first <;> simp [chosenEntries, listSize, h, hpos, hge]

end Fields

/-! ## Whole streams -/

section Streams

variable [DecidableEq Uuid] {F : ProfileByteBuf Uuid Component Name Props} {refs : MirrorRefs}
  {s : Players Uuid} {la lb : PlayerList Uuid Component Name Props} {a b : Uuid}
  {p : Announcement Uuid Component Name Props} {q qa : Player Component Name Props}
  {name : Name} {props : Props} {selfRefs : SelfInfoRefs} {x : SelfInfoAnswers} {buf : List UInt8}

lemma hidden_run (hrefs : refs.whole = true) (hb : s.bUuid = some b)
    {rs : List (MirrorAnswers × Announcement Uuid Component Name Props)}
    (hrs : ∀ r ∈ rs, b ∉ r.2.ids) {profile : Option (Name × Props)} (hl : lb b = some q)
    (hq : Hidden profile q) :
    ∃ q', rs.foldl (forward F refs s) lb b = some q' ∧ Hidden profile q' := by
  induction rs generalizing lb q with
  | nil => exact ⟨q, hl, hq⟩
  | cons r rs ih =>
    obtain ⟨x, p⟩ := r
    have hstep := forward_own (F := F) hrefs hb x (hrs (x, p) List.mem_cons_self) hl
    refine ih (fun r hr => hrs r (List.mem_cons_of_mem _ hr)) hstep ?_
    cases mirroredEntry refs x s p.update with
    | none => exact hq
    | some r => exact hq.mirror x p.actions r.2

lemma findEntry_eq (a : Uuid) (l : List (Entry Uuid Component)) (k : ℕ) :
    findEntry {} a k l = l.find? fun e => e.profileId = a := by
  induction l generalizing k with
  | nil => rfl
  | cons e l ih =>
    rw [findEntry, List.find?_cons]
    by_cases he : e.profileId = a
    · simp [he]
    · simpa [he] using ih (k + 1)

/-- When nothing is missing and no call fails, the entry of A is mirrored, if it has a field for
B. -/
lemma mirroredEntry_eq (first : Bool) (a b : Uuid) (p : InfoUpdate Uuid Component) :
    mirroredEntry { allEntriesFirst := first } {} { aUuid := a, bUuid := some b } p =
      if outBits p.actions = 0 then none
      else (p.entries.find? fun e => e.profileId = a).map (Prod.mk b) := by
  have hrequired : ({ allEntriesFirst := first } : MirrorRefs).required = true := rfl
  simp only [mirroredEntry, hrequired, chosenEntries_found, findEntry_eq, Bool.and_self]
  cases p.entries.find? fun e => e.profileId = a with
  | none => simp
  | some e => by_cases hbits : outBits p.actions = 0 <;> simp [hbits]

/-- What A's server says: one entry for a player, none for B's own, and no game mode is null. -/
structure Regular (b : Uuid) (p : Announcement Uuid Component Name Props) : Prop where
  nodup : p.ids.Nodup
  not_mem : b ∉ p.ids
  gameMode : ∀ e ∈ p.entries, e.gameMode.isSome = true

/-- The entry of a player that is found is the only one. -/
lemma Regular.find_update (h : Regular b p) {e : Announced Uuid Component Name Props}
    (he : e ∈ p.entries) :
    (p.update.entries.find? fun e' => e'.profileId = e.profileId) = some e.toEntry := by
  obtain ⟨before, after, hsplit⟩ := List.append_of_mem he
  have hnodup := h.nodup
  rw [Announcement.ids, hsplit, List.map_append, List.map_cons, List.nodup_middle,
    List.nodup_cons, List.mem_append, not_or] at hnodup
  refine List.find?_eq_some_iff_append.mpr ⟨by simp, before.map Announced.toEntry,
    after.map Announced.toEntry, by simp [Announcement.update, hsplit], fun e' he' => ?_⟩
  obtain ⟨e₀, he₀, rfl⟩ := List.mem_map.mp he'
  have hne : e₀.profileId ≠ e.profileId := fun heq =>
    hnodup.1.1 (List.mem_map.mpr ⟨e₀, he₀, heq⟩)
  simpa using hne

/-- The packet announces a field of the player `a`. -/
def Announcement.tells (a : Uuid) (p : Announcement Uuid Component Name Props) (bit : UInt8) :
    Bool :=
  has p.actions bit && p.ids.contains a

/-- A packet that is not about A changes neither player. -/
lemma follows_other {seen : UInt8 → Bool} (h : Follows seen q qa) (ha : a ∉ p.ids) :
    Follows (fun bit => seen bit || p.tells a bit) q qa := by
  have htells (bit : UInt8) : p.tells a bit = false := by simp [Announcement.tells, ha]
  exact ⟨by simp [htells, h.gameMode], by simp [htells, h.latency], by simp [htells, h.displayName]⟩

lemma follows_step {seen : UInt8 → Bool} (first : Bool) (hp : Regular b p)
    (h : Follows seen q qa) (hlb : lb b = some q) (hla : la a = some qa) :
    ∃ q' qa', forward F { allEntriesFirst := first } { aUuid := a, bUuid := some b } lb ({}, p) b =
        some q' ∧ handle la p a = some qa' ∧
      Follows (fun bit => seen bit || p.tells a bit) q' qa' := by
  have hwhole : ({ allEntriesFirst := first } : MirrorRefs).whole = true := rfl
  have hown := forward_own (F := F) hwhole (s := { aUuid := a, bUuid := some b }) rfl {}
    hp.not_mem hlb
  rw [mirroredEntry_eq] at hown
  by_cases ha : a ∈ p.ids
  · obtain ⟨e, he, rfl⟩ := List.mem_map.mp ha
    have htells : p.tells e.profileId = has p.actions := by
      funext bit
      simp [Announcement.tells, ha]
    rw [hp.find_update he] at hown
    refine ⟨_, _, hown, handle_of_mem hp.nodup he hla, ?_⟩
    rw [htells]
    by_cases hbits : outBits p.actions = 0
    · rw [show p.update.actions = p.actions from rfl, if_pos hbits]
      exact h.silent e hbits
    · rw [show p.update.actions = p.actions from rfl, if_neg hbits]
      exact h.mirror (hp.gameMode e he) first p.actions
  · have hfind : (p.update.entries.find? fun e => e.profileId = a) = none := by
      refine List.find?_eq_none.mpr fun e he => ?_
      obtain ⟨e₀, he₀, rfl⟩ := List.mem_map.mp he
      simpa using fun heq => ha (List.mem_map.mpr ⟨e₀, he₀, heq⟩)
    rw [hfind, Option.map_none, ite_self] at hown
    exact ⟨q, qa, hown, (handle_of_not_mem ha).trans hla, follows_other h ha⟩

lemma follows_run {seen : UInt8 → Bool} (first : Bool)
    {ps : List (Announcement Uuid Component Name Props)} (hps : ∀ p ∈ ps, Regular b p)
    (h : Follows seen q qa) (hlb : lb b = some q) (hla : la a = some qa) :
    ∃ q' qa', ps.foldl (fun l p => forward F { allEntriesFirst := first }
        { aUuid := a, bUuid := some b } l ({}, p)) lb b = some q' ∧
      ps.foldl handle la a = some qa' ∧
      Follows (fun bit => seen bit || ps.any (Announcement.tells a · bit)) q' qa' := by
  induction ps generalizing lb la q qa seen with
  | nil =>
    refine ⟨q, qa, hlb, hla, ?_⟩
    simpa using h
  | cons p ps ih =>
    obtain ⟨q', qa', hlb', hla', h'⟩ :=
      follows_step (F := F) first (hps p List.mem_cons_self) h hlb hla
    obtain ⟨q'', qa'', hlb'', hla'', h''⟩ :=
      ih (fun p hp => hps p (List.mem_cons_of_mem _ hp)) h' hlb' hla'
    refine ⟨q'', qa'', hlb'', hla'', ?_⟩
    simpa only [List.any_cons, Bool.or_assoc] using h''

omit [DecidableEq Uuid] in
/-- Whatever is read behind an id, it is about this player. -/
lemma ids_of_read {actions : UInt8} {id : Uuid} {body r : List UInt8}
    (h : readAnnouncement F (F.byte.write actions ++ (F.varInt.write 1 ++
      (F.uuid.write id ++ body))) = .ok (p, r)) : p.ids = [id] := by
  rw [readAnnouncement, (F.byte.reads actions).bind_append] at h
  split at h
  · cases h
  · rw [(F.varInt.reads 1).bind_append] at h
    obtain ⟨es, t, hes, h⟩ := bind_ok h
    obtain ⟨rfl, -⟩ := pure_ok h
    have hone : (1 : Int32).toNatClampNeg = 1 := rfl
    rw [hone, times] at hes
    obtain ⟨e, t', he, hes⟩ := bind_ok hes
    obtain ⟨es', t'', hes', hes⟩ := bind_ok hes
    obtain ⟨rfl, -⟩ := pure_ok hes
    obtain ⟨rfl, -⟩ := pure_ok hes'
    rw [readAnnounced, (F.uuid.reads id).bind_append] at he
    obtain ⟨profile, t₁, -, he⟩ := bind_ok he
    obtain ⟨fields, t₂, -, he⟩ := bind_ok he
    obtain ⟨rfl, -⟩ := pure_ok he
    rfl

/-- A buffer about B's own player changes no other one. -/
lemma receive_of_ne {l : PlayerList Uuid Component Name Props} {buf : Option (List UInt8)}
    {id : Uuid} (hid : id ≠ b) (hbuf : ∀ bytes ∈ buf, ∃ actions body,
      bytes = F.byte.write actions ++ (F.varInt.write 1 ++ (F.uuid.write b ++ body))) :
    receive F l buf id = l id := by
  cases buf with
  | none => rfl
  | some bytes =>
    obtain ⟨actions, body, rfl⟩ := hbuf bytes rfl
    simp only [receive, Option.map_some]
    cases hread : readAnnouncement F
        (F.byte.write actions ++ (F.varInt.write 1 ++ (F.uuid.write b ++ body))) with
    | error e => rfl
    | ok r =>
      obtain ⟨p, rest⟩ := r
      refine handle_of_not_mem fun hmem => hid ?_
      rw [ids_of_read hread] at hmem
      exact List.mem_singleton.mp hmem

lemma forward_other {l l' : PlayerList Uuid Component Name Props} {id : Uuid}
    (hb : s.bUuid = some b) (hid : id ≠ b) (h : l id = l' id)
    (r : MirrorAnswers × Announcement Uuid Component Name Props) :
    forward F refs s l r id = handle l' r.2 id := by
  rw [forward, receive_of_ne hid fun bytes hbytes => ?_]
  · exact handle_congr h
  · obtain ⟨⟨b', e⟩, hentry, rfl⟩ := Option.map_eq_some_iff.mp hbytes
    obtain rfl : b' = b := Option.some.inj ((mirroredEntry_spec hentry).1.symm.trans hb)
    exact ⟨_, _, rfl⟩

/-- The list that A's game has online, told to a game that has none. -/
lemma handle_captureInfo {online : List Uuid} (honline : online.Nodup)
    (hl : ∀ id, id ∈ online ↔ (la id).isSome = true) :
    handle (fun _ => none) (captureInfo la online) = la := by
  have hids : (captureInfo la online).ids = online := by
    have hsome : ∀ id ∈ online, ∃ q, la id = some q := fun id hid =>
      Option.isSome_iff_exists.mp ((hl id).mp hid)
    clear hl honline
    induction online with
    | nil => rfl
    | cons id online ih =>
      obtain ⟨q, hq⟩ := hsome id List.mem_cons_self
      have hrest := ih fun id' hid' => hsome id' (List.mem_cons_of_mem id hid')
      simp only [Announcement.ids, captureInfo] at hrest ⊢
      simp [hq, hrest]
  funext id
  by_cases hid : id ∈ online
  · obtain ⟨q, hq⟩ := Option.isSome_iff_exists.mp ((hl id).mp hid)
    let e : Announced Uuid Component Name Props :=
      ⟨⟨id, q.gameMode, q.latency, q.displayName⟩, q.profile, q.listed⟩
    have he : e ∈ (captureInfo la online).entries :=
      List.mem_filterMap.mpr ⟨id, hid, by rw [hq]; rfl⟩
    have hadd : has 0x3D 0x01 = true := rfl
    rw [hq]
    refine (handle_of_new (l := fun _ => none) (p := captureInfo la online) hadd
      (hids.symm ▸ honline) he rfl).trans ?_
    show some (Player.apply 0x3D _ _) = _
    rfl
  · rw [handle_of_not_mem (hids.symm ▸ hid)]
    exact (Option.not_isSome_iff_eq_none.mp fun hsome => hid ((hl id).mpr hsome)).symm

/-- B logs in while A plays, and then both games get what A's server says.  Whichever calls fail,
all other players are the same in both lists. -/
theorem tabList_agrees (hb : s.bUuid = some b) {online : List Uuid} (honline : online.Nodup)
    (hl : ∀ id, id ∈ online ↔ (la id).isSome = true)
    (rs : List (MirrorAnswers × Announcement Uuid Component Name Props)) {id : Uuid}
    (hid : id ≠ b) :
    rs.foldl (forward F refs s) (receive F (handle (fun _ => none) (captureInfo la online))
      (sendSelfInfoToB F selfRefs x b name props)) id =
        (rs.map Prod.snd).foldl handle la id := by
  have hself : receive F (handle (fun _ => none) (captureInfo la online))
      (sendSelfInfoToB F selfRefs x b name props) id = la id := by
    rw [handle_captureInfo honline hl, receive_of_ne hid fun bytes hbytes =>
      ⟨_, _, sendSelfInfoToB_eq hbytes⟩]
  generalize receive F (handle (fun _ => none) (captureInfo la online))
    (sendSelfInfoToB F selfRefs x b name props) = lb at hself
  clear honline hl
  induction rs generalizing la lb with
  | nil => exact hself
  | cons r rs ih => exact ih _ (forward_other hb hid hself r)

/-- When no binding is missing, B's own player is never shown to B, whatever A's server says of the
other players and whichever calls fail. -/
theorem selfInfo_hidden (hrefs : refs.whole = true)
    (hsend : sendSelfInfoToB F selfRefs x b name props = some buf) (hl : lb b = none)
    (hb : s.bUuid = some b) {rs : List (MirrorAnswers × Announcement Uuid Component Name Props)}
    (hrs : ∀ r ∈ rs, b ∉ r.2.ids) :
    ∃ q, rs.foldl (forward F refs s) (receive F lb (some buf)) b = some q ∧
      q.profile = some (name, props) ∧ q.listed = false :=
  hidden_run hrefs hb hrs (receive_selfInfo hsend hl) ⟨rfl, rfl⟩

/-- When nothing is missing, no call fails and every packet is regular, B's own player has the game
mode, the latency and the displayed name that A has in A's own list, each as soon as A's server
announces it. -/
theorem selfInfo_follows (first : Bool)
    (hsend : sendSelfInfoToB F selfRefs x b name props = some buf) (hlb : lb b = none)
    (hla : la a = some qa) {ps : List (Announcement Uuid Component Name Props)}
    (hps : ∀ p ∈ ps, Regular b p) :
    ∃ q' qa', ps.foldl (fun l p => forward F { allEntriesFirst := first }
        { aUuid := a, bUuid := some b } l ({}, p)) (receive F lb (some buf)) b = some q' ∧
      ps.foldl handle la a = some qa' ∧
      Follows (fun bit => ps.any (Announcement.tells a · bit)) q' qa' := by
  have hstart : Follows (fun _ => false)
      ({ profile := some (name, props) } : Player Component Name Props) qa := ⟨rfl, rfl, rfl⟩
  obtain ⟨q', qa', hlb', hla', h⟩ :=
    follows_run (F := F) first hps hstart (receive_selfInfo hsend hlb) hla
  refine ⟨q', qa', hlb', hla', ?_⟩
  simpa only [Bool.false_or] using h

end Streams

/-! ## The buffer of the game -/

/-- A text, with its length in front. -/
abbrev Text := { l : List UInt8 // l.length < 2 ^ 32 }

def profileByteBuf : ProfileByteBuf { l : List UInt8 // l.length = 16 } Text Text Text :=
  { friendlyByteBuf with
    utf := .counted ()
    gameProfileProperties := .counted ()
    varInt_one := rfl }

def someText (n : UInt8) : Text := ⟨[n], by simp⟩

/-- A is in creative mode now. -/
def sampleAnnouncement : Announcement { l : List UInt8 // l.length = 16 } Text Text Text where
  actions := 0x14
  entries := [⟨⟨someUuid 1, some 1, 7, none⟩, none, true⟩]

def samplePlayer : Player Text Text Text := { profile := some (someText 65, someText 0) }

lemma sampleAnnouncement_regular : Regular (someUuid 2) sampleAnnouncement where
  nodup := List.nodup_singleton (someUuid 1)
  not_mem := by decide
  gameMode := by
    intro e he
    obtain rfl := List.mem_singleton.mp he
    rfl

def emptyList : PlayerList { l : List UInt8 // l.length = 16 } Text Text Text := fun _ => none

/-- A is alone in A's list. -/
def aList : PlayerList { l : List UInt8 // l.length = 16 } Text Text Text :=
  fun id => if id = someUuid 1 then some samplePlayer else none

/-- B's list after `sendSelfInfoToB`. -/
def sampleList : PlayerList { l : List UInt8 // l.length = 16 } Text Text Text :=
  receive profileByteBuf emptyList
    (sendSelfInfoToB profileByteBuf {} {} (someUuid 2) (someText 66) (someText 1))

def samplePlayers : Players { l : List UInt8 // l.length = 16 } :=
  { aUuid := someUuid 1, bUuid := some (someUuid 2) }

/-- The first byte of the packet cannot be read. -/
def sampleStream :
    List (MirrorAnswers × Announcement { l : List UInt8 // l.length = 16 } Text Text Text) :=
  [({ getByte := false }, sampleAnnouncement)]

theorem tabList_agrees_sample : sampleStream.foldl (forward profileByteBuf {} samplePlayers)
    (receive profileByteBuf (handle (fun _ => none) (captureInfo aList [someUuid 1]))
      (sendSelfInfoToB profileByteBuf {} {} (someUuid 2) (someText 66) (someText 1)))
    (someUuid 1) = (sampleStream.map Prod.snd).foldl handle aList (someUuid 1) := by
  have hb : samplePlayers.bUuid = some (someUuid 2) := rfl
  have hl : ∀ id, id ∈ [someUuid 1] ↔ (aList id).isSome = true := by
    intro id
    by_cases hid : id = someUuid 1 <;> simp [aList, hid]
  have hne : someUuid 1 ≠ someUuid 2 := by decide
  exact tabList_agrees hb (List.nodup_singleton _) hl sampleStream hne

theorem selfInfo_hidden_sample : ∃ q, forward profileByteBuf {} samplePlayers sampleList
    ({ gameMode := false }, sampleAnnouncement) (someUuid 2) = some q ∧
      q.profile = some (someText 66, someText 1) ∧ q.listed = false := by
  have hsend : sendSelfInfoToB profileByteBuf {} {} (someUuid 2) (someText 66) (someText 1) =
      some _ := rfl
  have hrs : ∀ r ∈ [(({ gameMode := false } : MirrorAnswers), sampleAnnouncement)],
      someUuid 2 ∉ r.2.ids := by
    intro r hr
    rw [List.mem_singleton.mp hr]
    exact sampleAnnouncement_regular.not_mem
  have hnew : emptyList (someUuid 2) = none := rfl
  have hb : samplePlayers.bUuid = some (someUuid 2) := rfl
  have hrefs : ({} : MirrorRefs).whole = true := rfl
  exact selfInfo_hidden hrefs hsend hnew hb hrs

theorem selfInfo_follows_sample : ∃ q' qa', forward profileByteBuf {} samplePlayers sampleList
      ({}, sampleAnnouncement) (someUuid 2) = some q' ∧
    handle aList sampleAnnouncement (someUuid 1) = some qa' ∧
    Follows (fun bit => [sampleAnnouncement].any (Announcement.tells (someUuid 1) · bit)) q'
      qa' := by
  have hsend : sendSelfInfoToB profileByteBuf {} {} (someUuid 2) (someText 66) (someText 1) =
      some _ := rfl
  have hps : ∀ p ∈ [sampleAnnouncement], Regular (someUuid 2) p := by
    intro p hp
    rw [List.mem_singleton.mp hp]
    exact sampleAnnouncement_regular
  have hnew : emptyList (someUuid 2) = none := rfl
  have hold : aList (someUuid 1) = some samplePlayer := rfl
  exact selfInfo_follows true hsend hnew hold hps

end PlayerInfo
end Server
end SakuraTools
