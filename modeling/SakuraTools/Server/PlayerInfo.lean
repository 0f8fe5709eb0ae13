import Mathlib.Data.Fintype.Basic
import SakuraTools.Lib.Codec

/-!
# Player info for B

What A's server says of A's entry in the list of players is said again of B's.
`mirrorPlayerInfoUpdateToB` takes A's entry out of a `ClientboundPlayerInfoUpdatePacket` and
writes a packet with one entry into a buffer: a byte with the actions, the number of entries, the
id of the player, and a field for each action.  The buffer and the packet are Java's; what they
do with bytes comes as codecs.
-/

namespace SakuraTools
namespace Server
namespace PlayerInfo

open SakuraTools.Parser

variable {Uuid Component : Type}

/-! ## Packets and buffers -/

/-- What the write methods of `FriendlyByteBuf` put out, and the read methods that belong to
them. -/
structure FriendlyByteBuf (Uuid Component : Type) where
  byte : Codec Unit UInt8 UInt8
  varInt : Codec Unit UInt8 Int32
  uuid : Codec Unit UInt8 Uuid
  boolean : Codec Unit UInt8 Bool
  component : Codec Unit UInt8 Component
  /-- No number is shorter than 0. -/
  varInt_zero : ∀ v, (varInt.write 0).length ≤ (varInt.write v).length
  boolean_length : ∀ b, (boolean.write b).length = 1

/-- What is mirrored of an entry of the packet.  The game mode is the id of its `GameType`, if
the reference is not null. -/
structure Entry (Uuid Component : Type) where
  profileId : Uuid
  gameMode : Option Int32
  latency : Int32
  displayName : Option Component
deriving DecidableEq

/-- A `ClientboundPlayerInfoUpdatePacket`. -/
structure InfoUpdate (Uuid Component : Type) where
  actions : UInt8
  entries : List (Entry Uuid Component)
deriving DecidableEq

/-- The action `bit` is set. -/
def has (actions bit : UInt8) : Bool := actions &&& bit ≠ 0

/-- The other accessor of the packet for entries: those of the players that are added. -/
def InfoUpdate.newEntries (p : InfoUpdate Uuid Component) : List (Entry Uuid Component) :=
  if has p.actions 0x01 then p.entries else []

/-! ## Bindings and answers -/

/-- The bindings of `mirrorPlayerInfoUpdateToB` that have been found. -/
structure MirrorRefs where
  playerInfoUpdatePacketCls : Bool := true
  playerInfoUpdatePacketBufCtor : Bool := true
  playerInfoUpdatePacketWriteMid : Bool := true
  friendlyBufCls : Bool := true
  friendlyBufCtor : Bool := true
  unpooledCls : Bool := true
  unpooledBufferMid : Bool := true
  byteBufGetByteMid : Bool := true
  listSizeMid : Bool := true
  listGetMid : Bool := true
  piuEntriesMidA : Bool := true
  piEntryProfileIdMid : Bool := true
  fbbWriteByteMid : Bool := true
  fbbWriteVarIntMid : Bool := true
  fbbWriteUUIDMid : Bool := true
  fbbWriteBooleanMid : Bool := true
  -- those that the function can do without
  piuEntriesMidB : Bool := true
  piEntryGameModeMid : Bool := true
  gameTypeGetIdMid : Bool := true
  piEntryLatencyMid : Bool := true
  piEntryDisplayNameMid : Bool := true
  fbbWriteComponentMid : Bool := true
  /-- `piuEntriesMidA` is the accessor of all entries. -/
  allEntriesFirst : Bool := true
deriving DecidableEq, Repr

/-- The bindings that the function asks for. -/
def MirrorRefs.required (refs : MirrorRefs) : Bool :=
  refs.playerInfoUpdatePacketCls && refs.playerInfoUpdatePacketBufCtor &&
    refs.playerInfoUpdatePacketWriteMid && refs.friendlyBufCls && refs.friendlyBufCtor &&
    refs.unpooledCls && refs.unpooledBufferMid && refs.byteBufGetByteMid && refs.listSizeMid &&
    refs.listGetMid && refs.piuEntriesMidA && refs.piEntryProfileIdMid && refs.fbbWriteByteMid &&
    refs.fbbWriteVarIntMid && refs.fbbWriteUUIDMid && refs.fbbWriteBooleanMid

/-- What the server knows of the two players. -/
structure Players (Uuid : Type) where
  aReady : Bool := true
  bReady : Bool := true
  aUuid : Uuid
  bUuid : Option Uuid

/-- The answers of the calls before the buffer is written to and of the accessors of A's entry:
whether a call returns what it should.  One that throws returns 0 or null. -/
structure MirrorAnswers where
  -- the packet is written to a buffer, for its first byte
  unpooled : Bool := true
  friendly : Bool := true
  write : Bool := true
  getByte : Bool := true
  -- the two lists of entries and their sizes
  listA : Bool := true
  listB : Bool := true
  sizeA : Bool := true
  sizeB : Bool := true
  -- `List.get`, `profileId`, `uuidToBytes` and `NewLocalRef`, by the index of the entry
  get : ℕ → Bool := fun _ => true
  profileId : ℕ → Bool := fun _ => true
  uuidToBytes : ℕ → Bool := fun _ => true
  newLocalRef : ℕ → Bool := fun _ => true
  -- the buffer for B
  unpooledB : Bool := true
  friendlyB : Bool := true
  -- the accessors of A's entry, and the id of its game mode
  gameMode : Bool := true
  gameTypeId : Bool := true
  latency : Bool := true
  displayName : Bool := true

/-- The calls for the entry with the index `i` return what they should. -/
def MirrorAnswers.readable (x : MirrorAnswers) (i : ℕ) : Bool :=
  x.get i && x.profileId i && x.uuidToBytes i && x.newLocalRef i

/-! ## `mirrorPlayerInfoUpdateToB` -/

/-- The size of a list, or -1 when it is not to be had. -/
def listSize (list : Option (List (Entry Uuid Component))) (size : Bool) : ℤ :=
  match list with
  | some l => if size then l.length else -1
  | none => -1

/-- The longer one of the two lists of entries, as far as they can be had. -/
def chosenEntries (refs : MirrorRefs) (x : MirrorAnswers) (p : InfoUpdate Uuid Component) :
    List (Entry Uuid Component) :=
  let all := some p.entries
  let new := some p.newEntries
  let listA := if x.listA then if refs.allEntriesFirst then all else new else none
  let listB := if refs.piuEntriesMidB && x.listB then if refs.allEntriesFirst then new else all
    else none
  let sizeA := listSize listA x.sizeA
  let sizeB := listSize listB x.sizeB
  let entries := if sizeA < sizeB then listB else listA
  let nEntries := if sizeA < sizeB then sizeB else sizeA
  (entries.getD []).take nEntries.toNat

/-- The loop over the entries from the index `i` on. -/
def findEntry [DecidableEq Uuid] (x : MirrorAnswers) (a : Uuid) :
    ℕ → List (Entry Uuid Component) → Option (Entry Uuid Component)
  | _, [] => none
  | i, e :: entries =>
    if x.get i && x.profileId i && x.uuidToBytes i && e.profileId = a && x.newLocalRef i then some e
    else findEntry x a (i + 1) entries

/-- The game mode that is written. -/
def writtenGameMode (x : MirrorAnswers) (e : Entry Uuid Component) : Int32 :=
  match (if x.gameMode then e.gameMode else none) with
  | some id => if x.gameTypeId then id else 0
  | none => 0

def writtenLatency (x : MirrorAnswers) (e : Entry Uuid Component) : Int32 :=
  if x.latency then e.latency else 0

def writtenDisplayName (refs : MirrorRefs) (x : MirrorAnswers) (e : Entry Uuid Component) :
    Option Component :=
  if refs.piEntryDisplayNameMid && x.displayName && refs.fbbWriteComponentMid then e.displayName
  else none

def outBits (bits : UInt8) : UInt8 :=
  (if has bits 0x04 then 0x04 else 0) ||| (if has bits 0x08 then 0x08 else 0) |||
    (if has bits 0x10 then 0x10 else 0) ||| (if has bits 0x20 then 0x20 else 0)

def writeGameMode (F : FriendlyByteBuf Uuid Component) (refs : MirrorRefs) (x : MirrorAnswers)
    (bits : UInt8) (e : Entry Uuid Component) : List UInt8 :=
  if has bits 0x04 && (refs.piEntryGameModeMid && refs.gameTypeGetIdMid) then
    F.varInt.write (writtenGameMode x e)
  else []

/-- Mirrored updates must never add B as a second visible entry. -/
def writeListed (F : FriendlyByteBuf Uuid Component) (bits : UInt8) : List UInt8 :=
  if has bits 0x08 then F.boolean.write false else []

def writeLatency (F : FriendlyByteBuf Uuid Component) (refs : MirrorRefs) (x : MirrorAnswers)
    (bits : UInt8) (e : Entry Uuid Component) : List UInt8 :=
  if has bits 0x10 && refs.piEntryLatencyMid then F.varInt.write (writtenLatency x e) else []

def writeDisplayName (F : FriendlyByteBuf Uuid Component) (refs : MirrorRefs) (x : MirrorAnswers)
    (bits : UInt8) (e : Entry Uuid Component) : List UInt8 :=
  if has bits 0x20 then
    match writtenDisplayName refs x e with
    | some name => F.boolean.write true ++ F.component.write name
    | none => F.boolean.write false
  else []

/-- The fields behind the id of the player. -/
def writeFields (F : FriendlyByteBuf Uuid Component) (refs : MirrorRefs) (x : MirrorAnswers)
    (bits : UInt8) (e : Entry Uuid Component) : List UInt8 :=
  writeGameMode F refs x bits e ++ (writeListed F bits ++ (writeLatency F refs x bits e ++
    writeDisplayName F refs x bits e))

/-- The entry of A that is mirrored, with B's id, if the function gets as far as writing a
buffer. -/
def mirroredEntry [DecidableEq Uuid] (refs : MirrorRefs) (x : MirrorAnswers) (s : Players Uuid)
    (p : InfoUpdate Uuid Component) : Option (Uuid × Entry Uuid Component) := do
  guard refs.required
  guard (s.aReady && s.bReady)
  let b ← s.bUuid
  guard (x.unpooled && x.friendly && x.write && x.getByte)
  let e ← findEntry x s.aUuid 0 (chosenEntries refs x p)
  guard (outBits p.actions ≠ 0)
  guard (x.unpooledB && x.friendlyB)
  pure (b, e)

/-- `mirrorPlayerInfoUpdateToB`, with the buffer that it hands to the constructor of the
packet. -/
def mirrorPlayerInfoUpdateToB [DecidableEq Uuid] (F : FriendlyByteBuf Uuid Component)
    (refs : MirrorRefs) (x : MirrorAnswers) (s : Players Uuid) (p : InfoUpdate Uuid Component) :
    Option (List UInt8) :=
  (mirroredEntry refs x s p).map fun (b, e) =>
    F.byte.write (outBits p.actions) ++ (F.varInt.write 1 ++ (F.uuid.write b ++
      writeFields F refs x p.actions e))

/-! ## What is read -/

/-- The fields of an entry for the actions that are set. -/
structure Fields (Component : Type) where
  gameMode : Option Int32
  listed : Option Bool
  latency : Option Int32
  displayName : Option (Option Component)
deriving DecidableEq

def readIf {α : Type} (c : Bool) (p : Parser Unit UInt8 α) : Parser Unit UInt8 (Option α) :=
  if c then some <$> p else pure none

def readDisplayName (F : FriendlyByteBuf Uuid Component) :
    Parser Unit UInt8 (Option Component) := do
  let present ← F.boolean.read
  readIf present F.component.read

def readFields (F : FriendlyByteBuf Uuid Component) (actions : UInt8) :
    Parser Unit UInt8 (Fields Component) := do
  let gameMode ← readIf (has actions 0x04) F.varInt.read
  let listed ← readIf (has actions 0x08) F.boolean.read
  let latency ← readIf (has actions 0x10) F.varInt.read
  let displayName ← readIf (has actions 0x20) (readDisplayName F)
  pure ⟨gameMode, listed, latency, displayName⟩

def readEntry (F : FriendlyByteBuf Uuid Component) (actions : UInt8) :
    Parser Unit UInt8 (Uuid × Fields Component) := do
  let profileId ← F.uuid.read
  let fields ← readFields F actions
  pure (profileId, fields)

/-- The packet, as far as no players are added and no chat is initialised: these two actions
have fields of their own. -/
def readInfoUpdate (F : FriendlyByteBuf Uuid Component) :
    Parser Unit UInt8 (UInt8 × List (Uuid × Fields Component)) := do
  let actions ← F.byte.read
  if has actions 0x03 then fail ()
  else
    let count ← F.varInt.read
    let entries ← times (readEntry F actions) count.toNatClampNeg
    pure (actions, entries)

/-! ## The entry -/

/-- The first entry of the player `a` whose calls return what they should. -/
def FirstOf (x : MirrorAnswers) (a : Uuid) (p : InfoUpdate Uuid Component)
    (first : Entry Uuid Component) : Prop :=
  ∃ i, p.entries[i]? = some first ∧ first.profileId = a ∧ x.readable i = true ∧
    ∀ j e, j < i → p.entries[j]? = some e → e.profileId = a → x.readable j = false

lemma FirstOf.unique {x : MirrorAnswers} {a : Uuid} {p : InfoUpdate Uuid Component}
    {e e' : Entry Uuid Component} (h : FirstOf x a p e) (h' : FirstOf x a p e') : e = e' := by
  obtain ⟨i, hi, ha, hread, hmin⟩ := h
  obtain ⟨i', hi', ha', hread', hmin'⟩ := h'
  rcases Nat.lt_trichotomy i i' with hlt | rfl | hlt
  · exact absurd hread (by rw [hmin' i e hlt hi ha]; decide)
  · exact Option.some.inj (hi.symm.trans hi')
  · exact absurd hread' (by rw [hmin i' e' hlt hi' ha']; decide)

lemma newEntries_eq (p : InfoUpdate Uuid Component) :
    p.newEntries = p.entries ∨ p.newEntries = [] := by
  rw [InfoUpdate.newEntries]
  split
  · exact .inl rfl
  · exact .inr rfl

/-- The function looks at all entries of the packet or at none. -/
lemma chosenEntries_eq (refs : MirrorRefs) (x : MirrorAnswers) (p : InfoUpdate Uuid Component) :
    chosenEntries refs x p = p.entries ∨ chosenEntries refs x p = [] := by
  have hlist (list : Option (List (Entry Uuid Component))) (size : Bool)
      (h : ∀ l ∈ list, l = p.entries ∨ l = []) :
      (list.getD []).take (listSize list size).toNat = p.entries ∨
        (list.getD []).take (listSize list size).toNat = [] := by
    rcases list with _ | l
    · exact .inr rfl
    · cases size
      · exact .inr rfl
      · simpa [listSize] using h l rfl
  have hite (c c' : Bool) (l l' : List (Entry Uuid Component)) (hl : l = p.entries ∨ l = [])
      (hl' : l' = p.entries ∨ l' = []) :
      ∀ l'' ∈ (if c then if c' then some l else some l' else none), l'' = p.entries ∨ l'' = [] := by
    cases c <;> cases c' <;> simp [hl, hl']
  have hnew := newEntries_eq p
  unfold chosenEntries
  extract_lets all new listA listB sizeA sizeB entries nEntries
  by_cases hlt : sizeA < sizeB
  · have hentries : entries = listB := if_pos hlt
    have hcount : nEntries = sizeB := if_pos hlt
    rw [hentries, hcount]
    exact hlist listB x.sizeB (hite _ _ _ _ hnew (.inl rfl))
  · have hentries : entries = listA := if_neg hlt
    have hcount : nEntries = sizeA := if_neg hlt
    rw [hentries, hcount]
    exact hlist listA x.sizeA (hite _ _ _ _ (.inl rfl) hnew)

lemma findEntry_spec [DecidableEq Uuid] (x : MirrorAnswers) (a : Uuid) {e : Entry Uuid Component}
    {l : List (Entry Uuid Component)} {k : ℕ} (h : findEntry x a k l = some e) :
    ∃ i, l[i]? = some e ∧ e.profileId = a ∧ x.readable (k + i) = true ∧
      ∀ j e', j < i → l[j]? = some e' → e'.profileId = a → x.readable (k + j) = false := by
  induction l generalizing k with
  | nil => cases h
  | cons first rest ih =>
    rw [findEntry] at h
    split at h
    next hfirst =>
      cases h
      simp only [Bool.and_eq_true, decide_eq_true_eq] at hfirst
      refine ⟨0, rfl, hfirst.1.2, ?_, fun j e' hj => absurd hj (Nat.not_lt_zero j)⟩
      simp [MirrorAnswers.readable, hfirst]
    next hfirst =>
      obtain ⟨i, hi, ha, hread, hmin⟩ := ih h
      refine ⟨i + 1, hi, ha, by rwa [← Nat.add_assoc, Nat.add_right_comm], ?_⟩
      intro j e' hj he' ha'
      rcases j with _ | j
      · cases he'
        simp only [Bool.and_eq_true, decide_eq_true_eq, not_and, Bool.not_eq_true] at hfirst
        by_contra hne
        simp only [MirrorAnswers.readable, Nat.add_zero, Bool.not_eq_false,
          Bool.and_eq_true] at hne
        obtain ⟨⟨⟨hget, hid⟩, hbytes⟩, href⟩ := hne
        exact absurd href (by simp [hfirst ⟨⟨⟨hget, hid⟩, hbytes⟩, ha'⟩])
      · have hrest := hmin j e' (by omega) he' ha'
        rwa [← Nat.add_assoc, Nat.add_right_comm]

/-- The mirrored entry is A's first entry. -/
lemma mirroredEntry_spec [DecidableEq Uuid] {refs : MirrorRefs} {x : MirrorAnswers}
    {s : Players Uuid} {p : InfoUpdate Uuid Component} {b : Uuid} {e : Entry Uuid Component}
    (h : mirroredEntry refs x s p = some (b, e)) : s.bUuid = some b ∧ FirstOf x s.aUuid p e := by
  simp only [mirroredEntry, Option.bind_eq_bind, Option.bind_eq_some_iff, Option.guard_eq_some',
    Option.pure_def, Option.some.injEq, Prod.mk.injEq] at h
  obtain ⟨-, -, -, -, b', hb, -, -, e', he, -, -, -, -, rfl, rfl⟩ := h
  refine ⟨hb, ?_⟩
  rcases chosenEntries_eq refs x p with hall | hnone
  · rw [hall] at he
    obtain ⟨i, hi, ha, hread, hmin⟩ := findEntry_spec x s.aUuid he
    simp only [Nat.zero_add] at hread hmin
    exact ⟨i, hi, ha, hread, hmin⟩
  · rw [hnone] at he
    cases he

/-! ## The fields -/

section Fields

variable {F : FriendlyByteBuf Uuid Component}

/-- The fields that A's entry has, with the one that keeps B off the list. -/
def mirroredFields (actions : UInt8) (e : Entry Uuid Component) : Fields Component where
  gameMode := if has actions 0x04 then e.gameMode else none
  listed := if has actions 0x08 then some false else none
  latency := if has actions 0x10 then some e.latency else none
  displayName := if has actions 0x20 then some e.displayName else none

/-- The fields that the function writes when it writes all that are announced. -/
def writtenFields (refs : MirrorRefs) (x : MirrorAnswers) (actions : UInt8)
    (e : Entry Uuid Component) : Fields Component where
  gameMode := if has actions 0x04 then some (writtenGameMode x e) else none
  listed := if has actions 0x08 then some false else none
  latency := if has actions 0x10 then some (writtenLatency x e) else none
  displayName := if has actions 0x20 then some (writtenDisplayName refs x e) else none

/-- Every field that is announced is written. -/
structure Complete (refs : MirrorRefs) (actions : UInt8) : Prop where
  gameMode : has actions 0x04 = true → (refs.piEntryGameModeMid && refs.gameTypeGetIdMid) = true
  latency : has actions 0x10 = true → refs.piEntryLatencyMid = true

/-- A field that is announced is read. -/
lemma reads_readIf {α : Type} {p : Parser Unit UInt8 α} {b : List UInt8} {a : α} (c : Bool)
    (h : Reads p b a) :
    Reads (readIf c p) (if c then b else []) (if c then some a else none) := by
  cases c
  · exact reads_pure none
  · exact h.map some

lemma reads_displayName (F : FriendlyByteBuf Uuid Component) (name : Option Component) :
    Reads (readDisplayName F)
      (match name with
        | some name => F.boolean.write true ++ F.component.write name
        | none => F.boolean.write false) name := by
  cases name with
  | none => exact (F.boolean.reads false).bind_nil (reads_pure none)
  | some name => exact (F.boolean.reads true).bind ((F.component.reads name).map some)

/-- What is written is read when nothing is left out. -/
lemma reads_writeFields {refs : MirrorRefs} {actions : UInt8} (h : Complete refs actions)
    (x : MirrorAnswers) (e : Entry Uuid Component) :
    Reads (readFields F actions) (writeFields F refs x actions e)
      (writtenFields refs x actions e) := by
  have hgameMode : (has actions 0x04 && (refs.piEntryGameModeMid && refs.gameTypeGetIdMid)) =
      has actions 0x04 := Bool.and_eq_left_iff_imp.mpr h.gameMode
  have hlatency : (has actions 0x10 && refs.piEntryLatencyMid) = has actions 0x10 :=
    Bool.and_eq_left_iff_imp.mpr h.latency
  rw [writeFields, writeGameMode, writeLatency, hgameMode, hlatency]
  exact (reads_readIf _ (F.varInt.reads _)).bind ((reads_readIf _ (F.boolean.reads _)).bind
    ((reads_readIf _ (F.varInt.reads _)).bind
      ((reads_readIf _ (reads_displayName F _)).bind_nil (reads_pure _))))

/-! ## How long the fields are -/

def nameLength (F : FriendlyByteBuf Uuid Component) (name : Option Component) : ℕ :=
  1 + name.elim 0 fun name => (F.component.write name).length

/-- How many bytes the writers need for the fields. -/
def fieldsLength (F : FriendlyByteBuf Uuid Component) (f : Fields Component) : ℕ :=
  (f.gameMode.elim 0 fun v => (F.varInt.write v).length) +
    ((f.listed.elim 0 fun v => (F.boolean.write v).length) +
    ((f.latency.elim 0 fun v => (F.varInt.write v).length) +
    f.displayName.elim 0 (nameLength F)))

lemma readIf_ok {α : Type} {p : Parser Unit UInt8 α} {len : α → ℕ}
    (hp : ∀ s a r, p s = .ok (a, r) → len a + r.length ≤ s.length) {c : Bool}
    {s r : List UInt8} {o : Option α} (h : readIf c p s = .ok (o, r)) :
    o.isSome = c ∧ o.elim 0 len + r.length ≤ s.length := by
  cases c
  · obtain ⟨rfl, rfl⟩ := pure_ok (x := none) h
    exact ⟨rfl, by simp⟩
  · obtain ⟨a, t, ha, h⟩ := bind_ok (f := fun a => pure (some a)) h
    obtain ⟨rfl, rfl⟩ := pure_ok h
    exact ⟨rfl, hp s a _ ha⟩

lemma readDisplayName_ok {s r : List UInt8} {name : Option Component}
    (h : readDisplayName F s = .ok (name, r)) : nameLength F name + r.length ≤ s.length := by
  obtain ⟨present, t, hpresent, h⟩ := bind_ok h
  have hone := F.boolean.shortest s present t hpresent
  have hname := (readIf_ok F.component.shortest h).2
  rw [F.boolean_length] at hone
  rw [nameLength]
  omega

/-- Fields are never read from fewer bytes than the writers need for them. -/
lemma readFields_ok {actions : UInt8} {s r : List UInt8} {f : Fields Component}
    (h : readFields F actions s = .ok (f, r)) :
    f.gameMode.isSome = has actions 0x04 ∧ fieldsLength F f + r.length ≤ s.length := by
  obtain ⟨gameMode, s₁, h₁, h⟩ := bind_ok h
  obtain ⟨listed, s₂, h₂, h⟩ := bind_ok h
  obtain ⟨latency, s₃, h₃, h⟩ := bind_ok h
  obtain ⟨displayName, s₄, h₄, h⟩ := bind_ok h
  obtain ⟨rfl, rfl⟩ := pure_ok h
  obtain ⟨hsome, hlen₁⟩ := readIf_ok F.varInt.shortest h₁
  have hlen₂ := (readIf_ok F.boolean.shortest h₂).2
  have hlen₃ := (readIf_ok F.varInt.shortest h₃).2
  have hlen₄ := (readIf_ok (fun _ _ _ => readDisplayName_ok) h₄).2
  refine ⟨hsome, ?_⟩
  simp only [fieldsLength]
  omega

/-- What is written when every field that is announced is A's. -/
structure FieldsWritten (refs : MirrorRefs) (x : MirrorAnswers) (actions : UInt8)
    (e : Entry Uuid Component) : Prop where
  gameMode : has actions 0x04 = true → (refs.piEntryGameModeMid && refs.gameTypeGetIdMid) = true ∧
    ∃ id, e.gameMode = some id ∧ ((x.gameMode && x.gameTypeId) = true ∨ id = 0)
  latency : has actions 0x10 = true → refs.piEntryLatencyMid = true ∧
    (x.latency = true ∨ e.latency = 0)
  displayName : has actions 0x20 = true → e.displayName = none ∨
    (refs.piEntryDisplayNameMid && x.displayName && refs.fbbWriteComponentMid) = true

variable {refs : MirrorRefs} {x : MirrorAnswers} {actions : UInt8} {e : Entry Uuid Component}

/-- The function writes A's game mode or 0. -/
lemma writtenGameMode_eq (x : MirrorAnswers) (e : Entry Uuid Component) :
    writtenGameMode x e = 0 ∨ e.gameMode = some (writtenGameMode x e) := by
  rw [writtenGameMode]
  cases x.gameMode
  · exact .inl rfl
  · cases he : e.gameMode with
    | none => exact .inl rfl
    | some id =>
      cases x.gameTypeId
      · exact .inl rfl
      · exact .inr rfl

lemma some_writtenGameMode_iff : some (writtenGameMode x e) = e.gameMode ↔
    ∃ id, e.gameMode = some id ∧ ((x.gameMode && x.gameTypeId) = true ∨ id = 0) := by
  rw [writtenGameMode]
  cases he : e.gameMode with
  | none => simp
  | some id => cases x.gameMode <;> cases x.gameTypeId <;> simp [eq_comm]

lemma writtenLatency_iff : writtenLatency x e = e.latency ↔ x.latency = true ∨ e.latency = 0 := by
  rw [writtenLatency]
  cases x.latency <;> simp [eq_comm]

lemma writtenDisplayName_iff : writtenDisplayName refs x e = e.displayName ↔
    e.displayName = none ∨
      (refs.piEntryDisplayNameMid && x.displayName && refs.fbbWriteComponentMid) = true := by
  rw [writtenDisplayName]
  split
  next h => exact iff_of_true rfl (.inr h)
  next h => simp [h, eq_comm]

lemma fieldsWritten_iff : FieldsWritten refs x actions e ↔
    Complete refs actions ∧ writtenFields refs x actions e = mirroredFields actions e := by
  have hfields : writtenFields refs x actions e = mirroredFields actions e ↔
      (has actions 0x04 = true → some (writtenGameMode x e) = e.gameMode) ∧
      (has actions 0x10 = true → writtenLatency x e = e.latency) ∧
      (has actions 0x20 = true → writtenDisplayName refs x e = e.displayName) := by
    simp only [writtenFields, mirroredFields, Fields.mk.injEq, true_and]
    cases has actions 0x04 <;> cases has actions 0x10 <;> cases has actions 0x20 <;> simp
  rw [hfields, some_writtenGameMode_iff, writtenLatency_iff, writtenDisplayName_iff]
  constructor
  · intro h
    exact ⟨⟨fun hhas => (h.gameMode hhas).1, fun hhas => (h.latency hhas).1⟩,
      fun hhas => (h.gameMode hhas).2, fun hhas => (h.latency hhas).2, h.displayName⟩
  · rintro ⟨hcomplete, hmode, hlatency, hname⟩
    exact ⟨fun hhas => ⟨hcomplete.gameMode hhas, hmode hhas⟩,
      fun hhas => ⟨hcomplete.latency hhas, hlatency hhas⟩, hname⟩

/-! Each field takes at most the room that A's value needs, and none at all when it is left
out. -/

lemma length_writeGameMode (F : FriendlyByteBuf Uuid Component) (refs : MirrorRefs)
    (x : MirrorAnswers) (hmode : has actions 0x04 = true → e.gameMode.isSome = true) :
    (writeGameMode F refs x actions e).length + (if has actions 0x04 = true ∧
        ¬ (refs.piEntryGameModeMid && refs.gameTypeGetIdMid) = true then 1 else 0) ≤
      (mirroredFields actions e).gameMode.elim 0 fun v => (F.varInt.write v).length := by
  rw [writeGameMode, mirroredFields]
  cases hhas : has actions 0x04 with
  | false => simp
  | true =>
    obtain ⟨id, hid⟩ := Option.isSome_iff_exists.mp (hmode hhas)
    cases refs.piEntryGameModeMid && refs.gameTypeGetIdMid with
    | false => simpa [hid, Nat.succ_le_iff] using F.varInt.length_pos id
    | true =>
      have hle : (F.varInt.write (writtenGameMode x e)).length ≤ (F.varInt.write id).length := by
        rcases writtenGameMode_eq x e with h | h
        · rw [h]
          exact F.varInt_zero id
        · rw [hid] at h
          exact (congrArg (fun v => (F.varInt.write v).length) (Option.some.inj h)).ge
      simpa [hid] using hle

lemma length_writeListed (F : FriendlyByteBuf Uuid Component) (actions : UInt8)
    (e : Entry Uuid Component) : (writeListed F actions).length =
      (mirroredFields actions e).listed.elim 0 fun v => (F.boolean.write v).length := by
  rw [writeListed, mirroredFields]
  cases has actions 0x08 <;> rfl

lemma length_writeLatency (F : FriendlyByteBuf Uuid Component) (refs : MirrorRefs)
    (x : MirrorAnswers) (actions : UInt8) (e : Entry Uuid Component) :
    (writeLatency F refs x actions e).length + (if has actions 0x10 = true ∧
        ¬ refs.piEntryLatencyMid = true then 1 else 0) ≤
      (mirroredFields actions e).latency.elim 0 fun v => (F.varInt.write v).length := by
  rw [writeLatency, mirroredFields]
  cases has actions 0x10 with
  | false => simp
  | true =>
    cases refs.piEntryLatencyMid with
    | false => simpa [Nat.succ_le_iff] using F.varInt.length_pos e.latency
    | true =>
      have hle : (F.varInt.write (writtenLatency x e)).length ≤
          (F.varInt.write e.latency).length := by
        rw [writtenLatency]
        split
        · exact Nat.le_refl _
        · exact F.varInt_zero e.latency
      simpa using hle

lemma length_writeDisplayName (F : FriendlyByteBuf Uuid Component) (refs : MirrorRefs)
    (x : MirrorAnswers) (actions : UInt8) (e : Entry Uuid Component) :
    (writeDisplayName F refs x actions e).length ≤
      (mirroredFields actions e).displayName.elim 0 (nameLength F) := by
  rw [writeDisplayName, mirroredFields]
  cases has actions 0x20 with
  | false => simp
  | true =>
    rw [writtenDisplayName]
    cases refs.piEntryDisplayNameMid && x.displayName && refs.fbbWriteComponentMid with
    | false => simp [nameLength, F.boolean_length]
    | true => cases e.displayName <;> simp [nameLength, F.boolean_length]

/-- Fewer bytes are written than are needed when something is left out. -/
lemma complete_of_length_le (hmode : has actions 0x04 = true → e.gameMode.isSome = true)
    (hlen : fieldsLength F (mirroredFields actions e) ≤
      (writeFields F refs x actions e).length) : Complete refs actions := by
  have hgameMode := length_writeGameMode F refs x hmode
  have hlisted := length_writeListed F actions e
  have hlatency := length_writeLatency F refs x actions e
  have hname := length_writeDisplayName F refs x actions e
  simp only [writeFields, fieldsLength, List.length_append] at hlen
  constructor
  · intro hhas
    by_contra hmissing
    rw [if_pos ⟨hhas, hmissing⟩] at hgameMode
    omega
  · intro hhas
    by_contra hmissing
    rw [if_pos ⟨hhas, hmissing⟩] at hlatency
    omega

/-- If A's fields are read from what is written then they are what is written. -/
lemma fieldsWritten_of_read
    (h : readFields F actions (writeFields F refs x actions e) =
      .ok (mirroredFields actions e, [])) : FieldsWritten refs x actions e := by
  obtain ⟨hmode, hlen⟩ := readFields_ok h
  have hsome : has actions 0x04 = true → e.gameMode.isSome = true := by
    intro hhas
    rw [hhas] at hmode
    simpa [mirroredFields, hhas] using hmode
  have hcomplete := complete_of_length_le hsome (by simpa using hlen)
  have hread := (reads_writeFields (F := F) hcomplete x e).run
  rw [hread] at h
  exact fieldsWritten_iff.mpr ⟨hcomplete, congrArg Prod.fst (Except.ok.inj h)⟩

end Fields

/-! ## The buffer -/

/-- The four actions that are mirrored, as they are in the original. -/
lemma outBits_eq (bits : UInt8) : outBits bits = bits &&& 0x3c := by
  have hall : ∀ n < 256, outBits (UInt8.ofNat n) = UInt8.ofNat n &&& 0x3c := by decide +kernel
  simpa using hall bits.toNat bits.toNat_lt

lemma has_outBits (bits bit : UInt8) (h : 0x3c &&& bit = bit) :
    has (outBits bits) bit = has bits bit := by
  rw [outBits_eq, has, has, UInt8.and_assoc, h]

lemma has_outBits_three (bits : UInt8) : has (outBits bits) 0x03 = false := by
  rw [outBits_eq, has, UInt8.and_assoc]
  exact decide_eq_false (not_not_intro (UInt8.and_zero (a := bits)))

/-- The fields are read with the actions that are announced. -/
lemma readFields_outBits (F : FriendlyByteBuf Uuid Component) (bits : UInt8) :
    readFields F (outBits bits) = readFields F bits := by
  rw [readFields, has_outBits bits 0x04 rfl, has_outBits bits 0x08 rfl, has_outBits bits 0x10 rfl,
    has_outBits bits 0x20 rfl, readFields]

lemma readEntry_append (F : FriendlyByteBuf Uuid Component) (actions : UInt8) (b : Uuid)
    (body : List UInt8) : readEntry F actions (F.uuid.write b ++ body) =
      (readFields F actions body).map fun r => ((b, r.1), r.2) := by
  rw [readEntry, (F.uuid.reads b).bind_append, bind_apply]
  cases readFields F actions body <;> rfl

/-- What the buffer is read as. -/
lemma readInfoUpdate_buffer (F : FriendlyByteBuf Uuid Component) (bits : UInt8) (b : Uuid)
    (body : List UInt8) :
    readInfoUpdate F (F.byte.write (outBits bits) ++ (F.varInt.write 1 ++
      (F.uuid.write b ++ body))) =
    (readFields F bits body).map fun r => ((bits &&& 0x3c, [(b, r.1)]), r.2) := by
  rw [readInfoUpdate, (F.byte.reads _).bind_append]
  simp only [has_outBits_three]
  rw [if_neg (by decide), (F.varInt.reads 1).bind_append, ← outBits_eq, bind_apply]
  have hentries : times (readEntry F (outBits bits)) 1 (F.uuid.write b ++ body) =
      (readFields F bits body).map fun r => ([(b, r.1)], r.2) := by
    rw [times, bind_apply, readEntry_append, readFields_outBits]
    cases readFields F bits body <;> rfl
  show (times (readEntry F (outBits bits)) 1 (F.uuid.write b ++ body)).bind _ = _
  rw [hentries]
  cases readFields F bits body <;> rfl

/-- The buffer is the packet that B should get: an update of B's entry alone, with the values of
A's first entry. -/
def Mirrored (F : FriendlyByteBuf Uuid Component) (x : MirrorAnswers) (s : Players Uuid)
    (p : InfoUpdate Uuid Component) (buf : List UInt8) : Prop :=
  ∃ b first, s.bUuid = some b ∧ FirstOf x s.aUuid p first ∧
    readInfoUpdate F buf = .ok ((p.actions &&& 0x3c, [(b, mirroredFields p.actions first)]), [])

/-- Whatever buffer is written, it is the packet that B should get exactly when every field that
is announced can be written and is A's. -/
theorem mirrored_iff [DecidableEq Uuid] (F : FriendlyByteBuf Uuid Component) (refs : MirrorRefs)
    (x : MirrorAnswers) (s : Players Uuid) (p : InfoUpdate Uuid Component) :
    (∀ buf ∈ mirrorPlayerInfoUpdateToB F refs x s p, Mirrored F x s p buf) ↔
      ∀ b e, mirroredEntry refs x s p = some (b, e) → FieldsWritten refs x p.actions e := by
  constructor
  · intro h b e hentry
    obtain ⟨hb, hfirst⟩ := mirroredEntry_spec hentry
    have hbuf : mirrorPlayerInfoUpdateToB F refs x s p = some _ :=
      congrArg (Option.map _) hentry
    obtain ⟨b', first, hb', hfirst', hread⟩ := h _ hbuf
    cases hb.symm.trans hb'
    cases hfirst.unique hfirst'
    rw [readInfoUpdate_buffer] at hread
    obtain ⟨r, hr, heq⟩ := exists_of_map_ok hread
    have hr' : r = (mirroredFields p.actions e, []) := by
      simp only [Prod.mk.injEq, List.cons.injEq, and_true, true_and] at heq
      exact Prod.ext heq.1 heq.2
    exact fieldsWritten_of_read (hr' ▸ hr)
  · intro h buf hbuf
    obtain ⟨⟨b, e⟩, hentry, rfl⟩ := Option.map_eq_some_iff.mp hbuf
    obtain ⟨hb, hfirst⟩ := mirroredEntry_spec hentry
    obtain ⟨hcomplete, hfields⟩ := fieldsWritten_iff.mp (h b e hentry)
    refine ⟨b, e, hb, hfirst, ?_⟩
    rw [readInfoUpdate_buffer, (reads_writeFields hcomplete x e).run, hfields]
    rfl

/-! ## A game mode that is announced and not written -/

/-- The buffer of the game: ids of 16 bytes, numbers of 32 bits in groups of seven, and
components as the text that they are serialised to. -/
def friendlyByteBuf : FriendlyByteBuf { l : List UInt8 // l.length = 16 }
    { l : List UInt8 // l.length < 2 ^ 32 } where
  byte := .item ()
  varInt := (Codec.varInt ()).map ⟨UInt32.toInt32, Int32.toUInt32, fun _ => rfl, fun _ => rfl⟩
  uuid := .block () 16 (by decide)
  boolean := .bool ()
  component := .counted ()
  varInt_zero v := ((Codec.varInt ()).length_pos v.toUInt32)
  boolean_length _ := rfl

def someUuid (n : UInt8) : { l : List UInt8 // l.length = 16 } := ⟨List.replicate 16 n, by simp⟩

/-- A new game mode and latency, while `GameType.getId` has not been found: the latency is read
as the game mode, and then there is nothing left. -/
theorem mirrored_gameMode_missing : ¬ ∀ buf ∈ mirrorPlayerInfoUpdateToB friendlyByteBuf
    { gameTypeGetIdMid := false } {} { aUuid := someUuid 1, bUuid := some (someUuid 2) }
    ⟨0x14, [⟨someUuid 1, some 1, 5, none⟩]⟩,
    Mirrored friendlyByteBuf {} { aUuid := someUuid 1, bUuid := some (someUuid 2) }
      ⟨0x14, [⟨someUuid 1, some 1, 5, none⟩]⟩ buf := by
  intro h
  obtain ⟨b, first, -, -, hread⟩ :=
    h ([0x14, 1] ++ List.replicate 16 2 ++ [5]) (by decide)
  have hfails : readInfoUpdate friendlyByteBuf ([0x14, 1] ++ List.replicate 16 2 ++ [5]) =
      .error () := rfl
  rw [hfails] at hread
  cases hread

end PlayerInfo
end Server
end SakuraTools
