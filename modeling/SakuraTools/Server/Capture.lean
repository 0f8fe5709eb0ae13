import SakuraTools.Server.LoginHandoff
import SakuraTools.Server.TabList
import SakuraTools.Team.Snapshot

/-!
# What a snapshot says

`captureNow` of `native/world_snapshot.cpp` turns what A's game has of the world into packets.  B's
game handles them after it has logged in, and then has what A's game has.  A call of the JNI that
fails throws, and then `runSnapshot` releases the packets; here no call fails.
-/

namespace SakuraTools
namespace Server
namespace WorldSnapshot

open PlayerInfo

/-! ## Chunks -/

/-- A chunk of the game, with its light. -/
structure LevelChunk (Object : Type) where
  x : ℤ
  z : ℤ
  data : Object
deriving DecidableEq

/-- `ClientChunkCache.Storage`: the chunks around a centre, each at the index that its position has
on a torus.  An entry stays where it is when the centre moves. -/
structure Storage (Object : Type) where
  chunkRadius : ℤ
  viewCenterX : ℤ := 0
  viewCenterZ : ℤ := 0
  chunks : List (Option (LevelChunk Object))
deriving DecidableEq

namespace Storage

variable {Object : Type}

def viewRange (s : Storage Object) : ℤ := s.chunkRadius * 2 + 1

/-- The index of a position, with `Math.floorMod`. -/
def index (s : Storage Object) (x z : ℤ) : ℕ :=
  (z % s.viewRange * s.viewRange + x % s.viewRange).toNat

def inRange (s : Storage Object) (x z : ℤ) : Bool :=
  decide (|x - s.viewCenterX| ≤ s.chunkRadius ∧ |z - s.viewCenterZ| ≤ s.chunkRadius)

/-- An empty storage for a radius. -/
def new (chunkRadius viewCenterX viewCenterZ : ℤ) : Storage Object where
  chunkRadius := chunkRadius
  viewCenterX := viewCenterX
  viewCenterZ := viewCenterZ
  chunks := List.replicate ((chunkRadius * 2 + 1) * (chunkRadius * 2 + 1)).toNat none

/-- The chunk at a position, if it is loaded. -/
def getChunk (s : Storage Object) (x z : ℤ) : Option (LevelChunk Object) :=
  if s.inRange x z then
    (s.chunks[s.index x z]?).join.filter fun c => c.x = x ∧ c.z = z
  else none

/-- A chunk arrives. -/
def put (s : Storage Object) (c : LevelChunk Object) : Storage Object :=
  if s.inRange c.x c.z then { s with chunks := s.chunks.set (s.index c.x c.z) (some c) } else s

/-- The radius of the storage for a view distance. -/
def storageRange (viewDistance : ℤ) : ℤ := max 2 viewDistance + 3

/-- The view distance changes. -/
def updateViewRadius (s : Storage Object) (viewDistance : ℤ) : Storage Object :=
  if s.chunkRadius = storageRange viewDistance then s
  else
    (s.chunks.filterMap id).foldl put
      (new (storageRange viewDistance) s.viewCenterX s.viewCenterZ)

/-- What the game keeps: the radius is that of a view distance, there is an entry for each index,
and a chunk is at its own one. -/
structure Sound (s : Storage Object) : Prop where
  radius : 5 ≤ s.chunkRadius
  length : s.chunks.length = (s.viewRange * s.viewRange).toNat
  index : ∀ i c, s.chunks[i]? = some (some c) → s.index c.x c.z = i

end Storage

/-! ## A's world -/

/-- What `getAddEntityPacket` returns, or the packet of a player.  A packet of another class than
these two, such as one of a mod, is custom. -/
inductive Spawn (Object : Type) where
  | addEntity (entity : Object)
  | addPlayer (entity : Object)
  | custom
deriving DecidableEq

structure Entity (Object : Type) where
  id : ℤ
  /-- It is A's own player. -/
  isSelf : Bool
  isPlayer : Bool
  /-- What `ClientboundAddPlayerPacket` says of it. -/
  playerSpawn : Object
  addEntityPacket : Spawn Object
  nonDefaultValues : Option Object
deriving DecidableEq

def Entity.spawn {Object : Type} (e : Entity Object) : Spawn Object :=
  if e.isPlayer then .addPlayer e.playerSpawn else e.addEntityPacket

/-- The entity is one that B gets. -/
def Entity.shown {Object : Type} (e : Entity Object) : Bool :=
  !e.isSelf &&
    match e.spawn with
    | .custom => false
    | _ => true

structure LocalPlayer (Object Real : Type) where
  id : ℤ
  x : Real
  y : Real
  z : Real
  yRot : Real
  xRot : Real
  abilities : Object
  health : Real
  foodLevel : ℤ
  saturationLevel : Real
  stateId : ℤ
  items : Object
  carried : Object

structure ClientLevel (Object Real : Type) where
  storage : Storage Object
  dimension : Object
  dimensionTypeId : Object
  gameTime : ℤ
  dayTime : ℤ
  /-- The teams of the scoreboard, with their players. -/
  playerTeams : List (Team.Name × List Team.Name)
  entities : List (Entity Object)
  sharedSpawnPos : Object
  sharedSpawnAngle : Real

/-- What `captureNow` reads. -/
structure AClient (Object Uuid Real : Type) where
  /-- The connection is the one that the job is for, when A's game has a listener. -/
  sameConnection : Option Bool
  level : Option (ClientLevel Object Real)
  player : Option (LocalPlayer Object Real)
  /-- What `getPlayerMode` returns, when A's game has a `gameMode`. -/
  gameType : Option Object
  levels : Object
  registryAccess : Object
  onlinePlayers : List Uuid
  list : PlayerList Uuid Object Object Object

/-! ## The packets -/

structure LoginPacket (Object : Type) where
  playerId : ℤ
  hardcore : Bool
  gameType : Object
  previousGameType : Option Object
  levels : Object
  registryHolder : Object
  dimensionType : Object
  dimension : Object
  seed : ℤ
  maxPlayers : ℤ
  chunkRadius : ℤ
  simulationDistance : ℤ
  reducedDebugInfo : Bool
  showDeathScreen : Bool
  isDebug : Bool
  isFlat : Bool
  lastDeathLocation : Option Object
  portalCooldown : ℤ

/-- A packet of the snapshot, by the name of its class. -/
inductive SnapshotPacket (Object Uuid Real : Type) where
  | login (packet : LoginPacket Object)
  | setChunkCacheRadius (radius : ℤ)
  | setChunkCacheCenter (x z : ℤ)
  | setTime (gameTime dayTime : ℤ) (daylightCycle : Bool)
  | playerInfoUpdate (packet : Announcement Uuid Object Object Object)
  | setPlayerTeam (packet : Team.TeamPacket)
  | levelChunkWithLight (chunk : LevelChunk Object)
  | spawn (id : ℤ) (spawn : Spawn Object)
  | setEntityData (id : ℤ) (values : Object)
  | playerAbilities (abilities : Object)
  | setHealth (health : Real) (food : ℤ) (saturation : Real)
  | containerSetContent (containerId stateId : ℤ) (items carried : Object)
  | setDefaultSpawnPosition (pos : Object) (angle : Real)
  | playerPosition (x y z yRot xRot : Real) (id : ℤ)

section Capture

variable {Object Uuid Real : Type}

/-- `required` -/
def required {α : Type} (object : Option α) : Except String α :=
  match object with
  | some object => .ok object
  | none => .error "Required snapshot object is missing"

def viewRadius (radius : ℤ) : ℤ := max 2 (radius - 3)

def loginPacket (a : AClient Object Uuid Real) (level : ClientLevel Object Real)
    (player : LocalPlayer Object Real) (gameType : Object) : LoginPacket Object where
  playerId := player.id
  hardcore := false
  gameType := gameType
  previousGameType := none
  levels := a.levels
  registryHolder := a.registryAccess
  dimensionType := level.dimensionTypeId
  dimension := level.dimension
  seed := 0
  maxPlayers := 1
  chunkRadius := viewRadius level.storage.chunkRadius
  simulationDistance := viewRadius level.storage.chunkRadius
  reducedDebugInfo := false
  showDeathScreen := true
  isDebug := false
  isFlat := false
  lastDeathLocation := none
  portalCooldown := 0

/-- The chunks that are sent: entries that the centre has left behind are not. -/
def sentChunks (s : Storage Object) : List (LevelChunk Object) :=
  s.chunks.filterMap fun entry => entry.filter fun c => s.inRange c.x c.z

/-- The body of the loop over the entities. -/
def entityPackets (e : Entity Object) : List (SnapshotPacket Object Uuid Real) :=
  if e.shown then
    .spawn e.id e.spawn ::
      match e.nonDefaultValues with
      | some values => [.setEntityData e.id values]
      | none => []
  else []

/-- The packets, in the order in which `add` is called. -/
def snapshotPackets (a : AClient Object Uuid Real) (level : ClientLevel Object Real)
    (player : LocalPlayer Object Real) (gameType : Object) :
    List (SnapshotPacket Object Uuid Real) :=
  [.login (loginPacket a level player gameType),
    .setChunkCacheRadius (viewRadius level.storage.chunkRadius),
    .setChunkCacheCenter level.storage.viewCenterX level.storage.viewCenterZ,
    .setTime level.gameTime level.dayTime true,
    .playerInfoUpdate (captureInfo a.list a.onlinePlayers)] ++
  level.playerTeams.map (fun t => .setPlayerTeam ⟨t.1, 0, t.2⟩) ++
  (sentChunks level.storage).map .levelChunkWithLight ++
  level.entities.flatMap entityPackets ++
  [.playerAbilities player.abilities,
    .setHealth player.health player.foodLevel player.saturationLevel,
    .containerSetContent 0 player.stateId player.items player.carried,
    .setDefaultSpawnPosition level.sharedSpawnPos level.sharedSpawnAngle,
    .playerPosition player.x player.y player.z player.yRot player.xRot LoginHandoff.teleportId]

/-- `captureNow`.  `chunkOf` is the floor of a 16th. -/
def captureNow (chunkOf : Real → ℤ) (a : AClient Object Uuid Real) :
    Except String (List (SnapshotPacket Object Uuid Real)) := do
  let sameConnection ← required a.sameConnection
  if !sameConnection then throw "A changed connection during snapshot"
  let level ← required a.level
  let player ← required a.player
  let gameType ← required a.gameType
  let playerChunk := (sentChunks level.storage).any fun c =>
    c.x = chunkOf player.x ∧ c.z = chunkOf player.z
  if !playerChunk then throw "A's player chunk is not loaded"
  pure (snapshotPackets a level player gameType)

end Capture

/-! ## B's game -/

/-- What B's game has.  The scoreboard has its own model: its packets pass the filter. -/
structure BClient (Object Uuid Real : Type) where
  login : Option (LoginPacket Object) := none
  storage : Storage Object := Storage.new 0 0 0
  time : Option (ℤ × ℤ) := none
  list : PlayerList Uuid Object Object Object := fun _ => none
  entities : ℤ → Option (Spawn Object × Option Object) := fun _ => none
  abilities : Option Object := none
  health : Option (Real × ℤ × Real) := none
  content : Option (ℤ × Object × Object) := none
  spawnPosition : Option (Object × Real) := none
  position : Option (Real × Real × Real × Real × Real) := none

section Handle

variable {Object Uuid Real : Type} [DecidableEq Uuid]

/-- B's game handles a packet.  A login packet starts a new level. -/
def BClient.handle (c : BClient Object Uuid Real) :
    SnapshotPacket Object Uuid Real → BClient Object Uuid Real
  | .login p =>
    { login := some p, list := c.list
      storage := Storage.new (Storage.storageRange p.chunkRadius) 0 0 }
  | .setChunkCacheRadius radius => { c with storage := c.storage.updateViewRadius radius }
  | .setChunkCacheCenter x z =>
    { c with storage := { c.storage with viewCenterX := x, viewCenterZ := z } }
  | .setTime gameTime dayTime _ => { c with time := some (gameTime, dayTime) }
  | .playerInfoUpdate p => { c with list := PlayerInfo.handle c.list p }
  | .setPlayerTeam _ => c
  | .levelChunkWithLight chunk => { c with storage := c.storage.put chunk }
  | .spawn id spawn => { c with entities := Function.update c.entities id (some (spawn, none)) }
  | .setEntityData id values =>
    { c with
      entities := Function.update c.entities id
        ((c.entities id).map fun e => (e.1, some values)) }
  | .playerAbilities abilities => { c with abilities := some abilities }
  | .setHealth health food saturation => { c with health := some (health, food, saturation) }
  | .containerSetContent _ stateId items carried =>
    { c with content := some (stateId, items, carried) }
  | .setDefaultSpawnPosition pos angle => { c with spawnPosition := some (pos, angle) }
  | .playerPosition x y z yRot xRot _ => { c with position := some (x, y, z, yRot, xRot) }

end Handle

/-! ## Chunks that arrive -/

namespace Storage

variable {Object : Type} {s : Storage Object}

/-- What is sent of a chunk's place is what the game has there. -/
lemma Sound.getChunk_of_mem (h : s.Sound) {c : LevelChunk Object} (hc : c ∈ sentChunks s) :
    s.getChunk c.x c.z = some c := by
  obtain ⟨entry, hentry, hnear⟩ := List.mem_filterMap.mp hc
  obtain ⟨rfl, hrange⟩ := Option.filter_eq_some_iff.mp hnear
  obtain ⟨i, hi⟩ := List.mem_iff_getElem?.mp hentry
  have hindex := h.index i c hi
  rw [getChunk, if_pos hrange, hindex, hi]
  simp

lemma mem_sentChunks_of_getChunk {x z : ℤ} {c : LevelChunk Object}
    (h : s.getChunk x z = some c) : c ∈ sentChunks s ∧ c.x = x ∧ c.z = z := by
  obtain ⟨hrange, hchunk⟩ := Option.ite_none_right_eq_some.mp h
  obtain ⟨hjoin, hpos⟩ := Option.filter_eq_some_iff.mp hchunk
  obtain ⟨rfl, rfl⟩ := of_decide_eq_true hpos
  refine ⟨List.mem_filterMap.mpr ⟨some c, ?_, ?_⟩, rfl, rfl⟩
  · exact List.mem_of_getElem? (Option.join_eq_some_iff.mp hjoin)
  · exact Option.filter_eq_some_iff.mpr ⟨rfl, hrange⟩

lemma Sound.new {radius : ℤ} (h : 5 ≤ radius) (x z : ℤ) :
    (new radius x z : Storage Object).Sound where
  radius := h
  length := List.length_replicate
  index i c hc := by
    rw [Storage.new, List.getElem?_replicate] at hc
    split at hc <;> simp at hc

lemma Sound.put (h : s.Sound) (c : LevelChunk Object) : (s.put c).Sound := by
  rw [Storage.put]
  split
  · refine ⟨h.radius, List.length_set.trans h.length, fun i c' hc' => ?_⟩
    rw [List.getElem?_set] at hc'
    split at hc'
    · split at hc'
      · cases hc'
        assumption
      · cases hc'
    · exact h.index i c' hc'
  · exact h

lemma le_storageRange (viewDistance : ℤ) : 5 ≤ storageRange viewDistance := by
  rw [storageRange]
  omega

lemma Sound.updateViewRadius (h : s.Sound) (viewDistance : ℤ) :
    (s.updateViewRadius viewDistance).Sound := by
  rw [Storage.updateViewRadius]
  split
  · exact h
  · exact List.foldlRecOn _ _ (Sound.new (le_storageRange viewDistance) _ _)
      fun s hs c _ => hs.put c

end Storage

/-! ## Entities that arrive -/

section Entities

variable {Object Uuid Real : Type}

variable {m : ℤ → Option (Spawn Object × Option Object)} {es : List (Entity Object)} {id : ℤ}
  {e : Entity Object}

variable [DecidableEq Uuid]

end Entities

/-! ## What B has of A's world -/

/-- What A's game keeps of its level. -/
structure ClientLevel.Sound {Object Real : Type} (level : ClientLevel Object Real) : Prop where
  storage : level.storage.Sound
  /-- No two entities have the same id. -/
  ids : (level.entities.map Entity.id).Nodup

/-- What A's game keeps of the players that are online. -/
structure AClient.Sound {Object Uuid Real : Type} (a : AClient Object Uuid Real) : Prop where
  nodup : a.onlinePlayers.Nodup
  online : ∀ id, id ∈ a.onlinePlayers ↔ (a.list id).isSome = true

section Reproduces

variable {Object Uuid Real : Type} {chunkOf : Real → ℤ} {a : AClient Object Uuid Real}
  {level : ClientLevel Object Real} {player : LocalPlayer Object Real} {gameType : Object}
  {packets : List (SnapshotPacket Object Uuid Real)} {c : BClient Object Uuid Real}

lemma required_bind_eq_ok {α β : Type} {object : Option α} {f : α → Except String β} {y : β}
    (h : required object >>= f = .ok y) : ∃ x, object = some x ∧ f x = .ok y := by
  cases object with
  | none => cases h
  | some x => exact ⟨x, rfl, h⟩

/-- What has been checked when nothing is thrown. -/
lemma captureNow_eq_ok (h : captureNow chunkOf a = .ok packets) :
    ∃ level player gameType, a.level = some level ∧ a.player = some player ∧
      a.gameType = some gameType ∧
      (∃ c ∈ sentChunks level.storage, c.x = chunkOf player.x ∧ c.z = chunkOf player.z) ∧
      packets = snapshotPackets a level player gameType := by
  obtain ⟨sameConnection, -, h⟩ := required_bind_eq_ok h
  cases sameConnection with
  | false => cases h
  | true =>
    obtain ⟨level, hlevel, h⟩ := required_bind_eq_ok h
    obtain ⟨player, hplayer, h⟩ := required_bind_eq_ok h
    obtain ⟨gameType, hgameType, h⟩ := required_bind_eq_ok h
    refine ⟨level, player, gameType, hlevel, hplayer, hgameType, ?_⟩
    cases hany : (sentChunks level.storage).any fun c =>
        c.x = chunkOf player.x ∧ c.z = chunkOf player.z with
    | false =>
      rw [hany] at h
      cases h
    | true =>
      rw [hany] at h
      cases h
      obtain ⟨c, hc, hpos⟩ := List.any_eq_true.mp hany
      exact ⟨⟨c, hc, of_decide_eq_true hpos⟩, rfl⟩

/-- `captureNow` throws exactly when A has another connection, when something of A's game is
missing, or when the chunk that A is in is not loaded. -/
theorem captureNow_ok_iff (hlevel : ∀ level ∈ a.level, level.storage.Sound) :
    (∃ packets, captureNow chunkOf a = .ok packets) ↔
      a.sameConnection = some true ∧ a.gameType.isSome = true ∧
        ∃ level player, a.level = some level ∧ a.player = some player ∧
          (level.storage.getChunk (chunkOf player.x) (chunkOf player.z)).isSome = true := by
  constructor
  · rintro ⟨packets, h⟩
    have hsame : a.sameConnection = some true := by
      obtain ⟨sameConnection, hsame, h⟩ := required_bind_eq_ok h
      cases sameConnection with
      | true => exact hsame
      | false => cases h
    obtain ⟨level, player, gameType, hl, hp, hg, ⟨chunk, hchunk, hx, hz⟩, -⟩ := captureNow_eq_ok h
    refine ⟨hsame, hg ▸ rfl, level, player, hl, hp, ?_⟩
    rw [← hx, ← hz, (hlevel level hl).getChunk_of_mem hchunk]
    rfl
  · rintro ⟨hsame, hgameType, level, player, hl, hp, hchunk⟩
    obtain ⟨gameType, hg⟩ := Option.isSome_iff_exists.mp hgameType
    obtain ⟨chunk, hchunk⟩ := Option.isSome_iff_exists.mp hchunk
    obtain ⟨hmem, hx, hz⟩ := Storage.mem_sentChunks_of_getChunk hchunk
    have hany : (sentChunks level.storage).any (fun c =>
        c.x = chunkOf player.x ∧ c.z = chunkOf player.z) = true :=
      List.any_eq_true.mpr ⟨chunk, hmem, decide_eq_true ⟨hx, hz⟩⟩
    refine ⟨snapshotPackets a level player gameType, ?_⟩
    rw [captureNow, hsame, hl, hp, hg]
    show (if !((sentChunks level.storage).any _) then _ else _ : Except String _) = _
    rw [hany]
    rfl

variable [DecidableEq Uuid]

/-- Whatever packets a game gets, it keeps its chunks in order. -/
lemma sound_run (ps : List (SnapshotPacket Object Uuid Real)) (hc : c.storage.Sound) :
    (ps.foldl BClient.handle c).storage.Sound := by
  induction ps generalizing c with
  | nil => exact hc
  | cons p ps ih =>
    refine ih ?_
    cases p with
    | login p => exact Storage.Sound.new (Storage.le_storageRange p.chunkRadius) 0 0
    | setChunkCacheRadius radius => exact hc.updateViewRadius radius
    | setChunkCacheCenter x z => exact ⟨hc.radius, hc.length, hc.index⟩
    | levelChunkWithLight chunk => exact hc.put chunk
    | _ => exact hc

end Reproduces

/-! ## A small world -/

/-- A's game: two chunks have arrived, and then the centre has moved on from the first. -/
def sampleGame : BClient ℤ Bool ℤ :=
  [.levelChunkWithLight ⟨-5, 0, 7⟩, .levelChunkWithLight ⟨1, 0, 8⟩,
    .setChunkCacheCenter 1 0].foldl BClient.handle { storage := Storage.new 5 0 0 }

/-- A's own player, a creature, and an entity of a mod. -/
def sampleLevel : ClientLevel ℤ ℤ where
  storage := sampleGame.storage
  dimension := 0
  dimensionTypeId := 0
  gameTime := 6000
  dayTime := 6000
  playerTeams := [([1], [[65]])]
  entities := [⟨1, true, true, 0, .custom, none⟩, ⟨2, false, false, 0, .addEntity 9, some 4⟩,
    ⟨3, false, false, 0, .custom, none⟩]
  sharedSpawnPos := 0
  sharedSpawnAngle := 0

def sampleSelf : LocalPlayer ℤ ℤ where
  id := 1
  x := 20
  y := 64
  z := 3
  yRot := 0
  xRot := 0
  abilities := 0
  health := 20
  foodLevel := 20
  saturationLevel := 5
  stateId := 0
  items := 0
  carried := 0

def sampleClient : AClient ℤ Bool ℤ where
  sameConnection := some true
  level := some sampleLevel
  player := some sampleSelf
  gameType := some 0
  levels := 0
  registryAccess := 0
  onlinePlayers := [true]
  list := fun id => if id then some { profile := none } else none

lemma sampleLevel_sound : sampleLevel.Sound where
  storage := sound_run _ (Storage.Sound.new (le_refl 5) 0 0)
  ids := by decide

/-- A is where the centre has left a chunk behind. -/
def strayedClient : AClient ℤ Bool ℤ :=
  { sampleClient with player := some { sampleSelf with x := -80 } }

/-- The chunk is in the storage, but it is not loaded any more. -/
theorem captureNow_ok_iff_sample :
    ¬ ∃ packets, captureNow (· / 16) strayedClient = .ok packets := by
  have hlevel : ∀ level ∈ strayedClient.level, level.storage.Sound := by
    intro level hl
    cases hl
    exact sampleLevel_sound.storage
  rw [captureNow_ok_iff hlevel]
  rintro ⟨-, -, level, player, hl, hp, hchunk⟩
  cases hl
  cases hp
  exact absurd hchunk (by decide)

end WorldSnapshot
end Server
end SakuraTools
