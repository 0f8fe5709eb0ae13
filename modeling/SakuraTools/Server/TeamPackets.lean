import SakuraTools.Lib.Deferred
import SakuraTools.Server.Stream

/-!
# Team packets on their way to B

`prepareTeamPacket` reads a team packet of A's server through JNI, lets `TeamState` decide what B
is told, and builds a packet for B.  Every call on the way may fail.  A call that fails leaves an
exception pending, which is looked for now and then; the calls that JNI lets return a null
reference without an exception, or that the code itself does not trust, may do that too.
-/

namespace SakuraTools
namespace Server
namespace TeamPackets

open Team (Name TeamState RawPacket)
open Deferred

/-! ## Packets, references and answers -/

/-- The fields of a `ClientboundSetPlayerTeamPacket`; `parameters` is a reference that is only
handed on. -/
structure TeamPacket extends RawPacket where
  parameters : ℕ
deriving DecidableEq, Repr

/-- What `prepareTeamPacket` tells apart. -/
inductive Packet where
  | team (p : TeamPacket)
  /-- `ClientboundLoginPacket` -/
  | login
  | other
deriving DecidableEq, Repr

/-- The packet that B is sent. -/
inductive Outgoing where
  /-- A reference to the packet of A's server. -/
  | same
  | team (p : TeamPacket)
deriving DecidableEq, Repr

/-- The bindings that have been found, and the names of the two players if they are known. -/
structure TeamRefs where
  setPlayerTeamPacketCls : Bool := true
  setPlayerTeamCtor : Bool := true
  setPlayerTeamParametersFid : Bool := true
  setPlayerTeamMethodFid : Bool := true
  setPlayerTeamNameFid : Bool := true
  setPlayerTeamPlayersFid : Bool := true
  aPlayer : Option Name := none
  bPlayer : Option Name := none
deriving DecidableEq, Repr

/-- What a call returns that may return null without an exception. -/
inductive RefAnswer where
  | ref
  | null
  | threw
deriving DecidableEq, Repr

/-- The answers of the calls of `prepareTeamPacket`, in their order: whether a call does what it
should. -/
structure TeamAnswers where
  /-- `JniClassName` finds the name of the class. -/
  className : Bool := true
  /-- `NewLocalRef` returns a reference to the packet. -/
  newLocalRef : Bool := true
  pushLocalFrame : Bool := true
  -- the fields of the packet
  method : Bool := true
  team : Bool := true
  players : Bool := true
  parameters : Bool := true
  -- `java.util.Collection`, its `toArray` and the call of it
  collection : Bool := true
  toArray : Bool := true
  array : Bool := true
  /-- `GetObjectArrayElement`, by the index. -/
  element : ℕ → Bool := fun _ => true
  -- `GetStringChars` for the players, the team, A and B
  elementChars : ℕ → RefAnswer := fun _ => .ref
  teamChars : RefAnswer := .ref
  aChars : RefAnswer := .ref
  bChars : RefAnswer := .ref
  -- `java.util.ArrayList`, its constructor, its `add` and the new list
  listClass : Bool := true
  listCtor : Bool := true
  listAdd : Bool := true
  list : Bool := true
  newString : ℕ → Bool := fun _ => true
  add : ℕ → Bool := fun _ => true
  packet : RefAnswer := .ref
  /-- `PopLocalFrame` returns a reference to the new packet. -/
  popLocalFrame : Bool := true

/-! ## Calls -/

/-- What the calls can see and change. -/
structure Env where
  /-- `server.teams` -/
  teams : TeamState
  /-- An exception is pending. -/
  pending : Bool := false
  /-- How many local frames have been pushed, and popped. -/
  pushed : ℕ := 0
  popped : ℕ := 0

abbrev TeamM := EStateM String Env

/-- A call that returns a value, or leaves an exception pending. -/
def call {α : Type} (ok : Bool) (a : α) : TeamM (Option α) :=
  if ok then pure (some a)
  else do
    modify fun s => { s with pending := true }
    pure none

def check : TeamM Unit := do
  if (← get).pending then throw "team JNI operation failed"

def require (ok : Bool) (error : String) : TeamM Unit :=
  if ok then pure () else throw error

/-- A call that returns a reference or null, with the exception check and the test for null. -/
def reference (answer : RefAnswer) (error : String) : TeamM Unit := do
  let _ ← call (answer ≠ .threw) ()
  check
  require (answer = .ref) error

def name (value : Option Name) (chars : RefAnswer) : TeamM Name :=
  match value with
  | none => pure []
  | some value => do
    reference chars "team string unavailable"
    pure value

/-! ## `prepareTeamPacket` -/

/-- What the first half of the `try` block reads. -/
structure Reading where
  method : ℤ
  team : Name
  parameters : ℕ
  players : List Name
  a : Name
  b : Name
deriving DecidableEq, Repr

def bindings (refs : TeamRefs) : Bool :=
  refs.setPlayerTeamCtor && refs.setPlayerTeamParametersFid && refs.setPlayerTeamMethodFid &&
    refs.setPlayerTeamNameFid && refs.setPlayerTeamPlayersFid

/-- The reading of the packet and of the two names. -/
def readTeamPacket (refs : TeamRefs) (x : TeamAnswers) (p : TeamPacket) : TeamM Reading := do
  require (bindings refs) "team bindings unavailable"
  let method ← call x.method p.method
  let team ← call x.team p.team
  let players ← call x.players p.players
  let parameters ← call x.parameters p.parameters
  check
  let _ ← call x.collection ()
  let _ ← call x.toArray ()
  check
  let array ← call x.array (players.getD [])
  check
  let names ← each (fun i player => do
    let value ← call (x.element i) player
    name value (x.elementChars i)) 0 (array.getD [])
  let teamName ← name team x.teamChars
  let a ← name refs.aPlayer x.aChars
  let b ← name refs.bPlayer x.bChars
  pure ⟨method.getD 0, teamName, parameters.getD 0, names, a, b⟩

/-- The list and the packet for B. -/
def buildTeamPacket (x : TeamAnswers) (p : TeamPacket) : TeamM Outgoing := do
  let _ ← call x.listClass ()
  let _ ← call x.listCtor ()
  let _ ← call x.listAdd ()
  check
  let _ ← call x.list ()
  check
  let list ← each (fun i player => do
    let value ← call (x.newString i) player
    check
    let _ ← call (x.add i) ()
    check
    pure (value.getD [])) 0 p.players
  reference x.packet "team packet unavailable"
  pure (.team { p with players := list })

def popLocalFrame : TeamM Unit := modify fun s => { s with popped := s.popped + 1 }

/-- The second half of the `try` block: `TeamState` decides, and its new state is kept when the
packet for B is there. -/
def sendTeamPacket (x : TeamAnswers) (r : Reading) : TeamM (Bool × Option Outgoing) := do
  let (next, update) := (← get).teams.apply r.team r.method r.players r.a r.b
  if !update.send then
    modify fun s => { s with teams := next }
    popLocalFrame
    pure (true, none)
  else
    let result ← buildTeamPacket x ⟨⟨r.team, r.method, update.players⟩, r.parameters⟩
    modify fun s => { s with teams := next }
    popLocalFrame
    -- the reference to `result` in the frame below, or null
    let output := if x.popLocalFrame then some result else none
    pure (output.isSome, output)

/-- The `try` block. -/
def tryTeamPacket (refs : TeamRefs) (x : TeamAnswers) (p : TeamPacket) :
    TeamM (Bool × Option Outgoing) := do
  let r ← readTeamPacket refs x p
  sendTeamPacket x r

/-- `prepareTeamPacket`, with what it returns and the `output` that it leaves. -/
def prepareTeamPacket (refs : TeamRefs) (x : TeamAnswers) (packet : Packet) (s : Env) :
    (Bool × Option Outgoing) × Env :=
  match packet with
  | .team p =>
    if !refs.setPlayerTeamPacketCls then forwardSame x false s
    else if !x.pushLocalFrame then ((false, none), { s with pending := true })
    else
      match tryTeamPacket refs x p { s with pushed := s.pushed + 1 } with
      | .ok result s => (result, s)
      | .error _ s => ((false, none), { s with pending := false, popped := s.popped + 1 })
  | .login => forwardSame x x.className s
  | .other => forwardSame x false s
where
  /-- The branch for other packets. -/
  forwardSame (x : TeamAnswers) (login : Bool) (s : Env) : (Bool × Option Outgoing) × Env :=
    let output := if x.newLocalRef then some .same else none
    ((output.isSome, output), if login then { s with teams := .empty } else s)

/-! ## The calls -/

def Pending (s : Env) : Prop := s.pending = true

/-- The same teams, and no frame has been pushed or popped. -/
def Same (s s' : Env) : Prop :=
  s'.teams = s.teams ∧ s'.pushed = s.pushed ∧ s'.popped = s.popped

instance : Std.Refl Same := ⟨fun _ => ⟨rfl, rfl, rfl⟩⟩

instance : IsTrans Env Same :=
  ⟨fun _ _ _ h h' => ⟨h'.1.trans h.1, h'.2.1.trans h.2.1, h'.2.2.trans h.2.2⟩⟩

section Calls

variable {α : Type} {s : Env}

lemma does_call (ok : Bool) (a : α) (s : Env) :
    Does Pending Same (ok = true) (some a) (call ok a) s := by
  constructor
  · rintro rfl
    rfl
  · intro h
    obtain rfl : ok = false := by simpa using h
    exact ⟨rfl, rfl, rfl, rfl⟩

lemma sticky_call (ok : Bool) (a : α) : Sticky Pending Same (call ok a) := by
  intro s hs
  cases ok
  · exact ⟨rfl, rfl, rfl, rfl⟩
  · exact ⟨hs, rfl, rfl, rfl⟩

lemma check_of_pending (h : s.pending = true) :
    check s = .error "team JNI operation failed" s := by
  show (if s.pending then throw _ else pure () : TeamM Unit) s = _
  rw [if_pos h]
  rfl

lemma settles_check (h : s.pending = false) : Settles Same True () check s := by
  refine ⟨fun _ => ?_, fun h => absurd trivial h⟩
  show (if s.pending then throw _ else pure () : TeamM Unit) s = _
  rw [h]
  rfl

lemma notices_check : Notices Pending Same check :=
  fun s hs => ⟨_, s, check_of_pending hs, refl_of Same s⟩

lemma settles_require (ok : Bool) (error : String) (s : Env) :
    Settles Same (ok = true) () (require ok error) s := by
  constructor
  · rintro rfl
    rfl
  · intro h
    obtain rfl : ok = false := by simpa using h
    exact ⟨error, s, rfl, refl_of Same s⟩

lemma settles_reference (h : s.pending = false) (answer : RefAnswer) (error : String) :
    Settles Same (answer = .ref) () (reference answer error) s := by
  refine ((does_call _ () s).bind_settles ((settles_check h).bind (settles_require _ _ s))
    fun _ => notices_check.bind _).congr ?_
  cases answer <;> decide

lemma notices_reference (answer : RefAnswer) (error : String) :
    Notices Pending Same (reference answer error) :=
  (sticky_call _ ()).bind_notices fun _ => notices_check.bind _

lemma settles_name (h : s.pending = false) (value : Option Name) (chars : RefAnswer) :
    Settles Same (value.isSome → chars = .ref) (value.getD []) (name value chars) s := by
  cases value with
  | none => exact (settles_pure [] s).congr (by simp)
  | some value =>
    exact ((settles_reference h chars _).bind (settles_pure value s)).congr (by simp)

lemma notices_name (value : Name) (chars : RefAnswer) :
    Notices Pending Same (name (some value) chars) := (notices_reference chars _).bind _

lemma sticky_name (value : Option Name) (chars : RefAnswer) :
    Sticky Pending Same (name value chars) := by
  cases value with
  | none => exact sticky_pure []
  | some value => exact (notices_name value chars).sticky

end Calls

/-! ## Reading and building -/

/-- Every call that reads the packet and the names does what it should. -/
structure Readable (refs : TeamRefs) (x : TeamAnswers) (p : TeamPacket) : Prop where
  bindings : bindings refs = true
  fields : x.method = true ∧ x.team = true ∧ x.players = true ∧ x.parameters = true
  toArray : x.collection = true ∧ x.toArray = true ∧ x.array = true
  players : ∀ i < p.players.length, x.element i = true ∧ x.elementChars i = .ref
  team : x.teamChars = .ref
  a : refs.aPlayer.isSome → x.aChars = .ref
  b : refs.bPlayer.isSome → x.bChars = .ref

/-- Every call that builds the packet for B does what it should. -/
structure Buildable (x : TeamAnswers) (players : List Name) : Prop where
  methods : x.listClass = true ∧ x.listCtor = true ∧ x.listAdd = true
  list : x.list = true
  players : ∀ i < players.length, x.newString i = true ∧ x.add i = true
  packet : x.packet = .ref

/-- What is read of a packet. -/
def reading (refs : TeamRefs) (p : TeamPacket) : Reading :=
  ⟨p.method, p.team, p.parameters, p.players, refs.aPlayer.getD [], refs.bPlayer.getD []⟩

section Halves

variable {s : Env}

lemma settles_readTeamPacket (h : s.pending = false) (refs : TeamRefs) (x : TeamAnswers)
    (p : TeamPacket) :
    Settles Same (Readable refs x p) (reading refs p) (readTeamPacket refs x p) s := by
  have hcheck := settles_check h
  have hnames : Settles Same
      ((∀ i, 0 ≤ i → i < 0 + p.players.length → x.element i = true ∧ x.elementChars i = .ref) ∧
        x.teamChars = .ref ∧ (refs.aPlayer.isSome → x.aChars = .ref) ∧
        (refs.bPlayer.isSome → x.bChars = .ref) ∧ True) (reading refs p)
      (do
        let names ← each (fun i player => do
          let value ← call (x.element i) player
          name value (x.elementChars i)) 0 p.players
        let teamName ← name (some p.team) x.teamChars
        let a ← name refs.aPlayer x.aChars
        let b ← name refs.bPlayer x.bChars
        pure (⟨p.method, teamName, p.parameters, names, a, b⟩ : Reading)) s := by
    have hplayer (i : ℕ) (player : Name) : Does Pending Same
        (x.element i = true ∧ x.elementChars i = .ref) player
        (do
          let value ← call (x.element i) player
          name value (x.elementChars i)) s :=
      Does.congr ((does_call (x.element i) player s).bind
        (settles_name h (some player) (x.elementChars i)).does fun value => sticky_name value _)
        (by simp)
    have hloop := does_each (g := id) hplayer
      (fun i player => (sticky_call _ player).bind fun value => sticky_name value _) 0 p.players
    rw [List.map_id] at hloop
    have hrest : Settles Same (((some p.team).isSome → x.teamChars = .ref) ∧
        (refs.aPlayer.isSome → x.aChars = .ref) ∧ (refs.bPlayer.isSome → x.bChars = .ref) ∧ True)
        (reading refs p)
        (do
          let teamName ← name (some p.team) x.teamChars
          let a ← name refs.aPlayer x.aChars
          let b ← name refs.bPlayer x.bChars
          pure (⟨p.method, teamName, p.parameters, p.players, a, b⟩ : Reading)) s :=
      (settles_name h _ _).bind ((settles_name h _ _).bind ((settles_name h _ _).bind
        (settles_pure _ s)))
    refine Settles.congr (hloop.bind_settles hrest fun names => (notices_name _ _).bind _) ?_
    simp
  have hcalls : Settles Same _ (reading refs p) (readTeamPacket refs x p) s :=
    (settles_require _ _ s).bind
      ((does_call x.method p.method s).bind_settles
        ((does_call x.team p.team s).bind_settles
          ((does_call x.players p.players s).bind_settles
            ((does_call x.parameters p.parameters s).bind_settles
              (hcheck.bind
                ((does_call x.collection () s).bind_settles
                  ((does_call x.toArray () s).bind_settles
                    (hcheck.bind
                      ((does_call x.array p.players s).bind_settles (hcheck.bind hnames)
                        fun _ => notices_check.bind _))
                    fun _ => notices_check.bind _)
                  fun _ => (sticky_call _ _).bind_notices fun _ => notices_check.bind _))
              fun _ => notices_check.bind _)
            fun _ => (sticky_call _ _).bind_notices fun _ => notices_check.bind _)
          fun _ => (sticky_call _ _).bind_notices fun _ =>
            (sticky_call _ _).bind_notices fun _ => notices_check.bind _)
        fun _ => (sticky_call _ _).bind_notices fun _ => (sticky_call _ _).bind_notices fun _ =>
          (sticky_call _ _).bind_notices fun _ => notices_check.bind _)
  refine hcalls.congr ⟨?_, ?_⟩
  · rintro ⟨hb, hm, ht, hps, hpar, -, hc, hta, -, harr, -, helem, hchars, ha, hb', -⟩
    exact ⟨hb, ⟨hm, ht, hps, hpar⟩, ⟨hc, hta, harr⟩,
      fun i hi => helem i (Nat.zero_le i) (by omega), hchars, ha, hb'⟩
  · rintro ⟨hb, ⟨hm, ht, hps, hpar⟩, ⟨hc, hta, harr⟩, helem, hchars, ha, hb'⟩
    exact ⟨hb, hm, ht, hps, hpar, trivial, hc, hta, trivial, harr, trivial,
      fun i _ hi => helem i (by omega), hchars, ha, hb', trivial⟩

lemma settles_buildTeamPacket (h : s.pending = false) (x : TeamAnswers) (p : TeamPacket) :
    Settles Same (Buildable x p.players) (.team p) (buildTeamPacket x p) s := by
  have hcheck := settles_check h
  have hplayer (i : ℕ) (player : Name) : Does Pending Same
      (x.newString i = true ∧ True ∧ x.add i = true ∧ True ∧ True) player
      (do
        let value ← call (x.newString i) player
        check
        let _ ← call (x.add i) ()
        check
        pure (value.getD [])) s :=
    Settles.does ((does_call _ player s).bind_settles
      (hcheck.bind ((does_call _ () s).bind_settles (hcheck.bind (settles_pure _ s))
        fun _ => notices_check.bind _))
      fun _ => notices_check.bind _)
  have hsticky (i : ℕ) (player : Name) : Sticky Pending Same
      (do
        let value ← call (x.newString i) player
        check
        let _ ← call (x.add i) ()
        check
        pure (value.getD [])) :=
    ((sticky_call _ player).bind_notices fun _ => notices_check.bind _).sticky
  have hloop := does_each (g := id) hplayer hsticky 0 p.players
  rw [List.map_id] at hloop
  have hcalls : Settles Same _ (.team p) (buildTeamPacket x p) s :=
    (does_call x.listClass () s).bind_settles
      ((does_call x.listCtor () s).bind_settles
        ((does_call x.listAdd () s).bind_settles
          (hcheck.bind
            ((does_call x.list () s).bind_settles
              (hcheck.bind
                (hloop.bind_settles
                  ((settles_reference h x.packet _).bind (settles_pure _ s))
                  fun _ => (notices_reference _ _).bind _))
              fun _ => notices_check.bind _))
          fun _ => notices_check.bind _)
        fun _ => (sticky_call _ _).bind_notices fun _ => notices_check.bind _)
      fun _ => (sticky_call _ _).bind_notices fun _ => (sticky_call _ _).bind_notices fun _ =>
        notices_check.bind _
  refine hcalls.congr ⟨?_, ?_⟩
  · rintro ⟨hcls, hctor, hadd, -, hlist, -, hplayers, hpacket, -⟩
    refine ⟨⟨hcls, hctor, hadd⟩, hlist, fun i hi => ?_, hpacket⟩
    obtain ⟨hstring, -, hadd, -, -⟩ := hplayers i (Nat.zero_le i) (by omega)
    exact ⟨hstring, hadd⟩
  · rintro ⟨⟨hcls, hctor, hadd⟩, hlist, hplayers, hpacket⟩
    refine ⟨hcls, hctor, hadd, trivial, hlist, trivial, fun i _ hi => ?_, hpacket, trivial⟩
    obtain ⟨hstring, hadd⟩ := hplayers i (by omega)
    exact ⟨hstring, trivial, hadd, trivial, trivial⟩

end Halves

/-! ## The `try` block -/

/-- What `TeamState` makes of a packet that has been read. -/
def applied (refs : TeamRefs) (teams : TeamState) (p : TeamPacket) : TeamState × Team.Update :=
  teams.apply p.team p.method p.players (refs.aPlayer.getD []) (refs.bPlayer.getD [])

/-- The packet that B should get. -/
def forB (refs : TeamRefs) (teams : TeamState) (p : TeamPacket) : TeamPacket :=
  { p with players := (applied refs teams p).2.players }

/-- Every call before `PopLocalFrame` does what it should. -/
def Ready (refs : TeamRefs) (x : TeamAnswers) (teams : TeamState) (p : TeamPacket) : Prop :=
  Readable refs x p ∧ ((applied refs teams p).2.send = true →
    Buildable x (applied refs teams p).2.players)

section Try

variable {s : Env} {refs : TeamRefs} {x : TeamAnswers} {p : TeamPacket}

/-- What the `try` block returns when nothing before `PopLocalFrame` fails, and the state that
it leaves. -/
def committed (refs : TeamRefs) (x : TeamAnswers) (p : TeamPacket) (s : Env) :
    (Bool × Option Outgoing) × Env :=
  (if !(applied refs s.teams p).2.send then (true, none)
    else (x.popLocalFrame, if x.popLocalFrame then some (.team (forB refs s.teams p)) else none),
    { s with teams := (applied refs s.teams p).1, popped := s.popped + 1 })

lemma sendTeamPacket_nothing {r : Reading} {next : TeamState} {update : Team.Update}
    (happly : s.teams.apply r.team r.method r.players r.a r.b = (next, update))
    (hsend : update.send = false) :
    sendTeamPacket x r s =
      .ok (true, none) { s with teams := next, popped := s.popped + 1 } := by
  rw [sendTeamPacket, bind_of_ok (rfl : (get : TeamM Env) s = .ok s s), happly]
  simp only [hsend]
  rfl

lemma sendTeamPacket_built {r : Reading} {next : TeamState} {update : Team.Update}
    {output : Outgoing}
    (happly : s.teams.apply r.team r.method r.players r.a r.b = (next, update))
    (hsend : update.send = true)
    (hbuild : buildTeamPacket x ⟨⟨r.team, r.method, update.players⟩, r.parameters⟩ s =
      .ok output s) :
    sendTeamPacket x r s =
      .ok (x.popLocalFrame, if x.popLocalFrame then some output else none)
        { s with teams := next, popped := s.popped + 1 } := by
  rw [sendTeamPacket, bind_of_ok (rfl : (get : TeamM Env) s = .ok s s), happly]
  simp only [hsend]
  rw [if_neg (by decide), bind_of_ok hbuild]
  cases x.popLocalFrame <;> rfl

lemma sendTeamPacket_throws {r : Reading} {next : TeamState} {update : Team.Update}
    (happly : s.teams.apply r.team r.method r.players r.a r.b = (next, update))
    (hsend : update.send = true)
    (hbuild : Throws Same
      (buildTeamPacket x ⟨⟨r.team, r.method, update.players⟩, r.parameters⟩) s) :
    Throws Same (sendTeamPacket x r) s := by
  obtain ⟨e, s', hrun, hsame⟩ := hbuild
  refine ⟨e, s', ?_, hsame⟩
  rw [sendTeamPacket, bind_of_ok (rfl : (get : TeamM Env) s = .ok s s), happly]
  simp only [hsend]
  rw [if_neg (by decide), bind_of_error hrun]

lemma tryTeamPacket_of_ready (h : s.pending = false) (hready : Ready refs x s.teams p) :
    tryTeamPacket refs x p s = .ok (committed refs x p s).1 (committed refs x p s).2 := by
  rw [tryTeamPacket, bind_of_ok ((settles_readTeamPacket h refs x p).returns hready.1), committed]
  cases hsend : (applied refs s.teams p).2.send with
  | false => exact sendTeamPacket_nothing (r := reading refs p) rfl hsend
  | true =>
    have hbuild := (settles_buildTeamPacket h x (forB refs s.teams p)).returns (hready.2 hsend)
    exact sendTeamPacket_built (r := reading refs p) rfl hsend hbuild

lemma tryTeamPacket_of_not_ready (h : s.pending = false) (hready : ¬ Ready refs x s.teams p) :
    Throws Same (tryTeamPacket refs x p) s := by
  by_cases hread : Readable refs x p
  · obtain ⟨hsend, hbuild⟩ : (applied refs s.teams p).2.send = true ∧
        ¬ Buildable x (applied refs s.teams p).2.players := by
      simpa [Ready, hread] using hready
    have hthrows := (settles_buildTeamPacket h x (forB refs s.teams p)).fails hbuild
    obtain ⟨e, s', hrun, hsame⟩ := sendTeamPacket_throws (r := reading refs p) rfl hsend hthrows
    exact ⟨e, s', (bind_of_ok ((settles_readTeamPacket h refs x p).returns hread)).trans hrun,
      hsame⟩
  · exact ((settles_readTeamPacket h refs x p).fails hread).bind _

end Try

/-! ## All or nothing -/

/-- The teams after a packet that needs no filter. -/
def reset (packet : Packet) (teams : TeamState) : TeamState :=
  if packet = .login then .empty else teams

/-- `prepareTeamPacket` has done all of its work for a packet, or nothing. -/
structure Atomic (refs : TeamRefs) (packet : Packet) (teams : TeamState)
    (r : (Bool × Option Outgoing) × Env) : Prop where
  /-- When it fails, nothing has happened. -/
  failed : r.1.1 = false → r.1.2 = none ∧ r.2.teams = teams
  /-- A team packet is filtered for B, who gets it unless there is nothing to say. -/
  filtered : r.1.1 = true → ∀ p, packet = .team p → r.2.teams = (applied refs teams p).1 ∧
    r.1.2 = if (applied refs teams p).2.send then some (.team (forB refs teams p)) else none
  /-- Another packet goes to B as it is. -/
  passed : r.1.1 = true → (∀ p, packet ≠ .team p) →
    r.2.teams = reset packet teams ∧ r.1.2 = some .same
  /-- Every frame that has been pushed has been popped. -/
  frames : r.2.popped = r.2.pushed

/-- When `prepareTeamPacket` does all or nothing. -/
def AtomicWhen (refs : TeamRefs) (x : TeamAnswers) (packet : Packet) (teams : TeamState) : Prop :=
  match packet with
  | .team p =>
    if refs.setPlayerTeamPacketCls then
      x.pushLocalFrame = true → Ready refs x teams p → (applied refs teams p).2.send = true →
        x.popLocalFrame = true ∨ (applied refs teams p).1 = teams
    else x.newLocalRef = false
  | .login => if x.newLocalRef then x.className = true ∨ teams = .empty
    else x.className = true → teams = .empty
  | .other => True

section Atomic

variable {refs : TeamRefs} {x : TeamAnswers} {packet : Packet} {teams : TeamState} {p : TeamPacket}

/-- Nothing has been done. -/
lemma atomic_failed {s : Env} (hteams : s.teams = teams) (hframes : s.popped = s.pushed) :
    Atomic refs packet teams ((false, none), s) where
  failed _ := ⟨rfl, hteams⟩
  filtered h := nomatch h
  passed h := nomatch h
  frames := hframes

/-- The branch for packets that are not filtered, when the teams become `next`. -/
lemma atomic_passed_iff (h : ∀ p, packet ≠ .team p) {output : Option Outgoing} {next : TeamState}
    (houtput : ∀ o ∈ output, o = .same) :
    Atomic refs packet teams ((output.isSome, output), { teams := next }) ↔
      if output.isSome then next = reset packet teams else next = teams := by
  cases output with
  | none =>
    constructor
    · intro hatomic
      exact (hatomic.failed rfl).2
    · intro hteams
      exact atomic_failed hteams rfl
  | some o =>
    obtain rfl := houtput o rfl
    constructor
    · intro hatomic
      exact (hatomic.passed rfl h).1
    · intro hteams
      exact ⟨nofun, fun _ p hp => absurd hp (h p), fun _ _ => ⟨hteams, rfl⟩, rfl⟩

/-- What the `try` block has committed is all there is to do, unless the reference to the new
packet is lost. -/
lemma atomic_committed_iff {s : Env} (hteams : s.teams = teams)
    (hframes : s.popped + 1 = s.pushed) :
    Atomic refs (.team p) teams (committed refs x p s) ↔
      ((applied refs teams p).2.send = true →
        x.popLocalFrame = true ∨ (applied refs teams p).1 = teams) := by
  subst hteams
  rw [committed]
  cases hsend : (applied refs s.teams p).2.send with
  | false =>
    refine iff_of_true ⟨nofun, fun _ q hq => ?_, fun _ h => absurd rfl (h p), hframes⟩ nofun
    cases hq
    rw [hsend]
    exact ⟨rfl, rfl⟩
  | true =>
    cases hpop : x.popLocalFrame with
    | false =>
      constructor
      · intro hatomic _
        exact .inr (hatomic.failed rfl).2
      · intro h
        have hsame := (h rfl).resolve_left (by decide)
        exact atomic_failed hsame hframes
    | true =>
      refine iff_of_true ⟨nofun, fun _ q hq => ?_, fun _ h => absurd rfl (h p), hframes⟩
        fun _ => .inl rfl
      cases hq
      rw [hsend]
      exact ⟨rfl, rfl⟩

end Atomic

lemma prepareTeamPacket_team (hcls : refs.setPlayerTeamPacketCls = true)
    (hpush : x.pushLocalFrame = true) :
    prepareTeamPacket refs x (.team p) { teams := teams } =
      match tryTeamPacket refs x p { teams := teams, pushed := 1 } with
      | .ok result s => (result, s)
      | .error _ s => ((false, none), { s with pending := false, popped := s.popped + 1 }) := by
  simp only [prepareTeamPacket, hcls, hpush]
  rfl

/-- A team packet of a class that is known. -/
lemma atomic_team_iff (hcls : refs.setPlayerTeamPacketCls = true) :
    Atomic refs (.team p) teams (prepareTeamPacket refs x (.team p) { teams := teams }) ↔
      (x.pushLocalFrame = true → Ready refs x teams p → (applied refs teams p).2.send = true →
        x.popLocalFrame = true ∨ (applied refs teams p).1 = teams) := by
  cases hpush : x.pushLocalFrame with
  | false =>
    have hfails : prepareTeamPacket refs x (.team p) { teams := teams } =
        ((false, none), { teams := teams, pending := true }) := by
      simp [prepareTeamPacket, hcls, hpush]
    rw [hfails]
    exact iff_of_true (atomic_failed rfl rfl) nofun
  | true =>
    rw [prepareTeamPacket_team hcls hpush]
    by_cases hready : Ready refs x teams p
    · have htry := tryTeamPacket_of_ready (s := { teams := teams, pushed := 1 }) rfl hready
      rw [htry]
      show Atomic refs (.team p) teams (committed refs x p { teams := teams, pushed := 1 }) ↔ _
      refine (atomic_committed_iff (s := { teams := teams, pushed := 1 }) rfl rfl).trans ?_
      simp only [hready, true_imp_iff]
    · obtain ⟨e, s', hrun, hteams, hpushed, hpopped⟩ :=
        tryTeamPacket_of_not_ready (s := { teams := teams, pushed := 1 }) rfl hready
      rw [hrun]
      refine iff_of_true (atomic_failed hteams ?_) fun _ h => absurd h hready
      show s'.popped + 1 = s'.pushed
      rw [hpopped, hpushed]

/-- A packet that is not filtered. -/
lemma forwardSame_eq (x : TeamAnswers) (login : Bool) (teams : TeamState) :
    prepareTeamPacket.forwardSame x login { teams := teams } =
      (((if x.newLocalRef then some Outgoing.same else none).isSome,
        if x.newLocalRef then some Outgoing.same else none),
        { teams := if login then .empty else teams }) := by
  cases login <;> rfl

/-- `prepareTeamPacket` does all or nothing, unless the only reference to what B should get is
lost after the teams have changed, or the class of the packet is not known for what it is. -/
theorem prepareTeamPacket_atomic_iff (refs : TeamRefs) (x : TeamAnswers) (packet : Packet)
    (teams : TeamState) :
    Atomic refs packet teams (prepareTeamPacket refs x packet { teams := teams }) ↔
      AtomicWhen refs x packet teams := by
  have hsame : ∀ o ∈ (if x.newLocalRef then some Outgoing.same else none), o = .same := by
    cases x.newLocalRef <;> simp
  cases packet with
  | team p =>
    rw [AtomicWhen]
    split
    next hcls => exact atomic_team_iff hcls
    next hcls =>
      -- the packet goes on unfiltered, if it goes on
      have hforward : prepareTeamPacket refs x (.team p) { teams := teams } =
          prepareTeamPacket.forwardSame x false { teams := teams } := by
        simp [prepareTeamPacket, hcls]
      rw [hforward, forwardSame_eq]
      cases x.newLocalRef with
      | false => exact iff_of_true (atomic_failed rfl rfl) rfl
      | true =>
        refine iff_of_false (fun hatomic => ?_) nofun
        have houtput : some Outgoing.same = _ := (hatomic.filtered rfl p rfl).2
        split at houtput <;> simp at houtput
  | login =>
    show Atomic _ _ _ (prepareTeamPacket.forwardSame x x.className { teams := teams }) ↔ _
    rw [forwardSame_eq, atomic_passed_iff (by simp) hsame, AtomicWhen]
    cases x.newLocalRef <;> cases x.className <;> simp [reset, eq_comm]
  | other =>
    show Atomic _ _ _ (prepareTeamPacket.forwardSame x false { teams := teams }) ↔ _
    rw [forwardSame_eq, atomic_passed_iff (by simp) hsame, AtomicWhen]
    cases x.newLocalRef <;> simp [reset]

/-- The teams that are known when a player is in one. -/
def oneTeam : TeamState := (TeamState.empty.apply [0x74] 0 [[0x61]] [] []).1

/-- There is no reference to the login packet any more, but the teams are gone. -/
theorem prepareTeamPacket_login_lost : ¬ Atomic {} .login oneTeam
    (prepareTeamPacket {} { newLocalRef := false } .login { teams := oneTeam }) := by
  intro h
  have hteams : oneTeam = .empty := (h.failed rfl).2.symm
  have hmem : ([0x74] : Name) ∈ oneTeam.teams := by decide
  rw [hteams] at hmem
  exact absurd hmem (by decide)

/-! ## The writer of B's channel -/

def Packet.kind : Packet → PacketKind
  | team p => .team p.toRawPacket
  | login => .login
  | other => .other

def TeamRefs.writer (refs : TeamRefs) : WriterRefs where
  team := refs.setPlayerTeamPacketCls
  aPlayer := refs.aPlayer.getD []
  bPlayer := refs.bPlayer.getD []

/-- What the caller sees of the result. -/
def prepared : Bool × Option Outgoing → Prepared
  | (false, _) => .failed
  | (true, none) => .nothing
  | (true, some .same) => .output none
  | (true, some (.team p)) => .output (some p.players)

/-- The answers of the calls, put together as the writer of B's channel tells them apart. -/
theorem prepareTeamPacket_refines (refs : TeamRefs) (x : TeamAnswers) (packet : Packet)
    (teams : TeamState) :
    ∃ y : WriteAnswers, Server.prepareTeamPacket refs.writer teams packet.kind y =
      ((prepareTeamPacket refs x packet { teams := teams }).2.teams,
        prepared (prepareTeamPacket refs x packet { teams := teams }).1) := by
  have hsame (login : Bool) : prepareTeamPacket.forwardSame x login { teams := teams } = _ :=
    forwardSame_eq x login teams
  cases packet with
  | login =>
    refine ⟨{ read := x.newLocalRef, named := x.className }, ?_⟩
    rw [prepareTeamPacket, hsame]
    cases hnew : x.newLocalRef <;> simp [Server.prepareTeamPacket, Packet.kind, prepared]
  | other =>
    refine ⟨{ read := x.newLocalRef }, ?_⟩
    rw [prepareTeamPacket, hsame]
    cases hnew : x.newLocalRef <;> simp [Server.prepareTeamPacket, Packet.kind, prepared]
  | team p =>
    have hfailed : Server.prepareTeamPacket refs.writer teams (.team p.toRawPacket)
        { read := false } = (teams, .failed) := by
      simp [Server.prepareTeamPacket]
    cases hcls : refs.setPlayerTeamPacketCls with
    | false =>
      refine ⟨{ read := x.newLocalRef }, ?_⟩
      have hforward : prepareTeamPacket refs x (.team p) { teams := teams } = _ :=
        (by simp [prepareTeamPacket, hcls] : _ = prepareTeamPacket.forwardSame x false _).trans
          (hsame false)
      rw [hforward]
      cases hnew : x.newLocalRef <;>
        simp [Server.prepareTeamPacket, Packet.kind, TeamRefs.writer, hcls, prepared]
    | true =>
      cases hpush : x.pushLocalFrame with
      | false =>
        refine ⟨{ read := false }, hfailed.trans ?_⟩
        simp [prepareTeamPacket, hcls, hpush, prepared]
      | true =>
        rw [prepareTeamPacket_team hcls hpush]
        by_cases hready : Ready refs x teams p
        · rw [tryTeamPacket_of_ready (s := { teams := teams, pushed := 1 }) rfl hready]
          refine ⟨{ popped := x.popLocalFrame }, ?_⟩
          have hstream : Server.prepareTeamPacket refs.writer teams (.team p.toRawPacket)
              { popped := x.popLocalFrame } =
                if !(applied refs teams p).2.send then ((applied refs teams p).1, .nothing)
                else ((applied refs teams p).1, if x.popLocalFrame then
                  .output (some (applied refs teams p).2.players) else .failed) := by
            simp [Server.prepareTeamPacket, TeamRefs.writer, hcls, applied]
          refine hstream.trans ?_
          cases hsend : (applied refs teams p).2.send <;> cases hpop : x.popLocalFrame <;>
            simp [committed, hsend, hpop, prepared, forB]
        · obtain ⟨e, s', hrun, hteams, -, -⟩ :=
            tryTeamPacket_of_not_ready (s := { teams := teams, pushed := 1 }) rfl hready
          rw [hrun]
          exact ⟨{ read := false }, hfailed.trans (Prod.ext hteams.symm rfl)⟩

end TeamPackets
end Server
end SakuraTools
