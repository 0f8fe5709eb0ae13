import SakuraTools.Server.Window

/-!
# The snapshot and the packets behind it

A's packets and the task of the snapshot wait in one queue, so the snapshot shows exactly the
packets that were dispatched before its task was queued.  The boundary empties the buffer of
B, and what is dispatched from then on reaches B.
-/

namespace SakuraTools
namespace Server

/-- What the window says about any state: the packets, and whether the session is stopping. -/
structure Window.Sees (w : Window) (s : Session) : Prop where
  total : w.total = s.packets
  nodup : s.packets.Nodup
  stopped : w.stopped = false → s.stopping = false
  alive : w.alive = true → w.stopped = false

/-- The session takes A's packets into the buffer for the snapshot. -/
def Syncing (c : Channel) (w : Window) (s : Session) : Prop :=
  s.stopping = false ∧ s.clientChannel = some c ∧ s.clientState = .Syncing ∧
    s.handoff.state = .Capturing ∧ forwardedTo c w.span = []

/-- The session passes A's packets on to B. -/
def Streaming (c : Channel) (s : Session) : Prop :=
  s.stopping = false ∧ s.clientChannel = some c ∧
    (s.clientState = .AwaitReady ∨ s.clientState = .Play)

/-- When the task of the job runs, the packets before it have been applied. -/
def Queued (j : JobId) (w : Window) (s : Session) : Prop :=
  ∀ q₁ q₂, s.queue = q₁ ++ .snapshot j :: q₂ →
    s.world ++ queuePackets q₁ = w.shown ∧ ∀ i, .snapshot i ∉ q₂

/-- No other boundary can come. -/
def NoTask (s : Session) : Prop :=
  (∀ i, .snapshot i ∉ s.queue) ∧ ∀ i, s.render ≠ .found i ∧ s.render ≠ .checked i

/-- The buffer holds the game packets since the boundary. -/
def Buffered (w : Window) (s : Session) : Prop :=
  gamePackets w.recent = s.pending ++ s.relaying

/-- Where the packets of a login are, phase by phase. -/
def Data (w : Window) (s : Session) : Phase → Prop
  | .begun c => Syncing c w s
  | .executed c j =>
    Syncing c w s ∧ Queued j w s ∧
      (s.render = .found j ∨ s.render = .checked j →
        s.world = w.shown ∧ ∀ i, .snapshot i ∉ s.queue)
  | .bounded c j =>
    Syncing c w s ∧ NoTask s ∧
      (s.render = .capturing j → s.world = w.shown ∧ Buffered w s)
  | .captured c _ world => Syncing c w s ∧ NoTask s ∧ world = w.shown ∧ Buffered w s
  | .sent c _ world | .acknowledged c _ world =>
    Streaming c s ∧ world = w.shown ∧
      gamePackets w.recent = forwardedTo c w.span ++ s.relaying
  | .outside | .greeted _ _ | .broken _ => True

/-! ## The packets of a session -/

lemma nodup_append_singleton {ps : List Packet} {p : Packet} (h : ps.Nodup) (hp : p ∉ ps) :
    (ps ++ [p]).Nodup := by
  rw [List.nodup_append]
  refine ⟨h, by simp, ?_⟩
  rintro a ha b hb rfl
  rw [List.mem_singleton] at hb
  exact hp (hb ▸ ha)

/-- A step changes the packets only by those that it dispatches, and these are new. -/
lemma packets_step {s s' : Session} {a : Action} {es : List Event}
    (hstep : Session.step s a = some (s', es)) :
    s'.packets = s.packets ++ dispatched es ∧ (s.packets.Nodup → s'.packets.Nodup) ∧
      (s'.stopping = true ↔ s.stopping = true ∨ .stop ∈ es) := by
  have hsame {s' : Session} {es : List Event} (hpackets : s'.packets = s.packets)
      (hes : dispatched es = []) (hstop : s'.stopping = s.stopping) (hno : .stop ∉ es) :
      s'.packets = s.packets ++ dispatched es ∧ (s.packets.Nodup → s'.packets.Nodup) ∧
        (s'.stopping = true ↔ s.stopping = true ∨ .stop ∈ es) := by
    rw [hpackets, hes, List.append_nil]
    exact ⟨rfl, id, by simp [hstop, hno]⟩
  have hsection {k : Session.Section} {s' : Session} {es : List Event}
      (h : Session.InSection k s s' es) :
      s'.packets = s.packets ++ dispatched es ∧ (s.packets.Nodup → s'.packets.Nodup) ∧
        (s'.stopping = true ↔ s.stopping = true ∨ .stop ∈ es) := by
    have hpackets : s'.packets = s.packets := by
      rw [Session.packets, Session.packets, h.world, h.queue]
    refine hsame hpackets (dispatched_of_section h) h.stopping ?_
    intro he
    have hemits := h.events _ he
    cases k with
    | forward | finish | packet | timeout => exact False.elim hemits
  cases Session.step_cases hstep with
  | dispatch p hfree hworld hqueue =>
    have hpackets : Session.packets
        { s with dispatch := some (.relay p), queue := s.queue ++ [.packet p] } =
          s.packets ++ [p] := by
      simp [Session.packets, queuePackets]
    rw [hpackets]
    refine ⟨rfl, fun h => nodup_append_singleton h ?_, by simp⟩
    intro hp
    rcases List.mem_append.mp hp with hp | hp
    · exact hworld hp
    · exact hqueue (mem_queuePackets hp)
  -- a task leaves the queue, and its packet joins the world
  | apply p q _ hqueue =>
    exact hsame (by simp [Session.packets, hqueue, queuePackets]) rfl rfl (by simp)
  | drop j q _ hqueue =>
    exact hsame (by simp [Session.packets, hqueue, queuePackets]) rfl rfl (by simp)
  | find j q _ hqueue =>
    exact hsame (by simp [Session.packets, hqueue, queuePackets]) rfl rfl (by simp)
  | execute c j => exact hsame (by simp [Session.packets, queuePackets]) rfl rfl (by simp)
  | forward p ref => exact hsection (s.forwardToB_section p ref).release
  | finishMid c => exact hsection (s.finishLogin_section c)
  | packet c m => exact hsection (s.handleClientPacket_section c m)
  | timeout => exact hsection s.checkLoginTimeout_section
  | stop => exact ⟨by simp [dispatched, Session.packets], id, by simp⟩
  | _ => exact hsame rfl rfl rfl (by simp)

lemma Window.Sees.step {w : Window} {s s' : Session} {a : Action} {es : List Event}
    (h : w.Sees s) (ph : Phase) (hstep : Session.step s a = some (s', es)) :
    (es.foldl watch (ph, w)).2.Sees s' := by
  obtain ⟨hpackets, hnodup, hstop⟩ := packets_step hstep
  refine ⟨?_, hnodup h.nodup, ?_, Window.foldl_alive _ h.alive es⟩
  · rw [Window.foldl_total, h.total, hpackets]
  · intro hstopped
    obtain ⟨hw, hes⟩ := (Window.foldl_stopped _ es).mp hstopped
    have hs := h.stopped hw
    rw [← Bool.not_eq_true, hstop]
    simp [hs, hes]

/-! ## One step -/

section Step

variable {ph : Phase} {w : Window} {s : Session}

lemma Syncing.add {c : Channel} {w' : Window} (h : Syncing c w s) {e : Event}
    (hspan : w'.span = w.span ++ [e]) (he : forwardedTo c [e] = []) : Syncing c w' s := by
  obtain ⟨hstop, howner, hstate, hcap, hnone⟩ := h
  refine ⟨hstop, howner, hstate, hcap, ?_⟩
  rw [hspan, forwardedTo_append, hnone, he, List.nil_append]

/-- An event that is neither a packet nor a step of the login. -/
lemma Data.add (h : Data w s ph) {e : Event} (he : ∀ c, forwardedTo c [e] = []) :
    Data (w.add e) s ph := by
  cases ph with
  | outside | greeted | broken => trivial
  | begun => exact Syncing.add h rfl (he _)
  | executed | bounded | captured => exact ⟨h.1.add rfl (he _), h.2⟩
  | sent | acknowledged =>
    refine ⟨h.1, h.2.1, ?_⟩
    have hspan := h.2.2
    simp only [Window.add, forwardedTo_append, he, List.append_nil]
    exact hspan

lemma data_onFailed (w : Window) (s : Session) (ph : Phase) : Data w s ph.onFailed := by
  cases ph <;> trivial

/-- A packet is dispatched. -/
lemma data_dispatch (h : Data w s ph) (p : Packet) (hfree : s.dispatch = none) :
    Data { w.add (.dispatched p) with total := w.total ++ [p], recent := w.recent ++ [p] }
      { s with dispatch := some (.relay p), queue := s.queue ++ [.packet p] } ph := by
  have hrelaying : s.relaying = [] := Session.relaying_of_free hfree
  have hqueue (hno : ∀ i, .snapshot i ∉ s.queue) (i : JobId) :
      .snapshot i ∉ s.queue ++ [Task.packet p] := by
    simpa using hno i
  have hrecent {ps : List Packet} (hps : gamePackets w.recent = ps ++ s.relaying) :
      gamePackets (w.recent ++ [p]) = ps ++ gamePackets [p] := by
    rw [hrelaying, List.append_nil] at hps
    rw [gamePackets, List.filter_append, ← gamePackets, hps]
  cases ph with
  | outside | greeted | broken => trivial
  | begun => exact Syncing.add h rfl rfl
  | executed c j =>
    obtain ⟨hsync, hqueued, hfound⟩ := h
    refine ⟨hsync.add rfl rfl, ?_, fun hr => ⟨(hfound hr).1, hqueue (hfound hr).2⟩⟩
    intro q₁ q₂ hsplit
    obtain ⟨q₂', rfl, hsplit'⟩ := append_packet_split hsplit
    obtain ⟨hshown, hno⟩ := hqueued q₁ q₂' hsplit'
    exact ⟨hshown, fun i => by simpa using hno i⟩
  | bounded c j =>
    obtain ⟨hsync, hno, hcap⟩ := h
    refine ⟨hsync.add rfl rfl, ⟨hqueue hno.1, hno.2⟩, fun hr => ⟨(hcap hr).1, ?_⟩⟩
    exact hrecent (hcap hr).2
  | captured c j world =>
    obtain ⟨hsync, hno, hshown, hbuf⟩ := h
    exact ⟨hsync.add rfl rfl, ⟨hqueue hno.1, hno.2⟩, hshown, hrecent hbuf⟩
  | sent c | acknowledged c =>
    obtain ⟨hopen, hshown, hsent⟩ := h
    refine ⟨hopen, hshown, ?_⟩
    have hspan : forwardedTo c (w.span ++ [Event.dispatched p]) = forwardedTo c w.span := by
      rw [forwardedTo_append]
      exact List.append_nil _
    show gamePackets (w.recent ++ [p]) = forwardedTo c (w.span ++ [Event.dispatched p]) ++ _
    rw [hspan]
    exact hrecent hsent

/-- The packet is buffered, or the buffer is full and the login fails. -/
lemma forward_syncing {c : Channel} (h : Syncing c w s) (p : Packet) (ref : Bool) :
    s.forwardToB p ref = ({ s with pending := s.pending ++ gamePackets [p] }, []) ∨
      s.forwardToB p ref = ({ s with handoff := s.handoff.fail, pending := [] }, [.failed]) := by
  obtain ⟨hstop, -, hstate, hcap, -⟩ := h
  have hforward := Session.forwardToB_of_syncing hstop hstate hcap p ref
  by_cases hgame : PacketPolicy.isGamePacket p.cls = true
  · simpa [hgame] using hforward
  · simpa [hgame] using hforward

/-- The packet that was dispatched is passed to `BServer_ForwardToB`. -/
lemma data_forward (h : Data w s ph) {p : Packet} (ref : Bool)
    (hheld : s.dispatch = some (.relay p)) :
    Data ((s.forwardToB p ref).2.foldl watch (ph, w)).2
      { (s.forwardToB p ref).1 with dispatch := none }
      ((s.forwardToB p ref).2.foldl watch (ph, w)).1 := by
  have hrelaying : s.relaying = gamePackets [p] := by
    rw [Session.relaying, hheld]
  have hfailed (w : Window) (s : Session) :
      Data ([Event.failed].foldl watch (ph, w)).2 s ([Event.failed].foldl watch (ph, w)).1 :=
    data_onFailed _ _ ph
  have hbuffer {ps : List Packet} (hps : ps = s.pending ++ s.relaying) :
      ps = (s.pending ++ gamePackets [p]) ++ [] := by
    rw [hps, hrelaying, List.append_nil]
  have hsent {c : Channel} (hopen : Streaming c s)
      (hrecent : gamePackets w.recent = forwardedTo c w.span ++ s.relaying) :
      (s.forwardToB p ref).1 = s ∧ ∃ w', (s.forwardToB p ref).2.foldl watch (ph, w) = (ph, w') ∧
        w'.shown = w.shown ∧ gamePackets w'.recent = forwardedTo c w'.span ++ [] := by
    rw [Session.forwardToB_of_open hopen.1 hopen.2.2 hopen.2.1]
    refine ⟨rfl, ?_⟩
    by_cases hgame : PacketPolicy.isGamePacket p.cls = true
    · rw [if_pos hgame]
      refine ⟨w.add (.forwarded c p), rfl, rfl, ?_⟩
      have hgp : gamePackets [p] = [p] := by simp [hgame]
      rw [hrelaying, hgp] at hrecent
      simpa [Window.add, forwardedTo_append, forwardedTo] using hrecent
    · rw [if_neg hgame]
      refine ⟨w, rfl, rfl, ?_⟩
      rw [hrecent, hrelaying]
      simp [hgame]
  cases ph with
  | outside | greeted | broken =>
    rcases s.forwardToB_cases p ref with heq | ⟨c, heq⟩ | ⟨-, -, heq | heq⟩
    · rw [heq]
      trivial
    · rw [heq]
      trivial
    · rw [heq]
      trivial
    · rw [heq]
      trivial
  | begun c =>
    rcases forward_syncing h p ref with heq | heq
    · rw [heq]
      exact h
    · rw [heq]
      exact hfailed _ _
  | executed c j =>
    rcases forward_syncing h.1 p ref with heq | heq
    · rw [heq]
      exact h
    · rw [heq]
      exact hfailed _ _
  | bounded c j =>
    obtain ⟨hsync, hno, hcap⟩ := h
    rcases forward_syncing hsync p ref with heq | heq
    · rw [heq]
      exact ⟨hsync, hno, fun hr => ⟨(hcap hr).1, hbuffer (hcap hr).2⟩⟩
    · rw [heq]
      exact hfailed _ _
  | captured c j world =>
    obtain ⟨hsync, hno, hshown, hbuf⟩ := h
    rcases forward_syncing hsync p ref with heq | heq
    · rw [heq]
      exact ⟨hsync, hno, hshown, hbuffer hbuf⟩
    · rw [heq]
      exact hfailed _ _
  | sent c | acknowledged c =>
    obtain ⟨hopen, hshown, hrecent⟩ := h
    obtain ⟨hs, w', hw, hsh, hrecent'⟩ := hsent hopen hrecent
    rw [hs, hw]
    exact ⟨hopen, hshown.trans hsh.symm, hrecent'⟩

/-- The boundary: what is buffered from now on was not in A's world yet. -/
lemma data_boundary (h : Data w s ph) {j : JobId} (hchecked : s.render = .checked j)
    (hfree : s.dispatch = none) :
    Data (w.next ph (.boundary j)) { s with pending := [], render := .capturing j }
      (ph.onBoundary j) := by
  have hno (hx : NoTask s) : False := (hx.2 j).2 hchecked
  cases ph with
  | outside | greeted | broken => trivial
  | begun => exact Syncing.add h rfl rfl
  | executed c i =>
    obtain ⟨hsync, hqueued, hfound⟩ := h
    simp only [Window.next, Window.onBoundary, Phase.onBoundary]
    by_cases hi : i = j
    · subst hi
      obtain ⟨hshown, hqueue⟩ := hfound (.inr hchecked)
      rw [if_pos rfl, if_pos rfl]
      refine ⟨hsync.add rfl rfl, ⟨hqueue, by simp⟩, fun _ => ⟨hshown, ?_⟩⟩
      show gamePackets [] = [] ++ s.relaying
      rw [Session.relaying_of_free hfree]
      rfl
    · rw [if_neg hi, if_neg hi]
      exact ⟨hsync.add rfl rfl, hqueued, by simp⟩
  | bounded => exact (hno h.2.1).elim
  | captured => exact (hno h.2.1).elim
  | sent | acknowledged => exact Data.add h (e := .boundary j) fun _ => rfl

/-- The snapshot shows the packets before its task, and they alone. -/
lemma data_capture (h : Data w s ph) {j : JobId} (hcap : s.render = .capturing j) :
    Data (w.next ph (.captured j s.world)) { s with render := .finishing j true }
      (ph.onCaptured j s.world) := by
  cases ph with
  | outside | greeted | broken => trivial
  | begun => exact Syncing.add h rfl rfl
  | executed c i => exact ⟨h.1.add rfl rfl, h.2.1, by simp⟩
  | bounded c i =>
    obtain ⟨hsync, hno, hrender⟩ := h
    have hno' : NoTask { s with render := .finishing j true } := ⟨hno.1, by simp⟩
    simp only [Phase.onCaptured]
    by_cases hi : i = j
    · subst hi
      obtain ⟨hshown, hbuf⟩ := hrender hcap
      rw [if_pos rfl]
      exact ⟨hsync.add rfl rfl, hno', hshown, hbuf⟩
    · rw [if_neg hi]
      exact ⟨hsync.add rfl rfl, hno', by simp⟩
  | captured c i world =>
    obtain ⟨hsync, hno, hshown, hbuf⟩ := h
    exact ⟨hsync.add rfl rfl, ⟨hno.1, by simp⟩, hshown, hbuf⟩
  | sent | acknowledged => exact Data.add h (e := .captured j s.world) fun _ => rfl

/-- A task is taken from the front of the queue, while no snapshot is being taken. -/
lemma data_pop (h : Data w s ph) {t : Task} {q : List Task} {world : List Packet}
    (hidle : s.render = .idle) (hqueue : s.queue = t :: q)
    (hworld : world = s.world ++ queuePackets [t]) :
    Data w { s with queue := q, world := world } ph := by
  have hmem {i : JobId} (hi : .snapshot i ∈ q) : .snapshot i ∈ s.queue := by
    rw [hqueue]
    exact List.mem_cons_of_mem _ hi
  have hno (hx : NoTask s) : NoTask { s with queue := q, world := world } :=
    ⟨fun i hi => hx.1 i (hmem hi), hx.2⟩
  cases ph with
  | outside | greeted | broken => trivial
  | begun => exact h
  | executed c j =>
    obtain ⟨hsync, hqueued, -⟩ := h
    refine ⟨hsync, ?_, ?_⟩
    · rintro q₁ q₂ hsplit
      have hq : q = q₁ ++ .snapshot j :: q₂ := hsplit
      obtain ⟨hshown, hlast⟩ := hqueued (t :: q₁) q₂ (by rw [hqueue, hq]; rfl)
      refine ⟨?_, hlast⟩
      rw [← hshown, ← List.singleton_append (l := q₁), queuePackets_append, ← List.append_assoc,
        ← hworld]
    · rintro (hr | hr)
      · rw [show s.render = .found j from hr] at hidle
        cases hidle
      · rw [show s.render = .checked j from hr] at hidle
        cases hidle
  | bounded c j =>
    obtain ⟨hsync, hx, -⟩ := h
    refine ⟨hsync, hno hx, ?_⟩
    intro hr
    rw [show s.render = .capturing j from hr] at hidle
    cases hidle
  | captured c j => exact ⟨h.1, hno h.2.1, h.2.2⟩
  | sent | acknowledged => exact h

/-- The task of a snapshot starts. -/
lemma data_find (h : Data w s ph) {j : JobId} {q : List Task} (hidle : s.render = .idle)
    (hqueue : s.queue = .snapshot j :: q) :
    Data w { s with queue := q, jobs := s.jobs.erase j, render := .found j } ph := by
  have hno (hx : NoTask s) : False := hx.1 j (by rw [hqueue]; exact List.mem_cons_self)
  have hpop : Data w { s with queue := q } ph :=
    data_pop h hidle hqueue (List.append_nil _).symm
  cases ph with
  | outside | greeted | broken => trivial
  | begun => exact hpop
  | executed c i =>
    obtain ⟨hsync, hqueued, -⟩ := hpop
    refine ⟨hsync, hqueued, ?_⟩
    rintro (hr | hr)
    · cases hr
      obtain ⟨hshown, hlast⟩ := h.2.1 [] q hqueue
      exact ⟨by simpa [queuePackets] using hshown, hlast⟩
    · cases hr
  | bounded => exact (hno h.2.1).elim
  | captured => exact (hno h.2.1).elim
  | sent | acknowledged => exact hpop

/-- The render thread goes on with a job, or gives it up. -/
lemma data_render (h : Data w s ph) {r : RenderPc}
    (hfound : ∀ j, r = .found j ∨ r = .checked j → s.render = .found j ∨ s.render = .checked j)
    (hcapturing : ∀ j, r ≠ .capturing j) (job : JobId → Job) :
    Data w { s with render := r, job := job } ph := by
  have hno (hx : NoTask s) : NoTask { s with render := r, job := job } := by
    refine ⟨hx.1, fun i => ⟨fun hr => ?_, fun hr => ?_⟩⟩
    · rcases hfound i (.inl hr) with h | h
      · exact (hx.2 i).1 h
      · exact (hx.2 i).2 h
    · rcases hfound i (.inr hr) with h | h
      · exact (hx.2 i).1 h
      · exact (hx.2 i).2 h
  cases ph with
  | outside | greeted | broken => trivial
  | begun => exact h
  | executed c j => exact ⟨h.1, h.2.1, fun hr => h.2.2 (hfound j hr)⟩
  | bounded c j => exact ⟨h.1, hno h.2.1, fun hr => absurd hr (hcapturing j)⟩
  | captured => exact ⟨h.1, hno h.2.1, h.2.2⟩
  | sent | acknowledged => exact h

/-- The task of the snapshot is queued behind the packets that it shows. -/
lemma data_execute (h : Data w s ph) (ht : ph.Tracks s) (hs : w.Sees s) {c : Channel} {j : JobId}
    (hlogin : s.login = some (c, .listed j)) :
    Data (w.next ph (.executed j))
      { s with login := some (c, .waiting j), queue := s.queue ++ [.snapshot j] }
      (ph.onExecuted j) := by
  obtain ⟨hph | hph, ⟨-, hrender, hnew⟩, -⟩ := ht.pc c _ hlogin
  · subst hph
    have hjob {r : RenderPc} (hr : r.job = some j) : s.render ≠ r := by
      rintro rfl
      exact hrender hr
    refine ⟨Syncing.add h rfl rfl, ?_, ?_⟩
    · intro q₁ q₂ hsplit
      have hsplit : s.queue ++ [.snapshot j] = q₁ ++ .snapshot j :: q₂ := hsplit
      rcases List.eq_nil_or_concat q₂ with rfl | ⟨q₂', t, rfl⟩
      · obtain ⟨rfl, -⟩ := List.append_inj' hsplit rfl
        exact ⟨hs.total.symm, by simp⟩
      · -- the job is new, so its task is not in the queue yet
        rw [List.concat_eq_append, ← List.cons_append, ← List.append_assoc] at hsplit
        obtain ⟨hq, -⟩ := List.append_inj' hsplit rfl
        exact absurd (by rw [hq]; simp) hnew
    · rintro (hr | hr)
      · exact absurd hr (hjob rfl)
      · exact absurd hr (hjob rfl)
  · subst hph
    trivial

lemma foldl_forwarded (ph : Phase) (w : Window) (c : Channel) (ps : List Packet) :
    (ps.map (Event.forwarded c)).foldl watch (ph, w) =
      (ph, { w with span := w.span ++ ps.map (.forwarded c) }) := by
  induction ps generalizing w with
  | nil => simp
  | cons p ps ih =>
    rw [List.map_cons, List.foldl_cons]
    show (ps.map (Event.forwarded c)).foldl watch (ph, w.add (.forwarded c p)) = _
    rw [ih]
    simp [Window.add]

/-- The buffer is sent to B behind the snapshot. -/
lemma data_finishMid (h : Data w s ph) (ht : ph.Tracks s) {c : Channel}
    (hlogin : s.login = some (c, .finishing true)) (hfree : s.dispatch = none) :
    Data ((({ s with login := none } : Session).finishMidSession c).2.foldl watch (ph, w)).2
      (({ s with login := none } : Session).finishMidSession c).1
      ((({ s with login := none } : Session).finishMidSession c).2.foldl watch (ph, w)).1 := by
  have howner := ht.owner c _ hlogin
  rcases Session.finishMidSession_cases (s := { s with login := none }) howner with
    heq | ⟨-, heq⟩ | ⟨-, hcap, heq⟩
  · rw [heq]
    exact h
  · rw [heq]
    exact data_onFailed _ _ ph.onFailed.onFailed
  · rw [heq]
    have hcap : s.handoff.state = .Capturing := hcap
    obtain ⟨j, world, rfl⟩ := ht.captured_of_capturing hlogin hcap
    obtain ⟨⟨hstop, howner, -, -, hnone⟩, -, hshown, hbuf⟩ := h
    have hpending : gamePackets w.recent = s.pending := by
      rw [hbuf, Session.relaying_of_free hfree, List.append_nil]
    have hgame : gamePackets s.pending = s.pending := by
      rw [← hpending, gamePackets, List.filter_filter]
      simp
    show Data (((gamePackets s.pending).map (Event.forwarded c)).foldl watch
      ((Phase.captured c j world).onSent c, _)).2 _ (((gamePackets s.pending).map
        (Event.forwarded c)).foldl watch ((Phase.captured c j world).onSent c, _)).1
    rw [foldl_forwarded, hgame]
    simp only [Phase.onSent, if_true]
    refine ⟨⟨hstop, howner, .inl rfl⟩, hshown, ?_⟩
    show gamePackets w.recent = forwardedTo c (w.span ++ [Event.sent c] ++
      [Event.enter c .AwaitReady] ++ s.pending.map (Event.forwarded c)) ++ s.relaying
    rw [forwardedTo_append, forwardedTo_append, forwardedTo_append, hnone, forwardedTo_map,
      hpending, Session.relaying_of_free hfree]
    simp [forwardedTo]

lemma data_acknowledge (h : Data w s ph) (c : Channel) {st : ClientState}
    (hst : st = s.clientState ∨ (s.clientState = .AwaitReady ∧ st = .Play)) :
    Data (w.add (.acknowledged c))
      { s with
          handoff := (s.handoff.acknowledge LoginHandoff.teleportId).2
          clientState := st } (ph.onAcknowledged c) := by
  have hsync {c' : Channel} (hx : Syncing c' w s) : Syncing c' (w.add (.acknowledged c))
      { s with
          handoff := (s.handoff.acknowledge LoginHandoff.teleportId).2
          clientState := st } := by
    obtain ⟨hstop, howner, hstate, hcap, hnone⟩ := hx
    refine ⟨hstop, howner, ?_, ?_, ?_⟩
    · rcases hst with rfl | ⟨hready, -⟩
      · exact hstate
      · rw [hstate] at hready
        cases hready
    · show (s.handoff.acknowledge LoginHandoff.teleportId).2.state = .Capturing
      rw [LoginHandoff.acknowledge_state_of_ne (by simp [hcap]), hcap]
    · rw [Window.add, forwardedTo_append, hnone]
      rfl
  have hopen {c' : Channel} (hx : Streaming c' s) : Streaming c'
      { s with
          handoff := (s.handoff.acknowledge LoginHandoff.teleportId).2
          clientState := st } := by
    refine ⟨hx.1, hx.2.1, ?_⟩
    rcases hst with rfl | ⟨-, rfl⟩
    · exact hx.2.2
    · exact .inr rfl
  have hadd := h.add (e := .acknowledged c) fun _ => rfl
  cases ph with
  | outside | greeted | broken => trivial
  | begun => exact hsync h
  | executed | bounded | captured => exact ⟨hsync h.1, h.2⟩
  | sent c' j world =>
    have hnext : Data (w.add (.acknowledged c)) _ (Phase.sent c' j world) :=
      ⟨hopen h.1, hadd.2⟩
    simp only [Phase.onAcknowledged]
    split
    · exact hnext
    · exact hnext
  | acknowledged => exact ⟨hopen h.1, hadd.2⟩

lemma data_packet (h : Data w s ph) (c : Channel) (m : ClientPacket) :
    Data ((s.handleClientPacket c m).2.foldl watch (ph, w)).2 (s.handleClientPacket c m).1
      ((s.handleClientPacket c m).2.foldl watch (ph, w)).1 := by
  rcases s.handleClientPacket_cases c m with heq | ⟨-, -, heq⟩ | ⟨hstate, -, heq⟩ | ⟨-, heq⟩
  · rw [heq]
    exact h
  · rw [heq]
    exact h.add (e := .routed m) fun _ => rfl
  · rw [heq]
    exact (data_acknowledge h c (.inr ⟨hstate, rfl⟩)).add (e := .enter c .Play) fun _ => rfl
  · rw [heq]
    exact data_acknowledge h c (.inl rfl)

/-- Closing A's connection does not concern the packets. -/
lemma data_closing (h : Data w s ph) {pc : ClosePc} {dispatch : Option Holder}
    (live : List Connection) (target : Option Connection)
    (hheld : s.dispatch = some (.inactive pc)) (hdispatch : ∀ p, dispatch ≠ some (.relay p)) :
    Data w { s with dispatch := dispatch, live := live, targetConnection := target } ph := by
  have hrelaying : s.relaying = [] := by
    rw [Session.relaying, hheld]
  have hnone : Session.relaying
      { s with dispatch := dispatch, live := live, targetConnection := target } = [] := by
    simp only [Session.relaying]
  have hrecent {ps qs : List Packet} (hps : ps = qs ++ s.relaying) : ps = qs ++ Session.relaying
      { s with dispatch := dispatch, live := live, targetConnection := target } := by
    rw [hps, hrelaying, hnone]
  cases ph with
  | outside | greeted | broken => trivial
  | begun | executed => exact h
  | bounded => exact ⟨h.1, h.2.1, fun hr => ⟨(h.2.2 hr).1, hrecent (h.2.2 hr).2⟩⟩
  | captured => exact ⟨h.1, h.2.1, h.2.2.1, hrecent h.2.2.2⟩
  | sent | acknowledged => exact ⟨h.1, h.2.1, hrecent h.2.2⟩

/-- The step lemma for the packets of a login that nothing disturbs. -/
lemma data_step {s' : Session} {a : Action} {es : List Event} (h : w.alive = true → Data w s ph)
    (ht : ph.Tracks s) (hs : w.Sees s) (hstep : Session.step s a = some (s', es))
    (halive : (es.foldl watch (ph, w)).2.alive = true) :
    Data (es.foldl watch (ph, w)).2 s' (es.foldl watch (ph, w)).1 := by
  have hold (hes : ∀ c, .begun c ∉ es) : Data w s ph := h (Window.alive_of_foldl hes halive)
  cases Session.step_cases hstep with
  | dispatch p hfree => exact data_dispatch (hold (by simp)) p hfree
  | forward p ref hheld =>
    exact data_forward (hold fun c => (s.forwardToB_section p ref).events _) ref hheld
  | apply p q hidle hqueue => exact data_pop (hold (by simp)) hidle hqueue rfl
  | drop j q hidle hqueue =>
    exact data_pop (hold (by simp)) hidle hqueue (List.append_nil _).symm
  | find j q hidle hqueue => exact data_find (hold (by simp)) hidle hqueue
  | check j hfound =>
    refine data_render (hold (by simp)) ?_ (by simp) s.job
    rintro i (hr | hr)
    · cases hr
    · cases hr
      exact .inl hfound
  | abandon j => exact data_render (hold (by simp)) (by simp) (by simp) s.job
  | boundary j hchecked hfree => exact data_boundary (hold (by simp)) hchecked hfree
  | capture j hcap => exact data_capture (hold (by simp)) hcap
  | publish j ok => exact data_render (hold (by simp)) (by simp) (by simp) _
  | intention => cases halive
  | stop => cases halive
  | hello => trivial
  | «begin» c hlogin =>
    obtain ⟨⟨mid, rfl⟩, -⟩ := ht.pc c _ hlogin
    have hstop : w.stopped = false := by
      have : (!w.stopped) = true := halive
      simpa using this
    show Data _ _ ((Phase.greeted c mid).onBegun c)
    simp only [Phase.onBegun, if_true]
    exact ⟨hs.stopped hstop, ht.owner c _ hlogin, rfl, rfl, rfl⟩
  | execute c j hlogin => exact data_execute (hold (by simp)) ht hs hlogin
  | writeFailed => exact data_onFailed _ _ ph
  | finishMid c hlogin hfree =>
    exact data_finishMid (hold fun c' => (s.finishLogin_section c).events _) ht hlogin hfree
  | finishPlay c hlogin =>
    rw [(ht.finishPlay hlogin).2]
    trivial
  | packet c m =>
    exact data_packet (hold fun c' => (s.handleClientPacket_section c m).events _) c m
  | inactive => exact data_onFailed _ _ ph
  | timeout =>
    rcases s.checkLoginTimeout_cases with heq | ⟨-, heq⟩
    · rw [heq] at halive ⊢
      exact h halive
    · rw [heq]
      exact data_onFailed _ _ ph.onFailed
  | closing pc dispatch live target hheld hdispatch =>
    exact data_closing (hold (by simp)) live target hheld hdispatch
  | _ => exact hold (by simp)

end Step

/-! ## Runs -/

/-- The monitors before the first event. -/
def watched (s₀ : Session) : Phase × Window := (.outside, { total := s₀.packets })

lemma data_run {s₀ s : Session} {tr : List Event} (h₀ : s₀.Start) (hdistinct : s₀.packets.Nodup)
    (hrun : Step.Run Session.step s₀ tr s) :
    (tr.foldl watch (watched s₀)).1.Tracks s ∧ (tr.foldl watch (watched s₀)).2.Sees s ∧
      ((tr.foldl watch (watched s₀)).2.alive = true →
        Data (tr.foldl watch (watched s₀)).2 s (tr.foldl watch (watched s₀)).1) := by
  refine hrun.invariant (I := fun tr s => (tr.foldl watch (watched s₀)).1.Tracks s ∧
    (tr.foldl watch (watched s₀)).2.Sees s ∧ ((tr.foldl watch (watched s₀)).2.alive = true →
      Data (tr.foldl watch (watched s₀)).2 s (tr.foldl watch (watched s₀)).1)) ?_ ?_
  · exact ⟨Phase.tracks_start h₀, ⟨rfl, hdistinct, fun _ => h₀.stopping, by simp [watched]⟩,
      by simp [watched]⟩
  · rintro tr s a s' es ⟨ht, hs, hd⟩ hstep
    rw [List.foldl_append]
    refine ⟨?_, hs.step _ hstep, data_step hd ht hs hstep⟩
    rw [watch_fst]
    exact (ht.step hstep).1

/-- The window that a login opens after the packets `ps`. -/
def Window.opened (ps : List Packet) : Window where
  total := ps
  start := ps
  alive := true

lemma foldl_begun {s₀ s : Session} {pre span : List Event} {c : Channel} (h₀ : s₀.Start)
    (hrun : Step.Run Session.step s₀ (pre ++ .begun c :: span) s) (hstop : .stop ∉ pre) :
    (pre ++ [Event.begun c]).foldl watch (watched s₀) =
      (.begun c, .opened (s₀.packets ++ dispatched pre)) := by
  have htotal : (pre.foldl watch (watched s₀)).2.total = s₀.packets ++ dispatched pre :=
    Window.foldl_total (watched s₀) pre
  have hstopped := (Window.foldl_stopped (watched s₀) pre).mpr ⟨rfl, hstop⟩
  obtain ⟨mid, hgreeted⟩ := Phase.allowed_run h₀ hrun
  have hphase : (pre.foldl watch (watched s₀)).1 = .greeted c mid := by
    rw [watch_fst]
    exact hgreeted
  rw [List.foldl_append, List.foldl_cons, List.foldl_nil, watch, hphase]
  simp [Phase.next, Phase.onBegun, Window.next, Window.onBegun, htotal, hstopped, Window.opened]

/-- A login that has come to `AwaitReady` undisturbed has its snapshot. -/
lemma delivered_of_ready {s₀ s : Session} {pre span : List Event} {c : Channel} (h₀ : s₀.Start)
    (hrun : Step.Run Session.step s₀ (pre ++ span) s) (hopen : ∀ e ∈ span, ¬ e.Closes)
    (hready : .enter c .AwaitReady ∈ span) :
    ((pre ++ span).foldl Phase.next .outside).Delivered c := by
  obtain ⟨t, t', rfl⟩ := List.append_of_mem hready
  rw [← List.append_assoc] at hrun ⊢
  obtain ⟨j, world, hsent⟩ := Phase.allowed_run h₀ hrun
  rw [List.foldl_append, hsent]
  refine Phase.Delivered.foldl ⟨j, world, .inl rfl⟩ ?_
  intro e he
  exact not_ends_of_not_closes (hopen e (List.mem_append_right _ he))

/-- A session that is being stopped sends no snapshot. -/
lemma ready_step {ph : Phase} {s s' : Session} {a : Action} {es : List Event} {c : Channel}
    (ht : ph.Tracks s) (hstep : Session.step s a = some (s', es))
    (hready : .enter c .AwaitReady ∈ es) : s.stopping = false ∧ .stop ∉ es := by
  cases Session.step_cases hstep with
  | finishMid c' hlogin =>
    rcases Session.finishMidSession_cases (s := { s with login := none })
      (ht.owner c' _ hlogin) with heq | ⟨-, heq⟩ | ⟨hstop, -, heq⟩
    · simp [heq] at hready
    · simp [heq] at hready
    · rw [heq]
      exact ⟨hstop, by simp⟩
  | forward p ref => exact False.elim ((s.forwardToB_section p ref).events _ hready)
  | packet c' m => exact False.elim ((s.handleClientPacket_section c' m).events _ hready)
  | timeout => exact False.elim (s.checkLoginTimeout_section.events _ hready)
  | _ => simp at hready

lemma stop_notMem {s₀ s : Session} {pre post : List Event} {c : Channel} (h₀ : s₀.Start)
    (hrun : Step.Run Session.step s₀ (pre ++ .enter c .AwaitReady :: post) s) :
    .stop ∉ pre := by
  have hinv := hrun.invariant (I := fun tr s => (tr.foldl Phase.next .outside).Tracks s ∧
      (.stop ∈ tr → s.stopping = true) ∧
        ∀ t c t', tr = t ++ .enter c .AwaitReady :: t' → .stop ∉ t)
    ⟨Phase.tracks_start h₀, by simp, by simp⟩ ?_
  · exact hinv.2.2 pre c post rfl
  · rintro tr s a s' es ⟨ht, hstop, htr⟩ hstep
    have hstop' := (packets_step hstep).2.2
    refine ⟨?_, ?_, ?_⟩
    · rw [List.foldl_append]
      exact (ht.step hstep).1
    · intro hmem
      rw [hstop']
      rcases List.mem_append.mp hmem with hmem | hmem
      · exact .inl (hstop hmem)
      · exact .inr hmem
    · intro t c t' heq
      rcases List.append_eq_append_iff.mp heq with ⟨u, rfl, hes⟩ | ⟨u, htr', hu⟩
      · -- the event belongs to this step, so nothing has been stopped before it
        obtain ⟨hrunning, hno⟩ := ready_step (c := c) ht hstep (by simp [hes])
        intro hmem
        rcases List.mem_append.mp hmem with hmem | hmem
        · rw [hstop hmem] at hrunning
          cases hrunning
        · exact hno (by simp [hes, hmem])
      · cases u with
        | nil =>
          rw [List.append_nil] at htr'
          have hes : es = .enter c .AwaitReady :: t' := hu.symm
          obtain ⟨hrunning, -⟩ := ready_step (c := c) ht hstep (by simp [hes])
          intro hmem
          rw [hstop (htr' ▸ hmem)] at hrunning
          cases hrunning
        | cons e u =>
          cases hu
          exact htr t c u htr'

lemma filter_notMem {ps qs world : List Packet} (hps : ∀ p ∈ ps, p ∈ world)
    (hqs : ∀ p ∈ qs, p ∉ world) :
    (gamePackets (ps ++ qs)).filter (· ∉ world) = gamePackets qs := by
  rw [gamePackets, List.filter_append, List.filter_append]
  have hfirst : (ps.filter fun p => PacketPolicy.isGamePacket p.cls).filter (· ∉ world) = [] := by
    refine List.filter_eq_nil_iff.mpr ?_
    intro p hp
    simpa using hps p (List.mem_of_mem_filter hp)
  have hlast : (qs.filter fun p => PacketPolicy.isGamePacket p.cls).filter (· ∉ world) =
      qs.filter fun p => PacketPolicy.isGamePacket p.cls := by
    refine List.filter_eq_self.mpr ?_
    intro p hp
    simpa using hqs p (List.mem_of_mem_filter hp)
  rw [hfirst, hlast, List.nil_append]

/-- The game packets of a login that the snapshot does not show, and no others, are sent to B,
in the order of their dispatch; the last of them may still be on its way. -/
def Reflected (c : Channel) (span : List Event) (world : List Packet) (s : Session) : Prop :=
  forwardedTo c span ++ s.relaying = (gamePackets (dispatched span)).filter (· ∉ world)

/-- What the window of a login with a sent snapshot says about its packets. -/
lemma reflected_iff {c : Channel} {ph : Phase} {w : Window} {s : Session} (hs : w.Sees s)
    (hd : Data w s ph) (hshape : Window.Shape ph w) (hsent : ph.Delivered c)
    (htotal : w.total = w.start ++ dispatched w.span) :
    ∃ t₁ j t₂ t₃ world t₄,
      w.span = t₁ ++ .executed j :: (t₂ ++ .boundary j :: (t₃ ++ .captured j world :: t₄)) ∧
      (dispatched w.span).Nodup ∧
      (Reflected c w.span world s ↔ gamePackets (dispatched t₂) = []) := by
  obtain ⟨j, world, hph⟩ := hsent
  obtain ⟨⟨t₁, t₂, t₃, t₄, hspan, hshown, -, hrecent⟩, hworld, hforward⟩ :
      (∃ t₁ t₂ t₃ t₄, w.span =
          t₁ ++ .executed j :: (t₂ ++ .boundary j :: (t₃ ++ .captured j world :: t₄)) ∧
        w.shown = w.start ++ dispatched t₁ ∧ w.between = dispatched t₂ ∧
        w.recent = dispatched (t₃ ++ t₄)) ∧
      world = w.shown ∧ gamePackets w.recent = forwardedTo c w.span ++ s.relaying := by
    rcases hph with rfl | rfl
    · exact ⟨hshape, hd.2⟩
    · exact ⟨hshape, hd.2⟩
  have hdispatched : dispatched w.span =
      dispatched t₁ ++ (dispatched t₂ ++ dispatched (t₃ ++ t₄)) := by
    rw [hspan]
    simp [dispatched]
  have hnodup : (world ++ (dispatched t₂ ++ dispatched (t₃ ++ t₄))).Nodup := by
    have h := hs.nodup
    rwa [← hs.total, htotal, hdispatched, ← List.append_assoc, ← hshown, ← hworld] at h
  have hold : ∀ p ∈ dispatched t₁, p ∈ world := by
    intro p hp
    rw [hworld, hshown]
    exact List.mem_append_right _ hp
  have hnew : ∀ p ∈ dispatched t₂ ++ dispatched (t₃ ++ t₄), p ∉ world := by
    intro p hp hw
    exact (List.nodup_append.mp hnodup).2.2 p hw p hp rfl
  refine ⟨t₁, j, t₂, t₃, world, t₄, hspan, ?_, ?_⟩
  · have h := hs.nodup
    rw [← hs.total, htotal] at h
    exact (List.nodup_append.mp h).2.1
  · rw [Reflected, ← hforward, hrecent, hdispatched, filter_notMem hold hnew, gamePackets,
      gamePackets, List.filter_append]
    exact List.self_eq_append_left

/-- In a login that comes to `AwaitReady` undisturbed, A's game packets reach B once each, in
the snapshot or after it and in the order of their dispatch, if and only if none of them is
dispatched between the queueing of the snapshot's task and the boundary. -/
theorem snapshot_run {s₀ s : Session} {pre span : List Event} {c : Channel} (h₀ : s₀.Start)
    (hdistinct : s₀.packets.Nodup)
    (hrun : Step.Run Session.step s₀ (pre ++ .begun c :: span) s)
    (hopen : ∀ e ∈ span, ¬ e.Closes) (hready : .enter c .AwaitReady ∈ span) :
    ∃ t₁ j t₂ t₃ world t₄,
      span = t₁ ++ .executed j :: (t₂ ++ .boundary j :: (t₃ ++ .captured j world :: t₄)) ∧
      (dispatched span).Nodup ∧
      (Reflected c span world s ↔ gamePackets (dispatched t₂) = []) := by
  obtain ⟨-, hsees, hdata⟩ := data_run h₀ hdistinct hrun
  have hstop : .stop ∉ pre := by
    obtain ⟨t, t', rfl⟩ := List.append_of_mem hready
    rw [← List.cons_append, ← List.append_assoc] at hrun
    exact fun hmem => stop_notMem h₀ hrun (List.mem_append_left _ hmem)
  have hbegun := foldl_begun h₀ hrun hstop
  rw [← List.singleton_append, ← List.append_assoc] at hrun hsees hdata
  have hsent := delivered_of_ready h₀ hrun hopen hready
  rw [show Phase.outside = (watched s₀).1 from rfl, ← watch_fst] at hsent
  rw [List.foldl_append, hbegun] at hsees hdata hsent
  -- from here on only the window of this login matters
  generalize hx : (Phase.begun c, Window.opened (s₀.packets ++ dispatched pre)) = x
    at hsees hdata hsent
  have hwithin : x.1.Within c := by
    rw [← hx]
    rfl
  obtain ⟨hspan, hstart, halive⟩ := Window.foldl_of_within hwithin hopen
  have hshape : Window.Shape x.1 x.2 := by
    rw [← hx]
    exact (List.append_nil _).symm
  have htotal : (span.foldl watch x).2.total =
      (span.foldl watch x).2.start ++ dispatched (span.foldl watch x).2.span := by
    rw [Window.foldl_total, hspan, hstart, ← hx]
    rfl
  have halive' : (span.foldl watch x).2.alive = true := by
    rw [halive, ← hx]
    rfl
  have hiff := reflected_iff hsees (hdata halive') (Window.foldl_shape hshape span) hsent htotal
  have hall : (span.foldl watch x).2.span = span := by
    rw [hspan, ← hx]
    rfl
  rwa [hall] at hiff

/-- A change of a block in A's world. -/
def blockUpdate (id : ℕ) : Packet :=
  ⟨id, "net.minecraft.network.protocol.game.ClientboundBlockUpdatePacket"⟩

/-- A packet of A's server is read. -/
def relayActions (id : ℕ) : List Action := [.relayRead (blockUpdate id), .relayForward true]

/-- B's login, before its handoff begins. -/
def greeting : List Event := [.intention 1, .enter 1 .AwaitLogin, .login 1 true true]

/-- A packet before the task of the snapshot, one behind the boundary and one behind the
login. -/
def sampleSpan : List Event :=
  [.enter 1 .Syncing, .dispatched (blockUpdate 0), .executed 0, .boundary 0,
    .dispatched (blockUpdate 1), .captured 0 [blockUpdate 0], .sent 1, .enter 1 .AwaitReady,
    .forwarded 1 (blockUpdate 1), .dispatched (blockUpdate 2), .forwarded 1 (blockUpdate 2)]

theorem snapshot_run_test : ∃ s,
    Step.Run Session.step inGame (greeting ++ .begun 1 :: sampleSpan) s ∧
    ∃ t₁ j t₂ t₃ world t₄,
      sampleSpan =
        t₁ ++ .executed j :: (t₂ ++ .boundary j :: (t₃ ++ .captured j world :: t₄)) ∧
      (dispatched sampleSpan).Nodup ∧
      (Reflected 1 sampleSpan world s ↔ gamePackets (dispatched t₂) = []) := by
  let acts : List Action := [.intention 1, .hello 1, .readMidSession, .takeTarget true,
    .beginHandoff, .listJob true] ++ relayActions 0 ++ [.execute true, .runTask, .runTask,
    .snapshotCheck true, .snapshotBoundary] ++ relayActions 1 ++ [.snapshotCapture true,
    .snapshotPublish, .waitDone true, .writeSnapshot true, .readMidSessionAgain,
    .finishLogin] ++ relayActions 2
  obtain ⟨s, hrun⟩ := Step.run_of_trace (show (Step.exec Session.step inGame acts).map Prod.snd =
    some (greeting ++ .begun 1 :: sampleSpan) by decide)
  refine ⟨s, hrun, snapshot_run inGame_start ?_ hrun ?_ ?_⟩
  · simp [Session.packets, inGame, queuePackets]
  · simp [sampleSpan, Event.Closes]
  · simp [sampleSpan]

/-- A packet that is read while the task of the snapshot is waiting is lost: its own task runs
after the capture, and the boundary has removed it from the buffer. -/
theorem snapshot_loses : ∃ span s,
    Step.Run Session.step inGame (greeting ++ .begun 1 :: span) s ∧
      (∀ e ∈ span, ¬ e.Closes) ∧ .enter 1 .AwaitReady ∈ span ∧ .captured 0 [] ∈ span ∧
      .dispatched (blockUpdate 0) ∈ span ∧ s.world = [blockUpdate 0] ∧ s.dispatch = none ∧
      forwardedTo 1 span = [] ∧ ¬ Reflected 1 span [] s := by
  let acts : List Action := [.intention 1, .hello 1, .readMidSession, .takeTarget true,
    .beginHandoff, .listJob true, .execute true] ++ relayActions 0 ++ [.runTask,
    .snapshotCheck true, .snapshotBoundary, .snapshotCapture true, .snapshotPublish, .runTask,
    .waitDone true, .writeSnapshot true, .readMidSessionAgain, .finishLogin,
    .packet 1 ⟨acceptTeleportation, some LoginHandoff.teleportId⟩]
  let span : List Event := [.enter 1 .Syncing, .executed 0, .dispatched (blockUpdate 0),
    .boundary 0, .captured 0 [], .sent 1, .enter 1 .AwaitReady, .acknowledged 1, .enter 1 .Play]
  obtain ⟨r, hr, htr, hworld, hfree⟩ : ∃ r, Step.exec Session.step inGame acts = some r ∧
      r.2 = greeting ++ .begun 1 :: span ∧ r.1.world = [blockUpdate 0] ∧ r.1.dispatch = none :=
    ⟨_, rfl, by decide, rfl, rfl⟩
  have hrun := Step.run_of_exec hr
  rw [htr] at hrun
  refine ⟨span, r.1, hrun, by simp [span, Event.Closes], by simp [span], by simp [span],
    by simp [span], hworld, hfree, rfl, ?_⟩
  rw [Reflected, Session.relaying_of_free hfree]
  decide

end Server
end SakuraTools
