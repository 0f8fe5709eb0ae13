import SakuraTools.Server.Handover

/-!
# The packets around a snapshot

A monitor that reads the trace next to the phase of the login.  It remembers which packets of
A's server were dispatched before the task of the snapshot was queued, between that and the
boundary, and after the boundary.
-/

namespace SakuraTools
namespace Server

/-! ## Packets in traces and queues -/

def dispatched (tr : List Event) : List Packet :=
  tr.filterMap fun
    | .dispatched p => some p
    | _ => none

/-- The packets that the channel was sent. -/
def forwardedTo (c : Channel) (tr : List Event) : List Packet :=
  tr.filterMap fun
    | .forwarded c' p => if c' = c then some p else none
    | _ => none

def queuePackets (q : List Task) : List Packet :=
  q.filterMap fun
    | .packet p => some p
    | .snapshot _ => none

lemma dispatched_append (t t' : List Event) :
    dispatched (t ++ t') = dispatched t ++ dispatched t' := List.filterMap_append

/-- A's network thread dispatches outside of the sections. -/
lemma dispatched_of_section {k : Session.Section} {s s' : Session} {es : List Event}
    (h : Session.InSection k s s' es) : dispatched es = [] := by
  refine List.filterMap_eq_nil_iff.mpr ?_
  intro e he
  have hemits := h.events e he
  cases e with
  | dispatched p =>
    cases k with
    | forward | finish | packet | timeout => exact False.elim hemits
  | _ => rfl

lemma forwardedTo_append (c : Channel) (t t' : List Event) :
    forwardedTo c (t ++ t') = forwardedTo c t ++ forwardedTo c t' := List.filterMap_append

lemma forwardedTo_map (c : Channel) (ps : List Packet) :
    forwardedTo c (ps.map (.forwarded c)) = ps := by
  induction ps with
  | nil => rfl
  | cons p ps ih =>
    rw [List.map_cons, ← List.singleton_append, forwardedTo_append, ih]
    simp [forwardedTo]

lemma queuePackets_append (q q' : List Task) :
    queuePackets (q ++ q') = queuePackets q ++ queuePackets q' := List.filterMap_append

lemma mem_queuePackets {q : List Task} {p : Packet} (h : p ∈ queuePackets q) :
    .packet p ∈ q := by
  obtain ⟨t, ht, heq⟩ := List.mem_filterMap.mp h
  cases t with
  | packet p' =>
    cases heq
    exact ht
  | snapshot => cases heq

/-- A's packets in the order of their tasks: those that have run, and those that will. -/
def Session.packets (s : Session) : List Packet := s.world ++ queuePackets s.queue

/-- The game packet that is on its way between A's task and `BServer_ForwardToB`. -/
def Session.relaying (s : Session) : List Packet :=
  match s.dispatch with
  | some (.relay p) => gamePackets [p]
  | _ => []

lemma Session.relaying_of_free {s : Session} (h : s.dispatch = none) : s.relaying = [] := by
  rw [Session.relaying, h]

/-- A packet is put behind the tasks that are queued. -/
lemma append_packet_split {q q₁ q₂ : List Task} {p : Packet} {j : JobId}
    (h : q ++ [.packet p] = q₁ ++ .snapshot j :: q₂) :
    ∃ q₂', q₂ = q₂' ++ [.packet p] ∧ q = q₁ ++ .snapshot j :: q₂' := by
  rcases List.eq_nil_or_concat q₂ with rfl | ⟨q₂', t, rfl⟩
  · have hlast := congrArg List.getLast? h
    simp at hlast
  · rw [List.concat_eq_append] at h ⊢
    rw [← List.cons_append, ← List.append_assoc] at h
    obtain ⟨hq, hlast⟩ := List.append_inj' h rfl
    cases hlast
    exact ⟨q₂', rfl, hq⟩

/-! ## The window -/

/-- What the monitor remembers. -/
structure Window where
  /-- All packets, in the order of their tasks. -/
  total : List Packet
  /-- The packets before `handoff.begin`. -/
  start : List Packet := []
  /-- The packets before the task of the snapshot was queued. -/
  shown : List Packet := []
  /-- The packets between that and the boundary. -/
  between : List Packet := []
  /-- The packets since the task was queued, and from the boundary on, since then. -/
  recent : List Packet := []
  /-- The events since `handoff.begin`. -/
  span : List Event := []
  stopped : Bool := false
  /-- The session is not stopped, and B has not asked for another login. -/
  alive : Bool := false

namespace Window

def add (w : Window) (e : Event) : Window := { w with span := w.span ++ [e] }

def onBegun (w : Window) (e : Event) : Phase → Window
  | .greeted _ _ =>
    { total := w.total, start := w.total, stopped := w.stopped, alive := !w.stopped }
  | _ => w.add e

def onExecuted (w : Window) (e : Event) : Phase → Window
  | .begun _ => { w.add e with shown := w.total, recent := [] }
  | _ => w.add e

def onBoundary (w : Window) (j : JobId) : Phase → Window
  | .executed _ i =>
    if i = j then { w.add (.boundary j) with between := w.recent, recent := [] }
    else w.add (.boundary j)
  | _ => w.add (.boundary j)

def next (ph : Phase) (w : Window) (e : Event) : Window :=
  match e with
  | .begun _ => w.onBegun e ph
  | .executed _ => w.onExecuted e ph
  | .boundary j => w.onBoundary j ph
  | .dispatched p => { w.add e with total := w.total ++ [p], recent := w.recent ++ [p] }
  | .intention _ => { w.add e with alive := false }
  | .stop => { w.add e with stopped := true, alive := false }
  | .login _ _ _ | .captured _ _ | .sent _ | .acknowledged _ | .failed | .reset | .enter _ _
  | .forwarded _ _ | .routed _ => w.add e

end Window

/-- The monitor of the phase and the monitor of the window together. -/
def watch (x : Phase × Window) (e : Event) : Phase × Window := (x.1.next e, x.2.next x.1 e)

lemma watch_fst (x : Phase × Window) (tr : List Event) :
    (tr.foldl watch x).1 = tr.foldl Phase.next x.1 := by
  induction tr generalizing x with
  | nil => rfl
  | cons e tr ih => exact ih (watch x e)

namespace Window

variable {ph : Phase} {w : Window}

lemma next_total (ph : Phase) (w : Window) (e : Event) :
    (w.next ph e).total = w.total ++ dispatched [e] := by
  cases e with
  | dispatched p => rfl
  | begun => cases ph <;> simp [next, onBegun, add, dispatched]
  | executed => cases ph <;> simp [next, onExecuted, add, dispatched]
  | boundary j =>
    cases ph with
    | executed c i =>
      simp only [next, onBoundary]
      split <;> simp [add, dispatched]
    | _ => simp [next, onBoundary, add, dispatched]
  | _ => simp [next, add, dispatched]

lemma foldl_total (x : Phase × Window) (tr : List Event) :
    (tr.foldl watch x).2.total = x.2.total ++ dispatched tr := by
  induction tr generalizing x with
  | nil => simp [dispatched]
  | cons e tr ih =>
    rw [List.foldl_cons, ih, watch, next_total, ← List.singleton_append (l := tr),
      dispatched_append, List.append_assoc]

lemma next_stopped (ph : Phase) (w : Window) (e : Event) :
    (w.next ph e).stopped = false ↔ w.stopped = false ∧ e ≠ .stop := by
  cases e with
  | begun => cases ph <;> simp [next, onBegun, add]
  | executed => cases ph <;> simp [next, onExecuted, add]
  | boundary j =>
    cases ph with
    | executed c i =>
      simp only [next, onBoundary]
      split <;> simp [add]
    | _ => simp [next, onBoundary, add]
  | _ => simp [next, add]

lemma foldl_stopped (x : Phase × Window) (tr : List Event) :
    (tr.foldl watch x).2.stopped = false ↔ x.2.stopped = false ∧ .stop ∉ tr := by
  induction tr generalizing x with
  | nil => simp
  | cons e tr ih =>
    rw [List.foldl_cons, ih, watch, next_stopped, List.mem_cons, not_or, and_assoc,
      ne_comm (a := e)]

/-- Only `handoff.begin` opens a window. -/
lemma alive_of_next {ph : Phase} {w : Window} {e : Event} (he : ∀ c, e ≠ .begun c)
    (h : (w.next ph e).alive = true) : w.alive = true := by
  cases e with
  | begun c => exact absurd rfl (he c)
  | executed => cases ph <;> exact h
  | boundary j =>
    cases ph with
    | executed c i =>
      simp only [next, onBoundary] at h
      split at h <;> exact h
    | _ => exact h
  | intention | stop => cases h
  | _ => exact h

lemma alive_of_foldl {x : Phase × Window} {tr : List Event} (htr : ∀ c, .begun c ∉ tr)
    (h : (tr.foldl watch x).2.alive = true) : x.2.alive = true := by
  induction tr generalizing x with
  | nil => exact h
  | cons e tr ih =>
    have hnext := ih (fun c hc => htr c (List.mem_cons_of_mem _ hc)) h
    have he (c : Channel) : e ≠ .begun c := by
      rintro rfl
      exact htr c List.mem_cons_self
    exact alive_of_next he hnext

lemma next_alive (ph : Phase) {w : Window} (h : w.alive = true → w.stopped = false)
    (e : Event) : (w.next ph e).alive = true → (w.next ph e).stopped = false := by
  cases e with
  | begun => cases ph <;> simp_all [next, onBegun, add]
  | executed => cases ph <;> simp_all [next, onExecuted, add]
  | boundary j =>
    cases ph with
    | executed c i =>
      simp only [next, onBoundary]
      split <;> simpa [add] using h
    | _ => simpa [next, onBoundary, add] using h
  | intention | stop => simp [next, add]
  | _ => simpa [next, add] using h

lemma foldl_alive (x : Phase × Window) (h : x.2.alive = true → x.2.stopped = false)
    (tr : List Event) :
    (tr.foldl watch x).2.alive = true → (tr.foldl watch x).2.stopped = false := by
  induction tr generalizing x with
  | nil => exact h
  | cons e tr ih => exact ih _ (next_alive x.1 h e)

/-- How the events since `handoff.begin` fall into the parts that the monitor remembers. -/
def Shape : Phase → Window → Prop
  | .begun _, w => w.total = w.start ++ dispatched w.span
  | .executed _ j, w =>
    ∃ t₁ t₂, w.span = t₁ ++ .executed j :: t₂ ∧ w.shown = w.start ++ dispatched t₁ ∧
      w.recent = dispatched t₂
  | .bounded _ j, w =>
    ∃ t₁ t₂ t₃, w.span = t₁ ++ .executed j :: (t₂ ++ .boundary j :: t₃) ∧
      w.shown = w.start ++ dispatched t₁ ∧ w.between = dispatched t₂ ∧ w.recent = dispatched t₃
  | .captured _ j world, w | .sent _ j world, w | .acknowledged _ j world, w =>
    ∃ t₁ t₂ t₃ t₄, w.span =
        t₁ ++ .executed j :: (t₂ ++ .boundary j :: (t₃ ++ .captured j world :: t₄)) ∧
      w.shown = w.start ++ dispatched t₁ ∧ w.between = dispatched t₂ ∧
      w.recent = dispatched (t₃ ++ t₄)
  | .outside, _ | .greeted _ _, _ | .broken _, _ => True

/-- An event that changes no phase is added to the last part. -/
lemma Shape.add (h : Shape ph w) (e : Event) {w' : Window} (hspan : w'.span = w.span ++ [e])
    (htotal : w'.total = w.total ++ dispatched [e])
    (hrecent : w'.recent = w.recent ++ dispatched [e]) (hstart : w'.start = w.start)
    (hshown : w'.shown = w.shown) (hbetween : w'.between = w.between) : Shape ph w' := by
  cases ph with
  | outside | greeted | broken => trivial
  | begun =>
    have h : w.total = w.start ++ dispatched w.span := h
    show w'.total = w'.start ++ dispatched w'.span
    rw [htotal, h, hstart, hspan, dispatched_append, List.append_assoc]
  | executed c j =>
    obtain ⟨t₁, t₂, hs, hsh, hr⟩ := h
    refine ⟨t₁, t₂ ++ [e], by simp [hspan, hs], by rw [hshown, hstart, hsh], ?_⟩
    rw [hrecent, hr, dispatched_append]
  | bounded c j =>
    obtain ⟨t₁, t₂, t₃, hs, hsh, hb, hr⟩ := h
    refine ⟨t₁, t₂, t₃ ++ [e], by simp [hspan, hs], by rw [hshown, hstart, hsh],
      by rw [hbetween, hb], ?_⟩
    rw [hrecent, hr, dispatched_append]
  | captured | sent | acknowledged =>
    obtain ⟨t₁, t₂, t₃, t₄, hs, hsh, hb, hr⟩ := h
    refine ⟨t₁, t₂, t₃, t₄ ++ [e], by simp [hspan, hs], by rw [hshown, hstart, hsh],
      by rw [hbetween, hb], ?_⟩
    rw [hrecent, hr, dispatched_append, dispatched_append, dispatched_append,
      List.append_assoc]

lemma Shape.next (h : Shape ph w) (e : Event) : Shape (ph.next e) (w.next ph e) := by
  have hadd (he : dispatched [e] = []) : Shape ph (w.add e) :=
    h.add e rfl (by simp [he, Window.add]) (by simp [he, Window.add]) rfl rfl rfl
  cases e with
  | login => trivial
  | failed | reset => cases ph <;> trivial
  | enter | forwarded | routed => exact hadd rfl
  | intention | stop =>
    exact h.add _ rfl (by simp [Window.next, Window.add, dispatched])
      (by simp [Window.next, Window.add, dispatched]) rfl rfl rfl
  | dispatched p => exact h.add _ rfl rfl rfl rfl rfl rfl
  | begun c =>
    cases ph with
    | greeted c' mid =>
      simp only [Phase.next, Phase.onBegun]
      split
      · show w.total = w.total ++ dispatched []
        simp [dispatched]
      · trivial
    | _ => exact hadd rfl
  | executed j =>
    cases ph with
    | begun c =>
      have h : w.total = w.start ++ dispatched w.span := h
      exact ⟨w.span, [], rfl, h, rfl⟩
    | _ => exact hadd rfl
  | boundary j =>
    cases ph with
    | executed c i =>
      simp only [Phase.next, Phase.onBoundary, Window.next, Window.onBoundary]
      split
      · rename_i hi
        subst hi
        obtain ⟨t₁, t₂, hs, hsh, hr⟩ := h
        exact ⟨t₁, t₂, [], by simp [Window.add, hs], hsh, hr, rfl⟩
      · exact hadd rfl
    | _ => exact hadd rfl
  | captured j world =>
    cases ph with
    | bounded c i =>
      simp only [Phase.next, Phase.onCaptured]
      split
      · rename_i hi
        subst hi
        obtain ⟨t₁, t₂, t₃, hs, hsh, hb, hr⟩ := h
        exact ⟨t₁, t₂, t₃, [], by simp [Window.next, Window.add, hs], hsh, hb,
          by rw [List.append_nil]; exact hr⟩
      · exact hadd rfl
    | _ => exact hadd rfl
  | sent c =>
    cases ph with
    | captured c' j world =>
      simp only [Phase.next, Phase.onSent]
      split
      · exact hadd rfl
      · exact hadd rfl
    | _ => exact hadd rfl
  | acknowledged c =>
    cases ph with
    | sent c' j world =>
      simp only [Phase.next, Phase.onAcknowledged]
      split
      · exact hadd rfl
      · exact hadd rfl
    | _ => exact hadd rfl

lemma foldl_shape {x : Phase × Window} (h : Shape x.1 x.2) (tr : List Event) :
    Shape (tr.foldl watch x).1 (tr.foldl watch x).2 := by
  induction tr generalizing x with
  | nil => exact h
  | cons e tr ih => exact ih (x := watch x e) (h.next e)

end Window

/-! ## A login that goes on undisturbed -/

namespace Phase

/-- The login of the channel has begun its handoff and is not broken. -/
def Within (c : Channel) : Phase → Prop
  | begun c' | executed c' _ | bounded c' _ | captured c' _ _ | sent c' _ _
  | acknowledged c' _ _ => c' = c
  | outside | greeted _ _ | broken _ => False

/-- The snapshot is sent. -/
def Delivered (c : Channel) (ph : Phase) : Prop :=
  ∃ j world, ph = sent c j world ∨ ph = acknowledged c j world

lemma Within.next {c : Channel} {ph : Phase} (h : ph.Within c) {e : Event} (he : ¬ e.Ends) :
    (ph.next e).Within c := by
  cases e with
  | login | failed | reset => exact absurd trivial he
  | intention | enter | dispatched | forwarded | routed | stop => exact h
  | begun | executed =>
    cases ph with
    | outside | greeted | broken => exact h.elim
    | _ => exact h
  | boundary =>
    cases ph with
    | executed =>
      simp only [Phase.next, onBoundary]
      split <;> exact h
    | _ => exact h
  | captured =>
    cases ph with
    | bounded =>
      simp only [Phase.next, onCaptured]
      split <;> exact h
    | _ => exact h
  | sent =>
    cases ph with
    | captured =>
      simp only [Phase.next, onSent]
      split <;> exact h
    | _ => exact h
  | acknowledged =>
    cases ph with
    | sent =>
      simp only [Phase.next, onAcknowledged]
      split <;> exact h
    | _ => exact h

lemma Delivered.next {c : Channel} {ph : Phase} (h : ph.Delivered c) {e : Event}
    (he : ¬ e.Ends) : (ph.next e).Delivered c := by
  obtain ⟨j, world, rfl | rfl⟩ := h
  · cases e with
    | login | failed | reset => exact absurd trivial he
    | acknowledged c' =>
      simp only [Phase.next, onAcknowledged]
      split
      · exact ⟨j, world, .inr rfl⟩
      · exact ⟨j, world, .inl rfl⟩
    | _ => exact ⟨j, world, .inl rfl⟩
  · cases e with
    | login | failed | reset => exact absurd trivial he
    | _ => exact ⟨j, world, .inr rfl⟩

lemma Delivered.foldl {c : Channel} {ph : Phase} (h : ph.Delivered c) {tr : List Event}
    (htr : ∀ e ∈ tr, ¬ e.Ends) : (tr.foldl Phase.next ph).Delivered c := by
  induction tr generalizing ph with
  | nil => exact h
  | cons e tr ih =>
    rw [List.forall_mem_cons] at htr
    exact ih (h.next htr.1) htr.2

end Phase

/-- The events after which the packets of a login are no longer followed. -/
def Event.Closes : Event → Prop
  | .login _ _ _ | .failed | .reset | .intention _ | .stop => True
  | _ => False

lemma not_ends_of_not_closes {e : Event} (h : ¬ e.Closes) : ¬ e.Ends := by
  cases e <;> simp_all [Event.Ends, Event.Closes]

namespace Window

lemma next_of_within {c : Channel} {ph : Phase} {w : Window} (h : ph.Within c) {e : Event}
    (he : ¬ e.Closes) : (w.next ph e).span = w.span ++ [e] ∧
      (w.next ph e).start = w.start ∧ (w.next ph e).alive = w.alive := by
  cases e with
  | login | failed | reset | intention | stop => exact absurd trivial he
  | begun | executed =>
    cases ph with
    | outside | greeted | broken => exact h.elim
    | _ => exact ⟨rfl, rfl, rfl⟩
  | boundary =>
    cases ph with
    | executed =>
      simp only [next, onBoundary]
      split <;> exact ⟨rfl, rfl, rfl⟩
    | _ => exact ⟨rfl, rfl, rfl⟩
  | _ => exact ⟨rfl, rfl, rfl⟩

/-- The window of a login that nothing disturbs holds its events. -/
lemma foldl_of_within {c : Channel} {x : Phase × Window} (h : x.1.Within c) {tr : List Event}
    (htr : ∀ e ∈ tr, ¬ e.Closes) : (tr.foldl watch x).2.span = x.2.span ++ tr ∧
      (tr.foldl watch x).2.start = x.2.start ∧ (tr.foldl watch x).2.alive = x.2.alive := by
  induction tr generalizing x with
  | nil => simp
  | cons e tr ih =>
    rw [List.forall_mem_cons] at htr
    obtain ⟨hspan, hstart, halive⟩ := next_of_within (w := x.2) h htr.1
    have hnext : (watch x e).1.Within c := h.next (not_ends_of_not_closes htr.1)
    obtain ⟨hspan', hstart', halive'⟩ := ih hnext htr.2
    rw [List.foldl_cons, hspan', hstart', halive']
    exact ⟨by simp [watch, hspan], hstart, halive⟩

end Window
end Server
end SakuraTools
