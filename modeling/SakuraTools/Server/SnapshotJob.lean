import Mathlib.Data.List.Count
import Mathlib.Data.List.Nodup
import Mathlib.Logic.Function.Basic
import SakuraTools.Lib.Ledger
import SakuraTools.Server.Session

/-!
# The references of a snapshot job

`CaptureWorldSnapshot` makes a job, waits for it, and may give it up.  `runSnapshot` takes it out of
the list, captures the packets and publishes them.  The list has a mutex, and so has every job; the
steps are the sections of these mutexes and what is done between them, for any number of jobs.
-/

namespace SakuraTools
namespace Server

/-- A global reference of a job: one of its three objects, or a packet that was captured for it. -/
inductive JobRef where
  | task
  | minecraft
  | connection
  | packet (n : ℕ)
deriving DecidableEq, Repr

/-- Where `CaptureWorldSnapshot` is. -/
inductive CallerPc where
  | idle
  /-- The job has its three references. -/
  | made
  /-- The job is in the list. -/
  | listed
  | waiting
  | cancelling
  | removing
  | returned (ok : Bool)
deriving DecidableEq, Repr

/-- Where a call of `runSnapshot` is, once it has found its job. -/
inductive RunPc where
  | found
  | checked
  | capturing
  | finishing (ok : Bool)
deriving DecidableEq, Repr

/-- The fields of a `Job`, with the call that has made it and those of `runSnapshot` that have found
it.  A packet is the number of the references that were captured before it. -/
structure CaptureJob extends Job where
  packets : List ℕ := []
  captured : ℕ := 0
  caller : CallerPc := .idle
  runs : List RunPc := []
deriving DecidableEq, Repr

inductive JobAction where
  -- the sections of `CaptureWorldSnapshot`
  /-- It returns before it makes a reference. -/
  | refuse
  /-- The three calls of `NewGlobalRef`. -/
  | make (task minecraft connection : Bool)
  | enqueue
  | execute (ok : Bool)
  /-- The wait ends because the job is done, or because of its time limit. -/
  | wake
  | timeout
  | cancel
  | remove
  -- the sections of `runSnapshot`
  /-- The search for the job of the task. -/
  | find
  /-- The test of `cancelled`; `enter` tells whether callbacks are allowed and the frame is
  pushed. -/
  | check (enter : Bool)
  | boundary (ok : Bool)
  /-- A packet gets a reference; `kept` tells whether `push_back` does not throw. -/
  | add (kept : Bool)
  /-- `captureNow` returns or throws. -/
  | capture (ok : Bool)
  | publish (ok : Bool)
deriving DecidableEq, Repr

inductive JobEvent where
  /-- `NewGlobalRef` -/
  | created (r : JobRef)
  /-- `DeleteGlobalRef` -/
  | deleted (r : JobRef)
  /-- The reference is given to the caller of `CaptureWorldSnapshot`. -/
  | handed (r : JobRef)
  /-- `captureNow` returns. -/
  | captured
  /-- `CaptureWorldSnapshot` returns. -/
  | returned (ok : Bool)
deriving DecidableEq, Repr

/-! ## The sections -/

/-- The references that `NewGlobalRef` does return. -/
def newRefs (task minecraft connection : Bool) : List JobRef :=
  (if task then [.task] else []) ++ (if minecraft then [.minecraft] else []) ++
    if connection then [.connection] else []

/-- The three references of a job. -/
def jobRefs : List JobRef := [.task, .minecraft, .connection]

/-- The references of the packets. -/
def packetRefs (packets : List ℕ) : List JobRef := packets.map .packet

namespace CaptureJob

/-- `releasePackets` -/
def releasePackets (packets : List ℕ) : List JobEvent := (packetRefs packets).map .deleted

/-- A call of `runSnapshot` goes on. -/
def advance (x : CaptureJob) (pc pc' : RunPc) : CaptureJob :=
  { x with runs := pc' :: x.runs.erase pc }

/-- The references of a new job, or none of them. -/
def make (x : CaptureJob) (task minecraft connection : Bool) : CaptureJob × List JobEvent :=
  let refs := newRefs task minecraft connection
  if task && minecraft && connection then ({ x with caller := .made }, refs.map .created)
  else
    ({ x with caller := .returned false },
      refs.map .created ++ refs.map .deleted ++ [.returned false])

/-- The job is done: the packets are swapped out of it. -/
def wake (x : CaptureJob) : CaptureJob × List JobEvent :=
  ({ x with packets := [], caller := .returned x.ok },
    (packetRefs x.packets).map .handed ++ [.returned x.ok])

/-- The first section after the job is given up. -/
def cancel (x : CaptureJob) : CaptureJob × List JobEvent :=
  if x.done then
    ({ x with cancelled := true, packets := [], caller := .removing }, releasePackets x.packets)
  else ({ x with cancelled := true, caller := .removing }, [])

/-- A packet gets a reference. -/
def add (x : CaptureJob) (kept : Bool) : CaptureJob × List JobEvent :=
  if kept then
    ({ x with packets := x.packets ++ [x.captured], captured := x.captured + 1 },
      [.created (.packet x.captured)])
  else
    ({ x.advance .capturing (.finishing false) with captured := x.captured + 1 },
      [.created (.packet x.captured), .deleted (.packet x.captured)])

/-- The last section of `runSnapshot`. -/
def publish (x : CaptureJob) (ok : Bool) : CaptureJob × List JobEvent :=
  let x := { x with runs := x.runs.erase (.finishing ok), done := true }
  if !ok || x.cancelled then
    ({ x with packets := [], ok := false },
      releasePackets x.packets ++ jobRefs.map .deleted)
  else ({ x with ok := true }, jobRefs.map .deleted)

end CaptureJob

/-- The list `jobs`, and the jobs. -/
structure Captures where
  jobs : List JobId := []
  job : JobId → CaptureJob := fun _ => {}

namespace Captures

/-- The job after a section, with its events. -/
def put (s : Captures) (j : JobId) (r : CaptureJob × List JobEvent) :
    Captures × List (JobId × JobEvent) :=
  ({ s with job := Function.update s.job j r.1 }, r.2.map (Prod.mk j))

/-- The call that has made the job goes on at `pc`. -/
def goto (s : Captures) (j : JobId) (pc : CallerPc) : Captures × List (JobId × JobEvent) :=
  s.put j ({ s.job j with caller := pc }, [])

/-- The job leaves the list, and its references are deleted, unless `runSnapshot` has found it. -/
def remove (s : Captures) (j : JobId) : Captures × List (JobId × JobEvent) :=
  let x := { s.job j with caller := .returned false }
  if j ∈ s.jobs then
    ({ s with jobs := s.jobs.erase j } : Captures).put j
      (x, jobRefs.map .deleted ++ [.returned false])
  else s.put j (x, [.returned false])

/-- The search of `runSnapshot`. -/
def find (s : Captures) (j : JobId) : Captures × List (JobId × JobEvent) :=
  let x := s.job j
  if j ∈ s.jobs then
    ({ s with jobs := s.jobs.erase j } : Captures).put j ({ x with runs := .found :: x.runs }, [])
  else (s, [])

/-- One section of a call of `CaptureWorldSnapshot` or `runSnapshot` for a job. -/
def step : Step Captures (JobId × JobAction) (JobId × JobEvent) := fun s (j, a) =>
  let x := s.job j
  match a with
  | .refuse =>
    if x.caller = .idle then
      some (s.put j ({ x with caller := .returned false }, [.returned false]))
    else none
  | .make task minecraft connection =>
    if x.caller = .idle then some (s.put j (x.make task minecraft connection)) else none
  | .enqueue =>
    if x.caller = .made then some (({ s with jobs := s.jobs ++ [j] } : Captures).goto j .listed)
    else none
  | .execute ok =>
    if x.caller = .listed then some (s.goto j (if ok then .waiting else .cancelling)) else none
  | .wake => if x.caller = .waiting ∧ x.done then some (s.put j x.wake) else none
  | .timeout =>
    if x.caller = .waiting ∧ x.done = false then some (s.goto j .cancelling) else none
  | .cancel => if x.caller = .cancelling then some (s.put j x.cancel) else none
  | .remove => if x.caller = .removing then some (s.remove j) else none
  | .find => some (s.find j)
  | .check enter =>
    if .found ∈ x.runs then
      some (s.put j (x.advance .found
        (if enter && !x.cancelled then .checked else .finishing false), []))
    else none
  | .boundary ok =>
    if .checked ∈ x.runs then
      some (s.put j (x.advance .checked (if ok then .capturing else .finishing false), []))
    else none
  | .add kept => if .capturing ∈ x.runs then some (s.put j (x.add kept)) else none
  | .capture ok =>
    if .capturing ∈ x.runs then
      some (s.put j (x.advance .capturing (.finishing ok), if ok then [.captured] else []))
    else none
  | .publish ok => if .finishing ok ∈ x.runs then some (s.put j (x.publish ok)) else none

end Captures

/-! ## What a section does -/

/-- A change of a job and of the number of its places in the list, with the events of the job. -/
inductive JobMove : CaptureJob × ℕ → List JobEvent → CaptureJob × ℕ → Prop
  | refuse {x : CaptureJob} {n : ℕ} (hcaller : x.caller = .idle) :
      JobMove (x, n) [.returned false] ({ x with caller := .returned false }, n)
  | make {x : CaptureJob} {n : ℕ} (hcaller : x.caller = .idle) :
      JobMove (x, n) (jobRefs.map .created) ({ x with caller := .made }, n)
  | makeFailed {x : CaptureJob} {n : ℕ} (hcaller : x.caller = .idle) (refs : List JobRef)
      (hrefs : refs.Sublist jobRefs) :
      JobMove (x, n) (refs.map .created ++ refs.map .deleted ++ [.returned false])
        ({ x with caller := .returned false }, n)
  | enqueue {x : CaptureJob} {n : ℕ} (hcaller : x.caller = .made) :
      JobMove (x, n) [] ({ x with caller := .listed }, n + 1)
  | await {x : CaptureJob} {n : ℕ} (hcaller : x.caller = .listed) :
      JobMove (x, n) [] ({ x with caller := .waiting }, n)
  | giveUp {x : CaptureJob} {n : ℕ}
      (hcaller : x.caller = .listed ∨ x.caller = .waiting ∧ x.done = false) :
      JobMove (x, n) [] ({ x with caller := .cancelling }, n)
  | wake {x : CaptureJob} {n : ℕ} (hcaller : x.caller = .waiting) (hdone : x.done = true) :
      JobMove (x, n) x.wake.2 (x.wake.1, n)
  | cancel {x : CaptureJob} {n : ℕ} (hcaller : x.caller = .cancelling) :
      JobMove (x, n) x.cancel.2 (x.cancel.1, n)
  | remove {x : CaptureJob} {n : ℕ} (hcaller : x.caller = .removing) :
      JobMove (x, n + 1) (jobRefs.map .deleted ++ [.returned false])
        ({ x with caller := .returned false }, n)
  | leave {x : CaptureJob} (hcaller : x.caller = .removing) :
      JobMove (x, 0) [.returned false] ({ x with caller := .returned false }, 0)
  | find {x : CaptureJob} {n : ℕ} :
      JobMove (x, n + 1) [] ({ x with runs := .found :: x.runs }, n)
  | miss {x : CaptureJob} {n : ℕ} : JobMove (x, n) [] (x, n)
  | advance {x : CaptureJob} {n : ℕ} {pc pc' : RunPc} (hpc : pc ∈ x.runs)
      (hnext : pc = .found ∧ pc' = .checked ∨ pc = .checked ∧ pc' = .capturing ∨
        pc' = .finishing false) :
      JobMove (x, n) [] (x.advance pc pc', n)
  | add {x : CaptureJob} {n : ℕ} (kept : Bool) (hpc : .capturing ∈ x.runs) :
      JobMove (x, n) (x.add kept).2 ((x.add kept).1, n)
  | capture {x : CaptureJob} {n : ℕ} (hpc : .capturing ∈ x.runs) :
      JobMove (x, n) [.captured] (x.advance .capturing (.finishing true), n)
  | publish {x : CaptureJob} {n : ℕ} (ok : Bool) (hpc : .finishing ok ∈ x.runs) :
      JobMove (x, n) (x.publish ok).2 ((x.publish ok).1, n)

namespace Captures

/-- The job with the number of its places in the list. -/
def view (s : Captures) (j : JobId) : CaptureJob × ℕ := (s.job j, s.jobs.count j)

lemma newRefs_eq {task minecraft connection : Bool}
    (h : (task && minecraft && connection) = true) :
    newRefs task minecraft connection = jobRefs := by
  simp only [Bool.and_eq_true] at h
  obtain ⟨⟨rfl, rfl⟩, rfl⟩ := h
  rfl

lemma newRefs_sublist (task minecraft connection : Bool) :
    (newRefs task minecraft connection).Sublist jobRefs := by
  cases task <;> cases minecraft <;> cases connection <;> decide

/-- A section changes its own job and its own places in the list. -/
lemma family_put {s s' : Captures} {l : List JobId} {j : JobId} {r : CaptureJob × List JobEvent}
    {es : List (JobId × JobEvent)}
    (h : some (({ s with jobs := l } : Captures).put j r) = some (s', es))
    (hl : ∀ k, k ≠ j → l.count k = s.jobs.count k)
    (hmove : JobMove (s.view j) r.2 (r.1, l.count j)) :
    (∃ es₀, es = es₀.map (Prod.mk j) ∧ JobMove (s.view j) es₀ (s'.view j)) ∧
      ∀ k, k ≠ j → s'.view k = s.view k := by
  cases Option.some.inj h
  refine ⟨⟨r.2, rfl, ?_⟩, fun k hk => ?_⟩
  · show JobMove (s.view j) r.2 (Function.update s.job j r.1 j, l.count j)
    rwa [Function.update_self]
  · show (Function.update s.job j r.1 k, l.count k) = _
    rw [Function.update_of_ne hk, hl k hk]
    rfl

/-- A job that is in the list leaves it. -/
lemma view_of_mem {s : Captures} {j : JobId} (hj : j ∈ s.jobs) :
    s.view j = (s.job j, (s.jobs.erase j).count j + 1) := by
  have hcount := @List.count_erase_self _ _ _ j s.jobs
  have hpos := List.count_pos_iff.mpr hj
  rw [view]
  congr 1
  omega

/-- The sections are moves of their jobs. -/
lemma family : Family step view JobMove := by
  rintro s j a s' es h
  cases a with
  | refuse =>
    rw [step] at h
    split_ifs at h with hcaller
    exact family_put h (fun _ _ => rfl) (.refuse hcaller)
  | make task minecraft connection =>
    rw [step] at h
    split_ifs at h with hcaller
    refine family_put h (fun _ _ => rfl) ?_
    rw [CaptureJob.make]
    split_ifs with hrefs
    · rw [newRefs_eq hrefs]
      exact .make hcaller
    · exact .makeFailed hcaller _ (newRefs_sublist task minecraft connection)
  | enqueue =>
    rw [step] at h
    split_ifs at h with hcaller
    refine family_put h (fun k hk => ?_) ?_
    · rw [List.count_append, List.count_singleton, if_neg (by simpa using Ne.symm hk), Nat.add_zero]
    · rw [List.count_append, List.count_singleton_self]
      exact .enqueue hcaller
  | execute ok =>
    rw [step] at h
    split_ifs at h with hcaller hok
    · exact family_put h (fun _ _ => rfl) (.await hcaller)
    · exact family_put h (fun _ _ => rfl) (.giveUp (.inl hcaller))
  | wake =>
    rw [step] at h
    split_ifs at h with hcaller
    exact family_put h (fun _ _ => rfl) (.wake hcaller.1 hcaller.2)
  | timeout =>
    rw [step] at h
    split_ifs at h with hcaller
    exact family_put h (fun _ _ => rfl) (.giveUp (.inr hcaller))
  | cancel =>
    rw [step] at h
    split_ifs at h with hcaller
    exact family_put h (fun _ _ => rfl) (.cancel hcaller)
  | remove =>
    rw [step] at h
    split_ifs at h with hcaller
    rw [remove] at h
    split_ifs at h with hj
    · refine family_put h (fun k hk => List.count_erase_of_ne hk) ?_
      rw [view_of_mem hj]
      exact .remove hcaller
    · refine family_put h (fun _ _ => rfl) ?_
      rw [view, List.count_eq_zero_of_not_mem hj]
      exact .leave hcaller
  | find =>
    rw [step, find] at h
    split_ifs at h with hj
    · refine family_put h (fun k hk => List.count_erase_of_ne hk) ?_
      rw [view_of_mem hj]
      exact .find
    · cases h
      exact ⟨⟨[], rfl, .miss⟩, fun _ _ => rfl⟩
  | check enter =>
    rw [step] at h
    split_ifs at h with hpc henter
    · exact family_put h (fun _ _ => rfl) (.advance hpc (.inl ⟨rfl, rfl⟩))
    · exact family_put h (fun _ _ => rfl) (.advance hpc (.inr (.inr rfl)))
  | boundary ok =>
    rw [step] at h
    split_ifs at h with hpc hok
    · exact family_put h (fun _ _ => rfl) (.advance hpc (.inr (.inl ⟨rfl, rfl⟩)))
    · exact family_put h (fun _ _ => rfl) (.advance hpc (.inr (.inr rfl)))
  | add kept =>
    rw [step] at h
    split_ifs at h with hpc
    exact family_put h (fun _ _ => rfl) (.add kept hpc)
  | capture ok =>
    rw [step] at h
    split_ifs at h with hpc hok
    · obtain rfl := hok
      exact family_put h (fun _ _ => rfl) (.capture hpc)
    · obtain rfl := Bool.eq_false_iff.mpr hok
      exact family_put h (fun _ _ => rfl) (.advance hpc (.inr (.inr rfl)))
  | publish ok =>
    rw [step] at h
    split_ifs at h with hpc
    exact family_put h (fun _ _ => rfl) (.publish ok hpc)

end Captures

/-! ## What a job holds -/

/-- How often the reference is still to be deleted or handed over.  Of the three objects of a job
there is a reference in a call that has just made the job, one for each place in the list, and one
in each call of `runSnapshot` that has found the job. -/
def JobRef.held (r : JobRef) (v : CaptureJob × ℕ) : ℕ :=
  match r with
  | .packet k => v.1.packets.count k
  | .task | .minecraft | .connection =>
    (if v.1.caller = .made then 1 else 0) + v.2 + v.1.runs.length

/-- The reference is made. -/
def JobRef.created (r : JobRef) (es : List JobEvent) : ℕ := es.count (.created r)

/-- The reference is deleted or handed over. -/
def JobRef.released (r : JobRef) (es : List JobEvent) : ℕ :=
  es.count (.deleted r) + es.count (.handed r)

section count

variable (r : JobRef) (refs : List JobRef) (packets : List ℕ) (k : ℕ)

@[simp] lemma created_nil : r.created [] = 0 := rfl

@[simp] lemma released_nil : r.released [] = 0 := rfl

@[simp] lemma created_append (es es' : List JobEvent) :
    r.created (es ++ es') = r.created es + r.created es' := List.count_append

@[simp] lemma released_append (es es' : List JobEvent) :
    r.released (es ++ es') = r.released es + r.released es' := by
  rw [JobRef.released, List.count_append, List.count_append, JobRef.released, JobRef.released]
  omega

@[simp] lemma created_returned (ok : Bool) : r.created [.returned ok] = 0 := by
  simp [JobRef.created]

@[simp] lemma released_returned (ok : Bool) : r.released [.returned ok] = 0 := by
  simp [JobRef.released]

@[simp] lemma created_captured : r.created [.captured] = 0 := by simp [JobRef.created]

@[simp] lemma released_captured : r.released [.captured] = 0 := by simp [JobRef.released]

@[simp] lemma created_map_created : r.created (refs.map .created) = refs.count r :=
  List.count_map_of_injective refs _ (fun _ _ h => JobEvent.created.inj h) r

@[simp] lemma released_map_created : r.released (refs.map .created) = 0 := by
  rw [JobRef.released, List.count_eq_zero.mpr (by simp), List.count_eq_zero.mpr (by simp)]

@[simp] lemma created_map_deleted : r.created (refs.map .deleted) = 0 := by
  rw [JobRef.created, List.count_eq_zero]
  simp

@[simp] lemma released_map_deleted : r.released (refs.map .deleted) = refs.count r := by
  have hnone : (refs.map JobEvent.deleted).count (.handed r) = 0 := by
    rw [List.count_eq_zero]
    simp
  rw [JobRef.released, hnone, Nat.add_zero]
  exact List.count_map_of_injective refs _ (fun _ _ h => JobEvent.deleted.inj h) r

@[simp] lemma created_map_handed : r.created (refs.map .handed) = 0 := by
  rw [JobRef.created, List.count_eq_zero]
  simp

@[simp] lemma released_map_handed : r.released (refs.map .handed) = refs.count r := by
  have hnone : (refs.map JobEvent.handed).count (.deleted r) = 0 := by
    rw [List.count_eq_zero]
    simp
  rw [JobRef.released, hnone, Nat.zero_add]
  exact List.count_map_of_injective refs _ (fun _ _ h => JobEvent.handed.inj h) r

@[simp] lemma count_packetRefs : (packetRefs packets).count (.packet k) = packets.count k :=
  List.count_map_of_injective packets _ (fun _ _ h => JobRef.packet.inj h) k

variable {r} in
lemma count_packetRefs_of_mem (hr : r ∈ jobRefs) : (packetRefs packets).count r = 0 := by
  rw [List.count_eq_zero, packetRefs]
  rintro hmem
  obtain ⟨n, -, rfl⟩ := List.mem_map.mp hmem
  simp [jobRefs] at hr

end count

/-- How often one of the three objects of a job is held. -/
def heldObject (v : CaptureJob × ℕ) : ℕ :=
  (if v.1.caller = .made then 1 else 0) + v.2 + v.1.runs.length

lemma held_of_mem {r : JobRef} (hr : r ∈ jobRefs) (v : CaptureJob × ℕ) :
    r.held v = heldObject v := by
  cases r with
  | packet k => simp [jobRefs] at hr
  | task | minecraft | connection => rfl

/-- No call of `runSnapshot` is lost when one of them goes on. -/
lemma length_advance {x : CaptureJob} {pc : RunPc} (hpc : pc ∈ x.runs) (pc' : RunPc) :
    (x.advance pc pc').runs.length = x.runs.length := by
  have hpos := List.length_pos_of_mem hpc
  rw [CaptureJob.advance, List.length_cons, List.length_erase_of_mem hpc]
  omega

/-- What a section makes, and what was held, is what it deletes or hands over, and what is held. -/
lemma JobMove.balances_object {r : JobRef} (hr : r ∈ jobRefs) {v v' : CaptureJob × ℕ}
    {es : List JobEvent} (h : JobMove v es v') :
    r.created es + r.held v = r.released es + r.held v' := by
  have hone : jobRefs.count r = 1 := List.count_eq_one_of_mem (by decide) hr
  have hnone (packets : List ℕ) := count_packetRefs_of_mem packets hr
  have hne (n : ℕ) : .packet n ≠ r := by
    rintro rfl
    simp [jobRefs] at hr
  rw [held_of_mem hr, held_of_mem hr]
  cases h with
  | refuse hcaller => simp [heldObject, hcaller]
  | make hcaller =>
    simp [heldObject, hcaller, hone]
    omega
  | makeFailed hcaller refs hrefs => simp [heldObject, hcaller]
  | enqueue hcaller =>
    simp [heldObject, hcaller]
    omega
  | await hcaller => simp [heldObject, hcaller]
  | giveUp hcaller => rcases hcaller with hcaller | ⟨hcaller, -⟩ <;> simp [heldObject, hcaller]
  | wake hcaller hdone => simp [heldObject, CaptureJob.wake, hcaller, hnone]
  | cancel hcaller =>
    rw [CaptureJob.cancel]
    split_ifs
    · simp [heldObject, CaptureJob.releasePackets, hcaller, hnone]
    · simp [heldObject, hcaller]
  | remove hcaller =>
    simp [heldObject, hcaller, hone]
    omega
  | leave hcaller => simp [heldObject, hcaller]
  | @find x n =>
    simp [heldObject]
    omega
  | miss => rfl
  | @advance x n pc pc' hpc hnext =>
    simp only [heldObject, length_advance hpc, created_nil, released_nil]
    rfl
  | @add x n kept hpc =>
    rw [CaptureJob.add]
    split_ifs
    · simp [heldObject, JobRef.created, JobRef.released, hne]
    · have hlength := length_advance hpc (.finishing false)
      simp only [heldObject, hlength]
      simp [JobRef.created, JobRef.released, hne, CaptureJob.advance]
      rfl
  | @capture x n hpc =>
    simp only [heldObject, length_advance hpc, created_captured, released_captured]
    rfl
  | @publish x n ok hpc =>
    have hpos := List.length_pos_of_mem hpc
    have hlength := List.length_erase_of_mem hpc
    rw [CaptureJob.publish]
    split_ifs
    · simp [heldObject, CaptureJob.releasePackets, hone, hnone, hlength]
      omega
    · simp [heldObject, hone, hlength]
      omega

lemma JobMove.balances_packet (k : ℕ) {v v' : CaptureJob × ℕ} {es : List JobEvent}
    (h : JobMove v es v') :
    (JobRef.packet k).created es + (JobRef.packet k).held v =
      (JobRef.packet k).released es + (JobRef.packet k).held v' := by
  have hnone : jobRefs.count (.packet k) = 0 := rfl
  cases h with
  | refuse | miss | enqueue | await | giveUp | leave | find | advance | capture =>
    simp [JobRef.held, CaptureJob.advance]
  | make | remove => simp [JobRef.held, hnone]
  | makeFailed hcaller refs hrefs => simp [JobRef.held]
  | wake hcaller hdone => simp [JobRef.held, CaptureJob.wake]
  | cancel hcaller =>
    rw [CaptureJob.cancel]
    split_ifs
    · simp [JobRef.held, CaptureJob.releasePackets]
    · simp [JobRef.held]
  | @add x n kept hpc =>
    rw [CaptureJob.add]
    split_ifs
    · simp [JobRef.held, JobRef.created, JobRef.released, List.count_cons]
      omega
    · simp [JobRef.held, JobRef.created, JobRef.released, CaptureJob.advance, List.count_cons]
  | @publish x n ok hpc =>
    rw [CaptureJob.publish]
    split_ifs
    · simp [JobRef.held, CaptureJob.releasePackets, hnone]
    · simp [JobRef.held, hnone]

/-- Every reference that was made is deleted or handed over, or still held. -/
lemma JobMove.balances (r : JobRef) {v v' : CaptureJob × ℕ} {es : List JobEvent}
    (h : JobMove v es v') :
    r.created es + r.held v = r.released es + r.held v' := by
  cases r with
  | packet k => exact h.balances_packet k
  | task => exact h.balances_object (by decide)
  | minecraft => exact h.balances_object (by decide)
  | connection => exact h.balances_object (by decide)

/-! ## The life of a job -/

namespace CaptureJob

/-- Nothing was done for the job yet. -/
structure Fresh (x : CaptureJob) : Prop where
  done : x.done = false
  ok : x.ok = false
  packets : x.packets = []
  captured : x.captured = 0

/-- The call has not given the job up yet. -/
def Awaited (x : CaptureJob) : Prop :=
  (x.caller = .listed ∨ x.caller = .waiting ∨ x.caller = .cancelling) ∧ x.cancelled = false

def GivenUp (x : CaptureJob) : Prop :=
  (x.caller = .removing ∨ x.caller = .returned false) ∧ x.cancelled = true

/-- The packets of a job in a call of `runSnapshot`. -/
def Carries (x : CaptureJob) : RunPc → Prop
  | .found | .checked => x.packets = [] ∧ x.captured = 0
  | .capturing => x.packets = List.range x.captured
  | .finishing ok => ok = true → x.packets = List.range x.captured

end CaptureJob

/-- Where the references of a job are: in the call that makes it, in the list, in the call of
`runSnapshot` that has found it, or nowhere. -/
inductive Stage : CaptureJob × ℕ → Prop
  | idle : Stage ({}, 0)
  | made : Stage ({ caller := .made }, 0)
  | listed {x : CaptureJob} (hfresh : x.Fresh) (hruns : x.runs = [])
      (hcaller : x.Awaited ∨ x.caller = .removing ∧ x.cancelled = true) : Stage (x, 1)
  | running {x : CaptureJob} (pc : RunPc) (hdone : x.done = false) (hok : x.ok = false)
      (hruns : x.runs = [pc]) (hcarries : x.Carries pc) (hcaller : x.Awaited ∨ x.GivenUp) :
      Stage (x, 0)
  | published {x : CaptureJob} (hdone : x.done = true) (hruns : x.runs = [])
      (hpackets : x.packets = if x.ok then List.range x.captured else [])
      (hcaller : x.Awaited) : Stage (x, 0)
  | settled {x : CaptureJob} (hruns : x.runs = []) (hpackets : x.packets = [])
      (hcaller : x.caller = .removing ∧ x.done = true ∧ x.cancelled = true ∨
        ∃ ok, x.caller = .returned ok) :
      Stage (x, 0)

namespace Stage

variable {x : CaptureJob} {n : ℕ}

lemma of_idle (h : Stage (x, n)) (hcaller : x.caller = .idle) : x = {} ∧ n = 0 := by
  cases h <;> simp_all [CaptureJob.Awaited, CaptureJob.GivenUp]

lemma of_made (h : Stage (x, n)) (hcaller : x.caller = .made) :
    x = { caller := .made } ∧ n = 0 := by
  cases h <;> simp_all [CaptureJob.Awaited, CaptureJob.GivenUp]

/-- A job that was found is in the call of `runSnapshot` that has found it. -/
lemma of_mem (h : Stage (x, n)) {pc : RunPc} (hpc : pc ∈ x.runs) :
    x.done = false ∧ x.ok = false ∧ x.runs = [pc] ∧ x.Carries pc ∧ (x.Awaited ∨ x.GivenUp) ∧
      n = 0 := by
  cases h with
  | idle => cases hpc
  | made => cases hpc
  | listed hfresh hruns hcaller =>
    rw [hruns] at hpc
    cases hpc
  | running pc' hdone hok hruns hcarries hcaller =>
    rw [hruns, List.mem_singleton] at hpc
    subst hpc
    exact ⟨hdone, hok, hruns, hcarries, hcaller, rfl⟩
  | published hdone hruns hpackets hcaller =>
    rw [hruns] at hpc
    cases hpc
  | settled hruns hpackets hcaller =>
    rw [hruns] at hpc
    cases hpc

lemma of_succ (h : Stage (x, n + 1)) :
    x.Fresh ∧ x.runs = [] ∧ (x.Awaited ∨ x.caller = .removing ∧ x.cancelled = true) ∧ n = 0 := by
  cases h with
  | listed hfresh hruns hcaller => exact ⟨hfresh, hruns, hcaller, rfl⟩

/-- The call goes on to wait for the job, or to give it up. -/
lemma goto (h : Stage (x, n)) {pc : CallerPc}
    (hcaller : x.caller = .listed ∨ x.caller = .waiting)
    (hpc : pc = .waiting ∨ pc = .cancelling) : Stage ({ x with caller := pc }, n) := by
  have hawaited (hx : x.Awaited) : ({ x with caller := pc } : CaptureJob).Awaited :=
    ⟨.inr hpc, hx.2⟩
  cases h with
  | idle => rcases hcaller with hcaller | hcaller <;> cases hcaller
  | made => rcases hcaller with hcaller | hcaller <;> cases hcaller
  | listed hfresh hruns hx =>
    rcases hx with hx | ⟨hx, -⟩
    · exact .listed ⟨hfresh.done, hfresh.ok, hfresh.packets, hfresh.captured⟩ hruns
        (.inl (hawaited hx))
    · rw [hx] at hcaller
      simp at hcaller
  | running q hdone hok hruns hcarries hx =>
    rcases hx with hx | ⟨hx | hx, -⟩
    · refine .running q hdone hok hruns ?_ (.inl (hawaited hx))
      cases q <;> exact hcarries
    · rw [hx] at hcaller
      simp at hcaller
    · rw [hx] at hcaller
      simp at hcaller
  | published hdone hruns hpackets hx => exact .published hdone hruns hpackets (hawaited hx)
  | settled hruns hpackets hx =>
    rcases hx with ⟨hx, -⟩ | ⟨ok, hx⟩
    · rw [hx] at hcaller
      simp at hcaller
    · rw [hx] at hcaller
      simp at hcaller

/-- A job that is done, and that the call still waits for, was published. -/
lemma of_waiting (h : Stage (x, n)) (hcaller : x.caller = .waiting) (hdone : x.done = true) :
    x.runs = [] ∧ x.packets = (if x.ok then List.range x.captured else []) ∧ n = 0 := by
  cases h with
  | idle => cases hcaller
  | made => cases hcaller
  | listed hfresh hruns hx =>
    rw [hfresh.done] at hdone
    cases hdone
  | running q hnot hok hruns hcarries hx =>
    rw [hnot] at hdone
    cases hdone
  | published _ hruns hpackets hx => exact ⟨hruns, hpackets, rfl⟩
  | settled hruns hpackets hx =>
    rcases hx with ⟨hx, -⟩ | ⟨ok, hx⟩
    · rw [hx] at hcaller
      cases hcaller
    · rw [hx] at hcaller
      cases hcaller

/-- The call of `runSnapshot` goes on. -/
lemma advance (h : Stage (x, n)) {pc pc' : RunPc} (hpc : pc ∈ x.runs)
    (hcarries : x.Carries pc → x.Carries pc') : Stage (x.advance pc pc', n) := by
  obtain ⟨hdone, hok, hruns, hx, hcaller, rfl⟩ := h.of_mem hpc
  have hruns' : (x.advance pc pc').runs = [pc'] := by
    rw [CaptureJob.advance, hruns, List.erase_cons_head]
  refine .running pc' hdone hok hruns' ?_ hcaller
  cases pc' <;> exact hcarries hx

/-- The job is given up. -/
lemma cancel (h : Stage (x, n)) (hcaller : x.caller = .cancelling) : Stage (x.cancel.1, n) := by
  rw [CaptureJob.cancel]
  cases h with
  | idle => cases hcaller
  | made => cases hcaller
  | listed hfresh hruns hx =>
    rw [if_neg (by rw [hfresh.done]; exact Bool.false_ne_true)]
    exact .listed ⟨hfresh.done, hfresh.ok, hfresh.packets, hfresh.captured⟩ hruns
      (.inr ⟨rfl, rfl⟩)
  | running q hdone hok hruns hcarries hx =>
    rw [if_neg (by rw [hdone]; exact Bool.false_ne_true)]
    refine .running q hdone hok hruns ?_ (.inr ⟨.inl rfl, rfl⟩)
    cases q <;> exact hcarries
  | published hdone hruns hpackets hx =>
    rw [if_pos hdone]
    exact .settled hruns rfl (.inl ⟨rfl, hdone, rfl⟩)
  | settled hruns hpackets hx =>
    rcases hx with ⟨hx, -⟩ | ⟨ok, hx⟩
    · rw [hx] at hcaller
      cases hcaller
    · rw [hx] at hcaller
      cases hcaller

/-- The call returns when the job is not in the list any more. -/
lemma leave (h : Stage (x, 0)) (hcaller : x.caller = .removing) :
    Stage ({ x with caller := .returned false }, 0) := by
  have hnot (hx : x.Awaited) : False := by
    rcases hx with ⟨hx, -⟩
    rw [hcaller] at hx
    simp at hx
  cases h with
  | idle => cases hcaller
  | made => cases hcaller
  | running q hdone hok hruns hcarries hx =>
    rcases hx with hx | ⟨-, hx⟩
    · exact absurd hx hnot
    · refine .running q hdone hok hruns ?_ (.inr ⟨.inr rfl, hx⟩)
      cases q <;> exact hcarries
  | published hdone hruns hpackets hx => exact absurd hx hnot
  | settled hruns hpackets hx => exact .settled hruns hpackets (.inr ⟨false, rfl⟩)

/-- The job is published, and what nobody waits for is released. -/
lemma publish (h : Stage (x, n)) {ok : Bool} (hpc : .finishing ok ∈ x.runs) :
    Stage ((x.publish ok).1, n) := by
  obtain ⟨hdone, hok, hruns, hcarries, hcaller, rfl⟩ := h.of_mem hpc
  have herase : x.runs.erase (.finishing ok) = [] := by
    rw [hruns]
    simp
  rw [CaptureJob.publish]
  split_ifs with hrelease
  · rcases hcaller with hx | ⟨hx | hx, hcancelled⟩
    · exact .published rfl herase rfl hx
    · exact .settled herase rfl (.inl ⟨hx, rfl, hcancelled⟩)
    · exact .settled herase rfl (.inr ⟨false, hx⟩)
  · obtain ⟨rfl, hcancelled⟩ : ok = true ∧ x.cancelled = false := by
      simpa using hrelease
    rcases hcaller with hx | ⟨-, hx⟩
    · exact .published rfl herase (hcarries rfl) hx
    · rw [hcancelled] at hx
      cases hx

end Stage

/-- The references of a job are in one place at a time. -/
lemma Stage.next {v v' : CaptureJob × ℕ} {es : List JobEvent} (h : Stage v)
    (hmove : JobMove v es v') : Stage v' := by
  cases hmove with
  | refuse hcaller =>
    obtain ⟨rfl, rfl⟩ := h.of_idle hcaller
    exact .settled rfl rfl (.inr ⟨false, rfl⟩)
  | make hcaller =>
    obtain ⟨rfl, rfl⟩ := h.of_idle hcaller
    exact .made
  | makeFailed hcaller refs hrefs =>
    obtain ⟨rfl, rfl⟩ := h.of_idle hcaller
    exact .settled rfl rfl (.inr ⟨false, rfl⟩)
  | enqueue hcaller =>
    obtain ⟨rfl, rfl⟩ := h.of_made hcaller
    exact .listed ⟨rfl, rfl, rfl, rfl⟩ rfl (.inl ⟨.inl rfl, rfl⟩)
  | await hcaller => exact h.goto (.inl hcaller) (.inl rfl)
  | giveUp hcaller => exact h.goto (hcaller.imp_right And.left) (.inr rfl)
  | wake hcaller hdone =>
    obtain ⟨hruns, -, rfl⟩ := h.of_waiting hcaller hdone
    exact .settled hruns rfl (.inr ⟨_, rfl⟩)
  | cancel hcaller => exact h.cancel hcaller
  | remove hcaller =>
    obtain ⟨hfresh, hruns, -, rfl⟩ := h.of_succ
    exact .settled hruns hfresh.packets (.inr ⟨false, rfl⟩)
  | leave hcaller => exact h.leave hcaller
  | @find x n =>
    obtain ⟨hfresh, hruns, hcaller, rfl⟩ := h.of_succ
    refine .running .found hfresh.done hfresh.ok (by rw [hruns])
      ⟨hfresh.packets, hfresh.captured⟩ ?_
    exact hcaller.imp_right fun hx => ⟨.inl hx.1, hx.2⟩
  | miss => exact h
  | @advance x n pc pc' hpc hnext =>
    refine h.advance hpc fun hx => ?_
    rcases hnext with ⟨rfl, rfl⟩ | ⟨rfl, rfl⟩ | rfl
    · exact hx
    · show x.packets = List.range x.captured
      rw [hx.1, hx.2, List.range_zero]
    · exact fun hok => absurd hok Bool.false_ne_true
  | @add x n kept hpc =>
    obtain ⟨hdone, hok, hruns, hcarries, hcaller, rfl⟩ := h.of_mem hpc
    rw [CaptureJob.add]
    split_ifs
    · refine .running .capturing hdone hok hruns ?_ hcaller
      show x.packets ++ [x.captured] = List.range (x.captured + 1)
      rw [List.range_succ, ← hcarries]
    · refine .running (.finishing false) hdone hok ?_ ?_ hcaller
      · show RunPc.finishing false :: x.runs.erase .capturing = _
        rw [hruns, List.erase_cons_head]
      · exact fun hok => absurd hok Bool.false_ne_true
  | capture hpc => exact h.advance hpc fun hx _ => hx
  | publish ok hpc => exact h.publish hpc

/-! ## What a call has told -/

namespace JobMove

variable {v v' : CaptureJob × ℕ} {es : List JobEvent}

/-- A packet is made once, when it is captured. -/
lemma created_packet (h : JobMove v es v') :
    (v'.1.captured = v.1.captured ∧ ∀ k, (JobRef.packet k).created es = 0) ∨
      (v'.1.captured = v.1.captured + 1 ∧
        ∀ k, (JobRef.packet k).created es = if v.1.captured = k then 1 else 0) := by
  have hnone (k : ℕ) : jobRefs.count (.packet k) = 0 := rfl
  cases h with
  | refuse | miss | enqueue | await | giveUp | leave | find | advance | capture =>
    exact .inl ⟨rfl, by simp⟩
  | make | remove => exact .inl ⟨rfl, by simp [hnone]⟩
  | makeFailed hcaller refs hrefs =>
    refine .inl ⟨rfl, fun k => ?_⟩
    have hmem : JobRef.packet k ∉ refs := fun hk => absurd (hrefs.subset hk) (by simp [jobRefs])
    simp [List.count_eq_zero_of_not_mem hmem]
  | wake => exact .inl ⟨rfl, by simp [CaptureJob.wake]⟩
  | cancel hcaller =>
    rw [CaptureJob.cancel]
    split_ifs
    · exact .inl ⟨rfl, by simp [CaptureJob.releasePackets]⟩
    · exact .inl ⟨rfl, by simp⟩
  | add kept hpc =>
    rw [CaptureJob.add]
    split_ifs
    · exact .inr ⟨rfl, fun k => by simp [JobRef.created, List.count_cons]⟩
    · exact .inr ⟨rfl, fun k => by simp [JobRef.created, List.count_cons]⟩
  | publish ok hpc =>
    rw [CaptureJob.publish]
    split_ifs
    · exact .inl ⟨rfl, by simp [CaptureJob.releasePackets]⟩
    · exact .inl ⟨rfl, by simp⟩

/-- The three objects of a job are made at most once, at its start. -/
lemma created_object (h : JobMove v es v') {r : JobRef} (hr : r ∈ jobRefs) :
    (r.created es = 0 ∧ (v'.1.caller = .idle → v.1.caller = .idle)) ∨
      (r.created es ≤ 1 ∧ v.1.caller = .idle ∧ v'.1.caller ≠ .idle) := by
  have hone : jobRefs.count r = 1 := List.count_eq_one_of_mem (by decide) hr
  have hne (n : ℕ) : .packet n ≠ r := by
    rintro rfl
    simp [jobRefs] at hr
  cases h with
  | refuse hcaller => exact .inl ⟨by simp, fun _ => hcaller⟩
  | make hcaller => exact .inr ⟨by simp [hone], hcaller, by simp⟩
  | makeFailed hcaller refs hrefs =>
    have hle := hrefs.count_le r
    exact .inr ⟨by simp; omega, hcaller, by simp⟩
  | enqueue hcaller => exact .inl ⟨rfl, by simp⟩
  | await hcaller => exact .inl ⟨rfl, by simp⟩
  | giveUp hcaller => exact .inl ⟨rfl, by simp⟩
  | wake hcaller hdone => exact .inl ⟨by simp [CaptureJob.wake], by simp [CaptureJob.wake]⟩
  | cancel hcaller =>
    rw [CaptureJob.cancel]
    split_ifs
    · exact .inl ⟨by simp [CaptureJob.releasePackets], by simp⟩
    · exact .inl ⟨rfl, by simp⟩
  | remove hcaller => exact .inl ⟨by simp, by simp⟩
  | leave hcaller => exact .inl ⟨by simp, by simp⟩
  | find => exact .inl ⟨rfl, id⟩
  | miss => exact .inl ⟨rfl, id⟩
  | advance hpc hnext => exact .inl ⟨rfl, id⟩
  | add kept hpc =>
    rw [CaptureJob.add]
    split_ifs
    · exact .inl ⟨by simp [JobRef.created, hne], id⟩
    · exact .inl ⟨by simp [JobRef.created, hne], id⟩
  | capture hpc => exact .inl ⟨by simp, id⟩
  | publish ok hpc =>
    rw [CaptureJob.publish]
    split_ifs
    · exact .inl ⟨by simp [CaptureJob.releasePackets], id⟩
    · exact .inl ⟨by simp, id⟩

/-- A call returns once, and nothing of it follows. -/
lemma caller_cases (h : JobMove v es v') :
    (v'.1.caller = v.1.caller ∧ ∀ ok, .returned ok ∉ es) ∨
      (∀ b, v.1.caller ≠ .returned b) ∧ ∀ ok, .returned ok ∈ es → v'.1.caller = .returned ok := by
  have hne {pc : CallerPc} (hcaller : v.1.caller = pc) (hpc : ∀ b, pc ≠ .returned b) :
      ∀ b, v.1.caller ≠ .returned b := fun b hb => hpc b (hcaller.symm.trans hb)
  cases h with
  | refuse hcaller => exact .inr ⟨hne hcaller (by simp), by simp⟩
  | make hcaller => exact .inr ⟨hne hcaller (by simp), by simp⟩
  | makeFailed hcaller refs hrefs => exact .inr ⟨hne hcaller (by simp), by simp⟩
  | enqueue hcaller => exact .inr ⟨hne hcaller (by simp), by simp⟩
  | await hcaller => exact .inr ⟨hne hcaller (by simp), by simp⟩
  | giveUp hcaller =>
    rcases hcaller with hcaller | ⟨hcaller, -⟩
    · exact .inr ⟨hne hcaller (by simp), by simp⟩
    · exact .inr ⟨hne hcaller (by simp), by simp⟩
  | wake hcaller hdone => exact .inr ⟨hne hcaller (by simp), by simp [CaptureJob.wake]⟩
  | cancel hcaller =>
    rw [CaptureJob.cancel]
    split_ifs
    · exact .inr ⟨hne hcaller (by simp), by simp [CaptureJob.releasePackets]⟩
    · exact .inr ⟨hne hcaller (by simp), by simp⟩
  | remove hcaller => exact .inr ⟨hne hcaller (by simp), by simp⟩
  | leave hcaller => exact .inr ⟨hne hcaller (by simp), by simp⟩
  | find => exact .inl ⟨rfl, by simp⟩
  | miss => exact .inl ⟨rfl, by simp⟩
  | advance hpc hnext => exact .inl ⟨rfl, by simp⟩
  | add kept hpc =>
    rw [CaptureJob.add]
    split_ifs
    · exact .inl ⟨rfl, by simp⟩
    · exact .inl ⟨rfl, by simp⟩
  | capture hpc => exact .inl ⟨rfl, by simp⟩
  | publish ok hpc =>
    rw [CaptureJob.publish]
    split_ifs
    · exact .inl ⟨rfl, by simp [CaptureJob.releasePackets]⟩
    · exact .inl ⟨rfl, by simp⟩

/-- True is returned, and packets are handed over, after the wait for a job that is done. -/
lemma woken (h : JobMove v es v') {e : JobEvent} (he : e ∈ es)
    (hwake : e = .returned true ∨ ∃ r, e = .handed r) :
    v.1.caller = .waiting ∧ v.1.done = true ∧ es = v.1.wake.2 ∧ v'.1 = v.1.wake.1 := by
  have hno {es : List JobEvent} (htrue : .returned true ∉ es) (hhanded : ∀ r, .handed r ∉ es)
      (he : e ∈ es) : False := by
    rcases hwake with rfl | ⟨r, rfl⟩
    · exact htrue he
    · exact hhanded r he
  cases h with
  | wake hcaller hdone => exact ⟨hcaller, hdone, rfl, rfl⟩
  | refuse | make | makeFailed | enqueue | await | giveUp | remove | leave | find | miss | advance |
      capture => exact (hno (by simp) (by simp) he).elim
  | cancel hcaller =>
    rw [CaptureJob.cancel] at he
    split_ifs at he
    · exact (hno (by simp [CaptureJob.releasePackets])
        (by simp [CaptureJob.releasePackets]) he).elim
    · exact (hno (by simp) (by simp) he).elim
  | add kept hpc =>
    rw [CaptureJob.add] at he
    split_ifs at he
    · exact (hno (by simp) (by simp) he).elim
    · exact (hno (by simp) (by simp) he).elim
  | publish ok hpc =>
    rw [CaptureJob.publish] at he
    split_ifs at he
    · exact (hno (by simp [CaptureJob.releasePackets])
        (by simp [CaptureJob.releasePackets]) he).elim
    · exact (hno (by simp) (by simp) he).elim

/-- A job is marked as captured only after `captureNow` has returned. -/
lemma completed (h : JobMove v es v')
    (hv' : v'.1.ok = true ∨ .finishing true ∈ v'.1.runs) :
    (v.1.ok = true ∨ .finishing true ∈ v.1.runs) ∨ .captured ∈ es := by
  have hadvance {x : CaptureJob} {pc pc' : RunPc} (hpc' : pc' ≠ .finishing true)
      (hx : x.ok = true ∨ .finishing true ∈ (x.advance pc pc').runs) :
      x.ok = true ∨ .finishing true ∈ x.runs := by
    refine hx.imp_right fun hmem => ?_
    rcases List.mem_cons.mp hmem with heq | hmem
    · exact absurd heq.symm hpc'
    · exact List.mem_of_mem_erase hmem
  cases h with
  | refuse | make | makeFailed | enqueue | await | giveUp | remove | leave | miss | wake =>
    exact .inl hv'
  | find =>
    refine .inl (hv'.imp_right fun hmem => ?_)
    rcases List.mem_cons.mp hmem with heq | hmem
    · cases heq
    · exact hmem
  | cancel hcaller =>
    rw [CaptureJob.cancel] at hv'
    split_ifs at hv'
    · exact .inl hv'
    · exact .inl hv'
  | advance hpc hnext =>
    refine .inl (hadvance ?_ hv')
    rcases hnext with ⟨-, rfl⟩ | ⟨-, rfl⟩ | rfl <;> decide
  | add kept hpc =>
    rw [CaptureJob.add] at hv'
    split_ifs at hv'
    · exact .inl hv'
    · exact .inl (hadvance (by decide) hv')
  | capture hpc => exact .inr (by simp)
  | publish ok hpc =>
    rw [CaptureJob.publish] at hv'
    split_ifs at hv' with hrelease
    · rcases hv' with hok | hmem
      · cases hok
      · exact .inl (.inr (List.mem_of_mem_erase hmem))
    · obtain ⟨rfl, -⟩ : ok = true ∧ _ := by simpa using hrelease
      exact .inl (.inr hpc)

end JobMove

/-! ## Runs -/

/-- What the trace of a job tells about it. -/
structure Told (tr : List JobEvent) (v : CaptureJob × ℕ) : Prop where
  stage : Stage v
  balanced : ∀ r : JobRef, Balanced r.created r.released r.held tr v
  packet : ∀ k, (k < v.1.captured → (JobRef.packet k).created tr = 1) ∧
    (v.1.captured ≤ k → (JobRef.packet k).created tr = 0)
  object : ∀ r ∈ jobRefs, r.created tr ≤ 1 ∧ (v.1.caller = .idle → r.created tr = 0)
  completed : v.1.ok = true ∨ .finishing true ∈ v.1.runs → .captured ∈ tr
  returned : ∀ ok, .returned ok ∈ tr → v.1.caller = .returned ok
  handed : ∀ r, .handed r ∈ tr → .returned true ∈ tr ∧ r ∉ jobRefs
  whole : .returned true ∈ tr → .captured ∈ tr ∧ v.1.runs = [] ∧
    ∀ k < v.1.captured, .handed (.packet k) ∈ tr

lemma additive_created (r : JobRef) : Additive r.created := additive_count _

lemma additive_released (r : JobRef) : Additive r.released :=
  (additive_count _).add (additive_count _)

lemma told_start : Told [] ({}, 0) where
  stage := .idle
  balanced r := by
    refine .start (additive_created r) (additive_released r) ?_
    cases r <;> rfl
  packet k := ⟨fun h => absurd h (Nat.not_lt_zero k), fun _ => rfl⟩
  object r _ := ⟨Nat.zero_le 1, fun _ => rfl⟩
  completed h := by simp at h
  returned ok h := by cases h
  handed r h := by cases h
  whole h := by cases h

namespace Told

variable {tr es : List JobEvent} {v v' : CaptureJob × ℕ}

lemma step_packet (h : Told tr v) (hmove : JobMove v es v') (k : ℕ) :
    (k < v'.1.captured → (JobRef.packet k).created (tr ++ es) = 1) ∧
      (v'.1.captured ≤ k → (JobRef.packet k).created (tr ++ es) = 0) := by
  obtain ⟨hlt, hle⟩ := h.packet k
  rw [created_append]
  rcases hmove.created_packet with ⟨hcaptured, hes⟩ | ⟨hcaptured, hes⟩
  · rw [hcaptured, hes]
    exact ⟨hlt, hle⟩
  · rw [hcaptured, hes]
    constructor
    · intro hk
      split_ifs with heq
      · rw [hle (Nat.le_of_eq heq)]
      · exact hlt (by omega)
    · intro hk
      rw [if_neg (by omega), hle (by omega)]

lemma step_object (h : Told tr v) (hmove : JobMove v es v') {r : JobRef} (hr : r ∈ jobRefs) :
    r.created (tr ++ es) ≤ 1 ∧ (v'.1.caller = .idle → r.created (tr ++ es) = 0) := by
  obtain ⟨hle, hidle⟩ := h.object r hr
  rw [created_append]
  rcases hmove.created_object hr with ⟨hes, hcaller⟩ | ⟨hes, hcaller, hcaller'⟩
  · rw [hes]
    exact ⟨hle, fun h' => hidle (hcaller h')⟩
  · rw [hidle hcaller]
    exact ⟨by omega, fun h' => absurd h' hcaller'⟩

lemma step_returned (h : Told tr v) (hmove : JobMove v es v') (ok : Bool)
    (hok : .returned ok ∈ tr ++ es) : v'.1.caller = .returned ok := by
  rcases hmove.caller_cases with ⟨hcaller, hes⟩ | ⟨hcaller, hes⟩
  · rw [hcaller]
    exact h.returned ok ((List.mem_append.mp hok).resolve_right (hes ok))
  · exact hes ok ((List.mem_append.mp hok).resolve_left fun hin => hcaller ok (h.returned ok hin))

lemma step_handed (h : Told tr v) (hmove : JobMove v es v') (r : JobRef)
    (hr : .handed r ∈ tr ++ es) : .returned true ∈ tr ++ es ∧ r ∉ jobRefs := by
  rcases List.mem_append.mp hr with hr | hr
  · exact ⟨List.mem_append_left _ (h.handed r hr).1, (h.handed r hr).2⟩
  · obtain ⟨hcaller, hdone, rfl, -⟩ := hmove.woken hr (.inr ⟨r, rfl⟩)
    obtain ⟨-, hpackets, -⟩ := h.stage.of_waiting hcaller hdone
    have hmem : r ∈ packetRefs v.1.packets := by
      simpa [CaptureJob.wake] using hr
    obtain ⟨k, hk, rfl⟩ := List.mem_map.mp hmem
    -- the packets of a job that was not captured are released
    have hok : v.1.ok = true := by
      by_contra hok
      rw [hpackets, if_neg hok] at hk
      cases hk
    refine ⟨List.mem_append_right _ ?_, by simp [jobRefs]⟩
    rw [CaptureJob.wake, hok]
    exact List.mem_append_right _ List.mem_cons_self

/-- Nothing happens to a job whose packets were handed over. -/
lemma idle_of_returned (h : Told tr v) (htrue : .returned true ∈ tr) (hmove : JobMove v es v') :
    es = [] ∧ v' = v := by
  have hcaller := h.returned true htrue
  obtain ⟨-, hruns, -⟩ := h.whole htrue
  have hstage := h.stage
  have hno {pc : CallerPc} (hpc : v.1.caller = pc) (hne : pc ≠ .returned true) : False :=
    hne (hpc.symm.trans hcaller)
  have hnone {pc : RunPc} (hpc : pc ∈ v.1.runs) : False := by
    rw [hruns] at hpc
    cases hpc
  cases hmove with
  | refuse hpc | make hpc | makeFailed hpc | enqueue hpc | await hpc | wake hpc | cancel hpc
  | remove hpc | leave hpc => exact (hno hpc (by simp)).elim
  | giveUp hpc =>
    rcases hpc with hpc | ⟨hpc, -⟩
    · exact (hno hpc (by simp)).elim
    · exact (hno hpc (by simp)).elim
  | find =>
    obtain ⟨-, -, ⟨hpc, -⟩ | ⟨hpc, -⟩, -⟩ := hstage.of_succ
    · rcases hpc with hpc | hpc | hpc <;> exact (hno hpc (by simp)).elim
    · exact (hno hpc (by simp)).elim
  | miss => exact ⟨rfl, rfl⟩
  | advance hpc | add _ hpc | capture hpc | publish _ hpc => exact (hnone hpc).elim

lemma step_whole (h : Told tr v) (hmove : JobMove v es v') (htrue : .returned true ∈ tr ++ es) :
    .captured ∈ tr ++ es ∧ v'.1.runs = [] ∧
      ∀ k < v'.1.captured, .handed (.packet k) ∈ tr ++ es := by
  rcases List.mem_append.mp htrue with hbefore | hnow
  · obtain ⟨rfl, rfl⟩ := h.idle_of_returned hbefore hmove
    rw [List.append_nil]
    exact h.whole hbefore
  · obtain ⟨hcaller, hdone, rfl, hv'⟩ := hmove.woken hnow (.inl rfl)
    obtain ⟨hruns, hpackets, -⟩ := h.stage.of_waiting hcaller hdone
    have hok : v.1.ok = true := by
      rcases List.mem_append.mp hnow with hmem | hmem
      · obtain ⟨r, -, hr⟩ := List.mem_map.mp hmem
        cases hr
      · exact (JobEvent.returned.inj (List.mem_singleton.mp hmem)).symm
    rw [hv']
    refine ⟨List.mem_append_left _ (h.completed (.inl hok)), hruns, fun k hk => ?_⟩
    refine List.mem_append_right _ (List.mem_append_left _ (List.mem_map_of_mem ?_))
    rw [hpackets, if_pos hok]
    exact List.mem_map_of_mem (List.mem_range.mpr hk)

lemma step (h : Told tr v) (hmove : JobMove v es v') : Told (tr ++ es) v' where
  stage := h.stage.next hmove
  balanced r := (h.balanced r).step (additive_created r) (additive_released r) (hmove.balances r)
  packet := h.step_packet hmove
  object _ hr := h.step_object hmove hr
  completed hv' := by
    rcases hmove.completed hv' with hv | hes
    · exact List.mem_append_left _ (h.completed hv)
    · exact List.mem_append_right _ hes
  returned := h.step_returned hmove
  handed := h.step_handed hmove
  whole := h.step_whole hmove

end Told

/-- The call has returned, and no call of `runSnapshot` has the job. -/
def Captures.Settled (s : Captures) (j : JobId) : Prop :=
  (∃ ok, (s.job j).caller = .returned ok) ∧ (s.job j).runs = []

/-- What a job holds when nothing goes on with it any more. -/
lemma Stage.held_settled {v : CaptureJob × ℕ} (h : Stage v) {ok : Bool}
    (hcaller : v.1.caller = .returned ok) (hruns : v.1.runs = []) (r : JobRef) : r.held v = 0 := by
  cases h with
  | idle => cases hcaller
  | made => cases hcaller
  | listed hfresh _ hx =>
    rcases hx with ⟨hx | hx | hx, -⟩ | ⟨hx, -⟩ <;> cases hx.symm.trans hcaller
  | running pc hdone hok hrun hcarries hx => cases hrun.symm.trans hruns
  | published hdone _ hpackets hx =>
    rcases hx with ⟨hx | hx | hx, -⟩ <;> cases hx.symm.trans hcaller
  | @settled x hnone hpackets hx =>
    have hmade : x.caller ≠ .made := by
      rw [hcaller]
      simp
    cases r with
    | packet k => simp [JobRef.held, hpackets]
    | task | minecraft | connection => simp [JobRef.held, hnone, hmade]

namespace Captures

/-- Some section of a job that is not settled can take place. -/
lemma progress (s : Captures) (j : JobId) (hcaller : (s.job j).caller ≠ .idle) :
    s.Settled j ∨ ∃ a, a ≠ .find ∧ (step s (j, a)).isSome := by
  cases hpc : (s.job j).caller with
  | idle => exact absurd hpc hcaller
  | made => exact .inr ⟨.enqueue, by simp, by simp [step, hpc]⟩
  | listed => exact .inr ⟨.execute true, by simp, by simp [step, hpc]⟩
  | waiting =>
    cases hdone : (s.job j).done with
    | true => exact .inr ⟨.wake, by simp, by simp [step, hpc, hdone]⟩
    | false => exact .inr ⟨.timeout, by simp, by simp [step, hpc, hdone]⟩
  | cancelling => exact .inr ⟨.cancel, by simp, by simp [step, hpc]⟩
  | removing => exact .inr ⟨.remove, by simp, by simp [step, hpc]⟩
  | returned ok =>
    cases hruns : (s.job j).runs with
    | nil => exact .inl ⟨⟨ok, hpc⟩, hruns⟩
    | cons q _ =>
      have hmem : q ∈ (s.job j).runs := hruns ▸ List.mem_cons_self
      cases q with
      | found => exact .inr ⟨.check true, by simp, by simp [step, hmem]⟩
      | checked => exact .inr ⟨.boundary true, by simp, by simp [step, hmem]⟩
      | capturing => exact .inr ⟨.capture true, by simp, by simp [step, hmem]⟩
      | finishing ok => exact .inr ⟨.publish ok, by simp, by simp [step, hmem]⟩

/-- Every reference of a job is made at most once, and deleted or handed over at most as often; once
the job is settled, which it will be, it is deleted or handed over exactly as often.  Packets are
handed over when true is returned, which says that they were captured, and all of them. -/
theorem snapshotJob_run {s : Captures} {tr : List (JobId × JobEvent)}
    (hrun : Step.Run step {} tr s) (j : JobId) :
    (∀ r : JobRef, r.released (eventsOf j tr) ≤ r.created (eventsOf j tr) ∧
      r.created (eventsOf j tr) ≤ 1 ∧
      (s.Settled j → r.released (eventsOf j tr) = r.created (eventsOf j tr))) ∧
    ((s.job j).caller ≠ .idle → s.Settled j ∨ ∃ a, a ≠ .find ∧ (step s (j, a)).isSome) ∧
    (∀ r, (j, .handed r) ∈ tr → (j, .returned true) ∈ tr ∧ r ∉ jobRefs) ∧
    ((j, .returned true) ∈ tr → (j, .captured) ∈ tr ∧
      ∀ k, (j, .created (.packet k)) ∈ tr → (j, .handed (.packet k)) ∈ tr) := by
  have htold : Told (eventsOf j tr) (s.view j) :=
    family.invariant hrun told_start fun _ _ _ _ h hmove => h.step hmove
  simp only [← mem_eventsOf]
  refine ⟨fun r => ⟨?_, ?_, ?_⟩, s.progress j, htold.handed, fun htrue => ?_⟩
  · have hbalanced := htold.balanced r
    rw [Balanced] at hbalanced
    omega
  · cases r with
    | packet k =>
      obtain ⟨hlt, hle⟩ := htold.packet k
      by_cases hk : k < (s.view j).1.captured
      · exact Nat.le_of_eq (hlt hk)
      · rw [hle (Nat.le_of_not_lt hk)]
        exact Nat.zero_le 1
    | task | minecraft | connection => exact (htold.object _ (by decide)).1
  · rintro ⟨⟨ok, hcaller⟩, hruns⟩
    have hbalanced := htold.balanced r
    rw [Balanced, htold.stage.held_settled hcaller hruns r] at hbalanced
    exact hbalanced.symm
  · obtain ⟨hcaptured, -, hall⟩ := htold.whole htrue
    refine ⟨hcaptured, fun k hk => hall k ?_⟩
    by_contra hnot
    have hzero := (htold.packet k).2 (Nat.le_of_not_lt hnot)
    exact List.count_eq_zero.mp hzero hk

/-- The snapshot of job 0 is published after its call has given it up, that of job 1 before. -/
def sampleActions : List (JobId × JobAction) :=
  [(0, .make true true true), (0, .enqueue), (1, .make true true true), (0, .execute true),
    (1, .enqueue), (1, .execute true), (0, .find), (0, .check true), (0, .boundary true),
    (0, .add true), (0, .timeout), (0, .cancel), (0, .capture true), (0, .remove),
    (0, .publish true), (1, .find), (1, .check true), (1, .boundary true), (1, .add true),
    (1, .capture true), (1, .publish true), (1, .wake)]

theorem snapshotJob_run_sample : ∃ s tr, Step.Run step {} tr s ∧
    (JobRef.packet 0).released (eventsOf 0 tr) = (JobRef.packet 0).created (eventsOf 0 tr) ∧
      (1, .handed (.packet 0)) ∈ tr := by
  obtain ⟨⟨s, tr⟩, hexec, hview⟩ := Option.map_eq_some_iff.mp
    (show (Step.exec step {} sampleActions).map
      (fun r => ((r.1.job 0).caller, (r.1.job 0).runs, decide ((1, .returned true) ∈ r.2),
        decide ((1, .created (.packet 0)) ∈ r.2))) = some (.returned false, [], true, true) by decide)
  simp only [Prod.mk.injEq, decide_eq_true_eq] at hview
  obtain ⟨hcaller, hruns, htrue, hcreated⟩ := hview
  have hrun := Step.run_of_exec hexec
  obtain ⟨hrefs, -⟩ := snapshotJob_run hrun 0
  obtain ⟨-, -, -, hall⟩ := snapshotJob_run hrun 1
  exact ⟨s, tr, hrun, (hrefs (.packet 0)).2.2 ⟨⟨false, hcaller⟩, hruns⟩, (hall htrue).2 0 hcreated⟩

end Captures

end Server
end SakuraTools
