import Mathlib.Data.Int.Basic
import Mathlib.Tactic.Common

/-!
# The handoff of a mid-session login

`native/login_handoff.h`: the confirmation that B has received its world, and the deadline for
it.  The clock counts seconds.
-/

namespace SakuraTools
namespace Server

namespace LoginHandoff

/-- `LoginHandoff::teleportId` -/
def teleportId : ℤ := -2147483647

inductive State where
  | Idle
  | Capturing
  | AwaitingAck
  | Active
  | Failed
deriving DecidableEq, Repr

end LoginHandoff

/-- The data of a `LoginHandoff`. -/
structure LoginHandoff where
  state : LoginHandoff.State := .Idle
  deadline : ℕ := 0
deriving DecidableEq, Repr

namespace LoginHandoff

def reset (h : LoginHandoff) : LoginHandoff := { h with state := .Idle }

def begin (_ : LoginHandoff) (now : ℕ) : LoginHandoff :=
  { state := .Capturing, deadline := now + 20 }

def snapshotSent (h : LoginHandoff) : Bool × LoginHandoff :=
  if h.state ≠ .Capturing then (false, h) else (true, { h with state := .AwaitingAck })

def acknowledge (h : LoginHandoff) (id : ℤ) : Bool × LoginHandoff :=
  if id ≠ teleportId then (false, h)
  else if h.state = .AwaitingAck then (true, { h with state := .Active })
  else (true, h)

def expired (h : LoginHandoff) (now : ℕ) : Bool :=
  (h.state == .Capturing || h.state == .AwaitingAck) && h.deadline ≤ now

def fail (h : LoginHandoff) : LoginHandoff := { h with state := .Failed }

@[simp] lemma reset_state (h : LoginHandoff) : h.reset.state = .Idle := rfl

@[simp] lemma begin_state (h : LoginHandoff) (now : ℕ) : (h.begin now).state = .Capturing := rfl

@[simp] lemma fail_state (h : LoginHandoff) : h.fail.state = .Failed := rfl

lemma snapshotSent_of_ne {h : LoginHandoff} (hs : h.state ≠ .Capturing) :
    h.snapshotSent = (false, h) := if_pos hs

lemma snapshotSent_of_eq {h : LoginHandoff} (hs : h.state = .Capturing) :
    h.snapshotSent = (true, { h with state := .AwaitingAck }) := if_neg (not_not.mpr hs)

/-- The local confirmation is consumed in every state, and nothing else is. -/
lemma acknowledge_fst (h : LoginHandoff) (id : ℤ) :
    (h.acknowledge id).1 = decide (id = teleportId) := by
  unfold acknowledge
  by_cases hid : id = teleportId
  · by_cases hs : h.state = .AwaitingAck
    · simp [hid, hs]
    · simp [hid, hs]
  · simp [hid]

lemma acknowledge_of_ne {h : LoginHandoff} {id : ℤ} (hid : id ≠ teleportId) :
    h.acknowledge id = (false, h) := if_pos hid

lemma acknowledge_local (h : LoginHandoff) : h.acknowledge teleportId =
    if h.state = .AwaitingAck then (true, { h with state := .Active }) else (true, h) :=
  if_neg (not_not.mpr rfl)

lemma acknowledge_state_of_ne {h : LoginHandoff} (hs : h.state ≠ .AwaitingAck) :
    (h.acknowledge teleportId).2 = h := by
  rw [acknowledge_local, if_neg hs]

end LoginHandoff
end Server
end SakuraTools
