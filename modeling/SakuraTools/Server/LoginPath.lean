import SakuraTools.Server.Handover

/-!
# The two ways to log in

`completeLogin` chooses between an empty world and a snapshot of A's world by the flag
`midSession`, which is set once, when the session starts with A in game.
-/

namespace SakuraTools
namespace Server

/-- As long as `midSession` is set whenever B logs in while A has a live connection, such a
login comes to `Play` only through `Syncing`, a snapshot and its acknowledgement. -/
theorem login_path_run {s₀ s : Session} {tr : List Event} (h₀ : s₀.Start)
    (hrun : Step.Run Session.step s₀ tr s) (hmid : ∀ c mid, .login c true mid ∈ tr → mid = true)
    {pre post : List Event} {c : Channel} (htr : tr = pre ++ .enter c .Play :: post) :
    ∃ live mid, LoginWith c live mid [] pre ∧
      (live = true → ∃ j world, LoginWith c live mid (handoverSteps c j world) pre) := by
  subst htr
  rcases Phase.play_run h₀ hrun with ⟨live, mid, j, world, h⟩ | ⟨live, h⟩
  · refine ⟨live, mid, h.forget ?_, fun _ => ⟨j, world, h⟩⟩
    simp [handoverSteps, Event.IsLogin]
  · refine ⟨live, false, h, ?_⟩
    rintro rfl
    -- A had a live connection, so the flag that this login saw was set
    obtain ⟨pre', t₀, t, rfl, -⟩ := h
    have hfalse := hmid c false (by simp)
    cases hfalse

/-- B logs in while A is in game, in a session that was started so. -/
theorem login_path_run_test : ∃ pre post s,
    Step.Run Session.step inGame (pre ++ .enter 1 .Play :: post) s ∧
      ∃ live mid, LoginWith 1 live mid [] pre ∧
        (live = true → ∃ j world, LoginWith 1 live mid (handoverSteps 1 j world) pre) := by
  obtain ⟨s, hrun⟩ : ∃ s, Step.Run Session.step inGame
      ([.intention 1, .enter 1 .AwaitLogin, .login 1 true true, .begun 1, .enter 1 .Syncing,
        .executed 0, .boundary 0, .captured 0 [], .sent 1, .enter 1 .AwaitReady,
        .acknowledged 1] ++ .enter 1 .Play :: []) s :=
    Step.run_of_trace (show (Step.exec Session.step inGame (loginActions 1)).map Prod.snd =
      some _ by decide)
  refine ⟨_, [], s, hrun, login_path_run inGame_start hrun ?_ rfl⟩
  simp

/-- What the threads do in a login that finds `midSession` unset. -/
def emptyLoginActions (c : Channel) : List Action :=
  [.intention c, .hello c, .readMidSession, .readMidSessionAgain, .finishLogin]

/-- B logs in, A connects, B leaves and A's connection is closed; then A connects again before
B does. -/
def reconnectActions : List Action :=
  .startNotConnected :: emptyLoginActions 1 ++
    [.connectA 0, .inactive 1, .closeStep true, .closeStep true, .closeStep true, .closeStep true,
      .connectA 1] ++ emptyLoginActions 2

/-- In a session that started with A not connected, B's second login finds A in game and goes
from `AwaitLogin` straight to `Play`. -/
theorem login_path_skips : ∃ pre t s,
    Step.Run Session.step { starting := true }
      (pre ++ .enter 2 .AwaitLogin :: .login 2 true false :: (t ++ [.enter 2 .Play])) s ∧
      ∀ c, .enter c .Syncing ∉ t := by
  obtain ⟨s, hrun⟩ : ∃ s, Step.Run Session.step { starting := true }
      ([.intention 1, .enter 1 .AwaitLogin, .login 1 false false, .enter 1 .Play,
        .enter 1 .AwaitHandshake, .reset, .intention 2] ++
          .enter 2 .AwaitLogin :: .login 2 true false :: ([] ++ [.enter 2 .Play])) s :=
    Step.run_of_trace (show (Step.exec Session.step { starting := true }
      reconnectActions).map Prod.snd = some _ by decide)
  exact ⟨_, [], s, hrun, by simp⟩

end Server
end SakuraTools
