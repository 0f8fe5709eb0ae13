import SakuraTools.Lib.Transition
import SakuraTools.ClassFile.Hook

/-!
# Installing and removing the connection hook

`InstallConnectionHook`, `UninstallConnectionHook` and `RetransformIfLoaded` of
`native/connection_hook.cpp`, among the classes that the JVM loads.  When the JVM retransforms a
class, it starts again from the bytes that the class was loaded from.  The callback sees a class
before the class is loaded, so that a class can be hooked and not yet be in the list of classes.
-/

namespace SakuraTools
namespace ClassFile

/-- A class of the JVM: the bytes it comes from, and those it has been made of. -/
structure LoadedClass where
  name : Bytes
  data : Bytes
  current : Bytes
deriving DecidableEq

/-- What the callback depends on, when it is called for a class. -/
structure CallbackEnv where
  entered : Bool
  allocates : ℕ → Bool

/-- The classes, and the state of the hook: the name of its class once this is defined, and
whether the JVM calls back. -/
structure HookState where
  hook : Option Bytes
  enabled : Bool
  loading : List LoadedClass
  classes : List LoadedClass

namespace HookState

/-- The bytes that the JVM makes a class of. -/
def transformed (s : HookState) (env : CallbackEnv) (name data : Bytes) : Bytes :=
  if s.enabled then
    match ClassFileLoadHookCallback env.entered s.hook env.allocates (some name) data with
    | .ok (some patched) => patched
    | _ => data
  else data

/-- The class after it has been retransformed. -/
def retransform (s : HookState) (env : CallbackEnv) (c : LoadedClass) : LoadedClass :=
  { c with current := s.transformed env c.name c.data }

end HookState

/-- What the JVM answers to `RetransformIfLoaded`: whether it lists its classes, and for the class
at an index, whether it tells the signature and whether it retransforms the class. -/
structure Retransforms where
  listed : Bool
  signature : ℕ → Bool
  accepts : ℕ → Bool
  env : ℕ → CallbackEnv

/-- One turn of the loop of `RetransformIfLoaded`: the class at the index `i` after it, and whether
nothing went wrong. -/
def retransformOne (s : HookState) (answers : Retransforms) (i : ℕ) (c : LoadedClass) :
    LoadedClass × Bool :=
  if answers.signature i = false then (c, false)
  else if c.name ≠ kConnectionInternal then (c, true)
  else if answers.accepts i then (s.retransform (answers.env i) c, true)
  else (c, false)

def retransformFrom (s : HookState) (answers : Retransforms) :
    ℕ → List LoadedClass → List LoadedClass × Bool
  | _, [] => ([], true)
  | i, c :: cs =>
    let one := retransformOne s answers i c
    let rest := retransformFrom s answers (i + 1) cs
    (one.1 :: rest.1, one.2 && rest.2)

/-- `RetransformIfLoaded` -/
def RetransformIfLoaded (s : HookState) (answers : Retransforms) : HookState × Bool :=
  if answers.listed then
    let (classes, ok) := retransformFrom s answers 0 s.classes
    ({ s with classes := classes }, ok)
  else (s, false)

/-- What happens: a class is read, and then defined or given up; a class is unloaded; the hook's
class is defined; the hook is installed, or removed.  The flags are answers of the JVM. -/
inductive HookAct where
  | read (name data : Bytes) (env : CallbackEnv)
  | define (i : ℕ)
  | giveUp (i : ℕ)
  | unload (i : ℕ)
  | bridge (internalName : Bytes)
  | install (addCapabilities setCallbacks setMode : Bool) (answers : Retransforms)
  | uninstall (setMode : Bool) (answers : Retransforms)

/-- What `InstallConnectionHook` and `UninstallConnectionHook` have returned. -/
inductive HookEvent where
  | installed (ok : Bool)
  | uninstalled (ok : Bool)
deriving DecidableEq

/-- `InstallConnectionHook` -/
def InstallConnectionHook (s : HookState) (addCapabilities setCallbacks setMode : Bool)
    (answers : Retransforms) : HookState × Bool :=
  if s.hook = none then (s, false)
  else if addCapabilities && setCallbacks && setMode then
    RetransformIfLoaded { s with enabled := true } answers
  else (s, false)

/-- `UninstallConnectionHook` -/
def UninstallConnectionHook (s : HookState) (setMode : Bool) (answers : Retransforms) :
    HookState × Bool :=
  if setMode then RetransformIfLoaded { s with enabled := false } answers else (s, false)

def hookStep : Step HookState HookAct HookEvent
  | s, .read name data env =>
    some ({ s with loading := ⟨name, data, s.transformed env name data⟩ :: s.loading }, [])
  | s, .define i =>
    match s.loading[i]? with
    | none => none
    | some c => some ({ s with loading := s.loading.eraseIdx i, classes := s.classes ++ [c] }, [])
  | s, .giveUp i => some ({ s with loading := s.loading.eraseIdx i }, [])
  | s, .unload i => some ({ s with classes := s.classes.eraseIdx i }, [])
  | s, .bridge internalName =>
    -- `InstallHookBridge` keeps the class that it has
    some ({ s with hook := s.hook <|> some internalName }, [])
  | s, .install addCapabilities setCallbacks setMode answers =>
    let (s', ok) := InstallConnectionHook s addCapabilities setCallbacks setMode answers
    some (s', [.installed ok])
  | s, .uninstall setMode answers =>
    let (s', ok) := UninstallConnectionHook s setMode answers
    some (s', [.uninstalled ok])

lemma hookStep_install (s : HookState) (addCapabilities setCallbacks setMode : Bool)
    (answers : Retransforms) :
    hookStep s (.install addCapabilities setCallbacks setMode answers) =
      some ((InstallConnectionHook s addCapabilities setCallbacks setMode answers).1,
        [.installed (InstallConnectionHook s addCapabilities setCallbacks setMode answers).2]) :=
  rfl

lemma hookStep_uninstall (s : HookState) (setMode : Bool) (answers : Retransforms) :
    hookStep s (.uninstall setMode answers) =
      some ((UninstallConnectionHook s setMode answers).1,
        [.uninstalled (UninstallConnectionHook s setMode answers).2]) :=
  rfl

/-! ## What a class can be made of -/

/-- The class is what it was, or it is the connection class with one call of the hook in it. -/
def LoadedClass.Clean (hook : Option Bytes) (c : LoadedClass) : Prop :=
  c.current = c.data ∨ c.name = kConnectionInternal ∧ ∃ internalName, hook = some internalName ∧
    patchConnection internalName c.data = .ok (some c.current)

lemma callback_some {entered : Bool} {hook name : Option Bytes} {allocates : ℕ → Bool}
    {data patched : Bytes}
    (h : ClassFileLoadHookCallback entered hook allocates name data = .ok (some patched)) :
    name = some kConnectionInternal ∧ ∃ internalName, hook = some internalName ∧
      patchConnection internalName data = .ok (some patched) := by
  unfold ClassFileLoadHookCallback at h
  split at h
  · cases h
  · rename_i hguard
    rw [not_or, not_not] at hguard
    cases hook with
    | none => cases h
    | some internalName =>
      refine ⟨hguard.2, internalName, rfl, ?_⟩
      simp only at h
      split at h
      · rename_i patched' hpatch
        rw [hpatch]
        split at h
        · exact congrArg Except.ok (Except.ok.inj h)
        · cases h
      · cases h
      · cases h
      · cases h

lemma clean_transformed (s : HookState) (env : CallbackEnv) (name data : Bytes) :
    (⟨name, data, s.transformed env name data⟩ : LoadedClass).Clean s.hook := by
  unfold HookState.transformed
  split
  · split
    · rename_i patched hcallback
      obtain ⟨hname, hpatch⟩ := callback_some hcallback
      exact .inr ⟨Option.some.inj hname, hpatch⟩
    · exact .inl rfl
  · exact .inl rfl

/-- All classes are clean, also those that are being loaded. -/
structure HookState.Clean (s : HookState) : Prop where
  loading : ∀ c ∈ s.loading, c.Clean s.hook
  classes : ∀ c ∈ s.classes, c.Clean s.hook

/-- A class is left alone, or retransformed. -/
lemma retransformOne_cases (s : HookState) (answers : Retransforms) (i : ℕ) (c : LoadedClass) :
    (retransformOne s answers i c).1 = c ∨
      (retransformOne s answers i c).1 = s.retransform (answers.env i) c := by
  unfold retransformOne
  split
  · exact .inl rfl
  · split
    · exact .inl rfl
    · split
      · exact .inr rfl
      · exact .inl rfl

/-- When nothing has gone wrong, a connection class was retransformed. -/
lemma retransformOne_ok {s : HookState} {answers : Retransforms} {i : ℕ} {c : LoadedClass}
    (hok : (retransformOne s answers i c).2 = true) (hname : c.name = kConnectionInternal) :
    (retransformOne s answers i c).1 = s.retransform (answers.env i) c := by
  unfold retransformOne at hok ⊢
  by_cases hsignature : answers.signature i = false
  · rw [if_pos hsignature] at hok
    cases hok
  · rw [if_neg hsignature, if_neg (not_not.mpr hname)] at hok ⊢
    by_cases haccepts : answers.accepts i
    · rw [if_pos haccepts]
    · rw [if_neg haccepts] at hok
      cases hok

/-- The class after the loop was a class before it. -/
lemma mem_retransformFrom {s : HookState} {answers : Retransforms} {i : ℕ} {cs : List LoadedClass}
    {c' : LoadedClass} (h : c' ∈ (retransformFrom s answers i cs).1) :
    ∃ j, ∃ c ∈ cs, c' = (retransformOne s answers j c).1 ∧
      ((retransformFrom s answers i cs).2 = true → (retransformOne s answers j c).2 = true) := by
  induction cs generalizing i with
  | nil => cases h
  | cons c cs ih =>
    rcases List.mem_cons.mp h with rfl | h
    · exact ⟨i, c, List.mem_cons_self, rfl, fun hok => (Bool.and_eq_true_iff.mp hok).1⟩
    · obtain ⟨j, c₀, hc₀, hc', hone⟩ := ih h
      exact ⟨j, c₀, List.mem_cons_of_mem c hc₀, hc', fun hok =>
        hone (Bool.and_eq_true_iff.mp hok).2⟩

/-- What `RetransformIfLoaded` changes: the classes. -/
lemma retransformIfLoaded_frame (s : HookState) (answers : Retransforms) :
    (RetransformIfLoaded s answers).1.hook = s.hook ∧
      (RetransformIfLoaded s answers).1.enabled = s.enabled ∧
      (RetransformIfLoaded s answers).1.loading = s.loading := by
  unfold RetransformIfLoaded
  split <;> exact ⟨rfl, rfl, rfl⟩

lemma mem_retransformIfLoaded {s : HookState} {answers : Retransforms} {c' : LoadedClass}
    (h : c' ∈ (RetransformIfLoaded s answers).1.classes) : c' ∈ s.classes ∨
      ∃ j, ∃ c ∈ s.classes, c' = s.retransform (answers.env j) c := by
  unfold RetransformIfLoaded at h
  split at h
  · obtain ⟨j, c, hc, rfl, -⟩ := mem_retransformFrom h
    rcases retransformOne_cases s answers j c with heq | heq
    · rw [heq]
      exact .inl hc
    · exact .inr ⟨j, c, hc, heq⟩
  · exact .inl h

/-- When it returns true, every connection class has been retransformed, and nothing else. -/
lemma retransformIfLoaded_ok {s : HookState} {answers : Retransforms}
    (hok : (RetransformIfLoaded s answers).2 = true) {c' : LoadedClass}
    (h : c' ∈ (RetransformIfLoaded s answers).1.classes) : ∃ j, ∃ c ∈ s.classes,
      c' = if c.name = kConnectionInternal then s.retransform (answers.env j) c else c := by
  unfold RetransformIfLoaded at h hok
  split at h
  · rename_i hlisted
    rw [if_pos hlisted] at hok
    obtain ⟨j, c, hc, rfl, hone⟩ := mem_retransformFrom h
    refine ⟨j, c, hc, ?_⟩
    by_cases hname : c.name = kConnectionInternal
    · rw [if_pos hname, retransformOne_ok (hone hok) hname]
    · rw [if_neg hname, retransformOne, if_pos hname]
      split <;> rfl
  · rename_i hlisted
    rw [if_neg hlisted] at hok
    cases hok

/-! ## Every run -/

namespace HookState

variable {s s' : HookState}

lemma Clean.retransformIfLoaded (h : s.Clean) (answers : Retransforms) :
    (RetransformIfLoaded s answers).1.Clean := by
  obtain ⟨hhook, -, hloading⟩ := retransformIfLoaded_frame s answers
  refine ⟨fun c hc => ?_, fun c' hc' => ?_⟩
  · rw [hhook]
    exact h.loading c (hloading ▸ hc)
  · rw [hhook]
    rcases mem_retransformIfLoaded hc' with hc | ⟨j, c, -, rfl⟩
    · exact h.classes c' hc
    · exact clean_transformed s (answers.env j) c.name c.data

/-- The name of the hook's class does not matter before it is there. -/
lemma Clean.bridge (h : s.Clean) (internalName : Bytes) :
    HookState.Clean { s with hook := s.hook <|> some internalName } := by
  have hmono : ∀ c : LoadedClass, c.Clean s.hook → c.Clean (s.hook <|> some internalName) := by
    rintro c (hc | ⟨hname, old, hold, hpatch⟩)
    · exact .inl hc
    · exact .inr ⟨hname, old, by rw [hold]; rfl, hpatch⟩
  exact ⟨fun c hc => hmono c (h.loading c hc), fun c hc => hmono c (h.classes c hc)⟩

lemma Clean.install (h : s.Clean) (addCapabilities setCallbacks setMode : Bool)
    (answers : Retransforms) :
    (InstallConnectionHook s addCapabilities setCallbacks setMode answers).1.Clean := by
  unfold InstallConnectionHook
  split
  · exact h
  · split
    · have h' : HookState.Clean { s with enabled := true } := ⟨h.loading, h.classes⟩
      exact h'.retransformIfLoaded answers
    · exact h

lemma Clean.uninstall (h : s.Clean) (setMode : Bool) (answers : Retransforms) :
    (UninstallConnectionHook s setMode answers).1.Clean := by
  unfold UninstallConnectionHook
  split
  · have h' : HookState.Clean { s with enabled := false } := ⟨h.loading, h.classes⟩
    exact h'.retransformIfLoaded answers
  · exact h

lemma Clean.step (h : s.Clean) {a : HookAct} {es : List HookEvent}
    (hstep : hookStep s a = some (s', es)) : s'.Clean := by
  cases a with
  | read name data env =>
    cases hstep
    refine ⟨fun c hc => ?_, h.classes⟩
    rcases List.mem_cons.mp hc with rfl | hc
    · exact clean_transformed s env name data
    · exact h.loading c hc
  | define i =>
    simp only [hookStep] at hstep
    split at hstep
    · cases hstep
    · rename_i c hc
      cases hstep
      refine ⟨fun c' hc' => h.loading c' (List.mem_of_mem_eraseIdx hc'), fun c' hc' => ?_⟩
      rcases List.mem_append.mp hc' with hc' | hc'
      · exact h.classes c' hc'
      · rw [List.mem_singleton.mp hc']
        exact h.loading c (List.mem_of_getElem? hc)
  | giveUp i =>
    cases hstep
    exact ⟨fun c hc => h.loading c (List.mem_of_mem_eraseIdx hc), h.classes⟩
  | unload i =>
    cases hstep
    exact ⟨h.loading, fun c hc => h.classes c (List.mem_of_mem_eraseIdx hc)⟩
  | bridge internalName =>
    cases hstep
    exact h.bridge internalName
  | install addCapabilities setCallbacks setMode answers =>
    rw [hookStep_install] at hstep
    obtain ⟨rfl, -⟩ := Prod.mk.inj (Option.some.inj hstep)
    exact h.install addCapabilities setCallbacks setMode answers
  | uninstall setMode answers =>
    rw [hookStep_uninstall] at hstep
    obtain ⟨rfl, -⟩ := Prod.mk.inj (Option.some.inj hstep)
    exact h.uninstall setMode answers

lemma clean_of_run {tr : List HookEvent} (hrun : Step.Run hookStep s tr s') (h : s.Clean) :
    s'.Clean :=
  hrun.invariant (I := fun _ s => s.Clean) h fun _ _ _ _ _ hs hstep => hs.step hstep

/-- Without the callback, a class becomes what it was. -/
lemma current_retransform (hoff : s.enabled = false) (env : CallbackEnv) (c : LoadedClass) :
    (s.retransform env c).current = c.data := by
  simp [retransform, transformed, hoff]

/-- A successful `UninstallConnectionHook` stops the callback, and every class is what it was. -/
lemma uninstall_ok (h : s.Clean) {setMode : Bool} {answers : Retransforms}
    (hok : (UninstallConnectionHook s setMode answers).2 = true) :
    (UninstallConnectionHook s setMode answers).1.enabled = false ∧
      ∀ c ∈ (UninstallConnectionHook s setMode answers).1.classes, c.current = c.data := by
  unfold UninstallConnectionHook at hok ⊢
  by_cases hset : setMode
  · rw [if_pos hset] at hok ⊢
    refine ⟨(retransformIfLoaded_frame _ answers).2.1, fun c' hc' => ?_⟩
    obtain ⟨j, c, hc, rfl⟩ := retransformIfLoaded_ok hok hc'
    by_cases hname : c.name = kConnectionInternal
    · rw [if_pos hname]
      exact current_retransform rfl (answers.env j) c
    · rw [if_neg hname]
      exact (h.classes c hc).resolve_right fun hhooked => hname hhooked.1
  · rw [if_neg hset] at hok
    cases hok

/-- A step that does not install the hook. -/
def leavesHookOff (_ : HookState) : HookAct → Bool
  | .install .. => false
  | _ => true

/-- The callback is off, and no class is hooked but those that were being loaded. -/
structure Restored (old : List LoadedClass) (s : HookState) : Prop where
  enabled : s.enabled = false
  loading : ∀ c ∈ s.loading, c.current = c.data ∨ c ∈ old
  classes : ∀ c ∈ s.classes, c.current = c.data ∨ c ∈ old

lemma Restored.step {old : List LoadedClass} (h : s.Restored old) {a : HookAct}
    {es : List HookEvent} (hstep : Step.restrict leavesHookOff hookStep s a = some (s', es)) :
    s'.Restored old := by
  obtain ⟨hkeeps, hstep⟩ := Step.restrict_eq_some.mp hstep
  cases a with
  | read name data env =>
    cases hstep
    refine ⟨h.enabled, fun c hc => ?_, h.classes⟩
    rcases List.mem_cons.mp hc with rfl | hc
    · exact .inl (current_retransform h.enabled env ⟨name, data, data⟩)
    · exact h.loading c hc
  | define i =>
    simp only [hookStep] at hstep
    split at hstep
    · cases hstep
    · rename_i c hc
      cases hstep
      refine ⟨h.enabled, fun c' hc' => h.loading c' (List.mem_of_mem_eraseIdx hc'),
        fun c' hc' => ?_⟩
      rcases List.mem_append.mp hc' with hc' | hc'
      · exact h.classes c' hc'
      · rw [List.mem_singleton.mp hc']
        exact h.loading c (List.mem_of_getElem? hc)
  | giveUp i =>
    cases hstep
    exact ⟨h.enabled, fun c hc => h.loading c (List.mem_of_mem_eraseIdx hc), h.classes⟩
  | unload i =>
    cases hstep
    exact ⟨h.enabled, h.loading, fun c hc => h.classes c (List.mem_of_mem_eraseIdx hc)⟩
  | bridge internalName =>
    cases hstep
    exact ⟨h.enabled, h.loading, h.classes⟩
  | install addCapabilities setCallbacks setMode answers => cases hkeeps
  | uninstall setMode answers =>
    rw [hookStep_uninstall] at hstep
    obtain ⟨rfl, -⟩ := Prod.mk.inj (Option.some.inj hstep)
    unfold UninstallConnectionHook
    by_cases hset : setMode
    · rw [if_pos hset]
      obtain ⟨-, henabled, hloading⟩ :=
        retransformIfLoaded_frame { s with enabled := false } answers
      refine ⟨henabled, fun c hc => h.loading c (hloading ▸ hc), fun c' hc' => ?_⟩
      rcases mem_retransformIfLoaded hc' with hc | ⟨j, c, -, rfl⟩
      · exact h.classes c' hc
      · exact .inl (current_retransform rfl (answers.env j) c)
    · rw [if_neg hset]
      exact h

lemma restored_of_run {old : List LoadedClass} {tr : List HookEvent}
    (hrun : Step.Run (Step.restrict leavesHookOff hookStep) s tr s') (h : s.Restored old) :
    s'.Restored old :=
  hrun.invariant (I := fun _ s => s.Restored old) h fun _ _ _ _ _ hs hstep => hs.step hstep

end HookState

/-- The JVM before the hook: no class is hooked, and nothing calls back. -/
structure HookState.Fresh (s : HookState) : Prop where
  enabled : s.enabled = false
  loading : ∀ c ∈ s.loading, c.current = c.data
  classes : ∀ c ∈ s.classes, c.current = c.data

lemma HookState.Fresh.clean {s : HookState} (h : s.Fresh) : s.Clean :=
  ⟨fun c hc => .inl (h.loading c hc), fun c hc => .inl (h.classes c hc)⟩

/-! ## Results -/

/-- A JVM that has loaded the sample class. -/
def loadedState : HookState :=
  ⟨none, false, [], [⟨kConnectionInternal, connectionLayout.encode, connectionLayout.encode⟩]⟩

lemma loadedState_fresh : loadedState.Fresh :=
  ⟨rfl, List.forall_mem_nil _, by
    intro c hc
    rw [List.mem_singleton.mp hc]⟩

/-- Answers without a failure. -/
def goodAnswers : Retransforms :=
  ⟨true, fun _ => true, fun _ => true, fun _ => ⟨true, fun _ => true⟩⟩

/-- The hook after it has been installed for the sample class. -/
def installedState : HookState :=
  (InstallConnectionHook { loadedState with hook := some (ascii "a/H") } true true true
    goodAnswers).1

lemma run_installed : ∃ ok, Step.Run hookStep loadedState [.installed ok] installedState := by
  have hstart : Step.Run hookStep loadedState [] loadedState := .start
  have hbridge := hstart.step (a := .bridge (ascii "a/H")) rfl
  exact ⟨_, hbridge.step (hookStep_install _ true true true goodAnswers)⟩

/-- When `UninstallConnectionHook` has returned true, all classes are what they were.  They stay so
until the hook is installed again, except for those which the callback had seen and which the JVM
had not yet listed. -/
theorem UninstallConnectionHook_restores {s₀ s s₁ s₂ : HookState} (h₀ : s₀.Fresh)
    {tr tr' : List HookEvent} (hrun : Step.Run hookStep s₀ tr s) {setMode : Bool}
    {answers : Retransforms}
    (huninstall : hookStep s (.uninstall setMode answers) = some (s₁, [.uninstalled true]))
    (hrun' : Step.Run (Step.restrict HookState.leavesHookOff hookStep) s₁ tr' s₂) :
    (∀ c ∈ s₁.classes, c.current = c.data) ∧
      ∀ c ∈ s₂.classes, c.current = c.data ∨ c ∈ s₁.loading := by
  rw [hookStep_uninstall] at huninstall
  obtain ⟨rfl, hok⟩ := Prod.mk.inj (Option.some.inj huninstall)
  rw [List.cons.injEq, HookEvent.uninstalled.injEq] at hok
  obtain ⟨henabled, hclasses⟩ :=
    HookState.uninstall_ok (HookState.clean_of_run hrun h₀.clean) hok.1
  refine ⟨hclasses, fun c hc => ?_⟩
  have hrestored := HookState.restored_of_run hrun'
    ⟨henabled, fun c hc => .inr hc, fun c hc => .inl (hclasses c hc)⟩
  exact hrestored.classes c hc

theorem UninstallConnectionHook_restores_sample : ∃ s,
    hookStep installedState (.uninstall true goodAnswers) = some (s, [.uninstalled true]) ∧
      ∀ c ∈ s.classes, c.current = c.data := by
  obtain ⟨ok, hrun⟩ := run_installed
  have huninstall : hookStep installedState (.uninstall true goodAnswers) =
      some ((UninstallConnectionHook installedState true goodAnswers).1, [.uninstalled true]) := rfl
  exact ⟨_, huninstall,
    (UninstallConnectionHook_restores loadedState_fresh hrun huninstall .start).1⟩

end ClassFile
end SakuraTools
