import Mathlib.Data.List.Basic
import Mathlib.Data.List.Nodup
import SakuraTools.Lib.Deferred
import SakuraTools.Lib.Index
import SakuraTools.Lib.Throwing

/-!
# The lookups of a snapshot

`SnapshotJni` of `native/snapshot_jni.h` remembers the classes and the methods that it has looked up
for one snapshot, with `FindMappedMethod` of `native/mapped_method.h` behind it.  What it remembers
is what the JVM would find, and the references to classes that it makes are released with it.
-/

namespace SakuraTools
namespace Server
namespace SnapshotJni

open Throwing Deferred

/-! ## The JVM -/

/-- A name or a descriptor. -/
abbrev JavaName := List Char

/-- What the JVM finds. -/
structure Jvm (Class Mid Fid : Type) where
  loadClass : JavaName → Option Class
  /-- `GetMethodID` or `GetStaticMethodID` -/
  methodId : Class → Bool → JavaName → JavaName → Option Mid
  fieldId : Class → JavaName → JavaName → Option Fid

/-- A global reference to a class. -/
structure ClassRef (Class : Type) where
  id : ℕ
  cls : Class
deriving DecidableEq

/-- How the lookup of a member ends: with its id, with the error that there is none, or with another
error. -/
inductive Found (Id : Type) where
  | id (x : Id)
  | missing
  | error

def Found.of {Id : Type} (works : Bool) (x : Option Id) : Found Id :=
  match works, x with
  | false, _ => .error
  | true, none => .missing
  | true, some x => .id x

/-- A member of a class, under its name and the name that Forge gives it. -/
structure Request where
  owner : JavaName
  name : JavaName
  mapped : JavaName
  desc : JavaName
  isStatic : Bool := false
deriving DecidableEq

/-- The key of `methods_`. -/
def Request.key (r : Request) : JavaName :=
  r.owner ++ ':' :: (r.name ++ (r.desc ++ if r.isStatic then [':', 'S'] else []))

section Lookups

variable {Class Mid Fid : Type}

/-- The method, without a cache. -/
def Jvm.method (j : Jvm Class Mid Fid) (r : Request) : Option Mid :=
  (j.loadClass r.owner).bind fun cls =>
    (j.methodId cls r.isStatic r.name r.desc).or (j.methodId cls r.isStatic r.mapped r.desc)

/-- The field, without a cache. -/
def Jvm.field (j : Jvm Class Mid Fid) (r : Request) : Option Fid :=
  (j.loadClass r.owner).bind fun cls =>
    (j.fieldId cls r.name r.desc).or (j.fieldId cls r.mapped r.desc)

/-! ## The caches -/

/-- The answers of the calls of `type`. -/
structure TypeAnswers where
  loadClass : Bool := true
  newGlobalRef : Bool := true

/-- The answers of the calls of `method`. -/
structure MethodAnswers where
  type : TypeAnswers := {}
  getMethodId : Bool := true
  findClass : Bool := true
  getMappedId : Bool := true

/-- The answers of the calls of `field`. -/
structure FieldAnswers where
  type : TypeAnswers := {}
  getFieldId : Bool := true
  errorType : TypeAnswers := {}
  getMappedId : Bool := true

/-- The caches, with what the JVM has of the snapshot. -/
structure Caches (Class Mid : Type) where
  classes : List (JavaName × ClassRef Class) := []
  methods : List (JavaName × Mid) := []
  /-- An exception is pending. -/
  pending : Bool := false
  /-- The global references that have been made. -/
  created : List (ClassRef Class) := []

abbrev SnapshotM (Class Mid α : Type) := EStateM String (Caches Class Mid) α

def check : SnapshotM Class Mid Unit := do
  if (← get).pending then throw "JNI snapshot operation failed"

def required {α : Type} (object : Option α) : SnapshotM Class Mid α := do
  check
  match object with
  | some object => pure object
  | none => throw "Required snapshot object is missing"

/-- An exception is thrown in the JVM. -/
def raise : SnapshotM Class Mid Unit := modify fun s => { s with pending := true }

def newGlobalRef (works : Bool) (cls : Class) : SnapshotM Class Mid (Option (ClassRef Class)) := do
  if works then
    let ref : ClassRef Class := ⟨(← get).created.length, cls⟩
    modify fun s => { s with created := ref :: s.created }
    pure (some ref)
  else pure none

def type (j : Jvm Class Mid Fid) (x : TypeAnswers) (name : JavaName) :
    SnapshotM Class Mid (ClassRef Class) := do
  match (← get).classes.lookup name with
  | some ref => pure ref
  | none =>
    let cls ← required (if x.loadClass then j.loadClass name else none)
    let global ← newGlobalRef x.newGlobalRef cls
    let ref ← required global
    modify fun s => { s with classes := emplace s.classes name ref }
    pure ref

/-- `FindMappedMethod`.  An error other than a missing method is thrown again. -/
def FindMappedMethod (j : Jvm Class Mid Fid) (x : MethodAnswers) (cls : Class) (r : Request) :
    SnapshotM Class Mid (Option Mid) := do
  if (← get).pending then pure none
  else
    match Found.of x.getMethodId (j.methodId cls r.isStatic r.name r.desc) with
    | .id mid => pure (some mid)
    | .missing =>
      if x.findClass then
        match Found.of x.getMappedId (j.methodId cls r.isStatic r.mapped r.desc) with
        | .id mid => pure (some mid)
        | _ =>
          raise
          pure none
      else
        raise
        pure none
    | .error =>
      raise
      pure none

def method (j : Jvm Class Mid Fid) (x : MethodAnswers) (r : Request) : SnapshotM Class Mid Mid := do
  match (← get).methods.lookup r.key with
  | some mid => pure mid
  | none =>
    let cls ← type j x.type r.owner
    let result ← FindMappedMethod j x cls.cls r
    check
    match result with
    | none => throw ("Snapshot method missing: " ++ String.ofList r.key)
    | some mid =>
      modify fun s => { s with methods := emplace s.methods r.key mid }
      pure mid

/-- `GetFieldID`, and what `field` does when it throws. -/
def findField (j : Jvm Class Mid Fid) (x : FieldAnswers) (cls : Class) (r : Request) :
    SnapshotM Class Mid (Option Fid) := do
  match Found.of x.getFieldId (j.fieldId cls r.name r.desc) with
  | .id fid => pure (some fid)
  | .missing =>
    let _ ← type j x.errorType "java.lang.NoSuchFieldError".toList
    match Found.of x.getMappedId (j.fieldId cls r.mapped r.desc) with
    | .id fid => pure (some fid)
    | _ =>
      raise
      pure none
  | .error =>
    let _ ← type j x.errorType "java.lang.NoSuchFieldError".toList
    raise
    pure none

def field (j : Jvm Class Mid Fid) (x : FieldAnswers) (r : Request) : SnapshotM Class Mid Fid := do
  let cls ← type j x.type r.owner
  let result ← findField j x cls.cls r
  check
  match result with
  | none => throw (String.ofList ("Snapshot field missing: ".toList ++ r.owner ++ '.' :: r.name))
  | some fid => pure fid

/-- The destructor releases what is in `classes_`. -/
def Caches.released (s : Caches Class Mid) : List (ClassRef Class) := s.classes.map Prod.snd

end Lookups

/-! ## A capture -/

section Capture

variable {Class Mid Fid : Type}

/-- A lookup of the snapshot. -/
inductive Call where
  | type (name : JavaName) (x : TypeAnswers)
  | method (r : Request) (x : MethodAnswers)
  | field (r : Request) (x : FieldAnswers)

/-- What a lookup returns. -/
inductive Value (Class Mid Fid : Type) where
  | cls (cls : Class)
  | mid (mid : Mid)
  | fid (fid : Fid)
deriving DecidableEq

def Call.run (j : Jvm Class Mid Fid) : Call → SnapshotM Class Mid (Value Class Mid Fid)
  | .type name x => (fun ref => .cls ref.cls) <$> SnapshotJni.type j x name
  | .method r x => .mid <$> SnapshotJni.method j x r
  | .field r x => .fid <$> SnapshotJni.field j x r

/-- What a lookup returns without caches. -/
def Call.answer (j : Jvm Class Mid Fid) : Call → Option (Value Class Mid Fid)
  | .type name _ => (j.loadClass name).map .cls
  | .method r _ => (j.method r).map .mid
  | .field r _ => (j.field r).map .fid

/-- The lookups of a capture one after the other, up to the first that throws. -/
def runCalls (j : Jvm Class Mid Fid) (s : Caches Class Mid) :
    List Call → List (Except String (Value Class Mid Fid)) × Caches Class Mid
  | [] => ([], s)
  | c :: cs =>
    match c.run j s with
    | .ok v s' => (.ok v :: (runCalls j s' cs).1, (runCalls j s' cs).2)
    | .error e s' => ([.error e], s')

/-! ## The keys -/

/-- The names are those of Java: there is no colon in them, and a descriptor starts with a bracket
that no name has. -/
structure Request.Legal (r : Request) : Prop where
  owner : ':' ∉ r.owner
  name : '(' ∉ r.name
  desc : ∃ d, r.desc = '(' :: d ∧ ':' ∉ d

/-- A text splits in one way at the first place of a sign. -/
lemma append_cons_inj {c : Char} {l l' t t' : JavaName} (hl : c ∉ l) (hl' : c ∉ l')
    (h : l ++ c :: t = l' ++ c :: t') : l = l' ∧ t = t' := by
  induction l generalizing l' with
  | nil =>
    cases l' with
    | nil => exact ⟨rfl, (List.cons.inj h).2⟩
    | cons b l' => exact absurd ((List.cons.inj h).1 ▸ List.mem_cons_self) hl'
  | cons a l ih =>
    cases l' with
    | nil => exact absurd ((List.cons.inj h).1 ▸ List.mem_cons_self) hl
    | cons b l' =>
      obtain ⟨rfl, htail⟩ := List.cons.inj h
      obtain ⟨rfl, rfl⟩ := ih (fun hc => hl (List.mem_cons_of_mem _ hc))
        (fun hc => hl' (List.mem_cons_of_mem _ hc)) htail
      exact ⟨rfl, rfl⟩

/-- Two requests with one key are for the same method. -/
lemma key_injective {r r' : Request} (h : r.Legal) (h' : r'.Legal) (hkey : r.key = r'.key) :
    r.owner = r'.owner ∧ r.name = r'.name ∧ r.desc = r'.desc ∧ r.isStatic = r'.isStatic := by
  obtain ⟨d, hdesc, hd⟩ := h.desc
  obtain ⟨d', hdesc', hd'⟩ := h'.desc
  rw [Request.key, Request.key, hdesc, hdesc'] at hkey
  obtain ⟨howner, hrest⟩ := append_cons_inj h.owner h'.owner hkey
  rw [List.cons_append, List.cons_append] at hrest
  obtain ⟨hname, hrest⟩ := append_cons_inj h.name h'.name hrest
  rw [hdesc, hdesc']
  -- what is behind the descriptor is the only colon
  cases hstatic : r.isStatic <;> cases hstatic' : r'.isStatic <;> rw [hstatic, hstatic'] at hrest
  · exact ⟨howner, hname, by simpa using hrest, rfl⟩
  · refine absurd ?_ hd
    have hrest : d = d' ++ [':', 'S'] := by simpa using hrest
    simp [hrest]
  · refine absurd ?_ hd'
    have hrest : d ++ [':', 'S'] = d' := by simpa using hrest
    simp [← hrest]
  · exact ⟨howner, hname, by simpa using hrest, rfl⟩

/-- The methods of a capture: their names are those of Java, and a method has one name of Forge.
`captureNow` looks up literals, which are such. -/
structure Requests (rs : List Request) : Prop where
  legal : ∀ r ∈ rs, r.Legal
  mapped : ∀ r ∈ rs, ∀ r' ∈ rs, r.owner = r'.owner → r.name = r'.name → r.desc = r'.desc →
    r.isStatic = r'.isStatic → r.mapped = r'.mapped

def methodsOf (calls : List Call) : List Request :=
  calls.filterMap fun c =>
    match c with
    | .method r _ => some r
    | _ => none

lemma Requests.eq_of_key {rs : List Request} (h : Requests rs) {r r' : Request} (hr : r ∈ rs)
    (hr' : r' ∈ rs) (hkey : r.key = r'.key) : r = r' := by
  obtain ⟨howner, hname, hdesc, hstatic⟩ := key_injective (h.legal r hr) (h.legal r' hr') hkey
  have hmapped := h.mapped r hr r' hr' howner hname hdesc hstatic
  cases r
  cases r'
  simp_all

/-! ## What is remembered -/

/-- The caches are right for the methods of `rs`, and they hold every reference that has been
made. -/
structure Caches.Sound (j : Jvm Class Mid Fid) (rs : List Request) (s : Caches Class Mid) :
    Prop where
  classes : Indexed (fun ref name => j.loadClass name = some (ClassRef.cls ref)) id s.classes
  methods : Indexed (fun mid key => ∀ r ∈ rs, r.key = key → j.method r = some mid) id s.methods
  created : s.released = s.created
  fresh : ∀ ref ∈ s.created, ref.id < s.created.length
  nodup : s.created.Nodup

/-- No reference is lost. -/
def Caches.Extends (s s' : Caches Class Mid) : Prop := s.created <:+ s'.created

instance : Std.Refl (@Caches.Extends Class Mid) :=
  ⟨fun s => List.suffix_refl s.created⟩

instance : IsTrans (Caches Class Mid) Caches.Extends :=
  ⟨fun _ _ _ h h' => List.IsSuffix.trans h h'⟩

variable {j : Jvm Class Mid Fid} {rs : List Request} {s : Caches Class Mid}

lemma sound_start : Caches.Sound j rs ({} : Caches Class Mid) where
  classes := Indexed.nil
  methods := Indexed.nil
  created := rfl
  fresh := List.forall_mem_nil _
  nodup := List.nodup_nil

lemma Caches.Sound.raise (h : s.Sound j rs) : Caches.Sound j rs { s with pending := true } :=
  ⟨h.classes, h.methods, h.created, h.fresh, h.nodup⟩

/-- The caches after a class has been found. -/
def Caches.learn (s : Caches Class Mid) (name : JavaName) (cls : Class) : Caches Class Mid :=
  { s with
    classes := emplace s.classes name ⟨s.created.length, cls⟩
    created := ⟨s.created.length, cls⟩ :: s.created }

lemma Caches.Sound.learn (h : s.Sound j rs) {name : JavaName} (hnew : s.classes.lookup name = none)
    {cls : Class} (hcls : j.loadClass name = some cls) : (s.learn name cls).Sound j rs where
  classes := h.classes.emplace hcls
  methods := h.methods
  created := by
    show List.map Prod.snd (emplace s.classes name _) = _ :: s.created
    rw [emplace, hnew, ← h.created]
    rfl
  fresh := by
    rintro ref (_ | ⟨_, href⟩)
    · exact Nat.lt_succ_self _
    · exact Nat.lt_succ_of_lt (h.fresh ref href)
  nodup := by
    refine List.nodup_cons.mpr ⟨fun hmem => ?_, h.nodup⟩
    exact Nat.lt_irrefl _ (h.fresh _ hmem)

lemma get_run (s : Caches Class Mid) : (get : SnapshotM Class Mid (Caches Class Mid)) s = .ok s s :=
  rfl

lemma check_run (s : Caches Class Mid) : check s =
    if s.pending then .error "JNI snapshot operation failed" s else .ok () s := by
  show (if s.pending then throw _ else pure _ : SnapshotM Class Mid Unit) s = _
  split <;> rfl

lemma required_run {α : Type} (object : Option α) (s : Caches Class Mid) : required object s =
    if s.pending then .error "JNI snapshot operation failed" s
    else
      match object with
      | some object => .ok object s
      | none => .error "Required snapshot object is missing" s := by
  show EStateM.bind check _ s = _
  rw [EStateM.bind, check_run]
  cases s.pending with
  | true => rfl
  | false => cases object <;> rfl

lemma required_some {α : Type} (object : α) (hpending : s.pending = false) :
    required (some object) s = .ok object s := by
  rw [required_run, hpending]
  rfl

lemma required_none {α : Type} (hpending : s.pending = false) :
    required (none : Option α) s = .error "Required snapshot object is missing" s := by
  rw [required_run, hpending]
  rfl

/-- What `type` does. -/
lemma type_run (j : Jvm Class Mid Fid) (x : TypeAnswers) (name : JavaName) (s : Caches Class Mid) :
    type j x name s =
      match s.classes.lookup name with
      | some ref => .ok ref s
      | none =>
        if s.pending then .error "JNI snapshot operation failed" s
        else
          match if x.loadClass then j.loadClass name else none with
          | none => .error "Required snapshot object is missing" s
          | some cls =>
            if x.newGlobalRef then .ok ⟨s.created.length, cls⟩ (s.learn name cls)
            else .error "Required snapshot object is missing" s := by
  have hget : type j x name s = _ := bind_of_ok (get_run s)
  rw [hget]
  cases s.classes.lookup name with
  | some ref => rfl
  | none =>
    show EStateM.bind (required _) _ s = _
    rw [EStateM.bind, required_run]
    cases hpending : s.pending with
    | true => rfl
    | false =>
      cases if x.loadClass then j.loadClass name else none with
      | none => rfl
      | some cls =>
        cases hglobal : x.newGlobalRef with
        | true =>
          show EStateM.bind (required (some _)) _ { s with created := _ :: s.created } = _
          rw [EStateM.bind, required_some (s := { s with created := _ :: s.created }) _ hpending]
          rfl
        | false =>
          show EStateM.bind (required none) _ s = _
          rw [EStateM.bind, required_none hpending]
          rfl

/-- Whether it returns or throws, the lookup leaves caches that are right. -/
abbrev Keeps {α : Type} (j : Jvm Class Mid Fid) (rs : List Request) (x : SnapshotM Class Mid α)
    (s : Caches Class Mid) (Q : α → Caches Class Mid → Prop) : Prop :=
  Throwing.Keeps (Caches.Sound j rs) Caches.Extends x s Q

lemma type_keeps (h : s.Sound j rs) (x : TypeAnswers) (name : JavaName) :
    Keeps j rs (type j x name) s fun ref _ => j.loadClass name = some ref.cls := by
  have hrun := type_run j x name s
  cases hlookup : s.classes.lookup name with
  | some ref =>
    rw [hlookup] at hrun
    exact keeps_of_ok hrun h (List.suffix_refl _) (h.classes.of_lookup hlookup)
  | none =>
    simp only [hlookup] at hrun
    cases hpending : s.pending with
    | true =>
      rw [hpending] at hrun
      exact keeps_of_error hrun h (List.suffix_refl _)
    | false =>
      rw [hpending] at hrun
      cases hcls : if x.loadClass then j.loadClass name else none with
      | none =>
        rw [hcls] at hrun
        exact keeps_of_error hrun h (List.suffix_refl _)
      | some cls =>
        rw [hcls] at hrun
        have hfound : j.loadClass name = some cls := (Option.ite_none_right_eq_some.mp hcls).2
        cases hglobal : x.newGlobalRef with
        | true =>
          rw [hglobal] at hrun
          exact keeps_of_ok hrun (h.learn hlookup hfound) (List.suffix_cons _ _) hfound
        | false =>
          rw [hglobal] at hrun
          exact keeps_of_error hrun h (List.suffix_refl _)

lemma Found.of_eq_id {Id : Type} {works : Bool} {x : Option Id} {y : Id}
    (h : Found.of works x = .id y) : x = some y := by
  cases works <;> cases x <;> cases h
  rfl

lemma Found.of_eq_missing {Id : Type} {works : Bool} {x : Option Id}
    (h : Found.of works x = .missing) : x = none := by
  cases works <;> cases x <;> cases h
  rfl

lemma check_keeps (h : s.Sound j rs) : Keeps j rs check s fun _ _ => True := by
  have hrun := check_run s
  cases hpending : s.pending with
  | true =>
    rw [hpending] at hrun
    exact keeps_of_error hrun h (List.suffix_refl _)
  | false =>
    rw [hpending] at hrun
    exact keeps_of_ok hrun h (List.suffix_refl _) trivial

/-- Nothing is found, and an exception is pending. -/
lemma raise_keeps {α : Type} (h : s.Sound j rs) {Q : Option α → Caches Class Mid → Prop}
    (hQ : ∀ s, Q none s) :
    Keeps j rs (do raise; pure (none : Option α)) s Q := by
  have hraise : Keeps j rs raise s fun _ _ => True :=
    keeps_modify h.raise (List.suffix_refl _) trivial
  exact hraise.bind fun _ s₁ h₁ _ _ => keeps_pure h₁ (hQ s₁)

lemma findMappedMethod_keeps (h : s.Sound j rs) (x : MethodAnswers) (cls : Class) (r : Request) :
    Keeps j rs (FindMappedMethod j x cls r) s fun result _ => ∀ mid, result = some mid →
      (j.methodId cls r.isStatic r.name r.desc).or
        (j.methodId cls r.isStatic r.mapped r.desc) = some mid := by
  refine Throwing.Keeps.get_bind ?_
  split
  · exact keeps_pure h fun mid hmid => by cases hmid
  · split
    · rename_i mid hfound
      refine keeps_pure h fun mid' hmid => ?_
      cases hmid
      rw [Found.of_eq_id hfound, Option.some_or]
    · rename_i hmissing
      split
      · split
        · rename_i mid hfound
          refine keeps_pure h fun mid' hmid => ?_
          cases hmid
          rw [Found.of_eq_missing hmissing, Found.of_eq_id hfound, Option.none_or]
        · exact raise_keeps h fun _ mid hmid => by cases hmid
      · exact raise_keeps h fun _ mid hmid => by cases hmid
    · exact raise_keeps h fun _ mid hmid => by cases hmid

lemma method_keeps (hrs : Requests rs) (h : s.Sound j rs) (x : MethodAnswers) {r : Request}
    (hr : r ∈ rs) : Keeps j rs (method j x r) s fun mid _ => j.method r = some mid := by
  refine Throwing.Keeps.get_bind ?_
  cases hlookup : s.methods.lookup r.key with
  | some mid => exact keeps_pure h (h.methods.of_lookup hlookup r hr rfl)
  | none =>
    refine (type_keeps h x.type r.owner).bind fun ref s₁ h₁ _ hcls => ?_
    refine (findMappedMethod_keeps h₁ x ref.cls r).bind fun result s₂ h₂ _ hresult => ?_
    refine (check_keeps h₂).bind fun _ s₃ h₃ _ _ => ?_
    cases result with
    | none => exact keeps_throw h₃ _
    | some mid =>
      have hmid : j.method r = some mid := by
        rw [Jvm.method, hcls]
        exact hresult mid rfl
      have hkey : ∀ r' ∈ rs, r'.key = r.key → j.method r' = some mid := by
        intro r' hr' hkey
        rw [hrs.eq_of_key hr' hr hkey]
        exact hmid
      have hsound : Caches.Sound j rs { s₃ with methods := emplace s₃.methods r.key mid } :=
        ⟨h₃.classes, h₃.methods.emplace hkey, h₃.created, h₃.fresh, h₃.nodup⟩
      exact (keeps_modify hsound (List.suffix_refl _) trivial).bind
        fun _ s₄ h₄ _ (_ : True) => keeps_pure h₄ hmid

lemma findField_keeps (h : s.Sound j rs) (x : FieldAnswers) (cls : Class) (r : Request) :
    Keeps j rs (findField j x cls r) s fun result _ => ∀ fid, result = some fid →
      (j.fieldId cls r.name r.desc).or (j.fieldId cls r.mapped r.desc) = some fid := by
  rw [findField]
  split
  · rename_i fid hfound
    refine keeps_pure h fun fid' hfid => ?_
    cases hfid
    rw [Found.of_eq_id hfound, Option.some_or]
  · rename_i hmissing
    refine (type_keeps h x.errorType _).bind fun ref s₁ h₁ _ _ => ?_
    split
    · rename_i fid hfound
      refine keeps_pure h₁ fun fid' hfid => ?_
      cases hfid
      rw [Found.of_eq_missing hmissing, Found.of_eq_id hfound, Option.none_or]
    · exact raise_keeps h₁ fun _ fid hfid => by cases hfid
  · refine (type_keeps h x.errorType _).bind fun ref s₁ h₁ _ _ => ?_
    exact raise_keeps h₁ fun _ fid hfid => by cases hfid

lemma field_keeps (h : s.Sound j rs) (x : FieldAnswers) (r : Request) :
    Keeps j rs (field j x r) s fun fid _ => j.field r = some fid := by
  refine (type_keeps h x.type r.owner).bind fun ref s₁ h₁ _ hcls => ?_
  refine (findField_keeps h₁ x ref.cls r).bind fun result s₂ h₂ _ hresult => ?_
  refine (check_keeps h₂).bind fun _ s₃ h₃ _ _ => ?_
  cases result with
  | none => exact keeps_throw h₃ _
  | some fid =>
    refine keeps_pure h₃ ?_
    rw [Jvm.field, hcls]
    exact hresult fid rfl

/-- One lookup, of the methods of `rs`. -/
lemma run_keeps (hrs : Requests rs) (h : s.Sound j rs) {c : Call}
    (hc : ∀ r x, c = .method r x → r ∈ rs) :
    Keeps j rs (c.run j) s fun v _ => c.answer j = some v := by
  cases c with
  | type name x =>
    refine (type_keeps h x name).map fun ref _ hcls => ?_
    rw [Call.answer, hcls]
    rfl
  | method r x =>
    refine (method_keeps hrs h x (hc r x rfl)).map fun mid _ hmid => ?_
    rw [Call.answer, hmid]
    rfl
  | field r x =>
    refine (field_keeps h x r).map fun fid _ hfid => ?_
    rw [Call.answer, hfid]
    rfl

lemma runCalls_spec (hrs : Requests rs) {calls : List Call} (h : s.Sound j rs)
    (hcalls : ∀ c ∈ calls, ∀ r x, c = .method r x → r ∈ rs) :
    (runCalls j s calls).2.Sound j rs ∧
      ∀ (i : ℕ) (v : Value Class Mid Fid), (runCalls j s calls).1[i]? = some (.ok v) →
        ∃ c, calls[i]? = some c ∧ c.answer j = some v := by
  induction calls generalizing s with
  | nil => exact ⟨h, fun i v hv => by simp [runCalls] at hv⟩
  | cons c cs ih =>
    have hkeeps := run_keeps hrs h (hcalls c List.mem_cons_self)
    have hinv := hkeeps.inv
    rw [runCalls]
    cases hrun : c.run j s with
    | ok v s' =>
      rw [hrun] at hinv
      obtain ⟨hsound, hrest⟩ := ih hinv fun c hc => hcalls c (List.mem_cons_of_mem _ hc)
      refine ⟨hsound, fun i w hw => ?_⟩
      cases i with
      | zero =>
        cases hw
        exact ⟨c, rfl, hkeeps.returns v s' hrun⟩
      | succ i => exact hrest i w hw
    | error e s' =>
      rw [hrun] at hinv
      refine ⟨hinv, fun i w hw => ?_⟩
      cases i with
      | zero => cases hw
      | succ i => simp at hw

/-! ## Without failures -/

/-- No call fails. -/
def TypeAnswers.whole (x : TypeAnswers) : Bool := x.loadClass && x.newGlobalRef

def MethodAnswers.whole (x : MethodAnswers) : Bool :=
  x.type.whole && x.getMethodId && x.findClass && x.getMappedId

def FieldAnswers.whole (x : FieldAnswers) : Bool :=
  x.type.whole && x.getFieldId && x.errorType.whole && x.getMappedId

def Call.whole : Call → Bool
  | .type _ x => x.whole
  | .method _ x => x.whole
  | .field _ x => x.whole

lemma map_ok {α β : Type} {x : SnapshotM Class Mid α} {f : α → β} {a : α}
    {s' : Caches Class Mid} (h : x s = .ok a s') : (f <$> x) s = .ok (f a) s' := by
  show EStateM.map f x s = _
  rw [EStateM.map, h]

lemma check_ok (hpending : s.pending = false) : check s = .ok () s := by
  rw [check_run, hpending]
  rfl

lemma type_whole (h : s.Sound j rs) (hpending : s.pending = false) {x : TypeAnswers}
    (hx : x.whole = true) {name : JavaName} {cls : Class} (hcls : j.loadClass name = some cls) :
    ∃ ref s', type j x name s = .ok ref s' ∧ ref.cls = cls ∧ s'.pending = false := by
  obtain ⟨hload, hglobal⟩ := Bool.and_eq_true_iff.mp hx
  rw [type_run]
  cases hlookup : s.classes.lookup name with
  | some ref =>
    have href : j.loadClass name = some ref.cls := h.classes.of_lookup hlookup
    exact ⟨ref, s, rfl, Option.some.inj (href.symm.trans hcls), hpending⟩
  | none =>
    exact ⟨⟨s.created.length, cls⟩, s.learn name cls, by simp [hpending, hload, hglobal, hcls], rfl,
      hpending⟩

lemma findMappedMethod_whole (hpending : s.pending = false) {x : MethodAnswers}
    (hx : x.whole = true) {cls : Class} {r : Request} {mid : Mid}
    (hmid : (j.methodId cls r.isStatic r.name r.desc).or
      (j.methodId cls r.isStatic r.mapped r.desc) = some mid) :
    FindMappedMethod j x cls r s = .ok (some mid) s := by
  simp only [MethodAnswers.whole, Bool.and_eq_true] at hx
  obtain ⟨⟨⟨-, hget⟩, hclass⟩, hmapped⟩ := hx
  refine (bind_of_ok (get_run s)).trans ?_
  rw [hpending, hget, hclass, hmapped]
  cases hname : j.methodId cls r.isStatic r.name r.desc with
  | some mid' =>
    rw [hname, Option.some_or] at hmid
    cases hmid
    rfl
  | none =>
    rw [hname, Option.none_or] at hmid
    rw [hmid]
    rfl

lemma method_whole (h : s.Sound j rs) (hpending : s.pending = false) {x : MethodAnswers}
    (hx : x.whole = true) {r : Request} (hr : r ∈ rs) {mid : Mid} (hmid : j.method r = some mid) :
    ∃ s', method j x r s = .ok mid s' ∧ s'.pending = false := by
  have hget : method j x r s = _ := bind_of_ok (get_run s)
  rw [hget]
  cases hlookup : s.methods.lookup r.key with
  | some mid' =>
    cases (h.methods.of_lookup hlookup r hr rfl).symm.trans hmid
    exact ⟨s, rfl, hpending⟩
  | none =>
    have htype : x.type.whole = true := by
      simp only [MethodAnswers.whole, Bool.and_eq_true] at hx
      exact hx.1.1.1
    obtain ⟨cls, hcls, hfound⟩ := Option.bind_eq_some_iff.mp hmid
    obtain ⟨ref, s₁, href, rfl, hpending₁⟩ := type_whole h hpending htype hcls
    refine ⟨{ s₁ with methods := emplace s₁.methods r.key mid }, ?_, hpending₁⟩
    refine (bind_of_ok href).trans ?_
    refine (bind_of_ok (findMappedMethod_whole hpending₁ hx hfound)).trans ?_
    exact bind_of_ok (check_ok hpending₁)

lemma field_whole (h : s.Sound j rs) (hpending : s.pending = false) {x : FieldAnswers}
    (hx : x.whole = true) {r : Request} {error : Class}
    (herror : j.loadClass "java.lang.NoSuchFieldError".toList = some error) {fid : Fid}
    (hfid : j.field r = some fid) :
    ∃ s', field j x r s = .ok fid s' ∧ s'.pending = false := by
  simp only [FieldAnswers.whole, Bool.and_eq_true] at hx
  obtain ⟨⟨⟨htype, hget⟩, herrorType⟩, hmapped⟩ := hx
  obtain ⟨cls, hcls, hfound⟩ := Option.bind_eq_some_iff.mp hfid
  obtain ⟨ref, s₁, href, rfl, hpending₁⟩ := type_whole h hpending htype hcls
  have h₁ : s₁.Sound j rs := by
    have hinv := (type_keeps h x.type r.owner).inv
    rwa [href] at hinv
  have hfind : ∃ s₂, findField j x ref.cls r s₁ = .ok (some fid) s₂ ∧ s₂.pending = false := by
    rw [findField, hget]
    cases hname : j.fieldId ref.cls r.name r.desc with
    | some fid' =>
      rw [hname, Option.some_or] at hfound
      cases hfound
      exact ⟨s₁, rfl, hpending₁⟩
    | none =>
      rw [hname, Option.none_or] at hfound
      obtain ⟨ref', s₂, href', -, hpending₂⟩ := type_whole h₁ hpending₁ herrorType herror
      refine ⟨s₂, (bind_of_ok href').trans ?_, hpending₂⟩
      rw [hmapped, hfound]
      rfl
  obtain ⟨s₂, hfind, hpending₂⟩ := hfind
  refine ⟨s₂, ?_, hpending₂⟩
  refine (bind_of_ok href).trans ((bind_of_ok hfind).trans ?_)
  exact bind_of_ok (check_ok hpending₂)

lemma run_whole (h : s.Sound j rs) (hpending : s.pending = false) {c : Call}
    (hwhole : c.whole = true) (hc : ∀ r x, c = .method r x → r ∈ rs) {error : Class}
    (herror : j.loadClass "java.lang.NoSuchFieldError".toList = some error)
    {v : Value Class Mid Fid} (hv : c.answer j = some v) :
    ∃ s', c.run j s = .ok v s' ∧ s'.pending = false := by
  cases c with
  | type name x =>
    obtain ⟨cls, hcls, rfl⟩ := Option.map_eq_some_iff.mp hv
    obtain ⟨ref, s', hrun, rfl, hpending'⟩ := type_whole h hpending hwhole hcls
    exact ⟨s', map_ok hrun, hpending'⟩
  | method r x =>
    obtain ⟨mid, hmid, rfl⟩ := Option.map_eq_some_iff.mp hv
    obtain ⟨s', hrun, hpending'⟩ := method_whole h hpending hwhole (hc r x rfl) hmid
    exact ⟨s', map_ok hrun, hpending'⟩
  | field r x =>
    obtain ⟨fid, hfid, rfl⟩ := Option.map_eq_some_iff.mp hv
    obtain ⟨s', hrun, hpending'⟩ := field_whole h hpending hwhole herror hfid
    exact ⟨s', map_ok hrun, hpending'⟩

/-! ## Results -/

lemma mem_methodsOf {calls : List Call} {c : Call} (hc : c ∈ calls) {r : Request}
    {x : MethodAnswers} (heq : c = .method r x) : r ∈ methodsOf calls :=
  List.mem_filterMap.mpr ⟨c, hc, by rw [heq]⟩

/-- Whatever fails, a lookup that returns gives what the JVM finds, be it remembered or not. -/
theorem runCalls_correct {calls : List Call} (hcalls : Requests (methodsOf calls)) {i : ℕ}
    {v : Value Class Mid Fid} (hv : (runCalls j {} calls).1[i]? = some (.ok v)) :
    ∃ c, calls[i]? = some c ∧ c.answer j = some v :=
  (runCalls_spec hcalls sound_start fun _ hc _ _ heq => mem_methodsOf hc heq).2 i v hv

/-- Whatever fails, and whether or not a lookup has thrown, the destructor releases every reference
that has been made, and no reference twice. -/
theorem runCalls_released {calls : List Call} (hcalls : Requests (methodsOf calls)) :
    (runCalls j {} calls).2.released = (runCalls j {} calls).2.created ∧
      (runCalls j {} calls).2.released.Nodup := by
  obtain ⟨hsound, -⟩ :=
    runCalls_spec (j := j) hcalls sound_start fun _ hc _ _ heq => mem_methodsOf hc heq
  refine ⟨hsound.created, ?_⟩
  rw [hsound.created]
  exact hsound.nodup

lemma runCalls_whole (hrs : Requests rs) {error : Class}
    (herror : j.loadClass "java.lang.NoSuchFieldError".toList = some error) {calls : List Call}
    (h : s.Sound j rs) (hpending : s.pending = false)
    (hcalls : ∀ c ∈ calls, ∀ r x, c = .method r x → r ∈ rs)
    (hwhole : ∀ c ∈ calls, c.whole = true) (hfound : ∀ c ∈ calls, ∃ v, c.answer j = some v) :
    List.Forall₂ (fun c result => ∃ v, c.answer j = some v ∧ result = .ok v) calls
      (runCalls j s calls).1 := by
  induction calls generalizing s with
  | nil => exact .nil
  | cons c cs ih =>
    have hc := hcalls c List.mem_cons_self
    obtain ⟨v, hv⟩ := hfound c List.mem_cons_self
    obtain ⟨s', hrun, hpending'⟩ :=
      run_whole h hpending (hwhole c List.mem_cons_self) hc herror hv
    have hinv := (run_keeps hrs h hc).inv
    rw [hrun] at hinv
    rw [runCalls, hrun]
    exact .cons ⟨v, hv, rfl⟩ (ih hinv hpending' (fun c hc => hcalls c (List.mem_cons_of_mem _ hc))
      (fun c hc => hwhole c (List.mem_cons_of_mem _ hc))
      fun c hc => hfound c (List.mem_cons_of_mem _ hc))

/-- When no call fails and the JVM has what is looked up, every lookup returns it. -/
theorem runCalls_complete {calls : List Call} (hcalls : Requests (methodsOf calls)) {error : Class}
    (herror : j.loadClass "java.lang.NoSuchFieldError".toList = some error)
    (hwhole : ∀ c ∈ calls, c.whole = true) (hfound : ∀ c ∈ calls, ∃ v, c.answer j = some v) :
    List.Forall₂ (fun c result => ∃ v, c.answer j = some v ∧ result = .ok v) calls
      (runCalls j {} calls).1 :=
  runCalls_whole hcalls herror sound_start rfl (fun _ hc _ _ heq => mem_methodsOf hc heq) hwhole
    hfound

end Capture

/-! ## A JVM with the names of Forge -/

/-- Every class is there, and a member has the name that Forge gives it. -/
def forgeJvm : Jvm JavaName JavaName JavaName where
  loadClass name := some name
  methodId cls _ name _ := if name.head? = some 'm' then some (cls ++ name) else none
  fieldId cls name _ := if name.head? = some 'f' then some (cls ++ name) else none

/-- `getId` of an entity. -/
def getId : Request where
  owner := "net.minecraft.world.entity.Entity".toList
  name := "getId".toList
  mapped := "m_19879_".toList
  desc := "()I".toList

/-- `level` of the client. -/
def levelField : Request where
  owner := "net.minecraft.client.Minecraft".toList
  name := "level".toList
  mapped := "f_91073_".toList
  desc := "Lnet/minecraft/client/multiplayer/ClientLevel;".toList

/-- The id of two entities, and the level. -/
def sampleCalls (x : MethodAnswers) : List Call :=
  [.method getId x, .method getId {}, .field levelField {}]

lemma sampleCalls_requests (x : MethodAnswers) : Requests (methodsOf (sampleCalls x)) := by
  have hall : ∀ r ∈ methodsOf (sampleCalls x), r = getId := by
    intro r hr
    simpa [methodsOf, sampleCalls] using hr
  refine ⟨fun r hr => ?_, fun r hr r' hr' _ _ _ _ => ?_⟩
  · rw [hall r hr]
    exact ⟨by decide, by decide, ⟨_, rfl, by decide⟩⟩
  · rw [hall r hr, hall r' hr']

lemma sampleCalls_found (x : MethodAnswers) (c : Call) (hc : c ∈ sampleCalls x) :
    ∃ v, c.answer forgeJvm = some v := by
  rcases hc with _ | ⟨_, _ | ⟨_, _ | ⟨_, hc⟩⟩⟩
  · exact ⟨_, rfl⟩
  · exact ⟨_, rfl⟩
  · exact ⟨_, rfl⟩
  · cases hc

/-- The second lookup is remembered. -/
theorem runCalls_correct_sample : ∃ c, (sampleCalls {})[1]? = some c ∧
    c.answer forgeJvm = some (.mid "net.minecraft.world.entity.Entitym_19879_".toList) := by
  have hv : (runCalls forgeJvm {} (sampleCalls {})).1[1]? =
      some (.ok (.mid "net.minecraft.world.entity.Entitym_19879_".toList)) := by rfl
  exact runCalls_correct (sampleCalls_requests {}) hv

/-- There is no memory for the method id, after the class has been found. -/
theorem runCalls_released_sample :
    (runCalls forgeJvm {} (sampleCalls { getMethodId := false })).2.released =
      (runCalls forgeJvm {} (sampleCalls { getMethodId := false })).2.created :=
  (runCalls_released (sampleCalls_requests _)).1

theorem runCalls_complete_sample : List.Forall₂
    (fun c result => ∃ v, c.answer forgeJvm = some v ∧ result = .ok v) (sampleCalls {})
      (runCalls forgeJvm {} (sampleCalls {})).1 := by
  have hwhole : ∀ c ∈ sampleCalls {}, c.whole = true := by
    rintro c (_ | ⟨_, _ | ⟨_, _ | ⟨_, hc⟩⟩⟩)
    · rfl
    · rfl
    · rfl
    · cases hc
  exact runCalls_complete (sampleCalls_requests {}) rfl hwhole (sampleCalls_found {})

end SnapshotJni
end Server
end SakuraTools
