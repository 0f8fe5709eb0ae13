import SakuraTools.ClassFile.Additions
import SakuraTools.ClassFile.Execution

/-!
# The hook on the connection class

`ClassFileLoadHookCallback` of `native/connection_hook.cpp`: it gives the JVM new bytes for
`net.minecraft.network.Connection`, in which `channelActive` first calls the hook's class.
-/

namespace SakuraTools
namespace ClassFile

open Machine Interning

def kConnectionInternal : Bytes := ascii "net/minecraft/network/Connection"
def kChannelActiveName : Bytes := ascii "channelActive"
def kChannelActiveDesc : Bytes := ascii "(Lio/netty/channel/ChannelHandlerContext;)V"

/-- The name and the descriptor of the method that is called. -/
def onChannelActive : Bytes := ascii "onChannelActive"
def onChannelActiveDesc : Bytes := ascii "(Ljava/lang/Object;Ljava/lang/Object;)V"

/-- What the callback does with the class, inside its `try`. -/
def patchConnection (internalName data : Bytes) : Except Fault (Option Bytes) := do
  let ed ← parse data
  let (mref, ed) ← ed.addMethodRef internalName onChannelActive onChannelActiveDesc
  let (ok, ed) ← ed.prependToMethodCode kChannelActiveName kChannelActiveDesc (hookInsertion mref) 2
  if ok then
    let patched ← ed.serialize
    pure (some patched)
  else pure none

/-- The new bytes that `ClassFileLoadHookCallback` gives to the JVM, if any.  `entered` says whether
the runtime lets the callback in, `hook` is the name of the hook's class once this is installed, and
`allocates` says for which sizes the JVM has memory. -/
def ClassFileLoadHookCallback (entered : Bool) (hook : Option Bytes) (allocates : ℕ → Bool)
    (name : Option Bytes) (data : Bytes) : Except Fault (Option Bytes) :=
  if entered = false ∨ name ≠ some kConnectionInternal then .ok none
  else
    match hook with
    | none => .ok none
    | some internalName =>
      match patchConnection internalName data with
      | .ok (some patched) => .ok (if allocates patched.length then some patched else none)
      | .ok none => .ok none
      -- a `std::exception` is caught and logged
      | .error (.thrown _) => .ok none
      | .error e => .error e

/-! ## A class file with a larger pool -/

/-- Only the names of its tables matter for a Code attribute. -/
lemma CodeBody.Legal.congr {cp cp' : List CpEntry} {c : CodeBody} (h : c.Legal cp)
    (hnames : ∀ a ∈ c.attributes, a.1.toNat < cp'.length ∧
      cpUtf8Value cp' a.1 = cpUtf8Value cp a.1) : c.Legal cp' where
  toFits := h.toFits
  code_pos := h.code_pos
  code_le := h.code_le
  exceptions := h.exceptions
  names_lt a ha := (hnames a ha).1
  tables a ha name hname := h.tables a ha name ((hnames a ha).2 ▸ hname)

lemma CodeBody.Legal.append {cp : List CpEntry} {c : CodeBody} (h : c.Legal cp)
    (new : List CpEntry) : c.Legal (cp ++ new) := by
  refine h.congr fun a ha => ?_
  have hlt := h.names_lt a ha
  exact ⟨by rw [List.length_append]; omega, cpUtf8Value_append hlt new⟩

lemma poolSlots_append (pool new : List Constant) :
    poolSlots (pool ++ new) = poolSlots pool ++ new.flatMap Constant.slots := by
  simp [poolSlots]

namespace Layout

variable {L : Layout} {new : List Constant}

/-- The class file with constants behind those that it has. -/
def addConstants (L : Layout) (new : List Constant)
    (hlt : (poolSlots (L.pool ++ new)).length < 65536) : Layout :=
  { L with
    pool := L.pool ++ new
    pool_lt := hlt
    this_lt := by
      have := L.this_lt
      rw [poolSlots_append, List.length_append]
      omega }

lemma length_encode_addConstants (hlt : (poolSlots (L.pool ++ new)).length < 65536) :
    (L.addConstants new hlt).encode.length =
      L.encode.length + (new.flatMap Constant.encode).length := by
  rw [length_encode, length_encode]
  simp only [addConstants, List.flatMap_append, List.length_append]
  have hfields : (L.addConstants new hlt).encodeFields = L.encodeFields := rfl
  simp only [addConstants] at hfields
  rw [hfields]
  omega

lemma Legal.addConstants (hL : L.Legal) (hlt : (poolSlots (L.pool ++ new)).length < 65536)
    (hsize : L.encode.length + (new.flatMap Constant.encode).length < 2147483648) :
    (L.addConstants new hlt).Legal where
  methods m hm := by
    change m.WellFormed (poolSlots (L.pool ++ new))
    rw [poolSlots_append]
    exact (hL.methods m hm).append _
  thisName := by
    change ThisNameInPool (poolSlots (L.pool ++ new)) L.thisClass
    rw [poolSlots_append]
    exact hL.thisName.append L.this_lt _
  code m hm a ha hname := by
    change cpUtf8Value (poolSlots (L.pool ++ new)) a.name = _ at hname
    rw [poolSlots_append, cpUtf8Value_append (hL.methods m hm a ha).1] at hname
    obtain ⟨c, hinfo, hc⟩ := hL.code m hm a ha hname
    refine ⟨c, hinfo, ?_⟩
    change c.Legal (poolSlots (L.pool ++ new))
    rw [poolSlots_append]
    exact hc.append _
  size_lt := by
    rw [length_encode_addConstants]
    exact hsize

end Layout

namespace Editor

/-- A string that is found is found where it was. -/
lemma findUtf8_append {ed : Editor} {pool new : List Constant} (hpool : ed.cp = poolSlots pool)
    (hlt : (poolSlots (pool ++ new)).length ≤ 65535) {s : Bytes} {i : UInt16}
    (hi : ed.findUtf8 s = .ok i) (h0 : i ≠ 0) :
    Editor.findUtf8 { ed with cp := ed.cp ++ new.flatMap Constant.slots } s = .ok i := by
  have hle : (poolSlots pool).length ≤ 65535 := by
    rw [poolSlots_append, List.length_append] at hlt
    omega
  have hgrow : table (poolSlots pool) <+: table (poolSlots (pool ++ new)) := by
    rw [poolSlots_append, table_append]
    exact List.prefix_append _ _
  rw [findUtf8, hpool, scan_place hle fun e => isUtf8_iff] at hi
  cases hplace : place (table (poolSlots pool)) (.leaf s) with
  | none =>
    rw [hplace] at hi
    exact absurd (Except.ok.inj hi).symm h0
  | some n =>
    rw [findUtf8, hpool]
    change (scan (poolSlots pool ++ _) _).map _ = _
    rw [← poolSlots_append, scan_place hlt fun e => isUtf8_iff, place_mono hgrow hplace]
    rw [hplace] at hi
    exact hi

lemma Selects.append {ed : Editor} {pool new : List Constant} (hpool : ed.cp = poolSlots pool)
    (hlt : (poolSlots (pool ++ new)).length ≤ 65535) {name desc : Bytes} {k : ℕ}
    (h : ed.Selects name desc k) :
    Editor.Selects { ed with cp := ed.cp ++ new.flatMap Constant.slots } name desc k := by
  obtain ⟨nameIdx, descIdx, hn, hname, hd, hdesc, hfind⟩ := h
  exact ⟨nameIdx, descIdx, hn, findUtf8_append hpool hlt hname hn, hd,
    findUtf8_append hpool hlt hdesc hd, hfind⟩

end Editor

/-! ## The hooked method -/

section Hookable

variable {V H E : Type} {J : Jvm V H E} {L : Layout} {ed : Editor} {internalName : Bytes} {k : ℕ}
  {c : CodeBody}

end Hookable

/-- A connection class with the sample method. -/
def connectionLayout : Layout :=
  { guardedLayout with
    pool := [Constant.utf8 kConnectionInternal (by decide), Constant.index 1,
      Constant.utf8 kChannelActiveName (by decide), Constant.utf8 kChannelActiveDesc (by decide)] ++
      guardedLayout.pool.drop 4
    pool_lt := by decide
    this_lt := by decide }

end ClassFile
end SakuraTools
