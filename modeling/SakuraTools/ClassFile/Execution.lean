import SakuraTools.Lib.Machine
import SakuraTools.ClassFile.AddConstants
import SakuraTools.ClassFile.Bytecode
import SakuraTools.ClassFile.Prepend

/-!
# Running the code of a method

The program that the JVM runs for a Code attribute: its instructions at their offsets, and the
handlers of its exception table.  Only the instructions that the hook inserts are described here.
What the others do is left to the JVM, as is what a called method does.
-/

namespace SakuraTools
namespace ClassFile

open Machine Interning

/-! ## Instructions and their places -/

namespace Instr

/-- The offsets at which an instruction can go on, other than behind it. -/
def targets : Instr → List ℤ
  | branch _ target => [target]
  | branchWide _ target => [target]
  | tableswitch default _ _ targets => default :: targets
  | lookupswitch default pairs => default :: pairs.map Prod.snd
  | plain _ _ => []
  | wide _ _ => []

/-- The constant that an instruction names. -/
def constant : Instr → Option UInt16
  | plain op [a] => if op = 18 then some a.toUInt16 else none
  | plain op (a :: b :: _) =>
    if op = 19 ∨ op = 20 ∨ (178 ≤ op ∧ op ≤ 187) ∨ op = 189 ∨ op = 192 ∨ op = 193 ∨ op = 197 then
      some (be16 a b)
    else none
  | _ => none

end Instr

namespace CodeBody

end CodeBody

/-! ## Method descriptors -/

/-- What follows the type at the start of a descriptor. -/
def skipType : Bytes → Option Bytes
  | [] => none
  | b :: s =>
    if b = 91 then skipType s
    else if b = 76 then
      match s.dropWhile (· ≠ 59) with
      | [] => none
      | _ :: r => some r
    else if b ∈ ascii "BCDFIJSZ" then some s
    else none

/-- The number of types in front of the closing parenthesis, and whether a value is returned. -/
def readParams : ℕ → Bytes → Option (ℕ × Bool)
  | 0, _ => none
  | _ + 1, [] => none
  | fuel + 1, b :: s =>
    if b = 41 then some (0, s ≠ ascii "V")
    else do
      let r ← skipType (b :: s)
      let (n, value) ← readParams fuel r
      pure (n + 1, value)

/-- The number of arguments that a method takes, and whether it returns a value. -/
def readDescriptor : Bytes → Option (ℕ × Bool)
  | [] => none
  | b :: s => if b = 40 then readParams s.length s else none

example : readDescriptor (ascii "(Lio/netty/channel/ChannelHandlerContext;[[JI)V") =
    some (3, false) := by decide

/-! ## The machine -/

/-- What a running method has: its local variables, its operands, the top one first, and the rest
of the machine.  A value of two slots is one operand. -/
structure Activation (V H : Type) where
  locals : List V
  stack : List V
  heap : H

/-- How a call ends.  The value that a `void` method returns means nothing. -/
inductive CallResult (V H E : Type) where
  | returned (value : V) (heap : H)
  | threw (e : E) (heap : H)

/-- The part of the JVM that is not described here. -/
structure Jvm (V H E : Type) where
  /-- The static method of the class, with the name and the descriptor, is resolved and called. -/
  invokestatic : (klass name desc : Bytes) → List V → H → CallResult V H E → Prop
  /-- What the other instructions do, in a class with the constant pool. -/
  other : List CpEntry → Instr → Activation V H → Effect (Activation V H) E → Prop
  /-- Whether the exception belongs to the class of the constant. -/
  isInstance : List CpEntry → UInt16 → E → Bool
  reference : E → V
  /-- The constants refer to constants of the pool, as the JVM wants it. -/
  accepts : List CpEntry → Prop
  linked : ∀ cp, accepts cp → Linked (table cp)
  other_append : ∀ cp new i, accepts cp → (∀ k ∈ i.constant, k.toNat < cp.length) →
    ∀ a r, other (cp ++ new) i a r ↔ other cp i a r
  isInstance_append : ∀ cp new (k : UInt16) e, accepts cp → k.toNat < cp.length →
    isInstance (cp ++ new) k e = isInstance cp k e

namespace Jvm

variable {V H E : Type}

/-- Whether the instruction is `aload_0` to `aload_3`, or an `invokestatic` of a method that is
not declared by an interface. -/
def describes (cp : List CpEntry) : Instr → Bool
  | .plain op [] => 42 ≤ op && op ≤ 45
  | .plain op [x, y] => op == 184 && (cp[(be16 x y).toNat]?).any fun e => e.tag == CP_Methodref
  | _ => false

/-- The activation when the call of a method with the descriptor has ended. -/
def afterCall (value : Bool) (a : Activation V H) (rest : List V) :
    CallResult V H E → Effect (Activation V H) E
  | .returned v heap => .next { a with stack := if value then v :: rest else rest, heap := heap }
  | .threw e heap => .throw e { a with stack := rest, heap := heap }

/-- What an instruction does. -/
inductive Does (J : Jvm V H E) (cp : List CpEntry) :
    Instr → Activation V H → Effect (Activation V H) E → Prop
  | aload {op : UInt8} {a : Activation V H} {v : V} (hop : 42 ≤ op ∧ op ≤ 45)
      (hv : a.locals[op.toNat - 42]? = some v) :
      Does J cp (.plain op []) a (.next { a with stack := v :: a.stack })
  | invokestatic {x y : UInt8} {a : Activation V H} {klass name desc : Bytes} {n : ℕ}
      {value : Bool} {args rest : List V} {r : CallResult V H E}
      (href : RefAt CP_Methodref cp (be16 x y) klass name desc)
      (hdesc : readDescriptor desc = some (n, value)) (hn : args.length = n)
      (hstack : a.stack = args.reverse ++ rest)
      (hcall : J.invokestatic klass name desc args a.heap r) :
      Does J cp (.plain 184 [x, y]) a (afterCall value a rest r)
  | other {i : Instr} {a : Activation V H} {r : Effect (Activation V H) E}
      (hi : describes cp i = false) (h : J.other cp i a r) : Does J cp i a r

variable {J : Jvm V H E} {cp : List CpEntry}

end Jvm

/-! ## Code behind an insertion -/

section Prepended

variable {V H E : Type} {J : Jvm V H E} {pool : List Constant} {insertion : Bytes}
  {extraStack : UInt16} {cp : List CpEntry} {c c' : CodeBody} {is pre : List Instr}

end Prepended

/-! ## The call of a hook -/

/-- `aload_0; aload_1; invokestatic`, with a reference to a method. -/
def hookInsertion (mref : UInt16) : Bytes := [0x2A, 0x2B, 0xB8] ++ wr16 mref

section Steps

variable {V H E : Type} {J : Jvm V H E} {cp : List CpEntry} {p : Program Instr UInt16 ℤ}
  {pc next : ℤ} {a : Activation V H} {k : Control (Activation V H) E ℤ}

end Steps

section Hooked

variable {V H E : Type} {J : Jvm V H E} {pool new : List Constant} {cp : List CpEntry}
  {mref extraStack : UInt16} {klass name desc : Bytes} {c c' : CodeBody} {is : List Instr}
  {this ctx : V} {locals : List V}

/-- The activation of a method that gets its first two locals, and has no operands yet. -/
def entered (this ctx : V) (locals : List V) (h : H) : Activation V H :=
  ⟨this :: ctx :: locals, [], h⟩

end Hooked

end ClassFile
end SakuraTools
