import SakuraTools.ClassFile.Lookup
import SakuraTools.Lib.Index

/-!
# The class file builder

The model of `native/classfile.cpp`: a class file that is put together call by call.  A
constant is added to the end of the pool, at the index after the last one, and is found again
through the maps of the builder.  The editor reads from the bytes of `build` what the calls asked
for.
-/

namespace SakuraTools
namespace ClassFile

def ACC_PUBLIC : UInt16 := 0x0001
def ACC_SUPER : UInt16 := 0x0020
def ACC_NATIVE : UInt16 := 0x0100

/-- `ClassBuilder::RawEntry` -/
structure RawEntry where
  tag : UInt8
  body : Bytes
deriving DecidableEq, Repr

/-- `ClassBuilder::MethodInfo` -/
structure BuilderMethod where
  accessFlags : UInt16
  nameIndex : UInt16
  descriptorIndex : UInt16
  codeAttr : Bytes := []
deriving DecidableEq, Repr

/-- The state of a `ClassBuilder`.  A `std::map` is the list of its entries,
with `emplace` as its insertion. -/
structure Builder where
  thisInternal : Bytes
  superInternal : Bytes
  majorVersion : UInt16
  accessFlags : UInt16 := ACC_PUBLIC ||| ACC_SUPER
  cp : List RawEntry := []
  utf8Index : List (Bytes × UInt16) := []
  classIndex : List (UInt16 × UInt16) := []
  natIndex : List (UInt64 × UInt16) := []
  refIndex : List (UInt64 × UInt16) := []
  methods : List BuilderMethod := []
  codeUtf8 : UInt16 := 0
deriving DecidableEq, Repr

/-- The key of `nat_index_`. -/
def natKey (nameIdx descIdx : UInt16) : UInt64 := nameIdx.toUInt64 <<< 16 ||| descIdx.toUInt64

/-- `make_ref_key` -/
def makeRefKey (tag : UInt8) (clsIdx natIdx : UInt16) : UInt64 :=
  tag.toUInt64 <<< 40 ||| clsIdx.toUInt64 <<< 16 ||| natIdx.toUInt64

namespace Builder

/-- `ClassBuilder::ClassBuilder` -/
def new (thisInternal superInternal : Bytes) (majorVersion : UInt16 := 52) : Builder where
  thisInternal := thisInternal
  superInternal := superInternal
  majorVersion := majorVersion

/-! ## Constants -/

/-- `ClassBuilder::addEntry` -/
def addEntry (b : Builder) (tag : UInt8) (body : Bytes) : Except Fault (UInt16 × Builder) :=
  let cp := b.cp ++ [⟨tag, body⟩]
  if cp.length > 0xFFFE then .error (.thrown "classfile: constant pool overflow")
  else .ok (UInt16.ofNat cp.length, { b with cp := cp })

/-- `ClassBuilder::findUtf8`, where 0 stands for not found. -/
def findUtf8 (b : Builder) (s : Bytes) : UInt16 := (b.utf8Index.lookup s).getD 0

/-- `ClassBuilder::utf8` -/
def utf8 (b : Builder) (s : Bytes) : Except Fault (UInt16 × Builder) :=
  if b.findUtf8 s ≠ 0 then .ok (b.findUtf8 s, b)
  else if s.length > 0xFFFF then .error (.thrown "classfile: utf8 too long")
  else do
    let (idx, b) ← b.addEntry CP_Utf8 (wr16 (UInt16.ofNat s.length) ++ s)
    pure (idx, { b with utf8Index := emplace b.utf8Index s idx })

/-- The common end of `classRef`, `nameAndType`, `methodRef` and `fieldRef`: the index under the
key, or that of a new entry, which is put under the key. -/
def intern {K : Type} [BEq K] (b : Builder) (index : List (K × UInt16)) (key : K) (tag : UInt8)
    (body : Bytes) : Except Fault (UInt16 × List (K × UInt16) × Builder) :=
  match index.lookup key with
  | some idx => .ok (idx, index, b)
  | none => do
    let (idx, b) ← b.addEntry tag body
    pure (idx, emplace index key idx, b)

/-- `ClassBuilder::classRef` -/
def classRef (b : Builder) (internalName : Bytes) : Except Fault (UInt16 × Builder) := do
  let (nameIdx, b) ← b.utf8 internalName
  let (idx, index, b) ← b.intern b.classIndex nameIdx CP_Class (wr16 nameIdx)
  pure (idx, { b with classIndex := index })

/-- `ClassBuilder::nameAndType` -/
def nameAndType (b : Builder) (name desc : Bytes) : Except Fault (UInt16 × Builder) := do
  let (nameIdx, b) ← b.utf8 name
  let (descIdx, b) ← b.utf8 desc
  let (idx, index, b) ← b.intern b.natIndex (natKey nameIdx descIdx) CP_NameAndType
    (wr16 nameIdx ++ wr16 descIdx)
  pure (idx, { b with natIndex := index })

/-- The common body of `methodRef` and `fieldRef`. -/
def ref (b : Builder) (tag : UInt8) (klass name desc : Bytes) :
    Except Fault (UInt16 × Builder) := do
  let (clsIdx, b) ← b.classRef klass
  let (natIdx, b) ← b.nameAndType name desc
  let (idx, index, b) ← b.intern b.refIndex (makeRefKey tag clsIdx natIdx) tag
    (wr16 clsIdx ++ wr16 natIdx)
  pure (idx, { b with refIndex := index })

/-- `ClassBuilder::methodRef` -/
def methodRef (b : Builder) (klass name desc : Bytes) : Except Fault (UInt16 × Builder) :=
  b.ref CP_Methodref klass name desc

/-- `ClassBuilder::fieldRef` -/
def fieldRef (b : Builder) (klass name desc : Bytes) : Except Fault (UInt16 × Builder) :=
  b.ref CP_Fieldref klass name desc

/-- `ClassBuilder::stringRef`, which adds an entry each time. -/
def stringRef (b : Builder) (s : Bytes) : Except Fault (UInt16 × Builder) := do
  let (sIdx, b) ← b.utf8 s
  b.addEntry CP_String (wr16 sIdx)

/-! ## Methods -/

/-- `ClassBuilder::addNativeMethod` -/
def addNativeMethod (b : Builder) (name descriptor : Bytes) (accessFlags : UInt16) :
    Except Fault Builder := do
  let (nameIndex, b) ← b.utf8 name
  let (descriptorIndex, b) ← b.utf8 descriptor
  pure { b with
    methods := b.methods ++ [⟨accessFlags ||| ACC_NATIVE, nameIndex, descriptorIndex, []⟩] }

/-- The name "Code", which is added for the first method with code. -/
def codeName (b : Builder) : Except Fault Builder :=
  if b.codeUtf8 = 0 then do
    let (idx, b) ← b.utf8 (ascii "Code")
    pure { b with codeUtf8 := idx }
  else .ok b

/-- `ClassBuilder::addCodedMethod` -/
def addCodedMethod (b : Builder) (name descriptor : Bytes) (accessFlags : UInt16) (code : Bytes)
    (maxStack maxLocals : UInt16) : Except Fault Builder := do
  let b ← b.codeName
  let attrBody := wr16 maxStack ++ wr16 maxLocals ++ wr32 (UInt32.ofNat code.length) ++ code ++
    wr16 0 ++ wr16 0
  let attr := wr16 b.codeUtf8 ++ wr32 (UInt32.ofNat attrBody.length) ++ attrBody
  let (nameIndex, b) ← b.utf8 name
  let (descriptorIndex, b) ← b.utf8 descriptor
  pure { b with methods := b.methods ++ [⟨accessFlags, nameIndex, descriptorIndex, attr⟩] }

/-- `ClassBuilder::setAccessFlags` -/
def setAccessFlags (b : Builder) (flags : UInt16) : Builder := { b with accessFlags := flags }

end Builder

/-! ## Output -/

/-- A constant of the output. -/
def RawEntry.write (e : RawEntry) : Bytes := e.tag :: e.body

/-- A method of the output. -/
def BuilderMethod.write (m : BuilderMethod) : Bytes :=
  wr16 m.accessFlags ++ wr16 m.nameIndex ++ wr16 m.descriptorIndex ++
    if m.codeAttr.isEmpty then wr16 0 else wr16 1 ++ m.codeAttr

/-- What `build` writes, once it has the indices of the two classes.  The helpers `be16` and
`be32` write what `wr16` and `wr32` do. -/
def Builder.write (b : Builder) (thisClass superClass : UInt16) : Bytes :=
  wr32 0xCAFEBABE ++ wr16 0 ++ wr16 b.majorVersion ++
  wr16 (UInt16.ofNat (b.cp.length + 1)) ++ b.cp.flatMap RawEntry.write ++
  wr16 b.accessFlags ++ wr16 thisClass ++ wr16 superClass ++ wr16 0 ++ wr16 0 ++
  wr16 (UInt16.ofNat b.methods.length) ++ b.methods.flatMap BuilderMethod.write ++ wr16 0

/-- `ClassBuilder::build` -/
def Builder.build (b : Builder) : Except Fault (Bytes × Builder) := do
  let (thisClass, b) ← b.classRef b.thisInternal
  let (superClass, b) ← b.classRef b.superInternal
  pure (b.write thisClass superClass, b)

/-- A call of the builder. -/
inductive Call where
  | utf8 (s : Bytes)
  | classRef (internalName : Bytes)
  | nameAndType (name desc : Bytes)
  | methodRef (klass name desc : Bytes)
  | fieldRef (klass name desc : Bytes)
  | stringRef (s : Bytes)
  | addNativeMethod (name descriptor : Bytes) (accessFlags : UInt16)
  | addCodedMethod (name descriptor : Bytes) (accessFlags : UInt16) (code : Bytes)
      (maxStack maxLocals : UInt16)
  | setAccessFlags (flags : UInt16)

/-- The index that a call returns, if it returns one, and the builder after it. -/
def Call.run (b : Builder) : Call → Except Fault (Option UInt16 × Builder)
  | .utf8 s => (b.utf8 s).map fun r => (some r.1, r.2)
  | .classRef internalName => (b.classRef internalName).map fun r => (some r.1, r.2)
  | .nameAndType name desc => (b.nameAndType name desc).map fun r => (some r.1, r.2)
  | .methodRef klass name desc => (b.methodRef klass name desc).map fun r => (some r.1, r.2)
  | .fieldRef klass name desc => (b.fieldRef klass name desc).map fun r => (some r.1, r.2)
  | .stringRef s => (b.stringRef s).map fun r => (some r.1, r.2)
  | .addNativeMethod name descriptor accessFlags =>
    (b.addNativeMethod name descriptor accessFlags).map fun b => (none, b)
  | .addCodedMethod name descriptor accessFlags code maxStack maxLocals =>
    (b.addCodedMethod name descriptor accessFlags code maxStack maxLocals).map fun b => (none, b)
  | .setAccessFlags flags => .ok (none, b.setAccessFlags flags)

/-- A sequence of calls, with the indices that they return. -/
def runCalls (b : Builder) : List Call → Except Fault (List (Option UInt16) × Builder)
  | [] => .ok ([], b)
  | call :: calls => do
    let (idx, b) ← call.run b
    let (idxs, b) ← runCalls b calls
    pure (idx :: idxs, b)

end ClassFile
end SakuraTools
