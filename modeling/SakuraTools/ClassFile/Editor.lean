import SakuraTools.ClassFile.Bytes

/-!
# The class file editor

The model of `native/class_edit.cpp`: parsing a class file, looking up and adding constants,
putting instructions in front of a method's code, and serialising the result.
-/

namespace SakuraTools
namespace ClassFile

/-- The bytes of an ASCII literal. -/
def ascii (s : String) : Bytes := s.toList.map fun c => UInt8.ofNat c.toNat

def CP_Utf8 : UInt8 := 1
def CP_Class : UInt8 := 7
def CP_String : UInt8 := 8
def CP_Fieldref : UInt8 := 9
def CP_Methodref : UInt8 := 10
def CP_InterfaceMethodref : UInt8 := 11
def CP_NameAndType : UInt8 := 12

/-- `ClassFileEditor::CpEntry` -/
structure CpEntry where
  tag : UInt8 := 0
  body : Bytes := []
  wide : Bool := false
deriving DecidableEq, Repr

/-- `ClassFileEditor::MethodInfo` -/
structure MethodInfo where
  accessFlags : UInt16
  nameIndex : UInt16
  descriptorIndex : UInt16
  attributesRaw : Bytes
deriving DecidableEq, Repr

/-- The state of a `ClassFileEditor`. -/
structure Editor where
  cp : List CpEntry
  magic : UInt32
  minorVersion : UInt16
  majorVersion : UInt16
  accessFlags : UInt16
  thisClass : UInt16
  superClass : UInt16
  thisName : Bytes
  interfaces : List UInt16
  fieldsRaw : Bytes
  methods : List MethodInfo
  classAttrsRaw : Bytes
deriving DecidableEq, Repr

/-! ## Parsing -/

/-- `ClassFileEditor::cpBodySize` -/
def cpBodySize (tag : UInt8) (p : Bytes) : Except Fault ℕ :=
  if tag = CP_Utf8 then
    match p with
    | a :: b :: _ => .ok (2 + (be16 a b).toNat)
    | _ => .error .outOfBounds
  else if tag = CP_Class ∨ tag = CP_String ∨ tag = 16 ∨ tag = 19 ∨ tag = 20 then .ok 2
  else if tag = CP_Fieldref ∨ tag = CP_Methodref ∨ tag = CP_InterfaceMethodref ∨
      tag = CP_NameAndType ∨ tag = 3 ∨ tag = 4 ∨ tag = 18 ∨ tag = 17 then .ok 4
  else if tag = 5 ∨ tag = 6 then .ok 8
  else if tag = 15 then .ok 3
  else .error (.thrown ("class_edit: unknown constant pool tag " ++ toString tag.toNat))

/-- One turn of the loop over the constant pool, up to the second slot of a wide entry. -/
def readEntry : Reader CpEntry := do
  let tag ← rd8
  let bodyLen ← (fun p => (cpBodySize tag p).map fun n => (n, p) : Reader ℕ)
  let body ← copyN bodyLen
  pure ⟨tag, body, tag == 5 || tag == 6⟩

/-- The loop `for (u2 i = 1; i < cpCount; ++i)` over the constant pool, from the index `i`.
Every turn consumes a byte, so the length of the input is enough fuel. -/
def readPool (cpCount : UInt16) : ℕ → UInt16 → Reader (List CpEntry)
  | 0, _ => Parser.fail .diverges
  | fuel + 1, i =>
    if i < cpCount then do
      let e ← readEntry
      if e.wide then
        let rest ← readPool cpCount fuel (i + 1 + 1)
        pure (e :: {} :: rest)
      else
        let rest ← readPool cpCount fuel (i + 1)
        pure (e :: rest)
    else pure []

/-- `ClassFileEditor::cpUtf8Value` -/
def cpUtf8Value (cp : List CpEntry) (idx : UInt16) : Except Fault Bytes :=
  if idx = 0 then .ok []
  else
    match cp[idx.toNat]? with
    | none => .ok []
    | some e =>
      if e.tag ≠ CP_Utf8 then .ok []
      else
        match e.body with
        | a :: b :: s =>
          if (be16 a b).toNat ≤ s.length then .ok (s.take (be16 a b).toNat)
          else .error .outOfBounds
        | _ => .ok []

/-- The name of the class that is parsed, `this_name_`. -/
def readThisName (cp : List CpEntry) (thisClass : UInt16) : Except Fault Bytes :=
  if thisClass = 0 then .ok []
  else
    match cp[thisClass.toNat]? with
    | none => .error .outOfBounds
    | some e =>
      if e.tag = CP_Class then
        match e.body with
        | a :: b :: _ => cpUtf8Value cp (be16 a b)
        | _ => .error .outOfBounds
      else .ok []

/-- Step over an attribute: its name, its length, its body. -/
def skipAttribute : Reader Unit := do
  let _ ← copyN 2
  let attrLen ← rd32
  let _ ← copyN attrLen.toNat
  pure ()

/-- Step over a counted attribute table. -/
def skipAttributes : Reader Unit := do
  let attrCount ← rd16
  let _ ← Parser.times skipAttribute attrCount.toNat
  pure ()

/-- Step over the fields. -/
def skipFields : Reader Unit := do
  let fieldCount ← rd16
  let _ ← Parser.times (do let _ ← copyN 6; skipAttributes) fieldCount.toNat
  pure ()

/-- One turn of the loop over the methods. -/
def readMethod : Reader MethodInfo := do
  let accessFlags ← rd16
  let nameIndex ← rd16
  let descriptorIndex ← rd16
  let attributesRaw ← skipAttributes.consumed
  pure ⟨accessFlags, nameIndex, descriptorIndex, attributesRaw⟩

/-- `ClassFileEditor::parse`, up to the bytes after the methods. -/
def readClass : Reader Editor := do
  let magic ← rd32
  if magic ≠ 0xCAFEBABE then Parser.fail (.thrown "class_edit: bad magic")
  else
    let minorVersion ← rd16
    let majorVersion ← rd16
    let cpCount ← rd16
    let entries ← (fun p => readPool cpCount (p.length + 1) 1 p : Reader (List CpEntry))
    let accessFlags ← rd16
    let thisClass ← rd16
    let superClass ← rd16
    let ifCount ← rd16
    let interfaces ← Parser.times rd16 ifCount.toNat
    let thisName ← Parser.lift (readThisName ({} :: entries) thisClass)
    let fieldsRaw ← skipFields.consumed
    let methodCount ← rd16
    let methods ← Parser.times readMethod methodCount.toNat
    pure ⟨{} :: entries, magic, minorVersion, majorVersion, accessFlags, thisClass, superClass,
      thisName, interfaces, fieldsRaw, methods, []⟩

/-- `ClassFileEditor::ClassFileEditor` -/
def parse (bytes : Bytes) : Except Fault Editor :=
  if bytes.length < 10 then .error (.thrown "class_edit: too short")
  else
    match readClass bytes with
    | .error e => .error e
    | .ok (ed, p) => .ok { ed with classAttrsRaw := p }

/-! ## Serialising -/

/-- What a slot of the pool contributes to the output: nothing for slot 0 and for the second
slot of a wide entry. -/
def CpEntry.write (e : CpEntry) : Bytes := if e.tag = 0 then [] else e.tag :: e.body

/-- A method of the output. -/
def MethodInfo.write (m : MethodInfo) : Bytes :=
  wr16 m.accessFlags ++ wr16 m.nameIndex ++ wr16 m.descriptorIndex ++ m.attributesRaw

/-- `ClassFileEditor::serialize`.  The loop over the pool counts in a `u2`, so that it never
ends when the pool has more than 65535 slots. -/
def Editor.serialize (ed : Editor) : Except Fault Bytes :=
  if 65535 < ed.cp.length then .error .diverges
  else .ok <|
    wr32 ed.magic ++ wr16 ed.minorVersion ++ wr16 ed.majorVersion ++
    wr16 (UInt16.ofNat ed.cp.length) ++ ed.cp.tail.flatMap CpEntry.write ++
    wr16 ed.accessFlags ++ wr16 ed.thisClass ++ wr16 ed.superClass ++
    wr16 (UInt16.ofNat ed.interfaces.length) ++ ed.interfaces.flatMap wr16 ++
    ed.fieldsRaw ++
    wr16 (UInt16.ofNat ed.methods.length) ++ ed.methods.flatMap MethodInfo.write ++
    ed.classAttrsRaw

/-! ## Adding constants -/

/-- The loop `for (u2 i = 1; i < cp_.size(); ++i)` that returns the first index whose entry
satisfies `f`.  Slot 0 never does, so that a pool with more than 65535 slots and no such
entry among them makes the loop run forever. -/
def scan (cp : List CpEntry) (f : CpEntry → Bool) : Except Fault (Option UInt16) :=
  match (cp.tail.take 65535).findIdx? f with
  | some k => .ok (some (UInt16.ofNat (k + 1)))
  | none => if 65535 < cp.length then .error .diverges else .ok none

/-- The test of `findUtf8`: the entry is a Utf8 constant with the bytes `s`. -/
def CpEntry.isUtf8 (s : Bytes) (e : CpEntry) : Bool :=
  match e.body with
  | a :: b :: t => e.tag == CP_Utf8 && (be16 a b).toNat == s.length && t.take s.length == s
  | _ => false

/-- The test of `addClass`: the entry is a Class constant of the given name index. -/
def CpEntry.isClass (nameIdx : UInt16) (e : CpEntry) : Bool :=
  match e.body with
  | [a, b] => e.tag == CP_Class && be16 a b == nameIdx
  | _ => false

/-- The test of `addNameAndType` and `addMethodRef`: the entry has the given tag and consists
of the two given indices. -/
def CpEntry.isPair (tag : UInt8) (x y : UInt16) (e : CpEntry) : Bool :=
  match e.body with
  | [a, b, c, d] => e.tag == tag && be16 a b == x && be16 c d == y
  | _ => false

namespace Editor

/-- `ClassFileEditor::findUtf8`, where 0 stands for not found. -/
def findUtf8 (ed : Editor) (s : Bytes) : Except Fault UInt16 :=
  (scan ed.cp (CpEntry.isUtf8 s)).map fun i => i.getD 0

/-- `ClassFileEditor::addRawEntry` -/
def addRawEntry (ed : Editor) (tag : UInt8) (body : Bytes) (wide : Bool := false) :
    UInt16 × Editor :=
  (UInt16.ofNat ed.cp.length,
    { ed with cp := ed.cp ++ ⟨tag, body, wide⟩ :: if wide then [{}] else [] })

/-- `ClassFileEditor::addUtf8` -/
def addUtf8 (ed : Editor) (s : Bytes) : Except Fault (UInt16 × Editor) := do
  let e ← ed.findUtf8 s
  if e ≠ 0 then pure (e, ed)
  else pure (ed.addRawEntry CP_Utf8 (wr16 (UInt16.ofNat s.length) ++ s))

/-- The common end of `addClass`, `addNameAndType` and `addMethodRef`: the first entry that
passes the test, or a new entry. -/
def findOrAdd (ed : Editor) (f : CpEntry → Bool) (tag : UInt8) (body : Bytes) :
    Except Fault (UInt16 × Editor) := do
  match ← scan ed.cp f with
  | some i => pure (i, ed)
  | none => pure (ed.addRawEntry tag body)

/-- `ClassFileEditor::addClass` -/
def addClass (ed : Editor) (internalName : Bytes) : Except Fault (UInt16 × Editor) := do
  let (nameIdx, ed) ← ed.addUtf8 internalName
  ed.findOrAdd (CpEntry.isClass nameIdx) CP_Class (wr16 nameIdx)

/-- `ClassFileEditor::addNameAndType` -/
def addNameAndType (ed : Editor) (name desc : Bytes) : Except Fault (UInt16 × Editor) := do
  let (nameIdx, ed) ← ed.addUtf8 name
  let (descIdx, ed) ← ed.addUtf8 desc
  ed.findOrAdd (CpEntry.isPair CP_NameAndType nameIdx descIdx) CP_NameAndType
    (wr16 nameIdx ++ wr16 descIdx)

/-- `ClassFileEditor::addMethodRef` -/
def addMethodRef (ed : Editor) (klass name desc : Bytes) : Except Fault (UInt16 × Editor) := do
  let (clsIdx, ed) ← ed.addClass klass
  let (natIdx, ed) ← ed.addNameAndType name desc
  ed.findOrAdd (CpEntry.isPair CP_Methodref clsIdx natIdx) CP_Methodref
    (wr16 clsIdx ++ wr16 natIdx)

end Editor

/-! ## Moving the tables of a Code attribute -/

/-- `ClassFileEditor::shiftStackMap`: the offset of the first frame grows by `delta`, in the
short form when it still fits there. -/
def shiftStackMap (body : Bytes) (delta : UInt32) : Except Fault Bytes :=
  match body with
  | n₁ :: n₂ :: frames =>
    if be16 n₁ n₂ = 0 then .ok body
    else
      match frames with
      | [] => .error .outOfBounds
      | tag :: framePtr =>
        if tag ≤ 63 then
          let newOffset := tag.toUInt32 + delta
          if newOffset ≤ 63 then .ok (n₁ :: n₂ :: newOffset.toUInt8 :: framePtr)
          else .ok (n₁ :: n₂ :: 251 :: ((newOffset >>> 8) &&& 0xFF).toUInt8 ::
            (newOffset &&& 0xFF).toUInt8 :: framePtr)
        else if tag ≤ 127 then
          let newOffset := tag.toUInt32 - 64 + delta
          if newOffset ≤ 63 then .ok (n₁ :: n₂ :: (64 + newOffset).toUInt8 :: framePtr)
          else .ok (n₁ :: n₂ :: 247 :: ((newOffset >>> 8) &&& 0xFF).toUInt8 ::
            (newOffset &&& 0xFF).toUInt8 :: framePtr)
        else if 247 ≤ tag then
          -- the five branches for the tags 247, 248-250, 251, 252-254 and 255
          match framePtr with
          | o₁ :: o₂ :: rest =>
            let newOffset := (be16 o₁ o₂).toUInt32 + delta
            .ok (n₁ :: n₂ :: tag :: ((newOffset >>> 8) &&& 0xFF).toUInt8 ::
              (newOffset &&& 0xFF).toUInt8 :: rest)
          | _ => .error .outOfBounds
        else .ok body
  | _ => .ok body

/-- The loop of `shiftLineNumberTable` over `n` entries of four bytes. -/
def shiftLines (delta : UInt32) : ℕ → Bytes → Bytes
  | n + 1, a :: b :: l₁ :: l₂ :: rest =>
    let startPc := (be16 a b).toUInt32 + delta
    ((startPc >>> 8) &&& 0xFF).toUInt8 :: (startPc &&& 0xFF).toUInt8 :: l₁ :: l₂ ::
      shiftLines delta n rest
  | _, bytes => bytes

/-- `ClassFileEditor::shiftLineNumberTable` -/
def shiftLineNumberTable (body : Bytes) (delta : UInt32) : Bytes :=
  match body with
  | n₁ :: n₂ :: entries =>
    if body.length < 2 + (be16 n₁ n₂).toNat * 4 then body
    else n₁ :: n₂ :: shiftLines delta (be16 n₁ n₂).toNat entries
  | _ => body

/-- The loop of `shiftLocalVarTable` over `n` entries of ten bytes: an entry that starts at
pc 0 is made longer, any other is moved. -/
def shiftLocals (delta : UInt32) : ℕ → Bytes → Bytes
  | n + 1, a :: b :: c :: d :: v₁ :: v₂ :: v₃ :: v₄ :: v₅ :: v₆ :: rest =>
    let startPc := be16 a b
    if startPc = 0 then
      let length := ((be16 c d).toUInt32 + delta).toUInt16
      a :: b :: ((length >>> 8) &&& 0xFF).toUInt8 :: (length &&& 0xFF).toUInt8 ::
        v₁ :: v₂ :: v₃ :: v₄ :: v₅ :: v₆ :: shiftLocals delta n rest
    else
      let startPc := (startPc.toUInt32 + delta).toUInt16
      ((startPc >>> 8) &&& 0xFF).toUInt8 :: (startPc &&& 0xFF).toUInt8 :: c :: d ::
        v₁ :: v₂ :: v₃ :: v₄ :: v₅ :: v₆ :: shiftLocals delta n rest
  | _, bytes => bytes

/-- `ClassFileEditor::shiftLocalVarTable` -/
def shiftLocalVarTable (body : Bytes) (delta : UInt32) : Bytes :=
  match body with
  | n₁ :: n₂ :: entries =>
    if body.length < 2 + (be16 n₁ n₂).toNat * 10 then body
    else n₁ :: n₂ :: shiftLocals delta (be16 n₁ n₂).toNat entries
  | _ => body

/-! ## Rebuilding the Code attribute -/

/-- An entry of the exception table. -/
structure ExceptionEntry where
  startPc : UInt16
  endPc : UInt16
  handler : UInt16
  catchTyp : UInt16
deriving DecidableEq, Repr

/-- What `rebuildCodeAttribute` reads of the body of a Code attribute.  An inner attribute is
its name index and its body. -/
structure CodeBody where
  maxStack : UInt16
  maxLocals : UInt16
  code : Bytes
  exceptions : List ExceptionEntry
  attributes : List (UInt16 × Bytes)
deriving DecidableEq, Repr

def readException : Reader ExceptionEntry := do
  let startPc ← rd16
  let endPc ← rd16
  let handler ← rd16
  let catchTyp ← rd16
  pure ⟨startPc, endPc, handler, catchTyp⟩

/-- An attribute with its name index. -/
def readAttribute : Reader (UInt16 × Bytes) := do
  let nameIdx ← rd16
  let attrLen ← rd32
  let body ← copyN attrLen.toNat
  pure (nameIdx, body)

def readCode : Reader CodeBody := do
  let maxStack ← rd16
  let maxLocals ← rd16
  let codeLen ← rd32
  let code ← copyN codeLen.toNat
  let excCount ← rd16
  let exceptions ← Parser.times readException excCount.toNat
  let innerAttrCount ← rd16
  let attributes ← Parser.times readAttribute innerAttrCount.toNat
  pure ⟨maxStack, maxLocals, code, exceptions, attributes⟩

def writeException (e : ExceptionEntry) : Bytes :=
  wr16 e.startPc ++ wr16 e.endPc ++ wr16 e.handler ++ wr16 e.catchTyp

def writeAttribute (a : UInt16 × Bytes) : Bytes :=
  wr16 a.1 ++ wr32 (UInt32.ofNat a.2.length) ++ a.2

/-- `codeBody` of `rebuildCodeAttribute`. -/
def writeCode (c : CodeBody) : Bytes :=
  wr16 c.maxStack ++ wr16 c.maxLocals ++ wr32 (UInt32.ofNat c.code.length) ++ c.code ++
    wr16 (UInt16.ofNat c.exceptions.length) ++ c.exceptions.flatMap writeException ++
    wr16 (UInt16.ofNat c.attributes.length) ++ c.attributes.flatMap writeAttribute

/-- The handling of an inner attribute, by its name. -/
def patchAttribute (cp : List CpEntry) (delta : UInt32) (a : UInt16 × Bytes) :
    Except Fault (UInt16 × Bytes) := do
  let innerName ← cpUtf8Value cp a.1
  if innerName = ascii "StackMapTable" then
    let patched ← shiftStackMap a.2 delta
    pure (a.1, patched)
  else if innerName = ascii "LineNumberTable" then
    pure (a.1, shiftLineNumberTable a.2 delta)
  else if innerName = ascii "LocalVariableTable" ∨ innerName = ascii "LocalVariableTypeTable" then
    pure (a.1, shiftLocalVarTable a.2 delta)
  else pure a

def patchException (delta : UInt32) (e : ExceptionEntry) : ExceptionEntry :=
  { e with
    startPc := (e.startPc.toUInt32 + delta).toUInt16
    endPc := (e.endPc.toUInt32 + delta).toUInt16
    handler := (e.handler.toUInt32 + delta).toUInt16 }

/-- The Code attribute with the insertion in front of its code. -/
def patchCode (cp : List CpEntry) (insertion : Bytes) (extraStack : UInt16) (c : CodeBody) :
    Except Fault CodeBody := do
  let delta := UInt32.ofNat insertion.length
  let attributes ← c.attributes.mapM (patchAttribute cp delta)
  pure
    { maxStack := if extraStack > c.maxStack then extraStack else c.maxStack
      maxLocals := c.maxLocals
      code := insertion ++ c.code
      exceptions := c.exceptions.map (patchException delta)
      attributes := attributes }

/-- One turn of the loop over the attributes of the method: an attribute is copied unless it
has the name index of the Code attribute. -/
def rebuildAttribute (cp : List CpEntry) (codeAttrNameIdx : UInt16) (insertion : Bytes)
    (extraStack : UInt16) : Reader (UInt16 × Bytes) := do
  let nameIdx ← rd16
  let attrLen ← rd32
  if nameIdx ≠ codeAttrNameIdx then
    let body ← copyN attrLen.toNat
    pure (nameIdx, body)
  else
    fun p => do
      let (c, _) ← readCode p
      let c' ← patchCode cp insertion extraStack c
      pure ((nameIdx, writeCode c'), p.drop attrLen.toNat)

/-- The attributes that `rebuildCodeAttribute` writes, with their count. -/
def rebuildAttributes (cp : List CpEntry) (codeAttrNameIdx : UInt16) (insertion : Bytes)
    (extraStack : UInt16) : Reader (UInt16 × List (UInt16 × Bytes)) := do
  let attrCount ← rd16
  let attrs ← Parser.times (rebuildAttribute cp codeAttrNameIdx insertion extraStack)
    attrCount.toNat
  pure (attrCount, attrs)

/-- `ClassFileEditor::rebuildCodeAttribute` -/
def rebuildCodeAttribute (cp : List CpEntry) (originalAttrs : Bytes) (codeAttrNameIdx : UInt16)
    (insertion : Bytes) (extraStack : UInt16) : Except Fault Bytes :=
  if originalAttrs.length < 2 then .ok originalAttrs
  else do
    let ((attrCount, attrs), _) ←
      rebuildAttributes cp codeAttrNameIdx insertion extraStack originalAttrs
    pure (wr16 attrCount ++ attrs.flatMap writeAttribute)

namespace Editor

/-- The search of `prependToMethodCode`: the position of the first method with the given name
and descriptor, the method, the index of the name "Code", and the editor after this name was
added.  `addUtf8` starts with the same search as `findUtf8`, so that one call stands for both. -/
def findTarget (ed : Editor) (name desc : Bytes) :
    Except Fault (Option (ℕ × MethodInfo × UInt16 × Editor)) := do
  let nameIdx ← ed.findUtf8 name
  let descIdx ← ed.findUtf8 desc
  if nameIdx = 0 ∨ descIdx = 0 then pure none
  else
    match ed.methods.findIdx? fun m => m.nameIndex == nameIdx && m.descriptorIndex == descIdx with
    | none => pure none
    | some k =>
      match ed.methods[k]? with
      | none => pure none
      | some m =>
        let (codeUtf8, ed) ← ed.addUtf8 (ascii "Code")
        pure (some (k, m, codeUtf8, ed))

/-- `ClassFileEditor::prependToMethodCode` -/
def prependToMethodCode (ed : Editor) (name desc insertion : Bytes) (extraStack : UInt16) :
    Except Fault (Bool × Editor) := do
  match ← ed.findTarget name desc with
  | none => pure (false, ed)
  | some (k, m, codeUtf8, ed) =>
    let raw ← rebuildCodeAttribute ed.cp m.attributesRaw codeUtf8 insertion extraStack
    pure (true, { ed with methods := ed.methods.set k { m with attributesRaw := raw } })

end Editor

end ClassFile
end SakuraTools
