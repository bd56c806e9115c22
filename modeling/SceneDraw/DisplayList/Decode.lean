import SceneDraw.Call.Parser
import SceneDraw.DisplayList.Command

namespace SceneDraw.DisplayList

def headerConstant? (name : String) : Option Int64 :=
  if name ∈ ["G_TX_NOMIRROR", "G_TX_WRAP", "G_TX_NOMASK", "G_TX_NOLOD", "G_TX_RENDERTILE", "G_OFF",
      "FALSE", "G_IM_FMT_RGBA", "G_IM_SIZ_4b"] then some 0
  else if name ∈ ["G_TX_MIRROR", "G_ON", "TRUE", "G_IM_FMT_YUV", "G_IM_SIZ_8b"] then some 1
  else if name ∈ ["G_TX_CLAMP", "G_IM_FMT_CI", "G_IM_SIZ_16b"] then some 2
  else if name ∈ ["G_IM_FMT_IA", "G_IM_SIZ_32b"] then some 3
  else if name = "G_IM_FMT_I" then some 4
  else if name = "G_TX_LOADTILE" then some 7
  else none

def operand? (text : String) : Option Int64 :=
  match Arg.parse text with
  | .int n => some n
  | _ => headerConstant? text

def constant? : Arg → Option Int64
  | .int n => some n
  | .float _ => none
  | .symbol s => (Arg.operands s).foldlM (fun acc t => (operand? t).map (acc ||| ·)) 0

def constantBelow? (bound : Int64) (a : Arg) : Option UInt64 :=
  (constant? a).bind fun n => if 0 ≤ n ∧ n < bound then some n.toUInt64 else none

def word? (a : Arg) : Option UInt32 := (constantBelow? 0x100000000 a).map (·.toUInt32)

def byte? (a : Arg) : Option UInt8 := (constantBelow? 0x100 a).map (·.toUInt8)

section

variable (c : Call)

def word (i : Nat) : Except ParseError UInt32 := c.read word? "an unsigned constant" i

def byte (i : Nat) : Except ParseError UInt8 := c.read byte? "a byte" i

def imageFormat (i : Nat) : Except ParseError ImageFormat :=
  c.read (fun a => (byte? a).bind fun n => ImageFormat.ofNumber? n.toNat) "an image format" i

def texelSize (i : Nat) : Except ParseError TexelSize :=
  c.read (fun a => (byte? a).bind fun n => TexelSize.ofNumber? n.toNat) "a component size" i

def tileWrap (i : Nat) : Except ParseError TileWrap :=
  c.read (fun a => (byte? a).map .ofByte) "a wrap mode" i

def triangleAt (i : Nat) : Except ParseError Triangle :=
  return ⟨← word c i, ← word c (i + 1), ← word c (i + 2)⟩

end

def referenceName (s : List Char) : String :=
  let s := Text.trim (s.dropWhile (· == '&'))
  .ofList (Text.trimEnd ((Text.beforeSuffix? "[0]".toList s).getD s))

def textureName (a : Arg) : String := referenceName (a.display.toList.takeWhile (· != '+'))

/-- The buffer and the offset of `name`, `name + k` or `&name[k]`. -/
def vertexReference? (s : List Char) : Option (String × UInt32) := do
  let (name, offset) ←
    match Text.cut '+' s with
    | some (name, offset) => some (name, Arg.ofChars offset)
    | none =>
      match Text.cut '[' s with
      | some (name, rest) => (Text.beforeSuffix? [']'] rest).map fun k => (name, Arg.ofChars k)
      | none => some (s, .int 0)
  let n ← offset.int?
  let name := Text.trim ((Text.trim name).dropWhile (· == '&'))
  if 0 ≤ n ∧ n < 0x100000000 ∧ name ≠ [] then some (.ofList name, n.toUInt64.toUInt32) else none

def vertexReference (a : Arg) : Except ParseError (String × UInt32) :=
  match a.symbol?.bind fun s => vertexReference? s.toList with
  | some r => .ok r
  | none => .error (.vertexReference a.display)

def lightPart? (s : List Char) : Option LightPart :=
  if s = ['a'] then some .ambient
  else if s = ['l'] then some (.directional 0)
  else do
    let k ← Text.beforeSuffix? [']'] (← Text.afterPrefix? ['l', '['] s)
    let n ← (Arg.ofChars k).int?
    if 0 ≤ n then some (.directional n.toInt.toNat) else none

def lightReference? (s : List Char) : Option (String × LightPart) := do
  let (name, field) ← Text.cut '.' (Text.trim (s.dropWhile (· == '&')))
  let part ← lightPart? (Text.trim field)
  some (.ofList (Text.trim name), part)

def lightReference (s : String) : Except ParseError (String × LightPart) :=
  match lightReference? s.toList with
  | some r => .ok r
  | none => .error (.lightReference s)

def textureBlock (c : Call) (size? : Option TexelSize) : Except ParseError Command := do
  let i := if size?.isSome then 3 else 2
  let width ← word c i
  let texture := textureName (← c.arg 0)
  let height ← word c (i + 1)
  let format ← imageFormat c 1
  let palette ← word c (i + 2)
  let wrapT ← tileWrap c (i + 4)
  let maskT ← word c (i + 6)
  let shiftT ← word c (i + 8)
  let wrapS ← tileWrap c (i + 3)
  let maskS ← word c (i + 5)
  let shiftS ← word c (i + 7)
  return .textureBlock texture width height
    { format, size := size?.getD .bits4, line := width, memory := 0, index := 0, palette
      wrapT, maskT, shiftT, wrapS, maskS, shiftS }

def ofCall (c : Call) : Except ParseError Command :=
  match c.name with
  | "gsSPDisplayList" => do
    c.expectArity 1
    return .call (referenceName (← c.symbol 0).toList)
  | "gsSPBranchList" => do
    c.expectArity 1
    return .jump (referenceName (← c.symbol 0).toList)
  | "gsSPEndDisplayList" => .ok .finish
  | "gsSPSetGeometryMode" => do
    c.expectArity 1
    return .setMode (← c.arg 0).flags
  | "gsSPClearGeometryMode" => do
    c.expectArity 1
    return .clearMode (← c.arg 0).flags
  | "gsSPTexture" => do
    c.expectArity 5
    let scale := ⟨← word c 0, ← word c 1, ← word c 2, ← word c 3⟩
    return .texture scale (← c.arg 4).bool?
  | "gsSPSetLights1" => do
    c.expectArity 1
    return .lightPair (← c.symbol 0)
  | "gsSPLight" => do
    c.expectArity 2
    let (light, part) ← lightReference (← c.symbol 0)
    return .light light part (← word c 1)
  | "gsSPVertex" => do
    c.expectArity 3
    let (buffer, offset) ← vertexReference (← c.arg 0)
    return .load ⟨buffer, offset, ← word c 1, ← word c 2⟩
  | "gsSP1Triangle" => do
    c.expectArity 4
    return .triangle (← triangleAt c 0)
  | "gsSP2Triangles" => do
    c.expectArity 8
    return .twoTriangles (← triangleAt c 0) (← triangleAt c 4)
  | "gsDPSetCombineMode" => do
    c.expectArityRange 1 2
    return .combine ⟨(← c.arg 0).display, c.args[1]?.map (·.display)⟩
  | "gsDPSetTile" => do
    c.expectArity 12
    return .tile
      { format := ← imageFormat c 0
        size := ← texelSize c 1
        line := ← word c 2
        memory := ← word c 3
        index := ← word c 4
        palette := ← word c 5
        wrapT := ← tileWrap c 6
        maskT := ← word c 7
        shiftT := ← word c 8
        wrapS := ← tileWrap c 9
        maskS := ← word c 10
        shiftS := ← word c 11 }
  | "gsDPSetTextureImage" => do
    c.expectArity 4
    return .textureImage (← imageFormat c 0) (← texelSize c 1) (← word c 2)
      (textureName (← c.arg 3))
  | "gsDPLoadTextureBlock" => do
    c.expectArity 12
    textureBlock c (some (← texelSize c 2))
  | "gsDPLoadTextureBlock_4b" => do
    c.expectArity 11
    textureBlock c none
  | "gsDPSetEnvColor" => do
    c.expectArity 4
    return .environment ⟨← byte c 0, ← byte c 1, ← byte c 2, ← byte c 3⟩
  | "gsSPNoOp" | "gsDPNoOp" | "gsDPPipeSync" | "gsDPLoadSync" | "gsDPTileSync"
  | "gsDPFullSync" => .ok .noOp
  | _ => .ok (.other c)

def decodeLine (line : String) : Except ParseError (Option Command) := do
  match ← Call.parse line with
  | some c => return some (← ofCall c)
  | none => return none

end SceneDraw.DisplayList
