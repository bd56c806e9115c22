import SceneDraw.Format.Record
import SceneDraw.Scene.Assets

namespace SceneDraw.Format

open Scene Layout

def vertex : Decoder Vertex := fun j => do
  let fs ← fields ["pos", "flag", "uv", "cn"] j
  return { pos := ← fs.required "pos" (vec3 int16)
           flag := ← fs.withDefault "flag" uint16 0
           uv := ← fs.required "uv" (vec2 int16)
           cn := ← fs.required "cn" (vec4 uint8) }

def directionalLight : Decoder DirectionalLight := fun j => do
  let fs ← fields ["color", "dir"] j
  return { color := ← fs.required "color" (vec3 uint8), dir := ← fs.required "dir" (vec3 int8) }

def light : Decoder Light := fun j => do
  let fs ← fields ["ambient", "directional"] j
  return { ambient := ← fs.required "ambient" (vec3 uint8)
           directional := ← fs.withDefault "directional" (list directionalLight) [] }

def tileWrap : Decoder TileWrap := fun j => do
  let fs ← fields ["mirror", "clamp"] j
  return { mirror := ← fs.required "mirror" bool, clamp := ← fs.required "clamp" bool }

def imageFormat : Decoder ImageFormat := variant (ImageFormat.all.map fun f => (f.label, f))

def texelSize : Decoder TexelSize := variant (TexelSize.all.map fun s => (s.label, s))

def tile : Decoder Tile := fun j => do
  let fs ← fields ["fmt", "size", "line", "tmem", "tile", "palette", "cmt", "maskt", "shiftt",
    "cms", "masks", "shifts"] j
  return { format := ← fs.required "fmt" imageFormat
           size := ← fs.required "size" texelSize
           line := ← fs.required "line" uint32
           memory := ← fs.required "tmem" uint32
           index := ← fs.required "tile" uint32
           palette := ← fs.required "palette" uint32
           wrapT := ← fs.required "cmt" tileWrap
           maskT := ← fs.required "maskt" uint32
           shiftT := ← fs.required "shiftt" uint32
           wrapS := ← fs.required "cms" tileWrap
           maskS := ← fs.required "masks" uint32
           shiftS := ← fs.required "shifts" uint32 }

def textureScale : Decoder TextureScale := fun j => do
  let fs ← fields ["s", "t", "level", "tile"] j
  return { s := ← fs.required "s" uint32
           t := ← fs.required "t" uint32
           level := ← fs.required "level" uint32
           tile := ← fs.required "tile" uint32 }

def rgba : Decoder Rgba := fun j => do
  let fs ← fields ["r", "g", "b", "a"] j
  return { r := ← fs.required "r" uint8
           g := ← fs.required "g" uint8
           b := ← fs.required "b" uint8
           a := ← fs.required "a" uint8 }

def vertexTable : Decoder VertexTable := table (list vertex)

def lightTable : Decoder LightTable := table light

def textureTable : Decoder TextureTable := table string

def sources : Decoder Sources := fun j => do
  let fs ← fields ["geo", "gfx"] j
  let lines := table (list string)
  return { layouts := ← fs.withDefault "geo" lines ∅
           displayLists := ← fs.withDefault "gfx" lines ∅ }

def animation : Decoder Animation := fun j => do
  let fs ← fields ["flags", "index", "values"] j
  return { flags := ← fs.withDefault "flags" uint16 0
           index := ← fs.withDefault "index" (list uint16) []
           values := ← fs.withDefault "values" (list int16) [] }

def missingPolicy : Decoder MissingPolicy := variant [("skip", .skip), ("fail", .fail)]

def listOptions : Decoder DisplayList.Options := fun j => do
  let fs ← fields ["max_branch_depth", "missing_reference_policy"] j
  let o : DisplayList.Options := {}
  return { maxDepth := ← fs.withDefault "max_branch_depth" size o.maxDepth
           policy := ← fs.withDefault "missing_reference_policy" missingPolicy o.policy }

def layoutOptions : Decoder Layout.Options := fun j => do
  let fs ← fields ["null_sentinel", "inert_switch_selectors", "asymmetric_close_layouts",
    "max_branch_depth", "animation_frame", "missing_reference_policy"] j
  let o : Layout.Options := {}
  return { nullName := ← fs.withDefault "null_sentinel" string o.nullName
           inertSelectors :=
             ← fs.withDefault "inert_switch_selectors" nameSet o.inertSelectors
           asymmetricLayouts :=
             ← fs.withDefault "asymmetric_close_layouts" nameSet o.asymmetricLayouts
           maxDepth := ← fs.withDefault "max_branch_depth" size o.maxDepth
           frame := ← fs.withDefault "animation_frame" int32 o.frame
           policy := ← fs.withDefault "missing_reference_policy" missingPolicy o.policy }

def config : Decoder Config := fun j => do
  let fs ← fields ["null_sentinel", "inert_switch_selectors", "asymmetric_close_layouts",
    "max_branch_depth", "animation_frame", "missing_reference_policy",
    "memoize_display_lists"] j
  let c : Config := {}
  return { nullName := ← fs.withDefault "null_sentinel" string c.nullName
           inertSelectors :=
             ← fs.withDefault "inert_switch_selectors" nameSet c.inertSelectors
           asymmetricLayouts :=
             ← fs.withDefault "asymmetric_close_layouts" nameSet c.asymmetricLayouts
           maxDepth := ← fs.withDefault "max_branch_depth" size c.maxDepth
           frame := ← fs.withDefault "animation_frame" int32 c.frame
           policy := ← fs.withDefault "missing_reference_policy" missingPolicy c.policy
           memoize := ← fs.withDefault "memoize_display_lists" bool c.memoize }

def model : Decoder Model := fun j => do
  let fs ← fields ["geo_layout", "animation"] j
  return { layout := ← fs.required "geo_layout" string
           animation := ← fs.withDefault "animation" (optional string) none }

def object : Decoder Object := fun j => do
  let fs ← fields ["model", "position", "rotation", "scale", "area_offset"] j
  return { model := ← fs.required "model" string
           position := ← fs.withDefault "position" (vec3 float32) .zero
           rotation := ← fs.withDefault "rotation" (vec3 float32) .zero
           scale := ← fs.withDefault "scale" float32 1
           areaOffset := ← fs.withDefault "area_offset" (vec3 float32) .zero }

def assetsNames : List String :=
  ["sources", "vertices", "lights", "textures", "animations", "models"]

def assetsOfFields (fs : Fields) : Option Assets := do
  return { sources := ← fs.withDefault "sources" sources {}
           vertices := ← fs.withDefault "vertices" vertexTable ∅
           lights := ← fs.withDefault "lights" lightTable ∅
           textures := ← fs.withDefault "textures" textureTable ∅
           animations := ← fs.withDefault "animations" (table animation) ∅
           models := ← fs.withDefault "models" (table model) ∅ }

def assets : Decoder Assets := fun j => do assetsOfFields (← fields assetsNames j)

end SceneDraw.Format
