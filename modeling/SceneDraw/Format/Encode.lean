import SceneDraw.Json.Basic
import SceneDraw.Scene.Compile

namespace SceneDraw.Format.Encode

open Scene Layout DisplayList

def byte (b : UInt8) : Json := .ofNat b.toNat

def word (w : UInt32) : Json := .ofNat w.toNat

def rgb (c : Rgb) : Json := .arr (c.toList.map byte)

def table {α : Type} (f : α → Json) (t : KeyMap String α) : Json :=
  .obj (t.entries.map fun (k, a) => (k, f a))

def vertex (v : Vertex) : Json :=
  .obj
    [("pos", .arr (v.pos.toList.map fun n => .int n.toInt)),
      ("flag", .ofNat v.flag.toNat),
      ("uv", .arr (v.uv.toList.map fun n => .int n.toInt)),
      ("cn", .arr (v.cn.toList.map byte))]

def vertices (vs : List Vertex) : Json := .arr (vs.map vertex)

def directionalLight (l : DirectionalLight) : Json :=
  .obj [("color", rgb l.color), ("dir", .arr (l.dir.toList.map fun n => .int n.toInt))]

def light (l : Light) : Json :=
  .obj
    [("ambient", rgb l.ambient), ("directional", .arr (l.directional.map directionalLight))]

def sources (s : Sources) : Json :=
  .obj [("geo", table .strs s.layouts), ("gfx", table .strs s.displayLists)]

def animation (a : Animation) : Json :=
  .obj
    [("flags", .ofNat a.flags.toNat),
      ("index", .arr (a.index.map fun n => .ofNat n.toNat)),
      ("values", .arr (a.values.map fun n => .int n.toInt))]

def model (m : Model) : Json :=
  .obj [("geo_layout", .str m.layout), ("animation", .optional .str m.animation)]

def assets (a : Assets) : Json :=
  .obj
    [("sources", sources a.sources), ("vertices", table vertices a.vertices),
      ("lights", table light a.lights), ("textures", table .str a.textures),
      ("animations", table animation a.animations), ("models", table model a.models)]

def tileWrap (w : TileWrap) : Json := .obj [("mirror", .bool w.mirror), ("clamp", .bool w.clamp)]

def tile (t : Tile) : Json :=
  .obj
    [("fmt", .str t.format.label), ("size", .str t.size.label), ("line", word t.line),
      ("tmem", word t.memory), ("tile", word t.index), ("palette", word t.palette),
      ("cmt", tileWrap t.wrapT), ("maskt", word t.maskT), ("shiftt", word t.shiftT),
      ("cms", tileWrap t.wrapS), ("masks", word t.maskS), ("shifts", word t.shiftS)]

def textureScale (k : TextureScale) : Json :=
  .obj [("s", word k.s), ("t", word k.t), ("level", word k.level), ("tile", word k.tile)]

def rgba (c : Rgba) : Json :=
  .obj [("r", byte c.r), ("g", byte c.g), ("b", byte c.b), ("a", byte c.a)]

def combineMode (m : CombineMode) : Json :=
  .obj [("first", .str m.first), ("second", .optional .str m.second)]

def slotLight : SlotLight → Json
  | .ambient color => .obj [("Ambient", rgb color)]
  | .directional l => .obj [("Directional", directionalLight l)]

def renderState (s : RenderState) : Json :=
  .obj
    [("geometry_mode", table .bool s.geometryMode),
      ("combine_mode", .optional combineMode s.combine),
      ("lights", .obj (s.lights.entries.map fun (k, l) => (toString k.toNat, slotLight l))),
      ("texture", .optional .str s.texture),
      ("tile", .optional tile s.tile),
      ("texture_enable", .bool s.textureEnabled),
      ("texture_scale", .optional textureScale s.textureScale),
      ("env_color", .optional rgba s.environment)]

section

variable (float : Float32 → Json)

def vec2 (v : Vec2 Float32) : Json := .arr (v.toList.map float)

def vec3 (v : Vec3 Float32) : Json := .arr (v.toList.map float)

def vec4 (v : Vec4 Float32) : Json := .arr (v.toList.map float)

def matrix (m : Matrix) : Json := .arr (m.rows.map (vec4 float))

def batchMembers (b : Batch) : List (String × Json) :=
  [("name", .str b.name), ("state", renderState b.state),
    ("triangles", .arr (b.indices.map .ofNat)),
    ("positions", .arr (b.positions.map (vec3 float))),
    ("uvs", .arr (b.uvs.map (vec2 float))),
    ("cn", .arr (b.colors.map fun c => .arr (c.toList.map byte))),
    ("slots", .arr (b.slots.map word))]

def batch (b : Batch) : Json := .obj (batchMembers float b)

def textureBinding (t : TextureBinding) : Json :=
  .obj
    [("texture", .str t.texture), ("wrap_s", .str t.wrapS.label), ("wrap_t", .str t.wrapT.label),
      ("scale", vec2 float t.scale)]

def textures (i : DrawItem) : Json := .arr (i.textures.map (.optional (textureBinding float)))

def placementMembers (list : String) (layer : DrawLayer) (transform : Matrix)
    (zBuffer billboard : Bool) : List (String × Json) :=
  [("display_list", .str list), ("layer", .str layer.label),
    ("transform", matrix float transform), ("z_buffer", .bool zBuffer),
    ("billboard", .bool billboard)]

def placement (p : Placement) : Json :=
  .obj (placementMembers float p.list p.layer p.transform p.zBuffer p.billboard)

def itemMembers (i : DrawItem) : List (String × Json) :=
  ("object", .ofNat i.object) ::
    placementMembers float i.list i.layer i.transform i.zBuffer i.billboard

def item (i : DrawItem) : Json :=
  .obj (itemMembers float i ++
    [("batches", .arr (i.batches.map (batch float))), ("textures", textures float i)])

def skipped (s : Skipped) : Json :=
  .obj [("object", .ofNat s.object), ("model", .str s.model), ("reason", .str s.reason)]

def compiled (c : Compiled) : Json :=
  .obj
    [("items", .arr (c.items.map (item float))), ("skipped", .arr (c.skipped.map skipped))]

end

end SceneDraw.Format.Encode
