import SceneDraw.Scene.Assets
import SceneDraw.Scene.DrawItem

namespace SceneDraw.Scene

open DisplayList (Batch)
open Layout (Placement)

inductive Error
  | layout (cause : Layout.Error)
  | displayList (cause : DisplayList.Error)
  | unknownModel (model : String)
  | missingAnimation (name : String)
  deriving DecidableEq

namespace Error

def isResolution : Error → Bool
  | layout cause => cause.isResolution
  | displayList cause => cause.isResolution
  | unknownModel _ | missingAnimation _ => true

def message : Error → String
  | layout cause => cause.message
  | displayList cause => cause.message
  | unknownModel model => s!"unknown object model: {model}"
  | missingAnimation name => s!"undefined animation: {name}"

end Error

structure Skipped where
  object : Nat
  model : String
  reason : String
  deriving DecidableEq, Repr

structure Compiled where
  items : List DrawItem := []
  skipped : List Skipped := []
  deriving DecidableEq

namespace Compiled

def batchCount (c : Compiled) : Nat := c.items.foldl (· + ·.batches.length) 0

def triangleCount (c : Compiled) : Nat := c.items.foldl (· + ·.triangleCount) 0

def layerVertices (c : Compiled) (layer : Layout.DrawLayer) : List DrawVertex :=
  Scene.layerVertices c.items layer

end Compiled

structure Compiler where
  assets : Assets
  config : Config

structure Session where
  cache : KeyMap String (List Batch) := ∅
  log : Log := []
  deriving DecidableEq

namespace Session

def report (s : Session) (level : Level) (text : String) : Session :=
  { s with log := s.log ++ [⟨level, .scene, text⟩] }

def cached (s : Session) : Nat := s.cache.size

end Session

abbrev Step (ε α : Type) := Session → Except ε α × Session

namespace Compiler

variable (c : Compiler)

def skipping : Bool := c.config.policy == .skip

def setting : DisplayList.Setting where
  script := DisplayList.scripts c.assets.sources.lookup
  vertices := c.assets.vertices
  lights := c.assets.lights
  options := c.config.listOptions

def displayList (name : String) : Step DisplayList.Error (List Batch) := fun s =>
  let known := if c.config.memoize then s.cache.find? name else none
  match known with
  | some batches => (.ok batches, s)
  | none =>
    let (result, log) := DisplayList.interpret c.setting name
    let s := { s with log := s.log ++ log }
    match result with
    | .ok batches =>
      (.ok batches,
        if c.config.memoize then { s with cache := s.cache.insert name batches } else s)
    | .error e => (.error e, s)

def bindTexture (b : Batch) : Except DisplayList.Error (Option TextureBinding) :=
  match b.state.texture with
  | none => .ok none
  | some name =>
    if b.state.textureEnabled then
      match c.assets.textures.find? name with
      | none => .error (.missingTexture name)
      | some texture =>
        .ok (some
          { texture
            wrapS := (b.state.tile.map (·.wrapS.mode)).getD .repeating
            wrapT := (b.state.tile.map (·.wrapT.mode)).getD .repeating
            scale := (b.state.textureScale.map (·.factors)).getD ⟨1, 1⟩ })
    else .ok none

def animation (m : Model) : Step Error (Option Layout.Animation) := fun s =>
  match m.animation with
  | none => (.ok none, s)
  | some name =>
    match c.assets.animations.find? name with
    | some a => (.ok (some a), s)
    | none =>
      if c.skipping then
        (.ok none, s.report .warn s!"undefined animation {name}, using the bind pose")
      else (.error (.missingAnimation name), s)

def compilePlacement (index : Nat) (transform : Matrix) (p : Placement) :
    Step Error (Option DrawItem) := fun s =>
  match c.displayList p.list s with
  | (.error e, s) =>
    if c.skipping && e.isResolution then
      (.ok none, s.report .warn s!"skipping display list {p.list}: {e.message}")
    else (.error (.displayList e), s)
  | (.ok batches, s) =>
    match batches.mapM c.bindTexture with
    | .error e => (.error (.displayList e), s)
    | .ok textures =>
      (.ok (some
        { object := index
          list := p.list
          layer := p.layer
          transform := transform * p.transform
          zBuffer := p.zBuffer
          billboard := p.billboard
          batches, textures }), s)

def compilePlacements (index : Nat) (transform : Matrix) :
    List Placement → Step Error (List DrawItem)
  | [], s => (.ok [], s)
  | p :: ps, s =>
    match c.compilePlacement index transform p s with
    | (.error e, s) => (.error e, s)
    | (.ok item, s) =>
      match compilePlacements index transform ps s with
      | (.error e, s) => (.error e, s)
      | (.ok items, s) => (.ok (item.toList ++ items), s)

def compileObject (index : Nat) (o : Object) : Step Error (List DrawItem) := fun s =>
  match c.assets.models.find? o.model with
  | none => (.error (.unknownModel o.model), s)
  | some m =>
    match c.animation m s with
    | (.error e, s) => (.error e, s)
    | (.ok animation, s) =>
      let (placements, log) := Layout.interpret c.assets.sources.lookup animation
        c.config.layoutOptions m.layout
      let s := { s with log := s.log ++ log }
      match placements with
      | .error e => (.error (.layout e), s)
      | .ok placements =>
        match c.compilePlacements index o.transform placements s with
        | (.error e, s) => (.error e, s)
        | (.ok items, s) =>
          (.ok items, s.report .debug s!"object {index} ({o.model}): {items.length} draw items")

def compileFrom : Nat → List Object → Compiled → Step Error Compiled
  | _, [], scene, s => (.ok scene, s)
  | index, o :: os, scene, s =>
    match c.compileObject index o s with
    | (.ok items, s) => compileFrom (index + 1) os { scene with items := scene.items ++ items } s
    | (.error e, s) =>
      if c.skipping then
        let s := s.report .warn s!"skipping object {index} ({o.model}): {e.message}"
        let skipped := scene.skipped ++ [⟨index, o.model, e.message⟩]
        compileFrom (index + 1) os { scene with skipped } s
      else (.error e, s)

def compile (objects : List Object) : Step Error Compiled := fun s =>
  match c.compileFrom 0 objects {} s with
  | (.error e, s) => (.error e, s)
  | (.ok scene, s) =>
    let counts := s!"{scene.items.length} draw items, {scene.batchCount} batches"
    (.ok scene, s.report .info
      s!"compiled {objects.length} objects: {counts}, {scene.skipped.length} skipped")

end Compiler

end SceneDraw.Scene
