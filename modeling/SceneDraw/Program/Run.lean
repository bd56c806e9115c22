import SceneDraw.Format.Encode
import SceneDraw.Json.Printer
import SceneDraw.Program.Arguments
import SceneDraw.Program.Bundle

namespace SceneDraw.Program

open Scene

inductive Failure
  | usage (error : UsageError)
  | logging (error : DiskError)
  | bundle (error : LoadError)
  | config (error : LoadError)
  | scene (error : Scene.Error)
  deriving DecidableEq

def Failure.message : Failure → String
  | usage error => error.message
  | logging error => s!"Error while initializing logging: {error.message}"
  | bundle error => s!"Error while loading bundle: {error.message}"
  | config error => s!"Error while loading config: {error.message}"
  | scene error => s!"Error while compiling scene: {error.message}"

structure Outcome where
  output : List String := []
  failure : Option Failure := none

def Outcome.exitCode (o : Outcome) : UInt8 := if o.failure.isSome then 1 else 0

def padRight (width : Nat) (s : String) : String :=
  s ++ .ofList (List.replicate (width - s.length) ' ')

def layerLine (c : Compiled) (layer : Layout.DrawLayer) : Option String :=
  let vertices := c.layerVertices layer
  if vertices.isEmpty then none
  else some s!"  {padRight 20 layer.symbol} {vertices.length / 3} triangles"

def summary (objects : Nat) (cached : Nat) (c : Compiled) : List String :=
  let batches := c.items.flatMap (·.batches)
  [s!"objects:        {objects}",
    s!"draw items:     {c.items.length}",
    s!"batches:        {c.batchCount}",
    s!"triangles:      {c.triangleCount}",
    s!"display lists:  {cached}",
    s!"lit batches:    {batches.countP (·.lit)}",
    s!"textured:       {batches.countP (·.state.usesTexture)}"] ++
    Layout.DrawLayer.all.filterMap (layerLine c) ++
    if c.skipped.isEmpty then []
    else
      "skipped:" :: c.skipped.map fun s => s!"  object {s.object} ({s.model}): {s.reason}"

def sceneJson (c : Compiled) : Json := Format.Encode.compiled .single c

def versionText : String := "lakitu_dump "

def helpText : List String :=
  ["lakitu_dump ",
    "Compiles a scene bundle into a draw list",
    "",
    "USAGE:",
    "    lakitu_dump [FLAGS] [OPTIONS] --bundle <FILE>",
    "",
    "FLAGS:",
    "    -h, --help       Prints help information",
    "        --json       print the compiled draw list as JSON",
    "    -V, --version    Prints version information",
    "    -v, --verbose    log debug events",
    "",
    "OPTIONS:",
    "        --bundle <FILE>    path to the JSON scene bundle",
    "        --config <FILE>    path to a JSON compiler config",
    "        --log <FILE>       append log output to this file"]

variable {m : Type → Type} [Monad m] (host : Host m)

def loadConfig : Option String → m (Except LoadError Config)
  | none => return .ok {}
  | some path => readJson host Format.config path

def compileBundle (a : Arguments) : m Outcome := do
  let r : Reporting := ⟨a.verbose, a.log⟩
  match ← loadBundle host r a.bundle with
  | .error e => return { failure := some (.bundle e) }
  | .ok b =>
    match ← loadConfig host a.config with
    | .error e => return { failure := some (.config e) }
    | .ok config =>
      let (result, s) := (Compiler.mk b.assets config).compile b.objects {}
      r.reportAll host s.log
      match result with
      | .error e => return { failure := some (.scene e) }
      | .ok c =>
        let output :=
          if a.json then [(sceneJson c).pretty 0] else summary b.objects.length s.cached c
        return { output }

def openLog : Option String → m (Except DiskError Unit)
  | none => return .ok ()
  | some path => checkPath path host.openLog

def run (arguments : List String) : m Outcome := do
  match readArguments arguments with
  | .error e => return { failure := some (.usage e) }
  | .ok .help => return { output := helpText }
  | .ok .version => return { output := [versionText] }
  | .ok (.run a) =>
    match ← openLog host a.log with
    | .error e => return { failure := some (.logging e) }
    | .ok () => compileBundle host a

end SceneDraw.Program
