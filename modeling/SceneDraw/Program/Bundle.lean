import SceneDraw.Format.Decode
import SceneDraw.Json.Parser
import SceneDraw.Program.Host

/-! Scene bundles, and reading them with the C files that they list. -/

namespace SceneDraw.Program

open Scene

inductive LoadCause
  | disk (error : DiskError)
  | json
  | source (error : ParseError)
  deriving DecidableEq

structure LoadError where
  path : String
  cause : LoadCause
  deriving DecidableEq

def LoadCause.message : LoadCause → String
  | disk error => error.message
  | json => "not the expected JSON"
  | source error => (SourceError.malformed error).message

def LoadError.message (e : LoadError) : String := s!"{e.path}: {e.cause.message}"

structure Bundle where
  assets : Assets
  objects : List Object
  cFiles : List String
  deriving DecidableEq

namespace Bundle

def maxDepth : Nat := 127

def ownNames : List String := ["objects", "c_files"]

def readable (members : List (String × Json)) : Bool :=
  members.all fun m => ownNames.contains m.1 || m.2.readableWithin (maxDepth - 1)

def decode : Format.Decoder Bundle
  | .obj members => do
    guard (readable members)
    let fs ← Format.fields (Format.assetsNames ++ ownNames) (.obj members)
    return { assets := ← Format.assetsOfFields fs
             objects := ← fs.withDefault "objects" (Format.list Format.object) []
             cFiles := ← fs.withDefault "c_files" (Format.list Format.string) [] }
  | _ => none

end Bundle

def dropEmptyNames : List Char → List Char
  | '/' :: s => dropEmptyNames s
  | '.' :: '/' :: s => dropEmptyNames s
  | s => s

def directory (path : String) : String :=
  match (path.toList.reverse.dropWhile (· == '/')).dropWhile (· != '/') with
  | [] => ""
  | s =>
    match dropEmptyNames s with
    | [] => "/"
    | s => .ofList s.reverse

def joinPath (dir path : String) : String :=
  if path.toList.head? = some '/' ∨ dir = "" then path
  else if dir.toList.getLast? = some '/' then dir ++ path
  else dir ++ "/" ++ path

variable {m : Type → Type} [Monad m] (host : Host m)

def readFile (path : String) : m (Except LoadError String) := do
  match ← checkPath path host.read with
  | .ok text => return .ok text
  | .error e => return .error ⟨path, .disk e⟩

def readJson {α : Type} (decode : Format.Decoder α) (path : String) : m (Except LoadError α) := do
  match ← readFile host path with
  | .error e => return .error e
  | .ok text =>
    match (Json.parse? text).bind decode with
    | some a => return .ok a
    | none => return .error ⟨path, .json⟩

def bundleEvent (level : Level) (text : String) : Event := ⟨level, .bundle, text⟩

def indexFiles (r : Reporting) (dir : String) : List String → Assets → m (Except LoadError Assets)
  | [], a => return .ok a
  | file :: files, a => do
    let path := joinPath dir file
    match ← readFile host path with
    | .error e => return .error e
    | .ok text =>
      match a.indexFile text with
      | (_, .error e) => return .error ⟨path, .source e⟩
      | (a, .ok count) =>
        r.reportAll host [bundleEvent .debug s!"indexed {count} declarations from {path}"]
        indexFiles r dir files a

def loadBundle (r : Reporting) (path : String) : m (Except LoadError Bundle) := do
  match ← readJson host Bundle.decode path with
  | .error e => return .error e
  | .ok b =>
    match ← indexFiles host r (directory path) b.cFiles b.assets with
    | .error e => return .error e
    | .ok assets =>
      let sources := s!"{assets.sources.size} sources, {assets.vertices.size} vertex buffers"
      r.reportAll host
        [bundleEvent .info s!"loaded bundle {path}: {sources}, {b.objects.length} objects"]
      return .ok { b with assets }

end SceneDraw.Program
