import SceneDraw.Log

namespace SceneDraw.Program

inductive DiskError
  | notFound
  | notDirectory
  | isDirectory
  | denied
  | nameTooLong
  | zeroInPath
  | notText
  | other (text : String)
  deriving DecidableEq, Repr

def DiskError.message : DiskError → String
  | notFound => "No such file or directory (os error 2)"
  | denied => "Permission denied (os error 13)"
  | notDirectory => "Not a directory (os error 20)"
  | isDirectory => "Is a directory (os error 21)"
  | nameTooLong => "File name too long (os error 36)"
  | zeroInPath => "file name contained an unexpected NUL byte"
  | notText => "stream did not contain valid UTF-8"
  | other text => text

structure Host (m : Type → Type) where
  read : String → m (Except DiskError String)
  openLog : String → m (Except DiskError Unit)
  report : Option String → Event → m Unit

variable {m : Type → Type} [Monad m]

def checkPath {α : Type} (path : String) (act : String → m (Except DiskError α)) :
    m (Except DiskError α) :=
  if path.toList.contains '\x00' then return .error .zeroInPath else act path

def levelLabel : Level → String
  | .debug => "DEBUG"
  | .info => "INFO"
  | .warn => "WARN"

def originLabel : Origin → String
  | .bundle => "lakitu_dump::bundle"
  | .layout => "lakitu_geo::interpret"
  | .displayList => "lakitu_gfx::interpret"
  | .scene => "lakitu_scene::compile"

def logLine (time : String) (e : Event) : String :=
  "[" ++ time ++ "] [" ++ levelLabel e.level ++ "] [" ++ originLabel e.origin ++ "] " ++ e.text

structure Reporting where
  verbose : Bool
  file : Option String

def Reporting.shows (r : Reporting) (e : Event) : Bool := r.verbose || e.level != .debug

def Reporting.reportAll (r : Reporting) (host : Host m) (log : Log) : m Unit :=
  (log.filter r.shows).forM (host.report r.file)

end SceneDraw.Program
