import SceneDraw.Program.Run
import Std.Time.Format

namespace SceneDraw.Main

open Program

/-- Some calls give the number of an error with its sign turned. -/
def isCode (code : UInt32) (n : UInt32) : Bool := code == n || code == -n

def diskError : IO.Error → DiskError
  | .noFileOrDirectory .. => .notFound
  | .permissionDenied .. => .denied
  | .inappropriateType _ code _ => if isCode code 21 then .isDirectory else .notDirectory
  | e@(.invalidArgument _ code _) => if isCode code 36 then .nameTooLong else .other (toString e)
  | e => .other (toString e)

def now : IO String := do
  return (← Std.Time.PlainDateTime.now).format "uuuu-MM-dd HH:mm:ss.SSS"

def host : Host IO where
  read path := do
    try
      match String.fromUTF8? (← IO.FS.readBinFile ⟨path⟩) with
      | some text => return .ok text
      | none => return .error .notText
    catch e => return .error (diskError e)
  openLog path := do
    try
      discard <| IO.FS.Handle.mk ⟨path⟩ .append
      return .ok ()
    catch e => return .error (diskError e)
  report log event := do
    let line := logLine (← now) event ++ "\n"
    IO.eprint line
    match log with
    | none => return
    | some path =>
      -- A line that cannot be written is lost.
      try (← IO.FS.Handle.mk ⟨path⟩ .append).putStr line
      catch _ => return

end SceneDraw.Main

def main (arguments : List String) : IO UInt32 := do
  let o ← SceneDraw.Program.run SceneDraw.Main.host arguments
  for line in o.output do
    IO.println line
  match o.failure with
  | none => return 0
  | some failure =>
    IO.eprintln failure.message
    return 1
