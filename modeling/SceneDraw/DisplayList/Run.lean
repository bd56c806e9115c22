import SceneDraw.DisplayList.Machine

namespace SceneDraw.DisplayList

section

variable (s : Setting) (eager : Bool)

/--
Runs the lines of the list `name` from the given line on. The lists that it calls and jumps to are
run by `call` and `jump`. A triangle command drawn in the state of the newest batch takes the
triangle commands right after it along into that batch, if `eager` is set; `along` is set for these.
-/
def runLines (call jump : String → Machine → Outcome) (name : String) :
    Nat → Bool → List Line → Machine → Outcome
  | _, _, [], m => .ok m
  | line, _, .error e :: _, m => m.stop (.decode name line e)
  | line, _, .ok none :: rest, m => runLines call jump name (line + 1) false rest m
  | line, along, .ok (some c) :: rest, m =>
    match c with
    | .call list => do
      let m ← call list m
      runLines call jump name (line + 1) false rest m
    | .jump list => jump list m
    | .finish => .ok m
    | c =>
      if c.isTriangle then do
        let settled := along || m.settled
        let m ← m.lift (if along then m.extend c.triangles else m.draw name line c.triangles)
        runLines call jump name (line + 1) (eager && settled) rest m
      else do
        let m ← m.lift (m.exec s c)
        runLines call jump name (line + 1) false rest m

def runList (call : String → Machine → Outcome) : Nat → String → Machine → Outcome
  | 0, name, m => do
    let script ← m.lift (s.script name)
    runLines s eager call (fun list m => m.stop (.tooDeep list)) name 0 false script m
  | jumps + 1, name, m => do
    let script ← m.lift (s.script name)
    runLines s eager call (runList call jumps) name 0 false script m

def runNested : Nat → String → Machine → Outcome
  | 0 => runList s eager (fun list m => m.stop (.tooDeep list)) s.options.maxDepth
  | depth + 1 => runList s eager (runNested depth) s.options.maxDepth

end

def interpretWith (s : Setting) (eager : Bool) (root : String) : Except Error (List Batch) × Log :=
  match runNested s eager s.options.maxDepth root {} with
  | .ok m =>
    let text := s!"interpreted display list {root}: {m.batches.length} batches"
    (.ok m.batches, m.log ++ [⟨.debug, .displayList, text⟩])
  | .error e => (.error e.error, e.log)

def interpret (s : Setting) (root : String) : Except Error (List Batch) × Log :=
  interpretWith s true root

end SceneDraw.DisplayList
