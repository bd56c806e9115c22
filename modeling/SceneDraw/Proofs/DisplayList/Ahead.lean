import SceneDraw.Proofs.DisplayList.Linear

/-! Triangle commands that are read ahead of their turn. A drawing draws the triangle command at the
front of the lines, and with it any number of the lines after it, which are then not run again. It
plays its lines if the machine ends up where these lines one by one lead, with the same errors. Then
a run shows nothing of how far ahead each drawing reads. -/

namespace SceneDraw.DisplayList

namespace Machine

def drawAlone (m : Machine) (list : String) (line : Nat) (c : Command) (_ : List Line) :
    Except Error (Machine × Nat) := do
  let m ← m.draw list line c.triangles
  return (m, 0)

def extendAhead (m : Machine) : List Line → Except Error (Machine × Nat)
  | .ok (some c) :: rest =>
    if c.isTriangle then do
      let m ← m.extend c.triangles
      let (m, n) ← extendAhead m rest
      return (m, n + 1)
    else .ok (m, 0)
  | _ => .ok (m, 0)

/-- Takes the triangle commands after this one along, if the newest batch is in the live state. -/
def drawAhead (m : Machine) (list : String) (line : Nat) (c : Command) (rest : List Line) :
    Except Error (Machine × Nat) :=
  if m.settled then do
    let m ← m.extend c.triangles
    m.extendAhead rest
  else m.drawAlone list line c rest

end Machine

abbrev Drawing := Machine → String → Nat → Command → List Line → Except Error (Machine × Nat)

section

variable (s : Setting) (draw : Drawing)

def runLinesBy (call jump : String → Machine → Outcome) (name : String) (line : Nat)
    (lines : List Line) (m : Machine) : Outcome :=
  match lines with
  | [] => .ok m
  | .error e :: _ => m.stop (.decode name line e)
  | .ok none :: rest => runLinesBy call jump name (line + 1) rest m
  | .ok (some c) :: rest =>
    match c with
    | .call list => do
      let m ← call list m
      runLinesBy call jump name (line + 1) rest m
    | .jump list => jump list m
    | .finish => .ok m
    | c =>
      if c.isTriangle then do
        let (m, n) ← m.lift (draw m name line c rest)
        runLinesBy call jump name (line + 1 + n) (rest.drop n) m
      else do
        let m ← m.lift (m.exec s c)
        runLinesBy call jump name (line + 1) rest m
termination_by lines.length
decreasing_by all_goals simp; try omega

def runListBy (call : String → Machine → Outcome) : Nat → String → Machine → Outcome
  | 0, name, m => do
    let script ← m.lift (s.script name)
    runLinesBy s draw call (fun list m => m.stop (.tooDeep list)) name 0 script m
  | jumps + 1, name, m => do
    let script ← m.lift (s.script name)
    runLinesBy s draw call (runListBy call jumps) name 0 script m

def runNestedBy : Nat → String → Machine → Outcome
  | 0 => runListBy s draw (fun list m => m.stop (.tooDeep list)) s.options.maxDepth
  | depth + 1 => runListBy s draw (runNestedBy depth) s.options.maxDepth

def interpretBy (root : String) : Except Error (List Batch) × Log :=
  match runNestedBy s draw s.options.maxDepth root {} with
  | .ok m =>
    let text := s!"interpreted display list {root}: {m.batches.length} batches"
    (.ok m.batches, m.log ++ [⟨.debug, .displayList, text⟩])
  | .error e => (.error e.error, e.log)

end

def Drawing.Plays (s : Setting) (draw : Drawing) : Prop :=
  ∀ (call jump : String → Trace) (name : String) (line : Nat) (c : Command) (rest : List Line)
    (m : Machine), c.isTriangle →
      (m.lift (draw m name line c rest) >>= fun p =>
        (traceLines call jump name (line + 1 + p.2) (rest.drop p.2)).play s p.1) =
      (traceLines call jump name line (.ok (some c) :: rest)).play s m

section

variable {s : Setting} {m m' : Machine} {name : String} {line : Nat} {c : Command}
  {rest : List Line} {traceCall traceJump : String → Trace}

lemma Command.isControl_of_isTriangle (h : c.isTriangle) : c.isControl = false := by
  cases c <;> simp [isTriangle, triangles, isControl] at h ⊢

lemma play_triangle (h : c.isTriangle) :
    (traceLines traceCall traceJump name line (.ok (some c) :: rest)).play s m =
      m.lift (m.draw name line c.triangles) >>=
        (traceLines traceCall traceJump name (line + 1) rest).play s := by
  rw [Setting.traceLines_plain (Command.isControl_of_isTriangle h), play_cons, Machine.step,
    if_pos h]

lemma plays_drawAlone (s : Setting) : Drawing.Plays s Machine.drawAlone := by
  intro call jump name line c rest m h
  rw [play_triangle h, Machine.drawAlone]
  cases m.draw name line c.triangles with
  | error e => rfl
  | ok m' => rfl

lemma Machine.lift_of_extend {α : Type} {ts : List Triangle} (h : m.extend ts = .ok m')
    (x : Except Error α) : m.lift x = m'.lift x := by
  have hl : m'.log = m.log := by
    cases hb : m.newest with
    | nil =>
      rw [extend, hb] at h
      exact congrArg Machine.log (Except.ok.inj h).symm
    | cons b older =>
      obtain ⟨b', -, rfl⟩ := ok_of_extend hb h
      rfl
  cases x with
  | error e => simp [lift, stop, hl]
  | ok a => rfl

lemma play_extendAhead (hm : m.settled) :
    (m.lift (m.extendAhead rest) >>= fun p =>
      (traceLines traceCall traceJump name (line + p.2) (rest.drop p.2)).play s p.1) =
    (traceLines traceCall traceJump name line rest).play s m := by
  induction rest generalizing line m with
  | nil => rfl
  | cons l rest ih =>
    rcases l with e | _ | c
    · rfl
    · rfl
    rw [Machine.extendAhead]
    split_ifs with hc
    · rw [play_triangle hc, Machine.draw_of_settled hm]
      cases h : m.extend c.triangles with
      | error e => rfl
      | ok m₁ =>
        have hd : m.draw name line c.triangles = .ok m₁ := (Machine.draw_of_settled hm).trans h
        refine .trans ?_ (ih (Machine.settled_of_draw hd))
        rw [Machine.lift_of_extend h]
        change m₁.lift (m₁.extendAhead rest >>= fun p => pure (p.1, p.2 + 1)) >>= _ = _
        cases m₁.extendAhead rest with
        | error e => rfl
        | ok p =>
          have hline : line + (p.2 + 1) = line + 1 + p.2 := by omega
          change (traceLines _ _ name (line + (p.2 + 1)) (rest.drop p.2)).play s p.1 = _
          rw [hline]
          rfl
    · rfl

lemma plays_drawAhead (s : Setting) : Drawing.Plays s Machine.drawAhead := by
  intro call jump name line c rest m h
  rw [Machine.drawAhead]
  split_ifs with hm
  · have hd : m.draw name line c.triangles = m.extend c.triangles := Machine.draw_of_settled hm
    rw [play_triangle h, hd]
    cases he : m.extend c.triangles with
    | error e => rfl
    | ok m₁ =>
      refine .trans ?_ (play_extendAhead (Machine.settled_of_draw (hd.trans he)))
      exact congrArg (· >>= _) (Machine.lift_of_extend he (m₁.extendAhead rest))
  · exact plays_drawAlone s call jump name line c rest m h

variable {draw : Drawing} {call jump : String → Machine → Outcome}

lemma runLinesBy_eq_play (hd : draw.Plays s)
    (hc : ∀ list m, call list m = (traceCall list).play s m)
    (hj : ∀ list m, jump list m = (traceJump list).play s m) (name : String) (line : Nat)
    (lines : List Line) (m : Machine) :
    runLinesBy s draw call jump name line lines m =
      (traceLines traceCall traceJump name line lines).play s m := by
  induction hl : lines.length using Nat.strong_induction_on generalizing line lines m with
  | _ k ih =>
    subst hl
    cases lines with
    | nil => exact runLinesBy.eq_def ..
    | cons l rest =>
      have hlt (n : Nat) : (rest.drop n).length < (l :: rest).length := by
        rw [List.length_drop, List.length_cons]
        omega
      have hrest (n line : Nat) (m : Machine) :
          runLinesBy s draw call jump name line (rest.drop n) m =
            (traceLines traceCall traceJump name line (rest.drop n)).play s m :=
        ih _ (hlt n) _ _ _ rfl
      have plain (c : Command) (ht : c.isTriangle = false) :
          (do
            let m ← m.lift (m.exec s c)
            runLinesBy s draw call jump name (line + 1) rest m) =
            ((traceLines traceCall traceJump name (line + 1) rest).cons
              ⟨name, line, c⟩).play s m := by
        rw [play_cons, Machine.step, if_neg (by simp [ht])]
        exact bind_congr fun m => hrest 0 _ _
      have drawn (c : Command) (ht : c.isTriangle = true) :
          (do
            let (m, n) ← m.lift (draw m name line c rest)
            runLinesBy s draw call jump name (line + 1 + n) (rest.drop n) m) =
          (traceLines traceCall traceJump name line (.ok (some c) :: rest)).play s m := by
        rw [← hd _ _ _ _ _ _ _ ht]
        exact bind_congr fun p => hrest p.2 _ _
      rw [runLinesBy.eq_def]
      rcases l with e | _ | c
      · rfl
      · exact hrest 0 _ _
      · cases c with
        | call list =>
          simp only [traceLines, play_append, hc]
          exact bind_congr fun m => hrest 0 _ _
        | jump list => exact hj list m
        | finish => rfl
        | triangle t => exact drawn _ rfl
        | twoTriangles t u => exact drawn _ rfl
        | _ => exact plain _ rfl

lemma runListBy_eq_play (hd : draw.Plays s)
    (hc : ∀ list m, call list m = (traceCall list).play s m) (jumps : Nat) (name : String)
    (m : Machine) :
    runListBy s draw call jumps name m = (s.traceList traceCall jumps name).play s m := by
  induction jumps generalizing name m with
  | zero =>
    rw [runListBy, Setting.traceList, play_traceScript]
    have hj (list : String) := stop_eq_play (s := s) (.tooDeep list)
    exact bind_congr fun script => runLinesBy_eq_play hd hc hj _ _ _ _
  | succ jumps ih =>
    rw [runListBy, Setting.traceList, play_traceScript]
    exact bind_congr fun script => runLinesBy_eq_play hd hc ih _ _ _ _

lemma runNestedBy_eq_play (hd : draw.Plays s) (depth : Nat) (name : String) (m : Machine) :
    runNestedBy s draw depth name m = (s.traceNested depth name).play s m := by
  induction depth generalizing name m with
  | zero => exact runListBy_eq_play hd (fun list => stop_eq_play (.tooDeep list)) _ _ _
  | succ depth ih => exact runListBy_eq_play hd ih _ _ _

lemma interpretBy_eq (hd : draw.Plays s) (eager : Bool) (root : String) :
    interpretBy s draw root = interpretWith s eager root := by
  have hrun := runNestedBy_eq_play hd s.options.maxDepth root {}
  have hrun' : runNested s eager s.options.maxDepth root {} = _ := runNested_eq_play _ _ _
  rw [interpretBy, hrun, ← hrun']
  rfl

end

theorem interpretBy_drawAhead (s : Setting) (root : String) :
    interpret s root = interpretBy s Machine.drawAhead root ∧
      interpretBy s Machine.drawAhead root = interpretBy s Machine.drawAlone root ∧
      interpretWith s false root = interpret s root := by
  have ahead (eager : Bool) := interpretBy_eq (plays_drawAhead s) eager root
  have alone := interpretBy_eq (plays_drawAlone s) true root
  refine ⟨(ahead true).symm, (ahead true).trans alone.symm, ?_⟩
  exact (ahead false).symm.trans (ahead true)

end SceneDraw.DisplayList
