import SceneDraw.DisplayList.Run
import SceneDraw.Proofs.DisplayList.Machine

/-! The commands that a display list runs, those of the lists that it calls and jumps to in their
place, and the error that ends them, if any. A run is the play of these commands one after another,
with or without taking triangles along. A history holds commands that were run, the latest first. -/

namespace SceneDraw.DisplayList

structure Trace where
  commands : List Placed := []
  fault : Option Error := none

namespace Trace

def failing (e : Error) : Trace := { fault := some e }

def cons (c : Placed) (t : Trace) : Trace := { t with commands := c :: t.commands }

def append (t u : Trace) : Trace :=
  match t.fault with
  | none => ⟨t.commands ++ u.commands, u.fault⟩
  | some _ => t

end Trace

def Trace.play (s : Setting) (t : Trace) (m : Machine) : Outcome := do
  let m ← t.commands.foldlM (fun m c => m.lift (m.step s c)) m
  match t.fault with
  | none => .ok m
  | some e => m.stop e

def traceLines (call jump : String → Trace) (name : String) : Nat → List Line → Trace
  | _, [] => {}
  | line, .error e :: _ => .failing (.decode name line e)
  | line, .ok none :: rest => traceLines call jump name (line + 1) rest
  | line, .ok (some c) :: rest =>
    match c with
    | .call list => (call list).append (traceLines call jump name (line + 1) rest)
    | .jump list => jump list
    | .finish => {}
    | c => (traceLines call jump name (line + 1) rest).cons ⟨name, line, c⟩

namespace Setting

variable (s : Setting)

def traceScript (call jump : String → Trace) (name : String) : Trace :=
  match s.script name with
  | .ok script => traceLines call jump name 0 script
  | .error e => .failing e

def traceList (call : String → Trace) : Nat → String → Trace
  | 0 => s.traceScript call fun list => .failing (.tooDeep list)
  | jumps + 1 => s.traceScript call (traceList call jumps)

def traceNested : Nat → String → Trace
  | 0 => s.traceList (fun list => .failing (.tooDeep list)) s.options.maxDepth
  | depth + 1 => s.traceList (traceNested depth) s.options.maxDepth

def trace (root : String) : Trace := s.traceNested s.options.maxDepth root

end Setting

section

variable {s : Setting} {m m' : Machine}

lemma stop_eq_play (e : Error) (m : Machine) : m.stop e = (Trace.failing e).play s m := rfl

lemma play_cons (c : Placed) (t : Trace) :
    (t.cons c).play s m = m.lift (m.step s c) >>= t.play s := by
  cases h : m.step s c <;> simp [Trace.play, Trace.cons, h, Machine.lift, Machine.stop] <;> rfl

lemma play_append (t u : Trace) : (t.append u).play s m = t.play s m >>= u.play s := by
  cases h : t.fault with
  | none =>
    simp only [Trace.append, Trace.play, h, List.foldlM_append, bind_assoc]
    rfl
  | some e =>
    simp only [Trace.append, Trace.play, h, bind_assoc]
    rfl

variable {eager : Bool} {call jump : String → Machine → Outcome}
  {traceCall traceJump : String → Trace}

lemma runLines_eq_play (hc : ∀ list m, call list m = (traceCall list).play s m)
    (hj : ∀ list m, jump list m = (traceJump list).play s m) (name : String) (line : Nat)
    (along : Bool) (script : List Line) (m : Machine) (ha : along = true → m.settled = true) :
    runLines s eager call jump name line along script m =
      (traceLines traceCall traceJump name line script).play s m := by
  have alone {m : Machine} (h : false = true) : m.settled = true := absurd h Bool.false_ne_true
  induction script generalizing line along m with
  | nil => rfl
  | cons l rest ih =>
    have plain (c : Command) (ht : c.isTriangle = false) :
        (do
          let m ← m.lift (m.exec s c)
          runLines s eager call jump name (line + 1) false rest m) =
        ((traceLines traceCall traceJump name (line + 1) rest).cons ⟨name, line, c⟩).play s m := by
      rw [play_cons, Machine.step, if_neg (by simp [ht])]
      exact bind_congr fun m => ih _ _ _ alone
    -- The triangle before the one that is taken along left the newest batch in the live state.
    have drawn (c : Command) (ht : c.isTriangle = true) :
        (do
          let settled := along || m.settled
          let m ← m.lift (if along then m.extend c.triangles else m.draw name line c.triangles)
          runLines s eager call jump name (line + 1) (eager && settled) rest m) =
        ((traceLines traceCall traceJump name (line + 1) rest).cons ⟨name, line, c⟩).play s m := by
      have hd : (if along then m.extend c.triangles else m.draw name line c.triangles) =
          m.draw name line c.triangles := by
        split_ifs with h
        · exact (Machine.draw_of_settled (ha h)).symm
        · rfl
      rw [play_cons, Machine.step, if_pos ht, hd]
      cases h : m.draw name line c.triangles with
      | error e => rfl
      | ok m' => exact ih _ _ _ fun _ => Machine.settled_of_draw h
    rcases l with e | _ | c
    · rfl
    · exact ih _ _ _ alone
    · cases c with
      | call list =>
        simp only [runLines, traceLines, play_append, hc]
        exact bind_congr fun m => ih _ _ _ alone
      | jump list => exact hj list m
      | finish => rfl
      | triangle t => exact drawn _ rfl
      | twoTriangles t u => exact drawn _ rfl
      | _ => exact plain _ rfl

lemma play_traceScript (name : String) :
    (s.traceScript traceCall traceJump name).play s m =
      m.lift (s.script name) >>= fun script =>
        (traceLines traceCall traceJump name 0 script).play s m := by
  rw [Setting.traceScript]
  cases h : s.script name <;> rfl

lemma runList_eq_play (hc : ∀ list m, call list m = (traceCall list).play s m) (jumps : Nat)
    (name : String) (m : Machine) :
    runList s eager call jumps name m = (s.traceList traceCall jumps name).play s m := by
  induction jumps generalizing name m with
  | zero =>
    rw [runList, Setting.traceList, play_traceScript]
    have hj (list : String) := stop_eq_play (s := s) (.tooDeep list)
    exact bind_congr fun script => runLines_eq_play hc hj _ _ _ _ _ nofun
  | succ jumps ih =>
    rw [runList, Setting.traceList, play_traceScript]
    exact bind_congr fun script => runLines_eq_play hc ih _ _ _ _ _ nofun

lemma runNested_eq_play (depth : Nat) (name : String) (m : Machine) :
    runNested s eager depth name m = (s.traceNested depth name).play s m := by
  induction depth generalizing name m with
  | zero => exact runList_eq_play (fun list => stop_eq_play (.tooDeep list)) _ _ _
  | succ depth ih => exact runList_eq_play ih _ _ _

lemma ok_of_play {t : Trace} (h : t.play s m = .ok m') :
    t.fault = none ∧ t.commands.foldlM (fun m c => m.lift (m.step s c)) m = .ok m' := by
  obtain ⟨m₁, hm, h⟩ := ok_of_bind h
  cases hf : t.fault with
  | none =>
    rw [hf] at h
    exact ⟨rfl, hm.trans h⟩
  | some e =>
    rw [hf] at h
    cases h

lemma ok_of_lift {α : Type} {x : Except Error α} {a : α} (h : m.lift x = .ok a) : x = .ok a := by
  cases x with
  | error e => cases h
  | ok b => exact congrArg Except.ok (Except.ok.inj h)

lemma ok_of_interpretWith {root : String} {batches : List Batch}
    (h : (interpretWith s eager root).1 = .ok batches) :
    ∃ m, (s.trace root).play s {} = .ok m ∧ m.batches = batches := by
  rw [interpretWith, runNested_eq_play] at h
  cases hm : (s.traceNested s.options.maxDepth root).play s {} with
  | error e => simp [hm] at h
  | ok m => exact ⟨m, hm, by simpa [hm] using h⟩

end

abbrev History := List Command

def Trace.past (t : Trace) : History := (t.commands.map (·.command)).reverse

lemma play_induction {s : Setting} {Inv : History → Machine → Prop}
    (step : ∀ {past m p m'}, Inv past m → m.step s p = .ok m' → Inv (p.command :: past) m')
    {t : Trace} {m' : Machine} (init : Inv [] {}) (h : t.play s {} = .ok m') : Inv t.past m' := by
  have hrun (ps : List Placed) (past : History) (m : Machine) (hm : Inv past m)
      (h : ps.foldlM (fun m c => m.lift (m.step s c)) m = .ok m') :
      Inv ((ps.map (·.command)).reverse ++ past) m' := by
    induction ps generalizing past m with
    | nil =>
      obtain rfl := Except.ok.inj h
      exact hm
    | cons p ps ih =>
      obtain ⟨m₁, h₁, h⟩ := ok_of_bind h
      simpa using ih (p.command :: past) m₁ (step hm (ok_of_lift h₁)) h
  simpa [Trace.past] using hrun t.commands [] {} init (ok_of_play h).2

end SceneDraw.DisplayList
