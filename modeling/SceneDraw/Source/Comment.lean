namespace SceneDraw.Source

inductive CommentScan
  | code
  | lineComment
  | blockComment
  deriving DecidableEq

namespace CommentScan

def strip : CommentScan → List Char → List Char
  | _, [] => []
  | code, '/' :: '/' :: s => strip lineComment s
  | code, '/' :: '*' :: s => strip blockComment s
  | code, c :: s => c :: strip code s
  | lineComment, c :: s => if c = '\n' then '\n' :: strip code s else strip lineComment s
  | blockComment, '*' :: '/' :: s => strip code s
  | blockComment, c :: s =>
    if c = '\n' then '\n' :: strip blockComment s else strip blockComment s

end CommentScan

def stripComments (s : List Char) : List Char := CommentScan.code.strip s

def afterBlock : List Char → List Char
  | [] => []
  | '*' :: '/' :: s => s
  | _ :: s => afterBlock s

theorem length_afterBlock_le (s : List Char) : (afterBlock s).length ≤ s.length := by
  fun_induction afterBlock s <;> simp_all <;> omega

def stripLineComments (s : List Char) : List Char :=
  match s with
  | [] => []
  | '/' :: '/' :: _ => []
  | '/' :: '*' :: s =>
    have := length_afterBlock_le s
    stripLineComments (afterBlock s)
  | c :: s => c :: stripLineComments s
termination_by s.length
decreasing_by all_goals grind

end SceneDraw.Source
