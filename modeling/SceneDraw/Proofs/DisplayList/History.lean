import SceneDraw.Proofs.DisplayList.Trace

/-! What the commands that were run say about the live state, the vertices last written to the
slots, the triangles that were drawn and the state at the last of them since the latest load.

A batch is to hold a group of triangles. A group is opened by a load, or by a triangle command
that is not the first one since the latest load and whose live state differs from that of the
triangle command before it. It ends where the next group is opened. -/

namespace SceneDraw.DisplayList

namespace Setting

variable (s : Setting)

def live : History → RenderState
  | [] => .initial
  | c :: past =>
    match s.apply (live past) c with
    | .ok (state, _) => state
    | .error _ => live past

def written (slot : UInt32) : History → Option Vertex
  | [] => none
  | c :: past =>
    match c.load? with
    | none => written slot past
    | some l =>
      if l.start.toNat ≤ slot.toNat ∧ slot.toNat < l.start.toNat + l.count.toNat then
        (s.vertices.find? l.buffer).bind (·[l.offset.toNat + (slot.toNat - l.start.toNat)]?)
      else written slot past

def drawnBy (past : History) (c : Command) : List Drawn :=
  c.triangles.map fun t => ⟨s.live past, t.map fun slot => (s.written slot past).map .ofVertex⟩

def drawn : History → List Drawn
  | [] => []
  | c :: past => drawn past ++ s.drawnBy past c

def lastDrawn : History → Option RenderState
  | [] => none
  | c :: past =>
    if c.load?.isSome then none
    else if c.isTriangle then some (s.live past)
    else lastDrawn past

def changesAt (past : History) (c : Command) : Bool :=
  c.isTriangle && (s.lastDrawn past).any (· ≠ s.live past)

def changes : History → Nat
  | [] => 0
  | c :: past => changes past + (s.changesAt past c).toNat

end Setting

def loads (past : History) : Nat := past.countP (·.load?.isSome)

def lastBuffer : History → Option String
  | [] => none
  | c :: past => (c.load?.map (·.buffer)).or (lastBuffer past)

structure Group where
  opening : History
  drawn : List Drawn

namespace Setting

variable (s : Setting)

def opens (past : History) (c : Command) : Bool := c.load?.isSome || s.changesAt past c

def groups : History → List Group
  | [] => []
  | c :: past =>
    if s.opens past c then ⟨c :: past, s.drawnBy past c⟩ :: groups past
    else
      match groups past with
      | [] => []
      | g :: older => { g with drawn := g.drawn ++ s.drawnBy past c } :: older

variable {s : Setting} {past : History} {c : Command}

lemma apply_of_isTriangle (h : c.isTriangle) (state : RenderState) :
    s.apply state c = .ok (state, []) := by
  cases c <;> simp [Command.isTriangle, Command.triangles] at h <;> rfl

lemma live_of_isTriangle (h : c.isTriangle) : s.live (c :: past) = s.live past := by
  simp [live, apply_of_isTriangle h]

lemma drawnBy_of_not_isTriangle (h : c.isTriangle = false) : s.drawnBy past c = [] := by
  have ht : c.triangles = [] := by simpa [Command.isTriangle] using h
  simp [drawnBy, ht]

lemma drawnBy_ne_nil (h : c.isTriangle) : s.drawnBy past c ≠ [] := by
  simpa [drawnBy, Command.isTriangle] using h

lemma groups_of_not_opens {g : Group} {older : List Group} (h : s.opens past c = false)
    (hg : s.groups past = g :: older) :
    s.groups (c :: past) = { g with drawn := g.drawn ++ s.drawnBy past c } :: older := by
  simp [groups, h, hg]

lemma groups_of_not_isTriangle (hl : c.load? = none) (ht : c.isTriangle = false) :
    s.groups (c :: past) = s.groups past := by
  have hd : s.drawnBy past c = [] := drawnBy_of_not_isTriangle ht
  cases hg : s.groups past <;> simp [groups, opens, changesAt, hl, ht, hg, hd]

lemma length_groups (past : History) : (s.groups past).length = loads past + s.changes past := by
  induction past with
  | nil => rfl
  | cons c past ih =>
    have hd : c.load?.isSome → s.changesAt past c = false := by
      intro hl
      have ht : c.isTriangle = false := by
        by_contra ht
        simp [Command.load?_of_isTriangle (by simpa using ht)] at hl
      simp [changesAt, ht]
    have hn : (s.groups (c :: past)).length = (s.groups past).length + (s.opens past c).toNat := by
      cases ho : s.opens past c <;> cases hg : s.groups past <;> simp [groups, ho, hg]
    rw [hn, ih, loads, loads, changes, List.countP_cons, opens]
    cases hl : c.load?.isSome <;> cases hc : s.changesAt past c <;> simp_all <;> omega

end Setting

def Command.isQuiet (c : Command) : Bool := c.load?.isNone && !c.isTriangle

namespace Setting

variable {s : Setting} {past mid : History} {c d : Command}

lemma lastDrawn_append (h : ∀ d ∈ mid, d.isQuiet) :
    s.lastDrawn (mid ++ past) = s.lastDrawn past := by
  induction mid with
  | nil => rfl
  | cons d mid ih =>
    obtain ⟨hd, h⟩ := List.forall_mem_cons.1 h
    obtain ⟨hl, ht⟩ : d.load? = none ∧ d.isTriangle = false := by simpa [Command.isQuiet] using hd
    simp [lastDrawn, hl, ht, ih h]

lemma opens_after_load (h : ∀ d ∈ mid, d.isQuiet) (hd : d.load?.isSome) :
    s.opens (mid ++ d :: past) c = c.load?.isSome := by
  simp [opens, changesAt, lastDrawn_append h, lastDrawn, hd]

lemma opens_after_undone (h : ∀ d ∈ mid, d.isQuiet) (hd : d.isTriangle)
    (hs : s.live (mid ++ d :: past) = s.live past) :
    s.opens (mid ++ d :: past) c = c.load?.isSome := by
  simp [opens, changesAt, lastDrawn_append h, lastDrawn, hd, hs, Command.load?_of_isTriangle hd]

end Setting

end SceneDraw.DisplayList
