import SceneDraw.Source.Store

namespace SceneDraw.DisplayList

/-- Lines count from zero and are reported from one. -/
inductive Error
  | decode (list : String) (line : Nat) (cause : ParseError)
  | missingList (name : String)
  | missingBuffer (name : String)
  | missingLight (name : String)
  | invalidIndex (index count : UInt32)
  | noVertices (list : String) (line : Nat)
  | missingTexture (name : String)
  | tooDeep (name : String)
  deriving DecidableEq

namespace Error

def isResolution : Error → Bool
  | missingList _ | missingBuffer _ | missingLight _ => true
  | _ => false

def message : Error → String
  | decode list line cause => s!"in {list} line {line + 1}: {cause.message}"
  | missingList name => s!"undefined display list: {name}"
  | missingBuffer name => s!"undefined vertex buffer: {name}"
  | missingLight name => s!"undefined light: {name}"
  | invalidIndex index count =>
    s!"vertex index {index} out of range for {count} loaded vertices"
  | noVertices list line => s!"in {list} line {line + 1}: triangle before any vertex load"
  | missingTexture name => s!"undefined texture: {name}"
  | tooDeep name => s!"display list nesting too deep at {name}"

def ofLookup (name : String) : SourceError → Error
  | .undefined _ name => missingList name
  | .malformed cause => decode name 0 cause

end Error

end SceneDraw.DisplayList
