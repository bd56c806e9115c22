import SceneDraw.Source.Store

namespace SceneDraw.Layout

inductive Error
  | decode (layout : String) (line : Nat) (cause : ParseError)
  | missingLayout (name : String)
  | cycle (name : String)
  | tooDeep (name : String)
  deriving DecidableEq

namespace Error

def isResolution : Error → Bool
  | missingLayout _ => true
  | _ => false

def message : Error → String
  | decode layout line cause => s!"in {layout} line {line + 1}: {cause.message}"
  | missingLayout name => s!"undefined geo layout: {name}"
  | cycle name => s!"geo layout branches into itself: {name}"
  | tooDeep name => s!"geo branch depth exceeded at {name}"

def ofLookup (name : String) : SourceError → Error
  | .undefined _ name => missingLayout name
  | .malformed cause => decode name 0 cause

end Error

end SceneDraw.Layout
