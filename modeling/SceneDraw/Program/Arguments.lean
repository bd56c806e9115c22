import SceneDraw.Text.Split

namespace SceneDraw.Program

structure Arguments where
  bundle : String
  config : Option String
  log : Option String
  json : Bool
  verbose : Bool
  deriving DecidableEq, Repr

inductive Request
  | run (arguments : Arguments)
  | help
  | version
  deriving DecidableEq, Repr

inductive OptionName
  | bundle
  | config
  | log
  | json
  | verbose
  | help
  | version
  deriving DecidableEq, Repr

namespace OptionName

def all : List OptionName := [bundle, config, log, json, verbose, help, version]

def text : OptionName → String
  | bundle => "bundle"
  | config => "config"
  | log => "log"
  | json => "json"
  | verbose => "verbose"
  | help => "help"
  | version => "version"

def ofText? (s : String) : Option OptionName := all.find? (·.text = s)

def ofLetter? : Char → Option OptionName
  | 'v' => some verbose
  | 'h' => some help
  | 'V' => some version
  | _ => none

def takesFile : OptionName → Bool
  | bundle | config | log => true
  | _ => false

def isQuestion : OptionName → Bool
  | help | version => true
  | _ => false

end OptionName

inductive UsageError
  | unknown (argument : String)
  | noFile (option : OptionName)
  | repeated (option : OptionName)
  | noBundle
  deriving DecidableEq, Repr

def UsageError.message : UsageError → String
  | unknown argument =>
    s!"error: Found argument '{argument}' which wasn't expected, or isn't valid in this context"
  | noFile option =>
    s!"error: The argument '--{option.text} <FILE>' requires a value but none was supplied"
  | repeated option =>
    let file := if option.takesFile then " <FILE>" else ""
    s!"error: The argument '--{option.text}{file}' was provided more than once, " ++
      "but cannot be used multiple times"
  | noBundle => "error: The following required arguments were not provided:\n    --bundle <FILE>"

abbrev Given := OptionName × Option String

def isOption : List Char → Bool
  | '-' :: _ :: _ => true
  | _ => false

def splitLong (s : List Char) : String × Option String :=
  let s := s.dropWhile (· == '-')
  match Text.cut '=' s with
  | some (name, value) => (.ofList name, some (.ofList (value.dropWhile (· == '='))))
  | none => (.ofList s, none)

def readLetters : List Char → Except UsageError (List Given)
  | [] => .ok []
  | c :: s =>
    match OptionName.ofLetter? c with
    | none => .error (.unknown (.ofList ['-', c]))
    | some name =>
      if name.isQuestion then .ok [(name, none)] else (readLetters s).map ((name, none) :: ·)

def readOptions : List String → Except UsageError (List Given)
  | [] => .ok []
  | a :: rest =>
    match a.toList with
    | ['-', '-'] =>
      match rest.find? (· != "--") with
      | none => .ok []
      | some text => .error (.unknown text)
    | '-' :: '-' :: s =>
      let (text, value) := splitLong s
      match OptionName.ofText? text, value, rest with
      | none, _, _ => .error (.unknown a)
      | some name, value, rest =>
        if name.isQuestion then .ok [(name, none)]
        else if !name.takesFile then (readOptions rest).map ((name, none) :: ·)
        else
          match value, rest with
          | some file, rest => (readOptions rest).map ((name, some file) :: ·)
          | none, [] => .ok [(name, none)]
          | none, file :: rest =>
            if isOption file.toList then (readOptions (file :: rest)).map ((name, none) :: ·)
            else (readOptions rest).map ((name, some file) :: ·)
    | '-' :: c :: letters => do
      let given ← readLetters (c :: letters)
      if given.any (·.1.isQuestion) then .ok given else (readOptions rest).map (given ++ ·)
    | _ => .error (.unknown a)

def file? (given : List Given) (name : OptionName) : Option String :=
  (given.find? (·.1 = name)).bind (·.2)

def lacksFile : Given → Bool := fun (name, file) => name.takesFile && file.isNone

def requestOf (given : List Given) : Except UsageError Request :=
  let names := given.map (·.1)
  if .help ∈ names then .ok .help
  else if .version ∈ names then .ok .version
  else if .bundle ∉ names then .error .noBundle
  else
    match given.find? lacksFile, OptionName.all.find? (1 < names.count ·), file? given .bundle with
    | some (name, _), _, _ => .error (.noFile name)
    | none, some name, _ => .error (.repeated name)
    | none, none, none => .error .noBundle
    | none, none, some bundle =>
      .ok (.run
        { bundle
          config := file? given .config
          log := file? given .log
          json := .json ∈ names
          verbose := .verbose ∈ names })

def readArguments (arguments : List String) : Except UsageError Request := do
  requestOf (← readOptions arguments)

end SceneDraw.Program
