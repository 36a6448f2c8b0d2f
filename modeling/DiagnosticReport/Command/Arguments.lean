import DiagnosticReport.Files.Path

/-!
# Commands and their arguments

A command line names a command, its options and its operands. Options take a value, in the next
argument or after an equals sign; all but `--recipe` may be given once. `-v` and `--verbose` may
stand between any two of them, and `--` ends the options.
-/

namespace DiagnosticReport

/-- What to look up in a document. -/
inductive Lookup where
  /-- A path expression. -/
  | path (text : String)
  /-- The JSON text of a data source. -/
  | source (text : String)

/-- What to render, and where to. -/
structure RenderRequest where
  document : String
  recipes : List String := []
  /-- A folder with recipes at any depth. -/
  recipesFolder : Option String := none
  outputFolder : String := "reports"
  config : Option String := none

/-- A command. -/
inductive Command where
  | render (request : RenderRequest)
  | resolve (document : String) (lookup : Lookup)
  | validateRecipe (file : String)
  | validateConfig (file : Option String)
  | showConfig (file : Option String)

namespace Command

/-! ## Arguments -/

/-- An option of a command. -/
structure Opt where
  name : String
  /-- The value is a path of a file and must not be empty. -/
  isPath : Bool := true

/-- The options and operands of a command, in their order. -/
structure Arguments where
  options : List (String × String) := []
  operands : List String := []

/-- The argument is an option or a group of flags and no value. -/
def isOptionLike (arg : String) : Bool :=
  match arg.toList with
  | '-' :: _ :: _ => true
  | _ => false

/-- The argument asks for more messages and nothing else. -/
def isVerbosity (arg : String) : Bool :=
  arg == "--verbose" ||
  match arg.toList with
  | '-' :: c :: cs => (c :: cs).all (· == 'v')
  | _ => false

/-- The name of a long option and the value after its equals sign, if there is one. -/
def longOption? (arg : String) : Option (String × Option String) :=
  match arg.toList with
  | '-' :: '-' :: cs =>
    let name := String.ofList (cs.takeWhile (· != '='))
    match cs.dropWhile (· != '=') with
    | [] => some (name, none)
    | _ :: value => some (name, some (String.ofList value))
  | _ => none

namespace Arguments

/-- Put an option in front, unless its value must not be empty and is. -/
def withOption? (option : Opt) (value : String) (arguments : Arguments) : Option Arguments :=
  if option.isPath && value.isEmpty then none
  else some { arguments with options := (option.name, value) :: arguments.options }

/-- Put an operand in front. -/
def withOperand (operand : String) (arguments : Arguments) : Arguments :=
  { arguments with operands := operand :: arguments.operands }

/-- The arguments of a command with the given options; none if they do not fit. -/
def read? (known : List Opt) : List String → Option Arguments
  | [] => some {}
  | arg :: rest =>
    if arg = "--" then some { operands := rest }
    else if isVerbosity arg then read? known rest
    else
      match longOption? arg with
      | none => if isOptionLike arg then none else (read? known rest).map (withOperand arg)
      | some (name, attached) => do
        let option ← known.find? fun o => o.name == name
        match attached with
        | some value => (← read? known rest).withOption? option value
        | none =>
          match rest with
          | [] => none
          | value :: rest =>
            if isOptionLike value then none else (← read? known rest).withOption? option value

/-- The values of an option, in their order. -/
def values (arguments : Arguments) (name : String) : List String :=
  (arguments.options.filter fun option => option.1 == name).map Prod.snd

/-- The value of an option that may be given once; none if it is given more than once. -/
def single? (arguments : Arguments) (name : String) : Option (Option String) :=
  match arguments.values name with
  | [] => some none
  | [value] => some (some value)
  | _ => none

/-- The options of a command without operands. -/
def withoutOperands? (arguments : Arguments) : Option Arguments :=
  if arguments.operands.isEmpty then some arguments else none

end Arguments

/-! ## Commands -/

/-- The name of a command and the arguments after it. -/
def name? : List String → Option (String × List String)
  | [] => none
  | arg :: rest =>
    if isVerbosity arg then name? rest
    else if isOptionLike arg then none
    else some (arg, rest)

/-- The command that renders reports. -/
def render? (args : List String) : Option Command := do
  let known : List Opt := [⟨"idm", true⟩, ⟨"recipe", true⟩, ⟨"recipes-dir", true⟩,
    ⟨"out-dir", true⟩, ⟨"config", true⟩]
  let arguments ← (← Arguments.read? known args).withoutOperands?
  let document ← (← arguments.single? "idm")
  let recipesFolder ← arguments.single? "recipes-dir"
  let outputFolder ← arguments.single? "out-dir"
  let config ← arguments.single? "config"
  return .render ⟨document, arguments.values "recipe", recipesFolder,
    outputFolder.getD "reports", config⟩

/-- The command that looks something up: either a path or a data source. -/
def resolve? (args : List String) : Option Command := do
  let known : List Opt := [⟨"idm", true⟩, ⟨"path", false⟩, ⟨"source", false⟩]
  let arguments ← (← Arguments.read? known args).withoutOperands?
  let document ← (← arguments.single? "idm")
  match ← arguments.single? "path", ← arguments.single? "source" with
  | some path, none => return .resolve document (.path path)
  | none, some source => return .resolve document (.source source)
  | _, _ => none

/-- The commands on recipes. -/
def recipe? (args : List String) : Option Command := do
  let (name, rest) ← name? args
  match name, (← Arguments.read? [] rest).operands with
  | "validate", [file] => if file.isEmpty then none else return .validateRecipe file
  | _, _ => none

/-- The commands on configurations. -/
def config? (args : List String) : Option Command := do
  let (name, rest) ← name? args
  let arguments ← (← Arguments.read? [⟨"path", true⟩] rest).withoutOperands?
  let file ← arguments.single? "path"
  match name with
  | "validate" => return .validateConfig file
  | "show" => return .showConfig file
  | _ => none

/-- The command of a command line; none if it is used wrongly. -/
def parse? (args : List String) : Option Command := do
  let (name, rest) ← name? args
  match name with
  | "render" => render? rest
  | "resolve" => resolve? rest
  | "recipe" => recipe? rest
  | "config" => config? rest
  | _ => none

end Command

end DiagnosticReport
