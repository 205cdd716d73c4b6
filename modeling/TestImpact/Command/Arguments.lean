import TestImpact.Command.Delivery

namespace TestImpact.Command

open Artifact (Kind)

inductive Request
  | artifacts (kind : Kind) (paths : List Files.Path) (check : Bool)
  | upload (file : Files.Path) (options : DeliveryOptions)
  | describe (options : DeliveryOptions)
  | version
  | help
  deriving DecidableEq, Repr

inductive UsageError
  | misused
  deriving DecidableEq, Repr

inductive ValueForm
  | text
  | path
  | commit
  | reportFormat
  | artifactKind
  deriving DecidableEq, Repr

def ValueForm.admits : ValueForm → String → Bool
  | text, _ => true
  | path, s => s ≠ ""
  | commit, s => (Commit.ofName s).toBool
  | reportFormat, s => (Report.Format.ofName s).toBool
  | artifactKind, s => (Kind.ofName s).toBool

structure OptionRule where
  name : String
  takesValue : Bool := true
  form : ValueForm := .text
  environmentName : Option String := none
  deriving DecidableEq, Repr

structure CommandRules where
  options : List OptionRule
  mostPaths : Option Nat := some 0
  deriving DecidableEq, Repr

structure Given where
  options : List (String × String) := []
  flags : List String := []
  others : List String := []
  asksHelp : Bool := false

def Given.withOption (g : Given) (rule : OptionRule) (value : String) : Except UsageError Given :=
  if (g.options.lookup rule.name).isSome ∨ !rule.form.admits value then .error .misused
  else .ok { g with options := (rule.name, value) :: g.options }

def Given.withFlag (g : Given) (name : String) : Except UsageError Given :=
  if name ∈ g.flags then .error .misused else .ok { g with flags := name :: g.flags }

def Given.withPath (g : Given) (rules : CommandRules) (arg : String) : Except UsageError Given :=
  let isFull := (rules.mostPaths.map (decide <| · ≤ g.others.length)).getD false
  if isFull || !ValueForm.path.admits arg then .error .misused
  else .ok { g with others := g.others ++ [arg] }

def isPlain (arg : String) : Bool := arg = "-" || arg.toList.head? ≠ some '-'

def splitEquals (arg : List Char) : String × Option String :=
  let name := String.ofList (arg.takeWhile (· ≠ '='))
  match arg.dropWhile (· ≠ '=') with
  | _ :: value => (name, some (String.ofList value))
  | [] => (name, none)

def ruleOf (rules : List OptionRule) (arg : String) : Option (OptionRule × Option String) :=
  match arg.toList with
  | '-' :: '-' :: long =>
    let (name, value?) := splitEquals long
    (rules.find? (·.name = name)).map fun rule => (rule, value?)
  | _ => none

def asks (word : String) (letter : Char) (arg : String) : Bool :=
  arg = "--" ++ word || ['-', letter].isPrefixOf arg.toList

/-- Sorts out arguments by the rules of a command. Behind `--` all are plain. Help is given if
    nothing in front of the question for it is wrong. -/
def sortOut (rules : CommandRules) (g : Given) : List String → Except UsageError Given
  | [] => .ok g
  | arg :: more =>
    if arg = "--" then more.foldlM (fun g path => g.withPath rules path) g
    else if isPlain arg then do
      let g ← g.withPath rules arg
      sortOut rules g more
    else if asks "help" 'h' arg then .ok { g with asksHelp := true }
    else
      match ruleOf rules.options arg with
      | none => .error .misused
      | some (rule, value?) =>
        match rule.takesValue, value? with
        | true, some value => do
          let g ← g.withOption rule value
          sortOut rules g more
        | true, none =>
          match more with
          | [] => .error .misused
          | value :: rest =>
            if isPlain value then do
              let g ← g.withOption rule value
              sortOut rules g rest
            else .error .misused
        | false, none => do
          let g ← g.withFlag rule.name
          sortOut rules g more
        | false, some _ => .error .misused

def Given.value (g : Given) (environment : String → Option String) (rule : OptionRule) :
    Option String :=
  match g.options.lookup rule.name with
  | some v => some v
  | none => rule.environmentName.bind environment

def Given.required (g : Given) (environment : String → Option String) (rule : OptionRule) :
    Except UsageError String :=
  match g.value environment rule with
  | some v => .ok v
  | none => .error .misused

def refusedAsMisused {α : Type} (x : Except Refusal α) : Except UsageError α :=
  x.mapError fun _ => .misused

def serverUrlRule : OptionRule := { name := "server-url", environmentName := some "TIA_SERVER_URL" }
def projectRule : OptionRule := { name := "project", environmentName := some "TIA_PROJECT" }
def userRule : OptionRule := { name := "user", environmentName := some "TIA_USER" }
def accessKeyRule : OptionRule := { name := "access-key", environmentName := some "TIA_ACCESS_KEY" }
def partitionRule : OptionRule := { name := "partition", environmentName := some "TIA_PARTITION" }
def commitRule : OptionRule := { name := "commit", form := .commit }
def revisionRule : OptionRule := { name := "revision" }
def formatRule : OptionRule := { name := "report-format", form := .reportFormat }
def messageRule : OptionRule := { name := "message" }
def fallbackRule : OptionRule := { name := "fallback-dir", form := .path }

def deliveryRules : List OptionRule :=
  [serverUrlRule, projectRule, userRule, accessKeyRule, partitionRule, commitRule, revisionRule,
   formatRule, messageRule, fallbackRule]

def kindRule : OptionRule := { name := "format", form := .artifactKind }
def checkRule : OptionRule := { name := "check", takesValue := false }

def artifactsRules : CommandRules := { options := [kindRule, checkRule], mostPaths := none }
def uploadRules : CommandRules := { options := deliveryRules, mostPaths := some 1 }
def describeRules : CommandRules := { options := deliveryRules }

def defaultFallback : String := "coverage-fallback"

def deliveryOptions (g : Given) (environment : String → Option String) :
    Except UsageError DeliveryOptions := do
  let serverUrl ← g.required environment serverUrlRule
  let project ← g.required environment projectRule
  let partition ← g.required environment partitionRule
  let commit ← match g.value environment commitRule with
    | some text => (refusedAsMisused (Commit.ofName text)).map some
    | none => .ok none
  let revision := g.value environment revisionRule
  if commit.isSome = revision.isSome then .error .misused
  let format ← match g.value environment formatRule with
    | some name => refusedAsMisused (Report.Format.ofName name)
    | none => .ok .jacoco
  return {
    serverUrl, project, partition, commit, revision, format
    fallbackDirectory := .ofString ((g.value environment fallbackRule).getD defaultFallback)
    user := g.value environment userRule
    accessKey := g.value environment accessKeyRule
    message := g.value environment messageRule }

def readArtifacts (environment : String → Option String) (args : List String) :
    Except UsageError Request := do
  let g ← sortOut artifactsRules {} args
  if g.asksHelp then return .help
  let name ← g.required environment kindRule
  let kind ← refusedAsMisused (Kind.ofName name)
  if g.others = [] then .error .misused
  return .artifacts kind (g.others.map .ofString) (checkRule.name ∈ g.flags)

def readUpload (environment : String → Option String) (args : List String) :
    Except UsageError Request := do
  let g ← sortOut uploadRules {} args
  if g.asksHelp then return .help
  let options ← deliveryOptions g environment
  match g.others with
  | [file] => return .upload (.ofString file) options
  | _ => .error .misused

def readDescribe (environment : String → Option String) (args : List String) :
    Except UsageError Request := do
  let g ← sortOut describeRules {} args
  if g.asksHelp then return .help
  return .describe (← deliveryOptions g environment)

def helpTopics : List (List String) := [[], ["artifacts"], ["upload"], ["describe"], ["help"]]

def Request.read (environment : String → Option String) : List String → Except UsageError Request
  | [] => .error .misused
  | first :: args =>
    if first = "artifacts" then readArtifacts environment args
    else if first = "upload" then readUpload environment args
    else if first = "describe" then readDescribe environment args
    else if first = "help" then if args ∈ helpTopics then .ok .help else .error .misused
    else if asks "version" 'V' first then .ok .version
    else if asks "help" 'h' first then .ok .help
    else .error .misused

end TestImpact.Command
