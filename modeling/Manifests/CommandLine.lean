import Manifests.Arguments
import Manifests.LogLevel
import Manifests.Output
import Manifests.Settings

/-! The command line. -/

namespace Manifests

/-- What a conversion is told on the command line. -/
structure ConvertRequest where
  file : String := ""
  out : Option String := none
  stdout : Bool := false
  json : Bool := false
  controller : Option ControllerChoice := none
  provider : Option Provider := none
  groupMode : Option String := none
  volumes : Option VolumeMode := none
  networkPolicies : Bool := false
  namespaceName : Option String := none
  claimSize : Option String := none
deriving DecidableEq

namespace ConvertRequest

/-- What no single argument tells is wrong. -/
def checked (c : ConvertRequest) : Except Problem ConvertRequest := do
  if c.stdout && c.out.isSome then
    throw (.argument "--out and --stdout can't be set at the same time")
  match c.groupMode.filter fun mode => ["label", "volume"].all (· ≠ mode) with
  | some mode => throw (.argument ("unknown service group mode " ++ Text.quoted mode))
  | none => return c

/-- The choices for the conversion; where the command line is silent the settings count. -/
def options (c : ConvertRequest) (s : ConvertSettings) : Except Problem Options := do
  let controller ←
    match c.controller, filled s.controller with
    | some controller, _ => pure (some controller)
    | none, some name => some <$> (ControllerChoice.parse name).mapError .argument
    | none, none => pure none
  let provider ←
    match c.provider with
    | some provider => pure provider
    | none => (Provider.parse s.provider).mapError .argument
  let volumes ←
    match c.volumes with
    | some volumes => pure volumes
    | none => (VolumeMode.parse s.volumes).mapError .argument
  return {
    controller
    provider
    groupMode := c.groupMode.or s.groupMode
    volumes
    networkPolicies := c.networkPolicies || s.networkPolicies
    claimSize := c.claimSize.getD s.claimSize
    namespaceName := c.namespaceName.or s.namespaceName }

def format (c : ConvertRequest) (s : ConvertSettings) : Format :=
  if c.json || s.json then .json else .yaml

end ConvertRequest

inductive Command where
  | info
  | convert (request : ConvertRequest)
deriving DecidableEq

/-- What every command can be told. -/
structure GlobalRequest where
  root : Option String := none
  logLevel : Option LogLevel := none
  settings : Option String := none
deriving DecidableEq

structure CommandLine where
  globals : GlobalRequest
  command : Command
deriving DecidableEq

namespace CommandLine

section

variable {α β : Type}

/-- A path is not empty. -/
def pathValue (set : α → String → α) : Effect α :=
  .value fun s a => if s = "" then .error .missingValue else .ok (set a s)

def textValue (set : α → String → α) : Effect α := .value fun s a => .ok (set a s)

def choiceValue (parse : String → Option β) (set : α → β → α) : Effect α :=
  .value fun s a =>
    match parse s with
    | some b => .ok (set a b)
    | none => .error .badValue

def helpAndVersion (program : String) : List (Argument α) :=
  [⟨some 'h', "help", .stop .helpAsked⟩, ⟨some 'V', "version", .stop (.versionAsked program)⟩]

end

def globalGrammar : Grammar GlobalRequest where
  arguments :=
    [⟨some 'r', "root", pathValue fun r root => { r with root := some root }⟩,
      ⟨some 'l', "log-level",
        choiceValue LogLevel.parse? fun r level => { r with logLevel := some level }⟩,
      ⟨some 's', "settings", pathValue fun r settings => { r with settings := some settings }⟩] ++
    helpAndVersion "kf"
  commands := ["info", "convert", "c", "help"]

def infoGrammar : Grammar Unit := ⟨helpAndVersion "kf-info", []⟩

def convertGrammar : Grammar ConvertRequest where
  arguments :=
    [⟨some 'f', "file", pathValue fun c file => { c with file }⟩,
      ⟨some 'o', "out", pathValue fun c out => { c with out := some out }⟩,
      ⟨none, "stdout", .flag fun c => { c with stdout := true }⟩,
      ⟨some 'j', "json", .flag fun c => { c with json := true }⟩,
      ⟨none, "controller",
        choiceValue (ControllerChoice.parse · |>.toOption) fun c controller =>
          { c with controller := some controller }⟩,
      ⟨none, "provider",
        choiceValue (Provider.parse · |>.toOption) fun c provider =>
          { c with provider := some provider }⟩,
      ⟨none, "service-group-mode", textValue fun c mode => { c with groupMode := some mode }⟩,
      ⟨none, "volumes",
        choiceValue (VolumeMode.parse · |>.toOption) fun c volumes =>
          { c with volumes := some volumes }⟩,
      ⟨none, "generate-network-policies", .flag fun c => { c with networkPolicies := true }⟩,
      ⟨none, "namespace", textValue fun c name => { c with namespaceName := some name }⟩,
      ⟨none, "pvc-request-size", textValue fun c size => { c with claimSize := some size }⟩] ++
    helpAndVersion "kf-convert"
  commands := []

/-- Help on a command that is named, or on none. -/
def help : List String → UsageError
  | [] => .helpAsked
  | [name] => if globalGrammar.commands.contains name then .helpAsked else .unknownCommand
  | _ => .unknownCommand

def parseCommand (name : String) (args : List String) : Except UsageError Command := do
  match name with
  | "help" => throw (help args)
  | "info" =>
    let (r, _) ← Reading.read infoGrammar { result := () } args
    let _ ← r.settle
    return .info
  | _ =>
    let (r, _) ← Reading.read convertGrammar { result := {} } args
    let r ← r.settle
    if !r.given.contains "file" then throw .missingArgument
    return .convert r.result

/-- Reads the arguments behind the name of the program. -/
def parse (args : List String) : Except UsageError CommandLine := do
  let (r, next) ← Reading.read globalGrammar { result := {} } args
  match next with
  | none =>
    let r ← r.settle
    throw (if r.given.isEmpty then .nothingGiven else .missingCommand)
  | some (name, rest) =>
    let command ← parseCommand name rest
    return ⟨(← r.settle).result, command⟩

end CommandLine

end Manifests
