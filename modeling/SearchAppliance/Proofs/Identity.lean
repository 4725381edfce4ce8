import Mathlib.Data.List.Induction
import Mathlib.Logic.Function.Basic
import SearchAppliance.Identity
import SearchAppliance.Proofs.Hash.Blake2b
import SearchAppliance.Proofs.Text.Base64Url

namespace SearchAppliance

/-- What a node finds around it: the variables that are set, and the name of the host. -/
structure Surroundings where
  values : String → Option Text
  host : Text

namespace Surroundings

open Settings (Checked Fault)

/-- The value of a variable that is set and not empty. -/
def given? (around : Surroundings) (name : String) : Option Text :=
  match around.values name with
  | some value => if value = "" then none else some value
  | none => none

def release? (around : Surroundings) : Option String :=
  match around.given? "GSA_RELEASE_NAME" with
  | some value => value.string?
  | none => some NodeSettings.defaultRelease

def node? (around : Surroundings) : Option String :=
  match around.given? "GSA_NODE_ID" with
  | some value => value.string?
  | none => around.host.string?.map NodeSettings.defaultNode

/-- The settings: release and node, each from its variable or else by default. There are none if one
of the texts that they come from has surrogates. -/
def settings? (around : Surroundings) : Option NodeSettings :=
  match around.release?, around.node? with
  | some release, some node => some ⟨release, node⟩
  | _, _ => none

/-- The fault of a member whose variable has surrogates. -/
def fault? (around : Surroundings) (member name : String) : Option Fault :=
  match around.given? name with
  | some value => if value.isWellFormed then none else some ⟨.textUnicode, [.key member], .str value⟩
  | none => none

/-- How the settings are read. The name of a host that has surrogates fails before the variables are
looked at, if it is asked for at all. -/
def read (around : Surroundings) : Except Failure (Checked NodeSettings) :=
  if around.given? "GSA_NODE_ID" = none ∧ around.host.isWellFormed = false then
    .error (.unencodable around.host)
  else match around.settings? with
    | some settings => .ok (.ok settings)
    | none =>
      .ok (.bad ((around.fault? "release_name" "GSA_RELEASE_NAME").toList
        ++ (around.fault? "node_id" "GSA_NODE_ID").toList))

variable {around : Surroundings} {name : String} {value : Text}

end Surroundings

namespace Environment

open Settings (Checked)

def surroundings (env : Environment) : Surroundings where
  values := fun name => Pairs.get? name env.bindings
  host := env.host

end Environment

namespace Node

open Settings (Checked)

/-- What can happen to a node. -/
inductive Step where
  | set (name : String) (value : Text)
  | unset (name : String)
  | rename (host : Text)
  | clear
  | settings
  | identity
  deriving DecidableEq, Repr

/-- What a node answers. -/
inductive Reply where
  | done
  | settings (read : Except Failure (Checked NodeSettings))
  | identity (read : Except Failure (Checked String))

/-- What a step does to the surroundings. -/
def Step.change (around : Surroundings) : Step → Surroundings
  | set name value =>
    { around with values := Function.update around.values name (some value) }
  | unset name => { around with values := Function.update around.values name none }
  | rename host => { around with host := host }
  | clear | settings | identity => around

/-- What a step does to the environment of a node. -/
def Step.apply (env : Environment) : Step → Environment
  | set name value => env.set name value
  | unset name => env.unset name
  | rename host => { env with host := host }
  | clear | settings | identity => env

/-- A step, with its answer. -/
def perform (node : Node) (step : Step) : Reply × Node :=
  match step with
  | .settings => (.settings (NodeSettings.ofEnvironment node.environment), node)
  | .clear => (.done, node.clear)
  | .identity => (.identity node.identity.1, node.identity.2)
  | _ => (.done, { node with environment := step.apply node.environment })

/-- A node after steps. -/
def run (node : Node) (steps : List Step) : Node :=
  steps.foldl (fun node step => (node.perform step).2) node

/-- The surroundings after steps. -/
def around (env : Environment) (steps : List Step) : Surroundings :=
  steps.foldl Step.change env.surroundings

end Node

end SearchAppliance
