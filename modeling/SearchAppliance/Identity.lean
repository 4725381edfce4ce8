import SearchAppliance.Hash.Blake2b
import SearchAppliance.Settings.Scalar
import SearchAppliance.Text.Encoding

namespace SearchAppliance

/-- The variables that are set, and the name of the host. Bytes of theirs that are no text stand as
surrogates. -/
structure Environment where
  bindings : List (String × Text) := []
  host : Text
  deriving DecidableEq, Repr

namespace Environment

def set (env : Environment) (name : String) (value : Text) : Environment :=
  { env with bindings := Pairs.put name value env.bindings }

def unset (env : Environment) (name : String) : Environment :=
  { env with bindings := env.bindings.filter (·.1 ≠ name) }

/-- The value of a variable; an empty one counts as not set. -/
def value? (env : Environment) (name : String) : Option Text :=
  (Pairs.get? name env.bindings).filter (· ≠ ("" : Text))

/-- The settings that are given by variables. -/
def members (env : Environment) : List (Text × Json) :=
  ([("release_name", "GSA_RELEASE_NAME"), ("node_id", "GSA_NODE_ID")] : List (String × String))
    |>.filterMap fun (member, name) =>
      (env.value? name).map fun value => ((member : Text), Json.str value)

end Environment

structure NodeSettings where
  release : String
  node : String
  deriving DecidableEq, Repr

namespace NodeSettings

/-- The version of the library. -/
def version : String := "0.1.0"

def defaultRelease : String := "gsa-response-" ++ version

/-- The name of a node by its host: a hash of nine bytes in twelve letters. -/
def defaultNode (host : String) : String :=
  String.ofList (Text.Base64Url.encode (Hash.Blake2b.digest 9 host.toUTF8.toList))

/-- The settings from given members. The host is asked only for a node that is not given. -/
def ofMembers (host : Text) (members : List (Text × Json)) :
    Except Failure (Settings.Checked NodeSettings) := do
  let usual ←
    if (Pairs.get? ("node_id" : Text) members).isSome then pure ""
    else host.encode.map defaultNode
  return ((Settings.optional Settings.nonEmptyString "release_name" defaultRelease members).map
      NodeSettings.mk)
    |>.and (Settings.optional Settings.nonEmptyString "node_id" usual members)

/-- The settings that an environment gives. -/
def ofEnvironment (env : Environment) : Except Failure (Settings.Checked NodeSettings) :=
  ofMembers env.host env.members

def identity (settings : NodeSettings) : String := s!"{settings.release}/{settings.node}"

end NodeSettings

/-- A node: its environment, and its identity once that has been asked for. -/
structure Node where
  environment : Environment
  cached : Option String := none
  deriving DecidableEq, Repr

namespace Node

/-- The identity of the node. The first one that there is stands until it is cleared; a call that
fails leaves no trace. -/
def identity (node : Node) : Except Failure (Settings.Checked String) × Node :=
  match node.cached with
  | some identity => (.ok (.ok identity), node)
  | none =>
    match NodeSettings.ofEnvironment node.environment with
    | .ok (.ok settings) =>
      (.ok (.ok settings.identity), { node with cached := some settings.identity })
    | .ok (.bad faults) => (.ok (.bad faults), node)
    | .error cause => (.error cause, node)

def clear (node : Node) : Node := { node with cached := none }

end Node

end SearchAppliance
