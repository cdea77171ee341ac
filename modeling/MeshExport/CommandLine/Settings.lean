import MeshExport.CommandLine.Parser
import MeshExport.Policy

/-! The settings a command line makes, with the values of options that nobody set. -/

namespace MeshExport.CommandLine

structure ClientSettings where
  cluster : Option String
  context : Option String
  user : Option String
  kubeconfig : Option String
  impersonate : Option String
  impersonateGroup : Option String
  headersTimeout : Timeout
deriving DecidableEq

structure Settings where
  logLevel : LogFilter
  logFormat : LogFormat
  client : ClientSettings
  adminAddr : SocketAddress
  cluster : Cluster
  policy : Policy

/-- The value of an option that was not given. -/
def Opt.standard : Opt → Option String
  | logLevel => some "linkerd=info,warn"
  | logFormat => some "plain"
  | headersTimeout => some "9s"
  | adminAddr => some "0.0.0.0:8080"
  | clusterDomain => some "cluster.local"
  | discoveryEnabled | clusterLocal => some "false"
  | _ => none

namespace Settings

def require (value : Option String) : Except ArgumentError String :=
  match value with
  | some v => .ok v
  | none => .error (.usage .missingRequiredArgument)

def ofGiven (given : Given) : Except ArgumentError Settings := do
  let value (o : Opt) : Option String := (given o).or o.standard
  let parsed {α : Type} (o : Opt) (parse : String → Except ValueError α) : Except ArgumentError α := do
    accepted (parse (← require (value o)))
  return {
    logLevel := ← parsed .logLevel LogFilter.parse
    logFormat := ← parsed .logFormat LogFormat.parse
    client := {
      cluster := value .cluster
      context := value .context
      user := value .user
      kubeconfig := value .kubeconfig
      impersonate := value .impersonate
      impersonateGroup := value .impersonateGroup
      headersTimeout := ← parsed .headersTimeout Timeout.parse }
    adminAddr := ← parsed .adminAddr listenAddress
    cluster := {
      id := ⟨← require (value .clusterId)⟩
      domain := (value .clusterDomain).getD "" }
    policy := {
      discoveryEnabled := value .discoveryEnabled == some "true"
      clusterLocal := value .clusterLocal == some "true" } }

def parse (argv : List String) (env : Environment) : Except ArgumentError Settings := do
  ofGiven (← readArguments argv env)

def environmentNames : List String := Opt.all.filterMap Opt.envName?

end Settings
end MeshExport.CommandLine
