import MeshExport.CommandLine.LogFilter
import MeshExport.CommandLine.Timeout
import MeshExport.Net.SocketAddress

/-! The options of the command line, their values, and the forms an argument can take. -/

namespace MeshExport.CommandLine

inductive UsageError where
  | argumentConflict
  | invalidValue
  | missingRequiredArgument
  | tooManyValues
  | unknownArgument
  | valueValidation
deriving DecidableEq

namespace UsageError

def summary : UsageError → String
  | argumentConflict => "an argument cannot be used with one or more of the other specified arguments"
  | invalidValue => "one of the values isn't valid for an argument"
  | missingRequiredArgument => "one or more required arguments were not provided"
  | tooManyValues => "unexpected value for an argument found"
  | unknownArgument => "unexpected argument found"
  | valueValidation => "invalid value for one of the arguments"

def message (e : UsageError) : String := "error: " ++ e.summary ++ "\n"

def exitCode : Nat := 2

end UsageError

inductive ArgumentError where
  | usage (e : UsageError)
  /-- The reading of a value broke off. -/
  | fault (f : ValueFault)
deriving DecidableEq

def ValueError.toArgumentError : ValueError → ArgumentError
  | invalid => .usage .valueValidation
  | fault f => .fault f

def accepted {α : Type} (r : Except ValueError α) : Except ArgumentError α :=
  r.mapError (·.toArgumentError)

inductive LogFormat where
  | plain
  | json
deriving DecidableEq

def LogFormat.parse (text : String) : Except ValueError LogFormat :=
  if text = "plain" then .ok .plain else if text = "json" then .ok .json else .error .invalid

def listenAddress (text : String) : Except ValueError SocketAddress :=
  expected (SocketAddress.parse? text)

inductive Opt where
  | logLevel
  | logFormat
  | cluster
  | context
  | user
  | kubeconfig
  | impersonate
  | impersonateGroup
  | headersTimeout
  | adminAddr
  | clusterId
  | clusterDomain
  | discoveryEnabled
  | clusterLocal
deriving DecidableEq

namespace Opt

def all : List Opt := [
  logLevel, logFormat, cluster, context, user, kubeconfig, impersonate, impersonateGroup,
  headersTimeout, adminAddr, clusterId, clusterDomain, discoveryEnabled, clusterLocal]

/-- Name without the dashes. -/
def name : Opt → String
  | logLevel => "log-level"
  | logFormat => "log-format"
  | cluster => "cluster"
  | context => "context"
  | user => "user"
  | kubeconfig => "kubeconfig"
  | impersonate => "as"
  | impersonateGroup => "as-group"
  | headersTimeout => "kube-api-response-headers-timeout"
  | adminAddr => "admin-addr"
  | clusterId => "cluster-id"
  | clusterDomain => "cluster-domain"
  | discoveryEnabled => "mcs-discovery-enabled"
  | clusterLocal => "mcs-cluster-local"

def ofName? (text : String) : Option Opt := all.find? fun o => o.name == text

/-- Whether the option stands for itself, without a value. -/
def isFlag : Opt → Bool
  | discoveryEnabled | clusterLocal => true
  | _ => false

/-- The environment variable that speaks where the option is not given. -/
def envName? : Opt → Option String
  | logLevel => some "LINKERD_EXPORT_CONTROLLER_LOG"
  | clusterId => some "LINKERD_CLUSTER_ID"
  | discoveryEnabled => some "ENABLE_MCS_SERVICE_DISCOVERY"
  | clusterLocal => some "ENABLE_MCS_CLUSTER_LOCAL"
  | _ => none

def flagValue? (text : String) : Option Bool :=
  if text = "true" then some true else if text = "false" then some false else none

def check (o : Opt) (value : String) : Except ArgumentError Unit :=
  let refuse : Except ArgumentError Unit := .error (.usage .invalidValue)
  match o with
  | logLevel => discard (accepted (LogFilter.parse value))
  | logFormat => discard (accepted (LogFormat.parse value))
  | kubeconfig => if value.isEmpty then refuse else .ok ()
  | headersTimeout => discard (accepted (Timeout.parse value))
  | adminAddr => discard (accepted (listenAddress value))
  | discoveryEnabled | clusterLocal => if (flagValue? value).isNone then refuse else .ok ()
  | _ => .ok ()

end Opt

inductive Argument where
  /-- Two dashes; no options after it. -/
  | terminator
  /-- An option with two dashes, with what follows an equals sign. -/
  | long (name : String) (attached : Option String)
  /-- A single dash and more. -/
  | short
  | plain
deriving DecidableEq

def Argument.ofString (text : String) : Argument :=
  match text.toList with
  | ['-', '-'] => .terminator
  | '-' :: '-' :: rest =>
    let name := String.ofList (rest.takeWhile (· ≠ '='))
    match rest.dropWhile (· ≠ '=') with
    | [] => .long name none
    | _ :: value => .long name (some (String.ofList value))
  | '-' :: _ :: _ => .short
  | _ => .plain

end MeshExport.CommandLine
