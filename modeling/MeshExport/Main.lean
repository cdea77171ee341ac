import MeshExport.CommandLine.Settings
import MeshExport.Trace.LogLine

/-! The command line: checks the options and reports the settings the controller starts with. -/

open MeshExport MeshExport.CommandLine

def startLine (s : Settings) : LogLine :=
  ⟨.info, "Starting export controller",
    [("cluster", s.cluster.id.text), ("mcs_discovery_enabled", toString s.policy.discoveryEnabled),
      ("cluster_local_override", toString s.policy.clusterLocal)]⟩

def main (argv : List String) : IO UInt32 := do
  let values ← Settings.environmentNames.mapM fun name => do return (name, ← IO.getEnv name)
  match Settings.parse argv fun name => (values.lookup name).join with
  | .ok settings =>
    IO.println (startLine settings).text
    return 0
  | .error (.usage e) =>
    IO.eprint e.message
    return UsageError.exitCode.toUInt32
  | .error (.fault f) =>
    IO.eprintln f.message
    return ValueFault.exitCode.toUInt32
