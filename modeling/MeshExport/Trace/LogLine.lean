import MeshExport.Trace.Event

/-! The log line of an event: its level, its message, and its fields in a fixed order. -/

namespace MeshExport

inductive LogLevel where
  | error
  | warn
  | info
  | debug
  | trace
deriving DecidableEq

def LogLevel.text : LogLevel → String
  | error => "ERROR"
  | warn => "WARN"
  | info => "INFO"
  | debug => "DEBUG"
  | trace => "TRACE"

structure LogLine where
  level : LogLevel
  message : String
  fields : List (String × String)

def LogLine.text (l : LogLine) : String :=
  l.fields.foldl (fun t f => t ++ " " ++ f.1 ++ "=" ++ f.2) (l.level.text ++ " " ++ l.message)

namespace Signal

def logFields (s : Signal) : List (String × String) := [
  ("service", s.service.display),
  ("hostname", s.hostname),
  ("endpoints", toString s.endpoints.length),
  ("exported", toString s.exported)]

end Signal

def Event.logLine : Event → LogLine
  | stateChanged service exported =>
    ⟨.info, "Export state changed", [("service", service.display), ("exported", toString exported)]⟩
  | alreadyExported service =>
    ⟨.debug, "Service already exported", [("service", service.display)]⟩
  | notExported service => ⟨.debug, "Service was not exported", [("service", service.display)]⟩
  | coalesced service exported =>
    ⟨.debug, "coalescing pending push",
      [("service", service.display), ("exported", toString exported)]⟩
  | unresolved service _ error =>
    ⟨.warn, "Failed to resolve endpoints; skipping push",
      [("service", service.display), ("error", error.message)]⟩
  | pushed signal => ⟨.debug, "pushing", signal.logFields⟩
  | dispatched sent => ⟨.trace, "dispatched pending pushes", [("sent", toString sent)]⟩
  | dropped service =>
    ⟨.error, "Push pipeline closed; dropping signal", [("service", service.display)]⟩
  | exportWithoutNamespace name =>
    ⟨.warn, "Ignoring ServiceExport without a namespace", [("name", name)]⟩
  | serviceWithoutNamespace name =>
    ⟨.warn, "Ignoring Service without a namespace", [("name", name)]⟩
  | sliceWithoutNamespace name =>
    ⟨.warn, "Ignoring EndpointSlice without a namespace", [("name", name)]⟩
  | sliceWithoutService slice =>
    ⟨.debug, "Ignoring EndpointSlice without a service",
      [("namespace", slice.ns), ("name", slice.name)]⟩
  | sliceIndexed service slice endpoints =>
    ⟨.debug, "indexing EndpointSlice",
      [("service", service.display), ("slice", slice), ("endpoints", toString endpoints)]⟩
  | sliceNotIp service addressType =>
    ⟨.debug, "Skipping non-IP EndpointSlice",
      [("service", service.display), ("address_type", addressType)]⟩
  | invalidAddress service address =>
    ⟨.warn, "Invalid endpoint address",
      [("service", service.display), ("addr", address), ("error", IpAddress.parseError)]⟩
  | visibilityChanged signal => ⟨.info, "Endpoint visibility changed", signal.logFields⟩
  | signalsClosed => ⟨.debug, "Push signals closed", []⟩

def sortedLog (events : List Event) : List String :=
  (events.map (·.logLine.text)).mergeSort fun a b => (compare a b).isLE

end MeshExport
