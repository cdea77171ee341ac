import MeshExport.Proofs.Text.Separator
import MeshExport.Trace.LogLine

/-! Services of different names are told apart by the texts they are named in: by `namespace/name` if no
namespace has a slash, by the hostname if no namespace has a dot. Names may have either. Error messages
and log lines name a service in the first of the two ways, and tell services apart as it does. -/

namespace MeshExport

open Text

theorem NamespacedName.eq_of_parts {s t : NamespacedName} (hns : s.ns = t.ns) (hname : s.name = t.name) :
    s = t := by
  cases s
  cases t
  simp_all

theorem NamespacedName.eq_of_display {s t : NamespacedName} (hs : '/' ∉ s.ns.toList)
    (ht : '/' ∉ t.ns.toList) (h : s.display = t.display) : s = t := by
  obtain ⟨hns, hname⟩ := cut_first rfl hs ht h
  exact eq_of_parts hns hname

example : NamespacedName.display ⟨"a", "b/c"⟩ = NamespacedName.display ⟨"a/b", "c"⟩ := by decide

theorem Cluster.eq_of_hostname (c : Cluster) {s t : ServiceId} (hs : '.' ∉ s.ns.toList)
    (ht : '.' ∉ t.ns.toList) (h : c.hostname s = c.hostname t) : s = t := by
  have hqualified : s.name ++ "." ++ s.ns = t.name ++ "." ++ t.ns := by
    have hsuffix := (String.append_left_inj _).mp h
    exact (String.append_left_inj _).mp hsuffix
  obtain ⟨hname, hns⟩ := cut_last rfl hs ht hqualified
  exact NamespacedName.eq_of_parts hns hname

example : Cluster.standard.hostname ⟨"c", "a.b"⟩ = Cluster.standard.hostname ⟨"b.c", "a"⟩ := by decide

theorem ResolveError.eq_of_message {s t : ServiceId} (hs : '/' ∉ s.ns.toList) (ht : '/' ∉ t.ns.toList)
    (h : (unknownService s).message = (unknownService t).message) : s = t := by
  have hprefix := (String.append_left_inj _).mp h
  exact NamespacedName.eq_of_display hs ht ((String.append_right_inj _).mp hprefix)

namespace LogLine

def headline (l : LogLine) : String := l.level.text ++ " " ++ l.message

def details (fields : List (String × String)) : String :=
  fields.foldl (fun t f => t ++ " " ++ f.1 ++ "=" ++ f.2) ""

theorem foldl_fields (fields : List (String × String)) (s t : String) :
    fields.foldl (fun t f => t ++ " " ++ f.1 ++ "=" ++ f.2) (s ++ t) =
      s ++ fields.foldl (fun t f => t ++ " " ++ f.1 ++ "=" ++ f.2) t := by
  induction fields generalizing t with
  | nil => rfl
  | cons f fields ih =>
    rw [List.foldl_cons, List.foldl_cons, ← ih]
    simp only [String.append_assoc]

theorem text_of_service {l : LogLine} {s : ServiceId}
    (h : l.fields.head? = some ("service", s.display)) :
    l.text =
      l.headline ++ " " ++ "service" ++ "=" ++ (s.ns ++ "/" ++ (s.name ++ details l.fields.tail)) := by
  obtain ⟨fields, hfields⟩ : ∃ fields, l.fields = ("service", s.display) :: fields := by
    cases hf : l.fields with
    | nil => simp [hf] at h
    | cons f fields =>
      rw [hf, List.head?_cons, Option.some_inj] at h
      exact ⟨fields, by rw [h]⟩
  have hfold := foldl_fields fields (l.headline ++ " " ++ "service" ++ "=" ++ s.display) ""
  rw [String.append_empty] at hfold
  rw [text, details, hfields, List.tail_cons]
  refine Eq.trans ?_ (hfold.trans ?_)
  · rw [List.foldl_cons]
    rfl
  · simp only [NamespacedName.display, String.append_assoc]

/-- Equal lines about two services have the same headline and the same namespace, and go on alike. -/
theorem eq_of_text {l l' : LogLine} {s s' : ServiceId} (hl : '=' ∉ l.headline.toList)
    (hl' : '=' ∉ l'.headline.toList) (hf : l.fields.head? = some ("service", s.display))
    (hf' : l'.fields.head? = some ("service", s'.display)) (hs : '/' ∉ s.ns.toList)
    (hs' : '/' ∉ s'.ns.toList) (h : l.text = l'.text) :
    l.headline = l'.headline ∧ s.ns = s'.ns ∧
      s.name ++ details l.fields.tail = s'.name ++ details l'.fields.tail := by
  rw [text_of_service hf, text_of_service hf'] at h
  have hkey {headline : String} (hn : '=' ∉ headline.toList) :
      '=' ∉ (headline ++ " " ++ "service").toList := by
    simp [hn]
  obtain ⟨hhead, hrest⟩ := cut_first rfl (hkey hl) (hkey hl') h
  obtain ⟨hns, hname⟩ := cut_first rfl hs hs' hrest
  have hspace := (String.append_left_inj _).mp hhead
  exact ⟨(String.append_left_inj _).mp hspace, hns, hname⟩

/-! After the name of its service a line goes on with a flag, with an error about the service, or with the
rest of a signal. Where two lines go on alike, the names are equal. -/

theorem not_mem_flag (b : Bool) : '=' ∉ (toString b).toList := by
  cases b <;> decide

theorem not_mem_number (n : Nat) : '=' ∉ (toString n).toList := by
  intro h
  exact absurd (isDigit_of_mem_toString h) (by decide)

theorem cut_field {p q key x y : String} (hx : '=' ∉ x.toList) (hy : '=' ∉ y.toList)
    (h : p ++ " " ++ key ++ "=" ++ x = q ++ " " ++ key ++ "=" ++ y) : p = q ∧ x = y := by
  obtain ⟨hkey, hvalue⟩ := cut_last rfl hx hy h
  have hspace := (String.append_left_inj _).mp hkey
  exact ⟨(String.append_left_inj _).mp hspace, hvalue⟩

theorem eq_of_flag {p q : String} {b c : Bool}
    (h : p ++ details [("exported", toString b)] = q ++ details [("exported", toString c)]) : p = q := by
  simp only [details, List.foldl_cons, List.foldl_nil, ← String.append_assoc, String.append_empty] at h
  exact (cut_field (not_mem_flag b) (not_mem_flag c) h).1

theorem eq_of_error {s t : ServiceId} (hns : s.ns = t.ns)
    (h : s.name ++ details [("error", (ResolveError.unknownService s).message)] =
      t.name ++ details [("error", (ResolveError.unknownService t).message)]) : s.name = t.name := by
  have htwice (n : ServiceId) :
      n.name ++ details [("error", (ResolveError.unknownService n).message)] =
        n.name ++ ("" ++ " " ++ "error" ++ "=" ++ "service " ++ n.ns ++ "/") ++ n.name ++
          " is not known to the registry" := by
    simp only [details, List.foldl_cons, List.foldl_nil, ResolveError.message, NamespacedName.display,
      String.append_assoc]
  rw [htwice, htwice, hns] at h
  exact eq_of_twice h

theorem eq_of_signal {cluster : Cluster} {x y : Signal}
    (hx : x.hostname = cluster.hostname x.service) (hy : y.hostname = cluster.hostname y.service)
    (hns : x.service.ns = y.service.ns)
    (h : x.service.name ++ details x.logFields.tail = y.service.name ++ details y.logFields.tail) :
    x.service.name = y.service.name := by
  simp only [details, Signal.logFields, List.tail_cons, List.foldl_cons, List.foldl_nil, hx, hy,
    ← String.append_assoc, String.append_empty] at h
  obtain ⟨hexported, -⟩ := cut_field (not_mem_flag _) (not_mem_flag _) h
  obtain ⟨hendpoints, -⟩ := cut_field (not_mem_number _) (not_mem_number _) hexported
  have htwice (k : ServiceId) :
      k.name ++ " " ++ "hostname" ++ "=" ++ cluster.hostname k =
        k.name ++ (" " ++ "hostname" ++ "=") ++ k.name ++ ("." ++ k.ns ++ ".svc." ++ cluster.domain) := by
    simp only [Cluster.hostname, String.append_assoc]
  rw [htwice, htwice, hns] at hendpoints
  exact eq_of_twice hendpoints

end LogLine

namespace Event

/-- The service whose export state or push the event is about. -/
def subject? : Event → Option ServiceId
  | stateChanged service _ => some service
  | alreadyExported service => some service
  | notExported service => some service
  | coalesced service _ => some service
  | unresolved service _ _ => some service
  | pushed signal => some signal.service
  | dropped service => some service
  | visibilityChanged signal => some signal.service
  | _ => none

/-- A signal carries the hostname of its service, and an error is about the service of the push. -/
def Faithful (cluster : Cluster) : Event → Prop
  | unresolved service _ error => error = .unknownService service
  | pushed signal => signal.hostname = cluster.hostname signal.service
  | visibilityChanged signal => signal.hostname = cluster.hostname signal.service
  | _ => True

theorem not_mem_headline (e : Event) : '=' ∉ e.logLine.headline.toList := by
  have hlevel (l : LogLevel) : '=' ∉ l.text.toList := by
    cases l <;> exact not_mem_ofList (by decide)
  have hmessage : '=' ∉ e.logLine.message.toList := by
    cases e <;> exact not_mem_ofList (by decide)
  simp [LogLine.headline, hlevel, hmessage]

theorem head?_fields {e : Event} {s : ServiceId} (h : e.subject? = some s) :
    e.logLine.fields.head? = some ("service", s.display) := by
  cases e <;> cases h <;> rfl

/-- Lines of one headline are of events of one kind, whose details give the name away. -/
theorem name_eq_of_details {cluster : Cluster} {e e' : Event} (he : e.Faithful cluster)
    (he' : e'.Faithful cluster) {s s' : ServiceId} (hs : e.subject? = some s)
    (hs' : e'.subject? = some s') (hhead : e.logLine.headline = e'.logLine.headline) (hns : s.ns = s'.ns)
    (hrest : s.name ++ LogLine.details e.logLine.fields.tail =
      s'.name ++ LogLine.details e'.logLine.fields.tail) : s.name = s'.name := by
  cases e with
  | stateChanged service exported =>
    cases hs
    cases e' with
    | stateChanged service' exported' =>
      cases hs'
      exact LogLine.eq_of_flag hrest
    | _ => simp [logLine, LogLine.headline, LogLevel.text] at hhead
  | alreadyExported service =>
    cases hs
    cases e' with
    | alreadyExported service' =>
      cases hs'
      exact (String.append_left_inj _).mp hrest
    | _ => simp [logLine, LogLine.headline, LogLevel.text] at hhead
  | notExported service =>
    cases hs
    cases e' with
    | notExported service' =>
      cases hs'
      exact (String.append_left_inj _).mp hrest
    | _ => simp [logLine, LogLine.headline, LogLevel.text] at hhead
  | coalesced service exported =>
    cases hs
    cases e' with
    | coalesced service' exported' =>
      cases hs'
      exact LogLine.eq_of_flag hrest
    | _ => simp [logLine, LogLine.headline, LogLevel.text] at hhead
  | unresolved service exported error =>
    cases hs
    cases e' with
    | unresolved service' exported' error' =>
      cases hs'
      rw [he, he'] at hrest
      exact LogLine.eq_of_error hns hrest
    | _ => simp [logLine, LogLine.headline, LogLevel.text] at hhead
  | pushed signal =>
    cases hs
    cases e' with
    | pushed signal' =>
      cases hs'
      exact LogLine.eq_of_signal he he' hns hrest
    | _ => simp [logLine, LogLine.headline, LogLevel.text] at hhead
  | dropped service =>
    cases hs
    cases e' with
    | dropped service' =>
      cases hs'
      exact (String.append_left_inj _).mp hrest
    | _ => simp [logLine, LogLine.headline, LogLevel.text] at hhead
  | visibilityChanged signal =>
    cases hs
    cases e' with
    | visibilityChanged signal' =>
      cases hs'
      exact LogLine.eq_of_signal he he' hns hrest
    | _ => simp [logLine, LogLine.headline, LogLevel.text] at hhead
  | _ => cases hs

theorem subject_eq_of_text {cluster : Cluster} {e e' : Event} (he : e.Faithful cluster)
    (he' : e'.Faithful cluster) {s s' : ServiceId} (hs : e.subject? = some s)
    (hs' : e'.subject? = some s') (hn : '/' ∉ s.ns.toList) (hn' : '/' ∉ s'.ns.toList)
    (h : e.logLine.text = e'.logLine.text) : s = s' := by
  obtain ⟨hhead, hns, hrest⟩ := LogLine.eq_of_text e.not_mem_headline e'.not_mem_headline
    (head?_fields hs) (head?_fields hs') hn hn' h
  exact NamespacedName.eq_of_parts hns (name_eq_of_details he he' hs hs' hhead hns hrest)

end Event
end MeshExport
