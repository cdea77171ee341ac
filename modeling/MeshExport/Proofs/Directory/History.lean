import MeshExport.Proofs.Directory.Holdings
import MeshExport.Proofs.Text.ByteOrder

/-! A directory is what its history says: its services are those whose latest entry was an object, and
each service holds the endpoints of the slices whose latest version names it. -/

namespace MeshExport

inductive DirectoryCall where
  | service (w : Walk NamespacedName) (call : FeedCall Service)
  | slice (w : Walk NamespacedName) (call : FeedCall EndpointSlice)

namespace DirectoryCall

def services : DirectoryCall → List (Entry Service)
  | service w call => call.entries w
  | slice _ _ => []

def slices : DirectoryCall → List (Entry EndpointSlice)
  | service _ _ => []
  | slice w call => call.entries w

end DirectoryCall

namespace Directory

def take (d : Directory) : DirectoryCall → Outcome Directory
  | .service w call => (serviceFeed.walking w).run d call
  | .slice w call => (sliceFeed.walking w).run d call

def takeAll (d : Directory) (calls : List DirectoryCall) : Directory :=
  calls.foldl (fun d call => (d.take call).state) d

theorem cluster_foldl {ρ : Type} {step : Directory → Entry ρ → Directory}
    (h : ∀ d entry, (step d entry).cluster = d.cluster) (d : Directory) (entries : List (Entry ρ)) :
    (entries.foldl step d).cluster = d.cluster := by
  induction entries generalizing d with
  | nil => rfl
  | cons entry entries ih => exact (ih (step d entry)).trans (h d entry)

theorem cluster_take (d : Directory) (call : DirectoryCall) :
    (d.take call).state.cluster = d.cluster := by
  cases call with
  | service w call => rw [take, serviceFeed_reads.run, cluster_foldl cluster_readService]
  | slice w call => rw [take, sliceFeed_reads.run, cluster_foldl fun d entry => (frame_readSlice d entry).cluster]

theorem cluster_takeAll (d : Directory) (calls : List DirectoryCall) :
    (d.takeAll calls).cluster = d.cluster := by
  induction calls generalizing d with
  | nil => rfl
  | cons call calls ih => exact (ih (d.take call).state).trans (d.cluster_take call)

/-- The directory is what these entries say, the oldest first. -/
structure Mirrors (d : Directory) (services : List (Entry Service))
    (slices : List (Entry EndpointSlice)) : Prop where
  indexed : d.Indexed
  services : ∀ k, k ∈ d.services ↔ (Entry.latest k services).isSome
  held : ∀ (k : ServiceId) (name : String),
    d.held k name = (Entry.latest ⟨k.ns, name⟩ slices).bind (·.share? d.cluster.id k)

theorem mirrors_empty (cluster : Cluster) : ({ cluster } : Directory).Mirrors [] [] where
  indexed := ⟨fun slice service => by simp [Directory.held], fun k => by simp⟩
  services k := by simp
  held k name := by simp [Directory.held]

variable {d : Directory} {services : List (Entry Service)} {slices : List (Entry EndpointSlice)}

namespace Mirrors

theorem readService (h : d.Mirrors services slices) (entry : Entry Service) :
    (d.readService entry).Mirrors (services ++ [entry]) slices where
  indexed := h.indexed.readService entry
  services k := by
    rw [mem_services_readService, Entry.latest_snoc, h.services]
    split <;> rfl
  held k name := by rw [held_readService, cluster_readService, h.held]

theorem readSlice (h : d.Mirrors services slices) (entry : Entry EndpointSlice) :
    (d.readSlice entry).Mirrors services (slices ++ [entry]) where
  indexed := h.indexed.readSlice entry
  services k := by rw [(frame_readSlice d entry).services, h.services]
  held k name := by
    rw [h.indexed.held_readSlice, (frame_readSlice d entry).cluster, Entry.latest_snoc, h.held]
    split <;> rfl

theorem readServices (h : d.Mirrors services slices) (entries : List (Entry Service)) :
    (entries.foldl Directory.readService d).Mirrors (services ++ entries) slices := by
  induction entries generalizing d services with
  | nil => rwa [List.append_nil]
  | cons entry entries ih =>
    have hx := ih (h.readService entry)
    rwa [List.append_assoc] at hx

theorem readSlices (h : d.Mirrors services slices) (entries : List (Entry EndpointSlice)) :
    (entries.foldl Directory.readSlice d).Mirrors services (slices ++ entries) := by
  induction entries generalizing d slices with
  | nil => rwa [List.append_nil]
  | cons entry entries ih =>
    have hx := ih (h.readSlice entry)
    rwa [List.append_assoc] at hx

theorem take (h : d.Mirrors services slices) (call : DirectoryCall) :
    (d.take call).state.Mirrors (services ++ call.services) (slices ++ call.slices) := by
  cases call with
  | service w call =>
    simp only [Directory.take, serviceFeed_reads.run, DirectoryCall.slices, List.append_nil]
    exact h.readServices _
  | slice w call =>
    simp only [Directory.take, sliceFeed_reads.run, DirectoryCall.services, List.append_nil]
    exact h.readSlices _

theorem takeAll (h : d.Mirrors services slices) (calls : List DirectoryCall) :
    (d.takeAll calls).Mirrors (services ++ calls.flatMap DirectoryCall.services)
      (slices ++ calls.flatMap DirectoryCall.slices) := by
  induction calls generalizing d services slices with
  | nil => simpa [Directory.takeAll] using h
  | cons call calls ih =>
    have hx := ih (h.take call)
    rwa [List.append_assoc, List.append_assoc] at hx

/-- Directories with equal histories are equal, whatever the histories say in between. -/
theorem ext {d' : Directory} {services' : List (Entry Service)}
    {slices' : List (Entry EndpointSlice)} (h : d.Mirrors services slices)
    (h' : d'.Mirrors services' slices') (hc : d.cluster = d'.cluster)
    (hservices : ∀ k, (Entry.latest k services).isSome = (Entry.latest k services').isSome)
    (hslices : ∀ k, Entry.latest k slices = Entry.latest k slices') : d = d' := by
  refine h.indexed.ext h'.indexed hc (Std.ExtTreeSet.ext_mem fun k => ?_) fun k name => ?_
  · rw [h.services, h'.services, hservices]
  · rw [h.held, h'.held, hslices, hc]

theorem held_eq_some_iff (h : d.Mirrors services slices) (k : ServiceId) (name : String)
    (endpoints : List Endpoint) :
    d.held k name = some endpoints ↔
      ∃ s, Entry.latest ⟨k.ns, name⟩ slices = some s ∧ s.owner? = some k.name ∧
        (s.endpointsOf IpAddress.parse? d.cluster.id k).value = endpoints := by
  rw [h.held, Option.bind_eq_some_iff]
  refine exists_congr fun s => and_congr_right fun _ => ?_
  unfold EndpointSlice.share?
  split <;> simp_all

end Mirrors

/-- The latest versions of the slices in a table, in its order. -/
def versions (slices : List (Entry EndpointSlice)) (ns : String) (table : SliceTable) :
    List (String × EndpointSlice) :=
  table.toList.filterMap fun row => (Entry.latest ⟨ns, row.1⟩ slices).map (row.1, ·)

theorem pairwise_versions (slices : List (Entry EndpointSlice)) (ns : String) (table : SliceTable) :
    (versions slices ns table).Pairwise (Text.bytes ·.1 < Text.bytes ·.1) := by
  rw [versions, List.pairwise_filterMap]
  refine Std.ExtTreeMap.ordered_keys_toList.imp fun {row row'} hlt l hl l' hl' => ?_
  obtain ⟨s, -, rfl⟩ := Option.map_eq_some_iff.mp hl
  obtain ⟨s', -, rfl⟩ := Option.map_eq_some_iff.mp hl'
  exact Text.bytes_lt (compareOfLessAndEq_eq_lt.mp hlt)

namespace Mirrors

variable {service : ServiceId} {table : SliceTable}

theorem mem_rows (h : d.Mirrors services slices) (ht : d.slices[service]? = some table)
    (row : String × List Endpoint) :
    row ∈ table.toList ↔
      ∃ s, Entry.latest ⟨service.ns, row.1⟩ slices = some s ∧ s.owner? = some service.name ∧
        (s.endpointsOf IpAddress.parse? d.cluster.id service).value = row.2 := by
  rw [← h.held_eq_some_iff, Std.ExtTreeMap.mem_toList_iff_getElem?_eq_some]
  simp [Directory.held, ht]

theorem mem_versions (h : d.Mirrors services slices) (ht : d.slices[service]? = some table)
    (name : String) (s : EndpointSlice) :
    (name, s) ∈ versions slices service.ns table ↔
      Entry.latest ⟨service.ns, name⟩ slices = some s ∧ s.owner? = some service.name := by
  rw [versions, List.mem_filterMap]
  constructor
  · rintro ⟨row, hm, hv⟩
    obtain ⟨s', hl, he⟩ := Option.map_eq_some_iff.mp hv
    obtain ⟨s'', hl', ho, -⟩ := (h.mem_rows ht row).mp hm
    cases he
    rw [hl, Option.some_inj] at hl'
    exact ⟨hl, hl' ▸ ho⟩
  · rintro ⟨hl, ho⟩
    exact ⟨(name, _), (h.mem_rows ht _).mpr ⟨s, hl, ho, rfl⟩, by simp [hl]⟩

theorem flatMap_versions (h : d.Mirrors services slices) (ht : d.slices[service]? = some table) :
    (versions slices service.ns table).flatMap (fun l =>
        (l.2.endpointsOf IpAddress.parse? d.cluster.id service).value) =
      table.toList.flatMap (·.2) := by
  rw [versions, List.filterMap_eq_flatMap_toList, List.flatMap_assoc]
  refine List.flatMap_congr fun row hm => ?_
  obtain ⟨s, hl, -, he⟩ := (h.mem_rows ht row).mp hm
  simp [hl, he]

theorem versions_ne_nil (h : d.Mirrors services slices) (ht : d.slices[service]? = some table) :
    versions slices service.ns table ≠ [] := by
  have hne : table.toList ≠ [] := fun hnil =>
    h.indexed.nonempty service (ht.trans (congrArg some (Std.ExtTreeMap.toList_eq_nil_iff.mp hnil)))
  obtain ⟨row, hm⟩ := List.exists_mem_of_ne_nil _ hne
  obtain ⟨s, hl, ho, -⟩ := (h.mem_rows ht row).mp hm
  exact List.ne_nil_of_mem ((h.mem_versions ht row.1 s).mpr ⟨hl, ho⟩)

theorem resolve (h : d.Mirrors services slices) (service : ServiceId) :
    ∃ live : List (String × EndpointSlice),
      live.Pairwise (Text.bytes ·.1 < Text.bytes ·.1) ∧
      (∀ name s, (name, s) ∈ live ↔
        Entry.latest ⟨service.ns, name⟩ slices = some s ∧ s.owner? = some service.name) ∧
      d.resolve service =
        if live = [] ∧ Entry.latest service services = none then .error (.unknownService service)
        else .ok (live.flatMap fun l =>
          (l.2.endpointsOf IpAddress.parse? d.cluster.id service).value) := by
  cases ht : d.slices[service]? with
  | none =>
    refine ⟨[], List.Pairwise.nil, fun name s => ⟨fun hm => (by cases hm), fun ⟨hl, ho⟩ => ?_⟩, ?_⟩
    · have hheld := (h.held_eq_some_iff service name _).mpr ⟨s, hl, ho, rfl⟩
      simp [Directory.held, ht] at hheld
    · have hs := h.services service
      simp only [Directory.resolve, ht, List.flatMap_nil, true_and, hs]
      cases Entry.latest service services <;> rfl
  | some table =>
    refine ⟨versions slices service.ns table, pairwise_versions .., h.mem_versions ht, ?_⟩
    rw [if_neg fun hc => h.versions_ne_nil ht hc.1, h.flatMap_versions ht]
    simp only [Directory.resolve, ht]

end Mirrors

/-- After any calls, a service is unknown if no slice has a latest version whose label names it and the
service's own latest entry is not an object; otherwise it has the endpoints of those versions, and
nothing else, in ascending order of the slice names. An empty label names no service. -/
theorem resolve_eq_history (cluster : Cluster) (calls : List DirectoryCall) (service : ServiceId) :
    let services := calls.flatMap DirectoryCall.services
    let slices := calls.flatMap DirectoryCall.slices
    ∃ live : List (String × EndpointSlice),
      live.Pairwise (Text.bytes ·.1 < Text.bytes ·.1) ∧
      (∀ name s, (name, s) ∈ live ↔
        Entry.latest ⟨service.ns, name⟩ slices = some s ∧
          s.metadata.labels.bind (·["kubernetes.io/service-name"]?) = some service.name ∧
          service.name ≠ "") ∧
      (({ cluster } : Directory).takeAll calls).resolve service =
        if live = [] ∧ Entry.latest service services = none then .error (.unknownService service)
        else .ok (live.flatMap fun l =>
          (l.2.endpointsOf IpAddress.parse? cluster.id service).value) := by
  intro services slices
  have hr := ((mirrors_empty cluster).takeAll calls).resolve service
  simpa only [cluster_takeAll, EndpointSlice.owner?_eq_some_iff, List.nil_append] using hr

end Directory
end MeshExport
