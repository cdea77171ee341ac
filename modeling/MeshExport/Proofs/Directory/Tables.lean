import MeshExport.Proofs.Directory.Endpoints

/-! The tables of a directory agree in every state it reaches. The slices are kept by bare name, the
owners by namespace and name; that a slice and its service always share a namespace is what makes the one
the inverse of the other, so that forgetting a slice takes away that slice and no other. -/

namespace MeshExport

namespace Directory

variable {d : Directory}

/-- The service has a table with the slice in it, and is of the namespace of the slice. -/
def Lists (d : Directory) (service : ServiceId) (slice : SliceId) : Prop :=
  service.ns = slice.ns ∧ ∃ table ∈ d.slices[service]?, slice.name ∈ table

theorem isSome_held_iff (service : ServiceId) (name : String) :
    (d.held service name).isSome ↔ ∃ table ∈ d.slices[service]?, name ∈ table := by
  unfold held
  cases d.slices[service]? with
  | none => simp
  | some table => simp

theorem held_of_mem {service : ServiceId} {table : SliceTable} (h : table ∈ d.slices[service]?)
    (name : String) : d.held service name = table[name]? := by
  rw [held, Option.mem_def.mp h, Option.bind_some]

/-- What the tables of a directory promise each other. -/
structure Agrees (d : Directory) : Prop where
  /-- The owner of a slice is the service that lists it. -/
  owned : ∀ (slice : SliceId) (service : ServiceId),
    d.owners[slice]? = some service ↔ d.Lists service slice
  /-- No service has an empty table. -/
  filled : ∀ service : ServiceId, ∀ table ∈ d.slices[service]?, table ≠ ∅
  /-- No slice is listed by two services. -/
  once : ∀ (slice : SliceId) (service service' : ServiceId),
    d.Lists service slice → d.Lists service' slice → service = service'
  /-- Every endpoint carries the service it is kept for, and the cluster. -/
  stamped : ∀ service : ServiceId, ∀ table ∈ d.slices[service]?, ∀ name : String,
    ∀ endpoints ∈ table[name]?, ∀ endpoint ∈ endpoints,
      endpoint.service = service ∧ endpoint.cluster = d.cluster.id

theorem Indexed.agrees (h : d.Indexed)
    (hstamped : ∀ (service : ServiceId) (name : String), ∀ endpoints ∈ d.held service name,
      ∀ endpoint ∈ endpoints, endpoint.service = service ∧ endpoint.cluster = d.cluster.id) :
    d.Agrees where
  owned slice service := by rw [h.owners, isSome_held_iff, Lists]
  filled service table ht he := by
    rw [he] at ht
    exact h.nonempty service ht
  once slice service service' hs hs' := by
    rw [Lists, ← isSome_held_iff, ← h.owners] at hs hs'
    rw [hs, Option.some_inj] at hs'
    exact hs'
  stamped service table ht name endpoints he := by
    rw [← held_of_mem ht name] at he
    exact hstamped service name endpoints he

/-- `d'` is `d` without one slice. -/
structure Without (d : Directory) (slice : SliceId) (d' : Directory) : Prop where
  frame : d.Frame d'
  owners : ∀ k : SliceId, d'.owners[k]? = if k = slice then none else d.owners[k]?
  held : ∀ (service : ServiceId) (name : String),
    d'.held service name =
      if (⟨service.ns, name⟩ : SliceId) = slice then none else d.held service name

theorem Indexed.without_forgetSlice (h : d.Indexed) (slice : SliceId) :
    d.Without slice (d.forgetSlice slice) where
  frame := frame_forgetSlice d slice
  owners k := by simp only [owners_forgetSlice, eq_comm]
  held service name := by simp only [h.held_forgetSlice, eq_comm]

theorem forgetSlice_of_unknown {slice : SliceId} (h : d.owners[slice]? = none) :
    d.forgetSlice slice = d := by
  rw [forgetSlice, h]

theorem Indexed.agrees_forgetSlice (h : d.Indexed)
    (hstamped : ∀ (service : ServiceId) (name : String), ∀ endpoints ∈ d.held service name,
      ∀ endpoint ∈ endpoints, endpoint.service = service ∧ endpoint.cluster = d.cluster.id)
    (slice : SliceId) : (d.forgetSlice slice).Agrees := by
  refine (h.forgetSlice slice).agrees fun service name endpoints he => ?_
  rw [(frame_forgetSlice d slice).cluster]
  rw [h.held_forgetSlice] at he
  split at he
  · cases he
  · exact hstamped service name endpoints he

theorem Mirrors.stamped_held {services : List (Entry Service)} {slices : List (Entry EndpointSlice)}
    (h : d.Mirrors services slices) (service : ServiceId) (name : String) :
    ∀ endpoints ∈ d.held service name, ∀ endpoint ∈ endpoints,
      endpoint.service = service ∧ endpoint.cluster = d.cluster.id := by
  intro endpoints hm
  rw [Option.mem_def, h.held_eq_some_iff] at hm
  obtain ⟨s, -, -, rfl⟩ := hm
  exact s.stamped_endpointsOf _ _ _

/-- After any calls, those stopped at a nameless object among them, the owner of a slice is the one
service that lists it, no service has an empty table, and every endpoint carries the service it is kept
for and the cluster. Hence a slice can be forgotten without touching any other, and one that has no owner
without touching anything. -/
theorem tables_agree (cluster : Cluster) (calls : List DirectoryCall) :
    let d := ({ cluster } : Directory).takeAll calls
    d.cluster = cluster ∧ d.Agrees ∧
      ∀ slice : SliceId,
        d.Without slice (d.forgetSlice slice) ∧ (d.forgetSlice slice).Agrees ∧
          (d.owners[slice]? = none → d.forgetSlice slice = d) := by
  intro d
  have h := (mirrors_empty cluster).takeAll calls
  refine ⟨cluster_takeAll _ calls, h.indexed.agrees h.stamped_held, fun slice => ?_⟩
  exact ⟨h.indexed.without_forgetSlice slice, h.indexed.agrees_forgetSlice h.stamped_held slice,
    forgetSlice_of_unknown⟩

/-- Two slices of one name in different namespaces, one of which has moved to another service in a reset
that was then stopped: forgetting it leaves the other where it is. -/
theorem same_named_slices_kept_apart :
    let slice (name : Option String) (ns owner : String) : EndpointSlice :=
      { addressType := "IPv4"
        endpoints := [⟨["10.0.0.1"], none, none, none, none, none⟩]
        metadata := { name, ns := some ns, labels := some (.ofList [(serviceNameLabel, owner)]) }
        ports := some [⟨none, none, some 8080, none⟩] }
    let d := ({ cluster := .standard } : Directory).takeAll [
      .slice .listed (.apply (slice (some "a") "east" "old")),
      .slice .listed (.apply (slice (some "a") "west" "svc")),
      .slice .listed (.reset [slice (some "a") "east" "svc", slice none "east" "svc"]
        ((∅ : Std.ExtTreeSet NamespacedName).insert ⟨"west", "a"⟩))]
    d.Lists ⟨"east", "svc"⟩ ⟨"east", "a"⟩ ∧ d.Lists ⟨"west", "svc"⟩ ⟨"west", "a"⟩ ∧
      (d.forgetSlice ⟨"east", "a"⟩).owners[(⟨"east", "a"⟩ : SliceId)]? = none ∧
      (d.forgetSlice ⟨"east", "a"⟩).Lists ⟨"west", "svc"⟩ ⟨"west", "a"⟩ ∧
      d.owners[(⟨"east", "b"⟩ : SliceId)]? = none ∧ d.forgetSlice ⟨"east", "b"⟩ = d := by
  intro slice d
  obtain ⟨-, h, hforget⟩ := tables_agree .standard [
    .slice .listed (.apply (slice (some "a") "east" "old")),
    .slice .listed (.apply (slice (some "a") "west" "svc")),
    .slice .listed (.reset [slice (some "a") "east" "svc", slice none "east" "svc"]
      ((∅ : Std.ExtTreeSet NamespacedName).insert ⟨"west", "a"⟩))]
  have heast : d.owners[(⟨"east", "a"⟩ : SliceId)]? = some ⟨"east", "svc"⟩ := by decide +kernel
  have hwest : d.owners[(⟨"west", "a"⟩ : SliceId)]? = some ⟨"west", "svc"⟩ := by decide +kernel
  have hunknown : d.owners[(⟨"east", "b"⟩ : SliceId)]? = none := by decide +kernel
  obtain ⟨hwithout, hagrees, -⟩ := hforget ⟨"east", "a"⟩
  obtain ⟨-, -, hnoop⟩ := hforget ⟨"east", "b"⟩
  refine ⟨(h.owned _ _).mp heast, (h.owned _ _).mp hwest, ?_, (hagrees.owned _ _).mp ?_, hunknown,
    hnoop hunknown⟩
  · rw [hwithout.owners, if_pos rfl]
  · rw [hwithout.owners, if_neg (by decide)]
    exact hwest

end Directory
end MeshExport
