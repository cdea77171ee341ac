import MeshExport.Proofs.Directory.History
import MeshExport.Proofs.Exports.Edits
import MeshExport.Proofs.Feed.Stream

/-! The indexes mirror the cluster. After any stream of watch events, each of the three holds the objects
that the last complete relist and the updates since have left; it does not move while a relist is under
way, and a relist that lists what is there changes nothing. -/

namespace MeshExport

section mirror

variable {σ ρ α : Type} [Resource ρ]

/-- What a feed makes of the streams of its kind, from `s₀` on. Of each object it sees `view`; `holds`
says what it means that a state has exactly the given objects. -/
structure Feed.Mirrors (f : Feed σ ρ) (s₀ : σ) (view : ρ → α)
    (holds : σ → (NamespacedName → Option ρ) → Prop) : Prop where
  live : ∀ {p : Phase} (stream : Stream ρ p), ∃ loop s,
    f.watchAll (.running {}) s₀ stream.events = some (.running loop, s) ∧ holds s stream.live
  /-- A relist under way leaves the state as it was before. -/
  listing : ∀ stream : Stream ρ .listing, ∃ loop loop' s,
    f.watchAll (.running {}) s₀ stream.settled.events = some (.running loop, s) ∧
      f.watchAll (.running {}) s₀ stream.events = some (.running loop', s)
  /-- So does a complete one that listed what there was. -/
  relist : ∀ (stream : Stream ρ .listing) (w : Walk NamespacedName),
    (∀ k, (stream.listed k).map view = (stream.live k).map view) → ∃ loop loop' s,
      f.watchAll (.running {}) s₀ stream.settled.events = some (.running loop, s) ∧
        f.watchAll (.running {}) s₀ (stream.initDone w).events = some (.running loop', s)

variable {f : Feed σ ρ} {step : σ → Entry ρ → σ} {s₀ : σ} {view : ρ → α}
  {holds : σ → (NamespacedName → Option ρ) → Prop}

namespace Stream.Tracks

variable {stream : Stream ρ .listing} {loop : WatchLoop ρ} {entries : List (Entry ρ)}

theorem entries_relist (h : stream.Tracks loop entries)
    (hv : ∀ k, (stream.listed k).map view = (stream.live k).map view) (w : Walk NamespacedName) :
    (FeedCall.reset loop.added loop.removed).entries w = loop.added.map .applied := by
  have hr : loop.removed = ∅ := by
    refine Std.ExtTreeSet.ext_mem fun k => ?_
    rw [h.removed k]
    constructor
    · rintro ⟨-, hs, hl⟩
      have hk := hv k
      rw [hl, Option.map_none, eq_comm, Option.map_eq_none_iff] at hk
      rw [hk] at hs
      cases hs
    · intro hk
      exact absurd hk Std.ExtTreeSet.not_mem_empty
  have hw : w.order (loop.removed.toList) = [] := by
    rw [hr]
    exact List.Perm.eq_nil (w.perm _)
  rw [FeedCall.entries_reset h.isNamed_added, hw, List.map_nil, List.append_nil]

end Stream.Tracks

theorem Feed.Reads.mirrors (h : f.Reads step)
    (hholds : ∀ entries, holds (entries.foldl step s₀) (Entry.latest · entries))
    (hsame : ∀ (entries : List (Entry ρ)) (objects : List ρ),
      (∀ o ∈ objects, ∃ k, key? o = some k ∧ (Entry.latest k entries).isSome) →
      (∀ k, (Entry.latest k (entries ++ objects.map .applied)).map view =
        (Entry.latest k entries).map view) →
      (entries ++ objects.map Entry.applied).foldl step s₀ = entries.foldl step s₀) :
    f.Mirrors s₀ view holds where
  live stream := by
    obtain ⟨entries, -, loop, ht, hw⟩ := h.follows s₀ stream
    have hl : (Entry.latest · entries) = stream.live := funext ht.latest
    exact ⟨loop, _, hw, hl ▸ hholds entries⟩
  listing stream := by
    obtain ⟨entries, ⟨loop, -, hq⟩, loop', -, hw⟩ := h.follows s₀ stream
    exact ⟨loop, loop', _, hq, hw⟩
  relist stream w hv := by
    obtain ⟨entries, ⟨loop, -, hq⟩, hs⟩ := h.follows s₀ stream
    obtain ⟨loop', ht, loop'', -, hw⟩ := h.follows_initDone hs w
    refine ⟨loop, loop'', _, hq, ?_⟩
    have hlatest (k : NamespacedName) : (Entry.latest k (entries ++ loop'.added.map .applied)).map
        view = (Entry.latest k entries).map view := by
      rw [Entry.latest_append_applied, ht.added, ht.latest]
      have hk := hv k
      cases hl : stream.listed k <;> simp_all
    rw [hw, ht.entries_relist hv w, hsame entries loop'.added ?_ hlatest]
    intro o ho
    obtain ⟨k, hk⟩ := ht.named o ho
    refine ⟨k, hk, ?_⟩
    have hs := Entry.isSome_latest_applied ho hk
    rw [ht.added] at hs
    rw [ht.latest, ← Option.isSome_map, ← hv, Option.isSome_map, hs]

end mirror

namespace ExportState

theorem isExported_created (e : ExportState) (service k : ServiceId) :
    (e.created service).value.isExported k = if service = k then true else e.isExported k := by
  have ht : (e.created service).value.table = (e.table.set service true).1 :=
    e.table_edit (.created service)
  rw [isExported, ExportTable.isExported, ht, ExportTable.record?_set]
  split <;> rfl

theorem isExported_deleted (e : ExportState) (service k : ServiceId) :
    (e.deleted service).value.isExported k = if service = k then false else e.isExported k := by
  have ht : (e.deleted service).value.table = (e.table.remove service).1 :=
    e.table_edit (.deleted service)
  rw [isExported, ExportTable.isExported, ht, ExportTable.record?_remove]
  split <;> rfl

theorem isExported_read (e : ExportState) (entry : Entry ServiceExport) (k : ServiceId) :
    (e.read entry).isExported k =
      if entry.key? = some k then entry.object?.isSome else e.isExported k := by
  cases entry with
  | deleted name => simp [read, isExported_deleted, Entry.key?, Entry.object?]
  | applied x =>
    simp only [read, Entry.key?, Entry.object?, Option.isSome_some]
    rcases Option.eq_none_or_eq_some (MeshExport.key? x) with hk | ⟨service, hk⟩
    · simp [hk]
    · simp [hk, isExported_created]

theorem isExported_foldl_read {e : ExportState} (h : ∀ k, e.isExported k = false)
    (entries : List (Entry ServiceExport)) (k : ServiceId) :
    (entries.foldl read e).isExported k = (Entry.latest k entries).isSome := by
  induction entries using List.reverseRecOn with
  | nil => exact h k
  | append_singleton entries entry ih =>
    rw [List.foldl_append, List.foldl_cons, List.foldl_nil, isExported_read, ih, Entry.latest_snoc]
    split <;> rfl

theorem read_of_isExported {e : ExportState} {x : ServiceExport} {k : ServiceId}
    (hk : MeshExport.key? x = some k) (h : e.isExported k) : e.read (.applied x) = e := by
  rw [read, hk]
  exact edit_of_isExported h

theorem foldl_read_of_isExported {e : ExportState} {objects : List ServiceExport}
    (h : ∀ x ∈ objects, ∃ k, MeshExport.key? x = some k ∧ e.isExported k) :
    (objects.map Entry.applied).foldl read e = e := by
  induction objects with
  | nil => rfl
  | cons x xs ih =>
    obtain ⟨k, hk, he⟩ := h x List.mem_cons_self
    rw [List.map_cons, List.foldl_cons, read_of_isExported hk he]
    exact ih fun x hx => h x (List.mem_cons_of_mem _ hx)

theorem exportFeed_mirrors (policy : Policy) (width : Nat) (hash : ServiceId → UInt64) :
    exportFeed.Mirrors { policy, table := .empty width hash } (fun _ => ())
      (fun e live => ∀ k, e.isExported k = (live k).isSome) := by
  have hempty (k : ServiceId) :
      ({ policy, table := .empty width hash } : ExportState).isExported k = false := by
    simp [isExported, ExportTable.isExported, ExportTable.record?_empty]
  refine exportFeed_reads.mirrors (fun entries => isExported_foldl_read hempty entries) ?_
  intro entries objects hobjects _
  rw [List.foldl_append]
  refine foldl_read_of_isExported fun x hx => ?_
  obtain ⟨k, hk, hl⟩ := hobjects x hx
  exact ⟨k, hk, (isExported_foldl_read hempty entries k).trans hl⟩

end ExportState

namespace Directory

theorem serviceFeed_mirrors (cluster : Cluster) :
    serviceFeed.Mirrors { cluster } (fun _ => ())
      (fun d live => ∀ k, k ∈ d.services ↔ (live k).isSome) := by
  have hm (entries : List (Entry Service)) := (mirrors_empty cluster).readServices entries
  have hc (entries : List (Entry Service)) :=
    cluster_foldl cluster_readService ({ cluster } : Directory) entries
  simp only [List.nil_append] at hm
  refine serviceFeed_reads.mirrors (fun entries => (hm entries).services) ?_
  intro entries objects _ hv
  refine (hm _).ext (hm entries) ((hc _).trans (hc entries).symm) (fun k => ?_) fun _ => rfl
  have hk := congrArg Option.isSome (hv k)
  rwa [Option.isSome_map, Option.isSome_map] at hk

theorem sliceFeed_mirrors (cluster : Cluster) :
    sliceFeed.Mirrors { cluster } id (fun d live => ∀ (k : ServiceId) (name : String),
      d.held k name = (live ⟨k.ns, name⟩).bind (·.share? cluster.id k)) := by
  have hm (entries : List (Entry EndpointSlice)) := (mirrors_empty cluster).readSlices entries
  have hc (entries : List (Entry EndpointSlice)) :=
    cluster_foldl (fun d entry => (frame_readSlice d entry).cluster) ({ cluster } : Directory) entries
  simp only [List.nil_append] at hm
  refine sliceFeed_reads.mirrors (fun entries k name => ?_) ?_
  · rw [(hm entries).held, hc]
  · intro entries objects _ hv
    refine (hm _).ext (hm entries) ((hc _).trans (hc entries).symm) (fun _ => rfl) fun k => ?_
    have hk := hv k
    rwa [Option.map_id] at hk

end Directory

/-- After any stream of watch events on named objects, with relists in it and perhaps one under way,
the exported services, the known services and the slices held under the services they name are those
of the objects that exist: each state is left alone until a relist is complete, and a relist that lists
the same names, or for slices the same objects, leaves it as it was. -/
theorem feeds_mirror_streams (policy : Policy) (cluster : Cluster) (width : Nat)
    (hash : ServiceId → UInt64) :
    ExportState.exportFeed.Mirrors { policy, table := .empty width hash } (fun _ => ())
        (fun e live => ∀ k, e.isExported k = (live k).isSome) ∧
      Directory.serviceFeed.Mirrors { cluster } (fun _ => ())
        (fun d live => ∀ k, k ∈ d.services ↔ (live k).isSome) ∧
      Directory.sliceFeed.Mirrors { cluster } id
        (fun d live => ∀ (k : ServiceId) (name : String),
          d.held k name = (live ⟨k.ns, name⟩).bind (·.share? cluster.id k)) :=
  ⟨ExportState.exportFeed_mirrors policy width hash, Directory.serviceFeed_mirrors cluster,
    Directory.sliceFeed_mirrors cluster⟩

end MeshExport
