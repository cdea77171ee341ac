import MeshExport.Proofs.Feed.Sources

/-! What a directory holds: the endpoints of a slice, by service and slice name. The owner table says
for each slice where they are, and no service is kept with an empty table, so a directory is told by
its services and its holdings. Every entry read replaces what is held for its slice and nothing else. -/

namespace MeshExport

/-- The endpoints a version of a slice adds to a service, if it names that service. -/
def EndpointSlice.share? (s : EndpointSlice) (cluster : ClusterId) (service : ServiceId) :
    Option (List Endpoint) :=
  if s.owner? = some service.name then
    some (s.endpointsOf IpAddress.parse? cluster service).value
  else none

namespace Directory

/-- The endpoints kept for a service under a slice name. -/
def held (d : Directory) (service : ServiceId) (slice : String) : Option (List Endpoint) :=
  d.slices[service]?.bind (·[slice]?)

theorem ext_tables {d d' : Directory} (hc : d.cluster = d'.cluster) (hs : d.services = d'.services)
    (hsl : d.slices = d'.slices) (ho : d.owners = d'.owners) : d = d' := by
  cases d
  cases d'
  simp_all

/-- The owner table and the slices agree. -/
structure Indexed (d : Directory) : Prop where
  /-- The owner of a slice is the one service of its namespace that holds it. -/
  owners : ∀ (slice : SliceId) (service : ServiceId),
    d.owners[slice]? = some service ↔ service.ns = slice.ns ∧ (d.held service slice.name).isSome
  /-- A service without slices has no table. -/
  nonempty : ∀ service : ServiceId, d.slices[service]? ≠ some ∅

theorem held_dropSlice (d : Directory) (service : ServiceId) (slice : String) (k : ServiceId)
    (name : String) :
    (d.dropSlice service slice).held k name =
      if service = k ∧ slice = name then none else d.held k name := by
  simp only [held, dropSlice]
  cases h : d.slices[service]? with
  | none =>
    by_cases hk : service = k
    · simp [← hk, h]
    · simp [hk]
  | some slices =>
    by_cases hk : service = k
    · subst hk
      have he : (slices.erase slice)[name]? = if slice = name then none else slices[name]? := by
        simp [Std.ExtTreeMap.getElem?_erase]
      by_cases hs : (slices.erase slice).isEmpty
      · rw [Std.ExtTreeMap.isEmpty_iff.mp hs] at he
        simpa [h, hs] using he
      · simpa [h, hs] using he
    · by_cases hs : (slices.erase slice).isEmpty <;>
        simp [hs, hk, Std.ExtTreeMap.getElem?_erase, Std.ExtTreeMap.getElem?_insert]

theorem owners_dropSlice (d : Directory) (service : ServiceId) (slice : String) :
    (d.dropSlice service slice).owners = d.owners := by
  simp only [dropSlice]
  split
  · rfl
  · split <;> rfl

theorem nonempty_dropSlice {d : Directory} (h : ∀ k : ServiceId, d.slices[k]? ≠ some ∅)
    (service : ServiceId) (slice : String) (k : ServiceId) :
    (d.dropSlice service slice).slices[k]? ≠ some ∅ := by
  simp only [dropSlice]
  split
  · exact h k
  · rename_i slices _
    by_cases hs : (slices.erase slice).isEmpty
    · by_cases hk : service = k <;> simp [hs, hk, Std.ExtTreeMap.getElem?_erase, h k]
    · by_cases hk : service = k
      · rw [Std.ExtTreeMap.isEmpty_iff] at hs
        simp [hs, hk]
      · simp [hs, hk, Std.ExtTreeMap.getElem?_insert, h k]

theorem held_putSlice (d : Directory) (slice : SliceId) (service : ServiceId)
    (endpoints : List Endpoint) (k : ServiceId) (name : String) :
    (d.putSlice slice service endpoints).held k name =
      if service = k ∧ slice.name = name then some endpoints else d.held k name := by
  by_cases hk : service = k
  · subst hk
    cases h : d.slices[service]? <;>
      simp [held, putSlice, h, Std.ExtTreeMap.getElem?_insert]
  · simp [held, putSlice, hk, Std.ExtTreeMap.getElem?_insert]

theorem nonempty_putSlice {d : Directory} (h : ∀ k : ServiceId, d.slices[k]? ≠ some ∅)
    (slice : SliceId) (service : ServiceId) (endpoints : List Endpoint) (k : ServiceId) :
    (d.putSlice slice service endpoints).slices[k]? ≠ some ∅ := by
  by_cases hk : service = k
  · simp [putSlice, hk]
  · simp [putSlice, hk, Std.ExtTreeMap.getElem?_insert, h k]

theorem owners_forgetSlice (d : Directory) (slice k : SliceId) :
    (d.forgetSlice slice).owners[k]? = if slice = k then none else d.owners[k]? := by
  cases h : d.owners[slice]? with
  | none =>
    by_cases hk : slice = k
    · simp [forgetSlice, ← hk, h]
    · simp [forgetSlice, hk, h]
  | some service =>
    simp only [forgetSlice, h, owners_dropSlice, Std.ExtTreeMap.getElem?_erase,
      Std.LawfulEqOrd.compare_eq_iff_eq]

theorem held_forgetSlice_of_owner {d : Directory} {slice : SliceId} {service : ServiceId}
    (h : d.owners[slice]? = some service) (k : ServiceId) (name : String) :
    (d.forgetSlice slice).held k name =
      if service = k ∧ slice.name = name then none else d.held k name := by
  simp only [forgetSlice, h]
  exact held_dropSlice ..

theorem Indexed.held_forgetSlice {d : Directory} (h : d.Indexed) (slice : SliceId) (k : ServiceId)
    (name : String) :
    (d.forgetSlice slice).held k name = if slice = ⟨k.ns, name⟩ then none else d.held k name := by
  have hk := h.owners ⟨k.ns, name⟩ k
  cases ho : d.owners[slice]? with
  | none =>
    simp only [forgetSlice, ho]
    by_cases hs : slice = ⟨k.ns, name⟩
    · rw [← hs, ho] at hk
      simpa [hs] using hk
    · rw [if_neg hs]
  | some service =>
    obtain ⟨hns, -⟩ := (h.owners slice service).mp ho
    rw [held_forgetSlice_of_owner ho]
    by_cases hs : slice = ⟨k.ns, name⟩
    · rw [if_pos hs]
      rw [← hs, ho, Option.some_inj] at hk
      -- if another service owned the slice, `k` would not hold it anyway
      by_cases hsk : service = k
      · rw [if_pos ⟨hsk, by rw [hs]⟩]
      · rw [if_neg fun hc => hsk hc.1]
        simpa [hsk, hs] using hk
    · rw [if_neg hs, if_neg]
      rintro ⟨rfl, rfl⟩
      exact hs (by rw [hns])

theorem Indexed.forgetSlice {d : Directory} (h : d.Indexed) (slice : SliceId) :
    (d.forgetSlice slice).Indexed where
  owners k service := by
    rw [owners_forgetSlice, h.held_forgetSlice]
    by_cases hk : slice = k
    · rw [if_pos hk]
      refine ⟨fun hn => (by cases hn), fun ⟨hns, hs⟩ => ?_⟩
      rw [if_pos (by rw [hk, hns])] at hs
      cases hs
    · rw [if_neg hk, h.owners]
      refine and_congr_right fun hns => ?_
      rw [if_neg]
      rintro rfl
      exact hk (by rw [hns])
  nonempty k := by
    unfold Directory.forgetSlice
    split
    · exact h.nonempty k
    · refine nonempty_dropSlice ?_ _ _ k
      exact h.nonempty

theorem owners_moveSlice (d : Directory) (slice : SliceId) (service : ServiceId)
    (endpoints : List Endpoint) (k : SliceId) :
    (d.moveSlice slice service endpoints).owners[k]? =
      if slice = k then some service else d.owners[k]? := by
  have hput (d : Directory) : (d.putSlice slice service endpoints).owners[k]? =
      if slice = k then some service else d.owners[k]? := by
    simp [putSlice, Std.ExtTreeMap.getElem?_insert]
  simp only [moveSlice]
  split
  · split
    · exact hput d
    · rw [hput, owners_forgetSlice]
      split <;> rfl
  · exact hput d

theorem held_moveSlice_of_forgetSlice (d : Directory) (slice : SliceId) (service : ServiceId)
    (endpoints : List Endpoint) (k : ServiceId) (name : String) :
    (d.moveSlice slice service endpoints).held k name =
      if service = k ∧ slice.name = name then some endpoints
      else (d.forgetSlice slice).held k name := by
  cases h : d.owners[slice]? with
  | none => simp only [moveSlice, forgetSlice, h, held_putSlice]
  | some prior =>
    by_cases hp : prior = service
    · rw [hp] at h
      simp only [moveSlice, h, if_true, held_putSlice, held_forgetSlice_of_owner h]
      split <;> rfl
    · simp only [moveSlice, h, if_neg hp, held_putSlice]

namespace Indexed

variable {d : Directory} {slice : SliceId} {service : ServiceId}

/-- A moved slice is held by its new service alone. -/
theorem held_moveSlice (h : d.Indexed) (hns : service.ns = slice.ns) (endpoints : List Endpoint)
    (k : ServiceId) (name : String) :
    (d.moveSlice slice service endpoints).held k name =
      if slice = ⟨k.ns, name⟩ then if service = k then some endpoints else none
      else d.held k name := by
  rw [held_moveSlice_of_forgetSlice, h.held_forgetSlice]
  by_cases hs : slice = ⟨k.ns, name⟩
  · simp [hs]
  · rw [if_neg hs, if_neg hs, if_neg]
    rintro ⟨rfl, rfl⟩
    exact hs (by rw [hns])

theorem moveSlice (h : d.Indexed) (hns : service.ns = slice.ns) (endpoints : List Endpoint) :
    (d.moveSlice slice service endpoints).Indexed where
  owners k owner := by
    rw [owners_moveSlice, h.held_moveSlice hns]
    by_cases hk : slice = k
    · rw [if_pos hk, Option.some_inj, ← hk]
      constructor
      · rintro rfl
        simp [hns]
      · rintro ⟨hn, hs⟩
        by_contra hne
        simp [hn, hne] at hs
    · rw [if_neg hk, h.owners]
      refine and_congr_right fun hn => ?_
      rw [if_neg]
      rintro rfl
      exact hk (by rw [hn])
  nonempty k := by
    simp only [Directory.moveSlice]
    split
    · split
      · exact nonempty_putSlice h.nonempty _ _ _ k
      · exact nonempty_putSlice (h.forgetSlice slice).nonempty _ _ _ k
    · exact nonempty_putSlice h.nonempty _ _ _ k

theorem isSome_held_iff_of_slices (h : d.Indexed) (k : ServiceId) :
    (∃ name, (d.held k name).isSome) ↔ (d.slices[k]?).isSome := by
  constructor
  · rintro ⟨name, hn⟩
    cases hk : d.slices[k]? with
    | none => simp [held, hk] at hn
    | some slices => rfl
  · intro hs
    obtain ⟨slices, hk⟩ := Option.isSome_iff_exists.mp hs
    have hne : slices ≠ ∅ := fun he => h.nonempty k (by rw [hk, he])
    by_contra hno
    refine hne (Std.ExtTreeMap.eq_empty_iff_forall_not_mem.mpr fun name hm => hno ⟨name, ?_⟩)
    simpa [held, hk] using hm

/-- A directory is told by its cluster, its services and what it holds. -/
theorem ext {d' : Directory} (h : d.Indexed) (h' : d'.Indexed) (hc : d.cluster = d'.cluster)
    (hs : d.services = d'.services) (hh : ∀ k name, d.held k name = d'.held k name) : d = d' := by
  have hslices : d.slices = d'.slices := by
    refine Std.ExtTreeMap.ext_getElem? fun k => ?_
    have hk : (d.slices[k]?).isSome ↔ (d'.slices[k]?).isSome := by
      rw [← h.isSome_held_iff_of_slices, ← h'.isSome_held_iff_of_slices]
      simp only [hh]
    have hheld := hh k
    cases ht : d.slices[k]? <;> cases ht' : d'.slices[k]? <;>
      simp only [ht, ht', held, Option.isSome_none, Option.isSome_some, Option.bind_some,
        Bool.false_eq_true, false_iff, iff_false, not_true] at hk hheld ⊢
    exact congrArg some (Std.ExtTreeMap.ext_getElem? hheld)
  have howners : d.owners = d'.owners := by
    refine Std.ExtTreeMap.ext_getElem? fun slice => Option.ext fun service => ?_
    rw [h.owners, h'.owners, hh]
  exact ext_tables hc hs hslices howners

theorem held_placeSlice (h : d.Indexed) (slice : SliceId) (s : EndpointSlice) (k : ServiceId)
    (name : String) :
    (d.placeSlice slice s).held k name =
      if slice = ⟨k.ns, name⟩ then s.share? d.cluster.id k else d.held k name := by
  cases ho : s.owner? with
  | none => simp [placeSlice, EndpointSlice.share?, ho, h.held_forgetSlice]
  | some owner =>
    have hns : (⟨slice.ns, owner⟩ : ServiceId).ns = slice.ns := rfl
    simp only [placeSlice, EndpointSlice.share?, ho, h.held_moveSlice hns, Option.some_inj]
    by_cases hs : slice = ⟨k.ns, name⟩
    · rw [if_pos hs, if_pos hs, hs]
      by_cases hk : owner = k.name
      · simp [hk]
      · rw [if_neg hk, if_neg fun he => hk (congrArg NamespacedName.name he)]
    · rw [if_neg hs, if_neg hs]

theorem placeSlice (h : d.Indexed) (slice : SliceId) (s : EndpointSlice) :
    (d.placeSlice slice s).Indexed := by
  simp only [Directory.placeSlice]
  split
  · exact h.forgetSlice slice
  · refine h.moveSlice ?_ _
    rfl

/-- Reading an entry replaces what is held for its slice. -/
theorem held_readSlice (h : d.Indexed) (entry : Entry EndpointSlice) (k : ServiceId)
    (name : String) :
    (d.readSlice entry).held k name =
      if entry.key? = some ⟨k.ns, name⟩ then entry.object?.bind (·.share? d.cluster.id k)
      else d.held k name := by
  cases entry with
  | deleted slice => simp [Directory.readSlice, h.held_forgetSlice, Entry.key?, Entry.object?]
  | applied s =>
    simp only [Directory.readSlice, Entry.key?, Entry.object?, Option.bind_some]
    rcases Option.eq_none_or_eq_some (MeshExport.key? s) with hk | ⟨slice, hk⟩
    · simp [hk]
    · simp only [hk, Option.elim_some, h.held_placeSlice, Option.some_inj]

theorem readSlice (h : d.Indexed) (entry : Entry EndpointSlice) : (d.readSlice entry).Indexed := by
  cases entry with
  | deleted slice => exact h.forgetSlice slice
  | applied s =>
    simp only [Directory.readSlice]
    cases MeshExport.key? s with
    | none => exact h
    | some slice => exact h.placeSlice slice s

end Indexed

/-! The services. -/

theorem mem_services_readService (d : Directory) (entry : Entry Service) (k : ServiceId) :
    k ∈ (d.readService entry).services ↔
      if entry.key? = some k then entry.object?.isSome = true else k ∈ d.services := by
  cases entry with
  | deleted name =>
    by_cases hk : name = k
    · simp [readService, removeService, Entry.key?, Entry.object?, hk]
    · simp [readService, removeService, Entry.key?, hk]
  | applied s =>
    simp only [readService, Entry.key?, Entry.object?, Option.isSome_some]
    rcases Option.eq_none_or_eq_some (MeshExport.key? s) with hk | ⟨service, hk⟩
    · simp [hk]
    · by_cases hs : service = k <;> simp [hk, addService, hs]

theorem readService_eq (d : Directory) (entry : Entry Service) :
    ∃ services, d.readService entry = { d with services } := by
  cases entry with
  | deleted name => exact ⟨_, rfl⟩
  | applied s =>
    simp only [readService]
    cases MeshExport.key? s <;> exact ⟨_, rfl⟩

theorem Indexed.readService {d : Directory} (h : d.Indexed) (entry : Entry Service) :
    (d.readService entry).Indexed := by
  obtain ⟨services, he⟩ := readService_eq d entry
  rw [he]
  exact ⟨h.owners, h.nonempty⟩

theorem held_readService (d : Directory) (entry : Entry Service) (k : ServiceId) (name : String) :
    (d.readService entry).held k name = d.held k name := by
  obtain ⟨services, he⟩ := readService_eq d entry
  rw [he]
  rfl

theorem cluster_readService (d : Directory) (entry : Entry Service) :
    (d.readService entry).cluster = d.cluster := by
  obtain ⟨services, he⟩ := readService_eq d entry
  rw [he]

theorem frame_readSlice (d : Directory) (entry : Entry EndpointSlice) :
    d.Frame (d.readSlice entry) := by
  cases entry with
  | deleted slice => exact frame_forgetSlice d slice
  | applied s =>
    simp only [readSlice]
    cases MeshExport.key? s with
    | none => exact ⟨rfl, rfl⟩
    | some slice =>
      simp only [Option.elim_some, placeSlice]
      split
      · exact frame_forgetSlice d slice
      · exact frame_moveSlice ..

end Directory
end MeshExport
