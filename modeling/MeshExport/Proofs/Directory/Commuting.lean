import MeshExport.Proofs.Directory.Holdings

/-! What commutes in a directory. Services and slices are kept apart, so an entry about a service and one
about a slice are read in either order; and slices are forgotten in any order, from whatever state. -/

namespace MeshExport

namespace Directory

section services

variable (d : Directory) (services : Std.ExtTreeSet ServiceId)

theorem dropSlice_services (service : ServiceId) (slice : String) :
    ({ d with services } : Directory).dropSlice service slice =
      { d.dropSlice service slice with services } := by
  simp only [dropSlice]
  split
  · rfl
  · split <;> rfl

theorem forgetSlice_services (slice : SliceId) :
    ({ d with services } : Directory).forgetSlice slice = { d.forgetSlice slice with services } := by
  simp only [forgetSlice]
  split
  · rfl
  · exact dropSlice_services { d with owners := d.owners.erase slice } services _ slice.name

theorem moveSlice_services (slice : SliceId) (service : ServiceId) (endpoints : List Endpoint) :
    ({ d with services } : Directory).moveSlice slice service endpoints =
      { d.moveSlice slice service endpoints with services } := by
  simp only [moveSlice, forgetSlice_services]
  split
  · split <;> rfl
  · rfl

theorem readSlice_services (entry : Entry EndpointSlice) :
    ({ d with services } : Directory).readSlice entry = { d.readSlice entry with services } := by
  cases entry with
  | deleted slice => exact forgetSlice_services ..
  | applied s =>
    simp only [readSlice]
    cases MeshExport.key? s with
    | none => rfl
    | some slice =>
      simp only [Option.elim_some, placeSlice]
      split
      · exact forgetSlice_services ..
      · exact moveSlice_services ..

end services

theorem readService_readSlice (d : Directory) (service : Entry Service)
    (slice : Entry EndpointSlice) :
    (d.readService service).readSlice slice = (d.readSlice slice).readService service := by
  have hs : (d.readSlice slice).services = d.services := (frame_readSlice d slice).services
  cases service with
  | deleted name =>
    simp only [readService, removeService, hs]
    exact readSlice_services ..
  | applied s =>
    simp only [readService]
    cases MeshExport.key? s with
    | none => rfl
    | some name =>
      simp only [Option.elim_some, addService, hs]
      exact readSlice_services ..

/-- Entries about services and entries about slices are read in either order. -/
theorem foldl_readService_readSlice (d : Directory) (services : List (Entry Service))
    (slices : List (Entry EndpointSlice)) :
    slices.foldl readSlice (services.foldl readService d) =
      services.foldl readService (slices.foldl readSlice d) := by
  refine List.foldl_hom (services.foldl readService ·) fun d slice => ?_
  refine (List.foldl_hom (readSlice · slice) fun d service => ?_).symm
  exact (d.readService_readSlice service slice).symm

/-! Slices are forgotten in any order. -/

/-- The slices of a service besides one of them, if there are others. -/
def others? (slice : String) (slices : SliceTable) : Option SliceTable :=
  if (slices.erase slice).isEmpty then none else some (slices.erase slice)

theorem others?_comm (known : Option SliceTable) (a b : String) :
    (known.bind (others? a)).bind (others? b) = (known.bind (others? b)).bind (others? a) := by
  -- what is left once both are gone
  have hboth (slices : SliceTable) (a b : String) :
      (others? a slices).bind (others? b) =
        if ((slices.erase a).erase b).isEmpty then none else some ((slices.erase a).erase b) := by
    simp only [others?]
    by_cases ha : (slices.erase a).isEmpty
    · rw [Std.ExtTreeMap.isEmpty_iff] at ha
      simp [ha]
    · rw [if_neg ha, Option.bind_some, others?]
  have herase (slices : SliceTable) : (slices.erase a).erase b = (slices.erase b).erase a := by
    refine Std.ExtTreeMap.ext_getElem? fun k => ?_
    simp only [Std.ExtTreeMap.getElem?_erase]
    split <;> split <;> rfl
  cases known with
  | none => rfl
  | some slices => rw [Option.bind_some, Option.bind_some, hboth, hboth, herase]

theorem slices_dropSlice (d : Directory) (service : ServiceId) (slice : String) (k : ServiceId) :
    (d.dropSlice service slice).slices[k]? =
      if service = k then d.slices[k]?.bind (others? slice) else d.slices[k]? := by
  by_cases hk : service = k
  · subst hk
    cases hs : d.slices[service]? with
    | none => simp [dropSlice, hs]
    | some slices =>
      by_cases he : (slices.erase slice).isEmpty <;> simp [dropSlice, others?, hs, he]
  · simp only [dropSlice, if_neg hk]
    split
    · rfl
    · split <;> simp [Std.ExtTreeMap.getElem?_erase, Std.ExtTreeMap.getElem?_insert, hk]

theorem slices_forgetSlice (d : Directory) (slice : SliceId) (k : ServiceId) :
    (d.forgetSlice slice).slices[k]? =
      if d.owners[slice]? = some k then d.slices[k]?.bind (others? slice.name) else d.slices[k]? := by
  cases ho : d.owners[slice]? with
  | none => simp [forgetSlice, ho]
  | some service => simp only [forgetSlice, ho, slices_dropSlice, Option.some_inj]

theorem forgetSlice_comm (d : Directory) (a b : SliceId) :
    (d.forgetSlice a).forgetSlice b = (d.forgetSlice b).forgetSlice a := by
  by_cases hab : a = b
  · rw [hab]
  have ha := frame_forgetSlice d a
  have hb := frame_forgetSlice d b
  have hab' := frame_forgetSlice (d.forgetSlice a) b
  have hba := frame_forgetSlice (d.forgetSlice b) a
  refine ext_tables ?_ ?_ ?_ ?_
  · rw [hab'.cluster, hba.cluster, ha.cluster, hb.cluster]
  · rw [hab'.services, hba.services, ha.services, hb.services]
  · refine Std.ExtTreeMap.ext_getElem? fun k => ?_
    simp only [slices_forgetSlice, owners_forgetSlice, if_neg hab, if_neg (Ne.symm hab)]
    split <;> split
    · exact others?_comm ..
    · rfl
    · rfl
    · rfl
  · refine Std.ExtTreeMap.ext_getElem? fun slice => ?_
    simp only [owners_forgetSlice]
    split <;> split <;> rfl

end Directory
end MeshExport
