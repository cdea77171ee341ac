import MeshExport.NamespacedName

/-! The exported flag of every service an export was seen for. A service without a record is not
exported. Records are spread over a fixed number of shards by a hash of the service; each record lies
in its own service's shard. -/

namespace MeshExport

abbrev Shard := Std.ExtTreeMap ServiceId Bool

structure ExportTable where
  width : Nat
  hash : ServiceId → UInt64
  shards : Vector Shard width
  width_pos : 0 < width
  placed : ∀ (i : Nat) (h : i < width) (service : ServiceId),
    service ∈ shards[i] → (hash service).toNat % width = i

namespace ExportTable

/-- No records, over `n` shards; at least one shard. -/
def empty (n : Nat) (hash : ServiceId → UInt64) : ExportTable where
  width := max n 1
  hash
  shards := Vector.replicate (max n 1) ∅
  width_pos := by omega
  placed i h service hm := by simp at hm

def defaultWidth : Nat := 16

def slot (t : ExportTable) (service : ServiceId) : Fin t.width :=
  ⟨(t.hash service).toNat % t.width, Nat.mod_lt _ t.width_pos⟩

def shard (t : ExportTable) (service : ServiceId) : Shard := t.shards[t.slot service]

def record? (t : ExportTable) (service : ServiceId) : Option Bool := (t.shard service)[service]?

def isExported (t : ExportTable) (service : ServiceId) : Bool := (t.record? service).getD false

/-- Replaces the shard of `service` by one with records of no other services than before. -/
def withShard (t : ExportTable) (service : ServiceId) (shard : Shard)
    (h : ∀ k, k ∈ shard → k ∈ t.shard service ∨ k = service) : ExportTable where
  width := t.width
  hash := t.hash
  shards := t.shards.set (t.slot service) shard
  width_pos := t.width_pos
  placed i hi k hk := by
    by_cases hs : (t.slot service : Nat) = i
    · subst hs
      rw [Vector.getElem_set_self] at hk
      rcases h k hk with hk | rfl
      · exact t.placed _ _ k hk
      · rfl
    · rw [Vector.getElem_set_ne _ _ hs] at hk
      exact t.placed _ _ k hk

def insert (t : ExportTable) (service : ServiceId) (exported : Bool) : ExportTable :=
  t.withShard service ((t.shard service).insert service exported) fun k hk => by
    simp only [Std.ExtTreeMap.mem_insert, Std.compare_eq_iff_eq] at hk
    rcases hk with rfl | hk
    · exact Or.inr rfl
    · exact Or.inl hk

def erase (t : ExportTable) (service : ServiceId) : ExportTable :=
  t.withShard service ((t.shard service).erase service) fun k hk => by
    simp only [Std.ExtTreeMap.mem_erase] at hk
    exact Or.inl hk.2

/-- Sets the flag; whether that was a change. A first record is one, even of false. -/
def set (t : ExportTable) (service : ServiceId) (exported : Bool) : ExportTable × Bool :=
  if t.record? service = some exported then (t, false) else (t.insert service exported, true)

/-- Removes the record; whether the service was exported. -/
def remove (t : ExportTable) (service : ServiceId) : ExportTable × Bool :=
  (t.erase service, t.isExported service)

/-- Number of records, exported or not. -/
def size (t : ExportTable) : Nat := t.shards.toList.foldl (fun n shard => n + shard.size) 0

def isEmpty (t : ExportTable) : Bool := t.shards.toList.all (·.isEmpty)

def exportedIn (shard : Shard) : List ServiceId :=
  shard.toList.filterMap fun r => if r.2 then some r.1 else none

def exportedCount (t : ExportTable) : Nat :=
  t.shards.toList.foldl (fun n shard => n + (exportedIn shard).length) 0

/-- The exported services in ascending order. -/
def exported (t : ExportTable) : List ServiceId :=
  NamespacedName.sort (t.shards.toList.flatMap exportedIn)

theorem isExported_iff (t : ExportTable) (service : ServiceId) :
    t.isExported service = true ↔ t.record? service = some true := by
  unfold isExported
  cases t.record? service <;> simp

/-! What the operations do to the records. -/

theorem getElem_shards_of_slot {t : ExportTable} {service : ServiceId} {i : Nat} (h : i < t.width)
    (hs : (t.slot service : Nat) = i) : t.shards[i] = t.shard service := by
  subst hs; rfl

theorem record?_empty (n : Nat) (hash : ServiceId → UInt64) (service : ServiceId) :
    (empty n hash).record? service = none := by
  have hs : (empty n hash).shard service = ∅ :=
    Vector.getElem_replicate ((empty n hash).slot service).isLt
  simp [record?, hs]

theorem record?_withShard (t : ExportTable) (service : ServiceId) (shard : Shard)
    (h : ∀ k, k ∈ shard → k ∈ t.shard service ∨ k = service) (k : ServiceId) :
    (t.withShard service shard h).record? k =
      if t.slot k = t.slot service then shard[k]? else t.record? k := by
  have hshard : (t.withShard service shard h).shard k =
      (t.shards.set (t.slot service) shard)[(t.slot k : Nat)] := rfl
  unfold record?
  rw [hshard]
  split
  · next hk => simp [hk]
  · next hk =>
    rw [Vector.getElem_set_ne _ _ fun he => hk (Fin.ext he.symm)]
    rfl

theorem record?_insert (t : ExportTable) (service : ServiceId) (exported : Bool) (k : ServiceId) :
    (t.insert service exported).record? k =
      if service = k then some exported else t.record? k := by
  rw [insert, record?_withShard]
  by_cases hk : service = k
  · subst hk; simp
  · by_cases hs : t.slot k = t.slot service
    · have : t.shard k = t.shard service := by simp only [shard, hs]
      simp [hs, hk, record?, this, Std.ExtTreeMap.getElem?_insert]
    · simp [hs, hk]

theorem record?_erase (t : ExportTable) (service k : ServiceId) :
    (t.erase service).record? k = if service = k then none else t.record? k := by
  rw [erase, record?_withShard]
  by_cases hk : service = k
  · subst hk; simp
  · by_cases hs : t.slot k = t.slot service
    · have : t.shard k = t.shard service := by simp only [shard, hs]
      simp [hs, hk, record?, this, Std.ExtTreeMap.getElem?_erase]
    · simp [hs, hk]

theorem record?_set (t : ExportTable) (service : ServiceId) (exported : Bool) (k : ServiceId) :
    (t.set service exported).1.record? k = if service = k then some exported else t.record? k := by
  unfold set
  split
  · next h => by_cases hk : service = k <;> simp_all
  · exact record?_insert ..

theorem record?_remove (t : ExportTable) (service k : ServiceId) :
    (t.remove service).1.record? k = if service = k then none else t.record? k :=
  record?_erase ..

theorem frame_set (t : ExportTable) (service : ServiceId) (exported : Bool) :
    (t.set service exported).1.width = t.width ∧ (t.set service exported).1.hash = t.hash := by
  unfold set
  split <;> exact ⟨rfl, rfl⟩

end ExportTable
end MeshExport
