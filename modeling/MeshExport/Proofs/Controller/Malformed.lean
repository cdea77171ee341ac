import MeshExport.Proofs.Controller.Counting

/-! Malformed objects. An object without a name stops a call where it is met, before it has changed
anything; an object without a namespace is put aside. A reset that meets a nameless object has applied
the objects before it and does nothing else, and whatever comes next goes on from there. -/

namespace MeshExport

section guards

variable {σ ρ : Type} [Resource ρ]

/-- A feed that stops at nameless objects alone, and there at once. -/
structure Feed.Guards (f : Feed σ ρ) : Prop where
  nameless : ∀ s o, isNamed o = false → f.apply s o = .stop s .missingName
  named : ∀ s o, isNamed o = true → (f.apply s o).fault = none
  homeless : ∀ s o, (Resource.metadata o).ns = none → (f.apply s o).state = s
  reset : f.Replays

theorem ExportState.exportFeed_guards : exportFeed.Guards where
  nameless e x h := by
    have hn : x.metadata.name = none := isNamed_eq_false_iff.mp h
    simp only [exportFeed, applyExport, hn]
  named e x := (exportFeed_reads.fault e x).mpr
  homeless e x h := by
    have hns : x.metadata.ns = none := h
    simp only [exportFeed, applyExport, hns]
    cases x.metadata.name <;> rfl
  reset _ _ _ := rfl

theorem Directory.serviceFeed_guards : serviceFeed.Guards where
  nameless d s h := by
    have hn : s.metadata.name = none := isNamed_eq_false_iff.mp h
    simp only [serviceFeed, applyService, hn]
  named d s := (serviceFeed_reads.fault d s).mpr
  homeless d s h := by
    have hns : s.metadata.ns = none := h
    simp only [serviceFeed, applyService, hns]
    cases s.metadata.name <;> rfl
  reset _ _ _ := rfl

theorem Directory.sliceFeed_guards : sliceFeed.Guards where
  nameless d s h := by
    have hn : s.metadata.name = none := isNamed_eq_false_iff.mp h
    simp only [sliceFeed, applySlice, hn]
  named d s := (sliceFeed_reads.fault d s).mpr
  homeless d s h := by
    have hns : s.metadata.ns = none := h
    simp only [sliceFeed, applySlice, hns]
    cases s.metadata.name <;> rfl
  reset _ _ _ := rfl

/-- Calls one after the other; a fault ends its own call alone. -/
def Feed.steps (f : Feed σ ρ) (s : σ) (calls : List (FeedCall ρ)) : Traced σ :=
  Traced.fold (fun s call => (f.run s call).traced) s calls

namespace Feed.Guards

variable {f : Feed σ ρ} (w : Walk NamespacedName)

theorem applyAll (h : f.Guards) (s : σ) (objects : List ρ) :
    let before := (f.walking w).steps s ((objects.takeWhile isNamed).map .apply)
    MeshExport.applyAll f.apply s objects =
      ⟨before.value, before.events, if objects.all isNamed then none else some .missingName⟩ := by
  induction objects generalizing s with
  | nil => rfl
  | cons o os ih =>
    cases hn : isNamed o with
    | false =>
      simp [MeshExport.applyAll, h.nameless s o hn, Outcome.stop, Outcome.andThen, hn, steps]
    | true =>
      simp only [MeshExport.applyAll, Outcome.andThen, h.named s o hn, ih, List.takeWhile_cons, hn,
        if_true, List.map_cons, List.all_cons, Bool.true_and]
      rfl

variable (s : σ) {objects : List ρ} (removed : Std.ExtTreeSet NamespacedName)

theorem reset_of_nameless (h : f.Guards) (hn : ∃ o ∈ objects, isNamed o = false) :
    let before := (f.walking w).steps s ((objects.takeWhile isNamed).map .apply)
    (f.walking w).run s (.reset objects removed) =
      ⟨before.value, before.events, some .missingName⟩ := by
  have hall : ¬ objects.all isNamed = true := by simpa using hn
  rw [h.reset.run_reset, replay, h.applyAll w, if_neg hall]
  rfl

theorem reset_of_named (h : f.Guards) (hn : ∀ o ∈ objects, isNamed o = true) :
    let all := (f.walking w).steps s (objects.map .apply ++ (w.order removed.toList).map .delete)
    (f.walking w).run s (.reset objects removed) = ⟨all.value, all.events, none⟩ := by
  intro all
  have hdeleted (s : σ) (names : List NamespacedName) :
      (f.walking w).steps s (names.map .delete) = Traced.fold f.delete s names := Traced.fold_map ..
  rw [h.reset.run_reset, replay, h.applyAll w, if_pos (List.all_eq_true.mpr hn),
    List.takeWhile_eq_self_iff.mpr hn]
  simp only [all, steps, Traced.fold_append_value, Traced.fold_append_events] at hdeleted ⊢
  rw [hdeleted]
  rfl

end Feed.Guards
end guards

namespace Mesh

variable {σ τ ρ : Type}

structure Part (σ τ : Type) where
  get : Mesh σ → τ
  put : Mesh σ → τ → Mesh σ
  put_get : ∀ m, put m (get m) = m
  get_put : ∀ m s, get (put m s) = s
  put_put : ∀ m s s', put (put m s) s' = put m s'

namespace Part

def exports : Part σ ExportState where
  get := Mesh.exports
  put m exports := { m with exports }
  put_get _ := rfl
  get_put _ _ := rfl
  put_put _ _ _ := rfl

def directory : Part σ Directory where
  get := Mesh.directory
  put m directory := { m with directory }
  put_get _ := rfl
  get_put _ _ := rfl
  put_put _ _ _ := rfl

/-- The actions of a kind are the calls on a feed of the part. -/
def Feeds (p : Part σ τ) (f : Feed τ ρ) (call : FeedCall ρ → Action σ) : Prop :=
  ∀ m c, m.take (call c) = (f.run (p.get m) c).map (p.put m)

variable {p : Part σ τ} {f : Feed τ ρ} {call : FeedCall ρ → Action σ}

/-- Calls in a row do to the part what they do to it alone, and nothing else. -/
theorem Feeds.run_calls (h : p.Feeds f call) (m : Mesh σ) (calls : List (FeedCall ρ)) :
    m.run (calls.map call) = p.put m <$> f.steps (p.get m) calls := by
  have hcall (c : FeedCall ρ) (s : τ) :
      (p.put m s).act (call c) = p.put m <$> (f.run s c).traced := by
    rw [← traced_take, h, p.get_put, funext (p.put_put m s)]
    rfl
  rw [run, Traced.fold_map]
  conv_lhs => rw [← p.put_get m]
  exact Traced.fold_hom (fun c _ => hcall c) (p.get m)

end Part

/-- How the calls of a kind take malformed objects, and what the actions after them do. A reset walks
the names it removes in the order `w`. -/
structure Withstands [Resource ρ] (m : Mesh σ) (w : Walk NamespacedName)
    (call : FeedCall ρ → Action σ) : Prop where
  /-- An object without a name, in a namespace or not, stops its call; nothing has changed. -/
  nameless : ∀ o actions, (Resource.metadata o).name = none →
    outcomes take m (call (.apply o) :: actions) = .stop m .missingName :: outcomes take m actions
  /-- An object with a name and without a namespace is put aside; nothing changes. -/
  homeless : ∀ o actions, (Resource.metadata o).name ≠ none → (Resource.metadata o).ns = none →
    ∃ events, outcomes take m (call (.apply o) :: actions) =
      ⟨m, events, none⟩ :: outcomes take m actions
  /-- A reset stops at the first nameless object, with the objects before it applied in order. -/
  stopped : ∀ objects removed actions, (∃ o ∈ objects, (Resource.metadata o).name = none) →
    let before := m.run ((objects.takeWhile isNamed).map fun o => call (.apply o))
    outcomes take m (call (.reset objects removed) :: actions) =
      ⟨before.value, before.events, some .missingName⟩ :: outcomes take before.value actions
  /-- A reset of named objects applies all of them and deletes what is gone. -/
  completed : ∀ objects removed actions, (∀ o ∈ objects, (Resource.metadata o).name ≠ none) →
    let all := m.run ((objects.map fun o => call (.apply o)) ++
      (w.order removed.toList).map fun name => call (.delete name))
    outcomes take m (call (.reset objects removed) :: actions) =
      ⟨all.value, all.events, none⟩ :: outcomes take all.value actions

theorem withstands [Resource ρ] {f : Feed τ ρ} (h : f.Guards) {p : Part σ τ} {w : Walk NamespacedName}
    {call : FeedCall ρ → Action σ} (hcall : p.Feeds (f.walking w) call) (m : Mesh σ) :
    m.Withstands w call where
  nameless o actions hn := by
    have hname : isNamed o = false := isNamed_eq_false_iff.mpr hn
    have htake : m.take (call (.apply o)) = .stop m .missingName := by
      rw [hcall]
      show (f.apply _ o).map _ = _
      rw [h.nameless _ o hname, Outcome.stop, Outcome.map, p.put_get]
      rfl
    rw [outcomes, htake]
    rfl
  homeless o actions hn hns := by
    have htake : m.take (call (.apply o)) = ⟨m, (f.apply (p.get m) o).events, none⟩ := by
      rw [hcall]
      show (f.apply _ o).map _ = _
      rw [Outcome.map, h.homeless _ o hns, h.named _ o (isNamed_iff.mpr hn), p.put_get]
    exact ⟨_, by rw [outcomes, htake]⟩
  stopped objects removed actions hn := by
    have hname : ∃ o ∈ objects, isNamed o = false := by simpa only [isNamed_eq_false_iff] using hn
    have hbefore := hcall.run_calls m ((objects.takeWhile isNamed).map .apply)
    rw [List.map_map] at hbefore
    have htake := hcall m (.reset objects removed)
    rw [h.reset_of_nameless w _ removed hname] at htake
    simp only [outcomes, htake, Function.comp_def] at hbefore ⊢
    rw [hbefore]
    rfl
  completed objects removed actions hn := by
    have hname : ∀ o ∈ objects, isNamed o = true := fun o ho => isNamed_iff.mpr (hn o ho)
    have hall := hcall.run_calls m (objects.map .apply ++ (w.order removed.toList).map .delete)
    rw [List.map_append, List.map_map, List.map_map] at hall
    have htake := hcall m (.reset objects removed)
    rw [h.reset_of_named w _ removed hname] at htake
    simp only [outcomes, htake, Function.comp_def] at hall ⊢
    rw [hall]
    rfl

/-- From any mesh on, calls of every kind withstand malformed objects: one without a name stops its call
before anything has changed, one with a name and without a namespace changes nothing, and a reset stops
at its first nameless object, if it has one, with the objects before it applied and nothing else done.
Every action after a stopped call goes on from there. -/
theorem malformed_objects_withstood (m : Mesh σ) (w : Walk NamespacedName) :
    m.Withstands w (fun call : FeedCall ServiceExport => .exports w call) ∧
      m.Withstands w (fun call : FeedCall Service => .directory (.service w call)) ∧
      m.Withstands w (fun call : FeedCall EndpointSlice => .directory (.slice w call)) :=
  ⟨withstands ExportState.exportFeed_guards (p := .exports) (fun _ _ => rfl) m,
    withstands Directory.serviceFeed_guards (p := .directory) (fun _ _ => rfl) m,
    withstands Directory.sliceFeed_guards (p := .directory) (fun _ _ => rfl) m⟩

/-- A relist with a nameless object between two others exports the first and keeps what it does not
list. -/
theorem reset_stopped_midway :
    let listed (name : Option String) : ServiceExport := { metadata := { name, ns := some "ns" } }
    let m : Mesh Unit := ((fresh ⟨true, false⟩ .standard (.empty 16 fun _ => 0) ()).run
      [.exports .listed (.apply (listed (some "old")))]).value
    let objects := [listed (some "first"), listed none, listed (some "last")]
    let removed := (∅ : Std.ExtTreeSet NamespacedName).insert ⟨"ns", "old"⟩
    let stopped := m.take (.exports .listed (.reset objects removed))
    (∃ o ∈ objects, (Resource.metadata o).name = none) ∧ stopped.fault = some .missingName ∧
      ["old", "first", "last"].map (fun name => stopped.state.exports.isExported ⟨"ns", name⟩) =
        [true, true, false] := by
  intro listed m objects removed stopped
  have hnameless : ∃ o ∈ objects, (Resource.metadata o).name = none :=
    ⟨listed none, by simp [objects], rfl⟩
  obtain ⟨h, -, -⟩ := malformed_objects_withstood m .listed
  have hstopped := (List.cons.inj (h.stopped objects removed [] hnameless)).1
  have hfault : stopped.fault = some .missingName := congrArg Outcome.fault hstopped
  refine ⟨hnameless, hfault, ?_⟩
  have hstate : stopped.state = (m.run [.exports .listed (.apply (listed (some "first")))]).value :=
    congrArg Outcome.state hstopped
  rw [hstate]
  decide +kernel

end Mesh
end MeshExport
