import Mathlib.Data.List.Perm.Basic
import MeshExport.Proofs.Directory.Commuting
import MeshExport.Proofs.Exports.Edits

/-! The order in which a reset walks the removed names makes no difference: each of the three feeds ends
in the same state, since deletions commute. -/

namespace MeshExport

/-- Where deletions commute, a call ends in one state, whatever the order of the removed names. -/
theorem Feed.Reads.run_order {σ ρ : Type} [Resource ρ] {f : Feed σ ρ} {step : σ → Entry ρ → σ}
    (h : f.Reads step)
    (hcomm : ∀ s a b, step (step s (.deleted a)) (.deleted b) =
      step (step s (.deleted b)) (.deleted a))
    (w w' : Walk NamespacedName) (s : σ) (call : FeedCall ρ) :
    ((f.walking w).run s call).state = ((f.walking w').run s call).state := by
  rw [h.run, h.run]
  cases call with
  | apply o => rfl
  | delete name => rfl
  | reset objects removed =>
    have hp : (w.order removed.toList).Perm (w'.order removed.toList) :=
      (w.perm _).trans (w'.perm _).symm
    simp only [FeedCall.entries, List.foldl_append]
    split
    · simp only [List.foldl_map]
      exact hp.foldl_eq' (fun a _ b _ s => hcomm s a b) _
    · rfl

namespace ExportState

theorem read_deleted_comm (e : ExportState) (a b : ServiceId) :
    (e.read (.deleted a)).read (.deleted b) = (e.read (.deleted b)).read (.deleted a) := by
  by_cases hab : a = b
  · rw [hab]
  · exact e.edit_comm (x := .deleted a) (y := .deleted b) hab

theorem exportFeed_order (w w' : Walk NamespacedName) (e : ExportState)
    (call : FeedCall ServiceExport) :
    ((exportFeed.walking w).run e call).state = ((exportFeed.walking w').run e call).state :=
  exportFeed_reads.run_order read_deleted_comm w w' e call

end ExportState

namespace Directory

theorem removeService_comm (d : Directory) (a b : ServiceId) :
    (d.removeService a).removeService b = (d.removeService b).removeService a := by
  refine ext_tables rfl (Std.ExtTreeSet.ext_mem fun k => ?_) rfl rfl
  simp only [removeService, Std.ExtTreeSet.mem_erase]
  exact and_left_comm

theorem serviceFeed_order (w w' : Walk NamespacedName) (d : Directory) (call : FeedCall Service) :
    ((serviceFeed.walking w).run d call).state = ((serviceFeed.walking w').run d call).state :=
  serviceFeed_reads.run_order removeService_comm w w' d call

theorem sliceFeed_order (w w' : Walk NamespacedName) (d : Directory) (call : FeedCall EndpointSlice) :
    ((sliceFeed.walking w).run d call).state = ((sliceFeed.walking w').run d call).state :=
  sliceFeed_reads.run_order forgetSlice_comm w w' d call

end Directory
end MeshExport
