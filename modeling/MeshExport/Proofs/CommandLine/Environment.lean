import Mathlib.Logic.Function.Basic
import MeshExport.CommandLine.Settings
import MeshExport.Proofs.CommandLine.Given

/-! What the environment adds to the options a command line gives: the value of each that is not given and
has a variable, if it is a good one. The variables are heard one after the other, but none depends on
another. -/

namespace MeshExport.CommandLine

def Opt.fromEnv (o : Opt) (env : Environment) : Option String := o.envName?.bind env

namespace Given

variable {env env' : Environment} {g g' : Given} {o : Opt} {os : List Opt}

/-- The values once the environment has spoken. -/
def filled (env : Environment) (g : Given) : Given := fun o => (g o).or (o.fromEnv env)

/-- The values once the variable of one option has been heard. -/
def hear (env : Environment) (g : Given) (o : Opt) : Given := Function.update g o (g.filled env o)

/-- If the environment speaks for the option, it does so with a good value. -/
def Heeds (env : Environment) (g : Given) (o : Opt) : Prop :=
  g o = none → ∀ value, o.fromEnv env = some value → o.check value = .ok ()

theorem filled_of_some {v : String} (h : g o = some v) : g.filled env o = some v := by
  rw [filled, h, Option.some_or]

theorem filled_of_none (h : g o = none) : g.filled env o = o.fromEnv env := by
  rw [filled, h, Option.none_or]

theorem fallBack_of_some {v : String} (h : g o = some v) : g.fallBack env o = .ok g := by
  unfold fallBack
  rw [h]

theorem fallBack_of_silent (h : o.fromEnv env = none) : g.fallBack env o = .ok g := by
  unfold Opt.fromEnv at h
  unfold fallBack
  rw [h]
  cases g o <;> rfl

theorem fallBack_of_none {v : String} (h : g o = none) (hv : o.fromEnv env = some v) :
    g.fallBack env o = (fun _ => g.put o v) <$> o.check v := by
  unfold Opt.fromEnv at hv
  simp only [fallBack, h, hv]
  cases o.check v <;> rfl

theorem hear_self : g.hear env o o = g.filled env o := Function.update_self ..

theorem hear_of_ne {p : Opt} (h : p ≠ o) : g.hear env o p = g p := Function.update_of_ne h ..

theorem hear_eq_self (h : g.filled env o = g o) : g.hear env o = g := by
  rw [hear, h, Function.update_eq_self]

theorem fallBack_eq_ok : g.fallBack env o = .ok g' ↔ g.Heeds env o ∧ g.hear env o = g' := by
  cases hg : g o with
  | some w =>
    rw [fallBack_of_some hg, hear_eq_self ((filled_of_some hg).trans hg.symm), Except.ok.injEq]
    exact (and_iff_right fun h => nomatch hg.symm.trans h).symm
  | none =>
    cases hv : o.fromEnv env with
    | none =>
      rw [fallBack_of_silent hv, hear_eq_self ((filled_of_none hg).trans (hv.trans hg.symm)),
        Except.ok.injEq]
      exact (and_iff_right fun _ value h => nomatch hv.symm.trans h).symm
    | some v =>
      have hput : g.put o v = g.hear env o := by
        funext p
        by_cases hp : p = o
        · subst hp
          rw [put_self, hear_self, filled_of_none hg, hv]
        · rw [put_of_ne hp, hear_of_ne hp]
      rw [fallBack_of_none hg hv, map_eq_ok, hput]
      constructor
      · rintro ⟨_, hcheck, rfl⟩
        refine ⟨fun _ value hvalue => ?_, rfl⟩
        cases hv.symm.trans hvalue
        exact hcheck
      · rintro ⟨hheeds, rfl⟩
        exact ⟨(), hheeds hg v hv, rfl⟩

theorem filled_hear (env : Environment) (g : Given) (o : Opt) :
    (g.hear env o).filled env = g.filled env := by
  funext p
  by_cases hp : p = o
  · subst hp
    rw [filled, hear_self, filled, Option.or_assoc, Option.or_self]
  · rw [filled, hear_of_ne hp, filled]

theorem heeds_hear (h : g.Heeds env o) (p : Opt) : (g.hear env o).Heeds env p ↔ g.Heeds env p := by
  unfold Heeds
  by_cases hp : p = o
  · subst hp
    rw [hear_self]
    refine ⟨fun _ => h, fun _ hnone value hvalue => ?_⟩
    rw [filled, Option.or_eq_none_iff] at hnone
    cases hnone.2.symm.trans hvalue
  · rw [hear_of_ne hp]

theorem fallBacks_eq_ok :
    os.foldlM (fallBack env) g = .ok g' ↔
      (∀ o ∈ os, g.Heeds env o) ∧ (fun p => if p ∈ os then g.filled env p else g p) = g' := by
  induction os generalizing g with
  | nil =>
    rw [List.foldlM_nil, pure_eq_ok]
    simp
  | cons o os ih =>
    have hvalues : (fun p => if p ∈ os then (g.hear env o).filled env p else g.hear env o p) =
        fun p => if p ∈ o :: os then g.filled env p else g p := by
      funext p
      rw [filled_hear]
      by_cases hp : p = o
      · subst hp
        simp [hear_self]
      · simp [hear_of_ne hp, hp]
    -- hearing `o` leaves open what the others ask of the environment, also if `o` comes again
    rw [List.foldlM_cons, bind_eq_ok, List.forall_mem_cons, ← hvalues]
    constructor
    · rintro ⟨g₁, hstep, hrest⟩
      obtain ⟨ho, rfl⟩ := fallBack_eq_ok.mp hstep
      obtain ⟨hos, hg'⟩ := ih.mp hrest
      exact ⟨⟨ho, fun p hp => (heeds_hear ho p).mp (hos p hp)⟩, hg'⟩
    · rintro ⟨⟨ho, hos⟩, hg'⟩
      exact ⟨_, fallBack_eq_ok.mpr ⟨ho, rfl⟩,
        ih.mpr ⟨fun p hp => (heeds_hear ho p).mpr (hos p hp), hg'⟩⟩

end Given

theorem Opt.mem_all (o : Opt) : o ∈ Opt.all := by
  cases o <;> decide

/-- First the arguments speak and then the variables; the cluster has to be named by either. -/
theorem readArguments_eq (argv : List String) (env : Environment) :
    readArguments argv env =
      givenBy argv >>= fun g => Opt.all.foldlM (Given.fallBack env) g >>= fun g' =>
        if (g' .clusterId).isNone then .error (.usage .missingRequiredArgument) else .ok g' := by
  unfold readArguments givenBy
  rw [bind_assoc]
  rfl

theorem readArguments_eq_ok {argv : List String} {env : Environment} {g' : Given} :
    readArguments argv env = .ok g' ↔
      ∃ g, givenBy argv = .ok g ∧ (∀ o, g.Heeds env o) ∧ g.filled env = g' ∧ g' .clusterId ≠ none := by
  rw [readArguments_eq, bind_eq_ok]
  refine exists_congr fun g => and_congr_right fun _ => ?_
  simp only [bind_eq_ok, Given.fallBacks_eq_ok, Opt.mem_all, if_true, true_imp_iff]
  constructor
  · rintro ⟨_, ⟨hheeds, rfl⟩, h⟩
    split at h
    · cases h
    · rename_i hcluster
      cases h
      exact ⟨hheeds, rfl, by simpa using hcluster⟩
  · rintro ⟨hheeds, rfl, hcluster⟩
    refine ⟨_, ⟨hheeds, rfl⟩, ?_⟩
    rw [if_neg (by simpa using hcluster)]

theorem Settings.parse_eq_ok {argv : List String} {env : Environment} {A : Settings} :
    parse argv env = .ok A ↔
      ∃ g, givenBy argv = .ok g ∧ (∀ o, g.Heeds env o) ∧ g.filled env .clusterId ≠ none ∧
        ofGiven (g.filled env) = .ok A := by
  unfold parse
  simp only [bind_eq_ok, readArguments_eq_ok]
  constructor
  · rintro ⟨_, ⟨g, hg, hheeds, rfl, hcluster⟩, hA⟩
    exact ⟨g, hg, hheeds, hcluster, hA⟩
  · rintro ⟨g, hg, hheeds, hcluster, hA⟩
    exact ⟨_, ⟨g, hg, hheeds, rfl, hcluster⟩, hA⟩

theorem Settings.ofGiven_congr {g g' : Given} (h : ∀ o, (g o).or o.standard = (g' o).or o.standard) :
    ofGiven g = ofGiven g' := by
  unfold ofGiven
  simp only [h]

namespace Given

theorem fallBacks_congr {env env' : Environment} {g : Given} {os : List Opt}
    (h : ∀ p, g p = none → p.fromEnv env = p.fromEnv env') :
    os.foldlM (fallBack env) g = os.foldlM (fallBack env') g := by
  induction os generalizing g with
  | nil => rfl
  | cons o os ih =>
    have hstep : g.fallBack env o = g.fallBack env' o := by
      cases hg : g o with
      | some v => rw [fallBack_of_some hg, fallBack_of_some hg]
      | none =>
        have ho : o.envName?.bind env = o.envName?.bind env' := h o hg
        unfold fallBack
        rw [ho]
    rw [List.foldlM_cons, List.foldlM_cons, ← hstep]
    cases hg₁ : g.fallBack env o with
    | error e => rfl
    | ok g₁ =>
      obtain ⟨-, rfl⟩ := fallBack_eq_ok.mp hg₁
      -- what is not given now was not given before
      refine ih fun p hp => h p ?_
      by_cases hpo : p = o
      · subst hpo
        rw [hear_self, filled, Option.or_eq_none_iff] at hp
        exact hp.1
      · rwa [hear_of_ne hpo] at hp

end Given

theorem readArguments_congr {argv : List String} {env env' : Environment}
    (h : ∀ g, givenBy argv = .ok g → ∀ p, g p = none → p.fromEnv env = p.fromEnv env') :
    readArguments argv env = readArguments argv env' := by
  rw [readArguments_eq, readArguments_eq]
  refine bind_congr_ok fun g hg => ?_
  rw [Given.fallBacks_congr (h g hg)]

end MeshExport.CommandLine
