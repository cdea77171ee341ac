import MeshExport.Proofs.CommandLine.Environment

/-! The environment speaks for an option that is not given as the option itself would, and is not heard
where it is given. Each variable speaks for its own option, whatever the others say. -/

namespace MeshExport.CommandLine

theorem Opt.flag_check {o : Opt} (h : o.isFlag = true) {v : String} (hv : o.check v = .ok ()) :
    v = "true" ∨ v = "false" := by
  by_contra hother
  obtain ⟨htrue, hfalse⟩ := not_or.mp hother
  have hnone : flagValue? v = none := by
    unfold flagValue?
    rw [if_neg htrue, if_neg hfalse]
  cases o <;> cases h <;> simp [check, hnone] at hv

/-- A flag that is given as `false` is as good as not given. -/
theorem Opt.flag_false {o : Opt} (h : o.isFlag = true) :
    o.check "false" = .ok () ∧ o.standard = some "false" ∧ .clusterId ≠ o := by
  cases o <;> cases h <;> decide

/-! A variable and its option. -/

section variable_of_option

variable {o : Opt} {name : String} (ho : o.envName? = some name) (env : Environment)

include ho

theorem Opt.eq_of_envName? {p : Opt} (hp : p.envName? = some name) : p = o := by
  have hpo : p.envName? = o.envName? := hp.trans ho.symm
  clear hp
  cases o <;> cases ho <;> cases p <;> first | rfl | exact absurd hpo (by decide)

theorem Opt.fromEnv_eq : o.fromEnv env = env name := by
  rw [Opt.fromEnv, ho, Option.bind_some]

theorem Opt.fromEnv_update_of_ne {p : Opt} (h : p ≠ o) (value : Option String) :
    p.fromEnv (Function.update env name value) = p.fromEnv env := by
  unfold Opt.fromEnv
  cases hp : p.envName? with
  | none => rfl
  | some other =>
    have hne : other ≠ name := by
      rintro rfl
      exact h (Opt.eq_of_envName? ho hp)
    rw [Option.bind_some, Option.bind_some, Function.update_of_ne hne]

namespace Given

variable {env} {g : Given} {v : String}

theorem filled_update_of_ne {p : Opt} (h : p ≠ o) (value : Option String) :
    g.filled (Function.update env name value) p = g.filled env p := by
  rw [filled, Opt.fromEnv_update_of_ne ho env h, filled]

theorem heeds_update_of_ne {p : Opt} (h : p ≠ o) (value : Option String) :
    g.Heeds (Function.update env name value) p ↔ g.Heeds env p := by
  unfold Heeds
  rw [Opt.fromEnv_update_of_ne ho env h]

variable (hg : g o = none) (hv : env name = some v)

include hg hv

/-! To give an option what its variable says and to unset the variable comes to the same. -/

theorem filled_put : (g.put o v).filled (Function.update env name none) = g.filled env := by
  funext p
  by_cases hp : p = o
  · subst hp
    rw [filled_of_some (put_self g p v), filled_of_none hg, Opt.fromEnv_eq ho, hv]
  · rw [filled_update_of_ne ho hp, filled, put_of_ne hp, filled]

theorem heeds_put :
    (∀ p, g.Heeds env p) ↔
      o.check v = .ok () ∧ ∀ p, (g.put o v).Heeds (Function.update env name none) p := by
  have hself : o.fromEnv env = some v := (Opt.fromEnv_eq ho env).trans hv
  have hother {p : Opt} (hp : p ≠ o) :
      (g.put o v).Heeds (Function.update env name none) p ↔ g.Heeds env p := by
    rw [heeds_update_of_ne ho hp, Heeds, put_of_ne hp, Heeds]
  constructor
  · intro h
    refine ⟨h o hg v hself, fun p => ?_⟩
    by_cases hp : p = o
    · subst hp
      intro hnone
      cases (put_self g p v).symm.trans hnone
    · exact (hother hp).mpr (h p)
  · rintro ⟨hcheck, h⟩ p
    by_cases hp : p = o
    · subst hp
      intro _ value hvalue
      cases hself.symm.trans hvalue
      exact hcheck
    · exact (hother hp).mp (h p)

end Given

namespace Settings

variable {argv : List String} {A : Settings}

theorem parse_of_occursIn (h : o.OccursIn argv) (value : Option String) :
    parse argv (Function.update env name value) = parse argv env := by
  have hread : readArguments argv (Function.update env name value) = readArguments argv env := by
    refine readArguments_congr fun g hg p hp => Opt.fromEnv_update_of_ne ho env ?_ value
    rintro rfl
    rw [← isSome_givenBy hg, hp] at h
    cases h
  rw [parse, hread, parse]

/-- Where the option is not named, its variable speaks as the option would in front of the others. -/
theorem parse_argument (hn : ¬o.OccursIn argv) {v : String} (hv : env name = some v)
    (hflag : o.isFlag = true → v = "true") :
    parse argv env = .ok A ↔ parse (o.argument v :: argv) (Function.update env name none) = .ok A := by
  rw [parse_eq_ok, parse_eq_ok, givenBy_cons hflag hn]
  constructor
  · rintro ⟨g, hg, hheeds, hcluster, hA⟩
    have hnone : g o = none := eq_none_of_givenBy hg hn
    obtain ⟨hcheck, hrest⟩ := (Given.heeds_put ho hnone hv).mp hheeds
    refine ⟨g.put o v, bind_eq_ok.mpr ⟨(), hcheck, map_eq_ok.mpr ⟨g, hg, rfl⟩⟩, hrest, ?_⟩
    rw [Given.filled_put ho hnone hv]
    exact ⟨hcluster, hA⟩
  · rintro ⟨_, hput, hheeds, hcluster, hA⟩
    obtain ⟨_, hcheck, hput⟩ := bind_eq_ok.mp hput
    obtain ⟨g, hg, rfl⟩ := map_eq_ok.mp hput
    have hnone : g o = none := eq_none_of_givenBy hg hn
    rw [Given.filled_put ho hnone hv] at hcluster hA
    exact ⟨g, hg, (Given.heeds_put ho hnone hv).mpr ⟨hcheck, hheeds⟩, hcluster, hA⟩

theorem parse_false (hn : ¬o.OccursIn argv) (hflag : o.isFlag = true) (hv : env name = some "false") :
    parse argv env = .ok A ↔ parse argv (Function.update env name none) = .ok A := by
  obtain ⟨hcheck, hstandard, hcluster⟩ := Opt.flag_false hflag
  have hself : o.fromEnv env = some "false" := (Opt.fromEnv_eq ho env).trans hv
  have hunset : o.fromEnv (Function.update env name none) = none :=
    (Opt.fromEnv_eq ho _).trans (Function.update_self ..)
  rw [parse_eq_ok, parse_eq_ok]
  refine exists_congr fun g => and_congr_right fun hg => ?_
  have hnone : g o = none := eq_none_of_givenBy hg hn
  have hheeds : (∀ p, g.Heeds env p) ↔ ∀ p, g.Heeds (Function.update env name none) p := by
    refine forall_congr' fun p => ?_
    by_cases hp : p = o
    · subst hp
      simp [Given.Heeds, hself, hunset, hcheck]
    · rw [Given.heeds_update_of_ne ho hp]
  have hvalues (p : Opt) : (g.filled env p).or p.standard =
      (g.filled (Function.update env name none) p).or p.standard := by
    by_cases hp : p = o
    · subst hp
      rw [Given.filled_of_none hnone, Given.filled_of_none hnone, hself, hunset, hstandard]
      rfl
    · rw [Given.filled_update_of_ne ho hp]
  rw [hheeds, Given.filled_update_of_ne ho hcluster, ofGiven_congr hvalues]

theorem check_of_parse (hn : ¬o.OccursIn argv) {v : String} (hv : env name = some v)
    (h : parse argv env = .ok A) : o.check v = .ok () := by
  obtain ⟨g, hg, hheeds, -, -⟩ := parse_eq_ok.mp h
  have hnone : g o = none := eq_none_of_givenBy hg hn
  exact ((Given.heeds_put ho hnone hv).mp hheeds).1

end Settings

end variable_of_option

/-- An option with a variable that is named on the command line keeps its variable from being heard. Where
it is not named and the variable has a value, the outcome is that of the option with this value in front and
no variable; for a flag the value is `true` or `false`, the latter being no different from none, and any
other is refused. This holds for each such option whatever the other variables are. -/
theorem Settings.fallback_as_option (o : Opt) (name : String) (ho : o.envName? = some name)
    (argv : List String) (env : Environment) :
    let unset : Environment := Function.update env name none
    (o.OccursIn argv → ∀ value, parse argv (Function.update env name value) = parse argv env) ∧
      (¬o.OccursIn argv → ∀ v, env name = some v →
        (o.isFlag = false → ∀ A,
          parse argv env = .ok A ↔ parse (("--" ++ o.name ++ "=" ++ v) :: argv) unset = .ok A) ∧
        (o.isFlag = true →
          (v = "true" → ∀ A,
            parse argv env = .ok A ↔ parse (("--" ++ o.name) :: argv) unset = .ok A) ∧
          (v = "false" → ∀ A, parse argv env = .ok A ↔ parse argv unset = .ok A) ∧
          (v ≠ "true" → v ≠ "false" → ∃ e, parse argv env = .error e))) := by
  intro unset
  refine ⟨fun h => parse_of_occursIn ho env h, fun hn v hv => ⟨fun hflag A => ?_, fun hflag => ⟨?_, ?_, ?_⟩⟩⟩
  · have hargument : o.argument v = "--" ++ o.name ++ "=" ++ v := by simp [Opt.argument, hflag]
    rw [← hargument]
    exact parse_argument ho env hn hv (by simp [hflag])
  · rintro rfl A
    have hargument : o.argument "true" = "--" ++ o.name := by simp [Opt.argument, hflag]
    rw [← hargument]
    exact parse_argument ho env hn hv fun _ => rfl
  · rintro rfl A
    exact parse_false ho env hn hflag hv
  · intro htrue hfalse
    cases hA : parse argv env with
    | error e => exact ⟨e, rfl⟩
    | ok A =>
      have hcheck := check_of_parse ho env hn hv hA
      exact ((Opt.flag_check hflag hcheck).elim htrue hfalse).elim

/-- The cluster is named by its variable. The variable of a flag is not heard where the flag is given, and
where it is not, a value that is none of a flag's leaves no settings. -/
theorem Settings.cluster_from_variable :
    let argv := ["--mcs-cluster-local"]
    let env : Environment := fun name =>
      [("LINKERD_CLUSTER_ID", "c2"), ("ENABLE_MCS_CLUSTER_LOCAL", "yes")].lookup name
    let unset : Environment := Function.update env "LINKERD_CLUSTER_ID" none
    (readArguments argv env).toOption.map (fun g => (g .clusterId, g .clusterLocal)) =
        some (some "c2", some "true") ∧
      (∀ A, parse argv env = .ok A ↔ parse ("--cluster-id=c2" :: argv) unset = .ok A) ∧
      parse argv (Function.update env "ENABLE_MCS_CLUSTER_LOCAL" none) = parse argv env ∧
      ∃ e, parse [] env = .error e := by
  intro argv env unset
  have hflag : Opt.clusterLocal.OccursIn argv := by decide
  have hcluster : ¬Opt.clusterId.OccursIn argv := by decide
  obtain ⟨-, hspeaks⟩ := fallback_as_option .clusterId "LINKERD_CLUSTER_ID" rfl argv env
  obtain ⟨hgiven, -⟩ := fallback_as_option .clusterLocal "ENABLE_MCS_CLUSTER_LOCAL" rfl argv env
  obtain ⟨-, hrefused⟩ := fallback_as_option .clusterLocal "ENABLE_MCS_CLUSTER_LOCAL" rfl [] env
  have hbad := (hrefused (by decide) "yes" (by decide)).2 rfl
  have hread : (readArguments argv env).toOption.map (fun g => (g .clusterId, g .clusterLocal)) =
      some (some "c2", some "true") := by decide +kernel
  have hargument : "--" ++ Opt.clusterId.name ++ "=" ++ "c2" = "--cluster-id=c2" := by decide
  have hequal := (hspeaks hcluster "c2" (by decide)).1 rfl
  rw [hargument] at hequal
  exact ⟨hread, hequal, hgiven hflag none, hbad.2.2 (by decide) (by decide)⟩

end MeshExport.CommandLine
