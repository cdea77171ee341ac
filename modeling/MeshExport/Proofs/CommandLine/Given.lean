import MeshExport.CommandLine.Parser
import MeshExport.Proofs.CommandLine.Arguments
import MeshExport.Proofs.Except

/-! The options a command line gives, which are those its arguments name before the terminator. To put an
option in front of a command line that does not name it sets its value and changes nothing else. -/

namespace MeshExport.CommandLine

namespace Given

variable {g g' : Given} {o p : Opt} {v w : String}

theorem put_self (g : Given) (o : Opt) (v : String) : g.put o v o = some v := if_pos rfl

theorem put_of_ne (h : p ≠ o) : g.put o v p = g p := if_neg h

theorem put_comm (h : p ≠ o) (g : Given) (v w : String) : (g.put o v).put p w = (g.put p w).put o v := by
  funext q
  by_cases hq : q = p
  · subst hq
    rw [put_self, put_of_ne h, put_self]
  · rw [put_of_ne hq]
    by_cases ho : q = o
    · subst ho
      rw [put_self, put_self]
    · rw [put_of_ne ho, put_of_ne ho, put_of_ne hq]

theorem take_of_some (h : g o = some w) (v : String) :
    g.take o v = .error (.usage .argumentConflict) := by
  unfold take
  rw [h]
  rfl

theorem take_of_none (h : g o = none) (v : String) :
    g.take o v = (fun _ => g.put o v) <$> o.check v := by
  unfold take
  rw [h]
  cases o.check v <;> rfl

theorem take_eq_ok : g.take o v = .ok g' ↔ g o = none ∧ o.check v = .ok () ∧ g' = g.put o v := by
  cases hg : g o with
  | some w => simp [take_of_some hg]
  | none =>
    rw [take_of_none hg, map_eq_ok]
    exact ⟨fun ⟨_, hc, he⟩ => ⟨rfl, hc, he.symm⟩, fun ⟨_, hc, he⟩ => ⟨(), hc, he.symm⟩⟩

theorem take_put (h : p ≠ o) (g : Given) (v w : String) :
    (g.put o v).take p w = (·.put o v) <$> g.take p w := by
  cases hg : g p with
  | some u => rw [take_of_some hg, take_of_some ((put_of_ne h).trans hg)]; rfl
  | none =>
    rw [take_of_none hg, take_of_none ((put_of_ne h).trans hg), put_comm h]
    cases p.check w <;> rfl

theorem isSome_take (h : g.take p v = .ok g') : (g' o).isSome ↔ (g o).isSome ∨ p = o := by
  obtain ⟨-, -, rfl⟩ := take_eq_ok.mp h
  by_cases hp : o = p
  · subst hp
    simp [put_self]
  · simp [put_of_ne hp, Ne.symm hp]

end Given

namespace ParseState

variable {s s' : ParseState} {g : Given} {o : Opt} {text : String} {argv : List String}

/-- The option is given, or is the one that waits. -/
def Names (s : ParseState) (o : Opt) : Prop :=
  (s.given o).isSome ∨ ∃ value, s.pending = some ⟨o, value⟩

theorem not_names_start (o : Opt) : ¬({} : ParseState).Names o := by
  rintro (h | ⟨_, h⟩) <;> cases h

theorem isSome_settle (h : s.settle = .ok g) : (g o).isSome ↔ s.Names o := by
  unfold settle at h
  unfold Names
  split at h
  · rename_i hp
    cases h
    simp [hp]
  · cases h
  · rename_i p value hp
    simp [Given.isSome_take h, hp]

def takeNext (s : ParseState) (p : Opt) (value : String) : Except ArgumentError ParseState :=
  s.settle >>= fun g => (fun given => { s with given, pending := none }) <$> g.take p value

def await (s : ParseState) (p : Opt) : Except ArgumentError ParseState :=
  (fun given => { s with given, pending := some ⟨p, none⟩ }) <$> s.settle

theorem long_attached {p : Opt} (hf : p.isFlag = false) (s : ParseState) (value : String) :
    s.long p.name (some value) = s.takeNext p value := by
  unfold long
  simp only [p.ofName?_name, hf]
  rfl

theorem long_flag {p : Opt} (hf : p.isFlag = true) (s : ParseState) :
    s.long p.name none = s.takeNext p "true" := by
  unfold long
  simp only [p.ofName?_name, hf]
  rfl

theorem long_await {p : Opt} (hf : p.isFlag = false) (s : ParseState) :
    s.long p.name none = s.await p := by
  unfold long
  simp only [p.ofName?_name, hf]
  unfold await
  cases s.settle <;> rfl

/-- An argument with two dashes is refused in every state, or takes up an option or lets it wait. -/
theorem long_cases (name : String) (attached : Option String) :
    (∃ e, ∀ s : ParseState, s.long name attached = .error e) ∨
      ∃ p : Opt, p.name = name ∧
        ((∃ value, ∀ s : ParseState, s.long name attached = s.takeNext p value) ∨
          ∀ s : ParseState, s.long name attached = s.await p) := by
  cases hp : Opt.ofName? name with
  | none => exact .inl ⟨.usage .unknownArgument, fun s => by simp only [long, hp]⟩
  | some p =>
    obtain rfl := Opt.name_of_ofName? hp
    cases hf : p.isFlag with
    | true =>
      cases attached with
      | some value => exact .inl ⟨_, fun s => by simp only [long, hp, hf]; rfl⟩
      | none => exact .inr ⟨p, rfl, .inl ⟨_, long_flag hf⟩⟩
    | false =>
      cases attached with
      | some value => exact .inr ⟨p, rfl, .inl ⟨value, fun s => long_attached hf s value⟩⟩
      | none => exact .inr ⟨p, rfl, .inr (long_await hf)⟩

theorem names_long {name : String} {attached : Option String} (h : s.long name attached = .ok s') :
    (s'.Names o ↔ s.Names o ∨ name = o.name) ∧ s'.terminated = s.terminated := by
  rcases long_cases name attached with ⟨e, he⟩ | ⟨p, rfl, ⟨value, hp⟩ | hp⟩
  · rw [he] at h
    cases h
  · rw [hp] at h
    obtain ⟨g, hg, h⟩ := bind_eq_ok.mp h
    obtain ⟨g', hg', rfl⟩ := map_eq_ok.mp h
    rw [← isSome_settle hg, Opt.name_inj]
    simp [Names, Given.isSome_take hg']
  · rw [hp] at h
    obtain ⟨g, hg, rfl⟩ := map_eq_ok.mp h
    rw [← isSome_settle hg, Opt.name_inj]
    simp [Names]

theorem names_value (h : s.value text = .ok s') :
    (s'.Names o ↔ s.Names o) ∧ s'.terminated = s.terminated := by
  unfold value at h
  split at h
  · rename_i p hp
    cases h
    simp [Names, hp]
  · cases h

theorem step_of_terminated (h : s.terminated = true) (text : String) :
    s.step text = .error (.usage .unknownArgument) := by
  unfold step
  exact if_pos h

theorem step_of_long (hs : s.terminated = false) {name : String} {attached : Option String}
    (ha : Argument.ofString text = .long name attached) : s.step text = s.long name attached := by
  unfold step
  rw [if_neg (Bool.eq_false_iff.mp hs), ha]

/-- A step makes the option known that the argument names, and no other. -/
theorem names_step (h : s.step text = .ok s') :
    (s'.Names o ↔ s.Names o ∨ (Argument.ofString text).name? = some o.name) ∧
      (s'.terminated = true ↔ Argument.ofString text = .terminator) := by
  cases ht : s.terminated with
  | true => rw [step_of_terminated ht] at h; cases h
  | false =>
    unfold step at h
    rw [if_neg (by simp [ht])] at h
    cases ha : Argument.ofString text with
    | terminator =>
      simp only [ha] at h
      cases h
      simp [Names, Argument.name?]
    | long name attached =>
      simp only [ha] at h
      obtain ⟨hn, ht'⟩ := names_long (o := o) h
      simp [hn, ht', ht, Argument.name?]
    | short => simp [ha] at h
    | plain =>
      simp only [ha] at h
      obtain ⟨hn, ht'⟩ := names_value (o := o) h
      simp [hn, ht', ht, Argument.name?]

theorem eq_nil_of_terminated (ht : s.terminated = true) (h : argv.foldlM step s = .ok s') : argv = [] := by
  cases argv with
  | nil => rfl
  | cons text argv =>
    rw [List.foldlM_cons, step_of_terminated ht] at h
    cases h

theorem names_run (ht : s.terminated = false) (h : argv.foldlM step s = .ok s') :
    s'.Names o ↔ s.Names o ∨ o.OccursIn argv := by
  induction argv generalizing s with
  | nil =>
    cases h
    simp [Opt.OccursIn]
  | cons text argv ih =>
    rw [List.foldlM_cons] at h
    obtain ⟨s₁, hs₁, h⟩ := bind_eq_ok.mp h
    obtain ⟨hnames, hterm⟩ := names_step (o := o) hs₁
    by_cases ha : Argument.ofString text = .terminator
    · -- what follows the terminator was accepted, so there is nothing
      have hnil := eq_nil_of_terminated (hterm.mpr ha) h
      subst hnil
      cases h
      simp [hnames, ha, Argument.name?, Opt.not_occursIn_terminated ha]
    · have ht₁ : s₁.terminated = false := Bool.eq_false_iff.mpr (mt hterm.mp ha)
      rw [ih ht₁ h, hnames, Opt.occursIn_cons ha, or_assoc]

/-! An option that no argument names can be given beforehand. -/

def giving (s : ParseState) (o : Opt) (v : String) : ParseState := { s with given := s.given.put o v }

theorem settle_giving (h : ¬s.Names o) (v : String) :
    (s.giving o v).settle = (·.put o v) <$> s.settle := by
  obtain ⟨given, pending, terminated⟩ := s
  rcases pending with _ | ⟨p, _ | value⟩
  · rfl
  · rfl
  · have hp : p ≠ o := fun he => h (.inr ⟨value, by rw [he]⟩)
    exact Given.take_put hp given v value

theorem takeNext_giving (h : ¬s.Names o) (v : String) {p : Opt} (hp : p ≠ o) (value : String) :
    (s.giving o v).takeNext p value = (·.giving o v) <$> s.takeNext p value := by
  unfold takeNext
  rw [settle_giving h]
  cases s.settle with
  | error e => rfl
  | ok g =>
    show _ <$> (g.put o v).take p value = (fun t : ParseState => t.giving o v) <$> (_ <$> g.take p value)
    rw [Given.take_put hp]
    cases g.take p value <;> rfl

theorem await_giving (h : ¬s.Names o) (v : String) (p : Opt) :
    (s.giving o v).await p = (·.giving o v) <$> s.await p := by
  unfold await
  rw [settle_giving h]
  cases s.settle <;> rfl

theorem long_giving (h : ¬s.Names o) (v : String) {name : String} (hn : name ≠ o.name)
    (attached : Option String) :
    (s.giving o v).long name attached = (·.giving o v) <$> s.long name attached := by
  rcases long_cases name attached with ⟨e, he⟩ | ⟨p, rfl, ⟨value, hp⟩ | hp⟩
  · rw [he, he]
    rfl
  · rw [hp, hp, takeNext_giving h v (mt Opt.name_inj.mpr hn)]
  · rw [hp, hp, await_giving h]

theorem step_giving (h : ¬s.Names o) (v : String) (ht : (Argument.ofString text).name? ≠ some o.name) :
    (s.giving o v).step text = (·.giving o v) <$> s.step text := by
  cases hs : s.terminated with
  | true => rw [step_of_terminated hs, step_of_terminated (s := s.giving o v) hs]; rfl
  | false =>
    have hactive : ¬s.terminated = true := Bool.eq_false_iff.mp hs
    unfold step
    rw [if_neg hactive, if_neg (c := (s.giving o v).terminated = true) hactive]
    cases ha : Argument.ofString text with
    | terminator => rfl
    | long name attached =>
      have hn : name ≠ o.name := by
        rintro rfl
        exact ht (by rw [ha]; rfl)
      exact long_giving h v hn attached
    | short => rfl
    | plain =>
      unfold value giving
      rcases s.pending with _ | ⟨p, _ | value⟩ <;> rfl

/-- Arguments that do not name the option do as before; after the terminator, none is accepted. -/
theorem run_giving (h : ¬s.Names o) (v : String) (hn : s.terminated = true ∨ ¬o.OccursIn argv) :
    argv.foldlM step (s.giving o v) = (·.giving o v) <$> argv.foldlM step s := by
  induction argv generalizing s with
  | nil => rfl
  | cons text argv ih =>
    rw [List.foldlM_cons, List.foldlM_cons]
    rcases hn with ht | hn
    · rw [step_of_terminated ht, step_of_terminated (s := s.giving o v) ht]
      rfl
    · have htext : (Argument.ofString text).name? ≠ some o.name := by
        by_cases ha : Argument.ofString text = .terminator
        · rw [ha]
          exact nofun
        · exact fun hname => hn ((Opt.occursIn_cons ha).mpr (.inl hname))
      rw [step_giving h v htext]
      cases hs : s.step text with
      | error e => rfl
      | ok s₁ =>
        obtain ⟨hnames, hterm⟩ := names_step (o := o) hs
        -- the step has not made the option known, so the rest may go on as before
        refine ih (fun hk => (hnames.mp hk).elim h htext) ?_
        by_cases ha : Argument.ofString text = .terminator
        · exact .inl (hterm.mpr ha)
        · exact .inr fun ho => hn ((Opt.occursIn_cons ha).mpr (.inr ho))

end ParseState

def givenBy (argv : List String) : Except ArgumentError Given :=
  argv.foldlM ParseState.step {} >>= ParseState.settle

theorem isSome_givenBy {argv : List String} {g : Given} (h : givenBy argv = .ok g) (o : Opt) :
    (g o).isSome ↔ o.OccursIn argv := by
  obtain ⟨s, hs, hg⟩ := bind_eq_ok.mp h
  rw [ParseState.isSome_settle hg, ParseState.names_run rfl hs, or_iff_right (ParseState.not_names_start o)]

theorem eq_none_of_givenBy {argv : List String} {g : Given} {o : Opt} (hg : givenBy argv = .ok g)
    (hn : ¬o.OccursIn argv) : g o = none :=
  Option.not_isSome_iff_eq_none.mp (mt (isSome_givenBy hg o).mp hn)

theorem ParseState.step_argument {o : Opt} {v : String} (hv : o.isFlag = true → v = "true") :
    ({} : ParseState).step (o.argument v) = (fun _ => ({} : ParseState).giving o v) <$> o.check v := by
  have hnext : ({} : ParseState).step (o.argument v) = ({} : ParseState).takeNext o v := by
    rw [step_of_long rfl (o.ofString_argument v)]
    cases hf : o.isFlag with
    | true =>
      obtain rfl := hv hf
      exact long_flag hf {}
    | false => exact long_attached hf {} v
  have hnone : Given.empty o = none := rfl
  rw [hnext]
  show (fun given => (⟨given, none, false⟩ : ParseState)) <$> Given.empty.take o v = _
  rw [Given.take_of_none hnone]
  cases o.check v <;> rfl

/-- An option put in front of a command line that does not name it is checked and given. -/
theorem givenBy_cons {o : Opt} {v : String} (hv : o.isFlag = true → v = "true") {argv : List String}
    (hn : ¬o.OccursIn argv) :
    givenBy (o.argument v :: argv) = o.check v >>= fun _ => (·.put o v) <$> givenBy argv := by
  unfold givenBy
  rw [List.foldlM_cons, ParseState.step_argument hv]
  cases o.check v with
  | error e => rfl
  | ok _ =>
    have hrun := ParseState.run_giving (ParseState.not_names_start o) v (.inr hn)
    show argv.foldlM ParseState.step (({} : ParseState).giving o v) >>= _ = _ <$> _
    rw [hrun]
    cases hs : argv.foldlM ParseState.step {} with
    | error e => rfl
    | ok s =>
      have hnames : ¬s.Names o := by
        rw [ParseState.names_run rfl hs]
        exact not_or.mpr ⟨ParseState.not_names_start o, hn⟩
      exact ParseState.settle_giving hnames v

end MeshExport.CommandLine
