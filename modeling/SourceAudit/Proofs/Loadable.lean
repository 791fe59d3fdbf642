import SourceAudit.Proofs.Older

/-! How loading settings ends: it breaks off exactly if the content is not loadable. -/

namespace SourceAudit

variable {e : SettingsError}

def SettingsError.Refusal : SettingsError → Prop
  | unreadable _ | malformed _ | dataMissing _ _ => True
  | noProfile _ _ | fault _ => False

namespace Settings

variable {path : String} {es : Fields} {content : Value} {log : Log}

/-- Loading ends with a dictionary of settings or with a refusal. -/
def Managed : EStateM.Result SettingsError Log Settings → Prop
  | .ok s _ => ∃ es, s.content = .dict es
  | .error e _ => e.Refusal

def Lacks (es : Fields) : Prop :=
  ∃ before q after, questions (profilesOf es) = before ++ q :: after ∧ (∀ r ∈ before, r.Passes es) ∧
    q.Clear ∧ q.Lacking es

def Loads (es : Fields) : Prop := (∀ q ∈ questions (profilesOf es), q.Passes es) ∧ Convertible es

/-- Content for which loading does not break off. What is no dictionary must be searchable and hold no profiles. -/
def Loadable : Value → Prop
  | .dict es => Tabled es ∧ (Lacks es ∨ Loads es)
  | v => v.Searchable ∧ ¬ v.Mentions "profiles"

theorem validate_of_loads (path : String) (log : Log) (tabled : Tabled es)
    (passes : ∀ q ∈ questions (profilesOf es), q.Passes es) :
    ∃ later, (validate path (.dict es)).run log = .ok () later := by
  cases present : Value.lookup (.str "profiles") es with
  | none => exact ⟨log, validate_without_profiles present⟩
  | some v =>
    obtain ⟨profiles, rfl⟩ := tabled v present
    rw [profilesOf_of_present present] at passes
    exact ⟨_, validate_of_passing present passes⟩

theorem validate_of_first (tabled : Tabled es) {before after : List Question} {q : Question}
    (asked : questions (profilesOf es) = before ++ q :: after) (earlier : ∀ r ∈ before, r.Passes es)
    (stops : ∀ log, (Question.ask path (.dict es) q).run log = .error e log) :
    (validate path (.dict es)).run log = .error e log := by
  cases present : Value.lookup (.str "profiles") es with
  | none =>
    rw [profilesOf_of_absent present] at asked
    exact absurd asked (by simp [questions])
  | some v =>
    obtain ⟨profiles, rfl⟩ := tabled v present
    rw [profilesOf_of_present present] at asked
    exact validate_of_stopping present asked earlier stops

theorem ofContent_of_refused (refused : (validate path content).run log = .error e log) :
    (ofContent path content).run log = .error e log := by
  unfold ofContent
  rw [EStateM.run_bind, refused]

theorem ofContent_dict (path : String) (es : Fields) : ofContent path (.dict es) =
      (validate path (.dict es) >>= fun _ => modernize (.dict es) >>= fun now => pure ⟨now⟩) := rfl

theorem ofContent_of_loads (path : String) (log : Log) (tabled : Tabled es) (loads : Loads es) :
    ∃ now later, (ofContent path (.dict es)).run log = .ok ⟨.dict now⟩ later ∧
      Value.lookup (.str "profiles") now = (Value.lookup (.str "profiles") es).map fun _ =>
        .dict ((profilesOf es).map (renewProfile (calls es) (imports es))) := by
  obtain ⟨between, passed⟩ := validate_of_loads path log tabled loads.1
  obtain ⟨now, renewed, profiles⟩ := modernize_of_convertible tabled loads.2 between
  rw [ofContent_dict]
  exact ⟨now, _, Answers.run_bind_eq_ok.mpr ⟨(), between, passed, Answers.run_bind_eq_ok.mpr ⟨_, _, renewed, rfl⟩⟩, profiles⟩

theorem ofContent_of_lacks (path : String) (log : Log) (tabled : Tabled es) (lacks : Lacks es) :
    ∃ test, (ofContent path (.dict es)).run log = .error (.dataMissing path test) log := by
  obtain ⟨_, q, _, asked, earlier, clear, lacking⟩ := lacks
  have stops := fun log => (Question.ask_of_clear path es clear log).1 lacking
  exact ⟨q.test, ofContent_of_refused (validate_of_first tabled asked earlier stops)⟩

theorem ofContent_of_not_tabled (untabled : ¬ Tabled es) :
    (ofContent path (.dict es)).run log = .error (.fault .missingAttribute) log := by
  simp only [Tabled, not_forall] at untabled
  obtain ⟨v, present, other⟩ := untabled
  exact ofContent_of_refused (validate_of_no_table present fun profiles same => other ⟨profiles, same⟩)

theorem ofContent_of_neither (path : String) (log : Log) (tabled : Tabled es) (complete : ¬ Lacks es)
    (unfit : ¬ Loads es) : ∃ fault later, (ofContent path (.dict es)).run log = .error (.fault fault) later := by
  rcases Question.exists_first es (questions (profilesOf es)) with passes | ⟨before, q, after, asked, earlier, stops⟩
  · -- nothing is wrong with the questions, so it is the form of profiles or data
    obtain ⟨between, passed⟩ := validate_of_loads path log tabled passes
    have inconvertible : ¬ Convertible es := fun fits => unfit ⟨passes, fits⟩
    obtain ⟨fault, fails⟩ := modernize_of_not_convertible tabled inconvertible between
    refine ⟨fault, between, ?_⟩
    rw [ofContent_dict, EStateM.run_bind, passed]
    simp only
    rw [EStateM.run_bind, fails]
  · -- the first question that does not pass is unclear, or data would be lacking
    have unclear : ¬ q.Clear := by
      intro clear
      have lacking : q.Lacking es := by
        by_contra fine
        exact stops ⟨clear, fine⟩
      exact complete ⟨before, q, after, asked, earlier, clear, lacking⟩
    obtain ⟨fault, fails⟩ := Question.ask_of_not_clear path es unclear
    exact ⟨fault, log, ofContent_of_refused (validate_of_first tabled asked earlier fails)⟩

theorem managed_dict_iff : Managed ((ofContent path (.dict es)).run log) ↔ Loadable (.dict es) := by
  by_cases tabled : Tabled es
  · by_cases lacks : Lacks es
    · obtain ⟨_, refused⟩ := ofContent_of_lacks path log tabled lacks
      rw [refused]
      exact iff_of_true trivial ⟨tabled, .inl lacks⟩
    · by_cases loads : Loads es
      · obtain ⟨now, later, loaded, -⟩ := ofContent_of_loads path log tabled loads
        rw [loaded]
        exact iff_of_true ⟨now, rfl⟩ ⟨tabled, .inr loads⟩
      · obtain ⟨_, later, broken⟩ := ofContent_of_neither path log tabled lacks loads
        rw [broken]
        exact iff_of_false id fun loadable => loadable.2.elim lacks loads
  · rw [ofContent_of_not_tabled tabled]
    exact iff_of_false id fun loadable => tabled loadable.1

theorem loads_of_ofContent {s : Settings} {later : Log}
    (loaded : (ofContent path (.dict es)).run log = .ok s later) : Tabled es ∧ Loads es := by
  by_cases tabled : Tabled es
  · refine ⟨tabled, ?_⟩
    by_contra unfit
    by_cases lacks : Lacks es
    · obtain ⟨_, refused⟩ := ofContent_of_lacks path log tabled lacks
      cases loaded.symm.trans refused
    · obtain ⟨_, later, broken⟩ := ofContent_of_neither path log tabled lacks unfit
      cases loaded.symm.trans broken
  · cases loaded.symm.trans (ofContent_of_not_tabled tabled)

theorem entry_of_no_dict {v : Value} (other : ∀ es, v ≠ .dict es) (name : String) : v.entry name = .error .wrongKind := by
  cases v with
  | dict es => exact absurd rfl (other es)
  | _ => rfl

theorem managed_other_iff (other : ∀ es, content ≠ .dict es) :
    Managed ((ofContent path content).run log) ↔ content.Searchable ∧ ¬ content.Mentions "profiles" := by
  by_cases searchable : content.Searchable
  · obtain ⟨found, searched, meaning⟩ := Value.holds_of_searchable searchable "profiles"
    rw [← meaning]
    cases found with
    | true =>
      have broken : (validate path content).run log = .error (.fault .wrongKind) log := by
        unfold validate
        rw [searched, Loading.run_ofAnswer_bind]
        simp only [if_true]
        rw [entry_of_no_dict other, Loading.run_ofAnswer_bind]
      rw [ofContent_of_refused broken]
      exact iff_of_false id fun fine => fine.2 rfl
    | false =>
      have passed : (validate path content).run log = .ok () log := by
        unfold validate
        rw [searched, Loading.run_ofAnswer_bind]
        rfl
      have refused : (ofContent path content).run log = .error (.malformed path) log := by
        unfold ofContent
        rw [EStateM.run_bind, passed]
        cases content with
        | dict es => exact absurd rfl (other es)
        | _ => rfl
      rw [refused]
      exact iff_of_true trivial ⟨searchable, by decide⟩
  · have broken : (validate path content).run log = .error (.fault .wrongKind) log := by
      unfold validate
      rw [Value.holds_of_not_searchable searchable, Loading.run_ofAnswer_bind]
    rw [ofContent_of_refused broken]
    exact iff_of_false id fun fine => searchable fine.1

theorem managed_ofContent_iff : Managed ((ofContent path content).run log) ↔ Loadable content := by
  cases content with
  | dict es => exact managed_dict_iff
  | _ => exact managed_other_iff (by intro es; nofun)

/-- Loading ends with settings or with a refusal exactly for content that is loadable, and so in a file that programs
share. Content is a tree: no record of it stands in two places. -/
theorem managed_iff_loadable (path : String) (content : Value) (log : Log) :
    (Managed ((ofContent path content).run log) ↔ Loadable content) ∧
      ∀ b early, path.endsWith ".toml" = true → (sharedContent path b).run early = .ok content log →
        (Managed ((ofFile path b).run early) ↔ Loadable content) := by
  refine ⟨managed_ofContent_iff, fun b early shared read => ?_⟩
  rw [ofFile, if_pos shared, EStateM.run_bind, read]
  exact managed_ofContent_iff

def bareProfile : Bytes := Utf8.encode "[tool.bandit.profiles.p]\ninclude = ['blacklist_calls']\n".toList

theorem bareProfile_loadable : ∃ content log,
    (sharedContent "pyproject.toml" bareProfile).run [] = .ok content log ∧
    Managed ((ofFile "pyproject.toml" bareProfile).run []) ∧ Loadable content := by
  have readable : (match (sharedContent "pyproject.toml" bareProfile).run [] with
      | .ok .. => true
      | .error .. => false) = true := by decide +kernel
  have lacking : (match (ofFile "pyproject.toml" bareProfile).run [] with
      | .error (.dataMissing ..) _ => true
      | _ => false) = true := by decide +kernel
  have managed : Managed ((ofFile "pyproject.toml" bareProfile).run []) := by
    split at lacking
    · rename_i refused
      rw [refused]
      trivial
    · cases lacking
  cases read : (sharedContent "pyproject.toml" bareProfile).run [] with
  | error fault log => simp [read] at readable
  | ok content log =>
    exact ⟨content, log, rfl, managed,
      ((managed_iff_loadable "pyproject.toml" content log).2 bareProfile [] (by decide +kernel) read).mp managed⟩

def isNothing : EStateM.Result SettingsError Log Value → Bool
  | .ok .null [] => true
  | _ => false

/-- An empty file has the content null, and loading it breaks off. -/
theorem empty_file_breaks_off :
    (fileContent "b.yaml" []).run [] = .ok .null [] ∧ ¬ Managed ((ofFile "b.yaml" []).run []) := by
  have empty : isNothing ((fileContent "b.yaml" []).run []) = true := by decide +kernel
  have read : (fileContent "b.yaml" []).run [] = .ok .null [] := by
    unfold isNothing at empty
    split at empty
    · assumption
    · cases empty
  refine ⟨read, ?_⟩
  rw [ofFile_eq, EStateM.run_bind, read]
  exact id

end Settings

end SourceAudit
