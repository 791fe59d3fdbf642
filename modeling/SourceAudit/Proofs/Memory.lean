import SourceAudit.Proofs.Components
import SourceAudit.Proofs.Lifetime

/-! What searches leave behind in settings: entries of the caller are added for good to a list that is not empty. -/

namespace SourceAudit

open Answers List

namespace Settings

def Keeps (s : Settings) : Prop := ∃ first rest, s.option "exclude_dirs" = .ok (.list (first :: rest))

def adding (more : List Value) (s : Settings) : Settings :=
  match s.option "exclude_dirs", s.content with
  | .ok (.list (first :: rest)), .dict es =>
    if more.isEmpty then s
    else ⟨.dict (Value.put (.str "exclude_dirs") (.list (first :: (rest ++ more))) es)⟩
  | _, _ => s

theorem adding_nil (s : Settings) : s.adding [] = s := by
  unfold adding
  split
  · rfl
  · rfl

variable {s : Settings}

theorem adding_of_not_keeps (forgets : ¬ s.Keeps) (more : List Value) : s.adding more = s := by
  unfold adding
  split
  · rename_i set _
    exact absurd ⟨_, _, set⟩ forgets
  · rfl

theorem exists_adding {first : Value} {rest : List Value} (set : s.option "exclude_dirs" = .ok (.list (first :: rest))) :
    ∃ es, s = ⟨.dict es⟩ ∧ ∀ more, more ≠ [] → s.adding more =
      ⟨.dict (Value.put (.str "exclude_dirs") (.list (first :: (rest ++ more))) es)⟩ := by
  obtain ⟨es, content, -⟩ := exists_dict_of_option Targets.splitString_exclude set rfl
  obtain ⟨own⟩ := s
  obtain rfl : own = .dict es := content
  refine ⟨es, rfl, fun more some_ => ?_⟩
  have full : more.isEmpty = false := by simpa using some_
  simp only [adding, set, full]
  rfl

theorem option_adding {first : Value} {rest : List Value}
    (set : s.option "exclude_dirs" = .ok (.list (first :: rest))) (more : List Value) :
    (s.adding more).option "exclude_dirs" = .ok (.list (first :: (rest ++ more))) := by
  by_cases none : more = []
  · rw [none, adding_nil, append_nil, set]
  · obtain ⟨_, -, added⟩ := exists_adding set
    rw [added more none, option_dict Targets.splitString_exclude, Value.lookup_put_self]
    rfl

theorem option_adding_of_ne {name : String} (plain : splitString '.' name = [name]) (other : "exclude_dirs" ≠ name)
    (s : Settings) (more : List Value) : (s.adding more).option name = s.option name := by
  by_cases keeps : s.Keeps
  · obtain ⟨_, _, set⟩ := keeps
    by_cases none : more = []
    · rw [none, adding_nil]
    · obtain ⟨_, content, added⟩ := exists_adding set
      rw [added more none, option_dict plain, Value.lookup_put_of_ne other, content, option_dict plain]
  · rw [adding_of_not_keeps keeps]

theorem adding_adding (s : Settings) (earlier later : List Value) :
    (s.adding earlier).adding later = s.adding (earlier ++ later) := by
  by_cases keeps : s.Keeps
  · obtain ⟨first, rest, set⟩ := keeps
    by_cases none : earlier = []
    · rw [none, adding_nil, nil_append]
    · by_cases last : later = []
      · rw [last, adding_nil, append_nil]
      · obtain ⟨es, -, added⟩ := exists_adding set
        obtain ⟨fs, content, again⟩ := exists_adding (option_adding set earlier)
        have put : fs = Value.put (.str "exclude_dirs") (.list (first :: (rest ++ earlier))) es := by
          rw [added earlier none] at content
          simpa using content.symm
        have both : earlier ++ later ≠ [] := by simp [none]
        rw [again later last, added _ both, put, Value.put_put, append_assoc]
  · have still : s.adding earlier = s := adding_of_not_keeps keeps earlier
    rw [still, adding_of_not_keeps keeps, adding_of_not_keeps keeps]

theorem adding_eq_self_iff {s : Settings} {more : List Value} : s.adding more = s ↔ (s.Keeps → more = []) := by
  constructor
  · intro same keeps
    obtain ⟨_, _, set⟩ := keeps
    have longer := option_adding set more
    rw [same, set] at longer
    simpa using longer
  · intro none
    by_cases keeps : s.Keeps
    · rw [none keeps, adding_nil]
    · exact adding_of_not_keeps keeps more

end Settings

namespace Targets

variable {t : FileTree} {excluded : String}

theorem settings_of_exclusions {s after : Settings} {entries : List Value}
    (done : exclusions t s excluded = .ok (entries, after)) : after = s.adding (given t excluded) := by
  rw [exclusions, given_eq, bind_eq_ok] at done
  obtain ⟨_, set, done⟩ := done
  have falsy {v : Value} (is : s.option "exclude_dirs" = .ok v) (none : v.truthy = false) : ¬ s.Keeps := by
    rintro ⟨first, rest, kept⟩
    rw [is] at kept
    rw [Except.ok.inj kept] at none
    cases none
  dsimp only at done
  split at done
  · rename_i none
    obtain ⟨-, rfl⟩ := Prod.mk.inj (pure_eq_ok.mp done)
    exact (Settings.adding_of_not_keeps (falsy set (by simpa using none)) _).symm
  · rename_i truthy
    split at done
    · rename_i none
      simp only [bind_eq_ok, pure_eq_ok, Prod.mk.injEq] at done
      obtain ⟨-, -, -, rfl⟩ := done
      rw [isEmpty_iff.mp none, Settings.adding_nil]
    · rename_i some_
      split at done
      · rename_i xs es content
        obtain ⟨-, rfl⟩ := Prod.mk.inj (pure_eq_ok.mp done)
        cases xs with
        | nil => simp [Value.truthy] at truthy
        | cons first rest =>
          obtain ⟨fs, same, added⟩ := Settings.exists_adding set
          have one : fs = es := by simpa [same] using content
          rw [added _ (by simpa using some_), one, cons_append]
      · cases done

theorem adding_of_exclusions_error {s : Settings} {fault : Fault}
    (failed : exclusions t s excluded = .error fault) : s.adding (given t excluded) = s := by
  rw [Settings.adding_eq_self_iff]
  rintro ⟨first, rest, set⟩
  obtain ⟨es, same, -⟩ := Settings.exists_adding set
  rw [exclusions, set, given_eq] at failed
  by_contra some_
  have full : (given t excluded).isEmpty = false := by simpa using some_
  have content : s.content = .dict es := by rw [same]
  simp only [full, content] at failed
  cases failed

theorem configured_adding {s : Settings} (keeps : s.Keeps) (more : List Value) (e : Value) :
    Configured (s.adding more) e ↔ Configured s e ∨ e ∈ more := by
  obtain ⟨_, _, set⟩ := keeps
  have mem {u : Settings} {entries : List Value} (is : u.option "exclude_dirs" = .ok (.list entries))
      (full : entries ≠ []) : Configured u e ↔ e ∈ entries := by
    constructor
    · rintro ⟨setting, items, known, -, held, present⟩
      rw [is] at known
      obtain rfl := Except.ok.inj known
      rwa [Except.ok.inj held]
    · intro present
      exact ⟨_, entries, is, by simpa [Value.truthy] using full, rfl, present⟩
  rw [mem (Settings.option_adding set more) (by simp), mem set (by simp), mem_cons, mem_append, mem_cons, or_assoc]

end Targets

theorem Settings.Legible.adding {s : Settings} (legible : s.Legible) {more : List Value}
    (texts : ∀ e ∈ more, ∃ text, e = .text text) : (s.adding more).Legible := by
  by_cases keeps : s.Keeps
  · obtain ⟨_, _, set⟩ := keeps
    refine ⟨⟨_, option_adding set more, .inr ⟨_, rfl, ?_⟩⟩, ?_⟩
    · obtain ⟨v, known, falsy | ⟨_, rfl, own⟩⟩ := legible.entries
      · rw [set] at known
        rw [← Except.ok.inj known] at falsy
        cases falsy
      · rw [set, Except.ok.injEq, Value.list.injEq] at known
        intro e present
        rw [← cons_append, known] at present
        rcases mem_append.mp present with there | new
        · exact own e there
        · exact texts e new
    · rw [option_adding_of_ne Targets.splitString_include (by decide)]
      exact legible.patterns
  · rw [adding_of_not_keeps keeps]
    exact legible

namespace Session

open Targets

theorem settings_searched (s : Session) (t : FileTree) (targets : List String) (recursive : Bool) (excluded : String) :
    (s.searched t targets recursive excluded).settings = s.settings.adding (given t excluded) := by
  unfold searched
  split
  · rename_i found log done
    simp only [discover, bind_eq_ok, pure_eq_ok, Prod.mk.injEq] at done
    obtain ⟨⟨_, settings⟩, mem, -, -, -, -, ⟨_, _⟩, -, rfl, -⟩ := done
    exact settings_of_exclusions mem
  · split
    · rename_i mem
      exact settings_of_exclusions mem
    · rename_i failed
      exact (adding_of_exclusions_error failed).symm

theorem scanNamed_keeps (t : FileTree) (input : Input) (s : Session) (name : String) :
    (scanNamed t input s name).1.settings = s.settings ∧ (scanNamed t input s name).1.baseline = s.baseline := by
  have scanned (d : Document) (u : Session) :
      (u.scanDocument d).1.settings = u.settings ∧ (u.scanDocument d).1.baseline = u.baseline := by
    unfold scanDocument
    rcases d.scan _ with ⟨_, _ | _⟩
    · exact ⟨rfl, rfl⟩
    · exact ⟨rfl, rfl⟩
  unfold scanNamed
  split
  · rw [(scanned _ _).1, (scanned _ _).2]
    split
    · exact ⟨rfl, rfl⟩
    · exact ⟨rfl, rfl⟩
  · exact ⟨rfl, rfl⟩

theorem runWith_keeps (t : FileTree) (input : Input) (s : Session) :
    (s.runWith t input).1.settings = s.settings ∧ (s.runWith t input).1.baseline = s.baseline := by
  have kept (names : List String) (u : Session) (log : Log) :
      let last := (names.foldl (fun before name => ((scanNamed t input before.1 name).1,
        before.2 ++ (scanNamed t input before.1 name).2)) (u, log)).1
      last.settings = u.settings ∧ last.baseline = u.baseline := by
    induction names generalizing u log with
    | nil => exact ⟨rfl, rfl⟩
    | cons name rest ih =>
      have later := ih (scanNamed t input u name).1 (log ++ (scanNamed t input u name).2)
      have step := scanNamed_keeps t input u name
      exact ⟨later.1.trans step.1, later.2.trans step.2⟩
  exact kept s.targets.files s []

def Step.excludes : Step → String
  | .discover _ _ _ excluded => excluded
  | .run .. => ""

def Step.entries : Step → List Value
  | .discover t _ _ excluded => given t excluded
  | .run .. => []

theorem Step.entries_eq_nil_iff (step : Step) : step.entries = [] ↔ step.excludes = "" := by
  cases step with
  | run t input => simp [Step.entries, Step.excludes]
  | discover t targets recursive excluded =>
    rw [Step.entries, Step.excludes, given, map_eq_nil_iff]
    constructor
    · intro none
      by_contra some_
      exact components_ne_nil some_ none
    · rintro rfl
      exact components_empty

theorem settings_after (s : Session) (step : Step) : (s.after step).settings = s.settings.adding step.entries := by
  cases step with
  | run t input => rw [after, (runWith_keeps t input _).1, Step.entries, Settings.adding_nil]
  | discover t targets recursive excluded => exact settings_searched s t targets recursive excluded

theorem settings_life (s : Session) (steps : List Step) :
    (s.life steps).settings = s.settings.adding (steps.flatMap Step.entries) := by
  induction steps generalizing s with
  | nil => exact (Settings.adding_nil _).symm
  | cons step rest ih =>
    calc
      (s.life (step :: rest)).settings = ((s.after step).life rest).settings := rfl
      _ = (s.after step).settings.adding (rest.flatMap Step.entries) := ih (s.after step)
      _ = (s.settings.adding step.entries).adding (rest.flatMap Step.entries) := by rw [settings_after]
      _ = s.settings.adding ((step :: rest).flatMap Step.entries) := by
        rw [Settings.adding_adding, flatMap_cons]

/-- What a search brings: the lists of files, and messages. -/
def finds (t : FileTree) (targets : List String) (recursive : Bool) (excluded : String) (s : Session) :
    Answer (Targets × Log) :=
  (fun found => (found.1.targets, found.2)) <$> s.discover t targets recursive excluded

theorem finds_of_settings {s other : Session} (same : other.settings = s.settings) (t : FileTree)
    (targets : List String) (recursive : Bool) (excluded : String) :
    other.finds t targets recursive excluded = s.finds t targets recursive excluded := by
  unfold finds discover
  rw [same]
  cases exclusions t s.settings excluded with
  | error fault => rfl
  | ok made =>
    cases s.settings.option "include" with
    | error fault => rfl
    | ok setting =>
      change (_ <$> (patterns setting standardPatterns >>= _)) = (_ <$> (patterns setting standardPatterns >>= _))
      cases patterns setting standardPatterns with
      | error fault => rfl
      | ok include_ =>
        change (_ <$> (Targets.discover t include_ made.1 recursive targets >>= _)) =
          (_ <$> (Targets.discover t include_ made.1 recursive targets >>= _))
        cases Targets.discover t include_ made.1 recursive targets with
        | error fault => rfl
        | ok found => rfl

theorem bars_life {s : Session} (keeps : s.settings.Keeps) (steps : List Step) (t : FileTree) (excluded path : String) :
    (s.life steps).Bars t excluded path ↔
      s.Bars t excluded path ∨ ∃ e ∈ steps.flatMap Step.entries, Matches path e := by
  simp only [Bars, inForce_iff_configured_or, settings_life, configured_adding keeps]
  constructor
  · rintro ⟨e, (configured | earlier) | now, hit⟩
    · exact .inl ⟨e, .inl configured, hit⟩
    · exact .inr ⟨e, earlier, hit⟩
    · exact .inl ⟨e, .inr now, hit⟩
  · rintro (⟨e, configured | now, hit⟩ | ⟨e, earlier, hit⟩)
    · exact ⟨e, .inl (.inl configured), hit⟩
    · exact ⟨e, .inr now, hit⟩
    · exact ⟨e, .inl (.inr earlier), hit⟩

theorem legible_life {s : Session} (legible : s.settings.Legible) (steps : List Step) :
    (s.life steps).settings.Legible := by
  rw [settings_life]
  apply legible.adding
  intro e added
  obtain ⟨step, -, brought⟩ := mem_flatMap.mp added
  cases step with
  | run t input => cases brought
  | discover t targets recursive excluded => exact exists_text_of_mem_given brought

/-- With usable settings, a search after any steps ends. It brings what it would bring at first with the entries of
those steps in the settings: the same as at first if they keep no list or no step has excluded anything. The settings
are then as at first exactly if this search excludes nothing either. -/
theorem finds_forgets_iff (s : Session) (steps : List Step) (t : FileTree) (targets : List String)
    (recursive : Bool) (excluded : String) :
    (s.settings.Legible → Answered ((s.life steps).finds t targets recursive excluded)) ∧
    (s.life steps).finds t targets recursive excluded =
        ({ s with settings := s.settings.adding (steps.flatMap Step.entries) } : Session).finds t targets recursive
          excluded ∧
      ((s.settings.Keeps → ∀ step ∈ steps, step.excludes = "") →
        (s.life steps).finds t targets recursive excluded = s.finds t targets recursive excluded) ∧
      ((s.life steps).finds t targets recursive excluded = s.finds t targets recursive excluded ∧
          (s.life (steps ++ [.discover t targets recursive excluded])).settings = s.settings ↔
        (s.settings.Keeps →
          ∀ step ∈ steps ++ [.discover t targets recursive excluded], step.excludes = "")) := by
  have unchanged (all : List Step) :
      (s.life all).settings = s.settings ↔ (s.settings.Keeps → ∀ step ∈ all, step.excludes = "") := by
    simp only [settings_life, Settings.adding_eq_self_iff, flatMap_eq_nil_iff, Step.entries_eq_nil_iff]
  have forgets (nothing : s.settings.Keeps → ∀ step ∈ steps, step.excludes = "") :
      (s.life steps).finds t targets recursive excluded = s.finds t targets recursive excluded :=
    finds_of_settings ((unchanged steps).mpr nothing) t targets recursive excluded
  refine ⟨fun legible => ?_, finds_of_settings (settings_life s steps) t targets recursive excluded, forgets, ?_⟩
  · have ends := answered_discover_legible (legible_life legible steps) t targets recursive excluded
    exact ends.map fun _ _ => trivial
  · rw [unchanged]
    constructor
    · intro both
      exact both.2
    · intro nothing
      refine ⟨forgets fun keeps step taken => ?_, nothing⟩
      exact nothing keeps step (mem_append_left _ taken)

def listedSettings : Settings := ⟨.dict [(.str "exclude_dirs", .list [.str "b.py"])]⟩

theorem legible_listed : listedSettings.Legible := by
  have set : listedSettings.option "exclude_dirs" = .ok (.list [.str "b.py"]) := by cbv
  have unset : listedSettings.option "include" = .ok .null := by cbv
  exact ⟨⟨_, set, .inr ⟨_, rfl, by simp [Value.str]⟩⟩, ⟨_, unset, .inl rfl⟩⟩

theorem exists_created_listed : ∃ s, create listedSettings (.dict []) = .ok s ∧ s.settings = listedSettings := by
  have works : (create listedSettings (.dict [])).toOption.isSome := by decide +kernel
  cases created : create listedSettings (.dict []) with
  | error fault => simp [created, Except.toOption] at works
  | ok s => exact ⟨s, rfl, settings_of_create created⟩

/-- A file that was excluded once is left out by the next search too. -/
theorem excluded_once_excluded_again : ∃ s first second log later, create listedSettings (.dict []) = .ok s ∧
    s.discover nestedTree ["a.py"] false "" = .ok (first, log) ∧ "a.py" ∉ first.targets.excluded ∧
    (s.life [.discover nestedTree ["a.py"] false "a.py"]).discover nestedTree ["a.py"] false "" =
      .ok (second, later) ∧ "a.py" ∈ second.targets.excluded := by
  obtain ⟨s, created, same⟩ := exists_created_listed
  have legible : s.settings.Legible := same ▸ legible_listed
  have keeps : s.settings.Keeps := by
    rw [same]
    exact ⟨_, _, by cbv⟩
  obtain ⟨⟨first, log⟩, done, -⟩ := answered_discover_legible legible nestedTree ["a.py"] false ""
  obtain ⟨⟨second, later⟩, again, -⟩ := answered_discover_legible
    (legible_life legible [.discover nestedTree ["a.py"] false "a.py"]) nestedTree ["a.py"] false ""
  have free : ¬ s.Bars nestedTree "" "a.py" := by
    have listed : exclusions nestedTree s.settings "" = .ok ([.str "b.py"], s.settings) := by
      rw [same]
      cbv
    rw [← barred_iff_bars listed, Barred]
    decide +kernel
  have barred : (s.life [.discover nestedTree ["a.py"] false "a.py"]).Bars nestedTree "" "a.py" := by
    rw [bars_life keeps]
    exact .inr (by decide +kernel)
  refine ⟨s, first, second, log, later, created, done, ?_, again, ?_⟩
  · rw [(mem_targets_discover done _).2]
    rintro (⟨-, -, hit⟩ | ⟨inside, -⟩)
    · exact free hit
    · cases inside.1
  · rw [(mem_targets_discover again _).2]
    exact .inl ⟨mem_singleton_self _, by decide +kernel, barred⟩

end Session

end SourceAudit
