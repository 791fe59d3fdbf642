import SourceAudit.Proofs.Monotone
import SourceAudit.Settings.File

/-! Searches whose settings say nothing about files. A file of settings without patterns leaves one of two standard
ones. -/

namespace SourceAudit

open List

variable {name : String} {es : Fields} {content : Value}

variable {path : String} {last log : Log} {settings : Settings}

namespace Glob

theorem matchPieces_literals (cs text : List Char) : matchPieces (cs.map .literal) text = true ↔ text = cs := by
  induction cs generalizing text with
  | nil => simp [matchPieces]
  | cons c rest ih =>
    cases text with
    | nil => simp [matchPieces]
    | cons d others =>
      rw [map_cons, matchPieces, Bool.and_eq_true, beq_iff_eq, ih, List.cons.injEq]
      exact and_congr_left fun _ => eq_comm

theorem someEnd_iff {fits : List Char → Bool} (text : List Char) :
    someEnd fits text = true ↔ ∃ ending, ending <:+ text ∧ fits ending = true := by
  induction text with
  | nil => simp [someEnd]
  | cons c rest ih =>
    rw [someEnd, Bool.or_eq_true, ih]
    constructor
    · intro either
      rcases either with whole | ⟨ending, within, fit⟩
      · exact ⟨c :: rest, suffix_refl _, whole⟩
      · exact ⟨ending, within.trans (suffix_cons c rest), fit⟩
    · intro some_
      obtain ⟨ending, within, fit⟩ := some_
      rcases suffix_cons_iff.mp within with rfl | later
      · exact .inl fit
      · exact .inr ⟨ending, later, fit⟩

theorem matchPieces_star (cs text : List Char) : matchPieces (.star :: cs.map .literal) text = true ↔ cs <:+ text := by
  rw [matchPieces, someEnd_iff]
  constructor
  · intro some_
    obtain ⟨ending, within, fit⟩ := some_
    rwa [(matchPieces_literals cs ending).mp fit] at within
  · intro within
    exact ⟨cs, within, (matchPieces_literals cs cs).mpr rfl⟩

theorem endsWith_iff (text ending : String) : text.endsWith ending = true ↔ ending.toList <:+ text.toList := by
  rw [String.endsWith_eq_endsWith_toSlice, String.Slice.endsWith_string_iff]
  simp

theorem parse_plain {cs : List Char} (plain : ∀ c ∈ cs, c ∉ ['*', '?', '[']) {fuel : Nat}
    (enough : cs.length ≤ fuel) : parse fuel cs = cs.map .literal := by
  induction cs generalizing fuel with
  | nil => unfold parse; rfl
  | cons c rest ih =>
    obtain ⟨fuel, rfl⟩ : ∃ n, fuel = n + 1 := Nat.exists_eq_add_one.mpr (Nat.zero_lt_of_lt enough)
    have own := plain c mem_cons_self
    simp only [mem_cons, not_mem_nil, or_false, not_or] at own
    have later := ih (fun d mem => plain d (mem_cons_of_mem c mem)) (Nat.le_of_succ_le_succ enough)
    simp [parse, own, later]

theorem fits_star_append {ending : String} (plain : ∀ c ∈ ending.toList, c ∉ ['*', '?', '[']) (path : String) :
    fits ("*" ++ ending) path = true ↔ path.endsWith ending = true := by
  have pieces : parse ("*" ++ ending).length ("*" ++ ending).toList = .star :: ending.toList.map .literal := by
    have long : ("*" ++ ending).length = ending.toList.length + 1 := by
      rw [String.length_append, String.length_toList, Nat.add_comm]
      rfl
    rw [long, String.toList_append]
    change parse (ending.toList.length + 1) ('*' :: ending.toList) = _
    rw [parse, if_pos (by decide), parse_plain plain (Nat.le_refl _)]
  rw [fits, pieces, matchPieces_star, endsWith_iff]

theorem not_endsWith_py (window : path.endsWith ".pyw") : path.endsWith ".py" = false := by
  rw [Bool.eq_false_iff]
  intro script
  rw [endsWith_iff] at window script
  obtain ⟨_, first⟩ := window
  obtain ⟨_, second⟩ := script
  have last := congrArg List.getLast? (first.trans second.symm)
  simp at last

end Glob

namespace Loading

theorem pure_eq_ok {α : Type} {a b : α} : (pure a : Loading α).run log = .ok b last ↔ a = b ∧ log = last := by
  simp

end Loading

namespace Settings

def renewed : List String := ["blacklist_calls", "blacklist_imports", "profiles"]

theorem lookup_putSome {key : String} (other : key ≠ name) (v : Option Value) (es : Fields) :
    Value.lookup (.str name) (putSome key v es) = Value.lookup (.str name) es := by
  cases v with
  | none => rfl
  | some v => exact Value.lookup_put_of_ne other es v

theorem exists_modernized {v : Value} (done : (modernize (.dict es)).run log = .ok v last) : ∃ now, v = .dict now ∧
      ∀ name, name ∉ renewed → Value.lookup (.str name) now = Value.lookup (.str name) es := by
  have kept (calls imports : Option Value) {name : String} (other : name ∉ renewed) :
      Value.lookup (.str name) (putSome "blacklist_imports" imports (putSome "blacklist_calls" calls es)) =
        Value.lookup (.str name) es := by
    simp only [renewed, mem_cons, not_mem_nil, or_false, not_or] at other
    rw [lookup_putSome (Ne.symm other.2.1), lookup_putSome (Ne.symm other.1)]
  have put (records : Value) (now : Fields) {name : String} (other : name ∉ renewed) :
      Value.lookup (.str name) (Value.put (.str "profiles") records now) = Value.lookup (.str name) now := by
    simp only [renewed, mem_cons, not_mem_nil, or_false, not_or] at other
    exact Value.lookup_put_of_ne (Ne.symm other.2.2) now records
  unfold modernize at done
  obtain ⟨profiles, log, -, done⟩ := Answers.run_bind_eq_ok.mp done
  obtain ⟨⟨callBlock, calls⟩, log, -, done⟩ := Answers.run_bind_eq_ok.mp done
  obtain ⟨⟨importBlock, imports⟩, log, -, done⟩ := Answers.run_bind_eq_ok.mp done
  -- a message may come before the end, which is the same with and without it
  have ends {log : Log} {records : Value} (done : (if profiles.isEmpty then
      pure (.dict (putSome "blacklist_imports" importBlock (putSome "blacklist_calls" callBlock es)))
      else pure (.dict (Value.put (.str "profiles") records
        (putSome "blacklist_imports" importBlock (putSome "blacklist_calls" callBlock es)))) :
        Loading Value).run log = .ok v last) :
      ∃ now, v = .dict now ∧
        ∀ name, name ∉ renewed → Value.lookup (.str name) now = Value.lookup (.str name) es := by
    split at done
    · obtain ⟨rfl, -⟩ := Loading.pure_eq_ok.mp done
      exact ⟨_, rfl, fun name other => kept callBlock importBlock other⟩
    · obtain ⟨rfl, -⟩ := Loading.pure_eq_ok.mp done
      exact ⟨_, rfl, fun name other => (put _ _ other).trans (kept callBlock importBlock other)⟩
  dsimp only at done
  split at done
  · obtain ⟨-, log, -, done⟩ := Answers.run_bind_eq_ok.mp done
    exact ends done
  · exact ends done

/-- The content of a file of settings, before it is brought up to date. -/
def fileContent (path : String) (b : Bytes) : Loading Value :=
  if path.endsWith ".toml" then sharedContent path b else ownContent path b

theorem ofFile_eq (path : String) (b : Bytes) : ofFile path b = fileContent path b >>= ofContent path := by
  unfold ofFile fileContent
  split <;> rfl

theorem option_ofFile {b : Bytes} {later : Log}
    (read : (fileContent path b).run log = .ok content later) (loaded : (ofFile path b).run log = .ok settings last)
    (plain : splitString '.' name = [name]) (other : name ∉ renewed) :
    settings.option name = .ok ((content.get? name).getD .null) := by
  rw [ofFile_eq, Answers.run_bind_eq_ok] at loaded
  obtain ⟨again, between, reread, loaded⟩ := loaded
  obtain ⟨rfl, rfl⟩ : content = again ∧ later = between := by simpa using read.symm.trans reread
  obtain ⟨-, log, -, loaded⟩ := Answers.run_bind_eq_ok.mp loaded
  split at loaded
  · obtain ⟨v, log, renewing, loaded⟩ := Answers.run_bind_eq_ok.mp loaded
    obtain ⟨rfl, -⟩ := Loading.pure_eq_ok.mp loaded
    obtain ⟨_, rfl, same⟩ := exists_modernized renewing
    rw [option_dict plain, same name other, Value.get?]
  · cases loaded

end Settings

def Value.Unset (content : Value) (name : String) : Prop := ((content.get? name).getD .null).truthy = false

/-- The settings have neither patterns nor entries to exclude. -/
structure Settings.Silent (s : Settings) : Prop where
  patterns : ∃ v, s.option "include" = .ok v ∧ v.truthy = false
  entries : ∃ v, s.option "exclude_dirs" = .ok v ∧ v.truthy = false

theorem Settings.Silent.legible {s : Settings} (silent : s.Silent) : s.Legible := by
  obtain ⟨⟨v, set, none⟩, w, mem, empty⟩ := silent
  exact ⟨⟨w, mem, .inl empty⟩, ⟨v, set, .inl none⟩⟩

theorem Settings.silent_ofFile {b : Bytes} {later : Log}
    (read : (fileContent path b).run log = .ok content later) (loaded : (ofFile path b).run log = .ok settings last)
    (unset : content.Unset "include" ∧ content.Unset "exclude_dirs") : settings.Silent :=
  ⟨⟨_, option_ofFile read loaded Targets.splitString_include (by decide), unset.1⟩,
    ⟨_, option_ofFile read loaded Targets.splitString_exclude (by decide), unset.2⟩⟩

theorem Targets.fits_ending (ending : String) (simple : ∀ c ∈ ending.toList, c ∉ ['*', '?', '[']) (path : String) :
    Fits path (.str ("*" ++ ending)) ↔ path.endsWith ending = true := by
  rw [← Glob.fits_star_append simple path]
  simp [Fits, Value.str, Text.toStringLossy_ofString]

theorem Targets.fits_script (path : String) : Fits path (.str "*.py") ↔ path.endsWith ".py" = true := by
  simpa using fits_ending ".py" (by simp) path

theorem Targets.fits_window (path : String) : Fits path (.str "*.pyw") ↔ path.endsWith ".pyw" = true := by
  simpa using fits_ending ".pyw" (by simp) path

namespace Session

open Targets

variable {t : FileTree} {s plain : Session} {excluded : String}

theorem includes_of_silent (silent : s.settings.Silent) (path : String) :
    s.Includes path ↔ path.endsWith ".py" = true := by
  obtain ⟨v, set, none⟩ := silent.patterns
  have read : patterns v standardPatterns = .ok [.str "*.py"] := by simp [patterns, none, standardPatterns]
  simp [Includes, set, read, fits_script]

theorem includes_standard (usual : plain.settings = .standard) (path : String) :
    plain.Includes path ↔ path.endsWith ".py" = true ∨ path.endsWith ".pyw" = true := by
  have read : patterns (.list [.str "*.py", .str "*.pyw"]) standardPatterns = .ok [.str "*.py", .str "*.pyw"] := rfl
  simp [Includes, usual, include_standard, read, fits_script, fits_window]

theorem bars_of_silent (silent : s.settings.Silent) (usual : plain.settings = .standard) (path : String) :
    s.Bars t excluded path ↔ plain.Bars t excluded path := by
  obtain ⟨v, mem, empty⟩ := silent.entries
  have unset : plain.settings.option "exclude_dirs" = .ok .null := usual ▸ exclude_standard
  rw [bars_of_unset mem empty, bars_of_unset unset rfl]

/-- Two sessions that bar the same files find the same exactly if they include the same of the unbarred files in
folders. -/
theorem targets_eq_iff_includes {targets : List String} {recursive : Bool} {found other : Session} {said heard : Log}
    (bars : ∀ f, s.Bars t excluded f ↔ plain.Bars t excluded f)
    (done : s.discover t targets recursive excluded = .ok (found, said))
    (again : plain.discover t targets recursive excluded = .ok (other, heard)) : found.targets = other.targets ↔
      ∀ f, Found t recursive targets f → ¬ plain.Bars t excluded f → (s.Includes f ↔ plain.Includes f) := by
  constructor
  · intro same f inside free
    have here : f ∈ found.targets.excluded ↔ ¬ s.Includes f := by
      simp [(mem_targets_discover done f).2, bars, free, inside]
    have there : f ∈ other.targets.excluded ↔ ¬ plain.Includes f := by
      simp [(mem_targets_discover again f).2, free, inside]
    exact not_iff_not.mp (here.symm.trans (same ▸ there))
  · intro agree
    have wanted (f : String) (inside : Found t recursive targets f) :
        s.Includes f ∧ ¬ plain.Bars t excluded f ↔ plain.Includes f ∧ ¬ plain.Bars t excluded f :=
      and_congr_left fun free => agree f inside free
    apply (increasing_targets done).eq_of_mem_iff (increasing_targets again)
    · intro f
      rw [(mem_targets_discover done f).1, (mem_targets_discover again f).1]
      simp only [bars]
      apply or_congr_right
      apply and_congr_right
      exact wanted f
    · intro f
      rw [(mem_targets_discover done f).2, (mem_targets_discover again f).2]
      simp only [bars]
      apply or_congr_right
      apply and_congr_right
      intro inside
      exact not_congr (wanted f inside)

/-- A session with a file of settings that says nothing of patterns or exclusions finds what one without finds exactly
if each file with the second ending in a target folder is barred. -/
theorem discover_silent_iff {path : String} {b : Bytes} {content : Value} {settings : Settings}
    {log later last : Log} (read : (Settings.fileContent path b).run log = .ok content later)
    (loaded : (Settings.ofFile path b).run log = .ok settings last)
    (unset : content.Unset "include" ∧ content.Unset "exclude_dirs") {s plain : Session}
    (own : s.settings = settings) (usual : plain.settings = .standard) (t : FileTree) (targets : List String)
    (recursive : Bool) (excluded : String) :
    ∃ found other said heard, s.discover t targets recursive excluded = .ok (found, said) ∧
      plain.discover t targets recursive excluded = .ok (other, heard) ∧
      (found.targets = other.targets ↔
        ∀ f, Found t recursive targets f → f.endsWith ".pyw" = true → plain.Bars t excluded f) := by
  have silent : s.settings.Silent := own ▸ Settings.silent_ofFile read loaded unset
  obtain ⟨⟨found, said⟩, done, -⟩ := answered_discover_legible silent.legible t targets recursive excluded
  obtain ⟨⟨other, heard⟩, again, -⟩ :=
    answered_discover_legible (usual ▸ legible_standard) t targets recursive excluded
  refine ⟨found, other, said, heard, done, again, ?_⟩
  rw [targets_eq_iff_includes (bars_of_silent silent usual) done again]
  constructor
  · intro agree f inside window
    by_contra free
    have fit : s.Includes f := (agree f inside free).mpr ((includes_standard usual f).mpr (.inr window))
    rw [includes_of_silent silent, Glob.not_endsWith_py window] at fit
    cases fit
  · intro barred f inside free
    rw [includes_of_silent silent, includes_standard usual]
    exact ⟨.inl, fun either => either.resolve_right fun window => free (barred f inside window)⟩

def sharedFile : Bytes := Utf8.encode "[tool.bandit]\nskips = ['B101']\n".toList

theorem exists_created_silent : ∃ content settings log last s,
    (Settings.fileContent "pyproject.toml" sharedFile).run [] = .ok content log ∧
    (Settings.ofFile "pyproject.toml" sharedFile).run [] = .ok settings last ∧
    (content.Unset "include" ∧ content.Unset "exclude_dirs") ∧
    create settings (.dict []) = .ok s ∧ s.settings = settings := by
  have set : ((Settings.fileContent "pyproject.toml" sharedFile).run' []).any (fun content =>
      !((content.get? "include").getD .null).truthy && !((content.get? "exclude_dirs").getD .null).truthy) = true := by
    decide +kernel
  have works : ((Settings.ofFile "pyproject.toml" sharedFile).run' []).any (fun settings =>
      (create settings (.dict [])).toOption.isSome) = true := by decide +kernel
  cases read : (Settings.fileContent "pyproject.toml" sharedFile).run [] with
  | error fault log => simp [EStateM.run', read] at set
  | ok content log =>
    cases loaded : (Settings.ofFile "pyproject.toml" sharedFile).run [] with
    | error fault log => simp [EStateM.run', loaded] at works
    | ok settings last =>
      have unset : content.Unset "include" ∧ content.Unset "exclude_dirs" := by
        simpa [EStateM.run', read, Value.Unset] using set
      cases created : create settings (.dict []) with
      | error fault => simp [EStateM.run', loaded, created, Except.toOption] at works
      | ok s => exact ⟨content, settings, log, last, s, rfl, rfl, unset, created, settings_of_create created⟩

theorem discover_silent_nestedTree : ∃ settings last s plain found other said heard,
    (Settings.ofFile "pyproject.toml" sharedFile).run [] = .ok settings last ∧
    create settings (.dict []) = .ok s ∧ create .standard (.dict []) = .ok plain ∧
    s.discover nestedTree ["."] true "" = .ok (found, said) ∧
    plain.discover nestedTree ["."] true "" = .ok (other, heard) ∧ found.targets = other.targets := by
  obtain ⟨_, settings, _, last, s, read, loaded, unset, created, own⟩ := exists_created_silent
  obtain ⟨plain, without, usual⟩ := exists_created_standard
  obtain ⟨found, other, said, heard, done, again, iff⟩ :=
    discover_silent_iff read loaded unset own usual nestedTree ["."] true ""
  have around : walked nestedTree "." = ["./a.py", "./d/b.py"] := by cbv
  refine ⟨settings, last, s, plain, found, other, said, heard, loaded, created, without, done, again, iff.mpr ?_⟩
  intro f inside window
  obtain ⟨-, _, asked, -, there⟩ := inside
  rw [mem_singleton.mp asked, around] at there
  have ends : ∀ f ∈ ["./a.py", "./d/b.py"], f.endsWith ".pyw" = false := by decide +kernel
  simp [ends f there] at window

def windowTree : FileTree := { files := [(["a.pyw"], [])], folders := [[]] }

/-- The same file of settings keeps a file from being scanned that is scanned without it. -/
theorem silent_file_lost : ∃ content settings log last s plain found other said heard,
    (Settings.fileContent "pyproject.toml" sharedFile).run [] = .ok content log ∧
    (content.Unset "include" ∧ content.Unset "exclude_dirs") ∧
    (Settings.ofFile "pyproject.toml" sharedFile).run [] = .ok settings last ∧
    create settings (.dict []) = .ok s ∧ create .standard (.dict []) = .ok plain ∧
    s.discover windowTree ["."] true "" = .ok (found, said) ∧ "./a.pyw" ∈ found.targets.excluded ∧
    plain.discover windowTree ["."] true "" = .ok (other, heard) ∧ "./a.pyw" ∈ other.targets.files := by
  obtain ⟨content, settings, log, last, s, read, loaded, unset, created, own⟩ := exists_created_silent
  obtain ⟨plain, without, usual⟩ := exists_created_standard
  have silent : s.settings.Silent := own ▸ Settings.silent_ofFile read loaded unset
  obtain ⟨⟨found, said⟩, done, -⟩ := answered_discover_legible silent.legible windowTree ["."] true ""
  obtain ⟨⟨other, heard⟩, again, -⟩ :=
    answered_discover_legible (usual ▸ legible_standard) windowTree ["."] true ""
  have around : walked windowTree "." = ["./a.pyw"] := by cbv
  have inside : Found windowTree true ["."] "./a.pyw" :=
    ⟨rfl, ".", mem_singleton_self _, by decide +kernel, by simp [around]⟩
  have unfit : ¬ s.Includes "./a.pyw" := by
    rw [includes_of_silent silent]
    decide +kernel
  have fit : plain.Includes "./a.pyw" := (includes_standard usual _).mpr (.inr (by decide +kernel))
  have free : ¬ plain.Bars windowTree "" "./a.pyw" := by
    have unset : plain.settings.option "exclude_dirs" = .ok .null := usual ▸ exclude_standard
    rw [bars_of_unset unset rfl, components_empty]
    simp
  refine ⟨content, settings, log, last, s, plain, found, other, said, heard, read, unset, loaded, created, without,
    done, ?_, again, ?_⟩
  · exact (mem_targets_discover done _).2.mpr (.inr ⟨inside, fun wanted => unfit wanted.1⟩)
  · exact (mem_targets_discover again _).1.mpr (.inr ⟨inside, fit, free⟩)

end Session

end SourceAudit
