import SourceAudit.Proofs.Patches

/-! Options from a file against the same options on the command line. Both come to a patch over the command line, unless
the file has least ranks or an output. -/

namespace SourceAudit

open List EStateM

variable {t : Option String} {o : Options} {args : List String} {before c : Console} {entries : List (Text × Text)}

namespace CommandLine

open Options

variable {file : String → Option String}

/-! ### Merging -/

def solid (t : Option String) : Option String := t.filter fun t => !t.isEmpty

theorem truthy_optional (t : Option String) : (Options.optional t).truthy = (solid t).isSome := by
  cases t with
  | none => rfl
  | some t =>
    have empty : (Text.ofString t).isEmpty = t.isEmpty := by
      rw [Bool.eq_iff_iff, List.isEmpty_iff, String.isEmpty_iff]
      exact Text.ofString_inj (b := "")
    change (!(Text.ofString t).isEmpty) = _
    rw [empty]
    cases filled : t.isEmpty <;> simp [solid, filled]

theorem text_optional (t : Option String) : (Options.optional t).text?.map (·.toStringLossy) = t := by
  cases t with
  | none => rfl
  | some t => exact congrArg some (Text.toStringLossy_ofString t)

theorem optional_solid (counts : (solid t).isSome) : solid t = t := by
  cases t with
  | none => rfl
  | some t => exact Option.filter_eq_some_iff.mpr ⟨rfl, by simpa [solid] using counts⟩

theorem mergedText_unset (given fromFile : Option String) :
    mergedText none given fromFile = (solid given).or (solid fromFile) := by
  unfold mergedText
  change Option.map _ (if (Options.optional given).truthy then Options.optional given
    else if (Options.optional fromFile).truthy then Options.optional fromFile else .null).text? = _
  rw [truthy_optional, truthy_optional]
  split
  · rename_i counts
    rw [text_optional, optional_solid counts, Option.or_eq_left_of_isSome (optional_solid counts ▸ counts)]
  · rename_i empty
    rw [Option.not_isSome_iff_eq_none.mp empty, Option.none_or]
    split
    · rename_i counts
      rw [text_optional, optional_solid counts]
    · rename_i none
      rw [Option.not_isSome_iff_eq_none.mp none]
      rfl

theorem mergedText_set (default given : String) (fromFile : Option String) :
    mergedText (some default) (some given) fromFile =
      some (if default = given then (solid fromFile).getD given else given) := by
  unfold mergedText
  change Option.map _ (if (Text.ofString default == Text.ofString given) && (Options.optional fromFile).truthy
    then Options.optional fromFile else .str given).text? = _
  rw [truthy_optional]
  by_cases same : default = given
  · rw [if_pos same, same, beq_self_eq_true, Bool.true_and]
    split
    · rename_i counts
      rw [text_optional, optional_solid counts]
      rw [optional_solid counts] at counts
      obtain ⟨t, is⟩ := Option.isSome_iff_exists.mp counts
      rw [is]
      rfl
    · rename_i empty
      rw [Option.not_isSome_iff_eq_none.mp empty]
      exact text_optional (some given)
  · have other : (Text.ofString default == Text.ofString given) = false := by
      rw [beq_eq_false_iff_ne]
      intro alike
      exact same (Text.ofString_inj.mp alike)
    rw [other, Bool.false_and, if_neg Bool.false_ne_true, if_neg same]
    exact text_optional (some given)

def tidy (o : Options) : Options :=
  { o with skips := some (o.skips.getD ""), tests := some (o.tests.getD ""), profile := some (o.profile.getD "") }

theorem addIds_getD (key : String) (ids : Option String) (record : Value) :
    addIds key (some (ids.getD "")) record = addIds key ids record := by
  cases ids <;> rfl

theorem scanWith_tidy (o : Options) (debugMessages : Bool) :
    scanWith (tidy o) debugMessages = scanWith o debugMessages := by
  have profiles (s : Settings) : profileOf (tidy o) s = profileOf o s := by
    unfold profileOf
    simp only [tidy, addIds_getD, Option.getD_some]
  have opens : openSession (tidy o) debugMessages = openSession o debugMessages := by
    unfold openSession
    simp only [profiles]
    rfl
  unfold scanWith
  rw [opens]
  rfl

def targetsIn (file : String → Option String) : List String :=
  match file "targets" with
  | some t => if t.isEmpty then [] else splitString ',' t
  | none => []

def aimed (file : String → Option String) (o : Options) : Options :=
  { o with targets := if !o.targets.isEmpty then o.targets else targetsIn file }

/-- Keys for options that a section may have too, with which others are not compared. -/
def otherKeys : List String := ["configfile", "recursive", "aggregate", "verbose", "debug", "quiet", "ignore-nosec"]

/-- When a file means what the same options mean on a command line: no least ranks, no output, no empty texts, a known
format, a template only with its format, a number that is not zero; and no empty texts beside it on the command line. -/
structure Faithful (file : String → Option String) (o : Options) : Prop where
  level : (file "level").getD "" = ""
  confidence : (file "confidence").getD "" = ""
  output : file "output" = none
  exclude : file "exclude" ≠ some ""
  baseline : file "baseline" ≠ some ""
  template : ∀ t, file "msg-template" = some t → t ≠ "" ∧ (file "format").getD o.format = "custom"
  format : ∀ f, file "format" = some f → (Format.all.map Format.name).contains f = true
  number : ∀ t, file "number" = some t → ∃ n, Whole.read? t = some n ∧ n ≠ 0
  targets : asksDebug (targetsIn file) = false
  settingsGiven : o.settingsFile ≠ some ""
  templateGiven : o.template ≠ some ""
  baselineGiven : o.baseline ≠ some ""

theorem solid_of_ne (filled : t ≠ some "") : solid t = t := by
  cases t with
  | none => rfl
  | some t =>
    have ne : t.isEmpty = false := by
      rw [← Bool.not_eq_true, String.isEmpty_iff]
      rintro rfl
      exact filled rfl
    simp [solid, ne]

theorem getD_solid (t : Option String) : (solid t).getD "" = t.getD "" := by
  by_cases filled : t = some ""
  · rw [filled]
    rfl
  · rw [solid_of_ne filled]

theorem solid_eq_none (empty : t.getD "" = "") : solid t = none := by
  cases t with
  | none => rfl
  | some t =>
    cases empty
    rfl

theorem merged_rank (empty : t.getD "" = "") (rank : Value) : merged (.int 1) rank (Options.optional t) = rank := by
  have none : (Options.optional t).truthy = false := by rw [truthy_optional, solid_eq_none empty]; rfl
  change (if (Value.equals (.int 1) rank && (Options.optional t).truthy) = true then _ else rank) = rank
  rw [none, Bool.and_false, if_neg Bool.false_ne_true]

theorem numberIn_eq (sound : ∀ t, file "number" = some t → ∃ n, Whole.read? t = some n ∧ n ≠ 0) :
    numberIn (file "number") = .ok (((file "number").bind fun t => Whole.read? t).elim .null .int) := by
  cases given : file "number" with
  | none => rfl
  | some t =>
    obtain ⟨n, read, nonzero⟩ := sound t given
    have filled : t.isEmpty = false := by
      rw [← Bool.not_eq_true, String.isEmpty_iff]
      rintro rfl
      cases read
    have other : (n == 0) = false := by simpa using nonzero
    simp [numberIn, filled, read, other]

theorem mergedFlag_unset (given : Bool) : mergedFlag given none = given := by cases given <;> rfl

theorem eq_of_kept {α β : Type} {given : Option α} {default value : β}
    (kept : (given.map fun _ => default).getD value = value) (set : given ≠ none) : value = default := by
  cases given with
  | none => exact absurd rfl set
  | some _ => exact kept.symm

section

variable {given fromFile : Option String}

section

variable (kept : (fromFile.map fun _ => (none : Option String)).getD given = given)

include kept

theorem solid_or_solid (filled : given ≠ some "") (counts : fromFile ≠ some "") :
    (solid given).or (solid fromFile) = (fromFile.map some).getD given := by
  rw [solid_of_ne filled, solid_of_ne counts]
  cases fromFile with
  | none => exact Option.or_none
  | some t => rw [eq_of_kept kept nofun]; rfl

theorem getD_solid_or_solid : ((solid given).or (solid fromFile)).getD "" = ((fromFile.map some).getD given).getD "" := by
  cases fromFile with
  | none => exact (congrArg (Option.getD · "") Option.or_none).trans (getD_solid given)
  | some t =>
    rw [eq_of_kept kept nofun]
    exact getD_solid (some t)

end

theorem getD_of_kept {default value : String} (kept : (fromFile.map fun _ => default).getD value = value)
    (counts : fromFile ≠ some "") :
    (if default = value then (solid fromFile).getD value else value) = fromFile.getD value := by
  rw [solid_of_ne counts]
  cases fromFile with
  | none => exact ite_self value
  | some t => exact if_pos (eq_of_kept kept nofun).symm

end

theorem merged_number {lines : Int} {number : Option Int} (nonzero : number ≠ some 0)
    (kept : (number.map fun _ => (3 : Int)).getD lines = lines) :
    (match merged (.int 3) (.int lines) (number.elim .null .int) with
      | .int n => n
      | _ => lines) = number.getD lines := by
  cases number with
  | none =>
    unfold merged
    simp [Value.truthy]
  | some n =>
    have other : n ≠ 0 := fun zero => nonzero (congrArg some zero)
    rw [eq_of_kept kept (Option.some_ne_none n)]
    simp [merged, Value.truthy, other, Value.equals, Value.number?, Value.Number.equals]

theorem mergeWith_faithful (faithful : Faithful file o) (only : ∀ key ∈ otherKeys, file key = none)
    (unset : (blank file).lay o = o) :
    ∃ merged, o.mergeWith file = .ok merged ∧ tidy merged = tidy ((filePatch file).lay (aimed file o)) := by
  have solidTemplate : file "msg-template" ≠ some "" := fun given => (faithful.template "" given).1 rfl
  have knownFormat : file "format" ≠ some "" := fun given => absurd (faithful.format "" given) (by decide)
  have nonzero : ((file "number").bind fun t => Whole.read? t) ≠ some 0 := by
    intro zero
    obtain ⟨t, given, read⟩ := Option.bind_eq_some_iff.mp zero
    obtain ⟨n, again, other⟩ := faithful.number t given
    rw [read] at again
    cases again
    exact other rfl
  have lines : (((file "number").bind fun t => Whole.read? t).map fun _ => (3 : Int)).getD o.lines = o.lines := by
    cases given : file "number" with
    | none => rfl
    | some t =>
      obtain ⟨n, read, -⟩ := faithful.number t given
      have kept := congrArg Options.lines unset
      simp only [Patch.lay, blank, given] at kept
      rw [Option.bind_some, read]
      exact kept
  unfold mergeWith
  rw [numberIn_eq faithful.number]
  refine ⟨_, rfl, ?_⟩
  simp only [otherKeys, forall_mem_cons] at only
  obtain ⟨configfile, recursive, aggregate, verbose, debug, quiet, ignoring, -⟩ := only
  simp only [tidy, Patch.lay, filePatch, aimed, Options.mk.injEq, mergedText_unset, mergedText_set, mergedFlag_unset,
    configfile, recursive, aggregate, verbose, debug, quiet, ignoring, merged_rank faithful.level,
    merged_rank faithful.confidence, faithful.output, Option.getD_some, true_and, and_true,
    getD_solid_or_solid (congrArg Options.profile unset), getD_solid_or_solid (congrArg Options.tests unset),
    getD_solid_or_solid (congrArg Options.skips unset), getD_of_kept (congrArg Options.format unset) knownFormat,
    solid_or_solid (congrArg Options.template unset) faithful.templateGiven solidTemplate,
    getD_of_kept (congrArg Options.excluded unset) faithful.exclude,
    solid_or_solid (congrArg Options.baseline unset) faithful.baselineGiven faithful.baseline]
  have output : (if (o.output == .standard && (Options.optional none).truthy) = true then Output.unusable
      else o.output) = o.output := by
    change (if (o.output == .standard && false) = true then _ else _) = _
    rw [Bool.and_false, if_neg Bool.false_ne_true]
  have settings : (solid o.settingsFile).or (solid none) = o.settingsFile := by
    rw [solid_of_ne faithful.settingsGiven]
    exact Option.or_none
  exact ⟨rfl, ite_self _, merged_number nonzero lines, settings, rfl, rfl, output⟩

/-! ### The file against the command line -/

def inSection (entries : List (Text × Text)) (name : String) : Option String :=
  (entries.lookup (Text.ofString name)).map Text.toStringLossy

def repeated (flag : String) (place : Option String) : List String :=
  List.replicate ((place.bind fun t => Whole.read? t).elim 0 fun n => (n - 1).toNat) flag

def onCommandLine (file : String → Option String) (args : List String) : List String :=
  (uses file).map Use.spelled ++ (repeated "-l" (file "level") ++ repeated "-i" (file "confidence") ++ args ++
    if (targetsIn file).isEmpty then [] else "--" :: targetsIn file)

def scanGiven (args : List String) : Command Unit := do
  scanWith (← ofArguments args) (asksDebug args)

theorem repeated_empty (flag : String) {place : Option String} (empty : place.getD "" = "") :
    repeated flag place = [] := by
  cases place with
  | none => rfl
  | some t =>
    cases empty
    rfl

theorem equalsFree_all : Word.EqualsFree ScanFlag.all := by
  have checked : ∀ f ∈ ScanFlag.all, ∀ n ∈ f.names, n.toList.contains '=' = false := by decide +kernel
  intro f mem n named there
  have free := checked f mem n named
  rw [contains_iff_mem.mpr there] at free
  cases free

theorem run_map {α β : Type} (f : α → β) (command : Command α) (c : Console) : EStateM.run (f <$> command) c =
      match EStateM.run command c with
      | .ok a later => .ok (f a) later
      | .error e later => .error e later := by
  rw [map_eq_pure_bind, EStateM.run_bind]
  cases EStateM.run command c <;> rfl

/-- The command line with the options of a file asks for what the file says, then for what it asked for itself. -/
theorem exists_requests (whole : .refused ∉ requestsOf args) (apart : Apart file args)
    (level : repeated "-l" (file "level") = []) (confidence : repeated "-i" (file "confidence") = []) :
    ∃ requests, requestsOf (onCommandLine file args) = (uses file).map Use.request ++ requests ∧
      (∀ flag argument, .flag flag argument ∈ requests → .flag flag argument ∈ requestsOf args) ∧
      ∀ o c later, run (carryOut {} [] (requestsOf args)) c = .ok o later →
        run (carryOut {} [] requests) c = .ok (aimed file o) later := by
  have read (args : List String) (whole : .refused ∉ requestsOf args) :
      ∃ words, Word.ofStrings? ScanFlag.all args = some words := by
    cases read : Word.ofStrings? ScanFlag.all args with
    | none => simp [requestsOf, Request.ofStrings, read] at whole
    | some words => exact ⟨words, rfl⟩
  unfold onCommandLine
  rw [level, confidence, nil_append, nil_append]
  by_cases none : (targetsIn file).isEmpty = true
  · obtain ⟨words, read⟩ := read args whole
    rw [if_pos none, append_nil]
    refine ⟨requestsOf args, Request.ofStrings_spelled equalsFree_all spellable_uses read .any true,
      fun flag argument asked => asked, ?_⟩
    intro o c later done
    have same : (if !o.targets.isEmpty then o.targets else []) = o.targets := by cases o.targets <;> rfl
    rw [aimed, List.isEmpty_iff.mp none, same, done]
  · have set : file "targets" ≠ Option.none := by
      intro unset
      simp [targetsIn, unset] at none
    obtain ⟨undivided, untargeted⟩ := apart.targets set
    obtain ⟨front, here, there, flags⟩ := Request.ofStrings_divided undivided whole untargeted (targetsIn file)
    obtain ⟨words, read⟩ := read args whole
    obtain ⟨longer, -⟩ := Word.ofStrings?_divided undivided read (targetsIn file)
    rw [if_neg none]
    refine ⟨front ++ [.targets (targetsIn file)],
      (Request.ofStrings_spelled equalsFree_all spellable_uses longer .any true).trans (by rw [there]), ?_, ?_⟩
    · intro flag argument asked
      rw [requestsOf, here]
      simpa using asked
    · intro o c later done
      rw [requestsOf, here, carryOut_targets flags, run_map] at done
      rw [carryOut_targets flags, run_map]
      cases ran : run (carryOut {} [] front) c with
      | error e last =>
        rw [ran] at done
        cases done
      | ok first last =>
        rw [ran] at done
        cases done
        rfl

theorem asksDebug_onCommandLine (args : List String) (level : repeated "-l" (file "level") = [])
    (confidence : repeated "-i" (file "confidence") = []) (silent : asksDebug (targetsIn file) = false) :
    asksDebug (onCommandLine file args) = asksDebug args := by
  have absent (flag : String) (plain : '=' ∉ flag.toList) : flag ∉ (uses file).map Use.spelled := by
    intro mem
    obtain ⟨u, -, rfl⟩ := mem_map.mp mem
    apply plain
    rw [Word.toList_spelled]
    simp
  have front (flag : String) (plain : '=' ∉ flag.toList) (other : flag ≠ "--") :
      (onCommandLine file args).contains flag = (args.contains flag || (targetsIn file).contains flag) := by
    rw [Bool.eq_iff_iff]
    simp only [onCommandLine, level, confidence, nil_append, Bool.or_eq_true, contains_iff_mem,
      mem_append, absent flag plain, false_or]
    split
    · rename_i none
      rw [List.isEmpty_iff.mp none]
    · simp [other]
  simp only [asksDebug, Bool.or_eq_false_iff] at silent
  rw [asksDebug, front "-d" (by decide) (by decide), front "--debug" (by decide) (by decide), silent.1, silent.2,
    Bool.or_false, Bool.or_false, asksDebug]

theorem run_ofArguments (done : run (carryOut {} [] (requestsOf args)) before = .ok o c) : run (ofArguments args) before =
      if o.format != "custom" && o.template.isSome then .error (.exit 2) c else .ok o c := by
  rw [requestsOf] at done
  rw [ofArguments, run_bind, done]
  dsimp only
  split <;> rfl

theorem carryOut_of_accepted (accepted : run (ofArguments args) before = .ok o c) :
    run (carryOut {} [] (requestsOf args)) before = .ok o c ∧ (o.format != "custom" && o.template.isSome) = false := by
  cases done : run (carryOut {} [] (requestsOf args)) before with
  | error e last =>
    rw [requestsOf] at done
    rw [ofArguments, run_bind, done] at accepted
    cases accepted
  | ok taken last =>
    rw [run_ofArguments done] at accepted
    split at accepted
    · cases accepted
    · rename_i allowed
      cases accepted
      exact ⟨rfl, Bool.not_eq_true _ ▸ allowed⟩

theorem lay_blank_of_carryOut (apart : Apart file args)
    (done : run (carryOut {} [] (requestsOf args)) before = .ok o c) : (blank file).lay o = o := by
  have laid : carryOut ((blank file).lay {}) [] (requestsOf args) =
      (blank file).lay <$> carryOut {} [] (requestsOf args) :=
    Patch.carryOut_lay (fun flag argument asked => (apart.covers_filePatch asked).2) (fun _ => rfl)
  rw [lay_blank] at laid
  have again := congrArg (run · before) laid
  simp only [run_map, done] at again
  exact (EStateM.Result.ok.inj again).1.symm

theorem accepted_onCommandLine (accepted : run (ofArguments args) before = .ok o c) (apart : Apart file args)
    (faithful : Faithful file o) :
    run (ofArguments (onCommandLine file args)) before = .ok ((filePatch file).lay (aimed file o)) c := by
  obtain ⟨done, allowed⟩ := carryOut_of_accepted accepted
  have unset := lay_blank_of_carryOut apart done
  obtain ⟨requests, longer, among, runs⟩ := exists_requests (of_carryOut (n := 0) (m := 0) ⟨rfl, rfl⟩ done).1
    apart (repeated_empty "-l" faithful.level) (repeated_empty "-i" faithful.confidence)
  have readable : ∀ t, file "number" = some t → (Whole.read? t).isSome := by
    intro t given
    obtain ⟨n, read, -⟩ := faithful.number t given
    rw [read]
    rfl
  obtain ⟨seen, alike, taken⟩ := carryOut_uses faithful.output readable faithful.format requests
  have laid : carryOut ((filePatch file).lay {}) seen requests = (filePatch file).lay <$> carryOut {} [] requests :=
    Patch.carryOut_lay (fun flag argument asked => (apart.covers_filePatch (among flag argument asked)).1) alike
  have carried : run (carryOut {} [] (requestsOf (onCommandLine file args))) before =
      .ok ((filePatch file).lay (aimed file o)) c := by
    rw [longer, taken, laid, run_map, runs o before c done]
  rw [run_ofArguments carried, if_neg]
  change ¬ (((file "format").getD o.format != "custom" && (((file "msg-template").map some).getD o.template).isSome) =
    true)
  cases template : file "msg-template" with
  | some t =>
    rw [(faithful.template t template).2]
    exact Bool.false_ne_true
  | none =>
    cases format : file "format" with
    | none => exact Bool.not_eq_true _ ▸ allowed
    | some f =>
      -- The command line gives no format, so it gives no template either.
      have standard : o.format = "txt" := eq_of_kept (congrArg Options.format unset) (by rw [format]; nofun)
      rw [standard] at allowed
      have untold : o.template.isSome = false := allowed
      simp [untold]

theorem run_scan_of_read {path : String} (accepted : run (ofArguments args) before = .ok o c)
    (found : run o.source c = .ok (some path) c)
    (read : fileOptions path (c.files.read path).toOption = .ok (some entries, [])) (set : entries ≠ [])
    {merged : Options} (merges : o.mergeWith (inSection entries) = .ok merged) :
    run (scan args) before = run (scanWith merged (asksDebug args)) c := by
  have kept : run o.withFile c = .ok merged c := by
    have content : run (Command.read path) c = .ok (c.files.read path) c := rfl
    have silent : { c with log := c.log ++ [] } = c := by rw [append_nil]
    rw [withFile, run_bind, found]
    dsimp only
    rw [run_bind, content]
    dsimp only
    rw [read, Command.ofAnswer_ok_bind, run_bind]
    cases entries with
    | nil => exact absurd rfl set
    | cons first rest =>
      change run (Command.ofAnswer (o.mergeWith (inSection (first :: rest))))
        { c with log := c.log ++ [] } = _
      rw [silent, merges]
      rfl
  rw [scan, run_bind, accepted]
  dsimp only
  rw [run_bind, kept]

theorem deliver_unusable (unusable : o.output = .unusable) (r : Report) (c : Console) :
    ∃ e last, run (deliver o r) c = .error e last ∧ e ≠ .exit 0 ∧ e ≠ .exit 1 := by
  unfold deliver
  dsimp only
  generalize r.write (Report.formatOf o.format) (o.template.map Text.ofString) = written
  obtain ⟨made, _⟩ := written
  rw [unusable]
  cases made with
  | ok text => exact ⟨_, _, rfl, nofun, nofun⟩
  | error e =>
    cases e with
    | refused => exact ⟨_, _, rfl, nofun, nofun⟩
    | failed format => exact ⟨_, _, rfl, nofun, nofun⟩

def Finished (e : Ending) : Prop := e = .exit 0 ∨ e = .exit 1

theorem not_finished_conclude (spoilt : (∀ rank, rankAt o.severity ≠ .ok rank) ∨
    (∀ rank, rankAt o.confidence ≠ .ok rank) ∨ o.output = .unusable) (s : Session) (c : Console) :
    ¬ Finished (Command.run (conclude o s) c).1 := by
  have ends : ∃ e last, EStateM.run (conclude o s) c = .error e last ∧ e ≠ .exit 0 ∧ e ≠ .exit 1 := by
    unfold conclude
    rw [EStateM.run_bind, EStateM.run_get]
    dsimp only
    generalize s.run c.files c.input = ran
    obtain ⟨after, log⟩ := ran
    cases severity : rankAt o.severity with
    | error f => exact ⟨_, _, rfl, nofun, nofun⟩
    | ok high =>
      cases confidence : rankAt o.confidence with
      | error f => exact ⟨_, _, rfl, nofun, nofun⟩
      | ok sure =>
        have unusable : o.output = .unusable := by
          rcases spoilt with none | none | unusable
          · exact absurd severity (none high)
          · exact absurd confidence (none sure)
          · exact unusable
        obtain ⟨e, last, ends, other⟩ :=
          deliver_unusable unusable (reportOn o c after high sure) { c with log := c.log ++ log }
        refine ⟨e, last, ?_, other⟩
        change EStateM.run (do
          deliver o (reportOn o c after high sure)
          let found ← Command.ofAnswer (after.findings high sure)
          Command.stop (if found.count != 0 && !o.exitZero then 1 else 0)) { c with log := c.log ++ log } = _
        rw [EStateM.run_bind, ends]
  obtain ⟨e, last, ends, clean, found⟩ := ends
  rw [Command.run, ends]
  exact (Or.elim · clean found)

theorem not_finished_perform (spoilt : (∀ rank, rankAt o.severity ≠ .ok rank) ∨
    (∀ rank, rankAt o.confidence ≠ .ok rank) ∨ o.output = .unusable) (s : Session) (c : Console) :
    ¬ Finished (Command.run (perform o s) c).1 := by
  cases ended : s.endless c.files (.ok c.input) with
  | true => simp [Command.run, run_perform, ended, Finished]
  | false =>
    rw [Command.run, run_perform_of_ended ended]
    exact not_finished_conclude spoilt s c

theorem ranks_of_mergeWith {merged : Options} (merges : o.mergeWith file = .ok merged) :
    merged.severity = CommandLine.merged (.int 1) o.severity (Options.optional (file "level")) ∧
      merged.confidence = CommandLine.merged (.int 1) o.confidence (Options.optional (file "confidence")) ∧
      merged.output = if o.output == .standard && (Options.optional (file "output")).truthy then .unusable
        else o.output := by
  unfold mergeWith at merges
  cases number : numberIn (file "number") with
  | error f =>
    rw [number] at merges
    cases merges
  | ok v =>
    rw [number] at merges
    cases merges
    exact ⟨rfl, rfl, rfl⟩

theorem truthy_of_filled (filled : t.getD "" ≠ "") : (Options.optional t).truthy = true := by
  have other : t ≠ some "" := by
    rintro rfl
    exact filled rfl
  rw [truthy_optional, solid_of_ne other]
  cases t with
  | none => exact absurd rfl filled
  | some t => rfl

theorem rankAt_merged (filled : t.getD "" ≠ "") {rank : Value} (kept : (t.map fun _ => Value.int 1).getD rank = rank)
    (name : String) : rankAt (merged (.int 1) rank (Options.optional t)) ≠ .ok name := by
  cases t with
  | none => exact absurd rfl filled
  | some t =>
    rw [eq_of_kept kept nofun]
    change rankAt (if (Value.equals (.int 1) (.int 1) && (Options.optional (some t)).truthy) = true then _ else _) ≠ _
    rw [truthy_of_filled filled, if_pos (by rfl)]
    nofun

/-- Faithful options in a file mean what they mean on the command line. With least ranks or an output in the file, no
scan that gets ready is finished. -/
theorem scan_file_eq_given {args : List String} {before c : Console} {o : Options} {path : String}
    {entries : List (Text × Text)} (accepted : EStateM.run (ofArguments args) before = .ok o c)
    (found : EStateM.run o.source c = .ok (some path) c)
    (read : fileOptions path (c.files.read path).toOption = .ok (some entries, [])) (set : entries ≠ [])
    (apart : Apart (inSection entries) args) (only : ∀ key ∈ otherKeys, inSection entries key = none) :
    (Faithful (inSection entries) o → Command.run (scan args) before =
      Command.run (scanGiven (onCommandLine (inSection entries) args)) before) ∧
    ((∃ key ∈ ["level", "confidence", "output"], (inSection entries key).getD "" ≠ "") →
      ∀ merged s later, o.mergeWith (inSection entries) = .ok merged → Readies args merged c s later →
        ¬ Finished (Command.run (scan args) before).1) := by
  have unset := lay_blank_of_carryOut apart (carryOut_of_accepted accepted).1
  constructor
  · intro faithful
    obtain ⟨merged, merges, same⟩ := mergeWith_faithful faithful only unset
    have given := accepted_onCommandLine accepted apart faithful
    have silent := asksDebug_onCommandLine args (repeated_empty "-l" faithful.level)
      (repeated_empty "-i" faithful.confidence) faithful.targets
    have ran : run (scanGiven (onCommandLine (inSection entries) args)) before =
        run (scanWith ((filePatch (inSection entries)).lay (aimed (inSection entries) o))
          (asksDebug args)) c := by
      rw [scanGiven, run_bind, given, silent]
    rw [Command.run, Command.run, run_scan_of_read accepted found read set merges, ran, ← scanWith_tidy merged, same,
      scanWith_tidy]
  · rintro ⟨key, listed, filled⟩ merged s later merges readied
    have ends : Command.run (scan args) before = Command.run (perform merged s) later := by
      rw [Command.run, run_scan_of_read accepted found read set merges, scanWith, ← bind_assoc, run_bind,
        readied, Command.run]
    rw [ends]
    apply not_finished_perform
    obtain ⟨severity, confidence, output⟩ := ranks_of_mergeWith merges
    simp only [mem_cons, not_mem_nil, or_false] at listed
    rcases listed with rfl | rfl | rfl
    · left
      rw [severity]
      exact rankAt_merged filled (congrArg Options.severity unset)
    · right; left
      rw [confidence]
      exact rankAt_merged filled (congrArg Options.confidence unset)
    · right; right
      have given : inSection entries "output" ≠ none := by
        intro none
        rw [none] at filled
        exact filled rfl
      have standard : o.output = .standard := eq_of_kept (congrArg Options.output unset) given
      rw [output, standard, truthy_of_filled filled]
      rfl

def optioned (options : String) : Console :=
  { idle with files := { files := [(["a.py"], []), (["o.ini"], Utf8.encode options.toList)], folders := [[]] } }

theorem fileOptions_optioned {options : String}
    (content : ((optioned options).files.read "o.ini").toOption = some (Utf8.encode options.toList))
    (decoded : Utf8.decode? (Utf8.encode options.toList) = some options.toList)
    (read : Ini.read? sectionName options.toList = some entries) :
    fileOptions "o.ini" ((optioned options).files.read "o.ini").toOption = .ok (some entries, []) := by
  rw [content, fileOptions, decoded]
  dsimp only
  rw [read]

def skipping : String := "[bandit]\nskips = B101\ntargets = a.py\n"

def skippingEntries : List (Text × Text) := [("skips", "B101"), ("targets", "a.py")]

theorem requestsOf_file : requestsOf ["--ini", "o.ini"] = [.flag .optionFile (some "o.ini"), .targets []] := by cbv

theorem apart_skipping : Apart (inSection skippingEntries) ["--ini", "o.ini"] := by
  constructor
  · intro flag argument asked key named
    rw [requestsOf_file] at asked
    simp only [mem_cons, Request.flag.injEq, not_mem_nil, or_false, reduceCtorEq] at asked
    rw [asked.1] at named
    cases named
  · intro set
    refine ⟨by decide, ?_⟩
    intro words asked
    rw [requestsOf_file] at asked
    simpa using asked

theorem faithful_skipping : Faithful (inSection skippingEntries) { optionFile := some "o.ini" } := by
  have unset : ∀ key ∈ ["msg-template", "format", "number"], inSection skippingEntries key = none := by decide
  have absent {key t : String} (mem : key ∈ ["msg-template", "format", "number"])
      (given : inSection skippingEntries key = some t) : False := by
    rw [unset key mem] at given
    cases given
  exact ⟨by decide, by decide, by decide, by decide, by decide, fun t given => (absent (by decide) given).elim,
    fun t given => (absent (by decide) given).elim, fun t given => (absent (by decide) given).elim, by decide,
    nofun, nofun, nofun⟩

theorem skips_in_file : Command.run (scan ["--ini", "o.ini"]) (optioned skipping) =
    Command.run (scanGiven ["--skip=B101", "--ini", "o.ini", "--", "a.py"]) (optioned skipping) := by
  have accepted : run (ofArguments ["--ini", "o.ini"]) (optioned skipping) =
      .ok { optionFile := some "o.ini" } (optioned skipping) := by cbv
  have found : run (Options.source { optionFile := some "o.ini" }) (optioned skipping) =
      .ok (some "o.ini") (optioned skipping) := by cbv
  have read : fileOptions "o.ini" ((optioned skipping).files.read "o.ini").toOption =
      .ok (some skippingEntries, []) :=
    fileOptions_optioned (by decide +kernel) (by decide +kernel) (by decide +kernel)
  have line : onCommandLine (inSection skippingEntries) ["--ini", "o.ini"] =
      ["--skip=B101", "--ini", "o.ini", "--", "a.py"] := by decide +kernel
  have same := (scan_file_eq_given accepted found read (cons_ne_nil _ _) apart_skipping (by decide)).1
    faithful_skipping
  rw [same]
  exact congrArg (fun args => Command.run (scanGiven args) (optioned skipping)) line

def levelled : String := "[bandit]\nlevel = 2\n"

def levelledEntries : List (Text × Text) := [("level", "2")]

theorem legible_levelled : (optioned levelled).files.Legible := by
  intro f mem
  simp only [optioned, mem_cons, not_mem_nil, or_false] at mem
  rcases mem with rfl | rfl
  · rfl
  · decide +kernel

theorem finished_conclude {severity confidence : Rank} (counts : o.Counts severity.index confidence.index)
    (format : Report.formatOf o.format = .xml) (output : o.output ≠ .unusable) {s : Session}
    (presentable : (s.run c.files c.input).1.Presentable c.input) : Finished (Command.run (conclude o s) c).1 := by
  have judged := presentable.findings_eq severity confidence
  obtain ⟨text, made⟩ : ∃ text, ((dueReport o c s severity confidence).write (Report.formatOf o.format)
      (o.template.map Text.ofString)).1 = .ok text := by
    rw [format, Report.write, Report.exists_deliver_iff fun t made => Report.proper_suite made]
    exact Report.exists_suite judged
  obtain ⟨_, delivered⟩ := deliver_made made output (scanned c s)
  rw [Command.run, conclude_ends counts judged, delivered]
  dsimp only
  split
  · exact .inr rfl
  · exact .inl rfl

/-- A least rank in a file breaks the scan off, unlike a repeated flag. -/
theorem level_in_file_breaks_off :
    ¬ Finished (Command.run (scan ["-f", "xml", "--ini", "o.ini", "a.py"]) (optioned levelled)).1 ∧
      Finished (Command.run (scanGiven (onCommandLine (inSection levelledEntries)
        ["-f", "xml", "--ini", "o.ini", "a.py"])) (optioned levelled)).1 := by
  have line : onCommandLine (inSection levelledEntries) ["-f", "xml", "--ini", "o.ini", "a.py"] =
      ["-l", "-f", "xml", "--ini", "o.ini", "a.py"] := by decide +kernel
  let plain : Options := { targets := ["a.py"], format := "xml", optionFile := some "o.ini" }
  have record (v : Value) : run (profileOf { plain with severity := v } .standard) (optioned levelled) =
      .ok (choice (.set []) (.set [])) (optioned levelled) := by cbv
  constructor
  · have accepted : run (ofArguments ["-f", "xml", "--ini", "o.ini", "a.py"]) (optioned levelled) =
        .ok plain (optioned levelled) := by cbv
    have found : run plain.source (optioned levelled) = .ok (some "o.ini") (optioned levelled) := by cbv
    have read : fileOptions "o.ini" ((optioned levelled).files.read "o.ini").toOption =
        .ok (some levelledEntries, []) :=
      fileOptions_optioned (by decide +kernel) (by decide +kernel) (by decide +kernel)
    have merges : plain.mergeWith (inSection levelledEntries) = .ok { plain with severity := .str "2" } := by
      have unset (key : String) (other : key ≠ "level") : inSection levelledEntries key = none := by
        have differs : (Text.ofString key == Text.ofString "level") = false := by
          rw [beq_eq_false_iff_ne]
          intro same
          exact other (Text.ofString_inj.mp same)
        simp [inSection, levelledEntries, differs]
      have level : inSection levelledEntries "level" = some "2" := by decide +kernel
      unfold mergeWith
      simp (disch := decide) only [level, unset, mergedText_unset, mergedText_set, mergedFlag_unset,
        show solid none = none from rfl, Option.getD_none, Option.getD_some, Option.or_none, ite_self]
      rfl
    have ran := run_scan_of_read accepted found read (cons_ne_nil _ _) merges
    obtain ⟨-, s, log, -, -, ready⟩ := exists_ready (o := { plain with severity := .str "2" }) rfl rfl rfl
      (record (.str "2")) ["-f", "xml", "--ini", "o.ini", "a.py"]
    rw [Command.run, ran, scanWith, ← bind_assoc, run_bind, ready]
    exact not_finished_perform (o := { plain with severity := .str "2" }) (.inl fun name ranked => by cases ranked) s _
  · have accepted : run (ofArguments ["-l", "-f", "xml", "--ini", "o.ini", "a.py"]) (optioned levelled) =
        .ok { plain with severity := .int 2 } (optioned levelled) := by cbv
    obtain ⟨_, _, log, -, discovered, ready⟩ := exists_ready (o := { plain with severity := .int 2 }) rfl rfl rfl
      (record (.int 2)) ["-l", "-f", "xml", "--ini", "o.ini", "a.py"]
    rw [line, scanGiven, Command.run, run_bind, accepted]
    dsimp only
    rw [scanWith, ← bind_assoc, run_bind]
    rcases session_ends (o := { plain with severity := .int 2 }) rfl legible_levelled
      (asksDebug ["-l", "-f", "xml", "--ini", "o.ini", "a.py"]) with
      ⟨last, refused⟩ | ⟨s, later, readied, -, presentable⟩
    · unfold Readies at ready
      rw [refused] at ready
      cases ready
    · rw [Readies, readied] at ready
      cases ready
      rw [readied]
      have counts : Options.Counts { plain with severity := .int 2 } Rank.low.index Rank.undefined.index := ⟨rfl, rfl⟩
      dsimp only
      rw [run_perform_of_ended (endless_beside (beside_of_discover (by cbv) discovered) _ _)]
      exact finished_conclude counts (by decide +kernel) (by rintro ⟨⟩) presentable

end CommandLine

end SourceAudit
