import SourceAudit.CommandLine.Scan
import SourceAudit.Proofs.Loadable
import SourceAudit.Proofs.Selection

/-! Where tests are chosen, by lists of a settings file and by options of the command line, and which choices are
refused. -/

namespace SourceAudit

open Answers List

variable {now : Fields} {key : String} {record : Value} {o : Options} {skips tests : List Text}

/-! ### Sets of ids -/

namespace Value

theorem any_equals_text_iff {ids : List Text} {id : Text} :
    ((ids.map text).any fun v => v.equals (text id)) = true ↔ id ∈ ids := by
  simp [equals_text_iff]

theorem exists_foldl_distinct (ids acc : List Text) (nodup : acc.Nodup) :
    ∃ all : List Text, (ids.map text).foldl (fun acc v => if acc.any (·.equals v) then acc else acc ++ [v])
        (acc.map text) = all.map text ∧ all.Nodup := by
  -- what has been collected has no id twice, and stays so
  induction ids generalizing acc with
  | nil => exact ⟨acc, rfl, nodup⟩
  | cons id rest ih =>
    rw [map_cons, foldl_cons]
    by_cases present : id ∈ acc
    · rw [if_pos (any_equals_text_iff.mpr present)]
      exact ih acc nodup
    · have more : (acc ++ [id]).Nodup := by
        rw [nodup_append_comm]
        exact nodup_cons.mpr ⟨present, nodup⟩
      have later := ih (acc ++ [id]) more
      rw [map_append] at later
      rw [if_neg fun found => present (any_equals_text_iff.mp found)]
      exact later

def IsSetOf (ids : List Text) (v : Value) : Prop :=
  ∃ all : List Text, v = .set (all.map text) ∧ all.Nodup ∧ ∀ id, id ∈ all ↔ id ∈ ids

theorem isSetOf_setOf (ids : List Text) : IsSetOf ids (setOf (ids.map text)) := by
  have mem_texts (ids : List Text) (id : Text) : text id ∈ ids.map text ↔ id ∈ ids :=
    mem_map_of_injective fun _ _ => Value.text.inj
  obtain ⟨all, made, nodup⟩ := exists_foldl_distinct ids [] nodup_nil
  have made : distinct (ids.map text) = all.map text := made
  refine ⟨all, congrArg Value.set made, nodup, fun id => ?_⟩
  rw [← mem_texts, ← made, text_mem_distinct, mem_texts]

theorem allWithin_iff {as bs : List Value} : allWithin as bs = true ↔ ∀ a ∈ as, ∃ b ∈ bs, a.equals b = true := by
  induction as with
  | nil => simp [allWithin]
  | cons a rest ih => rw [allWithin, Bool.and_eq_true, ih, any_eq_true, forall_mem_cons]

theorem IsSetOf.equals {ids : List Text} {v w : Value} (one : IsSetOf ids v) (other : IsSetOf ids w) :
    v.equals w = true := by
  obtain ⟨as, rfl, distinct, members⟩ := one
  obtain ⟨bs, rfl, nodup, same⟩ := other
  have perm : as.Perm bs := (perm_ext_iff_of_nodup distinct nodup).mpr fun id => (members id).trans (same id).symm
  rw [Value.equals, Bool.and_eq_true, length_map, length_map, perm.length_eq, allWithin_iff]
  refine ⟨beq_self_eq_true _, fun a mem => ?_⟩
  obtain ⟨id, present, rfl⟩ := mem_map.mp mem
  exact ⟨text id, mem_map_of_mem (perm.subset present), equals_text_iff.mpr rfl⟩

end Value

/-! ### Files that differ in their lists of tests -/

namespace Settings

variable {es other : Fields}

def testLists : List String := ["tests", "skips"]

/-- Contents with the same blocks but for the lists of tests. -/
def Alike (es other : Fields) : Prop :=
  ∀ key, key ∉ testLists → Value.lookup (.str key) es = Value.lookup (.str key) other

section

variable (alike : Alike es other)

include alike

theorem needsData_alike {block : String} (kept : block ∉ testLists) (path test : String) (included excluded : Value) :
    needsData path (.dict es) included excluded test block =
      needsData path (.dict other) included excluded test block := by
  unfold needsData
  rw [Value.get?, Value.get?, alike block kept]

theorem validate_alike (path : String) : validate path (.dict es) = validate path (.dict other) := by
  have profiles := alike "profiles" (by decide)
  have held : (Value.dict es).holds (.str "profiles") = (Value.dict other).holds (.str "profiles") := by
    rw [holds_dict, holds_dict, profiles]
  have entered : (Value.dict es).entry "profiles" = (Value.dict other).entry "profiles" := by
    rw [Value.entry, Value.entry, profiles]
  have imports := needsData_alike alike (show "blacklist_imports" ∉ _ by decide)
  have calls := needsData_alike alike (show "blacklist_calls" ∉ _ by decide)
  unfold validate
  simp only [held, entered, imports, calls]

theorem olderParts_alike : olderParts (.dict es) = olderParts (.dict other) := by
  have profiles := alike "profiles" (by decide)
  have imports := alike "blacklist_imports" (by decide)
  have calls := alike "blacklist_calls" (by decide)
  unfold olderParts profilesById updateBlock
  simp only [follow_dict splitString_profiles, follow_dict splitString_calls, follow_dict splitString_imports, profiles,
    imports, calls]

/-- Such files are both refused, in the same way, or both loaded, and other blocks stay as they are. -/
theorem ofContent_alike (path : String) (log : Log) : (∃ e later, (ofContent path (.dict es)).run log = .error e later ∧
        (ofContent path (.dict other)).run log = .error e later) ∨
      ∃ now second later, (ofContent path (.dict es)).run log = .ok ⟨.dict now⟩ later ∧
        (ofContent path (.dict other)).run log = .ok ⟨.dict second⟩ later ∧
        ∀ name, name ∉ renewed → Value.lookup (.str name) now = Value.lookup (.str name) es ∧
          Value.lookup (.str name) second = Value.lookup (.str name) other := by
  rw [ofContent_dict, ofContent_dict, validate_alike alike, EStateM.run_bind, EStateM.run_bind]
  cases (validate path (.dict other)).run log with
  | error e later => exact .inl ⟨e, later, rfl, rfl⟩
  | ok _ between =>
    simp only
    rw [EStateM.run_bind, EStateM.run_bind]
    have same := olderParts_alike alike
    cases parts : olderParts (.dict other) with
    | error fault =>
      rw [modernize_of_fault (same.trans parts), modernize_of_fault parts]
      exact .inl ⟨_, _, rfl, rfl⟩
    | ok found =>
      obtain ⟨_, ⟨_, _⟩, _, _⟩ := found
      obtain ⟨now, done, -⟩ := modernize_of_olderParts (same.trans parts) between
      obtain ⟨second, again, -⟩ := modernize_of_olderParts parts between
      obtain ⟨_, is, kept⟩ := exists_modernized done
      obtain ⟨_, too, held⟩ := exists_modernized again
      cases is
      cases too
      rw [done, again]
      exact .inr ⟨now, second, _, rfl, rfl, fun name free => ⟨kept name free, held name free⟩⟩

end

end Settings

theorem Command.ofAnswer_ok_bind {α β : Type} (a : α) (f : α → Command β) : (ofAnswer (.ok a) >>= f) = f a := rfl

/-! ### The profile of a scan -/

namespace CommandLine

def idsIn (word : Option String) : List Text := (Targets.components (word.getD "")).map Text.ofString

def Lists (es : Fields) (key : String) (ids : List Text) : Prop :=
  ((Value.lookup (.str key) es).getD .null).truthy = false ∧ ids = [] ∨
    Value.lookup (.str key) es = some (.list (ids.map .text))

def choice (included excluded : Value) : Value := .dict [(.str "include", included), (.str "exclude", excluded)]

def idsUnder (s : Settings) (key : String) : Answer Value := do
  let v ← s.option key
  let items ← if v.truthy then v.items else pure []
  if items.all Value.hashable then return Value.setOf items else throw .wrongKind

theorem idsUnder_eq {ids : List Text} (plain : splitString '.' key = [key]) (lists : Lists now key ids) :
    idsUnder ⟨.dict now⟩ key = .ok (Value.setOf (ids.map .text)) := by
  unfold idsUnder
  rw [Settings.option_dict plain]
  rcases lists with ⟨empty, rfl⟩ | mem
  · refine bind_eq_ok.mpr ⟨_, rfl, ?_⟩
    rw [empty]
    rfl
  · have plainTexts : (ids.map Value.text).all Value.hashable = true := by
      rw [all_eq_true]
      intro v member
      obtain ⟨t, -, rfl⟩ := mem_map.mp member
      rfl
    rw [mem]
    cases ids with
    | nil => rfl
    | cons id rest => exact if_pos plainTexts

def lifted {α : Type} : Answer α → Except SettingsError α
  | .ok a => .ok a
  | .error f => .error (.fault f)

theorem profile_nameless (s : Settings) (path : String) {included excluded : Value}
    (tests : idsUnder s "tests" = .ok included) (skips : idsUnder s "skips" = .ok excluded) :
    s.profile "" path = .ok (choice included excluded) := by
  have named : s.profile "" path = (do
      return choice (← lifted (idsUnder s "tests")) (← lifted (idsUnder s "skips"))) := rfl
  rw [named, tests, skips]
  rfl

theorem addIds_of_set {es : Fields} {items : List Value}
    (present : Value.lookup (.str key) es = some (.set items)) (word : Option String) : addIds key word (.dict es) =
      .ok (.dict (Value.put (.str key) (Value.setOf (items ++ (idsIn word).map .text)) es)) := by
  have entry : (Value.dict es).entry key = .ok (.set items) := by rw [Value.entry, present]
  have words (t : String) : (if t.isEmpty then [] else (splitString ',' t).map Value.str) =
      (idsIn (some t)).map Value.text := by
    unfold idsIn Targets.components
    rw [Option.getD_some, map_map]
    by_cases empty : t.isEmpty = true
    · rw [if_pos empty, if_pos empty, map_nil]
    · rw [if_neg empty, if_neg empty]
      rfl
  unfold addIds
  cases word with
  | none =>
    rw [entry]
    rfl
  | some t =>
    simp only [entry, words]
    rfl

theorem checkTexts_of_set {ids : List Text} (entry : record.entry key = .ok (.set (ids.map .text))) :
    checkTexts key record = .ok () := by
  have texts : (ids.map Value.text).all (fun v => v.text?.isSome) = true := by simp [Value.text?]
  unfold checkTexts
  rw [entry]
  exact if_pos texts

def settle (record : Value) : Command Value :=
  match Profile.check record with
  | .ok _ => pure record
  | .error (.fault f) => throw (.fault f)
  | .error e => do
    Command.say (alert e.message)
    Command.stop 2

theorem profileOf_of_record {s : Settings}
    (found : s.profile (o.profile.getD "") (o.settingsFile.getD "None") = .ok record) :
    profileOf o s = (do
      Command.ofAnswer (checkTexts "include" record)
      Command.ofAnswer (checkTexts "exclude" record)
      let record ← Command.ofAnswer (addIds "include" o.tests record)
      let record ← Command.ofAnswer (addIds "exclude" o.skips record)
      settle record) := by
  unfold profileOf
  rw [found]
  rfl

/-- The file and the options together choose some tests and skip some; no profile is asked for. -/
structure Chooses (es : Fields) (o : Options) (tests skips : List Text) : Prop where
  nameless : o.profile.getD "" = ""
  tests : ∃ ids, Lists es "tests" ids ∧ ∀ id, id ∈ tests ↔ id ∈ ids ∨ id ∈ idsIn o.tests
  skips : ∃ ids, Lists es "skips" ids ∧ ∀ id, id ∈ skips ↔ id ∈ ids ∨ id ∈ idsIn o.skips

/-- The record has the set of the chosen tests and that of the skipped ones. -/
def IsChoice (tests skips : List Text) (record : Value) : Prop :=
  ∃ included excluded, record = choice included excluded ∧ included.IsSetOf tests ∧ excluded.IsSetOf skips

theorem isSetOf_union {ids more all : List Text} {known : List Text} (members : ∀ id, id ∈ known ↔ id ∈ ids)
    (union : ∀ id, id ∈ all ↔ id ∈ ids ∨ id ∈ more) :
    (Value.setOf (known.map .text ++ more.map .text)).IsSetOf all := by
  rw [← map_append]
  obtain ⟨set, made, nodup, same⟩ := Value.isSetOf_setOf (known ++ more)
  refine ⟨set, made, nodup, fun id => ?_⟩
  rw [same, mem_append, members, union]

theorem exists_choice (chooses : Chooses now o tests skips) :
    ∃ record, IsChoice tests skips record ∧ profileOf o ⟨.dict now⟩ = settle record := by
  obtain ⟨nameless, ⟨ids, mem, union⟩, others, unlisted, reunion⟩ := chooses
  obtain ⟨as, included, -, members⟩ := Value.isSetOf_setOf ids
  obtain ⟨bs, excluded, -, same⟩ := Value.isSetOf_setOf others
  have testIds := idsUnder_eq (by decide +kernel) mem
  have skipIds := idsUnder_eq (by decide +kernel) unlisted
  rw [included] at testIds
  rw [excluded] at skipIds
  refine ⟨choice (Value.setOf (as.map .text ++ (idsIn o.tests).map .text))
    (Value.setOf (bs.map .text ++ (idsIn o.skips).map .text)),
    ⟨_, _, rfl, isSetOf_union members union, isSetOf_union same reunion⟩, ?_⟩
  have record := profile_nameless ⟨.dict now⟩ (o.settingsFile.getD "None") testIds skipIds
  rw [← nameless] at record
  rw [profileOf_of_record record, checkTexts_of_set rfl, Command.ofAnswer_ok_bind, checkTexts_of_set rfl,
    Command.ofAnswer_ok_bind, choice, addIds_of_set rfl, Command.ofAnswer_ok_bind, addIds_of_set rfl,
    Command.ofAnswer_ok_bind]
  rfl

/-! ### Which choices are refused -/

/-- An id of the choice is unknown, or it is both chosen and skipped. -/
def Refused (tests skips : List Text) : Prop :=
  (∃ id ∈ tests ++ skips, Catalogue.isKnown id.toStringLossy = false) ∨ ∃ id ∈ tests, id ∈ skips

theorem checkTests_of_known {ids : List Text} (known : ∀ id ∈ ids, Catalogue.isKnown id.toStringLossy = true) :
    Profile.checkTests (ids.map .text) = .ok () := by
  induction ids with
  | nil => rfl
  | cons id rest ih =>
    obtain ⟨first, later⟩ := forall_mem_cons.mp known
    have passed : Profile.checkTests ((id :: rest).map .text) =
        ((if !Catalogue.isKnown id.toStringLossy then throw (.unknownTest id) else pure ()) >>= fun _ =>
          Profile.checkTests (rest.map .text)) := rfl
    rw [passed, first]
    exact ih later

theorem checkTests_of_unknown {ids : List Text} {id : Text} (mem : id ∈ ids)
    (unknown : Catalogue.isKnown id.toStringLossy = false) :
    ∃ test, Profile.checkTests (ids.map .text) = .error (.unknownTest test) := by
  induction ids with
  | nil => cases mem
  | cons first rest ih =>
    have passed : Profile.checkTests ((first :: rest).map .text) =
        ((if !Catalogue.isKnown first.toStringLossy then throw (.unknownTest first) else pure ()) >>= fun _ =>
          Profile.checkTests (rest.map .text)) := rfl
    rw [passed]
    cases known : Catalogue.isKnown first.toStringLossy with
    | false => exact ⟨first, rfl⟩
    | true =>
      rcases mem_cons.mp mem with rfl | later
      · cases known.symm.trans unknown
      · exact ih later

theorem check_choice (included excluded : List Value) :
    Profile.check (choice (.set included) (.set excluded)) = (do
      Profile.checkTests included
      Profile.checkTests excluded
      let both := (included.map Value.display).eraseDups.filter (excluded.map Value.display).contains
      if !both.isEmpty then throw (.contradiction both)) := rfl

theorem map_display_texts (ids : List Text) : (ids.map Value.text).map Value.display = ids := by
  rw [map_map]
  exact map_id ids

theorem check_of_not_refused (is : IsChoice tests skips record) (fine : ¬ Refused tests skips) :
    Profile.check record = .ok () := by
  obtain ⟨_, _, rfl, ⟨as, rfl, -, members⟩, bs, rfl, -, same⟩ := is
  simp only [Refused, not_or, not_exists, not_and, Bool.not_eq_false] at fine
  obtain ⟨known, apart⟩ := fine
  have chosen : ∀ id ∈ as, Catalogue.isKnown id.toStringLossy = true :=
    fun id mem => known id (mem_append_left _ ((members id).mp mem))
  have skipped : ∀ id ∈ bs, Catalogue.isKnown id.toStringLossy = true :=
    fun id mem => known id (mem_append_right _ ((same id).mp mem))
  have disjoint : as.eraseDups.filter bs.contains = [] := by
    rw [filter_eq_nil_iff]
    intro id mem shared
    exact apart id ((members id).mp (mem_eraseDups.mp mem)) ((same id).mp (contains_iff_mem.mp shared))
  rw [check_choice, checkTests_of_known chosen, checkTests_of_known skipped, map_display_texts, map_display_texts,
    disjoint]
  rfl

theorem check_of_refused (is : IsChoice tests skips record) (refused : Refused tests skips) :
    ∃ e, Profile.check record = .error e ∧ ∀ f, e ≠ .fault f := by
  obtain ⟨_, _, rfl, ⟨as, rfl, -, members⟩, bs, rfl, -, same⟩ := is
  rw [check_choice, map_display_texts, map_display_texts]
  -- an unknown id is found before one that is both chosen and skipped
  by_cases chosen : ∀ id ∈ as, Catalogue.isKnown id.toStringLossy = true
  · rw [checkTests_of_known chosen]
    by_cases skipped : ∀ id ∈ bs, Catalogue.isKnown id.toStringLossy = true
    · rw [checkTests_of_known skipped]
      rcases refused with ⟨id, mem, unknown⟩ | ⟨id, one, other⟩
      · rcases mem_append.mp mem with one | other
        · cases (chosen id ((members id).mpr one)).symm.trans unknown
        · cases (skipped id ((same id).mpr other)).symm.trans unknown
      · have shared : id ∈ as.eraseDups.filter bs.contains :=
          mem_filter.mpr ⟨mem_eraseDups.mpr ((members id).mpr one), contains_iff_mem.mpr ((same id).mpr other)⟩
        have some_ : (as.eraseDups.filter bs.contains).isEmpty = false :=
          isEmpty_eq_false_iff.mpr (ne_nil_of_mem shared)
        refine ⟨.contradiction (as.eraseDups.filter bs.contains), ?_, nofun⟩
        simp only [some_]
        rfl
    · simp only [not_forall] at skipped
      obtain ⟨id, mem, unknown⟩ := skipped
      obtain ⟨test, fails⟩ := checkTests_of_unknown mem (Bool.eq_false_iff.mpr unknown)
      rw [fails]
      exact ⟨_, rfl, nofun⟩
  · simp only [not_forall] at chosen
    obtain ⟨id, mem, unknown⟩ := chosen
    obtain ⟨test, fails⟩ := checkTests_of_unknown mem (Bool.eq_false_iff.mpr unknown)
    rw [fails]
    exact ⟨_, rfl, nofun⟩

end CommandLine

/-! ### Which rules run -/

namespace Profile

variable {ids others : List Text}

theorem means_congr (same : ∀ id, id ∈ ids ↔ id ∈ others) (id : Text) : Means ids id ↔ Means others id := by
  simp only [Means, same]

theorem wants_congr {p q : Profile} (includes : ∀ id, id ∈ p.includes ↔ id ∈ q.includes)
    (excludes : ∀ id, id ∈ p.excludes ↔ id ∈ q.excludes) (id : Text) : p.Wants id ↔ q.Wants id := by
  simp only [Wants, means_congr includes, means_congr excludes]

end Profile

namespace RuleSet

theorem ofProfile_congr {p q : Profile} {option other : String → Answer Value}
    (wanted : ∀ id, p.Wants id ↔ q.Wants id) (data : p.blacklist = q.blacklist)
    (blocks : ∀ r ∈ Catalogue.rules, configure option r = configure other r) :
    ofProfile p option = ofProfile q other := by
  have selected (id : Text) : p.selected.contains id = q.selected.contains id := by
    rw [Bool.eq_iff_iff, contains_iff_mem, contains_iff_mem, Profile.mem_selected, Profile.mem_selected, wanted]
  have banned : p.bannedData = q.bannedData := by
    unfold Profile.bannedData
    simp only [data, selected]
  unfold ofProfile
  simp only [selected, banned]
  rw [mapM_congr fun r chosen => blocks r (mem_filter.mp chosen).1]

theorem exists_ofProfile {p : Profile} (plain : p.blacklist.truthy = false) (es : Fields) :
    ∃ rules, ofProfile p (Settings.option ⟨.dict es⟩) = .ok rules := by
  obtain ⟨active, configured⟩ := exists_configured p es
  obtain ⟨-, extra, made, -⟩ := forCheck_of_banned plain
  exact ⟨_, ofProfile_eq_ok.mpr ⟨active, extra, configured, made, rfl⟩⟩

theorem blocks_kept : ∀ r ∈ Catalogue.rules, (r.settings.map Prod.fst).all (fun block =>
    !Settings.renewed.contains block && !Settings.testLists.contains block) = true := by decide +kernel

theorem configure_congr {second : Fields}
    (same : ∀ name, name ∉ Settings.renewed → name ∉ Settings.testLists →
      Value.lookup (.str name) now = Value.lookup (.str name) second) {r : Rule} (mem : r ∈ Catalogue.rules) :
    configure (Settings.option ⟨.dict now⟩) r = configure (Settings.option ⟨.dict second⟩) r := by
  have plain := plain_blocks r mem
  have kept := blocks_kept r mem
  unfold configure
  cases block : r.settings with
  | none => rfl
  | some own =>
    obtain ⟨name, _⟩ := own
    rw [block] at plain kept
    simp only [Option.map_some, Option.all_some, Bool.and_eq_true, beq_iff_eq] at plain
    simp only [Option.map_some, Option.all_some, Bool.and_eq_true, Bool.not_eq_true', contains_eq_mem,
      decide_eq_false_iff_not] at kept
    dsimp only
    rw [Settings.option_dict plain.1.1, Settings.option_dict plain.1.1, same name kept.1 kept.2]

end RuleSet

namespace CommandLine

theorem ofValue_choice (included excluded : List Text) :
    Profile.ofValue (choice (.set (included.map .text)) (.set (excluded.map .text))) =
      .ok ⟨included, excluded, .null⟩ := by
  have ids (all : List Text) : Profile.idsOf (.set (all.map .text)) = .ok all := by
    have hashable : (all.map Value.text).all Value.hashable = true := by simp [Value.hashable]
    unfold Profile.idsOf
    refine bind_eq_ok.mpr ⟨_, rfl, ?_⟩
    rw [if_pos hashable, map_display_texts]
    rfl
  have steps : Profile.ofValue (choice (.set (included.map .text)) (.set (excluded.map .text))) = (do
      let includes ← Profile.idsOf (.set (included.map .text))
      let excludes ← Profile.idsOf (.set (excluded.map .text))
      return { includes, excludes, blacklist := .null }) := rfl
  rw [steps, ids, ids]
  rfl

theorem exists_rules {second : Fields}
    (same : ∀ name, name ∉ Settings.renewed → name ∉ Settings.testLists →
      Value.lookup (.str name) now = Value.lookup (.str name) second) {other : Value}
    (one : IsChoice tests skips record) (two : IsChoice tests skips other) :
    ∃ s t : Session, Session.create ⟨.dict now⟩ record = .ok s ∧ Session.create ⟨.dict second⟩ other = .ok t ∧
      s.rules = t.rules := by
  obtain ⟨_, _, rfl, ⟨as, rfl, -, chosen⟩, bs, rfl, -, skipped⟩ := one
  obtain ⟨_, _, rfl, ⟨cs, rfl, -, again⟩, ds, rfl, -, too⟩ := two
  obtain ⟨rules, found⟩ := RuleSet.exists_ofProfile (p := ⟨as, bs, .null⟩) rfl now
  have wanted := Profile.wants_congr (p := ⟨as, bs, .null⟩) (q := ⟨cs, ds, .null⟩)
    (fun id => (chosen id).trans (again id).symm) (fun id => (skipped id).trans (too id).symm)
  have equal := RuleSet.ofProfile_congr wanted rfl fun r mem => RuleSet.configure_congr same mem
  exact ⟨{ settings := ⟨.dict now⟩, rules }, { settings := ⟨.dict second⟩, rules },
    (Session.create_eq_ok (ofValue_choice as bs)).mpr ⟨rules, found, rfl⟩,
    (Session.create_eq_ok (ofValue_choice cs ds)).mpr ⟨rules, equal.symm.trans found, rfl⟩, rfl⟩

/-! ### Moving ids -/

theorem equals_of_isChoice {other : Value} (one : IsChoice tests skips record) (two : IsChoice tests skips other) :
    record.equals other = true := by
  obtain ⟨_, _, rfl, chosen, skipped⟩ := one
  obtain ⟨_, _, rfl, again, too⟩ := two
  have keys (name : String) : (Value.str name).equals (.str name) = true := Value.equals_str_iff.mpr rfl
  simp only [choice, Value.equals, Value.entriesWithin, any_cons, keys, chosen.equals again, skipped.equals too]
  simp

theorem run_settle_of_refused (is : IsChoice tests skips record) (refused : Refused tests skips) :
    ∃ why, ∀ c, EStateM.run (settle record) c = .error (.exit 2) { c with log := c.log ++ [alert why] } := by
  obtain ⟨e, fails, clean⟩ := check_of_refused is refused
  refine ⟨e.message, fun c => ?_⟩
  unfold settle
  rw [fails]
  cases e with
  | fault f => exact absurd rfl (clean f)
  | _ => rfl

theorem settle_of_not_refused (is : IsChoice tests skips record) (fine : ¬ Refused tests skips) :
    settle record = pure record := by
  unfold settle
  rw [check_of_not_refused is fine]

def WellFormed (s : Settings) : Prop :=
  ∃ form, s.option "log_format" = .ok form ∧ (form.truthy = true → checkMessageForm form = .ok ())

theorem run_scanWith_of_refused {s : Settings} {before c : Console}
    (loaded : EStateM.run (settingsOf o) before = .ok s c) (targets : o.targets ≠ []) (formed : WellFormed s)
    {e : Ending} {last : Console} (refused : EStateM.run (profileOf o s) c = .error e last) (debugMessages : Bool) :
    Command.run (scanWith o debugMessages) before = (e, last) := by
  obtain ⟨form, set, usable⟩ := formed
  have some_ : o.targets.isEmpty = false := isEmpty_eq_false_iff.mpr targets
  have ends : EStateM.run (openSession o debugMessages) before = .error e last := by
    unfold openSession
    rw [EStateM.run_bind, loaded]
    simp only [some_, set, Command.ofAnswer_ok_bind]
    -- a form of messages is looked at only if there is one
    cases truthy : form.truthy with
    | false =>
      simp only [Bool.false_eq_true, if_false]
      rw [EStateM.run_bind, refused]
    | true =>
      simp only [Bool.false_eq_true, if_false, if_true, usable truthy, Command.ofAnswer_ok_bind]
      rw [EStateM.run_bind, refused]
  rw [Command.run, scanWith, EStateM.run_bind, ends]

/-- The profile is refused with a message before anything is scanned. -/
def TurnedDown (o : Options) (s : Settings) : Prop :=
  ∃ why, (∀ c, EStateM.run (profileOf o s) c = .error (.exit 2) { c with log := c.log ++ [alert why] }) ∧
    ∀ debugMessages before c, EStateM.run (settingsOf o) before = .ok s c → o.targets ≠ [] → WellFormed s →
      Command.run (scanWith o debugMessages) before = (.exit 2, { c with log := c.log ++ [alert why] })

theorem turnedDown_of_refused (chooses : Chooses now o tests skips) (refused : Refused tests skips) :
    TurnedDown o ⟨.dict now⟩ := by
  obtain ⟨_, is, judged⟩ := exists_choice chooses
  obtain ⟨why, ends⟩ := run_settle_of_refused is refused
  rw [← judged] at ends
  exact ⟨why, ends, fun debugMessages before c loaded targets formed =>
    run_scanWith_of_refused loaded targets formed (ends c) debugMessages⟩

theorem Chooses.of_lookup {es : Fields} (chooses : Chooses es o tests skips)
    (kept : ∀ name, name ∉ Settings.renewed → Value.lookup (.str name) now = Value.lookup (.str name) es) :
    Chooses now o tests skips := by
  obtain ⟨nameless, chosen, skipped⟩ := chooses
  unfold Lists at chosen skipped
  rw [← kept "tests" (by decide)] at chosen
  rw [← kept "skips" (by decide)] at skipped
  exact ⟨nameless, chosen, skipped⟩

/-- Where ids are given does not matter. With files that differ in their lists of tests only, and options such that both
together choose and skip the same ids, both are turned down or make the same rules run. -/
theorem moved_ids {es other : List (Value × Value)} (alike : Settings.Alike es other) {o p : Options}
    {tests skips : List Text} (one : Chooses es o tests skips) (two : Chooses other p tests skips) (path : String)
    (log : Log) :
    (∃ e later, (Settings.ofContent path (.dict es)).run log = .error e later ∧
        (Settings.ofContent path (.dict other)).run log = .error e later) ∨
      ∃ s t later, (Settings.ofContent path (.dict es)).run log = .ok s later ∧
        (Settings.ofContent path (.dict other)).run log = .ok t later ∧
        (Refused tests skips → TurnedDown o s ∧ TurnedDown p t) ∧
        (¬ Refused tests skips → ∃ first second,
          (∀ c, EStateM.run (profileOf o s) c = .ok first c) ∧ (∀ c, EStateM.run (profileOf p t) c = .ok second c) ∧
          IsChoice tests skips first ∧ first.equals second = true ∧
          ∃ a b : Session, Session.create s first = .ok a ∧ Session.create t second = .ok b ∧ a.rules = b.rules) := by
  rcases Settings.ofContent_alike alike path log with failed | ⟨now, second, later, loaded, again, kept⟩
  · exact .inl failed
  have here := one.of_lookup fun name free => (kept name free).1
  have there := two.of_lookup fun name free => (kept name free).2
  refine .inr ⟨_, _, later, loaded, again, fun refused => ?_, fun fine => ?_⟩
  · exact ⟨turnedDown_of_refused here refused, turnedDown_of_refused there refused⟩
  · obtain ⟨record, is, judged⟩ := exists_choice here
    obtain ⟨twin, too, likewise⟩ := exists_choice there
    have same (name : String) (free : name ∉ Settings.renewed) (block : name ∉ Settings.testLists) :
        Value.lookup (.str name) now = Value.lookup (.str name) second := by
      rw [(kept name free).1, (kept name free).2, alike name block]
    rw [judged, likewise, settle_of_not_refused is fine, settle_of_not_refused too fine]
    exact ⟨record, twin, fun c => rfl, fun c => rfl, is, equals_of_isChoice is too, exists_rules same is too⟩

def testsFile : Fields := [(.str "tests", .list [.str "B101", .str "B404"]), (.str "skips", .null)]

def skipsFile : Fields := [(.str "skips", .list [.str "B110"])]

theorem alike_testsFile : Settings.Alike testsFile skipsFile := by
  intro key free
  simp only [Settings.testLists, mem_cons, not_mem_nil, or_false, not_or] at free
  simp [testsFile, skipsFile, Value.lookup, Value.equals_str_iff, Value.str_inj, Ne.symm free.1, Ne.symm free.2]

theorem moved_ids_testsFile : ∃ s t later first second, ∃ a b : Session,
    (Settings.ofContent "b.yaml" (.dict testsFile)).run [] = .ok s later ∧
    (Settings.ofContent "b.yaml" (.dict skipsFile)).run [] = .ok t later ∧
    (∀ c, EStateM.run (profileOf { tests := some "B102", skips := some "B110" } s) c = .ok first c) ∧
    (∀ c, EStateM.run (profileOf { tests := some "B404,B102,B101" } t) c = .ok second c) ∧
    first.equals second = true ∧ Session.create s first = .ok a ∧ Session.create t second = .ok b ∧
    a.rules = b.rules := by
  have loads : ((Settings.ofContent "b.yaml" (.dict testsFile)).run' []).isSome := by decide +kernel
  have single : idsIn (some "B102") = [Text.ofString "B102"] := by decide +kernel
  have skip : idsIn (some "B110") = [Text.ofString "B110"] := by decide +kernel
  have triple : idsIn (some "B404,B102,B101") = [Text.ofString "B404", Text.ofString "B102", Text.ofString "B101"] := by
    decide +kernel
  have one : Chooses testsFile { tests := some "B102", skips := some "B110" } ["B101", "B404", "B102"] ["B110"] :=
    ⟨rfl, ⟨["B101", "B404"], .inr rfl, fun id => by simp [single, or_assoc]⟩,
      [], .inl ⟨rfl, rfl⟩, fun id => by simp [skip]⟩
  have two : Chooses skipsFile { tests := some "B404,B102,B101" } ["B101", "B404", "B102"] ["B110"] :=
    ⟨rfl, ⟨[], .inl ⟨rfl, rfl⟩, fun id => by rw [triple]; simp; tauto⟩,
      ["B110"], .inr rfl, fun id => by simp [show idsIn none = [] from rfl]⟩
  have fine : ¬ Refused ["B101", "B404", "B102"] ["B110"] := by
    unfold Refused
    decide +kernel
  rcases moved_ids alike_testsFile one two "b.yaml" [] with
    ⟨e, later, failed, -⟩ | ⟨s, t, later, loaded, again, -, accepted⟩
  · simp [EStateM.run', failed] at loads
  · obtain ⟨first, second, here, there, -, equal, a, b, created, too, same⟩ := accepted fine
    exact ⟨s, t, later, first, second, a, b, loaded, again, here, there, equal, created, too, same⟩

end CommandLine

end SourceAudit
