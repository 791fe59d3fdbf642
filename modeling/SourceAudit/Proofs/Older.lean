import SourceAudit.Proofs.Fallback

/-! Settings of the older form: the questions about their profiles, and how they are brought up to date. -/

namespace SourceAudit

open Answers List

variable {v : Value} {fields profiles : Fields} {placeholder : String} {now : Option Value × List Value}

namespace Value

/-! ### Searching in values -/

def Searchable : Value → Prop
  | list _ | tuple _ | set _ | dict _ | text _ => True
  | _ => False

def Mentions (name : String) : Value → Prop
  | list xs | tuple xs | set xs => str name ∈ xs
  | dict es => ∃ e ∈ es, e.1 = str name
  | text t => Text.ofString name <:+: t
  | _ => False

theorem any_equals_str_iff {xs : List Value} {name : String} :
    (xs.any fun x => x.equals (str name)) = true ↔ str name ∈ xs := by
  rw [any_eq_true]
  simp only [equals_str_iff, exists_eq_right]

theorem holds_of_searchable (searchable : v.Searchable) (name : String) :
    ∃ found, v.holds (str name) = .ok found ∧ (found = true ↔ v.Mentions name) := by
  have plain : (str name).hashable = true := rfl
  cases v with
  | list xs => exact ⟨_, rfl, any_equals_str_iff⟩
  | tuple xs => exact ⟨_, rfl, any_equals_str_iff⟩
  | set xs =>
    exact ⟨_, rfl, any_equals_str_iff⟩
  | dict es =>
    refine ⟨_, rfl, ?_⟩
    rw [any_eq_true]
    simp only [equals_str_iff, Mentions]
  | text t => exact ⟨_, rfl, Segments.occurs_iff_infix _ _⟩
  | _ => cases searchable

theorem holds_of_not_searchable (unsearchable : ¬ v.Searchable) (name : String) :
    v.holds (str name) = .error .wrongKind := by
  cases v with
  | list | tuple | set | dict | text => exact absurd trivial unsearchable
  | _ => rfl

/-! ### Sets -/

def distinct (items : List Value) : List Value :=
  items.foldl (fun acc v => if acc.any (·.equals v) then acc else acc ++ [v]) []

theorem text_mem_foldl_distinct (items acc : List Value) (t : Text) :
    text t ∈ items.foldl (fun acc v => if acc.any (·.equals v) then acc else acc ++ [v]) acc ↔
      text t ∈ acc ∨ text t ∈ items := by
  induction items generalizing acc with
  | nil => simp
  | cons v rest ih =>
    rw [foldl_cons, ih, mem_cons]
    by_cases present : (acc.any (·.equals v)) = true
    · rw [if_pos present]
      -- a text equals nothing but itself, so one that is left out is there already
      have known : text t = v → text t ∈ acc := by
        rintro rfl
        obtain ⟨w, listed, same⟩ := any_eq_true.mp present
        exact equals_text_iff.mp same ▸ listed
      tauto
    · rw [if_neg present, mem_append, mem_singleton]
      tauto

theorem text_mem_distinct {items : List Value} {t : Text} : text t ∈ distinct items ↔ text t ∈ items := by
  rw [distinct, text_mem_foldl_distinct]
  simp

def Listable (v : Value) : Prop := ∃ xs, v.items = .ok xs ∧ ∀ x ∈ xs, x.hashable = true

/-! ### Entries -/

def entries : Value → Fields
  | dict es => es
  | _ => []

def textAt (name : String) (es : Fields) : Text := ((lookup (str name) es).bind text?).getD []

end Value

namespace Loading

variable {α β : Type}

theorem run_ofAnswer_bind (x : Answer α) (f : α → Loading β) (log : Log) : (ofAnswer x >>= f).run log = match x with
      | .ok a => (f a).run log
      | .error fault => .error (.fault fault) log := by
  cases x with
  | ok a => rfl
  | error fault => rfl

theorem run_forM_cons (f : α → Loading Unit) (a : α) (rest : List α) (log : Log) :
    ((a :: rest).forM f).run log = (f a >>= fun _ => rest.forM f).run log := rfl

variable {f : α → Loading Unit}

theorem run_forM_quiet {items : List α}
    (quiet : ∀ a ∈ items, ∀ log, (f a).run log = .ok () log) (log : Log) : (items.forM f).run log = .ok () log := by
  induction items with
  | nil => rfl
  | cons a rest ih =>
    rw [run_forM_cons, EStateM.run_bind, quiet a mem_cons_self]
    exact ih fun b later => quiet b (mem_cons_of_mem a later)

theorem run_forM_first {before : List α} (after : List α) {a : α} {e : SettingsError}
    (quiet : ∀ b ∈ before, ∀ log, (f b).run log = .ok () log) (fails : ∀ log, (f a).run log = .error e log)
    (log : Log) : ((before ++ a :: after).forM f).run log = .error e log := by
  induction before with
  | nil => rw [nil_append, run_forM_cons, EStateM.run_bind, fails]
  | cons b rest ih =>
    rw [cons_append, run_forM_cons, EStateM.run_bind, quiet b mem_cons_self]
    exact ih fun c later => quiet c (mem_cons_of_mem b later)

end Loading

namespace Settings

/-! ### Questions -/

/-- The part of a profile under a name; what is missing or empty is an empty set. -/
def part (key : String) (fields : Fields) : Value :=
  let v := (Value.lookup (.str key) fields).getD .null
  if v.truthy then v else .set []

theorem profilePart_dict (key : String) (fields : Fields) : profilePart key (.dict fields) = .ok (part key fields) := rfl

def olderTests : List (String × String) :=
  [("blacklist_imports", "blacklist_imports"), ("blacklist_import_func", "blacklist_imports"),
    ("blacklist_calls", "blacklist_calls")]

/-- Does the profile choose the test, and if so, are there data for it? -/
structure Question where
  profile : Value
  test : String
  block : String

def questions (profiles : Fields) : List Question :=
  profiles.flatMap fun (_, profile) => olderTests.map fun (test, block) => ⟨profile, test, block⟩

namespace Question

variable {path : String} {q : Question}

def Clear (q : Question) : Prop :=
  ∃ fields, q.profile = .dict fields ∧ (part "include" fields).Searchable ∧
    ((part "include" fields).Mentions q.test ∨ (part "exclude" fields).Searchable)

def Chosen (q : Question) : Prop :=
  ∃ fields, q.profile = .dict fields ∧
    ((part "include" fields).Mentions q.test ∨ (part "exclude" fields).Mentions q.test)

def Lacking (es : Fields) (q : Question) : Prop := q.Chosen ∧ (Value.lookup (.str q.block) es).getD .null = .null

def Passes (es : Fields) (q : Question) : Prop := q.Clear ∧ ¬ q.Lacking es

def ask (path : String) (content : Value) (q : Question) : Loading Unit := do
  let included ← Loading.ofAnswer (profilePart "include" q.profile)
  let excluded ← Loading.ofAnswer (profilePart "exclude" q.profile)
  needsData path content included excluded q.test q.block

def search (test : String) (included excluded : Value) : Answer Bool := do
  if ← included.holds (.str test) then return true else excluded.holds (.str test)

theorem needsData_eq (path : String) (content included excluded : Value) (test block : String) :
    needsData path content included excluded test block =
      (Loading.ofAnswer (search test included excluded) >>= fun chosen =>
        if chosen && ((content.get? block).getD .null matches .null) then throw (.dataMissing path test)
        else pure ()) := rfl

theorem search_answer (profile : q.profile = .dict fields) :
    (q.Clear → ∃ chosen, search q.test (part "include" fields) (part "exclude" fields) = .ok chosen ∧
        (chosen = true ↔ q.Chosen)) ∧
      (¬ q.Clear → search q.test (part "include" fields) (part "exclude" fields) = .error .wrongKind) := by
  have clear : q.Clear ↔ (part "include" fields).Searchable ∧
      ((part "include" fields).Mentions q.test ∨ (part "exclude" fields).Searchable) := by
    simp [Clear, profile]
  have chosen : q.Chosen ↔
      (part "include" fields).Mentions q.test ∨ (part "exclude" fields).Mentions q.test := by
    simp [Chosen, profile]
  rw [clear, chosen, search]
  by_cases searchable : (part "include" fields).Searchable
  · obtain ⟨included, asked, meaning⟩ := Value.holds_of_searchable searchable q.test
    rw [asked]
    cases included with
    | true =>
      have mentioned := meaning.mp rfl
      exact ⟨fun _ => ⟨true, rfl, by simp [mentioned]⟩, fun unclear => absurd ⟨searchable, .inl mentioned⟩ unclear⟩
    | false =>
      -- only now is the other list searched, so only now has it to be searchable
      have absent : ¬ (part "include" fields).Mentions q.test := by simpa using meaning
      by_cases second : (part "exclude" fields).Searchable
      · obtain ⟨excluded, again, other⟩ := Value.holds_of_searchable second q.test
        refine ⟨fun _ => ⟨excluded, again, ?_⟩, fun unclear => absurd ⟨searchable, .inr second⟩ unclear⟩
        rw [other]
        simp [absent]
      · refine ⟨fun clear => ?_, fun _ => Value.holds_of_not_searchable second q.test⟩
        exact absurd clear.2 (by simp [absent, second])
  · rw [Value.holds_of_not_searchable searchable]
    exact ⟨fun clear => absurd clear.1 searchable, fun _ => rfl⟩

theorem ask_dict {content : Value} (profile : q.profile = .dict fields) : ask path content q =
      needsData path content (part "include" fields) (part "exclude" fields) q.test q.block := by
  unfold ask
  rw [profile]
  rfl

theorem ask_of_clear (path : String) (es : Fields) (clear : q.Clear) (log : Log) :
    (q.Lacking es → (ask path (.dict es) q).run log = .error (.dataMissing path q.test) log) ∧
      (¬ q.Lacking es → (ask path (.dict es) q).run log = .ok () log) := by
  obtain ⟨_, profile, -⟩ := id clear
  obtain ⟨chosen, answer, meaning⟩ := (search_answer profile).1 clear
  have missing : (((Value.dict es).get? q.block).getD .null matches .null) = true ↔
      (Value.lookup (.str q.block) es).getD .null = .null := by
    rw [Value.get?]
    split <;> simp_all
  have steps : (ask path (.dict es) q).run log =
      (if chosen && (((Value.dict es).get? q.block).getD .null matches .null) then
        throw (.dataMissing path q.test) else pure () : Loading Unit).run log := by
    rw [ask_dict profile, needsData_eq, answer, Loading.run_ofAnswer_bind]
  rw [steps, Lacking, ← meaning, ← missing]
  -- of the four cases, one is refused: the test is chosen and its block is missing
  cases chosen
  · exact ⟨fun lacking => absurd lacking.1 (by decide), fun _ => rfl⟩
  · cases (((Value.dict es).get? q.block).getD .null matches .null)
    · exact ⟨fun lacking => absurd lacking.2 (by decide), fun _ => rfl⟩
    · exact ⟨fun _ => rfl, fun fine => absurd ⟨rfl, rfl⟩ fine⟩

theorem ask_of_not_clear (path : String) (es : Fields) (unclear : ¬ q.Clear) :
    ∃ fault, ∀ log, (ask path (.dict es) q).run log = .error (.fault fault) log := by
  by_cases table : ∃ fields, q.profile = .dict fields
  · obtain ⟨fields, profile⟩ := table
    refine ⟨.wrongKind, fun log => ?_⟩
    rw [ask_dict profile, needsData_eq, (search_answer profile).2 unclear, Loading.run_ofAnswer_bind]
  · refine ⟨.missingAttribute, fun log => ?_⟩
    have none_ : profilePart "include" q.profile = .error .missingAttribute := by
      unfold profilePart
      split
      · rename_i fields profile
        exact absurd ⟨fields, profile⟩ table
      · rfl
    unfold ask
    rw [none_, Loading.run_ofAnswer_bind]

theorem exists_first (es : Fields) (qs : List Question) : (∀ q ∈ qs, q.Passes es) ∨
      ∃ before q after, qs = before ++ q :: after ∧ (∀ r ∈ before, r.Passes es) ∧ ¬ q.Passes es := by
  induction qs with
  | nil => exact .inl (by simp)
  | cons q rest ih =>
    by_cases passes : q.Passes es
    · rcases ih with all | ⟨before, r, after, rfl, earlier, stops⟩
      · exact .inl (forall_mem_cons.mpr ⟨passes, all⟩)
      · exact .inr ⟨q :: before, r, after, rfl, forall_mem_cons.mpr ⟨passes, earlier⟩, stops⟩
    · exact .inr ⟨[], q, rest, rfl, by simp, passes⟩

end Question

def deprecation (path : String) : Message :=
  warning ("Config file '" ++ path ++ "' contains deprecated legacy config data. " ++
    "Please consider upgrading to the new config format. The tool 'bandit-config-generator' " ++
    "can help you with this. Support for legacy configs will be removed in a future " ++
    "bandit version.")

variable {path : String} {es : Fields} {log : Log}

theorem holds_dict (es : Fields) (name : String) :
    (Value.dict es).holds (.str name) = .ok (Value.lookup (.str name) es).isSome := by
  have plain : (Value.str name).hashable = true := rfl
  rw [Value.holds, if_pos plain, Value.any_equals_str]

theorem validate_without_profiles (absent : Value.lookup (.str "profiles") es = none) :
    (validate path (.dict es)).run log = .ok () log := by
  unfold validate
  rw [holds_dict, absent, Loading.run_ofAnswer_bind]
  rfl

theorem validate_of_no_table (present : Value.lookup (.str "profiles") es = some v)
    (other : ∀ profiles, v ≠ .dict profiles) :
    (validate path (.dict es)).run log = .error (.fault .missingAttribute) log := by
  unfold validate
  rw [holds_dict, present, Loading.run_ofAnswer_bind]
  simp only [Option.isSome_some, if_true, Value.entry, present]
  cases v with
  | dict profiles => exact absurd rfl (other profiles)
  | _ => rfl

theorem forM_ask (profile : Value) :
    (olderTests.map fun (test, block) => (⟨profile, test, block⟩ : Question)).forM (Question.ask path (.dict es)) = (do
      let included ← Loading.ofAnswer (profilePart "include" profile)
      let excluded ← Loading.ofAnswer (profilePart "exclude" profile)
      needsData path (.dict es) included excluded "blacklist_imports" "blacklist_imports"
      needsData path (.dict es) included excluded "blacklist_import_func" "blacklist_imports"
      needsData path (.dict es) included excluded "blacklist_calls" "blacklist_calls") := by
  cases profile with
  | dict fields =>
    change (needsData _ _ _ _ _ _ >>= fun _ => needsData _ _ _ _ _ _ >>= fun _ =>
      needsData _ _ _ _ _ _ >>= fun _ => pure ()) = _
    rw [bind_pure_unit]
    rfl
  | _ => rfl

section

variable (present : Value.lookup (.str "profiles") es = some (.dict profiles))

include present

theorem validate_profiles :
    (validate path (.dict es)).run log =
      ((questions profiles).forM (Question.ask path (.dict es)) >>= fun _ =>
        Loading.say (deprecation path)).run log := by
  unfold validate
  rw [holds_dict, present, Loading.run_ofAnswer_bind]
  simp only [Option.isSome_some, if_true, Value.entry, present]
  rw [Loading.run_ofAnswer_bind, questions, forM_flatMap]
  simp only [forM_ask]
  rfl

theorem validate_of_passing (passes : ∀ q ∈ questions profiles, q.Passes es) :
    (validate path (.dict es)).run log = .ok () (log ++ [deprecation path]) := by
  have quiet := Loading.run_forM_quiet (f := Question.ask path (.dict es))
    (fun q asked log => (Question.ask_of_clear path es (passes q asked).1 log).2 (passes q asked).2) log
  rw [validate_profiles present, EStateM.run_bind, quiet]
  rfl

theorem validate_of_stopping
    {before after : List Question} {q : Question} (asked : questions profiles = before ++ q :: after)
    (earlier : ∀ r ∈ before, r.Passes es) {e : SettingsError}
    (stops : ∀ log, (Question.ask path (.dict es) q).run log = .error e log) :
    (validate path (.dict es)).run log = .error e log := by
  have first := Loading.run_forM_first after
    (fun r asked log => (Question.ask_of_clear path es (earlier r asked).1 log).2 (earlier r asked).2) stops log
  rw [validate_profiles present, asked, EStateM.run_bind, first]

end

/-! ### Profiles -/

def byId : Value → Value
  | .text t => (Catalogue.idOf? t.toStringLossy).elim (.text t) Value.str
  | v => v

theorem testId_of_hashable {x : Value} (hashable : x.hashable = true) : testId x = .ok (byId x) := by
  cases x with
  | text t => rfl
  | _ =>
    unfold testId byId
    exact if_pos hashable

theorem testId_of_not_hashable {x : Value} (unhashable : x.hashable = false) : testId x = .error .wrongKind := by
  cases x with
  | text t => cases unhashable
  | _ =>
    unfold testId
    exact if_neg (Bool.eq_false_iff.mp unhashable)

def listed (v : Value) : List Value := Value.distinct ((v.items.toOption.getD []).map byId)

theorem testIds_of_listable (listable : v.Listable) : testIds v = .ok (.set (listed v)) := by
  obtain ⟨xs, items, hashable⟩ := listable
  have each : xs.mapM testId = .ok (xs.map byId) := mapM_of_ok fun x member => testId_of_hashable (hashable x member)
  unfold testIds listed
  rw [items]
  exact bind_eq_ok.mpr ⟨xs, rfl, bind_eq_ok.mpr ⟨_, each, rfl⟩⟩

theorem listable_of_testIds {w : Value} (done : testIds v = .ok w) : v.Listable := by
  obtain ⟨xs, items, rest⟩ := bind_eq_ok.mp done
  obtain ⟨ids, each, -⟩ := bind_eq_ok.mp rest
  refine ⟨xs, items, fun x member => ?_⟩
  obtain ⟨_, identified⟩ := exists_mapM_iff.mp ⟨ids, each⟩ x member
  by_contra unhashable
  rw [testId_of_not_hashable (Bool.eq_false_iff.mpr unhashable)] at identified
  cases identified

def Profilable (profile : Value) : Prop :=
  ∃ fields, profile = .dict fields ∧ (part "include" fields).Listable ∧ (part "exclude" fields).Listable

def identified (e : Value × Value) : Value × Value × Value :=
  (e.1, .set (listed (part "include" e.2.entries)), .set (listed (part "exclude" e.2.entries)))

theorem splitString_profiles : splitString '.' "profiles" = ["profiles"] := by decide +kernel

theorem splitString_calls : splitString '.' "blacklist_calls" = ["blacklist_calls"] := by decide +kernel

theorem splitString_imports : splitString '.' "blacklist_imports" = ["blacklist_imports"] := by decide +kernel

theorem follow_dict {name : String} (plain : splitString '.' name = [name]) (es : Fields) :
    follow [name] (.dict es) = .ok ((Value.lookup (.str name) es).getD .null) := by
  have found := option_dict plain es
  rwa [option, plain] at found

section

variable (present : Value.lookup (.str "profiles") es = some (.dict profiles))

include present

theorem profilesById_of_profilable
    (profilable : ∀ e ∈ profiles, Profilable e.2) : profilesById (.dict es) = .ok (profiles.map identified) := by
  unfold profilesById
  rw [follow_dict splitString_profiles, present]
  apply mapM_of_ok
  intro e member
  obtain ⟨_, _⟩ := e
  obtain ⟨_, rfl, included, excluded⟩ := profilable _ member
  simp only [profilePart_dict, bind_eq_ok, pure_eq_ok]
  exact ⟨_, rfl, _, testIds_of_listable included, _, rfl, _, testIds_of_listable excluded, rfl⟩

theorem profilable_of_profilesById {ids : List (Value × Value × Value)} (done : profilesById (.dict es) = .ok ids) :
    ∀ e ∈ profiles, Profilable e.2 := by
  unfold profilesById at done
  rw [follow_dict splitString_profiles, present] at done
  intro e member
  obtain ⟨b, step⟩ := exists_mapM_iff.mp ⟨ids, done⟩ e member
  obtain ⟨_, profile⟩ := e
  cases profile with
  | dict fields =>
    simp only [profilePart_dict, bind_eq_ok, pure_eq_ok, Except.ok.injEq, exists_eq_left'] at step
    obtain ⟨_, made, _, again, -⟩ := step
    exact ⟨fields, rfl, listable_of_testIds made, listable_of_testIds again⟩
  | _ => cases step

end

/-! ### Data on banned names -/

/-- How records are brought up to date: for which of them it can be done, and what comes of them. -/
structure Renewal (update : Fields → Answer Fields) where
  Fits : Fields → Prop
  renew : Value → Fields → Fields
  update_of_fits : ∀ {name fields}, Fits fields → update (Value.put (.str "name") name fields) = .ok (renew name fields)
  fits_of_update : ∀ {name fields record}, update (Value.put (.str "name") name fields) = .ok record → Fits fields

def Worded (fields : Fields) : Prop := ∃ t, Value.lookup (.str "message") fields = some (.text t)

def reworded (placeholder : String) (name : Value) (fields : Fields) : Fields :=
  Value.put (.str "message") (.text (Segments.replace placeholder "\x7bname\x7d" (Value.textAt "message" fields)))
    (Value.put (.str "name") name fields)

theorem lookup_put_name {key : String} (other : "name" ≠ key) (name : Value) (fields : Fields) :
    Value.lookup (.str key) (Value.put (.str "name") name fields) = Value.lookup (.str key) fields :=
  Value.lookup_put_of_ne other fields name

theorem renamePlaceholder_of_worded {name : Value} (worded : Worded fields) :
    renamePlaceholder placeholder (Value.put (.str "name") name fields) = .ok (reworded placeholder name fields) := by
  obtain ⟨t, message⟩ := worded
  have text : Value.textAt "message" fields = t := by
    rw [Value.textAt, message]
    rfl
  rw [renamePlaceholder, lookup_put_name (by decide), message, reworded, text]

theorem worded_of_renamePlaceholder {name : Value} {record : Fields}
    (done : renamePlaceholder placeholder (Value.put (.str "name") name fields) = .ok record) : Worded fields := by
  rw [renamePlaceholder, lookup_put_name (by decide)] at done
  split at done
  · cases done
  · rename_i t message
    exact ⟨t, message⟩
  all_goals cases done

theorem lookup_imports_reworded (placeholder : String) (name : Value) (fields : Fields) :
    Value.lookup (.str "imports") (reworded placeholder name fields) = Value.lookup (.str "imports") fields := by
  rw [reworded, Value.lookup_put_of_ne (by decide), lookup_put_name (by decide)]

def functions : Renewal updateFunctions where
  Fits := Worded
  renew := reworded "\x7bfunc\x7d"
  update_of_fits := renamePlaceholder_of_worded
  fits_of_update := worded_of_renamePlaceholder

def modules : Renewal updateModules where
  Fits fields := Worded fields ∧ ∃ names, Value.lookup (.str "imports") fields = some names
  renew name fields :=
    (Value.put (.str "qualnames") ((Value.lookup (.str "imports") fields).getD .null)
      (reworded "\x7bmodule\x7d" name fields)).filter fun e => !e.1.equals (.str "imports")
  update_of_fits := by
    intro name fields fits
    obtain ⟨worded, names, imported⟩ := fits
    rw [updateModules, renamePlaceholder_of_worded worded, bind_eq_ok]
    refine ⟨_, rfl, ?_⟩
    rw [lookup_imports_reworded, imported]
    rfl
  fits_of_update := by
    intro name fields record done
    obtain ⟨between, renamed, done⟩ := bind_eq_ok.mp done
    have worded := worded_of_renamePlaceholder renamed
    rw [renamePlaceholder_of_worded worded, Except.ok.injEq] at renamed
    rw [← renamed, lookup_imports_reworded] at done
    refine ⟨worded, ?_⟩
    cases imported : Value.lookup (.str "imports") fields with
    | none =>
      rw [imported] at done
      cases done
    | some names => exact ⟨names, rfl⟩

def blockAt (name : String) (es : Fields) : Value := (Value.lookup (.str name) es).getD .null

def groupsOf (list : String) (block : Value) : Value := (Value.lookup (.str list) block.entries).getD (.dict [])

section Blocks

variable {update : Fields → Answer Fields} {block list : String}
  {fields : Fields}

section

variable (plain : splitString '.' block = [block])

include plain

theorem updateBlock_empty (empty : (blockAt block es).truthy = false) :
    updateBlock (.dict es) block list update = .ok (none, []) := by
  have found : follow [block] (.dict es) = .ok (blockAt block es) := follow_dict plain es
  unfold updateBlock
  rw [found]
  refine bind_eq_ok.mpr ⟨_, rfl, ?_⟩
  rw [empty]
  rfl

theorem updateBlock_table (table : blockAt block es = .dict fields)
    (nonempty : (Value.dict fields).truthy = true) :
    updateBlock (.dict es) block list update = (do
      let groups ← (groupsOf list (.dict fields)).items
      let groups ← groups.mapM (updateGroup update)
      let now := .dict (Value.put (.str list) (.list (groups.map .dict)) fields)
      return (if groups.isEmpty then none else some now, groups.flatMap fun g => g.map Prod.snd)) := by
  have found : follow [block] (.dict es) = .ok (.dict fields) := (follow_dict plain es).trans (congrArg _ table)
  have ends (groups : List Fields) (now : Value) :
      (if groups.isEmpty then pure (none, []) else pure (some now, groups.flatMap fun g => g.map Prod.snd) :
          Answer (Option Value × List Value)) =
        pure (if groups.isEmpty then none else some now, groups.flatMap fun g => g.map Prod.snd) := by
    cases groups <;> rfl
  unfold updateBlock
  rw [found]
  simp only [ends]
  change (if (!(Value.dict fields).truthy) = true then _ else _) = _
  rw [nonempty]
  rfl

theorem exists_table (nonempty : (blockAt block es).truthy = true)
    (done : updateBlock (.dict es) block list update = .ok now) : ∃ fields, blockAt block es = .dict fields := by
  have found : follow [block] (.dict es) = .ok (blockAt block es) := follow_dict plain es
  unfold updateBlock at done
  rw [found] at done
  obtain ⟨v, same, done⟩ := bind_eq_ok.mp done
  cases same
  rw [nonempty] at done
  cases table : blockAt block es with
  | dict fields => exact ⟨fields, rfl⟩
  | _ =>
    rw [table] at done
    cases done

end

end Blocks

namespace Renewal

variable {update : Fields → Answer Fields} (r : Renewal update)

def GroupFits (group : Value) : Prop :=
  ∃ records, group = .dict records ∧ ∀ e ∈ records, ∃ fields, e.2 = .dict fields ∧ r.Fits fields

def BlockFits (list : String) (block : Value) : Prop :=
  block.truthy = false ∨
    ∃ fields groups, block = .dict fields ∧ (groupsOf list block).items = .ok groups ∧ ∀ g ∈ groups, r.GroupFits g

def group (g : Value) : Fields := g.entries.map fun e => (e.1, .dict (r.renew e.1 e.2.entries))

def family (list : String) (block : Value) : List Value :=
  ((groupsOf list block).items.toOption.getD []).flatMap fun g => (r.group g).map Prod.snd

theorem updateGroup_of_fits {g : Value} (fits : r.GroupFits g) : updateGroup update g = .ok (r.group g) := by
  obtain ⟨_, rfl, each⟩ := fits
  apply mapM_of_ok
  intro e member
  obtain ⟨_, _⟩ := e
  obtain ⟨_, rfl, fit⟩ := each _ member
  exact bind_eq_ok.mpr ⟨_, r.update_of_fits fit, rfl⟩

theorem groupFits_of_updateGroup {g : Value} {records : Fields}
    (done : updateGroup update g = .ok records) : r.GroupFits g := by
  cases g with
  | dict es =>
    refine ⟨es, rfl, fun e member => ?_⟩
    obtain ⟨_, step⟩ := exists_mapM_iff.mp ⟨records, done⟩ e member
    obtain ⟨_, record⟩ := e
    cases record with
    | dict fields =>
      obtain ⟨_, changed, -⟩ := bind_eq_ok.mp step
      exact ⟨fields, rfl, r.fits_of_update changed⟩
    | _ => cases step
  | _ => cases done

theorem family_of_not_truthy {list : String} {block : Value} (empty : block.truthy = false) :
    r.family list block = [] := by
  have none_ : block.entries = [] := by
    cases block with
    | dict es => simpa [Value.truthy, Value.entries] using empty
    | _ => rfl
  rw [family, groupsOf, none_]
  rfl

section

variable {block list : String} {es : Fields} (plain : splitString '.' block = [block])

include plain

theorem updateBlock_of_fits (fits : r.BlockFits list (blockAt block es)) :
    ∃ now, updateBlock (.dict es) block list update = .ok (now, r.family list (blockAt block es)) := by
  cases nonempty : (blockAt block es).truthy with
  | false => exact ⟨none, by rw [updateBlock_empty plain nonempty, r.family_of_not_truthy nonempty]⟩
  | true =>
    obtain ⟨_, groups, table, items, each⟩ := fits.resolve_left (by rw [nonempty]; decide)
    have renewing : groups.mapM (updateGroup update) = .ok (groups.map r.group) :=
      mapM_of_ok fun g member => r.updateGroup_of_fits (each g member)
    have family : r.family list (blockAt block es) = (groups.map r.group).flatMap fun g => g.map Prod.snd := by
      rw [Renewal.family, items, flatMap_map]
      rfl
    rw [updateBlock_table plain table (table ▸ nonempty), ← table, items, family]
    exact ⟨_, bind_eq_ok.mpr ⟨_, rfl, bind_eq_ok.mpr ⟨_, renewing, rfl⟩⟩⟩

theorem blockFits_of_updateBlock (done : updateBlock (.dict es) block list update = .ok now) :
    r.BlockFits list (blockAt block es) := by
  cases nonempty : (blockAt block es).truthy with
  | false => exact .inl nonempty
  | true =>
    obtain ⟨fields, table⟩ := exists_table plain nonempty done
    rw [updateBlock_table plain table (table ▸ nonempty), ← table] at done
    obtain ⟨groups, items, done⟩ := bind_eq_ok.mp done
    obtain ⟨records, each, -⟩ := bind_eq_ok.mp done
    refine .inr ⟨fields, groups, table, items, fun g member => ?_⟩
    obtain ⟨_, changed⟩ := exists_mapM_iff.mp ⟨records, each⟩ g member
    exact r.groupFits_of_updateGroup changed

end

end Renewal

/-! ### Bringing content up to date -/

def profilesOf (es : Fields) : Fields := (blockAt "profiles" es).entries

def calls (es : Fields) : List Value := functions.family "bad_name_sets" (blockAt "blacklist_calls" es)

def imports (es : Fields) : List Value := modules.family "bad_import_sets" (blockAt "blacklist_imports" es)

def Tabled (es : Fields) : Prop := ∀ v, Value.lookup (.str "profiles") es = some v → ∃ ps, v = .dict ps

/-- Profiles and data have the form that bringing them up to date asks for. -/
structure Convertible (es : Fields) : Prop where
  profiles : ∀ e ∈ profilesOf es, Profilable e.2
  calls : functions.BlockFits "bad_name_sets" (blockAt "blacklist_calls" es)
  imports : modules.BlockFits "bad_import_sets" (blockAt "blacklist_imports" es)

def renewProfile (calls imports : List Value) (e : Value × Value) : Value × Value :=
  (e.1, profileRecord calls imports (identified e).2.1 (identified e).2.2)

def overriding : Message := warning "Legacy blacklist data found in config, overriding data plugins"

theorem profilesOf_of_absent (absent : Value.lookup (.str "profiles") es = none) : profilesOf es = [] := by
  rw [profilesOf, blockAt, absent]
  rfl

theorem profilesOf_of_present (present : Value.lookup (.str "profiles") es = some (.dict profiles)) :
    profilesOf es = profiles := by
  rw [profilesOf, blockAt, present]
  rfl

theorem profilesById_tabled (tabled : Tabled es) :
    ((∀ e ∈ profilesOf es, Profilable e.2) → profilesById (.dict es) = .ok ((profilesOf es).map identified)) ∧
      (∀ ids, profilesById (.dict es) = .ok ids → ∀ e ∈ profilesOf es, Profilable e.2) := by
  cases present : Value.lookup (.str "profiles") es with
  | none =>
    rw [profilesOf_of_absent present]
    refine ⟨fun _ => ?_, fun _ _ e member => absurd member not_mem_nil⟩
    unfold profilesById
    rw [follow_dict splitString_profiles, present]
    rfl
  | some v =>
    obtain ⟨profiles, rfl⟩ := tabled v present
    rw [profilesOf_of_present present]
    exact ⟨profilesById_of_profilable present, fun ids => profilable_of_profilesById present⟩

theorem lookup_profiles_putSome (callBlock importBlock : Option Value) (es : Fields) : Value.lookup (.str "profiles")
        (putSome "blacklist_imports" importBlock (putSome "blacklist_calls" callBlock es)) =
      Value.lookup (.str "profiles") es := by
  rw [lookup_putSome (by decide), lookup_putSome (by decide)]

def olderParts (content : Value) :
    Answer (List (Value × Value × Value) × (Option Value × List Value) × (Option Value × List Value)) := do
  let profiles ← profilesById content
  let functions ← updateBlock content "blacklist_calls" "bad_name_sets" updateFunctions
  let modules ← updateBlock content "blacklist_imports" "bad_import_sets" updateModules
  return (profiles, functions, modules)

theorem modernize_of_fault {content : Value} {fault : Fault} (broken : olderParts content = .error fault) (log : Log) :
    (modernize content).run log = .error (.fault fault) log := by
  -- the parts are asked for one after the other, and the first fault is that of them all
  unfold modernize
  unfold olderParts at broken
  cases identified : profilesById content with
  | error first =>
    rw [identified] at broken
    cases broken
    rfl
  | ok ids =>
    rw [identified] at broken
    simp only
    rw [Loading.run_ofAnswer_bind]
    cases called : updateBlock content "blacklist_calls" "bad_name_sets" updateFunctions with
    | error second =>
      rw [called] at broken
      cases broken
      rfl
    | ok functions =>
      rw [called] at broken
      simp only
      cases imported : updateBlock content "blacklist_imports" "bad_import_sets" updateModules with
      | error third =>
        rw [imported] at broken
        cases broken
        rfl
      | ok modules =>
        rw [imported] at broken
        cases broken

theorem modernize_of_olderParts {profiles : List (Value × Value × Value)} {callBlock importBlock : Option Value}
    {calls imports : List Value}
    (found : olderParts (.dict es) = .ok (profiles, (callBlock, calls), (importBlock, imports))) (log : Log) :
    ∃ now, (modernize (.dict es)).run log =
        .ok (.dict now) (if calls.isEmpty && imports.isEmpty then log else log ++ [overriding]) ∧
      Value.lookup (.str "profiles") now = if profiles.isEmpty then Value.lookup (.str "profiles") es
        else some (.dict (profiles.map fun (name, inc, exc) => (name, profileRecord calls imports inc exc))) := by
  simp only [olderParts, bind_eq_ok, pure_eq_ok, Prod.mk.injEq] at found
  obtain ⟨profiles, identified, _, called, _, imported, rfl, rfl, rfl⟩ := found
  unfold modernize
  rw [identified, called, imported]
  simp only [Loading.run_ofAnswer_bind]
  refine ⟨if profiles.isEmpty then putSome "blacklist_imports" importBlock (putSome "blacklist_calls" callBlock es)
    else Value.put (.str "profiles") (.dict (profiles.map fun (name, inc, exc) =>
      (name, profileRecord calls imports inc exc)))
        (putSome "blacklist_imports" importBlock (putSome "blacklist_calls" callBlock es)), ?_, ?_⟩
  · cases calls.isEmpty <;> cases imports.isEmpty <;> cases profiles.isEmpty <;> rfl
  · cases profiles.isEmpty with
    | true => exact lookup_profiles_putSome callBlock importBlock es
    | false => exact Value.lookup_put_self ..

/-- Content of the right form gets profiles of the present form, and data with messages. -/
theorem modernize_of_convertible (tabled : Tabled es) (fits : Convertible es) (log : Log) :
    ∃ now, (modernize (.dict es)).run log =
        .ok (.dict now) (if (calls es).isEmpty && (imports es).isEmpty then log else log ++ [overriding]) ∧
      Value.lookup (.str "profiles") now = (Value.lookup (.str "profiles") es).map fun _ =>
        .dict ((profilesOf es).map (renewProfile (calls es) (imports es))) := by
  obtain ⟨callBlock, called⟩ := functions.updateBlock_of_fits splitString_calls fits.calls
  obtain ⟨importBlock, imported⟩ := modules.updateBlock_of_fits splitString_imports fits.imports
  have found : olderParts (.dict es) =
      .ok ((profilesOf es).map identified, (callBlock, calls es), (importBlock, imports es)) := by
    simp only [olderParts, bind_eq_ok, pure_eq_ok]
    exact ⟨_, (profilesById_tabled tabled).1 fits.profiles, _, called, _, imported, rfl⟩
  obtain ⟨now, ends, profiles⟩ := modernize_of_olderParts found log
  refine ⟨now, ends, profiles.trans ?_⟩
  rw [map_map, isEmpty_map]
  cases present : Value.lookup (.str "profiles") es with
  | none =>
    rw [profilesOf_of_absent present]
    rfl
  | some v =>
    obtain ⟨all, rfl⟩ := tabled v present
    rw [profilesOf_of_present present]
    cases all <;> rfl

theorem modernize_of_not_convertible (tabled : Tabled es) (unfit : ¬ Convertible es) (log : Log) :
    ∃ fault, (modernize (.dict es)).run log = .error (.fault fault) log := by
  cases found : olderParts (.dict es) with
  | error fault => exact ⟨fault, modernize_of_fault found log⟩
  | ok parts =>
    simp only [olderParts, bind_eq_ok, pure_eq_ok] at found
    obtain ⟨ids, identified, _, called, _, imported, -⟩ := found
    have fits : Convertible es :=
      ⟨(profilesById_tabled tabled).2 ids identified, functions.blockFits_of_updateBlock splitString_calls called,
        modules.blockFits_of_updateBlock splitString_imports imported⟩
    exact absurd fits unfit

end Settings

end SourceAudit
