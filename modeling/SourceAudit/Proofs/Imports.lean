import SourceAudit.Proofs.Banned

/-! What is reported for an import statement, by any data on banned modules. The search ends with the first thing
found. -/

namespace SourceAudit

open List

def firstAnswer {α β : Type} (ask : α → Answer (Option β)) : List α → Answer (Option β)
  | [] => .ok none
  | a :: rest => do
    match ← ask a with
    | some b => return some b
    | none => firstAnswer ask rest

section FirstAnswer

variable {α β γ : Type} {ask : α → Answer (Option β)} {items : List α}

theorem firstAnswer_cons {a : α} {rest : List α} : firstAnswer ask (a :: rest) = match ask a with
    | .error fault => .error fault
    | .ok (some b) => .ok (some b)
    | .ok none => firstAnswer ask rest := by
  rw [firstAnswer]
  rcases ask a with fault | _ | b <;> rfl

theorem firstAnswer_singleton (a : α) : firstAnswer ask [a] = ask a := by
  rw [firstAnswer_cons]
  rcases ask a with _ | _ | b <;> rfl

theorem firstAnswer_map (f : γ → α) (others : List γ) :
    firstAnswer ask (others.map f) = firstAnswer (fun c => ask (f c)) others := by
  induction others with
  | nil => rfl
  | cons c rest ih => rw [map_cons, firstAnswer_cons, firstAnswer_cons, ih]

theorem firstAnswer_eq_none_iff : firstAnswer ask items = .ok none ↔ ∀ a ∈ items, ask a = .ok none := by
  induction items with
  | nil => simp [firstAnswer]
  | cons a rest ih =>
    rw [firstAnswer_cons, forall_mem_cons, ← ih]
    rcases ask a with _ | _ | b <;> simp

theorem exists_of_firstAnswer {answer : Answer (Option β)} (telling : answer ≠ .ok none)
    (found : firstAnswer ask items = answer) : ∃ a ∈ items, ask a = answer := by
  induction items with
  | nil => exact absurd found.symm telling
  | cons a rest ih =>
    rw [firstAnswer_cons] at found
    rcases asked : ask a with _ | _ | b
    · exact ⟨a, mem_cons_self, by rw [asked, ← found, asked]⟩
    · rw [asked] at found
      obtain ⟨c, mem, own⟩ := ih found
      exact ⟨c, mem_cons_of_mem a mem, own⟩
    · exact ⟨a, mem_cons_self, by rw [asked, ← found, asked]⟩

theorem brings_firstAnswer {yes : α → Prop} (each : ∀ a ∈ items, Brings (ask a) fun found => found.isSome ↔ yes a) :
    Brings (firstAnswer ask items) fun found => found.isSome ↔ ∃ a ∈ items, yes a := by
  induction items with
  | nil => exact ⟨none, rfl, by simp⟩
  | cons a rest ih =>
    obtain ⟨⟨found, asked, here⟩, later⟩ := forall_mem_cons.mp each
    rw [firstAnswer_cons, asked]
    cases found with
    | some b => exact ⟨some b, rfl, by simp [← here]⟩
    | none =>
      obtain ⟨found, searched, behind⟩ := ih later
      exact ⟨found, searched, by simpa [← here] using behind⟩

variable (ask) in
theorem forIn_eq_firstAnswer {step : α → Option (Option β) × Unit → Answer (ForInStep (Option (Option β) × Unit))}
    (each : ∀ a s, step a s = (ask a).map fun
      | some b => .done (some (some b), ())
      | none => .yield (none, ())) :
    forIn items (none, ()) step = (firstAnswer ask items).map fun found => (found.map some, ()) := by
  induction items with
  | nil => rfl
  | cons a rest ih =>
    rw [forIn_cons, each, firstAnswer_cons]
    rcases ask a with _ | _ | b
    · rfl
    · exact ih
    · rfl

theorem exists_name_of_firstAnswer {ask : γ → α → Answer (Option β)} {names : List α} {records : List γ}
    {answer : Answer (Option β)} (telling : answer ≠ .ok none)
    (found : firstAnswer (fun record => firstAnswer (ask record) names) records = answer) :
    ∃ name ∈ names, firstAnswer (fun record => ask record name) records = answer := by
  induction records with
  | nil => exact absurd found.symm telling
  | cons record rest ih =>
    rw [firstAnswer_cons] at found
    by_cases silent : firstAnswer (ask record) names = .ok none
    · rw [silent] at found
      obtain ⟨name, mem, own⟩ := ih found
      refine ⟨name, mem, ?_⟩
      rw [firstAnswer_cons, firstAnswer_eq_none_iff.mp silent name mem]
      exact own
    · obtain ⟨name, mem, own⟩ := exists_of_firstAnswer silent rfl
      refine ⟨name, mem, ?_⟩
      rw [firstAnswer_cons, own, ← found]
      rcases asked : firstAnswer (ask record) names with _ | _ | b
      · rfl
      · exact absurd asked silent
      · rfl

end FirstAnswer

namespace Rule

def compared {α : Type} (accepts : α → Value → Answer Bool) (report : α → Value) (record : Value) (name : α)
    (listed : Value) : Answer (Option Issue) := do
  if ← accepts name listed then return some (← bannedIssue record (report name)) else return none

def searched {α : Type} (accepts : α → Value → Answer Bool) (report : α → Value) (record : Value) (name : α) :
    Answer (Option Issue) := do
  firstAnswer (compared accepts report record name) (← (← record.entry "qualnames").items)

theorem firstBanned_eq {α : Type} (records : List Value) (names : List α) (accepts : α → Value → Answer Bool)
    (report : α → Value) : firstBanned records names accepts report =
      firstAnswer (fun record => firstAnswer (searched accepts report record) names) records := by
  unfold firstBanned
  rw [forIn_eq_firstAnswer fun record => firstAnswer (searched accepts report record) names]
  · rcases firstAnswer _ records with fault | _ | i <;> rfl
  · intro record _
    rw [forIn_eq_firstAnswer (searched accepts report record)]
    · rcases firstAnswer _ names with fault | _ | i <;> rfl
    · intro name _
      unfold searched
      rcases record.entry "qualnames" with fault | v
      · rfl
      · change (v.items >>= _) = Except.map _ (v.items >>= _)
        rcases v.items with fault | items
        · rfl
        · change (forIn items _ _ >>= _) = Except.map _ (firstAnswer _ items)
          rw [forIn_eq_firstAnswer (compared accepts report record name)]
          · rcases firstAnswer _ items with fault | _ | i <;> rfl
          · intro q _
            unfold compared
            rcases accepts name q with fault | _ | _
            · rfl
            · rfl
            · rcases bannedIssue record (report name) with fault | i <;> rfl

end Rule

/-- An import statement at some place, its names left open. -/
structure Importing where
  context : Context := {}
  span : Span := ⟨1, 0, 1, 0⟩
  /-- The module from which names are imported, and its level; none if whole modules are imported. -/
  source : Option (Option String × Nat) := none

namespace Importing

def statement (s : Importing) (names : List Node) : Node :=
  match s.source with
  | none => .importStmt s.span names
  | some (origin, level) => .importFrom s.span origin names level

def dotted (s : Importing) (id : String) : Text :=
  match s.source with
  | some (some origin, _) => Text.ofString (origin ++ ".") ++ Text.ofString id
  | _ => Text.ofString id

def kind (s : Importing) : String := (s.statement []).kind

/-- What the rule for banned things says about the statement with these names. -/
def ask (s : Importing) (data : Value) (names : List Node) : Answer (Option Issue) :=
  Rule.blacklistRun { s.context with node := some (s.statement names) } data

/-- The ids that are reported for the statement with these names. -/
def ids (s : Importing) (data : Value) (names : List Node) : Set String :=
  {id | ∃ i, s.ask data names = .ok (some i) ∧ i.testId = id}

/-- The ids that are reported if the statement is cut down to each of the names in turn. -/
def idsAlone (s : Importing) (data : Value) (names : List Node) : Set String := ⋃ name ∈ names, s.ids data [name]

variable {s : Importing} {data : Value} {names : List Node}

theorem ask_eq : s.ask data names = (data.entry s.kind >>= Value.items) >>= fun records =>
    firstAnswer (fun record =>
      firstAnswer (Rule.searched (fun id mem => mem.beginsWith (s.dotted id)) .str record)
        (Rule.blacklistRun.importedNames names)) records := by
  simp only [← Rule.firstBanned_eq, bind_assoc]
  obtain ⟨_, _, _ | ⟨_ | _, _⟩⟩ := s <;> rfl

theorem exists_name_of_ask {answer : Answer (Option Issue)} (telling : answer ≠ .ok none)
    (given : ¬ Answered answer → names ≠ []) (found : s.ask data names = answer) :
    ∃ name ∈ names, s.ask data [name] = answer := by
  simp only [ask_eq] at found ⊢
  generalize data.entry s.kind >>= Value.items = read at found ⊢
  rcases read with fault | _
  · have failed : ¬ Answered answer := not_answered_iff.mpr ⟨fault, found.symm⟩
    obtain ⟨name, _, rfl⟩ := exists_cons_of_ne_nil (given failed)
    exact ⟨name, mem_cons_self, found⟩
  · obtain ⟨_, mem, own⟩ := exists_name_of_firstAnswer telling found
    obtain ⟨name, member, same⟩ := mem_filterMap.mp mem
    refine ⟨name, member, ?_⟩
    simp only [Rule.blacklistRun.importedNames, filterMap_cons, same, filterMap_nil, firstAnswer_singleton]
    exact own

theorem ask_name_of_none (found : s.ask data names = .ok none) : ∀ name ∈ names, s.ask data [name] = .ok none := by
  intro name member
  simp only [ask_eq] at found ⊢
  generalize data.entry s.kind >>= Value.items = read at found ⊢
  rcases read with _ | records
  · cases found
  · change firstAnswer _ records = _ at found
    change firstAnswer _ records = _
    simp only [firstAnswer_eq_none_iff] at found ⊢
    intro record mem id own
    obtain ⟨only, same, named⟩ := mem_filterMap.mp own
    exact found record mem id (mem_filterMap.mpr ⟨only, mem_singleton.mp same ▸ member, named⟩)

theorem mem_idsAlone {id : String} : id ∈ s.idsAlone data names ↔ ∃ name ∈ names, id ∈ s.ids data [name] := by
  simp only [idsAlone, Set.mem_iUnion, exists_prop]

theorem ids_subset : s.ids data names ⊆ s.idsAlone data names := by
  rintro id ⟨i, found, named⟩
  obtain ⟨name, member, own⟩ := exists_name_of_ask (by rintro ⟨⟩) (absurd (answered_ok (some i))) found
  exact mem_idsAlone.mpr ⟨name, member, i, own, named⟩

theorem idsAlone_of_none (found : s.ask data names = .ok none) : s.idsAlone data names = ∅ := by
  rw [Set.eq_empty_iff_forall_notMem]
  intro id mem
  obtain ⟨name, member, i, reported, -⟩ := mem_idsAlone.mp mem
  rw [ask_name_of_none found name member] at reported
  cases reported

theorem ids_of_report {i : Issue} (found : s.ask data names = .ok (some i)) : s.ids data names = {i.testId} := by
  simp [ids, found, eq_comm]

variable (s data names) in
/-- A statement is reported for one of its names at most. So the ids reported for it are those of its names exactly if
these agree and no name keeps the rule from an answer while another is reported. The rule answers if it does for each
name, and reports the statement exactly if it reports one. -/
theorem ids_eq_iff : s.ids data names ⊆ s.idsAlone data names ∧
    (s.ids data names = s.idsAlone data names ↔
      (s.idsAlone data names).Subsingleton ∧ ((s.idsAlone data names).Nonempty → Answered (s.ask data names))) ∧
    (names ≠ [] → (∀ name ∈ names, Answered (s.ask data [name])) →
      Answered (s.ask data names) ∧ ((s.ids data names).Nonempty ↔ (s.idsAlone data names).Nonempty)) := by
  refine ⟨ids_subset, ?_⟩
  rcases found : s.ask data names with fault | _ | i
  · have nothing : s.ids data names = ∅ := by simp [ids, found]
    have failed : ¬ Answered (Except.error fault : Answer (Option Issue)) := not_answered_iff.mpr ⟨fault, rfl⟩
    constructor
    · rw [nothing]
      constructor
      · intro same
        rw [← same]
        exact ⟨Set.subsingleton_empty, fun ⟨id, listed⟩ => absurd listed (Set.notMem_empty id)⟩
      · rintro ⟨-, answered⟩
        exact (Set.not_nonempty_iff_eq_empty.mp fun reported => failed (answered reported)).symm
    · intro given each
      obtain ⟨name, member, own⟩ := exists_name_of_ask (by rintro ⟨⟩) (fun _ => given) found
      exact absurd (own ▸ each name member) failed
  · have nothing : s.ids data names = ∅ := by simp [ids, found]
    rw [nothing, idsAlone_of_none found]
    simp [answered_ok]
  · have alone : i.testId ∈ s.idsAlone data names := ids_subset ⟨i, found, rfl⟩
    rw [ids_of_report found]
    refine ⟨⟨fun same => ?_, fun ⟨one, _⟩ => ?_⟩, fun _ _ => ⟨answered_ok _, ?_⟩⟩
    · rw [← same]
      exact ⟨Set.subsingleton_singleton, fun _ => answered_ok _⟩
    · exact (one.eq_singleton_of_mem alone).symm
    · exact iff_of_true (Set.singleton_nonempty _) ⟨_, alone⟩

def modules (ids : List String) : List Node := ids.map fun id => .importedName ⟨1, 0, 1, 0⟩ id none

theorem exists_report_of_testId {id : String} (found : (s.ask data names).toOption.join.map Issue.testId = some id) :
    ∃ i, s.ask data names = .ok (some i) ∧ i.testId = id := by
  generalize s.ask data names = answer at found
  rcases answer with _ | _ | i
  · cases found
  · cases found
  · exact ⟨i, rfl, Option.some.inj found⟩

theorem pickle_dill_reported : "B403" ∈ ids {} Banned.data (modules ["pickle", "dill"]) ∧
    ids {} Banned.data (modules ["pickle", "dill"]) = idsAlone {} Banned.data (modules ["pickle", "dill"]) := by
  have whole : (ask {} Banned.data (modules ["pickle", "dill"])).toOption.join.map Issue.testId = some "B403" := by
    decide +kernel
  have each : ∀ name ∈ modules ["pickle", "dill"],
      (ask {} Banned.data [name]).toOption.join.map Issue.testId = some "B403" := by
    decide +kernel
  obtain ⟨i, found, named⟩ := exists_report_of_testId whole
  have same : ∀ id ∈ idsAlone {} Banned.data (modules ["pickle", "dill"]), id = "B403" := by
    intro id listed
    obtain ⟨name, member, j, reported, rfl⟩ := mem_idsAlone.mp listed
    have own := each name member
    rw [reported] at own
    exact Option.some.inj own
  refine ⟨⟨i, found, named⟩, (ids_eq_iff {} Banned.data (modules ["pickle", "dill"])).2.1.mpr ⟨?_, fun _ => ?_⟩⟩
  · intro a left b right
    rw [same a left, same b right]
  · rw [found]
    exact answered_ok _

/-- A module that is reported by itself is not reported behind another that is. -/
theorem subprocess_hidden : "B404" ∈ idsAlone {} Banned.data (modules ["pickle", "subprocess"]) ∧
    "B404" ∉ ids {} Banned.data (modules ["pickle", "subprocess"]) := by
  have first : (ask {} Banned.data (modules ["pickle", "subprocess"])).toOption.join.map Issue.testId = "B403" := by
    decide +kernel
  have second : (ask {} Banned.data (modules ["subprocess"])).toOption.join.map Issue.testId = some "B404" := by
    decide +kernel
  constructor
  · exact mem_idsAlone.mpr ⟨_, mem_cons_of_mem _ mem_cons_self, exists_report_of_testId second⟩
  · obtain ⟨i, found, named⟩ := exists_report_of_testId first
    rw [ids_of_report found, named]
    decide

/-- A qualified name covers a dotted name if it is this name or stands in front of one of its dots. -/
def Covers (q m : Text) : Prop := q = m ∨ q ++ Text.ofString "." <+: m

instance (q m : Text) : Decidable (Covers q m) := inferInstanceAs (Decidable (q = m ∨ q ++ Text.ofString "." <+: m))

/-- The data list these records for a kind of places, each with its qualified names and a message. -/
structure Listed (data : Value) (kind : String) (checks : List (Value × List Text)) : Prop where
  records : data.entry kind >>= Value.items = .ok (checks.map Prod.fst)
  names : ∀ check ∈ checks, check.1.entry "qualnames" = .ok (.list (check.2.map .text))
  message : ∀ check ∈ checks, ∃ t, check.1.entry "message" = .ok (.text t)

variable {checks : List (Value × List Text)}

theorem brings_ask (mem : Listed data s.kind checks) (place : Span) (id : String) (asName : Option String) :
    Brings (s.ask data [.importedName place id asName]) fun found =>
      found.isSome ↔ ∃ check ∈ checks, ∃ q ∈ check.2, q <+: s.dotted id := by
  rw [ask_eq, mem.records]
  change Brings (firstAnswer _ (checks.map Prod.fst)) _
  rw [firstAnswer_map]
  apply brings_firstAnswer
  intro check member
  obtain ⟨t, message⟩ := mem.message check member
  change Brings (firstAnswer _ [id]) _
  rw [firstAnswer_singleton, Rule.searched, mem.names check member]
  change Brings (firstAnswer _ (check.2.map Value.text)) _
  rw [firstAnswer_map]
  apply brings_firstAnswer
  intro q _
  change Brings (Except.ok (q.isPrefixOf (s.dotted id)) >>= _) _
  rw [← isPrefixOf_iff_prefix]
  cases q.isPrefixOf (s.dotted id) with
  | false => exact ⟨none, rfl, by simp⟩
  | true =>
    obtain ⟨i, reported, -⟩ := Rule.answered_bannedIssue message (Text.ofString id)
    exact ⟨some i, by simp [reported, Value.str, bind, Except.bind, pure, Except.pure], by simp⟩

/-- The start of a dotted name is compared, so the components decide exactly if a qualified name covers it, or it begins
with none. -/
theorem import_reported_iff (listed : Listed data s.kind checks) (place : Span) (id : String) (asName : Option String) :
    ∃ answer, s.ask data [.importedName place id asName] = .ok answer ∧
      (answer.isSome ↔ ∃ check ∈ checks, ∃ q ∈ check.2, q <+: s.dotted id) ∧
      ((answer.isSome ↔ ∃ check ∈ checks, ∃ q ∈ check.2, Covers q (s.dotted id)) ↔
        (∃ check ∈ checks, ∃ q ∈ check.2, Covers q (s.dotted id)) ∨
          ∀ check ∈ checks, ∀ q ∈ check.2, ¬ q <+: s.dotted id) := by
  obtain ⟨answer, asked, found⟩ := brings_ask listed place id asName
  refine ⟨answer, asked, found, ?_⟩
  have begins : (∃ check ∈ checks, ∃ q ∈ check.2, Covers q (s.dotted id)) →
      ∃ check ∈ checks, ∃ q ∈ check.2, q <+: s.dotted id := by
    rintro ⟨check, member, q, named, same | before⟩
    · exact ⟨check, member, q, named, same ▸ prefix_rfl⟩
    · exact ⟨check, member, q, named, (prefix_append q _).trans before⟩
  rw [found]
  by_cases covered : ∃ check ∈ checks, ∃ q ∈ check.2, Covers q (s.dotted id)
  · simp only [covered, begins covered, true_or]
  · simp only [covered, iff_false, false_or, not_exists, not_and]

def moduleChecks : List (Value × List Text) := Banned.modules.map fun b => (b.record, b.qualnames.map Text.ofString)

theorem listed_modules : Listed Banned.data "Import" moduleChecks where
  records := by
    rfl
  names := by
    intro check member
    obtain ⟨b, -, rfl⟩ := mem_map.mp member
    rw [b.entry_record.1, namesValue, map_map]
    rfl
  message := by
    intro check member
    obtain ⟨b, -, rfl⟩ := mem_map.mp member
    exact ⟨_, b.entry_record.2⟩

theorem mem_moduleChecks {p : Text → Prop} :
    (∃ check ∈ moduleChecks, ∃ q ∈ check.2, p q) ↔ ∃ b ∈ Banned.modules, ∃ q ∈ b.qualnames, p (Text.ofString q) := by
  simp [moduleChecks]

theorem handler_reported : Listed Banned.data "Import" moduleChecks ∧
    ∃ i, ask {} Banned.data (modules ["xml.sax.handler"]) = .ok (some i) := by
  have begins : ∃ b ∈ Banned.modules, ∃ q ∈ b.qualnames, Text.ofString q <+: dotted {} "xml.sax.handler" := by
    decide +kernel
  obtain ⟨_, asked, found, -⟩ :=
    import_reported_iff (show Listed Banned.data (kind {}) _ from listed_modules) ⟨1, 0, 1, 0⟩ "xml.sax.handler" none
  obtain ⟨i, rfl⟩ := Option.isSome_iff_exists.mp (found.mpr (mem_moduleChecks.mpr begins))
  exact ⟨listed_modules, i, asked⟩

/-- A module is reported whose name only begins like that of a banned one. -/
theorem pickleshare_reported : Listed Banned.data "Import" moduleChecks ∧
    (∃ i, ask {} Banned.data (modules ["pickleshare"]) = .ok (some i)) ∧
    ¬ ∃ check ∈ moduleChecks, ∃ q ∈ check.2, Covers q "pickleshare" := by
  have found : (ask {} Banned.data (modules ["pickleshare"])).toOption.join.map Issue.testId = some "B403" := by
    decide +kernel
  have uncovered : ¬ ∃ b ∈ Banned.modules, ∃ q ∈ b.qualnames, Covers (Text.ofString q) "pickleshare" := by
    decide +kernel
  obtain ⟨i, reported, -⟩ := exists_report_of_testId found
  exact ⟨listed_modules, ⟨i, reported⟩, fun covered => uncovered (mem_moduleChecks.mp covered)⟩

end Importing

end SourceAudit
