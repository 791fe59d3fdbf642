import SourceAudit.Proofs.Independence
import SourceAudit.Proofs.Robustness

/-! Which rules a profile selects: those of the catalogue that are wanted, and behind them the rule for banned things.
-/

namespace SourceAudit

open List RuleSet Catalogue Rule

namespace Profile

def Means (ids : List Text) (id : Text) : Prop :=
  id ∈ ids ∧ id ≠ Text.ofString Catalogue.blacklistId ∨
    Text.ofString Catalogue.blacklistId ∈ ids ∧ (∀ b ∈ bannedIds, b ∉ ids) ∧ id ∈ bannedIds

/-- A profile wants an id that its inclusions mean, or any known id if they mean none, unless its exclusions mean it. -/
def Wants (p : Profile) (id : Text) : Prop :=
  (Means p.includes id ∨ (∀ other, ¬ Means p.includes other) ∧ id ∈ allIds) ∧ ¬ Means p.excludes id

theorem mem_spellOut {ids : List Text} {id : Text} : id ∈ spellOut ids ↔ Means ids id := by
  unfold spellOut Means
  by_cases general : Text.ofString Catalogue.blacklistId ∈ ids
  · by_cases some_ : ∃ b ∈ bannedIds, b ∈ ids
    · have named : (ids.any bannedIds.contains) = true := by
        obtain ⟨b, banned, mem⟩ := some_
        exact any_eq_true.mpr ⟨b, mem, List.contains_iff_mem.mpr banned⟩
      have someNamed : ¬ ∀ b ∈ bannedIds, b ∉ ids := by simpa using some_
      simp [general, named, someNamed]
    · have noneNamed : ∀ b ∈ bannedIds, b ∉ ids := by simpa using some_
      have unnamed : (ids.any bannedIds.contains) = false := by
        rw [any_eq_false]
        intro b mem
        rw [List.contains_iff_mem]
        exact fun banned => noneNamed b banned mem
      simp only [general, unnamed, eq_true noneNamed, List.contains_iff_mem]
      simp
  · have absent : id ∈ ids → id ≠ Text.ofString Catalogue.blacklistId := by
      intro mem is
      exact general (is ▸ mem)
    simpa [general] using absent

theorem mem_selected {p : Profile} {id : Text} : id ∈ p.selected ↔ p.Wants id := by
  have empty : (spellOut p.includes).isEmpty = true ↔ ∀ other, ¬ Means p.includes other := by
    rw [List.isEmpty_iff, List.eq_nil_iff_forall_not_mem]
    simp only [mem_spellOut]
  unfold selected Wants
  rw [List.mem_filter, Bool.not_eq_true', ← Bool.not_eq_true, List.contains_iff_mem, mem_spellOut]
  apply and_congr_left
  intro _
  split
  · rename_i nothing
    have unmeant := empty.mp nothing
    simp [unmeant]
  · rename_i something
    have meant := mt empty.mpr something
    rw [mem_spellOut]
    simp only [meant, false_and, or_false]

instance (p : Profile) (id : Text) : Decidable (p.Wants id) := decidable_of_iff (id ∈ p.selected) mem_selected

/-- The banned things that are wanted at a kind of place. -/
def bannedAt (p : Profile) (check : String) : List Banned :=
  ((Banned.byCheck.lookup check).getD []).filter fun b => p.Wants b.id

theorem lookup_filterMap_kept {table : List (String × List Banned)} (distinct : (table.map Prod.fst).Nodup)
    (keep : Banned → Bool) (check : String) :
    Value.lookup (.str check) (table.filterMap fun (kind, bs) =>
      let kept := bs.filter keep
      if kept.isEmpty then none else some (.str kind, .list (kept.map Banned.record))) =
    let kept := ((table.lookup check).getD []).filter keep
    if kept.isEmpty then none else some (.list (kept.map Banned.record)) := by
  induction table with
  | nil => rfl
  | cons entry rest ih =>
    obtain ⟨kind, bs⟩ := entry
    rw [map_cons, nodup_cons] at distinct
    have later := ih distinct.2
    by_cases same : kind = check
    · subst same
      have gone : rest.lookup kind = none := by
        rw [lookup_eq_none_iff]
        intro other mem
        have apart : kind ≠ other.1 := fun is => distinct.1 (mem_map.mpr ⟨other, mem, is.symm⟩)
        simpa using apart
      by_cases none_ : (bs.filter keep).isEmpty = true
      · rw [filterMap_cons]
        simpa [none_, gone] using later
      · rw [filterMap_cons]
        simp [none_, Value.lookup, Value.equals_str_iff.mpr rfl]
    · have other : (Value.str kind).equals (.str check) ≠ true := by
        intro is
        exact same (Value.str_inj.mp (Value.equals_str_iff.mp is))
      have skipped : ((kind, bs) :: rest).lookup check = rest.lookup check := by
        have differs : (check == kind) = false := beq_eq_false_iff_ne.mpr (Ne.symm same)
        rw [lookup_cons, differs]
      rw [filterMap_cons, skipped]
      by_cases none_ : (bs.filter keep).isEmpty = true
      · simpa [none_] using later
      · simpa [none_, Value.lookup, other] using later

theorem get?_bannedData {p : Profile} (plain : p.blacklist.truthy = false) (check : String) : p.bannedData.get? check =
      if (p.bannedAt check).isEmpty then none else some (.list ((p.bannedAt check).map Banned.record)) := by
  have wanted (b : Banned) : p.selected.contains (b.id : Text) = decide (p.Wants b.id) := by
    rw [Bool.eq_iff_iff, List.contains_iff_mem, mem_selected, decide_eq_true_iff]
  unfold bannedData bannedAt
  rw [if_neg (by simp [plain])]
  simp only [wanted]
  exact lookup_filterMap_kept (by decide) _ check

end Profile

namespace RuleSet

variable {p : Profile} {check : String}

theorem forCheck_of_banned (plain : p.blacklist.truthy = false) : ∃ kinds extra, banned p.bannedData = .ok extra ∧
      ∀ check, RuleSet.forCheck extra check =
        if (p.bannedAt check).isEmpty then [] else [⟨Rule.blacklist kinds, p.bannedData⟩] := by
  have data : ∃ entries, p.bannedData = .dict entries ∧ ∀ e ∈ entries, ∃ kind, e.1 = .str kind := by
    unfold Profile.bannedData
    rw [if_neg (by simp [plain])]
    refine ⟨_, rfl, ?_⟩
    intro e mem
    obtain ⟨⟨kind, _⟩, -, kept⟩ := mem_filterMap.mp mem
    dsimp only at kept
    split at kept
    · cases kept
    · exact ⟨kind, (congrArg Prod.fst (Option.some.inj kept)).symm⟩
  obtain ⟨entries, is, named⟩ := data
  have kinds (check : String) : (entries.map fun e => e.1.display.toStringLossy).contains check =
      (p.bannedData.get? check).isSome := by
    rw [is, Value.get?, ← Value.any_equals_str, Bool.eq_iff_iff, List.contains_iff_mem, mem_map, any_eq_true]
    constructor
    · rintro ⟨e, mem, rfl⟩
      obtain ⟨kind, key⟩ := named e mem
      refine ⟨e, mem, ?_⟩
      rw [key, Value.equals_str_iff]
      exact congrArg Value.str (Text.toStringLossy_ofString kind).symm
    · rintro ⟨e, mem, same⟩
      refine ⟨e, mem, ?_⟩
      rw [Value.equals_str_iff.mp same]
      exact Text.toStringLossy_ofString check
  refine ⟨entries.map fun e => e.1.display.toStringLossy, ?_⟩
  cases entries with
  | nil =>
    refine ⟨[], by rw [is]; rfl, ?_⟩
    intro check
    have nothing := Profile.get?_bannedData plain check
    rw [is] at nothing
    split
    · rfl
    · rename_i some_
      rw [if_neg some_] at nothing
      cases nothing
  | cons e rest =>
    refine ⟨[_], by rw [is]; rfl, ?_⟩
    intro check
    rw [forCheck, filter_singleton]
    have there := kinds check
    rw [Profile.get?_bannedData plain] at there
    simp only [Rule.blacklist, there, is]
    split
    · rfl
    · rfl

theorem answered_configure (es : Fields) {r : Rule} (mem : r ∈ Catalogue.rules) :
    Answered (configure (Settings.option ⟨.dict es⟩) r) := by
  have blocks := plain_blocks r mem
  unfold configure
  cases block : r.settings with
  | none => exact answered_ok _
  | some own =>
    rw [block] at blocks
    simp only [Option.map_some, Option.all_some, Bool.and_eq_true, beq_iff_eq] at blocks
    dsimp only
    rw [Settings.option_dict blocks.1.1]
    apply Brings.bind (answered_ok _)
    intro v _
    split
    · exact answered_pure _
    · exact answered_pure _

theorem exists_configured (p : Profile) (es : Fields) :
    ∃ active, (Catalogue.rules.filter fun r => p.selected.contains r.id).mapM
      (configure (Settings.option ⟨.dict es⟩)) = .ok active := by
  rw [Answers.exists_mapM_iff]
  intro r chosen
  obtain ⟨a, set, -⟩ := answered_configure es (List.mem_filter.mp chosen).1
  exact ⟨a, set⟩

theorem sorted_catalogue : (Catalogue.rules.map Rule.name).Pairwise (· < ·) := by decide +kernel

theorem nodup_catalogue : (Catalogue.blacklistId :: Catalogue.rules.map Rule.id).Nodup := by decide +kernel

theorem map_rule_forCheck {option : String → Answer Value} {active : RuleSet}
    (configured : (Catalogue.rules.filter fun r => p.selected.contains r.id).mapM (configure option) = .ok active)
    (check : String) : (RuleSet.forCheck active check).map ActiveRule.rule =
      Catalogue.rules.filter fun r => decide (check ∈ r.checks ∧ p.Wants r.id) := by
  have rules : active.map ActiveRule.rule = Catalogue.rules.filter fun r => p.selected.contains r.id := by
    have kept := Answers.map_eq_of_mapM (g := ActiveRule.rule) (h := id) configured fun r a set => rule_configure set
    rwa [map_id] at kept
  have looks : (fun r : ActiveRule => r.rule.checks.contains check) =
      (fun r : Rule => r.checks.contains check) ∘ ActiveRule.rule := rfl
  rw [forCheck, looks, ← filter_map, rules, filter_filter]
  apply filter_congr
  intro r _
  rw [Bool.eq_iff_iff, Bool.and_eq_true, List.contains_iff_mem, List.contains_iff_mem, Profile.mem_selected,
    decide_eq_true_iff]

end RuleSet

namespace Session

/-- With every profile without data of its own a session can be created. At a kind of place its rules are those of the
catalogue that look there and are wanted, by name, and then the one for the banned things wanted there, with just their
records. No rule comes twice. -/
theorem create_selects {settings : Settings} {es : List (Value × Value)} (content : settings.content = .dict es)
    {record : Value} {p : Profile} (read : Profile.ofValue record = .ok p) (plain : p.blacklist.truthy = false) :
    ∃ s kinds data, create settings record = .ok s ∧
      (∀ check, data.get? check = if (p.bannedAt check).isEmpty then none
        else some (.list ((p.bannedAt check).map Banned.record))) ∧
      ∀ check, ((s.rules.forCheck check).map fun r => r.rule.id).Nodup ∧
        ∃ own, s.rules.forCheck check =
            own ++ (if (p.bannedAt check).isEmpty then [] else [⟨Rule.blacklist kinds, data⟩]) ∧
          own.map ActiveRule.rule = (Catalogue.rules.filter fun r => decide (check ∈ r.checks ∧ p.Wants r.id)) ∧
          (own.map fun r => r.rule.name).Pairwise (· < ·) := by
  obtain ⟨entries⟩ := settings
  obtain rfl : entries = .dict es := content
  obtain ⟨active, configured⟩ := exists_configured p es
  obtain ⟨kinds, extra, made, last⟩ := forCheck_of_banned plain
  have chosen : ofProfile p (Settings.option ⟨.dict es⟩) = .ok (active ++ extra) :=
    ofProfile_eq_ok.mpr ⟨active, extra, configured, made, rfl⟩
  refine ⟨{ settings := ⟨.dict es⟩, rules := active ++ extra }, kinds, p.bannedData,
    (create_eq_ok read).mpr ⟨_, chosen, rfl⟩, Profile.get?_bannedData plain, ?_⟩
  intro check
  have rules := map_rule_forCheck configured check
  have whole : RuleSet.forCheck (active ++ extra) check = RuleSet.forCheck active check ++
      (if (p.bannedAt check).isEmpty then [] else [⟨blacklist kinds, p.bannedData⟩]) := by
    rw [← last check]
    exact filter_append active extra
  have within : ((RuleSet.forCheck active check).map ActiveRule.rule).Sublist Catalogue.rules := by
    rw [rules]
    exact filter_sublist
  have names : ((RuleSet.forCheck active check).map fun r => r.rule.name) =
      ((RuleSet.forCheck active check).map ActiveRule.rule).map name := map_map.symm
  have ids : ((RuleSet.forCheck active check).map fun r => r.rule.id).Sublist (Catalogue.rules.map Rule.id) := by
    have mapped := within.map Rule.id
    rwa [map_map] at mapped
  constructor
  · rw [whole, map_append, nodup_append_comm]
    have all : (blacklistId :: (RuleSet.forCheck active check).map fun r => r.rule.id).Nodup :=
      nodup_catalogue.sublist (ids.cons_cons _)
    split
    · exact (nodup_cons.mp all).2
    · exact all
  · refine ⟨RuleSet.forCheck active check, whole, rules, ?_⟩
    rw [names]
    exact sorted_catalogue.sublist (within.map name)

def mixedChoice : Profile := { includes := ["B101", "B001"], excludes := ["B001", "B401"] }

theorem create_selects_mixedChoice : ∃ s kinds data,
    create .standard (.dict [(.str "include", .set [.str "B101", .str "B001"]),
      (.str "exclude", .list [.str "B001", .str "B401"])]) = .ok s ∧
    ((s.rules.forCheck "Assert").map fun r => r.rule.id) = ["B101"] ∧
    s.rules.forCheck "Import" = [⟨Rule.blacklist kinds, data⟩] ∧
    data.get? "Import" = some (.list ((mixedChoice.bannedAt "Import").map Banned.record)) ∧
    ((mixedChoice.bannedAt "Import").map Banned.id).take 2 = ["B402", "B403"] := by
  have read : Profile.ofValue (.dict [(.str "include", .set [.str "B101", .str "B001"]),
      (.str "exclude", .list [.str "B001", .str "B401"])]) = .ok mixedChoice := rfl
  have content : Settings.standard.content = .dict _ := rfl
  obtain ⟨s, kinds, data, created, records, each⟩ := create_selects content read rfl
  have asserted : (mixedChoice.bannedAt "Assert").isEmpty = true ∧ (Catalogue.rules.filter fun r =>
      decide ("Assert" ∈ r.checks ∧ mixedChoice.Wants r.id)).map Rule.id = ["B101"] := by decide +kernel
  have imported : (mixedChoice.bannedAt "Import").isEmpty = false ∧ (Catalogue.rules.filter fun r =>
      decide ("Import" ∈ r.checks ∧ mixedChoice.Wants r.id)).map Rule.id = [] := by decide +kernel
  obtain ⟨-, _, whole, rules, -⟩ := each "Assert"
  obtain ⟨-, _, others, nothing, -⟩ := each "Import"
  refine ⟨s, kinds, data, created, ?_, ?_, ?_, by decide +kernel⟩
  · have ids := congrArg (List.map Rule.id) rules
    rw [asserted.2, map_map] at ids
    rw [whole, if_pos asserted.1, append_nil]
    exact ids
  · have ids := congrArg (List.map Rule.id) nothing
    rw [imported.2, map_map, map_eq_nil_iff] at ids
    rw [others, ids, imported.1]
    rfl
  · rw [records, imported.1]
    rfl

end Session

end SourceAudit
