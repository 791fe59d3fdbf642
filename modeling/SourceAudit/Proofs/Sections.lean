import SourceAudit.CommandLine.Starter
import SourceAudit.Proofs.Choosing

/-! With which settings rules run: those in the section they read, which may be that of another rule. -/

namespace SourceAudit

open List

namespace RuleSet

/-- The settings that a section amounts to; null stands for one that is not given. -/
def effective (usual : Value) : Value → Value
  | .null => usual
  | v => v

theorem effective_eq_self_iff {usual v : Value} (given : usual ≠ .null) : effective usual v = v ↔ v ≠ .null := by
  cases v with
  | null => exact ⟨fun same => absurd same given, fun other => absurd rfl other⟩
  | _ => exact ⟨fun _ => nofun, fun _ => rfl⟩

variable {r : Rule} {block : String} {usual : Value}

theorem configure_dict (listed : r ∈ Catalogue.rules) (takes : r.settings = some (block, usual)) (es : Fields) :
    configure (Settings.option ⟨.dict es⟩) r =
      .ok ⟨r, effective usual ((Value.lookup (.str block) es).getD .null)⟩ := by
  have plain := plain_blocks r listed
  rw [takes] at plain
  simp only [Option.map_some, Option.all_some, Bool.and_eq_true, beq_iff_eq] at plain
  unfold configure
  rw [takes]
  dsimp only
  rw [Settings.option_dict plain.1.1]
  cases (Value.lookup (.str block) es).getD .null with
  | null => rfl
  | _ => rfl

theorem usual_given : ∀ r ∈ Catalogue.rules, ∀ block usual, r.settings = some (block, usual) → usual ≠ .null := by
  have each : ∀ r ∈ Catalogue.rules, (r.settings.map Prod.snd).all (fun usual => usual.truthy) = true := by
    decide +kernel
  intro r listed block usual takes none_
  have truthy := each r listed
  rw [takes, none_] at truthy
  cases truthy

theorem exists_ofProfile_of_table {p : Profile} (table : p.blacklist.truthy = true → ∃ data, p.blacklist = .dict data)
    (es : Fields) : ∃ rules, ofProfile p (Settings.option ⟨.dict es⟩) = .ok rules := by
  cases own : p.blacklist.truthy with
  | false => exact exists_ofProfile own es
  | true =>
    obtain ⟨data, is⟩ := table own
    obtain ⟨active, configured⟩ := exists_configured p es
    have same : p.bannedData = .dict data := by
      unfold Profile.bannedData
      rw [if_pos own, is]
    have made : banned (.dict data) =
        .ok [{ rule := Rule.blacklist (data.map fun e => e.1.display.toStringLossy), settings := .dict data }] := by
      rw [is] at own
      exact if_pos own
    exact ⟨_, ofProfile_eq_ok.mpr ⟨active, _, configured, same ▸ made, rfl⟩⟩

theorem not_mem_banned {data : Value} {extra : RuleSet} (made : banned data = .ok extra)
    (listed : r ∈ Catalogue.rules) (w : Value) : ⟨r, w⟩ ∉ extra := by
  intro there
  obtain ⟨_, -, is⟩ := eq_of_mem_banned made there
  have same : r.id = Catalogue.blacklistId := by
    cases is
    rfl
  have apart := (nodup_cons.mp nodup_catalogue).1
  exact apart (mem_map.mpr ⟨r, listed, same⟩)

theorem mem_ofProfile_iff {p : Profile} {es : Fields} {rules : RuleSet}
    (made : ofProfile p (Settings.option ⟨.dict es⟩) = .ok rules) (listed : r ∈ Catalogue.rules)
    (takes : r.settings = some (block, usual)) (wanted : p.Wants r.id) (w : Value) :
    ⟨r, w⟩ ∈ rules ↔ w = effective usual ((Value.lookup (.str block) es).getD .null) := by
  obtain ⟨active, _, configured, data, rfl⟩ := ofProfile_eq_ok.mp made
  have own := configure_dict listed takes es
  have chosen : r ∈ Catalogue.rules.filter fun r => p.selected.contains r.id :=
    mem_filter.mpr ⟨listed, contains_iff_mem.mpr (Profile.mem_selected.mpr wanted)⟩
  rw [mem_append, Answers.mem_mapM_iff configured]
  constructor
  · intro there
    cases there with
    | inl active =>
      obtain ⟨_, -, set⟩ := active
      cases rule_configure set
      rw [own] at set
      exact congrArg ActiveRule.settings (Except.ok.inj set).symm
    | inr banned => exact absurd banned (not_mem_banned data listed w)
  · intro same
    subst same
    exact .inl ⟨r, chosen, own⟩

end RuleSet

namespace CommandLine.Starter

variable {r : Rule} {block : String} {usual : Value}

theorem lookup_named {rules : List Rule} (distinct : (rules.map Rule.name).Nodup) (listed : r ∈ rules)
    (takes : r.settings = some (block, usual)) :
    Value.lookup (.str r.name) (rules.filterMap fun r => r.settings.map fun (_, v) => (Value.str r.name, v)) =
      some usual := by
  induction rules with
  | nil => cases listed
  | cons first rest ih =>
    rw [map_cons, nodup_cons] at distinct
    cases mem_cons.mp listed with
    | inl same =>
      subst same
      rw [filterMap_cons, takes]
      exact if_pos (Value.equals_str_iff.mpr rfl)
    | inr later =>
      have other : first.name ≠ r.name := fun same => distinct.1 (mem_map.mpr ⟨r, later, same.symm⟩)
      have found := ih distinct.2 later
      rw [filterMap_cons]
      cases first.settings with
      | none => exact found
      | some own =>
        rw [Option.map_some, Value.lookup, if_neg]
        · exact found
        · exact fun same => other (Value.str_inj.mp (Value.equals_str_iff.mp same))

theorem lookup_sections (listed : r ∈ Catalogue.rules) (takes : r.settings = some (block, usual)) :
    Value.lookup (.str r.name) sections = some usual := by
  refine lookup_named ?_ listed takes
  apply RuleSet.sorted_catalogue.imp
  intro a b less same
  exact String.lt_irrefl b (same ▸ less)

end CommandLine.Starter

theorem Settings.lookup_of_ofContent {path : String} {es : Fields} {log later : Log} {s : Settings}
    (loaded : (ofContent path (.dict es)).run log = .ok s later) : ∃ now, s = ⟨.dict now⟩ ∧
      ∀ name, name ∉ renewed → Value.lookup (.str name) now = Value.lookup (.str name) es := by
  rw [ofContent_dict] at loaded
  obtain ⟨_, _, -, loaded⟩ := Answers.run_bind_eq_ok.mp loaded
  obtain ⟨_, _, done, made⟩ := Answers.run_bind_eq_ok.mp loaded
  obtain ⟨now, rfl, kept⟩ := exists_modernized done
  cases made
  exact ⟨now, rfl, kept⟩

namespace Session

section

variable {r : Rule} {block : String} {usual : Value} (listed : r ∈ Catalogue.rules)
  (takes : r.settings = some (block, usual)) {record : Value} {p : Profile} (read : Profile.ofValue record = .ok p)
  (table : p.blacklist.truthy = true → ∃ data, p.blacklist = .dict data) (wanted : p.Wants r.id) {path : String}
  {log later : Log} {s : Settings}

include listed takes read table wanted in
theorem exists_created_with {es : Fields} (loaded : (Settings.ofContent path (.dict es)).run log = .ok s later) :
    ∃ t, create s record = .ok t ∧
      ∀ w, ⟨r, w⟩ ∈ t.rules ↔ w = RuleSet.effective usual ((Value.lookup (.str block) es).getD .null) := by
  obtain ⟨now, rfl, kept⟩ := Settings.lookup_of_ofContent loaded
  have free : block ∉ Settings.renewed := by
    have each := RuleSet.blocks_kept r listed
    rw [takes] at each
    simp only [Option.map_some, Option.all_some, Bool.and_eq_true, Bool.not_eq_true', contains_eq_mem,
      decide_eq_false_iff_not] at each
    exact each.1
  obtain ⟨rules, made⟩ := RuleSet.exists_ofProfile_of_table table now
  refine ⟨{ settings := ⟨.dict now⟩, rules }, (create_eq_ok read).mpr ⟨rules, made, rfl⟩, ?_⟩
  intro w
  rw [RuleSet.mem_ofProfile_iff made listed takes wanted w, kept block free]

include listed takes read table wanted in
/-- Let the section of a loadable file which the starter has for a rule hold a value. A session with a profile that
wants the rule can be created. If the rule reads the section of its own name, it runs with the value exactly if that is
not null; otherwise exactly if the section it reads amounts to the same. -/
theorem create_configures (v : Value) {es : List (Value × Value)}
    (loaded : (Settings.ofContent path (.dict (Value.put (.str r.name) v es))).run log = .ok s later) :
    Value.lookup (.str r.name) CommandLine.Starter.sections = some usual ∧
      ∃ t, create s record = .ok t ∧ (⟨r, v⟩ ∈ t.rules ↔
        if r.name = block then v ≠ .null
        else v = RuleSet.effective usual ((Value.lookup (.str block) es).getD .null)) := by
  obtain ⟨t, created, rules⟩ := exists_created_with listed takes read table wanted loaded
  refine ⟨CommandLine.Starter.lookup_sections listed takes, t, created, ?_⟩
  rw [rules v]
  split
  · rename_i own
    rw [← own, Value.lookup_put_self, Option.getD_some, eq_comm]
    exact RuleSet.effective_eq_self_iff (RuleSet.usual_given r listed block usual takes)
  · rename_i other
    rw [Value.lookup_put_of_ne other]

end

def edited (r : Rule) (v : Value) : Fields := Value.put (.str r.name) v CommandLine.Starter.sections

theorem exists_loaded_edited {r : Rule} {v : Value}
    (loads : (match (Settings.ofContent "bandit.yaml" (.dict (edited r v))).run [] with
      | .ok .. => true
      | .error .. => false) = true) :
    ∃ s later, (Settings.ofContent "bandit.yaml" (.dict (edited r v))).run [] = .ok s later := by
  split at loads
  · rename_i s later loaded
    exact ⟨s, later, loaded⟩
  · cases loads

def typedToo : Value := .dict [(.str "check_typed_exception", .bool true)]

theorem create_configures_typedToo : ∃ s later t,
    (Settings.ofContent "bandit.yaml" (.dict (edited Rule.tryExceptPass typedToo))).run [] = .ok s later ∧
      create s (.dict []) = .ok t ∧ ⟨Rule.tryExceptPass, typedToo⟩ ∈ t.rules := by
  obtain ⟨s, later, loaded⟩ := exists_loaded_edited (r := Rule.tryExceptPass) (v := typedToo) (by decide +kernel)
  have read : Profile.ofValue (.dict []) = .ok {} := rfl
  obtain ⟨-, t, created, runs⟩ := create_configures (r := Rule.tryExceptPass) (by simp [Catalogue.rules]) rfl read
    (by rintro ⟨⟩) (by decide +kernel) typedToo loaded
  exact ⟨s, later, t, loaded, created, runs.mpr (by rintro ⟨⟩)⟩

def runOnly : Value := .dict [(.str "subprocess", .list [.str "run"])]

/-- A rule that shares a section does not see what is put into the one under its own name. -/
theorem shared_section_ignored : ∃ s later t,
    (Settings.ofContent "bandit.yaml" (.dict (edited Rule.otherFunctionWithShell runOnly))).run [] = .ok s later ∧
      create s (.dict []) = .ok t ∧ ⟨Rule.otherFunctionWithShell, Rule.shellSettings⟩ ∈ t.rules ∧
      ⟨Rule.otherFunctionWithShell, runOnly⟩ ∉ t.rules := by
  obtain ⟨s, later, loaded⟩ :=
    exists_loaded_edited (r := Rule.otherFunctionWithShell) (v := runOnly) (by decide +kernel)
  have read : Profile.ofValue (.dict []) = .ok {} := rfl
  obtain ⟨t, created, rules⟩ := exists_created_with (r := Rule.otherFunctionWithShell) (by simp [Catalogue.rules]) rfl
    read nofun (by decide +kernel) loaded
  have usual : RuleSet.effective Rule.shellSettings ((Value.lookup (.str "shell_injection")
      (edited Rule.otherFunctionWithShell runOnly)).getD .null) = Rule.shellSettings := by
    have absent :
        (Value.lookup (.str "shell_injection") (edited Rule.otherFunctionWithShell runOnly)).isNone = true := by
      decide +kernel
    rw [Option.isNone_iff_eq_none.mp absent]
    rfl
  rw [usual] at rules
  refine ⟨s, later, t, loaded, created, (rules _).mpr rfl, fun there => ?_⟩
  exact absurd ((rules _).mp there) (by simp [runOnly, Rule.shellSettings])

end Session

end SourceAudit
