import SourceAudit.Proofs.Inspection

/-! At which places rules look: nodes on a line, so outside of debug mode they never break off a scan. -/

namespace SourceAudit

open Answers List

variable {p : Profile} {option : String → Answer Value} {r : ActiveRule} {rules : RuleSet}

namespace Node

def unplacedKinds : List String :=
  ["Module", "comprehension", "arguments", "withitem", "match_case", "And", "Or", "Add", "Sub", "Mult", "MatMult",
    "Div", "Mod", "Pow", "LShift", "RShift", "BitOr", "BitXor", "BitAnd", "FloorDiv", "Invert", "Not", "UAdd",
    "USub", "Eq", "NotEq", "Lt", "LtE", "Gt", "GtE", "Is", "IsNot", "In", "NotIn",
    "Load", "Store", "Del"]

theorem kind_of_unplaced {n : Node} (unplaced : n.span? = none) : n.kind ∈ unplacedKinds := by
  cases n with
  | operator op => cases op <;> decide
  | module | comprehension | arguments | withItem | matchCase => simp [kind, unplacedKinds]
  | _ => simp [span?] at unplaced

end Node

namespace Stop

theorem line_checkedContext (s : Stop) : s.checkedContext.line = s.visit.node.span?.map fun p => (p.line : Int) := by
  have entered : s.context.line = s.visit.node.span?.map fun p => (p.line : Int) := by
    simp only [context]
    split <;> rfl
  unfold checkedContext
  split <;> exact entered

theorem check_of_unplaced {s : Stop} (unplaced : s.visit.node.span? = none) : s.check? = some s.visit.node.kind := by
  unfold check?
  split
  · simp_all [Node.span?]
  · simp_all [Node.span?]
  · simp_all [Node.span?]
  · rfl

theorem line_of_check {s : Stop} {check : String} (asked : s.check? = some check)
    (placed : check ∉ Node.unplacedKinds) : s.checkedContext.line.isSome := by
  rw [line_checkedContext, Option.isSome_map]
  cases found : s.visit.node.span? with
  | some span => rfl
  | none =>
    rw [check_of_unplaced found, Option.some.injEq] at asked
    exact absurd (Node.kind_of_unplaced found) (asked ▸ placed)

end Stop

namespace RuleSet

def Placed (rules : RuleSet) : Prop := ∀ r ∈ rules, ∀ check ∈ r.rule.checks, check ∉ Node.unplacedKinds

theorem placed_catalogue : ∀ r ∈ Catalogue.rules, ∀ check ∈ r.checks, check ∉ Node.unplacedKinds := by decide +kernel

theorem placed_banned (plain : p.blacklist.truthy = false) {entries : Fields} (data : p.bannedData = .dict entries) :
    ∀ check ∈ entries.map (fun e => e.1.display.toStringLossy), check ∉ Node.unplacedKinds := by
  simp only [Profile.bannedData, plain, Bool.false_eq_true, if_false, Value.dict.injEq] at data
  intro check present
  obtain ⟨e, mem, rfl⟩ := mem_map.mp present
  rw [← data] at mem
  obtain ⟨⟨kind, banned⟩, known, kept⟩ := mem_filterMap.mp mem
  have written : ∀ k ∈ Banned.byCheck, (Value.str k.1).display.toStringLossy ∉ Node.unplacedKinds := by decide +kernel
  split at kept
  · simp at kept
  · rw [← Option.some.inj kept]
    exact written (kind, banned) known

theorem rule_configure {rule : Rule} (set : configure option rule = .ok r) : r.rule = rule := by
  unfold configure at set
  split at set
  · rw [← Except.ok.inj set]
  · rw [bind_eq_ok] at set
    obtain ⟨_, -, set⟩ := set
    split at set <;> rw [pure_eq_ok] at set <;> rw [← set]

theorem ofProfile_eq_ok : ofProfile p option = .ok rules ↔ ∃ active extra,
      (Catalogue.rules.filter fun r => p.selected.contains r.id).mapM (configure option) = .ok active ∧
        banned p.bannedData = .ok extra ∧ active ++ extra = rules := by
  simp only [ofProfile, bind_eq_ok, pure_eq_ok]
  constructor
  · rintro ⟨extra, made, active, configured, whole⟩
    exact ⟨active, extra, configured, made, whole⟩
  · rintro ⟨active, extra, configured, made, whole⟩
    exact ⟨extra, made, active, configured, whole⟩

theorem exists_of_mem_active {keep : Rule → Bool} {active : RuleSet}
    (configured : (Catalogue.rules.filter keep).mapM (configure option) = .ok active) (present : r ∈ active) :
    r.rule ∈ Catalogue.rules ∧ keep r.rule = true := by
  obtain ⟨rule, mem, set⟩ := (mem_mapM_iff configured).mp present
  rw [rule_configure set]
  exact mem_filter.mp mem

theorem eq_of_mem_banned {data : Value} {extra : RuleSet} (made : banned data = .ok extra) (present : r ∈ extra) :
    ∃ entries, data = .dict entries ∧
      r = { rule := Rule.blacklist (entries.map fun e => e.1.display.toStringLossy), settings := data } := by
  unfold banned at made
  split at made
  · split at made
    · rw [← Except.ok.inj made] at present
      exact ⟨_, rfl, mem_singleton.mp present⟩
    · cases made
  · simp [← Except.ok.inj made] at present

theorem of_mem_ofProfile (chosen : ofProfile p option = .ok rules) (present : r ∈ rules) :
    r.rule ∈ Catalogue.rules ∨ ∃ entries, p.bannedData = .dict entries ∧
      r = { rule := Rule.blacklist (entries.map fun e => e.1.display.toStringLossy), settings := p.bannedData } := by
  obtain ⟨_, _, configured, made, rfl⟩ := ofProfile_eq_ok.mp chosen
  rcases mem_append.mp present with own | extra
  · exact .inl (exists_of_mem_active configured own).1
  · exact .inr (eq_of_mem_banned made extra)

theorem placed_ofProfile (chosen : ofProfile p option = .ok rules) (plain : p.blacklist.truthy = false) :
    rules.Placed := by
  intro r present
  rcases of_mem_ofProfile chosen present with mem | ⟨_, data, rfl⟩
  · exact placed_catalogue r.rule mem
  · exact placed_banned plain data

end RuleSet

namespace Document

variable {o : ScanOptions} {d : Document} {tree : Node}

theorem line_of_mem_looks (placed : rules.Placed) {l : Context × ActiveRule} (mem : l ∈ d.looks rules tree) :
    l.1.line.isSome := by
  obtain ⟨check, c, chosen, here, ⟨s, _, asked, rfl⟩ | rfl⟩ := exists_of_mem_looks mem
  · rw [RuleSet.forCheck, mem_filter, contains_iff_mem] at chosen
    rw [here]
    exact Stop.line_of_check asked (placed l.2 chosen.1 check chosen.2)
  · rw [here]
    rfl

theorem inspect_ends_well (calm : o.debug = false) (placed : o.rules.Placed) (ss : Suppressions)
    (start : Outcome) : ∃ last, d.inspect o ss tree start = .ok () last := by
  rw [inspect_eq, calm]
  refine Inspection.forM_ends_well ss ?_ start
  intro l mem
  exact ⟨by rw [filename_of_mem_looks mem]; rfl, line_of_mem_looks placed mem⟩

/-- Reading the comments fails at most because the file ends too early. -/
def Tokenizes (d : Document) : Prop :=
  ∀ e, Source.lineEncoding? d.bytes = some e →
    (Source.comments e d.bytes).2 = .complete ∨ (Source.comments e d.bytes).2 = .unfinished

instance (d : Document) : Decidable d.Tokenizes :=
  inferInstanceAs (Decidable (∀ e ∈ Source.lineEncoding? d.bytes,
    (Source.comments e d.bytes).2 = .complete ∨ (Source.comments e d.bytes).2 = .unfinished))

def Parses (d : Document) (tree : Node) : Prop :=
  (Source.lineEncoding? d.bytes).isSome ∧ Source.parse d.bytes = .ok tree

theorem scanTree_of_parses (calm : o.debug = false) (placed : o.rules.Placed)
    (parsed : Source.parse d.bytes = .ok tree) (ss : Suppressions) (start : Outcome) :
    ∃ out, d.scanTree o ss start = (out, none) := by
  obtain ⟨out, ended⟩ :
      ∃ out, d.inspect o ss tree { start with log := start.log ++ d.namelessLog } = .ok () out :=
    inspect_ends_well calm placed ss _
  exact ⟨out, by simp [scanTree, parsed, ended]⟩

theorem scan_of_parses (calm : o.debug = false) (placed : o.rules.Placed) (tokenized : d.Tokenizes)
    (parses : d.Parses tree) : ∃ out, d.scan o = (out, none) := by
  obtain ⟨encoded, parsed⟩ := parses
  obtain ⟨e, encoding⟩ := Option.isSome_iff_exists.mp encoded
  have ends := scanTree_of_parses calm placed parsed
  unfold scan
  simp only [encoding]
  split
  · rcases tokenized e encoding with complete | unfinished
    · simpa only [complete] using ends _ _
    · simpa only [unfinished] using ends _ _
  · exact ends _ _

theorem scan_of_not_parses (tokenized : d.Tokenizes) (fails : ∀ tree, ¬ d.Parses tree) :
    ∃ log, d.scan o = ({ log }, some .notParsed) := by
  unfold scan
  cases encoding : Source.lineEncoding? d.bytes with
  | none => exact ⟨[], rfl⟩
  | some e =>
    cases parsed : Source.parse d.bytes with
    | ok tree => exact absurd ⟨by rw [encoding]; rfl, parsed⟩ (fails tree)
    | error why =>
      simp only [scanTree, parsed]
      split
      · rcases tokenized e encoding with complete | unfinished
        · simp only [complete]
          exact ⟨_, rfl⟩
        · simp only [unfinished]
          exact ⟨_, rfl⟩
      · exact ⟨_, rfl⟩

end Document

end SourceAudit
