import SourceAudit.Proofs.Processes

/-! Keyword arguments that are missing, and such that spell no value. -/

namespace SourceAudit

namespace Node

/-- Whether the node spells no value: it is neither a literal, nor a display, a name or an attribute. -/
def isSilent : Node → Bool
  | constant _ .ellipsis => true
  | constant .. | list .. | tuple .. | set .. | dict .. | name .. | attr .. => false
  | _ => true

theorem argument_eq_null_iff {n : Node} (clear : n.hasBadSet = false) : n.argument = .null ↔ n.isSilent = true := by
  obtain ⟨v, spelled, -⟩ := brings_argumentValue clear
  have value : n.argument = v := by rw [argument, spelled]; rfl
  rw [value]
  cases n with
  | constant span c => cases c <;> cases spelled <;> simp [isSilent, Value.str]
  | list span elts _ | tuple span elts _ =>
    change _ <$> literals elts = .ok v at spelled
    cases read : literals elts <;> rw [read] at spelled <;> cases spelled
    constructor <;> rintro ⟨⟩
  | set span elts =>
    change (literals elts >>= fun vs => ite _ _ _) = .ok v at spelled
    cases read : literals elts <;> rw [read] at spelled
    · cases spelled
    · rcases ite_eq_iff.mp spelled with ⟨-, made⟩ | ⟨-, failed⟩
      · cases made
        constructor <;> rintro ⟨⟩
      · cases failed
  | dict | name | attr =>
    cases spelled
    constructor <;> rintro ⟨⟩
  | _ =>
    cases spelled
    exact ⟨fun _ => rfl, fun _ => rfl⟩

end Node

def Value.asks : Value → Value → Bool
  | .list values, v => values.any v.equals
  | one, v => v.equals one

namespace Context.Calls

variable {c : Context} {span : Span} {func : Node} {args keywords : List Node}

section

variable (site : c.Calls span func args keywords)

include site

theorem checkArgValue_eq (clear : Sane keywords) (name : String) (asked : Value) :
    c.checkArgValue name asked = .ok ((Rule.keywordNamed name keywords.reverse).bind fun n =>
      if n.isSilent then none else some (asked.asks n.argument)) := by
  rw [Context.checkArgValue, site.argValue clear]
  cases last : Rule.keywordNamed name keywords.reverse with
  | none => rfl
  | some n =>
    have fine : n.hasBadSet = false := by
      rw [Rule.keywordNamed_eq, Option.map_eq_some_iff] at last
      obtain ⟨k, mem, rfl⟩ := last
      exact clear k (List.mem_reverse.mp (List.mem_of_find?_eq_some mem))
    have silent := Node.argument_eq_null_iff fine
    dsimp only [Option.map_some, Option.getD_some, Option.bind_some, bind, Except.bind]
    split
    · rename_i null
      rw [if_pos (silent.mp null)]
      rfl
    · rename_i told
      rw [if_neg fun quiet => told (silent.mpr quiet)]
      cases asked <;> rfl

theorem exists_checkArgValue_error (bad : ¬ ∀ k ∈ keywords, k.handed.hasBadSet = false) (name : String) (asked : Value) :
    ∃ fault, c.checkArgValue name asked = .error fault := by
  push Not at bad
  obtain ⟨k, mem, bad⟩ := bad
  obtain ⟨fault, failed⟩ := site.exists_callKeywords_error mem (by simpa using bad)
  exact ⟨fault, by rw [Context.checkArgValue, Context.argValue, failed]; rfl⟩

theorem checkArgValue_eq_none_iff (name : String) (asked : Value) :
    c.checkArgValue name asked = .ok none ↔ Sane keywords ∧
      ∀ n, Rule.keywordNamed name keywords.reverse = some n → n.isSilent = true := by
  by_cases clear : Sane keywords
  · rw [checkArgValue_eq site clear, Except.ok.injEq, Option.bind_eq_none_iff, and_iff_right clear]
    simp
  · obtain ⟨_, failed⟩ := exists_checkArgValue_error site clear name asked
    rw [failed]
    exact ⟨nofun, fun both => absurd both.1 clear⟩

end

end Context.Calls

namespace Rule

variable {c : Context} {span : Span} {func : Node} {args keywords : List Node}

/-- Every keyword argument can be read, and what the last one of the name hands over has the property. -/
def LastGiven (keywords : List Node) (name : String) (p : Node → Prop) : Prop :=
  Sane keywords ∧ ∀ n, keywordNamed name keywords.reverse = some n → p n

theorem flags_noVersion_iff (settings : Value) (called : c.qualname = some "ssl.wrap_socket") :
    Flags sslWithNoVersion c settings ↔ c.checkArgValue "ssl_version" .null = .ok none := by
  unfold Flags
  dsimp only [sslWithNoVersion, plain]
  rw [called, if_pos (by rfl)]
  exact flags_bind_iff ⟨_, rfl⟩ fun | none, other => absurd rfl other | some _, _ => rfl

def untimedIssue : Issue := finding .medium .low 400 ("Call to " ++ "requests" ++ " without timeout")

theorem untimed_iff (settings : Value) (library : libraryOf c = .ok "requests") (verb : c.name.any httpVerbs.contains) :
    requestWithoutTimeout.run c settings = .ok (some untimedIssue) ↔ c.checkArgValue "timeout" .null = .ok none := by
  dsimp only [requestWithoutTimeout, plain]
  rw [library]
  simp only [verb, bind, Except.bind, beq_self_eq_true, Bool.and_self, if_true]
  cases c.checkArgValue "timeout" .null with
  | error fault => exact ⟨nofun, nofun⟩
  | ok known =>
    cases known with
    | none => exact ⟨fun _ => rfl, fun _ => rfl⟩
    | some known =>
      refine ⟨fun reported => ?_, nofun⟩
      change ite _ (c.argIs "timeout" (.str "None") >>= fun is => pure (reportIf is _)) (pure none) = _ at reported
      rcases ite_eq_iff.mp reported with ⟨-, reported⟩ | ⟨-, reported⟩
      · cases asked : c.argIs "timeout" (.str "None") with
        | error fault => rw [asked] at reported; cases reported
        | ok is =>
          rw [asked] at reported
          cases is with
          | false => cases reported
          | true =>
            have texts := congrArg Issue.text (Option.some.inj (Except.ok.inj reported))
            exact absurd texts (by decide)
      · cases reported

/-- A missing keyword argument is told apart, and a value compared with those asked for, exactly if every keyword
argument can be read and the one in question spells a value. Where it spells none, it counts as missing. -/
theorem missing_told_iff (site : c.Calls span func args keywords) :
    (∀ name values, ((c.checkArgValue name (.list values) = .ok none ↔ keywordNamed name keywords = none) ∧
        ∀ n, keywordNamed name keywords.reverse = some n →
          c.checkArgValue name (.list values) = .ok (some (values.any n.argument.equals))) ↔
      LastGiven keywords name (·.isSilent = false)) ∧
    (∀ settings, c.qualname = some "ssl.wrap_socket" →
      (Flags sslWithNoVersion c settings ↔ LastGiven keywords "ssl_version" (·.isSilent = true))) ∧
    ∀ settings, libraryOf c = .ok "requests" → c.name.any httpVerbs.contains = true →
      (requestWithoutTimeout.run c settings = .ok (some untimedIssue) ↔
        LastGiven keywords "timeout" (·.isSilent = true)) := by
  refine ⟨fun name values => ?_, fun settings called => ?_, fun settings library verb => ?_⟩
  · have absent : keywordNamed name keywords = none ↔ keywordNamed name keywords.reverse = none := by
      rw [← Option.not_isSome_iff_eq_none, ← Option.not_isSome_iff_eq_none, isSome_keywordNamed_reverse]
    by_cases clear : ∀ k ∈ keywords, k.handed.hasBadSet = false
    · rw [LastGiven, and_iff_right clear, site.checkArgValue_eq clear, absent]
      cases keywordNamed name keywords.reverse with
      | none => simp
      | some n => cases silent : n.isSilent <;> simp [silent, Value.asks]
    · obtain ⟨_, failed⟩ := site.exists_checkArgValue_error clear name (.list values)
      refine ⟨fun told => ?_, fun given => absurd given.1 clear⟩
      rw [failed] at told
      cases last : keywordNamed name keywords.reverse with
      | none => exact nomatch told.1.mpr (absent.mpr last)
      | some n => exact nomatch told.2 n last
  · rw [flags_noVersion_iff settings called, site.checkArgValue_eq_none_iff]
    rfl
  · rw [untimed_iff settings library verb, site.checkArgValue_eq_none_iff]
    rfl

def requesting (limit : Node) : Context :=
  let call := Node.call onSecond (.attr onSecond (.name onSecond "requests" .load) "get" .load) []
    [.keyword onSecond (some "timeout") limit]
  { node := some call, call := some call, qualname := some "requests.get", name := some "get" }

theorem calls_requesting (limit : Node) : (requesting limit).Calls onSecond
    (.attr onSecond (.name onSecond "requests" .load) "get" .load) [] [.keyword onSecond (some "timeout") limit] :=
  ⟨rfl, rfl, ⟨_, rfl⟩, ⟨_, rfl⟩⟩

theorem libraryOf_requesting (limit : Node) : libraryOf (requesting limit) = .ok "requests" := by
  have parts : splitString '.' "requests.get" = ["requests", "get"] := by decide
  change Except.ok ((splitString '.' "requests.get").head?.getD "") = _
  rfl

theorem writtenLimit_told :
    let c := requesting (.constant onSecond (.int 5))
    (∀ values, c.checkArgValue "timeout" (.list values) = .ok (some (values.any (Value.int 5).equals))) ∧
      requestWithoutTimeout.run c .null ≠ .ok (some untimedIssue) := by
  obtain ⟨told, -, untimed⟩ := missing_told_iff (calls_requesting (.constant onSecond (.int 5)))
  have clear : ∀ k ∈ [Node.keyword onSecond (some "timeout") (.constant onSecond (.int 5))],
      k.handed.hasBadSet = false := List.forall_mem_singleton.mpr rfl
  refine ⟨fun values => ((told "timeout" values).mpr ⟨clear, ?_⟩).2 _ rfl, fun reported => ?_⟩
  · rintro n ⟨⟩
    rfl
  · have silent := ((untimed .null (libraryOf_requesting _) rfl).mp reported).2 _ rfl
    cases silent

/-- A limit that is computed is called missing, though the keyword argument is there. -/
theorem computedLimit_missing :
    let limit : Node := .call onSecond (.name onSecond "limit" .load) [] []
    keywordNamed "timeout" [.keyword onSecond (some "timeout") limit] = some limit ∧
      (requesting limit).checkArgValue "timeout" (.list []) = .ok none ∧
      requestWithoutTimeout.run (requesting limit) .null = .ok (some untimedIssue) := by
  refine ⟨rfl, rfl, ?_⟩
  rw [untimed_iff _ (libraryOf_requesting _) rfl]
  rfl

end Rule

end SourceAudit
