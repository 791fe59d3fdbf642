import SourceAudit.Proofs.CallNames
import SourceAudit.Proofs.Missing
import SourceAudit.Proofs.Segments

/-! Protocol versions as arguments and as defaults. A default that is a name alone is looked up as the empty name. -/

namespace SourceAudit

namespace Node

def argumentName : Node → String
  | attr _ _ own _ => own
  | name _ id _ => id
  | _ => ""

def defaultName : Node → String
  | attr _ _ own _ => own
  | _ => ""

/-- The node is a name or an attribute, written without dots inside. -/
def Names : Node → Prop
  | attr _ _ own _ => Undotted own
  | name .. => True
  | _ => False

theorem getLast_dotted {own : String} (whole : Undotted own) (base : String) :
    (splitString '.' (base ++ "." ++ own)).getLast? = some own := by
  have cut : (base ++ "." ++ own).toList = base.toList ++ '.' :: own.toList := by simp
  rw [splitString, cut, Segments.splitOn_append_cons, Segments.splitOn_of_not_mem whole]
  simp

theorem getLast_attrName {e : Node} (named : e.Names) (aliases : Aliases) :
    (splitString '.' (attrName aliases e)).getLast? = some e.defaultName := by
  cases e with
  | name => rfl
  | attr span base own =>
    cases base with
    | name => exact getLast_dotted named _
    | _ => exact getLast_dotted named ""
  | _ => cases named

end Node

namespace Rule

variable {c d : Context} {span place : Span} {func e : Node} {settings bad : Value}

theorem flags_iff_of_run {rule : Rule} {b : Bool} {issue : Issue}
    (ran : rule.run c settings = .ok (reportIf b issue)) : Flags rule c settings ↔ b = true := by
  rw [Flags, ran]
  cases b with
  | false => exact ⟨nofun, nofun⟩
  | true => exact ⟨fun _ => rfl, fun _ => ⟨issue, rfl⟩⟩

theorem flags_badVersion_iff (site : c.Calls span func [] [.keyword place (some "ssl_version") e]) (named : e.Names)
    (called : c.qualname ≠ some "pyOpenSSL.SSL.Context") (known : settings.entry "bad_protocol_versions" = .ok bad) :
    Flags sslWithBadVersion c settings ↔ bad.asks (.str e.argumentName) = true := by
  have clear : ∀ k ∈ [Node.keyword place (some "ssl_version") e], k.handed.hasBadSet = false := by
    rw [List.forall_mem_singleton]
    cases e <;> first | rfl | cases named
  have method : c.argIs "method" bad = .ok false := by
    rw [Context.argIs, site.checkArgValue_eq clear]
    rfl
  have version : c.argIs "ssl_version" bad = .ok (bad.asks (.str e.argumentName)) := by
    rw [Context.argIs, site.checkArgValue_eq clear]
    cases e <;> first | rfl | cases named
  have ran : ∃ issue, sslWithBadVersion.run c settings =
      .ok (reportIf (bad.asks (.str e.argumentName)) issue) := by
    have other : (c.qualname == some "pyOpenSSL.SSL.Context") = false := beq_eq_false_iff_ne.mpr called
    dsimp only [sslWithBadVersion, configured]
    rw [known, other]
    dsimp only [bind, Except.bind]
    rw [method, version]
    cases c.qualname == some "ssl.wrap_socket" <;> exact ⟨_, rfl⟩
  exact flags_iff_of_run ran.choose_spec

theorem flags_badDefaults_iff {aliases : Aliases} (names : d.defaultNames = .ok [Node.attrName aliases e])
    (named : e.Names) (known : settings.entry "bad_protocol_versions" = .ok bad) :
    Flags sslWithBadDefaults d settings ↔ bad.holds (.str e.defaultName) = .ok true := by
  have ran : ∃ issue, sslWithBadDefaults.run d settings =
      (bad.holds (.str e.defaultName) >>= fun b => pure (reportIf b issue)) := by
    dsimp only [sslWithBadDefaults, configured]
    rw [known, names]
    dsimp only [bind, Except.bind, anyAnswer, findAnswer]
    rw [Node.getLast_attrName named, Option.getD_some]
    cases bad.holds (.str e.defaultName) with
    | error fault => exact ⟨default, rfl⟩
    | ok held => cases held <;> exact ⟨_, rfl⟩
  obtain ⟨issue, ran⟩ := ran
  cases held : bad.holds (.str e.defaultName) with
  | error fault =>
    rw [Flags, ran, held]
    exact ⟨nofun, nofun⟩
  | ok b =>
    rw [held] at ran
    rw [flags_iff_of_run ran, Except.ok.injEq]

variable {own : String} {values : List Value}

theorem asks_list_iff : (Value.list values).asks (.str own) = true ↔ .str own ∈ values := by
  have same (v : Value) : (Value.str own).equals v = true ↔ .str own = v := by
    cases v <;> simp [Value.str, Value.equals, Value.number?]
  simp [Value.asks, same]

theorem holds_list_iff : (Value.list values).holds (.str own) = .ok true ↔ .str own ∈ values := by
  simp [Value.holds, Value.equals_str_iff]

structure SameVersion (c d : Context) (e : Node) : Prop where
  call : ∃ span func place, c.Calls span func [] [.keyword place (some "ssl_version") e]
  other : c.qualname ≠ some "pyOpenSSL.SSL.Context"
  definition : ∃ span async name posOnly args vararg kwOnly kwDefaults kwarg body decorators returns, d.node =
    some (.functionDef span async name (.arguments posOnly args vararg kwOnly kwDefaults kwarg [e]) body decorators
      returns)
  aliases : ∃ aliases, d.aliases = some aliases

theorem SameVersion.defaultNames (same : SameVersion c d e) :
    ∃ aliases, d.defaultNames = .ok [Node.attrName aliases e] := by
  obtain ⟨_, _, _, _, _, _, _, _, _, _, _, _, node⟩ := same.definition
  obtain ⟨aliases, known⟩ := same.aliases
  refine ⟨aliases, ?_⟩
  rw [Context.defaultNames, node, known]
  rfl

/-- Whether the call is reported exactly if the function is. -/
def Agree (c d : Context) (settings : Value) : Prop :=
  Flags sslWithBadVersion c settings ↔ Flags sslWithBadDefaults d settings

theorem SameVersion.agree_iff (same : SameVersion c d e) (named : e.Names)
    (known : settings.entry "bad_protocol_versions" = .ok bad) :
    Agree c d settings ↔ (bad.asks (.str e.argumentName) = true ↔ bad.holds (.str e.defaultName) = .ok true) := by
  obtain ⟨_, _, _, site⟩ := same.call
  obtain ⟨_, names⟩ := same.defaultNames
  rw [Agree, flags_badVersion_iff site named same.other known, flags_badDefaults_iff names named known]

theorem agree_of_unknown {fault : Fault} (unknown : settings.entry "bad_protocol_versions" = .error fault) :
    Agree c d settings := by
  have call : ¬ Flags sslWithBadVersion c settings := by
    rintro ⟨issue, reported⟩
    dsimp only [sslWithBadVersion, configured] at reported
    rw [unknown] at reported
    cases reported
  have definition : ¬ Flags sslWithBadDefaults d settings := by
    rintro ⟨issue, reported⟩
    dsimp only [sslWithBadDefaults, configured] at reported
    rw [unknown] at reported
    cases reported
  exact iff_of_false call definition

/-- On an attribute a call and a definition agree whenever the bad versions are a list; on a name alone only if it is
listed exactly when the empty name is. Other settings are compared whole in the call, and searched in the definition. -/
theorem agree_on_version (same : SameVersion c d e) (named : e.Names) (settings : Value) :
    (∀ values, settings.entry "bad_protocol_versions" = .ok (.list values) →
      (∀ span base own ctx, e = .attr span base own ctx → Agree c d settings) ∧
      ∀ span id ctx, e = .name span id ctx → (Agree c d settings ↔ (.str id ∈ values ↔ .str "" ∈ values))) ∧
    (∀ bad, settings.entry "bad_protocol_versions" = .ok bad → (Agree c d settings ↔
      (bad.asks (.str e.argumentName) = true ↔ bad.holds (.str e.defaultName) = .ok true))) ∧
    ∀ fault, settings.entry "bad_protocol_versions" = .error fault → Agree c d settings := by
  refine ⟨fun values known => ?_, fun bad => same.agree_iff named, fun fault => agree_of_unknown⟩
  have agree := same.agree_iff named known
  rw [asks_list_iff, holds_list_iff] at agree
  constructor
  · rintro span base own ctx rfl
    exact agree.mpr Iff.rfl
  · rintro span id ctx rfl
    exact agree

def wrapping (e : Node) : Context :=
  let call := Node.call onSecond (.attr onSecond (.name onSecond "ssl" .load) "wrap_socket" .load) []
    [.keyword onSecond (some "ssl_version") e]
  { node := some call, call := some call, qualname := some "ssl.wrap_socket", name := some "wrap_socket" }

def defaulting (e : Node) : Context :=
  let arguments := Node.arguments [] [.arg onSecond "v" none] none [] [] none [e]
  { node := some (.functionDef onSecond false "f" arguments [.pass onSecond] [] none), aliases := some [] }

theorem sameVersion_defaulting (e : Node) : SameVersion (wrapping e) (defaulting e) e where
  call := ⟨_, _, _, rfl, rfl, ⟨_, rfl⟩, ⟨_, rfl⟩⟩
  other := show some _ ≠ some _ by decide
  definition := ⟨_, _, _, _, _, _, _, _, _, _, _, _, rfl⟩
  aliases := ⟨_, rfl⟩

theorem attribute_agreed :
    Agree (wrapping (.attr onSecond (.name onSecond "ssl" .load) "PROTOCOL_SSLv2" .load))
      (defaulting (.attr onSecond (.name onSecond "ssl" .load) "PROTOCOL_SSLv2" .load)) badProtocolVersions := by
  have named : (Node.attr onSecond (.name onSecond "ssl" .load) "PROTOCOL_SSLv2" .load).Names :=
    show '.' ∉ "PROTOCOL_SSLv2".toList by decide
  exact ((agree_on_version (sameVersion_defaulting _) named _).1 _ rfl).1 _ _ _ _ rfl

/-- A version that is imported by its name is bad in a call, and is overlooked in a definition. -/
theorem imported_overlooked :
    Flags sslWithBadVersion (wrapping (.name onSecond "PROTOCOL_SSLv2" .load)) badProtocolVersions ∧
      ¬ Flags sslWithBadDefaults (defaulting (.name onSecond "PROTOCOL_SSLv2" .load)) badProtocolVersions := by
  have same := sameVersion_defaulting (.name onSecond "PROTOCOL_SSLv2" .load)
  obtain ⟨_, _, _, site⟩ := same.call
  obtain ⟨_, names⟩ := same.defaultNames
  rw [flags_badVersion_iff site trivial same.other rfl, flags_badDefaults_iff names trivial rfl]
  exact ⟨by decide, by decide⟩

end Rule

end SourceAudit
