import SourceAudit.Proofs.Banned

/-! Rules of the catalogue with default settings answer at every place of their kind, unless a call has a hazard, and
then some rule fails. -/

namespace SourceAudit

open List Catalogue Value Option Context

variable {f : Bool → Answer (Option Issue)} {n k : Node} {aliases : Aliases} {lines : List (List Char)}

variable {t : Text} {place : Span} {body : List Node} {type : Option Node} {id : Option String}

def Rule.defaults (r : Rule) : Value := (r.settings.map Prod.snd).getD .null

def Rule.Flags (r : Rule) (c : Context) (settings : Value) : Prop := ∃ i, r.run c settings = .ok (some i)

theorem Rule.flags_bind_iff {α : Type} {x : Answer α} {f : α → Answer (Option Issue)} {a : α}
    (told : ∃ i, f a = .ok (some i)) (silent : ∀ b, b ≠ a → f b = .ok none) :
    (∃ i, x >>= f = .ok (some i)) ↔ x = .ok a := by
  simp only [Answers.bind_eq_ok]
  constructor
  · rintro ⟨i, b, rfl, reported⟩
    by_contra other
    rw [silent b fun same => other (congrArg _ same)] at reported
    cases reported
  · rintro rfl
    obtain ⟨i, reported⟩ := told
    exact ⟨i, a, rfl, reported⟩

namespace Context.Calls

variable {c : Context} {span : Span} {func : Node} {args keywords : List Node}

section

variable (site : c.Calls span func args keywords)

include site

theorem answered_callParts : Answered c.callParts := by
  rw [site.callParts]
  exact answered_ok _

theorem answered_theNode : Answered c.theNode := by
  rw [site.theNode]
  exact answered_ok _

theorem answered_argAt (clear : Clear args keywords) : Answered (c.argAt 0) ∧ Answered (c.argAt 1) :=
  ⟨⟨_, site.argAt (clear.at_ 0), trivial⟩, ⟨_, site.argAt (clear.at_ 1), trivial⟩⟩

end

end Context.Calls

namespace Rule

variable {c : Context} {span : Span} {func : Node} {args keywords : List Node}

theorem answered_checked (check : String) (own : List Rule)
    (named : rules.filter (fun r => r.checks.contains check) = own) (each : ∀ r ∈ own, Answered (r.run c r.defaults)) :
    ∀ r ∈ rules, check ∈ r.checks → Answered (r.run c r.defaults) := by
  intro r mem checked
  apply each
  rw [← named, mem_filter, contains_iff_mem]
  exact ⟨mem, checked⟩

theorem entry_shellSettings : shellSettings.entry "subprocess" = .ok (namesValue subprocessFunctions) ∧
    shellSettings.entry "shell" = .ok (namesValue shellFunctions) ∧
    shellSettings.entry "no_shell" = .ok (namesValue noShellFunctions) := by
  simp [shellSettings, Value.entry, Value.lookup, Value.equals_str]

theorem answered_calls (c : Context) (key : String) (known : key ∈ ["subprocess", "shell", "no_shell"]) :
    Answered (calls c shellSettings key) := by
  simp only [mem_cons, not_mem_nil, or_false] at known
  rcases known with rfl | rfl | rfl <;> simp only [calls, entry_shellSettings] <;> exact answered_ok _

section

variable (site : c.Calls span func args keywords) (clear : Context.Calls.Clear args keywords)

include site clear

theorem answered_hasShell : Answered (hasShell c) := by
  unfold hasShell
  rw [site.callParts]
  apply Brings.bind (answered_ok _)
  rintro ⟨parts, named⟩ -
  apply Brings.bind (site.keywordsOr clear .wrongKind)
  intro given _
  split
  · exact answered_ok _
  · exact answered_ok _

theorem answered_ofArgs (later : ∀ text, Answered (f text)) :
    Answered (do
      if (← c.callArgs).isEmpty then return none
      f (← firstArgIsText c)) := by
  rw [site.callArgs clear.positional]
  unfold firstArgIsText
  rw [site.callParts]
  cases args with
  | nil => exact answered_pure _
  | cons a rest => exact later a.isText

theorem answered_popenWithShell : Answered (popenWithShell.run c shellSettings) := by
  dsimp only [popenWithShell, shellRule, configured]
  split
  · exact answered_pure _
  · refine .bind (answered_calls c _ (by decide)) fun asked _ => ?_
    split
    · exact answered_pure _
    · refine .bind (answered_hasShell site clear) fun shell _ => ?_
      split
      · exact answered_pure _
      · refine answered_ofArgs site clear fun text => ?_
        split <;> exact answered_pure _

theorem answered_processWithShell : Answered (processWithShell.run c shellSettings) := by
  dsimp only [processWithShell, shellRule, configured]
  split
  · exact answered_pure _
  · refine .bind (answered_calls c _ (by decide)) fun asked _ => ?_
    split
    · exact answered_pure _
    · refine answered_ofArgs site clear fun text => ?_
      split <;> exact answered_pure _

theorem answered_processWithPartialPath : Answered (processWithPartialPath.run c shellSettings) := by
  have known : Answered (anyAnswer (calls c shellSettings) ["subprocess", "shell", "no_shell"]) :=
    answered_anyAnswer fun key mem => answered_calls c key mem
  dsimp only [processWithPartialPath, shellRule, configured]
  rw [site.callArgs clear.positional]
  split
  · exact answered_pure _
  · refine .bind (answered_ok _) fun given _ => ?_
    split
    · exact answered_pure _
    · refine .bind known fun asked _ => ?_
      split
      · exact answered_pure _
      · refine .bind site.answered_callParts fun parts _ => ?_
        exact answered_pure _

theorem answered_hashCall (function : String) : Answered (hashCall c function) := by
  obtain ⟨_, asked, -⟩ := site.callKeywords clear.named
  unfold hashCall
  rw [asked, site.callArgs clear.positional]
  simp only [bind, Except.bind]
  split
  · exact answered_pure _
  · split
    · split
      · exact answered_pure _
      · exact answered_pure _
    · exact answered_pure _

theorem answered_cryptCall (function : String) : Answered (cryptCall c function) := by
  unfold cryptCall
  rw [site.callArgs clear.positional]
  refine .bind (answered_ok _) fun given _ => .bind (site.keywordsOr clear _) fun keywords _ => ?_
  dsimp only
  split
  · exact answered_pure _
  · exact answered_pure _

theorem answered_insecureHash (settings : Value) : Answered (insecureHash.run c settings) := by
  obtain ⟨qualname, called⟩ := site.qualname
  dsimp only [insecureHash, plain]
  rw [called]
  dsimp only
  split
  · exact answered_hashCall site clear _
  · split
    · exact answered_cryptCall site clear _
    · exact answered_pure _

end

theorem answered_libraryOf (site : c.Calls span func args keywords) : Answered (libraryOf c) := by
  exact Brings.bind site.qualnameParts fun parts _ => answered_pure _

theorem answered_importedParts (site : c.Calls span func args keywords) (module : String) :
    Answered (importedParts? c module) := by
  unfold importedParts?
  split
  · exact answered_pure _
  · exact Brings.bind site.qualnameParts fun parts _ => answered_pure _

theorem brings_badVersions : Brings (badProtocolVersions.entry "bad_protocol_versions") fun bad =>
    ∀ v, Answered (bad.holds v) := by
  exact ⟨_, rfl, fun v => answered_ok _⟩

theorem answered_loaders (site : c.Calls span func args keywords) (clear : Context.Calls.Clear args keywords)
    (loaders : List String) : Answered (loaders.mapM fun l => c.argIs "Loader" (.str l)) := by
  have each (l : String) : ∃ b, c.argIs "Loader" (.str l) = .ok b := by
    obtain ⟨b, asked, -⟩ := site.argIs clear "Loader" (.str l)
    exact ⟨b, asked⟩
  obtain ⟨found, asked⟩ := Answers.exists_mapM_iff.mpr fun l (_ : l ∈ loaders) => each l
  exact ⟨found, asked, trivial⟩

theorem answered_call (site : c.Calls span func args keywords) (safe : ¬ c.Hazard span func args keywords)
    (timely : c.TracesInTime (.call span func args keywords) args) :
    ∀ r ∈ rules, "Call" ∈ r.checks → Answered (r.run c r.defaults) := by
  have clear := clear_of_safe safe
  obtain ⟨name, called⟩ := site.name
  have key : Answered (weakKey.run c weakKey.defaults) := answered_weakKey site safe
  have popen : Answered (popenWithShell.run c popenWithShell.defaults) := answered_popenWithShell site clear
  have shell : Answered (processWithShell.run c processWithShell.defaults) := answered_processWithShell site clear
  have path : Answered (processWithPartialPath.run c processWithPartialPath.defaults) :=
    answered_processWithPartialPath site clear
  simp only [rules, forall_mem_cons, not_mem_nil, false_implies, implies_true, and_true]
  and_intros
  all_goals first
    | exact fun elsewhere => absurd elsewhere (by decide)
    | intro _
  -- the rules with a lemma of their own first; the others ask one question after the other
  all_goals first
    | with_reducible assumption
    | with_reducible exact answered_hardcodedPasswordFuncarg site safe _
    | with_reducible exact answered_djangoMarkSafe site safe timely _
    | with_reducible exact answered_djangoRawSql site safe _
    | with_reducible exact answered_tarfileUnsafeMembers site safe _
    | with_reducible exact answered_insecureHash site clear _
    | dsimp only [defaults, plain, configured, shellRule, otherFunctionWithShell, djangoExtra, execUsed,
        flaskDebugTrue, jinjaAutoescape, wildcardInjection, loggingListen, paramikoCalls, pytorchLoadSave,
        noCertValidation, requestWithoutTimeout, badFilePermissions, snmpInsecureVersion, snmpWeakCryptography,
        noHostKeyVerification, sslWithBadVersion, sslWithNoVersion, processWithoutShell, subprocessWithoutShell,
        makoTemplates, yamlLoad, Option.map_some, Option.getD_some]
  all_goals try simp only [called, site.callArgsCount]
  all_goals repeat' first
    | with_reducible exact answered_pure _
    | with_reducible refine .bind (site.argIs clear _ _) fun _ _ => ?_
    | with_reducible refine .bind (site.checkArgValue clear _ _) fun _ _ => ?_
    | with_reducible refine .bind (site.keywordsOr clear _) fun _ _ => ?_
    | with_reducible refine .bind site.theQualname fun _ _ => ?_
    | with_reducible refine .bind site.answered_callParts fun _ _ => ?_
    | with_reducible refine .bind site.answered_theNode fun _ _ => ?_
    | with_reducible refine .bind (site.answered_argAt clear).1 fun _ _ => ?_
    | with_reducible refine .bind (site.answered_argAt clear).2 fun _ _ => ?_
    | with_reducible refine .bind (answered_calls c _ (by decide)) fun _ _ => ?_
    | with_reducible refine .bind (answered_hasShell site clear) fun _ _ => ?_
    | with_reducible refine .bind (answered_libraryOf site) fun _ _ => ?_
    | with_reducible refine .bind (answered_importedParts site _) fun _ _ => ?_
    | with_reducible refine .bind brings_badVersions fun _ _ => ?_
    | with_reducible refine .bind (answered_loaders site clear _) fun _ _ => ?_
    | with_reducible refine .bind (answered_pure _) fun _ _ => ?_
    | contradiction
    | split

def SomeFails (c : Context) : Prop :=
  (∃ r ∈ Catalogue.rules, "Call" ∈ r.checks ∧ ∃ fault, r.run c r.defaults = .error fault) ∨
    ∃ fault, blacklistRun c Banned.data = .error fault

section

variable (site : c.Calls span func args keywords)

include site

theorem fails_processWithPartialPath (mem : n ∈ args)
    (bad : n.hasBadSet) : ∃ fault, processWithPartialPath.run c shellSettings = .error fault := by
  obtain ⟨fault, failed⟩ := site.exists_callArgs_error mem bad
  refine ⟨fault, ?_⟩
  dsimp only [processWithPartialPath, shellRule, configured]
  rw [failed]
  rfl

theorem exists_hasShell_error (mem : k ∈ keywords) (bad : k.handed.hasBadSet) : ∃ fault, hasShell c = .error fault := by
  obtain ⟨fault, failed⟩ := site.exists_callKeywords_error mem bad
  refine ⟨fault, ?_⟩
  rw [hasShell, site.callParts, keywordsOr, failed]
  rfl

theorem fails_withShell (mem : k ∈ keywords) (bad : k.handed.hasBadSet) :
    (∃ fault, subprocessWithoutShell.run c shellSettings = .error fault) ∨
      ∃ fault, otherFunctionWithShell.run c shellSettings = .error fault := by
  obtain ⟨fault, failed⟩ := exists_hasShell_error site mem bad
  obtain ⟨asked, known, -⟩ := answered_calls c "subprocess" (by decide)
  cases asked with
  | true =>
    refine .inl ⟨fault, ?_⟩
    dsimp only [subprocessWithoutShell, shellRule, configured]
    rw [known, failed]
    rfl
  | false =>
    refine .inr ⟨fault, ?_⟩
    dsimp only [otherFunctionWithShell, shellRule, configured]
    rw [known, failed]
    rfl

theorem someFails_of_badSet (given : n ∈ args ∨ ∃ k ∈ keywords, k.handed = n) (bad : n.hasBadSet) : SomeFails c := by
  rcases given with mem | ⟨k, mem, rfl⟩
  · exact .inl ⟨processWithPartialPath, by simp [rules], by decide, fails_processWithPartialPath site mem bad⟩
  · rcases fails_withShell site mem bad with subprocess | other
    · exact .inl ⟨subprocessWithoutShell, by simp [rules], by decide, subprocess⟩
    · exact .inl ⟨otherFunctionWithShell, by simp [rules], by decide, other⟩

theorem someFails_of_hazard (hazard : c.Hazard span func args keywords) : SomeFails c := by
  by_cases clear : Context.Calls.Clear args keywords
  · cases hazard with
    | badSet n given bad => exact someFails_of_badSet site given bad
    | unnamedImport called other empty unnamed => exact .inr (fails_blacklist site clear called other empty unnamed _)
    | missingQuery imported called empty unnamed =>
      exact .inl ⟨djangoRawSql, by simp [rules], by decide, fails_djangoRawSql site _ imported called empty unnamed⟩
    | unpackedText k first unpacks =>
      exact .inl ⟨hardcodedPasswordFuncarg, by simp [rules], by decide,
        fails_hardcodedPasswordFuncarg site _ first unpacks⟩
    | computedMembers imported called unfiltered place maker parts named given computed =>
      exact .inl ⟨tarfileUnsafeMembers, by simp [rules], by decide,
        fails_tarfileUnsafeMembers site clear _ imported called unfiltered given computed⟩
    | keySize function keyword position mem called n given odd =>
      exact .inl ⟨weakKey, by simp [rules], by decide, fails_weakKey_size site clear mem called given odd⟩
    | keyCurve called n given changes =>
      exact .inl ⟨weakKey, by simp [rules], by decide, fails_weakKey_curve site clear called given changes⟩
    | nothingMarked imported called empty =>
      exact .inl ⟨djangoMarkSafe, by simp [rules], by decide, fails_djangoMarkSafe site _ imported called (.inl empty)⟩
    | untraceable imported called marked others given open_ lost =>
      cases traced : MarkSafe.traced MarkSafe.depth c.scope (.call span func args keywords) marked with
      | ok harmless => exact absurd traced (lost _ _)
      | error fault =>
        exact .inl ⟨djangoMarkSafe, by simp [rules], by decide,
          fails_djangoMarkSafe site _ imported called (.inr ⟨marked, others, fault, given, open_, traced⟩)⟩
  · -- some argument spells no value, whatever else is wrong
    have bad : ∃ n, (n ∈ args ∨ ∃ k ∈ keywords, k.handed = n) ∧ n.hasBadSet = true := by
      by_contra fine
      push Not at fine
      refine clear ⟨?_, ?_⟩
      · intro n mem
        simpa using fine n (.inl mem)
      · intro k mem
        simpa using fine k.handed (.inr ⟨k, mem, rfl⟩)
    obtain ⟨n, given, bad⟩ := bad
    exact someFails_of_badSet site given bad

end

theorem answered_beginsWith (t : Text) (names : List String) :
    Answered (anyAnswer (fun d => d.beginsWith t) (names.map str)) := by
  apply answered_anyAnswer
  intro d mem
  obtain ⟨_, -, rfl⟩ := mem_map.mp mem
  exact answered_ok _

theorem answered_hardcodedTmpDirectory (text : c.text = some t) :
    Answered (hardcodedTmpDirectory.run c hardcodedTmpDirectory.defaults) := by
  have held : holds (.dict [(.str "tmp_dirs", tmpDirectories)]) (.str "tmp_dirs") = .ok true := by
    rfl
  have dirs : Value.entry "tmp_dirs" (.dict [(.str "tmp_dirs", tmpDirectories)]) = .ok tmpDirectories := by
    simp [Value.entry, Value.lookup, Value.equals_str]
  dsimp only [hardcodedTmpDirectory, configured, defaults, Option.map_some, Option.getD_some]
  simp only [held, dirs, text, bind, Except.bind]
  exact .bind (answered_beginsWith t _) fun found _ => answered_pure _

theorem answered_hardcodedPasswordString (node : c.node = some (.constant place (.text t)))
    (around : c.ancestors ≠ []) (settings : Value) : Answered (hardcodedPasswordString.run c settings) := by
  obtain ⟨_, _, enclosed⟩ := exists_cons_of_ne_nil around
  have here : c.theNode = .ok (.constant place (.text t)) := by
    rw [theNode, node]
    rfl
  dsimp only [hardcodedPasswordString, plain]
  rw [here, enclosed]
  simp only [bind, Except.bind, Node.textOf?, map_cons]
  split
  · exact answered_pure _
  · split
    · split
      · exact answered_pure _
      · exact answered_pure _
    · exact answered_pure _
  · exact answered_pure _
  · contradiction

theorem answered_text (node : c.node = some (.constant place (.text t))) (text : c.text = some t)
    (around : c.ancestors ≠ []) : ∀ r ∈ rules, "Str" ∈ r.checks → Answered (r.run c r.defaults) := by
  have here : Answered c.theNode := by
    rw [theNode, node]
    exact answered_ok _
  refine answered_checked "Str" [bindAllInterfaces, hardcodedPasswordString, hardcodedSql, hardcodedTmpDirectory] rfl ?_
  simp only [forall_mem_cons, not_mem_nil, false_implies, implies_true, and_true]
  and_intros
  · exact answered_pure _
  · exact answered_hardcodedPasswordString node around _
  · exact .bind here fun n _ => answered_pure _
  · exact answered_hardcodedTmpDirectory text

theorem answered_defaultNames (known : c.aliases = some aliases) : Answered c.defaultNames := by
  unfold defaultNames
  rw [known]
  exact answered_ok _

theorem answered_function {async : Bool} {id : String} {parameters : Node} {decorators : List Node}
    {returns : Option Node} (node : c.node = some (.functionDef place async id parameters body decorators returns))
    (known : c.aliases = some aliases) :
    ∀ r ∈ rules, "FunctionDef" ∈ r.checks → Answered (r.run c r.defaults) := by
  refine answered_checked "FunctionDef" [hardcodedPasswordDefault, sslWithBadDefaults] rfl ?_
  simp only [forall_mem_cons, not_mem_nil, false_implies, implies_true, and_true]
  and_intros
  · dsimp only [hardcodedPasswordDefault, plain]
    rw [node]
    exact answered_pure _
  · refine .bind brings_badVersions fun bad known => .bind (answered_defaultNames ‹_›) fun names _ => ?_
    refine .bind (answered_anyAnswer fun d _ => known _) fun found _ => ?_
    exact answered_pure _

theorem answered_idleHandler (node : c.node = some (.exceptHandler place type id body)) (code name : String)
    (idle : Node → Bool) (text : String) : Answered ((idleHandler code name idle text).run c handlerSettings) := by
  have known : handlerSettings.entry "check_typed_exception" = .ok (.bool false) := by
    simp [handlerSettings, Value.entry, Value.lookup, Value.equals_str]
  dsimp only [idleHandler, configured]
  rw [node, known]
  dsimp only
  split
  · refine .bind (answered_ok _) fun typed _ => ?_
    -- by the type of the handler, then by whether handlers of this type count
    split
    · split
      · exact answered_pure _
      · exact answered_pure _
    · split
      · exact answered_pure _
      · exact answered_pure _
  · exact answered_pure _

theorem answered_handler (node : c.node = some (.exceptHandler place type id body)) :
    ∀ r ∈ rules, "ExceptHandler" ∈ r.checks → Answered (r.run c r.defaults) := by
  refine answered_checked "ExceptHandler" [tryExceptContinue, tryExceptPass] rfl ?_
  simp only [forall_mem_cons, not_mem_nil, false_implies, implies_true, and_true]
  and_intros
  · exact answered_idleHandler node _ _ _ _
  · exact answered_idleHandler node _ _ _ _

theorem answered_assertion : ∀ r ∈ rules, "Assert" ∈ r.checks → Answered (r.run c r.defaults) := by
  refine answered_checked "Assert" [assertUsed] rfl ?_
  rw [forall_mem_singleton]
  have skips : Value.entryD (.dict [(.str "skips", .list [])]) "skips" (.list []) = .ok (.list []) := by
    simp [Value.entryD, Value.lookup, Value.equals_str]
  dsimp only [assertUsed, configured, defaults, Option.map_some, Option.getD_some]
  exact answered_pure _

theorem answered_file {b : Bytes} (contents : c.contents = some b) (decoded : Source.textLines? b = some lines) :
    ∀ r ∈ rules, "File" ∈ r.checks → Answered (r.run c r.defaults) := by
  refine answered_checked "File" [trojanSource] rfl ?_
  rw [forall_mem_singleton]
  dsimp only [trojanSource, plain]
  rw [contents]
  dsimp only
  rw [decoded]
  exact answered_pure _

end Rule

end SourceAudit
