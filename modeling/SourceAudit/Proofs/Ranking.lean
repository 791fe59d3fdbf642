import SourceAudit.Proofs.Literals
import SourceAudit.Proofs.Tally

/-! What issues of the catalogue are like: graded, with the id and name of the rule, and a text drawn from literals. -/

namespace SourceAudit

open Answers List

variable {confidence severity : Rank} {weakness : Int} {text : Text} {line : Option Int}

theorem ranked_of_names {i : Issue} (severity confidence : Rank) (severe : i.severity = severity.name)
    (sure : i.confidence = confidence.name) : i.Ranked := by
  intro scale
  rw [Option.isSome_iff_exists]
  cases scale with
  | severity => exact ⟨severity, Rank.ofName?_eq_some.mpr severe⟩
  | confidence => exact ⟨confidence, Rank.ofName?_eq_some.mpr sure⟩

theorem ranked_finding : (finding severity confidence weakness text line).Ranked :=
  ranked_of_names severity confidence rfl rfl

/-- An issue is graded: it has ranks, and neither its severity nor its weakness is left open. -/
structure Issue.Graded (i : Issue) : Prop where
  ranked : i.Ranked
  severe : i.severity ≠ Rank.undefined.name
  known : i.weakness.id ≠ 0

theorem Rank.name_ne_undefined {r : Rank} (other : r ≠ .undefined) : r.name ≠ Rank.undefined.name := by
  cases r with
  | undefined => exact absurd rfl other
  | _ => decide

theorem graded_finding (severe : severity ≠ .undefined) (known : weakness ≠ 0) :
    (finding severity confidence weakness text line).Graded :=
  ⟨ranked_finding, Rank.name_ne_undefined severe, known⟩

def Ranks (x : Answer (Option Issue)) : Prop := ∀ i, x = .ok (some i) → i.Ranked

def Grades (x : Answer (Option Issue)) : Prop := ∀ i, x = .ok (some i) → i.Graded

theorem Grades.ranks {x : Answer (Option Issue)} (grades : Grades x) : Ranks x := fun i same => (grades i same).ranked

def Only (demand : Issue → Prop) (x : Answer (Option Issue)) : Prop := ∀ i, x = .ok (some i) → demand i

namespace Only

variable {demand : Issue → Prop} {i : Issue} {α : Type} {x y : Answer (Option Issue)}

theorem fault (f : Fault) : Only demand (throw f) := by rintro i ⟨⟩

theorem nothing : Only demand (pure none) := by rintro i ⟨⟩

theorem report (met : demand i) : Only demand (pure (some i)) := by
  rintro _ ⟨⟩
  exact met

theorem reportIf {condition : Bool} (met : condition = true → demand i) : Only demand (pure (reportIf condition i)) := by
  cases condition with
  | false => exact nothing
  | true => exact report (met rfl)

theorem map {f : α → Issue} (met : ∀ a, demand (f a)) (a : Option α) : Only demand (pure (a.map f)) := by
  cases a with
  | none => exact nothing
  | some a => exact report (met a)

theorem findSome {f : α → Option Issue} {items : List α} (each : ∀ a ∈ items, Only demand (pure (f a))) :
    Only demand (pure (items.findSome? f)) := by
  intro i same
  obtain ⟨a, mem, reported⟩ := exists_of_findSome?_eq_some (Except.ok.inj same)
  exact each a mem i (congrArg Except.ok reported)

theorem bind {asked : Answer α} {f : α → Answer (Option Issue)} (later : ∀ a, asked = .ok a → Only demand (f a)) :
    Only demand (asked >>= f) := by
  intro i same
  obtain ⟨a, brought, same⟩ := bind_eq_ok.mp same
  exact later a brought i same

theorem orElse (first : Only demand x) (second : Only demand y) :
    Only demand (do match ← x with | some i => return some i | none => y) := by
  intro i same
  obtain ⟨found, asked, same⟩ := bind_eq_ok.mp same
  cases found with
  | none => exact second i same
  | some j =>
    cases same
    exact first i asked

end Only

namespace Rule

variable {c : Context} {settings : Value}

/-- An issue of a rule of the catalogue is graded, without a test id, and its text is drawn from literals there. -/
structure Yields (c : Context) (i : Issue) : Prop where
  graded : i.Graded
  unsigned : i.testId = ""
  drawn : i.text.DrawnFrom c.HasText

theorem yields_finding (severe : severity ≠ .undefined) (known : weakness ≠ 0) (drawn : text.DrawnFrom c.HasText) :
    Yields c (finding severity confidence weakness text line) :=
  ⟨graded_finding severe known, rfl, drawn⟩

theorem yields_passwordIssue {t : Text} (held : c.HasText t) : Yields c (passwordIssue t) :=
  yields_finding (by decide) (by decide) (by simpa using Text.drawnFrom_of_held held)

theorem only_comparedSecret {n : Node} (held : ∀ t, n.HasText t → c.HasText t) :
    Only (Yields c) (pure (comparedSecret n)) := by
  unfold comparedSecret
  split
  · rename_i place t rest
    have literal : c.HasText t := held t (.inside (by simp [Node.groups]) (.literal place t))
    split
    · exact .reportIf fun _ => yields_passwordIssue literal
    · exact .nothing
  · exact .nothing

theorem only_hardcodedPasswordString : Only (Yields c) (hardcodedPasswordString.run c settings) := by
  have around (n : Node) (mem : n ∈ c.ancestors.map Ancestor.node) (t : Text) (within : n.HasText t) :
      c.HasText t := by
    obtain ⟨a, there, rfl⟩ := mem_map.mp mem
    exact .around there within
  refine .bind fun node here => ?_
  have placed : c.node = some node := by
    unfold Context.theNode at here
    cases at_ : c.node <;> simp_all
  split
  · rename_i t own
    split
    · obtain ⟨place, rfl⟩ := Node.exists_of_textOf? own
      exact .reportIf fun _ => yields_passwordIssue (.node placed (.literal place t))
    · split
      · split
        · rename_i span targets place value tail outer
          refine .report (yields_passwordIssue (around (.assign span targets (.constant place (.text value))) ?_ value ?_))
          · simp [outer]
          · exact .inside (by simp [Node.groups]) (.literal place value)
        · exact .nothing
      · exact .nothing
    · rename_i outer
      exact only_comparedSecret (around _ (by simp [outer]))
    · exact .fault _
  · exact .fault _

theorem hasText_of_secretArgument {k : Node} {t : Text} (told : secretArgument k = .ok (some t)) : k.HasText t := by
  unfold secretArgument at told
  split at told
  · rename_i place own
    split at told
    · split at told <;> cases told
      exact .inside (by simp [Node.groups]) (.literal place t)
    · cases told
  · cases told

theorem only_hardcodedPasswordFuncarg : Only (Yields c) (hardcodedPasswordFuncarg.run c settings) := by
  refine .bind fun parts asked => .bind fun found searched => ?_
  split
  · refine .bind fun t told => ?_
    cases t with
    | none => exact .nothing
    | some t =>
      refine .report (yields_passwordIssue ?_)
      unfold Context.callParts at asked
      split at asked <;> cases asked
      have mem := mem_of_findAnswer searched
      exact .node ‹_› (.inside (by simpa [Node.groups] using .inr (.inr mem)) (hasText_of_secretArgument told))
  · exact .nothing

theorem only_hardcodedPasswordDefault : Only (Yields c) (hardcodedPasswordDefault.run c settings) := by
  dsimp only [hardcodedPasswordDefault, plain]
  split
  · rename_i parameters body decorators returns here
    refine .findSome fun p mem => ?_
    split
    · rename_i place t
      refine .reportIf fun _ => yields_passwordIssue (.node here ?_)
      have given := (of_mem_zip mem).2
      refine .inside (c := parameters) (by simp [Node.groups]) (.inside ?_ (.literal place t))
      split at given
      · have member := by simpa using given
        simp [Node.groups, member]
      · simp at given
    · exact .nothing
  · exact .fault _

theorem only_badFilePermissions : Only (Yields c) (badFilePermissions.run c settings) := by
  dsimp only [badFilePermissions, plain]
  split
  · exact .fault _
  · split
    · refine .bind fun mode _ => ?_
      split
      · split
        · refine .bind fun v given => ?_
          have shown := Context.drawnFrom_argAt given
          refine .report (yields_finding ?_ (by decide) ?_)
          · split <;> decide
          · split <;> simp_all
        · exact .nothing
      · exact .nothing
    · exact .nothing

theorem drawnFrom_argumentAtOr {args : List Value} {keywords : Fields} (mem : c.callArgs = .ok args)
    (given : c.callKeywords = .ok (some keywords)) {position : Nat} {name : String} {t : Text}
    (picked : argumentAtOr args position keywords name = .text t) : t.DrawnFrom c.HasText := by
  change (Value.text t).display.DrawnFrom c.HasText
  unfold argumentAtOr at picked
  cases at_ : args[position]? with
  | some v =>
    rw [at_, Option.getD_some] at picked
    exact picked ▸ Context.drawnFrom_callArgs mem (mem_of_getElem? at_)
  | none =>
    rw [at_, Option.getD_none] at picked
    cases found : Value.lookup (.str name) keywords with
    | none => simp [found] at picked
    | some v =>
      rw [found, Option.getD_some] at picked
      exact picked ▸ Context.drawnFrom_callKeywords given found

theorem only_hashCall (function : String) : Only (Yields c) (hashCall c function) := by
  have weak {name : Text} (drawn : name.DrawnFrom c.HasText) : Yields c (weakHashIssue c name) :=
    yields_finding (by decide) (by decide) (by simpa using drawn.capitals)
  refine .bind fun keywords given => ?_
  split
  · cases keywords with
    | none => exact .fault _
    | some keywords => exact .reportIf fun _ => weak (Text.drawnFrom_ofString _)
  · split
    · refine .bind fun args mem => ?_
      cases keywords with
      | none => exact .fault _
      | some keywords =>
        dsimp only
        split
        · exact .reportIf fun _ => weak (drawnFrom_argumentAtOr mem given ‹_›)
        · exact .nothing
    · exact .nothing

theorem only_cryptCall (function : String) : Only (Yields c) (cryptCall c function) := by
  refine .bind fun args mem => .bind fun keywords given => ?_
  obtain ⟨found, given, same⟩ := bind_eq_ok.mp given
  cases found with
  | none => cases same
  | some ks =>
    cases same
    dsimp only
    split
    · rename_i name picked
      have drawn : name.DrawnFrom c.HasText := by split at picked <;> exact drawnFrom_argumentAtOr mem given picked
      exact .reportIf fun _ => yields_finding (by decide) (by decide) (by simpa using drawn.capitals)
    · exact .nothing

theorem only_classifyKey (kind : KeyKind) (size : Value) : Only (Yields c) (classifyKey settings kind size) := by
  have issued {severity : Rank} (severe : severity ≠ .undefined) (limit : Value) :
      Only (Yields c) (some <$> keySizeIssue kind severity limit) := by
    intro i same
    obtain ⟨_, same, ⟨⟩⟩ := map_eq_ok.mp same
    obtain ⟨_, -, ⟨⟩⟩ := bind_eq_ok.mp same
    exact yields_finding severe (by decide) (by simp)
  unfold classifyKey
  split
  · exact .nothing
  · refine .bind fun _ _ => .bind fun high _ => .bind fun medium _ => .bind fun low _ => ?_
    split
    · exact issued (by decide) high
    · refine .bind fun low _ => ?_
      split
      · exact issued (by decide) medium
      · exact .nothing

theorem only_weakKey : Only (Yields c) (weakKey.run c settings) := by
  have primitives : Only (Yields c) (primitivesKey c settings) := by
    unfold primitivesKey
    split
    · exact .bind fun size _ => only_classifyKey _ _
    · exact .bind fun size _ => only_classifyKey _ _
    · exact .bind fun curve _ => .bind fun size _ => only_classifyKey _ _
    · exact .nothing
  have others : Only (Yields c) (publicKey c settings) := by
    unfold publicKey
    split
    · exact .bind fun size _ => only_classifyKey _ _
    · exact .nothing
  exact .orElse primitives others

theorem proper_qualname : Text.Proper c.qualnameValue.display := by
  unfold Context.qualnameValue
  cases c.qualname with
  | none => exact Text.proper_ofString "None"
  | some name => exact Text.proper_ofString name

theorem proper_record {n : Node} {m : Members} (made : membersOf n = .ok m) : Text.Proper m.record.render := by
  unfold membersOf at made
  split at made <;> cases made <;>
    simp [Members.record, Value.render, Value.renderEntries, Value.commas, Segments.join, Value.str, Text.proper_quoted]

theorem only_trojanSource : Only (Yields c) (trojanSource.run c settings) := by
  dsimp only [trojanSource, plain]
  split
  · exact .fault _
  · split
    · exact .fault _
    · refine .findSome fun _ _ => .map (fun p => ?_) _
      exact ⟨⟨ranked_of_names .high .medium rfl rfl, Rank.name_ne_undefined (r := .high) (by decide),
        (by decide : (838 : Int) ≠ 0)⟩, rfl,
        (by simp [finding, Text.proper_quoted] : Text.Proper _).drawnFrom⟩

theorem only_catalogue : ∀ r ∈ Catalogue.rules, Only (Yields c) (r.run c settings) := by
  simp only [Catalogue.rules, forall_mem_cons, not_mem_nil, false_implies, implies_true, and_true]
  and_intros
  all_goals first
    | with_reducible exact only_weakKey
    | with_reducible exact only_trojanSource
    | with_reducible exact only_hardcodedPasswordString
    | with_reducible exact only_hardcodedPasswordFuncarg
    | with_reducible exact only_hardcodedPasswordDefault
    | with_reducible exact only_badFilePermissions
    | dsimp only [plain, configured, shellRule, idleHandler, otherFunctionWithShell, assertUsed, djangoExtra,
        djangoMarkSafe, djangoRawSql, execUsed, flaskDebugTrue, bindAllInterfaces, hardcodedSql, hardcodedTmpDirectory,
        insecureHash, jinjaAutoescape, wildcardInjection, loggingListen, paramikoCalls, pytorchLoadSave,
        noCertValidation, requestWithoutTimeout, snmpInsecureVersion, snmpWeakCryptography, noHostKeyVerification,
        sslWithBadDefaults, sslWithBadVersion, sslWithNoVersion, processWithShell, processWithoutShell,
        processWithPartialPath, popenWithShell, subprocessWithoutShell, tarfileUnsafeMembers, tryExceptContinue,
        tryExceptPass, makoTemplates, yamlLoad]
  all_goals repeat' first
    | with_reducible exact .nothing
    | with_reducible exact only_hashCall _
    | with_reducible exact only_cryptCall _
    | with_reducible refine .report (yields_finding (by decide) (by decide) ?_)
    | with_reducible refine .reportIf fun _ => yields_finding (by decide) (by decide) ?_
    | with_reducible exact .fault _
    | with_reducible refine .bind fun _ _ => ?_
    | split
  all_goals simp only [Text.drawnFrom_append, Text.drawnFrom_ofString, and_true, true_and]
  all_goals first
    | exact proper_qualname.drawnFrom
    | exact (proper_record ‹membersOf _ = _›).drawnFrom

theorem grades_catalogue (r : Rule) (mem : r ∈ Catalogue.rules) : Grades (r.run c settings) :=
  fun i same => (only_catalogue r mem i same).graded

theorem ranks_catalogue (r : Rule) (mem : r ∈ Catalogue.rules) : Ranks (r.run c settings) :=
  (grades_catalogue r mem).ranks

end Rule

namespace Finding

variable {c : Context} {f : Finding} {r : ActiveRule}

theorem testId_of_seen (mem : r.rule ∈ Catalogue.rules) (found : seen c r = some f) : f.issue.testId = r.rule.id := by
  obtain ⟨raw, ran, completed, -, -⟩ := exists_of_seen found
  rw [completed.testId, (Rule.only_catalogue r.rule mem raw ran).unsigned]
  rfl

theorem testName_of_seen (found : seen c r = some f) : f.issue.testName = r.rule.testName := by
  obtain ⟨_, -, completed, -, -⟩ := exists_of_seen found
  exact completed.testName

end Finding

end SourceAudit
