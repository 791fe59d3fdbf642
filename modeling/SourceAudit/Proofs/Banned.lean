import SourceAudit.Proofs.Hazards
import SourceAudit.Proofs.Ranking

/-! The rule for banned things, with the data that hold from the start: where it answers, and what it reports. -/

namespace SourceAudit

open Answers List

namespace Banned

def data : Value := .dict (byCheck.map fun (check, bs) => (.str check, .list (bs.map record)))

theorem entry_record (b : Banned) : b.record.entry "qualnames" = .ok (namesValue b.qualnames) ∧
    b.record.entry "message" = .ok (.str b.message) := by
  simp [record, Value.entry, Value.lookup, Value.equals_str]

theorem entryD_record (b : Banned) (default : Value) : b.record.entryD "level" default = .ok (.str b.level.name) ∧
    b.record.entryD "cwe" default = .ok (.int b.weakness) ∧ b.record.entryD "id" default = .ok (.str b.id) := by
  simp [record, Value.entryD, Value.lookup, Value.equals_str]

theorem grave : ∀ b ∈ all, b.level ≠ .undefined ∧ b.weakness ≠ 0 := by decide

def Tabled (data : Value) : Prop :=
  ∀ check v, data.entry check = .ok v → ∃ bs : List Banned, (∀ b ∈ bs, b ∈ all) ∧ v = .list (bs.map record)

theorem mem_all_of_byCheck : ∀ entry ∈ byCheck, ∀ b ∈ entry.2, b ∈ all := by
  intro entry mem b member
  simp only [byCheck, mem_cons, not_mem_nil, or_false] at mem
  rcases mem with rfl | rfl | rfl
  · exact member
  · exact mem_append_right _ member
  · exact mem_append_right _ member

theorem tabled_data : Tabled data := by
  intro check v entered
  have found : Value.lookup (.str check) (byCheck.map fun (kind, bs) => (.str kind, .list (bs.map record))) =
      some v := by
    rw [data, Value.entry] at entered
    split at entered
    · exact (Except.ok.inj entered) ▸ ‹_›
    · cases entered
  obtain ⟨_, mem⟩ := Value.mem_of_lookup found
  obtain ⟨entry, member, same⟩ := mem_map.mp mem
  exact ⟨entry.2, mem_all_of_byCheck entry member, (congrArg Prod.snd same).symm⟩

end Banned

namespace Rule

theorem answered_bannedIssue {record : Value} {t : Text} (message : record.entry "message" = .ok (.text t))
    (name : Text) : Answered (bannedIssue record (.text name)) := by
  cases record with
  | dict entries =>
    unfold bannedIssue
    rw [message]
    exact answered_ok _
  | _ => cases message

theorem exists_of_bannedIssue {record name : Value} {i : Issue} (made : bannedIssue record name = .ok i) :
    ∃ message level weakness t, record.entry "message" = .ok (.text message) ∧
      record.entryD "level" (.str "MEDIUM") = .ok level ∧ record.entryD "cwe" (.int 0) = .ok weakness ∧ name = .text t ∧
      i.severity = level.display.toStringLossy ∧ i.confidence = Rank.high.name ∧
      i.weakness = ⟨match weakness with | .int n => n | _ => 0⟩ ∧ i.text = replaceName message t := by
  unfold bannedIssue at made
  obtain ⟨message, told, made⟩ := bind_eq_ok.mp made
  obtain ⟨level, graded, made⟩ := bind_eq_ok.mp made
  obtain ⟨weakness, known, made⟩ := bind_eq_ok.mp made
  obtain ⟨_, -, made⟩ := bind_eq_ok.mp made
  split at made
  · cases made
    exact ⟨_, level, weakness, _, told, graded, known, rfl, rfl, rfl, rfl, rfl⟩
  · cases made
  · cases made

def BannedBy {α : Type} (records : List Value) (names : List α) (accepts : α → Value → Answer Bool) (report : α → Value)
    (i : Issue) : Prop :=
  ∃ record ∈ records, ∃ name ∈ names, ∃ v listings, record.entry "qualnames" = .ok v ∧ v.items = .ok listings ∧
    (∃ listed ∈ listings, accepts name listed = .ok true) ∧ bannedIssue record (report name) = .ok i

variable {α : Type} {report : α → Value} {accepts : α → Value → Answer Bool}

theorem bannedBy_of_firstBanned {records : List Value} {names : List α} {i : Issue}
    (found : firstBanned records names accepts report = .ok (some i)) :
    BannedBy records names accepts report i := by
  -- what a loop carries along is nothing yet, or what the search has found
  let Told (s : Option (Option Issue) × Unit) : Prop :=
    ∀ i, s.1 = some (some i) → BannedBy records names accepts report i
  have nothing : Told (none, ()) := nofun
  have all : Ensures (firstBanned records names accepts report) fun found => Told (some found, ()) := by
    refine .bind (.forIn nothing fun record kept _ _ => .bind (.forIn nothing fun name given _ _ =>
      .bind (.itself _) fun v entered => .bind (.itself _) fun listings held =>
      .bind (.forIn nothing fun mem member _ _ => .bind (.itself _) fun accepted asked => ?_) ?_) ?_) ?_
    · cases accepted with
      | false => exact .pure nothing
      | true =>
        refine .bind (.itself _) fun issue made => .pure ?_
        rintro _ ⟨⟩
        exact ⟨record, kept, name, given, v, listings, entered, held, ⟨mem, member, asked⟩, made⟩
    · rintro ⟨_ | found, _⟩ told
      exacts [.pure nothing, .pure told]
    · rintro ⟨_ | found, _⟩ told
      exacts [.pure nothing, .pure told]
    · rintro ⟨_ | found, _⟩ told
      exacts [.pure nofun, .pure told]
  exact all _ found i rfl

theorem answered_searchListed {b : Banned} {name : α}
    (compared : ∀ mem, Brings (accepts name (.str mem)) fun found => found = true → ∃ t, report name = .text t) :
    Answered (forIn (b.qualnames.map Value.str) (none, ()) fun mem (_ : Option (Option Issue) × Unit) => do
      if ← accepts name mem then
        let issue ← bannedIssue b.record (report name)
        pure (ForInStep.done (some (some issue), ()))
      else pure (ForInStep.yield (none, ()))) := by
  apply Brings.forIn trivial
  intro mem member _ _
  obtain ⟨qualname, -, rfl⟩ := mem_map.mp member
  apply Brings.bind (compared qualname)
  intro found named
  cases found with
  | false => exact Brings.pure trivial
  | true =>
    obtain ⟨t, shown⟩ := named rfl
    rw [shown]
    have answered : Answered (bannedIssue b.record (.text t)) := answered_bannedIssue rfl t
    exact Brings.bind answered fun _ _ => Brings.pure trivial

theorem answered_firstBanned {bs : List Banned} {names : List α}
    (compared : ∀ name ∈ names, ∀ mem, Brings (accepts name (.str mem)) fun found =>
      found = true → ∃ t, report name = .text t) :
    Answered (firstBanned (bs.map Banned.record) names accepts report) := by
  refine Brings.bind (Brings.forIn trivial ?_ : Answered _) ?_
  · intro record member _ _
    obtain ⟨b, -, rfl⟩ := mem_map.mp member
    refine Brings.bind (Brings.forIn trivial ?_ : Answered _) ?_
    · intro name present _ _
      change Brings (forIn (b.qualnames.map Value.str) _ _ >>= _) _
      refine Brings.bind (answered_searchListed (compared name present)) ?_
      rintro ⟨_ | found, _⟩ _ <;> exact Brings.pure trivial
    · rintro ⟨_ | found, _⟩ _ <;> exact Brings.pure trivial
  · rintro ⟨_ | found, _⟩ _ <;> exact Brings.pure trivial

theorem exists_text_of_equals {v : Value} {s : String} (same : v.equals (.str s)) : ∃ t, v = .text t := by
  cases v with
  | text t => exact ⟨t, rfl⟩
  | _ => simp [Value.equals, Value.str, Value.number?] at same

variable {c : Context} {span : Span} {func : Node} {args keywords : List Node}

theorem answered_lookedUpName (site : c.Calls span func args keywords) (safe : ¬ c.Hazard span func args keywords) :
    Answered (lookedUpName c func args) := by
  have clear := Context.clear_of_safe safe
  unfold lookedUpName
  split
  · split <;> exact answered_ok _
  · rename_i other
    split
    · rename_i called
      rw [site.callArgsCount, site.callArgs clear.positional]
      cases args with
      | cons a rest => exact answered_ok _
      | nil =>
        apply Brings.bind (site.keywordsOr clear .wrongKind)
        intro given found
        cases named : Value.lookup (.str "name") given with
        | some v => exact answered_ok v
        | none =>
          have unnamed : keywordNamed "name" keywords = none := by
            rw [← Option.not_isSome_iff_eq_none, ← isSome_lookup_given found, named]
            simp
          refine absurd (.unnamedImport ?_ (by simpa using other) rfl unnamed) safe
          simpa using called
    · exact answered_ok _

theorem answered_calledName (bs : List Banned) (name : Value) :
    Answered (firstBanned (bs.map Banned.record) [name]
      (fun n mem => .ok (match n with | .null => false | n => n.equals mem)) fun n => n) := by
  apply answered_firstBanned
  intro asked _ mem
  refine ⟨_, rfl, ?_⟩
  intro found
  cases asked with
  | null => simp at found
  | _ => exact exists_text_of_equals found

theorem answered_blacklist_call (site : c.Calls span func args keywords)
    (safe : ¬ c.Hazard span func args keywords) : Answered (blacklistRun c Banned.data) := by
  unfold blacklistRun
  rw [site.node]
  apply Brings.bind (answered_lookedUpName site safe)
  intro name _
  exact answered_calledName _ name

theorem answered_importedNames (bs : List Banned) (names : List String) {accepts : String → Value → Answer Bool}
    (compared : ∀ name mem, Answered (accepts name (.str mem))) :
    Answered (firstBanned (bs.map Banned.record) names accepts .str) := by
  apply answered_firstBanned
  intro name _ mem
  obtain ⟨found, asked, -⟩ := compared name mem
  exact ⟨found, asked, fun _ => ⟨_, rfl⟩⟩

variable {place : Span} {names : List Node}

theorem answered_blacklist_import (here : c.node = some (.importStmt place names)) :
    Answered (blacklistRun c Banned.data) := by
  unfold blacklistRun
  rw [here]
  exact answered_importedNames _ _ fun name mem => answered_ok _

theorem answered_blacklist_importFrom {module : Option String} {level : Nat}
    (here : c.node = some (.importFrom place module names level)) : Answered (blacklistRun c Banned.data) := by
  unfold blacklistRun
  rw [here]
  exact answered_importedNames _ _ fun name mem => answered_ok _

/-- Banned things are reported by a record of the data and a name that an import gives or that is listed there. -/
theorem exists_of_blacklistRun {data : Value} {i : Issue} (found : blacklistRun c data = .ok (some i)) :
    ∃ check v records, data.entry check = .ok v ∧ v.items = .ok records ∧ ∃ record ∈ records, ∃ name,
      bannedIssue record name = .ok i ∧ ((∃ s, name = .str s) ∨ ∃ v listings, record.entry "qualnames" = .ok v ∧
        v.items = .ok listings ∧ ∃ mem ∈ listings, name.equals mem = true) := by
  have imported {check : String} {names : List String} {accepts : String → Value → Answer Bool}
      (found : (do firstBanned (← (← data.entry check).items) names accepts .str) = .ok (some i)) :
      ∃ v records, data.entry check = .ok v ∧ v.items = .ok records ∧ ∃ record ∈ records, ∃ name,
        bannedIssue record name = .ok i ∧ ∃ s, name = .str s := by
    obtain ⟨v, entered, found⟩ := bind_eq_ok.mp found
    obtain ⟨records, items, found⟩ := bind_eq_ok.mp found
    obtain ⟨record, mem, name, -, -, -, -, -, -, made⟩ := bannedBy_of_firstBanned found
    exact ⟨v, records, entered, items, record, mem, _, made, name, rfl⟩
  unfold blacklistRun at found
  split at found
  · obtain ⟨name, -, found⟩ := bind_eq_ok.mp found
    obtain ⟨v, entered, found⟩ := bind_eq_ok.mp found
    obtain ⟨records, items, found⟩ := bind_eq_ok.mp found
    obtain ⟨record, mem, asked, given, w, listings, names, held, ⟨own, member, accepted⟩, made⟩ :=
      bannedBy_of_firstBanned found
    refine ⟨_, v, records, entered, items, record, mem, asked, made, .inr ⟨w, listings, names, held, own, member, ?_⟩⟩
    cases asked with
    | null => cases accepted
    | _ => exact Except.ok.inj accepted
  · obtain ⟨v, records, entered, items, record, mem, name, made, given⟩ := imported found
    exact ⟨_, v, records, entered, items, record, mem, name, made, .inl given⟩
  · obtain ⟨v, records, entered, items, record, mem, name, made, given⟩ := imported found
    exact ⟨_, v, records, entered, items, record, mem, name, made, .inl given⟩
  · cases found

theorem grades_blacklist {data : Value} (tabled : Banned.Tabled data) : Grades (blacklistRun c data) := by
  intro i found
  obtain ⟨check, v, _, entered, items, _, mem, name, made, -⟩ := exists_of_blacklistRun found
  obtain ⟨_, kept, rfl⟩ := tabled check v entered
  obtain rfl := Except.ok.inj items
  obtain ⟨b, member, rfl⟩ := mem_map.mp mem
  obtain ⟨-, level, _, -, -, graded, known, -, severity, confidence, cwe, -⟩ := exists_of_bannedIssue made
  rw [(b.entryD_record _).1, Except.ok.injEq] at graded
  rw [(b.entryD_record _).2.1, Except.ok.injEq] at known
  obtain ⟨severe, heavy⟩ := Banned.grave b (kept b member)
  have named : i.severity = b.level.name := by
    rw [severity, ← graded]
    exact Text.toStringLossy_ofString b.level.name
  refine ⟨ranked_of_names b.level .high named confidence, named ▸ Rank.name_ne_undefined severe, ?_⟩
  rw [cwe, ← known]
  exact heavy

theorem ranks_blacklist : Ranks (blacklistRun c Banned.data) := (grades_blacklist Banned.tabled_data).ranks

theorem fails_blacklist (site : c.Calls span func args keywords) (clear : Context.Calls.Clear args keywords)
    (called : c.qualname = some "importlib.import_module" ∨ c.qualname = some "importlib.__import__")
    (other : func.id? ≠ some "__import__") (empty : args = []) (unnamed : keywordNamed "name" keywords = none)
    (data : Value) : ∃ fault, blacklistRun c data = .error fault := by
  subst empty
  obtain ⟨given, asked, found⟩ := site.keywordsOr clear .wrongKind
  have absent : Value.lookup (.str "name") given = none := by
    rw [found "name", Option.map_eq_none_iff, ← Option.not_isSome_iff_eq_none, isSome_keywordNamed_reverse, unnamed]
    simp
  have asks : (["importlib.import_module", "importlib.__import__"].any fun s => c.qualname == some s) = true := by
    simpa using called
  have failed : lookedUpName c func [] = .error .missingKey := by
    have plain : (func.id? == some "__import__") = false := by simpa using other
    simp only [lookedUpName, plain, asks, site.callArgsCount, asked, bind, Except.bind, length_nil, absent]
    rfl
  refine ⟨.missingKey, ?_⟩
  rw [blacklistRun, site.node]
  simp only [failed, bind, Except.bind]

end Rule

end SourceAudit
