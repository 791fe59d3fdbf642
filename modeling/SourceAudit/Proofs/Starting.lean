import SourceAudit.CommandLine.Starter
import SourceAudit.Proofs.Proper

/-! The file that the starter writes, which is made before the tests are looked at. -/

namespace SourceAudit

open List

theorem Utf8.eq_nil_of_encodeText? {t : Text} (made : encodeText? t = some []) : t = [] := by
  obtain ⟨cs, chars, none⟩ := Option.map_eq_some_iff.mp made
  cases cs with
  | nil =>
    cases t with
    | nil => rfl
    | cons p t =>
      rw [Text.toChars?, mapM_cons] at chars
      obtain ⟨_, -, more⟩ := Option.bind_eq_some_iff.mp chars
      obtain ⟨_, -, same⟩ := Option.bind_eq_some_iff.mp more
      cases same
  | cons c cs =>
    have some : encodeChar c ≠ [] := by
      unfold encodeChar
      dsimp only
      split
      · simp
      · split
        · simp
        · split <;> simp
    exact absurd (append_eq_nil_iff.mp none).1 some

namespace FileTree

theorem contentAt?_addFile (t : FileTree) (p : Place) (b : Bytes) : (t.addFile p b).contentAt? p = some b := by
  have others : (t.files.filter fun f => f.1 != p).lookup p = none := by
    rw [lookup_eq_none_iff]
    intro f kept
    rw [bne_comm]
    exact (mem_filter.mp kept).2
  change ((t.files.filter fun f => f.1 != p) ++ [(p, b)]).lookup p = some b
  rw [lookup_append, others]
  simp

theorem placeFor_addFile (t : FileTree) (p : Place) (b : Bytes) (path : String) :
    (t.addFile p b).placeFor path = t.placeFor path := rfl

theorem placeFor_of_place {t : FileTree} {path : String} {p : Place} (there : t.place path = .ok p) :
    t.placeFor path = p := by
  rw [place] at there
  split at there
  · cases there
  · rw [placeFor]
    generalize (if Path.isAbsolute path then [] else t.home) = start at there ⊢
    generalize Path.steps path = steps at there ⊢
    induction steps generalizing start with
    | nil => exact Except.ok.inj there
    | cons s rest ih =>
      rw [foldlM_cons] at there
      unfold step at there
      split at there
      · exact ih _ there
      · split at there <;> cases there

def Creatable (t : FileTree) (path : String) : Prop :=
  ∃ p, t.place path = .ok p ∧ t.hasFolder p = false ∧ t.hasFolder p.dropLast = true ∧ namesFolder path = false

end FileTree

namespace CommandLine

theorem run_create (path : String) (c : Console) : (c.files.Creatable path ∧ EStateM.run (Command.create path) c =
      .ok true { c with files := c.files.addFile (c.files.placeFor path) [] }) ∨
    (¬ c.files.Creatable path ∧ EStateM.run (Command.create path) c = .ok false c) := by
  unfold Command.create
  rw [EStateM.run_bind, EStateM.run_get]
  dsimp only
  split
  · rename_i p there
    have unique : c.files.Creatable path ↔ (c.files.hasFolder p || !c.files.hasFolder p.dropLast ||
        FileTree.namesFolder path) = false := by
      simp only [FileTree.Creatable, there, Except.ok.injEq, exists_eq_left']
      simp [and_assoc]
    rw [unique, FileTree.placeFor_of_place there]
    split
    · rename_i blocked
      exact .inr ⟨by simp [blocked], rfl⟩
    · rename_i open_
      exact .inl ⟨by simpa using open_, rfl⟩
  · rename_i missing
    refine .inr ⟨?_, rfl⟩
    rintro ⟨p, there, -⟩
    cases missing.symm.trans there

theorem run_announce (form : Level → Text → Text) (level : Level) (text : Text) (c : Console) :
    ∃ later, EStateM.run (announce form level text) c = .ok () later ∧ later.files = c.files := by
  cases level <;> exact ⟨_, rfl, rfl⟩

namespace Starter

theorem later_of_carryOut {requests : List (Request StarterFlag)} {o last : StarterOptions} {c later : Console}
    (done : EStateM.run (carryOut o requests) c = .ok last later) : later = c := by
  induction requests generalizing o with
  | nil =>
    cases done
    rfl
  | cons request rest ih =>
    cases request with
    | refused => cases done
    | targets words => exact ih done
    | flag flag argument =>
      cases flag with
      | help => cases done
      | _ => exact ih done

theorem unknown?_eq_none_iff (tests skips : List String) :
    unknown? tests skips = none ↔ ¬∃ id ∈ tests ++ skips, Catalogue.isKnown id = false := by
  have among (list : String) (ids : List String) : ((ids.find? fun id => !Catalogue.isKnown id).map fun id => (list, id)) =
      none ↔ ∀ id ∈ ids, Catalogue.isKnown id = true := by simp
  simp only [not_exists, not_and, Bool.not_eq_false]
  rw [forall_mem_append, ← among "tests", ← among "skips"]
  unfold unknown?
  dsimp only
  generalize (tests.find? _).map _ = second
  generalize (skips.find? _).map _ = first
  cases first <;> cases second <;> simp

theorem proper_content (call : String) (tests skips : List String) : Text.Proper (content call tests skips) := by
  have quoted (ids : List String) : ∀ t ∈ Value.renderItems (ids.map .str), Text.Proper t := by
    induction ids with
    | nil => exact nofun
    | cons id ids ih => exact forall_mem_cons.mpr ⟨Text.proper_quoted (Text.proper_ofString id), ih⟩
  have chosen (name : String) (ids : List String) : Text.Proper (choice name ids) := by
    unfold choice
    split
    · simp
    · simp only [Text.proper_append, Text.proper_ofString, Value.render, true_and, and_true]
      exact Segments.forall_mem_join (Text.proper_ofString _) (quoted ids)
  unfold content
  simp only [Text.proper_append, Text.proper_ofString, chosen, and_self, and_true, true_and]
  exact Yaml.proper_render _

theorem content_ne_nil (call : String) (tests skips : List String) : content call tests skips ≠ [] :=
  append_ne_nil_of_right_ne_nil _ (by decide)

/-- The file behind a path, if there is one, holds settings in full. -/
def Whole (t : FileTree) (path : String) (full : Text) : Prop :=
  ∀ b, t.contentAt? (t.placeFor path) = some b → Utf8.encodeText? full = some b

variable {o : StarterOptions} {c : Console}

theorem run_writeFile_taken (taken : isTaken c.files o.out) (call : String) :
    ∃ last, EStateM.run (writeFile o call) c = .error (.exit 2) last ∧ last.files = c.files := by
  unfold writeFile
  rw [EStateM.run_bind, EStateM.run_get]
  dsimp only
  obtain ⟨later, told, kept⟩ := run_announce message .error ("File " ++ Text.ofString o.out ++ " already exists, exiting") c
  rw [if_pos taken, EStateM.run_bind, told]
  exact ⟨later, rfl, kept⟩

theorem run_writeFile (free : isTaken c.files o.out = false) (call : String) :
    ∃ last, EStateM.run (writeFile o call) c = .ok () last ∧
      ((last.files.contentAt? (last.files.placeFor o.out)).isSome ↔ c.files.Creatable o.out) ∧
      (Whole last.files o.out (content call (idsIn o.tests) (idsIn o.skips)) ↔
        ¬(c.files.Creatable o.out ∧ ∃ id ∈ idsIn o.tests ++ idsIn o.skips, Catalogue.isKnown id = false)) := by
  have vacant : c.files.contentAt? (c.files.placeFor o.out) = none := by
    simp only [isTaken, Bool.or_eq_false_iff] at free
    simpa using free.2
  have known := unknown?_eq_none_iff (idsIn o.tests) (idsIn o.skips)
  have more := content_ne_nil call (idsIn o.tests) (idsIn o.skips)
  obtain ⟨full, encoded⟩ := Option.isSome_iff_exists.mp
    (Text.isSome_encodeText?_iff.mpr (proper_content call (idsIn o.tests) (idsIn o.skips)))
  unfold writeFile
  rw [EStateM.run_bind, EStateM.run_get]
  dsimp only
  rw [free, if_neg Bool.false_ne_true, EStateM.run_bind]
  rcases run_create o.out c with ⟨creatable, made⟩ | ⟨barred, failed⟩
  · rw [made]
    generalize told : ({ c with files := c.files.addFile (c.files.placeFor o.out) [] } : Console) = begun
    simp only [Bool.not_true, Bool.false_eq_true, if_false]
    cases found : unknown? (idsIn o.tests) (idsIn o.skips) with
    | some bad =>
      obtain ⟨list, id⟩ := bad
      obtain ⟨last, announced, kept⟩ := run_announce message .error
        (Text.ofString ("Error: unknown ID in " ++ list ++ ": " ++ id)) begun
      have left : last.files.contentAt? (last.files.placeFor o.out) = some [] := by
        rw [kept, ← told, FileTree.placeFor_addFile, FileTree.contentAt?_addFile]
      have named : ∃ id ∈ idsIn o.tests ++ idsIn o.skips, Catalogue.isKnown id = false := by
        apply Classical.byContradiction
        intro all
        cases found.symm.trans (known.mpr all)
      refine ⟨last, announced, by simp [left, creatable], ?_⟩
      simp only [creatable, named, and_self, not_true_eq_false, iff_false]
      intro whole
      exact more (Utf8.eq_nil_of_encodeText? (whole _ left))
    | none =>
      obtain ⟨last, announced, kept⟩ := run_announce message .info ("Successfully wrote profile: " ++ Text.ofString o.out)
        { begun with files := begun.files.addFile (begun.files.placeFor o.out) full }
      have left : last.files.contentAt? (last.files.placeFor o.out) = some full := by
        rw [kept, FileTree.placeFor_addFile, FileTree.contentAt?_addFile]
      refine ⟨last, ?_, by simp [left, creatable], ?_⟩
      · have written : EStateM.run (Command.write o.out full) begun =
            .ok () { begun with files := begun.files.addFile (begun.files.placeFor o.out) full } := rfl
        rw [encoded, Option.getD_some, EStateM.run_bind, written]
        exact announced
      · simp only [known.mp found, and_false, not_false_eq_true, iff_true]
        intro b there
        rw [encoded, ← there, left]
  · rw [failed]
    simp only [Bool.not_false, if_true]
    obtain ⟨last, announced, kept⟩ := run_announce message .error
      ("Unable to open " ++ Text.ofString o.out ++ " for writing") c
    have left : last.files.contentAt? (last.files.placeFor o.out) = none := by rw [kept, vacant]
    refine ⟨last, ?_, by simp [left, barred], ?_⟩
    · rw [EStateM.run_bind, announced]
      rfl
    · simp only [barred, false_and, not_false_eq_true, iff_true]
      intro b there
      cases left.symm.trans there

theorem run_starter {args : List String} {later : Console}
    (accepted : EStateM.run (carryOut {} (Request.ofStrings flags .none true args)) c = .ok o later)
    (named : o.out.isEmpty = false) : ∃ next, next.files = c.files ∧ EStateM.run (starter args) c =
      EStateM.run (writeFile o (" ".intercalate (programName :: args))) next := by
  cases later_of_carryOut accepted
  unfold starter
  rw [EStateM.run_bind, accepted]
  dsimp only
  rw [named, Bool.false_and, if_neg Bool.false_ne_true]
  cases o.showDefaults with
  | false => exact ⟨c, rfl, rfl⟩
  | true => exact ⟨{ c with shown := c.shown ++ Log.line defaults }, rfl, rfl⟩

/-- A file is at the path afterwards if one can be made there. It is whole unless an unknown test is named; then it is
empty, and later calls for this path end at once. -/
theorem starter_whole_iff {args : List String} {later : Console}
    (accepted : EStateM.run (carryOut {} (Request.ofStrings flags .none true args)) c = .ok o later)
    (named : o.out.isEmpty = false) (free : isTaken c.files o.out = false) :
    ∃ last, Command.run (starter args) c = (.exit 0, last) ∧
      ((last.files.contentAt? (last.files.placeFor o.out)).isSome ↔ c.files.Creatable o.out) ∧
      (Whole last.files o.out (content (" ".intercalate (programName :: args)) (idsIn o.tests) (idsIn o.skips)) ↔
        ¬(c.files.Creatable o.out ∧ ∃ id ∈ idsIn o.tests ++ idsIn o.skips, Catalogue.isKnown id = false)) ∧
      (c.files.Creatable o.out → ∀ after : Console, after.files = last.files → ∀ args o' later',
        EStateM.run (carryOut {} (Request.ofStrings flags .none true args)) after = .ok o' later' → o'.out = o.out →
          ∃ next, Command.run (starter args) after = (.exit 2, next) ∧ next.files = last.files) := by
  obtain ⟨_, same, ran⟩ := run_starter accepted named
  rw [← same] at free ⊢
  obtain ⟨last, wrote, there, whole⟩ := run_writeFile free (" ".intercalate (programName :: args))
  refine ⟨last, ?_, there, whole, fun creatable after kept args o' later' again path => ?_⟩
  · rw [Command.run, ran, wrote]
  · obtain ⟨next, still, reran⟩ := run_starter again (path ▸ named)
    have taken : isTaken next.files o'.out = true := by
      rw [still, kept, path, isTaken]
      simp [there.mpr creatable]
    obtain ⟨ended, stopped, left⟩ := run_writeFile_taken taken (" ".intercalate (programName :: args))
    refine ⟨ended, ?_, left.trans (still.trans kept)⟩
    rw [Command.run, reran, stopped]

def bare : Console := { files := { home := ["work"], folders := [[], ["work"]] }, now := ⟨2000, 1, 1, 0, 0, 0, 0, none⟩ }

theorem starter_whole_iff_bare : ∃ last, Command.run (starter ["-o", "a.yaml", "-t", "B101"]) bare = (.exit 0, last) ∧
    ∃ b, last.files.contentAt? (last.files.placeFor "a.yaml") = some b ∧
      Utf8.encodeText? (content "bandit-config-generator -o a.yaml -t B101" ["B101"] []) = some b := by
  have accepted : EStateM.run (carryOut {} (Request.ofStrings flags .none true ["-o", "a.yaml", "-t", "B101"])) bare =
      .ok { out := "a.yaml", tests := "B101" } bare := by
    rw [show Request.ofStrings flags .none true ["-o", "a.yaml", "-t", "B101"] =
      [.flag .out (some "a.yaml"), .flag .tests (some "B101")] by decide +kernel]
    rfl
  have creatable : bare.files.Creatable "a.yaml" := ⟨["work", "a.yaml"], by cbv, by decide +kernel⟩
  obtain ⟨last, ran, there, whole, -⟩ := starter_whole_iff accepted (by decide +kernel) (by decide +kernel)
  obtain ⟨b, left⟩ := Option.isSome_iff_exists.mp (there.mpr creatable)
  refine ⟨last, ran, b, left, whole.mpr ?_ b left⟩
  rintro ⟨-, bad⟩
  revert bad
  decide +kernel

/-- An unknown test leaves an empty file behind, and the next call finds it there. -/
theorem starter_unknown_empty : ∃ last, Command.run (starter ["-o", "a.yaml", "-t", "B999"]) bare = (.exit 0, last) ∧
    last.files.contentAt? (last.files.placeFor "a.yaml") = some [] ∧
      ∃ next, Command.run (starter ["-o", "a.yaml"]) last = (.exit 2, next) := by
  have view : ∃ first next, Command.run (starter ["-o", "a.yaml", "-t", "B999"]) bare = first ∧
      Command.run (starter ["-o", "a.yaml"]) first.2 = next ∧ first.1 = .exit 0 ∧ next.1 = .exit 2 ∧
      first.2.files.contentAt? (first.2.files.placeFor "a.yaml") = some [] := ⟨_, _, rfl, rfl, by decide +kernel⟩
  obtain ⟨⟨e, last⟩, ⟨_, next⟩, ran, reran, rfl, rfl, left⟩ := view
  exact ⟨last, ran, left, next, reran⟩

end Starter

end CommandLine

end SourceAudit
