import SourceAudit.Proofs.Proper
import SourceAudit.Proofs.Records
import SourceAudit.Proofs.Segments

/-! The code that is shown with an issue: for which issues there is some, and that it can be encoded. -/

namespace SourceAudit

open Answers List

theorem Utf8.ne_nil_of_decode? {b : Bytes} {cs : List Char} (given : b ≠ []) (decoded : Utf8.decode? b = some cs) :
    cs ≠ [] := by
  obtain ⟨a, _, rfl⟩ := exists_cons_of_ne_nil given
  rintro rfl
  rw [decode?, decodeWith, length_cons, decodeWith.go] at decoded
  split at decoded
  · simp at decoded
  · simp at decoded

theorem Source.ne_nil_of_mem_feedLines {b l : Bytes} (mem : l ∈ feedLines b) : l ≠ [] :=
  Segments.ne_nil_of_mem_runs mem

namespace Issue

def around (lines : Int) (i : Issue) (n : Int) (b : Bytes) : List Bytes :=
  ((Source.feedLines b).drop (max 1 (n - max lines 1 / 2) - 1).toNat).take
    (i.lineRange.length + (max lines 1 - 1).toNat)

/-- The issue has a line, and what is shown of standard input can be decoded. -/
def Visible (lines : Int) (i : Issue) : Prop :=
  ∃ n, i.line = some n ∧ (i.filename = inputName → ∃ b, i.input = some b ∧ ∀ l ∈ i.around lines n b,
    (Utf8.decode? l).isSome)

variable {i : Issue} {files : LineSource} {lines : Int} {tabbed : Bool}

section

variable {b : Bytes} (file : i.filename = inputName) (given : i.input = some b)

include file given

theorem lineAt_input (n : Int) :
    i.lineAt files n = ((Source.feedLines b)[(n - 1).toNat]?).elim (.ok none) fun l =>
      (Utf8.decode? l).elim (.error .undecodable) fun cs => .ok (some (Text.ofChars cs)) := by
  simp only [lineAt, file, beq_self_eq_true, if_true, given]
  cases (Source.feedLines b)[(n - 1).toNat]? with
  | none => rfl
  | some l => cases decoded : Utf8.decode? l <;> simp [decoded]

theorem exists_numbered_iff (count : Nat)
    {n : Int} (positive : 1 ≤ n) : (∃ shown, numbered (i.lineAt files) count n = .ok shown) ↔
      ∀ l ∈ ((Source.feedLines b).drop (n - 1).toNat).take count, (Utf8.decode? l).isSome := by
  induction count generalizing n with
  | zero => simp [numbered]
  | succ count ih =>
    rw [numbered, lineAt_input file given]
    cases found : (Source.feedLines b)[(n - 1).toNat]? with
    | none =>
      rw [drop_eq_nil_of_le (List.getElem?_eq_none_iff.mp found)]
      simp [bind, Except.bind, pure, Except.pure]
    | some l =>
      obtain ⟨bound, rfl⟩ := List.getElem?_eq_some_iff.mp found
      have next : (n - 1).toNat + 1 = (n + 1 - 1).toNat := by omega
      rw [drop_eq_getElem_cons bound, take_succ_cons, forall_mem_cons, next]
      rw [← ih (by omega)]
      cases decoded : Utf8.decode? (Source.feedLines b)[(n - 1).toNat] with
      | none =>
        simp only [decoded, Option.elim_some, Option.elim_none, Option.isSome_none]
        simp [bind, Except.bind]
      | some cs =>
        have more : cs ≠ [] := Utf8.ne_nil_of_decode? (Source.ne_nil_of_mem_feedLines (getElem_mem bound)) decoded
        obtain ⟨c, _, rfl⟩ := exists_cons_of_ne_nil more
        simp only [decoded, Option.elim_some, Option.isSome_some, true_and]
        exact exists_map_iff

end

def excerpt (tabbed : Bool) (shown : List (Int × Text)) : Text :=
  let gap : String := if tabbed then "\t" else " "
  shown.flatMap fun (n, t) => ((toString n ++ gap : String) : Text) ++ t

theorem code_eq {n : Int} (placed : i.line = some n) (given : i.filename = inputName → i.input.isSome) :
    i.code files lines tabbed = excerpt tabbed <$> numbered (i.lineAt files)
      (i.lineRange.length + (max lines 1 - 1).toNat) (max 1 (n - max lines 1 / 2)) := by
  have opened : (i.filename == inputName && i.input.isNone) = false := by simpa using given
  rw [code, placed]
  simp only [opened, Bool.false_eq_true, if_false]
  rfl

theorem line_of_code {shown : Text} (read : i.code files lines tabbed = .ok shown) :
    ∃ n, i.line = some n ∧ (i.filename = inputName → i.input.isSome) := by
  cases placed : i.line with
  | none => simp [code, placed, throw, throwThe, MonadExceptOf.throw] at read
  | some n =>
    refine ⟨n, rfl, ?_⟩
    intro file
    by_contra missing
    have none : i.input = none := by simpa using missing
    simp [code, placed, file, none, bind, Except.bind, throw, throwThe, MonadExceptOf.throw] at read

theorem exists_code_iff : (∃ code, i.code files lines tabbed = .ok code) ↔ i.Visible lines := by
  have read {n : Int} {b : Bytes} (placed : i.line = some n) (file : i.filename = inputName)
      (given : i.input = some b) : (∃ code, i.code files lines tabbed = .ok code) ↔
        ∀ l ∈ i.around lines n b, (Utf8.decode? l).isSome := by
    rw [code_eq placed fun _ => by simp [given], exists_map_iff,
      exists_numbered_iff file given _ (Int.le_max_left 1 _), around]
  constructor
  · rintro ⟨code, shown⟩
    obtain ⟨n, placed, given⟩ := line_of_code shown
    refine ⟨n, placed, ?_⟩
    intro file
    obtain ⟨b, input⟩ := Option.isSome_iff_exists.mp (given file)
    exact ⟨b, input, (read placed file input).mp ⟨code, shown⟩⟩
  · rintro ⟨n, placed, input⟩
    by_cases file : i.filename = inputName
    · obtain ⟨b, given, decoded⟩ := input file
      exact (read placed file given).mpr decoded
    · exact exists_code placed file files lines tabbed

theorem proper_numbered {line : Int → Answer (Option Text)} (proper : ∀ n t, line n = .ok (some t) → Text.Proper t)
    (count : Nat) (n : Int) {shown : List (Int × Text)} (read : numbered line count n = .ok shown) :
    ∀ e ∈ shown, Text.Proper e.2 := by
  induction count generalizing n shown with
  | zero =>
    cases read
    simp
  | succ count ih =>
    simp only [numbered, bind_eq_ok] at read
    obtain ⟨t, there, rest⟩ := read
    rcases t with _ | _ | ⟨p, more⟩
    · cases rest
      simp
    · cases rest
      simp
    · obtain ⟨_, others, rfl⟩ := map_eq_ok.mp rest
      exact forall_mem_cons.mpr ⟨proper n _ there, ih (n + 1) others⟩

theorem proper_lineAt (proper : ∀ name, ∀ l ∈ files name, Text.Proper l) {n : Int} {t : Text}
    (read : i.lineAt files n = .ok (some t)) : Text.Proper t := by
  unfold lineAt at read
  split at read
  · split at read
    · cases read
    · split at read
      · cases read
      · split at read
        · cases read
          exact Text.proper_ofChars _
        · cases read
  · split at read
    · cases read
    · exact proper _ _ (mem_of_getElem? (Except.ok.inj read))

theorem proper_code (proper : ∀ name, ∀ l ∈ files name, Text.Proper l) {code : Text}
    (shown : i.code files lines tabbed = .ok code) : Text.Proper code := by
  obtain ⟨n, placed, given⟩ := line_of_code shown
  rw [code_eq placed given] at shown
  obtain ⟨_, read, rfl⟩ := map_eq_ok.mp shown
  rw [excerpt, Text.proper_flatMap]
  intro e mem
  exact Text.proper_append.mpr ⟨Text.proper_ofString _,
    proper_numbered (fun _ _ => proper_lineAt proper) _ _ read e mem⟩

end Issue

end SourceAudit
