import SourceAudit.Proofs.Windows
import SourceAudit.Report.Sarif

/-! Excerpts are taken apart again: the number of the first line and all lines are got back. -/

namespace SourceAudit

open Segments
open List hiding splitOn

namespace Whole

theorem plain_of_isDigit {p : CodePoint} (digit : isDigit p = true) :
    DecimalDigit.value? p = some (p.val - 48) ∧ Folding.isBlank p = false := by
  simp only [isDigit, Bool.and_eq_true, decide_eq_true_eq] at digit
  have all : ∀ n < 58, 48 ≤ n → DecimalDigit.value? n = some (n - 48) ∧ Folding.blanks.contains n = false := by decide
  exact all p.val (by omega) digit.1

theorem digits_eq {ds : Text} (all : ∀ p ∈ ds, isDigit p = true) (value : Nat) :
    digits value ds = some (ds.foldl (fun n d => 10 * n + (d.val - 48)) value) := by
  induction ds generalizing value with
  | nil => rfl
  | cons p ds ih =>
    rw [forall_mem_cons] at all
    unfold digits
    rw [(plain_of_isDigit all.1).1]
    exact ih all.2 _

theorem read?_decimal (m : Nat) : read? (Json.decimal m) = some (m : Int) := by
  have all : ∀ p ∈ Json.decimal m, isDigit p = true := fun p => Json.isDigit_of_mem_decimal
  have kept {ds : Text} (all : ∀ p ∈ ds, isDigit p = true) : ds.dropWhile Folding.isBlank = ds := by
    cases ds with
    | nil => rfl
    | cons p ds => rw [dropWhile_cons, (plain_of_isDigit (all p mem_cons_self)).2, if_neg Bool.false_ne_true]
  have whole : trim Folding.isBlank (Json.decimal m) = Json.decimal m := by
    rw [trim, trimStart, trimEnd, kept all, kept fun p listed => all p (mem_reverse.mp listed), reverse_reverse]
  have value := Json.digitsValue_decimal m
  obtain ⟨d, _, shape, digit⟩ := Json.exists_decimal m
  rw [read?, whole]
  rw [shape] at all value ⊢
  rw [digitsValue, foldl_cons, Nat.mul_zero, Nat.zero_add] at value
  split
  · rename_i minus
    cases minus
    cases digit
  · rename_i plus
    cases plus
    cases digit
  · rw [unsigned?, (plain_of_isDigit digit).1]
    dsimp only
    rw [digits_eq (forall_mem_cons.mp all).2, value]
    rfl

end Whole

namespace Issue

/-- The lines are ended, the last one perhaps not, and hold no other line feeds. -/
structure Separate (lines : List Text) : Prop where
  inside : ∀ l ∈ lines, 10 ∉ l.dropLast
  ended : ∀ l ∈ lines.dropLast, l.getLast? = some 10

theorem Separate.exists_eq {lines : List Text} (separate : Separate lines) : ∃ ws : List Text, (∀ w ∈ ws, 10 ∉ w) ∧
    (lines = ws.map (· ++ [10]) ∨ ∃ w, 10 ∉ w ∧ lines = ws.map (· ++ [10]) ++ [w]) := by
  induction lines with
  | nil => exact ⟨[], by simp, .inl rfl⟩
  | cons l rest ih =>
    obtain ⟨here, later⟩ := forall_mem_cons.mp separate.inside
    by_cases ended : l.getLast? = some 10
    · have whole : l.dropLast ++ [10] = l := dropLast_append_getLast? 10 ended
      have others : Separate rest := by
        refine ⟨later, fun r listed => separate.ended r ?_⟩
        cases rest with
        | nil => cases listed
        | cons => exact mem_cons_of_mem l listed
      obtain ⟨ws, plain, same⟩ := ih others
      refine ⟨l.dropLast :: ws, forall_mem_cons.mpr ⟨here, plain⟩, ?_⟩
      simpa [whole] using same
    · cases rest with
      | nil =>
        refine ⟨[], by simp, .inr ⟨l, fun present => ?_, rfl⟩⟩
        obtain ⟨_, _, rfl⟩ := eq_nil_or_concat' l |>.resolve_left (by rintro rfl; cases present)
        simp_all
      | cons r rest => exact absurd (separate.ended l mem_cons_self) ended

/-- A numbered line as it stands in an excerpt, without a line feed at its end. -/
def entry (e : Int × Text) : Text := Text.ofString (toString e.1) ++ 32 :: e.2

theorem exists_entry {n : Int} (positive : 0 ≤ n) (w : Text) :
    ∃ m : Nat, n = m ∧ entry (n, w) = Json.decimal m ++ 32 :: w := by
  obtain ⟨m, rfl⟩ := Int.eq_ofNat_of_zero_le positive
  refine ⟨m, rfl, ?_⟩
  rw [← Json.ofString_repr]
  rfl

theorem not_mem_entry {n : Int} (positive : 0 ≤ n) {w : Text} (plain : 10 ∉ w) : 10 ∉ entry (n, w) := by
  obtain ⟨m, -, same⟩ := exists_entry positive w
  rw [same]
  simp only [mem_append, mem_cons, not_or]
  refine ⟨fun digit => ?_, by decide, plain⟩
  cases Json.isDigit_of_mem_decimal digit

theorem excerpt_eq (shown : List (Int × Text)) : excerpt false shown = shown.flatMap entry := by
  have gap : Text.ofString " " = [32] := by decide
  have each (e : Int × Text) : Text.ofString (toString e.1 ++ " ") ++ e.2 = entry e := by
    rw [Text.ofString_append, gap, append_assoc]
    rfl
  exact congrArg (shown.flatMap ·) (funext each)

theorem splitOn_excerpt {ws : List Text} (plain : ∀ w ∈ ws, 10 ∉ w) {n : Int} (positive : 0 ≤ n) (more : Text) :
    splitOn 10 (excerpt false (numberFrom n (ws.map (· ++ [10]))) ++ more) =
      (numberFrom n ws).map entry ++ splitOn 10 more := by
  induction ws generalizing n with
  | nil => rfl
  | cons w ws ih =>
    rw [forall_mem_cons] at plain
    have ended : entry (n, w ++ [10]) = entry (n, w) ++ [10] := by simp [entry]
    have rest := ih plain.2 (show 0 ≤ n + 1 by omega)
    rw [excerpt_eq] at rest ⊢
    rw [map_cons, numberFrom, flatMap_cons, ended, append_assoc, append_assoc,
      singleton_append, splitOn_append_cons, splitOn_of_not_mem (not_mem_entry positive plain.1), rest]
    rfl

theorem map_snd_numberFrom (n : Int) (ls : List Text) : (numberFrom n ls).map Prod.snd = ls := by
  induction ls generalizing n with
  | nil => rfl
  | cons l ls ih => rw [numberFrom, map_cons, ih]

theorem mapM_entries {n : Int} (positive : 0 ≤ n) (ws : List Text) {f : Text → Answer Text}
    (reads : ∀ line number text, cut 32 line = some (number, text) → f line = .ok (text ++ [10])) :
    ((numberFrom n ws).map entry).mapM f = .ok (ws.map (· ++ [10])) := by
  have texts : (numberFrom n ws).map (fun e => e.2 ++ [10]) = ws.map (· ++ [10]) := by
    conv_rhs => rw [← map_snd_numberFrom n ws, map_map]
    rfl
  rw [← texts, mapM_map]
  apply Answers.mapM_of_ok
  rintro ⟨k, t⟩ listed
  obtain ⟨m, -, same⟩ := exists_entry (Int.le_trans positive (mem_numberFrom.mp listed).1) t
  apply reads _ (Json.decimal m)
  rw [same, cut_append]
  intro digit
  cases Json.isDigit_of_mem_decimal digit

theorem read?_entry {n : Int} (positive : 0 ≤ n) (w : Text) :
    Whole.read? ((splitOn 32 (entry (n, w))).headD []) = some n := by
  obtain ⟨m, rfl, same⟩ := exists_entry positive w
  have plain : 32 ∉ Json.decimal m := by
    intro digit
    cases Json.isDigit_of_mem_decimal digit
  rw [same, splitOn_append_cons, splitOn_of_not_mem plain]
  exact Whole.read?_decimal m

/-- An excerpt split into entries, with an empty piece behind them if it ends with a line feed. -/
theorem excerpt_of_splitOn {code : Text} (ws : List Text) (some : ws ≠ []) {n : Int} (positive : 0 ≤ n)
    (ended : Bool) (split : splitOn 10 code = (numberFrom n ws).map entry ++ if ended then [[]] else []) :
    Sarif.excerpt code = .ok (n, if ended then ws.map (· ++ [10])
      else (ws.map (· ++ [10])).dropLast ++ ((ws.map (· ++ [10])).getLast?.map dropLast).toList) := by
  have last : (((numberFrom n ws).map entry ++ if ended then [[]] else []).getLast? == .some []) = ended := by
    cases ended with
    | true => simp
    | false =>
      rw [if_neg Bool.false_ne_true, append_nil, beq_eq_false_iff_ne]
      intro empty
      obtain ⟨e, -, none⟩ := mem_map.mp (mem_of_getLast? empty)
      simp [entry] at none
  have pieces : (if ended then ((numberFrom n ws).map entry ++ if ended then [[]] else []).dropLast
      else (numberFrom n ws).map entry ++ if ended then [[]] else []) = (numberFrom n ws).map entry := by
    cases ended <;> simp
  unfold Sarif.excerpt
  rw [split]
  dsimp only
  rw [last, pieces, mapM_entries positive ws fun line number text found => by rw [found]]
  obtain ⟨w, ws, rfl⟩ := exists_cons_of_ne_nil some
  rw [numberFrom, map_cons]
  dsimp only
  rw [read?_entry positive w]
  rfl

theorem numberFrom_append (n : Int) (as bs : List Text) :
    numberFrom n (as ++ bs) = numberFrom n as ++ numberFrom (n + as.length) bs := by
  induction as generalizing n with
  | nil => simp [numberFrom]
  | cons a as ih =>
    rw [cons_append, numberFrom, ih, numberFrom, length_cons, cons_append, Int.natCast_add_one,
      Int.add_comm (as.length : Int), Int.add_assoc]

/-- The lines that are read to be shown with the issue, from line `first` on. -/
def Shows (files : LineSource) (m : Int) (i : Issue) (first : Int) (lines : List Text) : Prop :=
  ∃ n, i.line = some n ∧ (i.filename = inputName → i.input.isSome) ∧
    numbered (i.lineAt files) (i.mostShown m) (firstShown m n) = .ok (numberFrom first lines)

theorem exists_shows {lines : List Text} (full : [] ∉ lines) {first : Int} (positive : 1 ≤ first) :
    ∃ i files m, Shows files m i first lines := by
  let source : List Text := replicate (first - 1).toNat [10] ++ lines
  refine ⟨{ severity := "LOW", filename := "a.py", line := some first, lineRange := lines.map fun _ => first },
    fun _ => source, 1, first, rfl, fun input => absurd input (by decide : "a.py" ≠ inputName), ?_⟩
  have begins : firstShown 1 first = first := by
    unfold firstShown
    omega
  rw [begins, numbered_eq source _ positive]
  · simp [source, mostShown]
  · intro m low _
    constructor
    · simp [lineAt, inputName, show ¬m < 1 by omega]
    · intro none
      have listed := mem_of_getElem? none
      simp [source, full] at listed

theorem excerpt_code {lines : List Text} (some : lines ≠ []) (separate : Separate lines) {first : Int}
    (positive : 1 ≤ first) : ([] ∉ lines → ∃ i files m, Shows files m i first lines) ∧
      ∀ i files m, Shows files m i first lines → ∃ code, i.code files m false = .ok code ∧
        Sarif.excerpt code = .ok (first, lines) := by
  refine ⟨fun full => exists_shows full positive, ?_⟩
  rintro i files m ⟨n, placed, given, shown⟩
  refine ⟨excerpt false (numberFrom first lines), ?_, ?_⟩
  · rw [code_eq placed given]
    exact congrArg (excerpt false <$> ·) shown
  · have low : 0 ≤ first := by omega
    obtain ⟨ws, plain, rfl | ⟨w, last, rfl⟩⟩ := separate.exists_eq
    · have split := splitOn_excerpt plain low []
      rw [append_nil] at split
      exact excerpt_of_splitOn ws (by simpa using some) low true split
    · have split := splitOn_excerpt plain low (entry (first + ws.length, w))
      rw [splitOn_of_not_mem (not_mem_entry (by omega) last)] at split
      have text : excerpt false (numberFrom first (ws.map (· ++ [10]) ++ [w])) =
          excerpt false (numberFrom first (ws.map (· ++ [10]))) ++ entry (first + ws.length, w) := by
        simp [excerpt_eq, numberFrom_append, numberFrom]
      rw [text, excerpt_of_splitOn (ws ++ [w]) (by simp) low false
        (by simpa [numberFrom_append, numberFrom] using split)]
      simp

theorem excerpt_code_twoLines : ∃ (i : Issue) (files : LineSource) (m : Int) (code : Text),
    i.code files m false = .ok code ∧ Sarif.excerpt code = .ok (7, [[97, 10], [32, 98]]) := by
  have separate : Separate [[97, 10], [32, 98]] := ⟨by decide, by decide⟩
  obtain ⟨exist, back⟩ := excerpt_code (by decide) separate (by decide : (1 : Int) ≤ 7)
  obtain ⟨i, files, m, shows⟩ := exist (by decide)
  exact ⟨i, files, m, back i files m shows⟩

end Issue

end SourceAudit
