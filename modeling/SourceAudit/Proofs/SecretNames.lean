import SourceAudit.Proofs.Segments
import SourceAudit.Proofs.Spelling
import SourceAudit.Rule.Password
import SourceAudit.Text.LowerCase

/-! Names that speak of secrets, by their pieces between low lines. -/

namespace SourceAudit.Rule

open List

variable {p : CodePoint}

def fixedWords : List String := ["pass", "passphrase", "pwd", "token", "secret", "secrete"]

def passwordEndings : List String := ["wd", "wod", "wrd", "word"]

def spelling (more : Nat) (ending : String) : Text :=
  Text.ofString "pa" ++ (List.replicate (more + 1) 115 ++ Text.ofString ending)

/-- The words that speak of secrets, in lower case. -/
inductive SecretWord : Text → Prop where
  | fixed {w : String} (known : w ∈ fixedWords) : SecretWord w
  | password (more : Nat) {ending : String} (known : ending ∈ passwordEndings) : SecretWord (spelling more ending)

theorem SecretWord.whole {w : Text} (word : SecretWord w) : w ≠ [] ∧ 95 ∉ w := by
  cases word with
  | fixed known =>
    have each : ∀ w ∈ fixedWords, Text.ofString w ≠ [] ∧ 95 ∉ Text.ofString w := by decide
    exact each _ known
  | password more known =>
    have each : ∀ w ∈ passwordEndings, 95 ∉ Text.ofString w := by decide
    have start : 95 ∉ Text.ofString "pa" := by decide
    have esses : 95 ∉ List.replicate (more + 1) (115 : CodePoint) := by simp [mem_replicate]
    refine ⟨cons_ne_nil _ _, ?_⟩
    simp only [spelling, mem_append, not_or]
    exact ⟨start, esses, each _ known⟩

theorem length_ofString (s : String) : (Text.ofString s).length = s.length := by
  simp [Text.ofString, Text.ofChars, String.length_toList]

theorem length_spelling (more : Nat) (ending : String) :
    (spelling more ending).length = 2 + (more + 1) + ending.length := by
  have start : (Text.ofString "pa").length = 2 := rfl
  simp only [spelling, length_append, length_replicate, length_ofString, start]
  omega

theorem exists_esses (t : Text) : ∃ more later, t = List.replicate more 115 ++ later ∧ later.head? ≠ some 115 := by
  induction t with
  | nil => exact ⟨0, [], rfl, nofun⟩
  | cons p t ih =>
    by_cases ess : p = 115
    · obtain ⟨more, later, rfl, other⟩ := ih
      exact ⟨more + 1, later, by rw [ess]; rfl, other⟩
    · exact ⟨0, p :: t, rfl, by simpa using ess⟩

theorem takeWhile_esses (more : Nat) {later : Text} (other : later.head? ≠ some 115) :
    (List.replicate more 115 ++ later).takeWhile (· == 115) = List.replicate more 115 := by
  cases later with
  | nil => simp
  | cons p later =>
    have stop : p ≠ 115 := by simpa using other
    simp [stop]

variable {n : Nat} {t : Text}

theorem mem_fixed {s : String} : n ∈ (if (Text.ofString s).isPrefixOf t then [s.length] else []) ↔
      ∃ rest, t = Text.ofString s ++ rest ∧ (Text.ofString s).length = n := by
  rw [length_ofString]
  split
  · rename_i begins
    obtain ⟨rest, rfl⟩ := isPrefixOf_iff_prefix.mp begins
    simp [eq_comm]
  · rename_i other
    simp only [not_mem_nil, false_iff]
    rintro ⟨rest, rfl, -⟩
    exact other <| isPrefixOf_iff_prefix.mpr ⟨rest, rfl⟩

theorem mem_spelled : (n ∈ if (Text.ofString "pas").isPrefixOf t then
      let esses := (t.drop 2).takeWhile (· == 115)
      let rest := t.drop (2 + esses.length)
      [("wd", 2), ("wod", 3), ("wrd", 3), ("word", 4)].filterMap fun (s, n) =>
        if (Text.ofString s).isPrefixOf rest then some (2 + esses.length + n) else none
    else []) ↔ ∃ more, ∃ ending ∈ passwordEndings, ∃ rest,
      t = spelling more ending ++ rest ∧ (spelling more ending).length = n := by
  have pairs : [("wd", 2), ("wod", 3), ("wrd", 3), ("word", 4)] = passwordEndings.map fun s => (s, s.length) := rfl
  constructor
  · intro present
    split at present
    · rename_i begins
      obtain ⟨rest, rfl⟩ := isPrefixOf_iff_prefix.mp begins
      obtain ⟨more, later, rfl, other⟩ := exists_esses rest
      have drop : (Text.ofString "pas" ++ (List.replicate more 115 ++ later)).drop 2 =
          List.replicate (more + 1) 115 ++ later := rfl
      simp only [← drop_drop, drop, takeWhile_esses _ other, length_replicate, pairs, mem_filterMap,
        mem_map, drop_left' length_replicate] at present
      obtain ⟨_, ⟨ending, known, rfl⟩, reached⟩ := present
      obtain ⟨follows, reached⟩ := Option.ite_none_right_eq_some.mp reached
      obtain rfl := Option.some.inj reached
      obtain ⟨rest, rfl⟩ := isPrefixOf_iff_prefix.mp follows
      refine ⟨more, ending, known, rest, ?_, length_spelling more ending⟩
      rw [spelling, append_assoc, append_assoc]
      rfl
    · cases present
  · rintro ⟨more, ending, known, rest, rfl, rfl⟩
    have starts : ∀ w ∈ passwordEndings, (Text.ofString w).head? = some 119 := by decide
    have other : (Text.ofString ending ++ rest).head? ≠ some 115 := by
      rw [List.head?_append, starts ending known]
      exact fun same => absurd (Option.some.inj same) (by decide)
    have drop : (spelling more ending ++ rest).drop 2 =
        List.replicate (more + 1) 115 ++ (Text.ofString ending ++ rest) := by
      rw [spelling, append_assoc, append_assoc]
      rfl
    have begins : (Text.ofString "pas").isPrefixOf (spelling more ending ++ rest) = true := rfl
    rw [if_pos begins, length_spelling]
    simp only [← drop_drop, drop, takeWhile_esses _ other, length_replicate, pairs, mem_filterMap,
      mem_map, drop_left' length_replicate]
    refine ⟨_, ⟨ending, known, rfl⟩, if_pos ?_⟩
    exact isPrefixOf_iff_prefix.mpr (prefix_append _ _)

theorem mem_secretWordLengths : n ∈ secretWordLengths t ↔ ∃ w rest, SecretWord w ∧ t = w ++ rest ∧ w.length = n := by
  unfold secretWordLengths
  simp only [mem_append, mem_fixed]
  constructor
  · rintro ((((((spelled | h) | h) | h) | h) | h) | h)
    · obtain ⟨more, _, known, rest, rfl, rfl⟩ := mem_spelled.mp spelled
      exact ⟨_, rest, .password more known, rfl, rfl⟩
    all_goals
      obtain ⟨rest, rfl, rfl⟩ := h
      exact ⟨_, rest, .fixed (by decide), rfl, rfl⟩
  · rintro ⟨w, rest, word, rfl, rfl⟩
    cases word with
    | fixed known =>
      simp only [fixedWords, mem_cons, not_mem_nil, or_false] at known
      rcases known with rfl | rfl | rfl | rfl | rfl | rfl <;> simp
    | password more known =>
      iterate 6 apply Or.inl
      exact mem_spelled.mpr ⟨more, _, known, rest, rfl, rfl⟩

def firstPiece (t : Text) : Text := t.takeWhile (· != 95)

theorem val_beq_low (p : CodePoint) : (p.val == 95) = (p == 95) := by
  rw [Bool.eq_iff_iff, beq_iff_eq, beq_iff_eq, Fin.ext_iff]
  rfl

theorem endsWord_drop_firstPiece (t : Text) : endsWord (t.drop (firstPiece t).length) = true := by
  induction t with
  | nil => rfl
  | cons p t ih =>
    by_cases low : p = 95
    · subst low
      cases t <;> rfl
    · have kept : firstPiece (p :: t) = p :: firstPiece t := takeWhile_cons_of_pos (by simpa using low)
      rw [kept]
      exact ih

theorem firstPiece_of_endsWord (oneLine : 10 ∉ t) (ends : endsWord t) : firstPiece t = [] := by
  match t with
  | [] => rfl
  | [p] =>
    have other : p.val ≠ 10 := fun same => oneLine (mem_singleton.mpr (Fin.ext same.symm))
    obtain rfl : p = 95 := by simpa [endsWord, other, val_beq_low] using ends
    rfl
  | p :: q :: t =>
    obtain rfl : p = 95 := by simpa [endsWord, val_beq_low] using ends
    rfl

theorem any_secretWordLengths_iff (oneLine : 10 ∉ t) :
    ((secretWordLengths t).any fun n => endsWord (t.drop n)) = true ↔ SecretWord (firstPiece t) := by
  simp only [any_eq_true, mem_secretWordLengths]
  constructor
  · rintro ⟨_, ⟨w, rest, word, rfl, rfl⟩, ends⟩
    rw [drop_left] at ends
    have alone := firstPiece_of_endsWord (fun late => oneLine (mem_append_right w late)) ends
    have whole : firstPiece (w ++ rest) = w ++ firstPiece rest := by
      apply takeWhile_append_of_pos
      intro p mem
      exact bne_iff_ne.mpr fun low => word.whole.2 (low ▸ mem)
    rw [whole, alone, append_nil]
    exact word
  · intro word
    obtain ⟨rest, split⟩ : firstPiece t <+: t := takeWhile_prefix _
    exact ⟨_, ⟨_, rest, word, split.symm, rfl⟩, endsWord_drop_firstPiece t⟩

theorem tail_splitOn (p : CodePoint) (t : Text) : (Segments.splitOn 95 (p :: t)).tail =
    if p == 95 then Segments.splitOn 95 t else (Segments.splitOn 95 t).tail := by
  rw [Segments.splitOn]
  split
  · rfl
  · rw [Segments.splitOn_eq 95 t]
    rfl

theorem subset_of_mem_splitOn {piece : Text} (mem : piece ∈ Segments.splitOn 95 t) : piece ⊆ t := by
  induction t generalizing piece with
  | nil => simp_all [Segments.splitOn]
  | cons p t ih =>
    rw [Segments.splitOn_eq, tail_splitOn, mem_cons] at mem
    rcases mem with rfl | later
    · exact (takeWhile_sublist _).subset
    · apply List.Subset.trans (ih _) (subset_cons_self p t)
      split at later
      · exact later
      · exact mem_of_mem_tail later

theorem secretIn_iff (oneLine : 10 ∉ t) (start : Bool) : secretIn start t = true ↔
    ∃ piece ∈ if start then Segments.splitOn 95 t else (Segments.splitOn 95 t).tail, SecretWord piece := by
  induction t generalizing start with
  | nil =>
    have empty : ¬ SecretWord [] := fun word => word.whole.1 rfl
    cases start <;> simp [secretIn, Segments.splitOn, empty]
  | cons p t ih =>
    have later := ih (fun late => oneLine (mem_cons_of_mem p late)) (p == 95)
    rw [← tail_splitOn] at later
    rw [secretIn, Bool.or_eq_true, Bool.and_eq_true, any_secretWordLengths_iff oneLine, val_beq_low, later]
    cases start with
    | false => simp
    | true =>
      rw [if_pos rfl, Segments.splitOn_eq 95 (p :: t)]
      simp [firstPiece]

theorem fold_of_ascii (small : p.val < 128) : Folding.fold p = smallLetter p := by
  have plain : p.val ≠ 0x17F ∧ p.val ≠ 0x212A ∧ p.val ≠ 0x130 ∧ p.val ≠ 0x131 := by omega
  simp [Folding.fold, smallLetter, plain]

theorem fold_beq {c : CodePoint} (small : p.val < 128) (plain : c.val < 65 ∨ 90 < c.val ∧ c.val < 97) :
    (Folding.fold p == c) = (p == c) := by
  rw [fold_of_ascii small, smallLetter]
  split
  · rename_i capital
    simp only [Bool.and_eq_true, decide_eq_true_eq] at capital
    have value : (CodePoint.ofNat (p.val + 32)).val = p.val + 32 := CodePoint.val_ofNat (by omega)
    rw [Bool.eq_iff_iff, beq_iff_eq, beq_iff_eq, Fin.ext_iff, Fin.ext_iff, value]
    omega
  · rfl

theorem lower_eq_foldText (ascii : ∀ p ∈ t, p.val < 128) : Text.lower t = Folding.foldText t := by
  unfold Text.lower Folding.foldText
  induction t with
  | nil => rfl
  | cons p t ih =>
    rw [forall_mem_cons] at ascii
    rw [flatMap_cons, ih ascii.2, LowerCase.lower, if_pos ascii.1, ← fold_of_ascii ascii.1]
    rfl

theorem splitOn_foldText (ascii : ∀ p ∈ t, p.val < 128) :
    Segments.splitOn 95 (Folding.foldText t) = (Segments.splitOn 95 t).map Folding.foldText := by
  unfold Folding.foldText
  induction t with
  | nil => rfl
  | cons p t ih =>
    rw [forall_mem_cons] at ascii
    rw [map_cons, Segments.splitOn, Segments.splitOn, fold_beq ascii.1 (.inr (by decide)), ih ascii.2]
    split
    · rfl
    · rw [Segments.splitOn_eq 95 t]
      rfl

/-- A name in ASCII and on one line speaks of a secret exactly if a piece between its low lines does, letter case aside.
-/
theorem namesSecret_iff {t : Text} (ascii : ∀ p ∈ t, p.val < 128) (oneLine : 10 ∉ t) :
    namesSecret t = true ↔ ∃ piece ∈ Segments.splitOn 95 t, SecretWord (Text.lower piece) := by
  have folded : 10 ∉ Folding.foldText t := by
    intro present
    obtain ⟨p, listed, same⟩ := mem_map.mp present
    have line : (Folding.fold p == 10) = (p == 10) := fold_beq (ascii p listed) (.inl (by decide))
    rw [same, beq_self_eq_true, eq_comm, beq_iff_eq] at line
    exact oneLine (line ▸ listed)
  rw [namesSecret, secretIn_iff folded, if_pos rfl, splitOn_foldText ascii]
  simp only [mem_map, exists_exists_and_eq_and]
  apply exists_congr
  intro piece
  apply and_congr_right
  intro listed
  rw [lower_eq_foldText fun p inside => ascii p (subset_of_mem_splitOn listed inside)]

theorem dbPassword_named : namesSecret "DB_PassWD_2" = true := by
  have ascii : ((Text.ofString "DB_PassWD_2").all fun p => p.val < 128) = true := by decide
  apply (namesSecret_iff (by simpa using ascii) (by decide)).mpr
  exact ⟨Text.ofString "PassWD", by decide, .password 1 (by decide : "wd" ∈ passwordEndings)⟩

end SourceAudit.Rule
