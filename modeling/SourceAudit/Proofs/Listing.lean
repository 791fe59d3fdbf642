import SourceAudit.Proofs.Targets
import SourceAudit.Scan.Suppression

/-! Comments that list tests. Of words that bare commas hold together only the last one is read. -/

namespace SourceAudit

open List CodePoint

variable {p : CodePoint} {t w : Text}

theorem CodePoint.toChar_ofChar (c : Char) : (ofChar c).toChar = c := by
  have valid : c.toNat < 0xD800 ∨ 0xDFFF < c.toNat ∧ c.toNat < 0x110000 := c.valid
  have small : c.toNat < 0x110000 := by omega
  have proper : (ofChar c).isSurrogate = false := by
    simp only [ofChar, ofNat, small, dif_pos, isSurrogate]
    simp
    omega
  rw [toChar, toChar?, proper]
  simp [ofChar, ofNat, small, Char.ofNat_toNat]

theorem Text.toStringLossy_ofString (s : String) : (Text.ofString s).toStringLossy = s := by
  rw [Text.toStringLossy, Text.ofString, Text.ofChars, map_map]
  have same : toChar ∘ ofChar = id := by
    funext c
    exact toChar_ofChar c
  rw [same, map_id, String.ofList_toList]

namespace Suppression

open Folding

/-! ### Words -/

theorem isBlank_of_isWordPart (small : p.val < 128) (part : isWordPart p) : isBlank p = false := by
  have apart : ∀ n < 128, isWordPart (ofNat n) = true → isBlank (ofNat n) = false := by decide
  have same : ofNat p.val = p := by simp [ofNat]
  rw [← same] at part ⊢
  exact apart p.val small part

theorem isWordPart_of_isDecimal (digit : DecimalDigit.isDecimal p) : isWordPart p = true := by simp [isWordPart, digit]

theorem isWordPart_of_fold (folded : fold p = 98) : isWordPart p = true := by
  rw [isWordPart, folded]
  rfl

def digits : Text → Text
  | p :: rest => if fold p == 98 then rest.takeWhile DecimalDigit.isDecimal else []
  | [] => []

theorem word_eq (t : Text) : word t = if (digits t).isEmpty then (t.takeWhile isWordPart, t.dropWhile isWordPart)
      else (t.take ((digits t).length + 1), t.drop ((digits t).length + 1)) := by
  cases t <;> rfl

/-- An ASCII text that is read as one word: an id ends with its digits. -/
structure IsWord (w : Text) : Prop where
  given : w ≠ []
  parts : ∀ p ∈ w, isWordPart p = true
  small : ∀ p ∈ w, p.val < 128
  number : digits w = [] ∨ digits w = w.tail

instance (w : Text) : Decidable (IsWord w) :=
  decidable_of_iff
    (w ≠ [] ∧ w.all isWordPart = true ∧ w.all (·.val < 128) = true ∧ (digits w = [] ∨ digits w = w.tail))
    ⟨fun h => ⟨h.1, all_eq_true.mp h.2.1, by simpa using h.2.2.1, h.2.2.2⟩,
      fun h => ⟨h.given, all_eq_true.mpr h.parts, by simpa using h.small, h.number⟩⟩

def NoWord (t : Text) : Prop := ∀ p ∈ t.head?, isWordPart p = false

namespace NoWord

theorem takeWhile_eq_nil (none : NoWord t) {narrow : CodePoint → Bool}
    (within : ∀ p, narrow p = true → isWordPart p = true) : t.takeWhile narrow = [] := by
  cases t with
  | nil => rfl
  | cons p rest =>
    have outside : narrow p ≠ true := by
      intro inside
      simpa [within p inside] using none p rfl
    simp [outside]

theorem dropWhile_eq (none : NoWord t) : t.dropWhile isWordPart = t := by
  have nothing : t.takeWhile isWordPart = [] := none.takeWhile_eq_nil fun _ part => part
  simpa [nothing] using takeWhile_append_dropWhile (p := isWordPart) (l := t)

end NoWord

theorem word_of_noWord (none : NoWord t) : word t = ([], t) := by
  have noDigits : digits t = [] := by
    cases t with
    | nil => rfl
    | cons p rest =>
      have other : fold p ≠ 98 := by
        intro folded
        simpa [isWordPart_of_fold folded] using none p rfl
      simp [digits, other]
  rw [word_eq, noDigits, none.takeWhile_eq_nil fun _ part => part, none.dropWhile_eq]
  rfl

theorem digits_append {rest : Text} (isWord : IsWord w) (none : NoWord rest) : digits (w ++ rest) = digits w := by
  obtain ⟨given, _, -, number⟩ := isWord
  cases w with
  | nil => exact absurd rfl given
  | cons p more =>
    simp only [cons_append, digits, tail_cons] at number ⊢
    split
    · rename_i letter
      rw [takeWhile_append, none.takeWhile_eq_nil fun _ => isWordPart_of_isDecimal]
      split
      · rename_i whole
        rw [append_nil]
        exact ((takeWhile_sublist _).eq_of_length whole).symm
      · rfl
    · rfl

theorem word_append {rest : Text} (isWord : IsWord w) (none : NoWord rest) : word (w ++ rest) = (w, rest) := by
  rw [word_eq, digits_append isWord none]
  split
  · rw [takeWhile_append_of_pos isWord.parts, dropWhile_append_of_pos isWord.parts,
      none.takeWhile_eq_nil fun _ part => part, none.dropWhile_eq, append_nil]
  · rename_i numbered
    have whole : digits w = w.tail := isWord.number.resolve_left (by simpa using numbered)
    have length : (digits w).length + 1 = w.length := by
      have positive := length_pos_iff.mpr isWord.given
      rw [whole, length_tail]
      omega
    rw [length, take_left, drop_left]

/-! ### What stands between words -/

/-- A text without any part of a word and without a number sign. -/
def Apart (t : Text) : Prop := ∀ p ∈ t, isWordPart p = false ∧ p ≠ 35

instance (t : Text) : Decidable (Apart t) :=
  decidable_of_iff (t.all (fun p => !isWordPart p && p != 35) = true) (by simp [Apart])

namespace Apart

theorem noWord (apart : Apart t) : NoWord t := fun p first => (apart p (mem_of_head? first)).1

theorem noWord_append (apart : Apart t) (given : t ≠ []) (rest : Text) : NoWord (t ++ rest) := by
  intro p first
  rw [List.head?_append_of_ne_nil _ given] at first
  exact apart.noWord p first

theorem names_append (apart : Apart t) (fuel : Nat) (rest : Text) :
    names (t.length + fuel) (t ++ rest) = names fuel rest := by
  induction t with
  | nil => simp
  | cons p more ih =>
    have step : (p :: more).length + fuel = more.length + fuel + 1 := by simp; omega
    rw [step, cons_append, names, (apart p mem_cons_self).1]
    exact ih fun q mem => apart q (mem_cons_of_mem p mem)

theorem names_eq_nil (apart : Apart t) {fuel : Nat} (enough : t.length ≤ fuel) : names fuel t = [] := by
  obtain ⟨left, rfl⟩ : ∃ n, fuel = t.length + n := ⟨fuel - t.length, by omega⟩
  have read := apart.names_append left []
  rw [append_nil] at read
  rw [read]
  cases left <;> rfl

end Apart

def afterComma (t : Text) : Text := if t.head? == some 44 then t.tail else t

theorem afterComma_append (given : t ≠ []) (rest : Text) : afterComma (t ++ rest) = afterComma t ++ rest := by
  cases t with
  | nil => exact absurd rfl given
  | cons p more => by_cases comma : p = 44 <;> simp [afterComma, comma]

theorem afterComma_eq_nil (given : t ≠ []) : afterComma t = [] ↔ t = [44] := by
  cases t with
  | nil => exact absurd rfl given
  | cons p more =>
    unfold afterComma
    split
    · rename_i comma
      obtain rfl : p = 44 := by simpa using comma
      simp
    · rename_i other
      simp only [reduceCtorEq, false_iff]
      rintro written
      simp [written] at other

theorem mem_of_mem_afterComma (present : p ∈ afterComma t) : p ∈ t := by
  unfold afterComma at present
  split at present
  · exact mem_of_mem_tail present
  · exact present

theorem length_afterComma (t : Text) : (afterComma t).length ≤ t.length := by
  unfold afterComma
  split <;> simp

/-! ### Runs of words -/

theorem lastOfRun_of_noWord (none : NoWord t) (fuel : Nat) (last : Text) : lastOfRun fuel last t = (last, t) := by
  cases fuel with
  | zero => rfl
  | succ fuel => simp [lastOfRun, word_of_noWord none]

theorem lastOfRun_append {rest : Text} (isWord : IsWord w) (none : NoWord rest) (fuel : Nat) (last : Text) :
    lastOfRun (fuel + 1) last (w ++ rest) = lastOfRun fuel w (afterComma rest) := by
  simp [lastOfRun, word_append isWord none, isWord.given, afterComma]

theorem names_append (isWord : IsWord w) (rest : Text) (fuel : Nat) :
    names (fuel + 1) (w ++ rest) = (lastOfRun (w ++ rest).length [] (w ++ rest)).1 ::
      names fuel (lastOfRun (w ++ rest).length [] (w ++ rest)).2 := by
  obtain ⟨given, parts, -, -⟩ := isWord
  cases w with
  | nil => exact absurd rfl given
  | cons p more => simp [names, parts p mem_cons_self]

/-- What separates a test of a list from the next one. -/
structure Separator where
  text : Text
  given : text ≠ [] := by decide
  apart : Apart text := by decide

def Separator.blank : Separator := { text := [32] }

def Separator.tight (s : Separator) : Bool := s.text == [44]

inductive Listing where
  | only (test : String)
  | next (test : String) (separator : Separator) (rest : Listing)

namespace Listing

def tests : Listing → List String
  | only test => [test]
  | next test _ rest => test :: rest.tests

/-- The tests that no bare comma follows. -/
def heard : Listing → List String
  | only test => [test]
  | next test separator rest => if separator.tight then rest.heard else test :: rest.heard

def text : Listing → Text
  | only test => test
  | next test separator rest => test ++ (separator.text ++ rest.text)

theorem mem_tests_of_mem_heard {l : Listing} {t : String} (heard : t ∈ l.heard) : t ∈ l.tests := by
  induction l with
  | only test => exact heard
  | next test separator rest ih =>
    unfold Listing.heard at heard
    split at heard
    · exact mem_cons_of_mem test (ih heard)
    · rcases mem_cons.mp heard with rfl | later
      · exact mem_cons_self
      · exact mem_cons_of_mem test (ih later)

def Legible (l : Listing) : Prop := ∀ t ∈ l.tests, IsWord t

variable {l : Listing} {tail : Text}

section

variable (legible : l.Legible)

include legible

theorem Legible.exists_first : ∃ w rest, IsWord w ∧ l.text = w ++ rest := by
  cases l with
  | only test => exact ⟨test, [], legible test (by simp [tests]), by simp [text]⟩
  | next test separator rest => exact ⟨test, _, legible test (by simp [tests]), rfl⟩

theorem names_text_append (tail : Text) (fuel : Nat) :
    names (fuel + 1) (l.text ++ tail) = (lastOfRun (l.text ++ tail).length [] (l.text ++ tail)).1 ::
      names fuel (lastOfRun (l.text ++ tail).length [] (l.text ++ tail)).2 := by
  obtain ⟨w, _, first, same⟩ := legible.exists_first
  rw [same, append_assoc]
  exact names_append first _ fuel

theorem run_text (apart : Apart tail) {steps fuel : Nat} (before : Text)
    (enoughSteps : (l.text ++ tail).length ≤ steps) (enough : (l.text ++ tail).length ≤ fuel) :
    (lastOfRun steps before (l.text ++ tail)).1 :: names fuel (lastOfRun steps before (l.text ++ tail)).2 =
      l.heard.map Text.ofString := by
  induction l generalizing steps fuel before with
  | only test =>
    have isWord : IsWord test := legible test (by simp [tests])
    have positive : 0 < (test : Text).length := length_pos_iff.mpr isWord.given
    have fits := length_afterComma tail
    have ends : Apart (afterComma tail) := fun p present => apart p (mem_of_mem_afterComma present)
    simp only [text, length_append] at enoughSteps enough ⊢
    obtain ⟨more, rfl⟩ : ∃ n, steps = n + 1 := ⟨steps - 1, by omega⟩
    rw [lastOfRun_append isWord apart.noWord, lastOfRun_of_noWord ends.noWord, ends.names_eq_nil (by omega)]
    rfl
  | next test separator rest ih =>
    have isWord : IsWord test := legible test (by simp [tests])
    have later : rest.Legible := fun t mem => legible t (mem_cons_of_mem test mem)
    have positive : 0 < (test : Text).length := length_pos_iff.mpr isWord.given
    have fits := length_afterComma separator.text
    simp only [text, append_assoc, length_append] at enoughSteps enough ⊢
    obtain ⟨more, rfl⟩ : ∃ n, steps = n + 1 := ⟨steps - 1, by omega⟩
    rw [lastOfRun_append isWord (separator.apart.noWord_append separator.given _),
      afterComma_append separator.given, heard]
    by_cases tight : separator.text = [44]
    · -- the run goes on, and its last word so far is lost
      rw [(afterComma_eq_nil separator.given).mpr tight, nil_append, if_pos (by simp [Separator.tight, tight])]
      exact ih later test (by simp; omega) (by simp; omega)
    · have between : afterComma separator.text ≠ [] := mt (afterComma_eq_nil separator.given).mp tight
      have ends : Apart (afterComma separator.text) :=
        fun p present => separator.apart p (mem_of_mem_afterComma present)
      obtain ⟨_, rfl⟩ : ∃ n, fuel = (afterComma separator.text).length + (n + 1) :=
        ⟨fuel - (afterComma separator.text).length - 1, by omega⟩
      rw [lastOfRun_of_noWord (ends.noWord_append between _), ends.names_append, names_text_append later,
        ih later [] (Nat.le_refl _) (by simp; omega), if_neg (by simp [Separator.tight, tight])]
      rfl

theorem names_text (apart : Apart tail) :
    names ((l.text ++ tail).length + 1) (l.text ++ tail) = l.heard.map Text.ofString := by
  rw [names_text_append legible]
  exact run_text legible apart [] (Nat.le_refl _) (Nat.le_refl _)

theorem Legible.exists_cons : ∃ p rest, l.text = p :: rest ∧ isWordPart p = true ∧ isBlank p = false := by
  obtain ⟨w, rest, ⟨given, parts, small, -⟩, same⟩ := legible.exists_first
  cases w with
  | nil => exact absurd rfl given
  | cons p more =>
    have part := parts p mem_cons_self
    exact ⟨p, more ++ rest, same, part, isBlank_of_isWordPart (small p mem_cons_self) part⟩

theorem ne_of_mem_text (present : p ∈ l.text) : p ≠ 35 := by
  have part {w : Text} (isWord : IsWord w) (mem : p ∈ w) : p ≠ 35 := by
    rintro rfl
    exact absurd (isWord.parts 35 mem) (by decide)
  induction l with
  | only test => exact part (legible test (by simp [tests])) present
  | next test separator rest ih =>
    simp only [text, mem_append] at present
    rcases present with inWord | between | behind
    · exact part (legible test (by simp [tests])) inWord
    · exact (separator.apart p between).2
    · exact ih (fun t mem => legible t (mem_cons_of_mem test mem)) behind

end

end Listing

/-! ### Comments -/

/-- How a comment that lists tests is written: blanks, a colon or none, what follows, and which comment follows that. -/
structure Wording where
  lead : Text := [32]
  colon : Bool := false
  gap : Text := [32]
  tail : Text := []
  other : Option Text := none
  blank : (lead ++ gap).all isBlank = true := by decide
  apart : Apart tail := by decide

def Wording.comment (w : Wording) (l : Listing) : Text :=
  35 :: (w.lead ++ Text.ofString "nosec" ++ (if w.colon then [58] else []) ++ w.gap ++ l.text ++ w.tail ++
    w.other.elim [] (35 :: ·))

theorem dropWhile_blanks {blanks : Text} (blank : ∀ p ∈ blanks, isBlank p = true) (other : isBlank p = false)
    (rest : Text) : (blanks ++ p :: rest).dropWhile isBlank = p :: rest := by
  rw [dropWhile_append_of_pos blank, dropWhile_cons, other]
  rfl

theorem drop_colon (colon : Bool) {gap : Text} (blank : ∀ p ∈ gap, isBlank p = true) (other : p ≠ 58) (rest : Text) :
    (let t : Text := (if colon then [58] else []) ++ (gap ++ p :: rest)
     if t.head? == some 58 then t.tail else t) = gap ++ p :: rest := by
  cases colon with
  | true => rfl
  | false =>
    cases gap with
    | nil => simp [other]
    | cons q more =>
      have apart : q ≠ 58 := by
        rintro rfl
        exact absurd (blank 58 mem_cons_self) (by decide)
      simp [apart]

theorem takeWhile_free (free : ∀ p ∈ t, p ≠ 35) (other : Option Text) :
    (t ++ other.elim [] (35 :: ·)).takeWhile (· != 35) = t := by
  rw [takeWhile_append_of_pos (fun p present => by simpa using free p present)]
  cases other <;> simp

theorem marked_comment (w : Wording) {l : Listing} (legible : l.Legible) :
    marked? (w.comment l) = some (l.text ++ w.tail) := by
  obtain ⟨p, rest, text, part, solid⟩ := legible.exists_cons
  have plain : p ≠ 58 := by
    rintro rfl
    exact absurd part (by decide)
  have blank := all_eq_true.mp w.blank
  have lead : ∀ p ∈ w.lead, isBlank p = true := fun p present => blank p (by simp [present])
  have gap : ∀ p ∈ w.gap, isBlank p = true := fun p present => blank p (by simp [present])
  have free : ∀ p ∈ l.text ++ w.tail, p ≠ 35 := by
    intro p present
    rcases mem_append.mp present with mem | behind
    · exact Listing.ne_of_mem_text legible mem
    · exact (w.apart p behind).2
  have marker (t : Text) : (w.lead ++ (Text.ofString "nosec" ++ t)).dropWhile isBlank =
      Text.ofString "nosec" ++ t := dropWhile_blanks lead (by decide) _
  have found (t : Text) : (Text.ofString "nosec").isPrefixOf (Text.ofString "nosec" ++ t) = true := by
    rw [ isPrefixOf_iff_prefix]
    exact prefix_append _ _
  have behind (t : Text) : (Text.ofString "nosec" ++ t).drop 5 = t := rfl
  have colon := drop_colon w.colon gap plain (rest ++ (w.tail ++ w.other.elim [] (35 :: ·)))
  have list := dropWhile_blanks gap solid (rest ++ (w.tail ++ w.other.elim [] (35 :: ·)))
  rw [← cons_append, ← text] at colon list
  simp only [Wording.comment, marked?, append_assoc, marker, found, behind, beq_self_eq_true, Bool.true_and, if_true]
  rw [colon, list, ← append_assoc, takeWhile_free free]

/-! ### Tests -/

def denoted (t : String) : Option String := if Catalogue.isKnown t then some t else Catalogue.idOf? t

theorem identify_fst (t : String) : (identify t).1 = denoted t := by
  simp only [identify, denoted, Text.toStringLossy_ofString]
  split
  · rfl
  · split <;> simp_all

theorem identify_snd {t : String} (known : (denoted t).isSome) : (identify t).2 = [] := by
  simp only [identify, Text.toStringLossy_ofString]
  unfold denoted at known
  split
  · rfl
  · split <;> simp_all

theorem words_catalogue :
    ∀ r ∈ Catalogue.rules, IsWord r.id ∧ IsWord r.name ∧ (Text.ofString r.name).head? ≠ some 66 := by
  decide +kernel

theorem words_banned : ∀ b ∈ Banned.all, IsWord b.id ∧ IsWord b.name ∧ (Text.ofString b.name).head? ≠ some 66 := by
  decide +kernel

variable {t : String}

theorem isWord_of_isKnown (known : Catalogue.isKnown t) : IsWord t := by
  simp only [Catalogue.isKnown, Catalogue.ruleOf?, Catalogue.bannedOf?, Bool.or_eq_true, List.find?_isSome,
    beq_iff_eq] at known
  rcases known with (⟨r, present, rfl⟩ | ⟨b, present, rfl⟩) | rfl
  · exact (words_catalogue r present).1
  · exact (words_banned b present).1
  · decide +kernel

theorem exists_of_idOf? (named : (Catalogue.idOf? t).isSome) :
    (∃ r ∈ Catalogue.rules, r.name = t) ∨ ∃ b ∈ Banned.all, b.name = t := by
  unfold Catalogue.idOf? at named
  cases found : Catalogue.rules.find? fun r => r.name == t with
  | some r => exact .inl ⟨r, mem_of_find?_eq_some found, by simpa using List.find?_some found⟩
  | none =>
    simp only [found, Option.map_none, Option.orElse_none, Option.isSome_map, List.find?_isSome, beq_iff_eq] at named
    exact .inr named

theorem isWord_of_denoted (known : (denoted t).isSome) : IsWord t := by
  unfold denoted at known
  split at known
  · rename_i mem
    exact isWord_of_isKnown mem
  · rcases exists_of_idOf? known with ⟨r, present, rfl⟩ | ⟨b, present, rfl⟩
    · exact (words_catalogue r present).2.1
    · exact (words_banned b present).2.1

/-- The letter B and digits behind it, as ids are written, whether there is such a test or not. -/
def Numbered (t : String) : Prop :=
  ∃ ds : List Char, ds ≠ [] ∧ ds.all Char.isDigit = true ∧ t = String.ofList ('B' :: ds)

theorem ofString_numbered (ds : List Char) :
    Text.ofString (String.ofList ('B' :: ds)) = 66 :: ds.map CodePoint.ofChar := by
  rw [Text.ofString, String.toList_ofList]
  rfl

theorem isDecimal_of_isDigit {c : Char} (digit : c.isDigit) :
    DecimalDigit.isDecimal (CodePoint.ofChar c) = true ∧ (CodePoint.ofChar c).val < 128 := by
  have bounds : 48 ≤ c.toNat ∧ c.toNat ≤ 57 := by simpa [Char.isDigit, UInt32.le_iff_toNat_le] using digit
  have value : (CodePoint.ofChar c).val = c.toNat := by
    have small : c.toNat < 0x110000 := by omega
    simp [CodePoint.ofChar, CodePoint.ofNat, small]
  have small : c.toNat < 128 := by omega
  simp [DecimalDigit.isDecimal, DecimalDigit.value?, value, small, bounds]

theorem isWord_of_numbered {t : String} (numbered : Numbered t) : IsWord t := by
  obtain ⟨ds, _, all, rfl⟩ := numbered
  have each : ∀ p ∈ ds.map CodePoint.ofChar, DecimalDigit.isDecimal p = true ∧ p.val < 128 := by
    intro p present
    obtain ⟨c, mem, rfl⟩ := mem_map.mp present
    exact isDecimal_of_isDigit (all_eq_true.mp all c mem)
  rw [ofString_numbered]
  refine ⟨by simp, ?_, ?_, .inr ?_⟩
  · intro p present
    rcases mem_cons.mp present with rfl | digit
    · decide
    · exact isWordPart_of_isDecimal (each p digit).1
  · intro p present
    rcases mem_cons.mp present with rfl | digit
    · decide
    · exact (each p digit).2
  · have letter : (fold 66 == 98) = true := by decide
    have whole := takeWhile_eq_self_iff.mpr fun p present => (each p present).1
    simpa [digits, letter] using whole

theorem denoted_of_numbered {t : String} (numbered : Numbered t) :
    denoted t = if Catalogue.isKnown t then some t else none := by
  have unnamed : Catalogue.idOf? t = none := by
    by_contra named
    obtain ⟨_, -, -, rfl⟩ := numbered
    rcases exists_of_idOf? (Option.isSome_iff_ne_none.mpr named) with ⟨r, present, same⟩ | ⟨b, present, same⟩
    · exact (words_catalogue r present).2.2 (by rw [same, ofString_numbered]; rfl)
    · exact (words_banned b present).2.2 (by rw [same, ofString_numbered]; rfl)
  rw [denoted, unnamed]

theorem read_comment (w : Wording) {l : Listing} (legible : l.Legible) :
    read (w.comment l) = (some (l.heard.filterMap denoted).eraseDups,
      l.heard.flatMap fun t => (identify (Text.ofString t)).2) := by
  have ids : (fun t => (identify (Text.ofString t)).1) = denoted := funext identify_fst
  simp only [read, marked_comment w legible, Listing.names_text legible w.apart, map_map, filterMap_map, flatMap_map]
  rw [← ids]
  rfl

theorem read_comment_numbered (w : Wording) {l : Listing} (numbered : ∀ t ∈ l.tests, Numbered t) :
    ∃ ids, (read (w.comment l)).1 = some ids ∧ ∀ id, id ∈ ids ↔ id ∈ l.heard ∧ Catalogue.isKnown id = true := by
  have legible : l.Legible := fun t mem => isWord_of_numbered (numbered t mem)
  refine ⟨_, congrArg Prod.fst (read_comment w legible), fun id => ?_⟩
  rw [mem_eraseDups, mem_filterMap]
  constructor
  · rintro ⟨t, heard, means⟩
    rw [denoted_of_numbered (numbered t (Listing.mem_tests_of_mem_heard heard)), Option.ite_none_right_eq_some] at means
    obtain ⟨known, same⟩ := means
    obtain rfl := Option.some.inj same
    exact ⟨heard, known⟩
  · rintro ⟨heard, known⟩
    exact ⟨id, heard, if_pos known⟩

/-- A comment that lists known tests names those that no bare comma follows: all of them exactly if each means what one
of these means. -/
theorem read_comment_exact_iff (w : Wording) {l : Listing} (known : ∀ t ∈ l.tests, (denoted t).isSome) :
    ∃ ids, read (w.comment l) = (some ids, []) ∧ ids.Nodup ∧
      (∀ id, id ∈ ids ↔ ∃ t ∈ l.heard, denoted t = some id) ∧
      ((∀ id, id ∈ ids ↔ ∃ t ∈ l.tests, denoted t = some id) ↔
        ∀ t ∈ l.tests, ∃ u ∈ l.heard, denoted u = denoted t) := by
  have legible : l.Legible := fun t listed => isWord_of_denoted (known t listed)
  have silent : (l.heard.flatMap fun t => (identify (Text.ofString t)).2) = [] := by
    rw [flatMap_eq_nil_iff]
    exact fun t heard => identify_snd (known t (Listing.mem_tests_of_mem_heard heard))
  have named (id : String) :
      id ∈ (l.heard.filterMap denoted).eraseDups ↔ ∃ t ∈ l.heard, denoted t = some id := by
    rw [mem_eraseDups, mem_filterMap]
  refine ⟨_, by rw [read_comment w legible, silent], Lists.nodup_eraseDups _, named, ?_⟩
  constructor
  · intro all t listed
    obtain ⟨id, means⟩ := Option.isSome_iff_exists.mp (known t listed)
    obtain ⟨u, heard, same⟩ := (named id).mp ((all id).mpr ⟨t, listed, means⟩)
    exact ⟨u, heard, same.trans means.symm⟩
  · intro repeated id
    rw [named]
    constructor
    · rintro ⟨t, heard, means⟩
      exact ⟨t, Listing.mem_tests_of_mem_heard heard, means⟩
    · rintro ⟨t, listed, means⟩
      obtain ⟨u, heard, same⟩ := repeated t listed
      exact ⟨u, heard, same.trans means⟩

def looseList : Listing := .next "B602" { text := [44, 32] } (.next "assert_used" { text := [32] } (.only "B607"))

theorem read_comment_looseList : (∀ t ∈ looseList.tests, (denoted t).isSome) ∧
    ∃ ids, read (Wording.comment { colon := true, tail := [32], other := some [32, 120] } looseList) = (some ids, []) ∧
      ∀ id, id ∈ ids ↔ ∃ t ∈ looseList.tests, denoted t = some id := by
  have known : ∀ t ∈ looseList.tests, (denoted t).isSome := by decide +kernel
  obtain ⟨ids, read, -, -, exactly⟩ :=
    read_comment_exact_iff { colon := true, tail := [32], other := some [32, 120] } known
  exact ⟨known, ids, read, exactly.mpr fun t listed => ⟨t, listed, rfl⟩⟩

def tightPair : Listing := .next "B607" { text := [44] } (.only "B602")

/-- The first of two ids that a bare comma joins is lost. -/
theorem read_tightPair : Wording.comment {} tightPair = Text.ofString "# nosec B607,B602" ∧
    tightPair.tests.map denoted = [some "B607", some "B602"] ∧
    read (Wording.comment {} tightPair) = (some ["B602"], []) := by
  decide +kernel

end Suppression

end SourceAudit
