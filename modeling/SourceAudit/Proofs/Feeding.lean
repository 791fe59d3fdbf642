import SourceAudit.Proofs.Controls
import SourceAudit.Proofs.Windows

/-! Code shown from standard input and from files. Lines of a file are always shown, lines of standard input exactly if
they are UTF-8, and both alike for sources without line ends, marks or declarations that are read differently. -/

namespace SourceAudit

open List Segments

namespace Utf8

theorem headChar?_encodeChar (c : Char) (rest : Bytes) :
    headChar? (encodeChar c ++ rest) = some (c, (encodeChar c).length) := by
  have two (n : Nat) : (0xC0 + n / 64 - 0xC0) * 64 + (0x80 + n % 64 - 0x80) = n := by omega
  have three (n : Nat) : (0xE0 + n / 4096 - 0xE0) * 4096 + (0x80 + n / 64 % 64 - 0x80) * 64 + (0x80 + n % 64 - 0x80) = n := by
    omega
  have four (n : Nat) : (0xF0 + n / 262144 - 0xF0) * 262144 + (0x80 + n / 4096 % 64 - 0x80) * 4096 +
      (0x80 + n / 64 % 64 - 0x80) * 64 + (0x80 + n % 64 - 0x80) = n := by omega
  have byte (m : Nat) (small : m < 256) : m.toUInt8.toNat = m := Nat.mod_eq_of_lt small
  have tail : ∀ m < 64, isTail (0x80 + m).toUInt8 = true := by decide
  have valid : c.toNat < 0xD800 ∨ 0xDFFF < c.toNat ∧ c.toNat < 0x110000 := c.valid
  have proper : (!(0xD800 ≤ c.toNat && c.toNat < 0xE000)) = true := by grind
  unfold encodeChar
  dsimp only
  repeat' split
  all_goals simp (disch := omega) only [cons_append, nil_append, headChar?, byte, tail, if_neg, if_pos, two, three, four,
    Bool.true_and, decide_eq_true, proper, c.ofNat_toNat, length_cons, length_nil, Nat.reduceAdd, if_true]

theorem encodeChar_ne_nil (c : Char) : encodeChar c ≠ [] := by
  intro none
  have read := headChar?_encodeChar c []
  rw [none] at read
  cases read

theorem ten_not_mem_encodeChar {c : Char} (other : c ≠ '\n') : 10 ∉ encodeChar c := by
  have valid : c.toNat < 0xD800 ∨ 0xDFFF < c.toNat ∧ c.toNat < 0x110000 := c.valid
  have own : c.toNat ≠ 10 := fun same => other (by rw [← c.ofNat_toNat, same])
  have byte (m : Nat) (small : m < 256) (apart : m ≠ 10) : 10 ≠ m.toUInt8 := by
    intro same
    exact apart ((Nat.mod_eq_of_lt small).symm.trans (congrArg UInt8.toNat same).symm)
  unfold encodeChar
  dsimp only
  repeat' split
  all_goals
    simp only [mem_cons, not_mem_nil, or_false, not_or]
    and_intros
  all_goals exact byte _ (by omega) (by omega)

theorem go_encode {f : UInt8 → Option Char} (cs : List Char) {fuel : Nat} (enough : (encode cs).length ≤ fuel) :
    decodeWith.go f fuel (encode cs) = some cs := by
  induction cs generalizing fuel with
  | nil => cases fuel <;> rfl
  | cons c cs ih =>
    have read := headChar?_encodeChar c (encode cs)
    have whole : encode (c :: cs) = encodeChar c ++ encode cs := flatMap_cons
    obtain ⟨a, u, first⟩ := exists_cons_of_ne_nil (encodeChar_ne_nil c)
    rw [whole, length_append] at enough
    rw [whole]
    rw [first] at read enough ⊢
    obtain ⟨fuel, rfl⟩ := Nat.exists_eq_succ_of_ne_zero (n := fuel) (by simp at enough; omega)
    rw [cons_append] at read ⊢
    rw [decodeWith.go, read]
    dsimp only
    rw [← cons_append, drop_left, ih (by simp at enough; omega)]
    rfl

theorem decode?_encode (cs : List Char) : decode? (encode cs) = some cs := go_encode cs (Nat.le_refl _)

theorem runs_append {w rest : Bytes} (some : w ≠ []) (inside : 10 ∉ w) :
    runs 10 (w ++ rest) = (w ++ (runs 10 rest).headD []) :: (runs 10 rest).tail := by
  induction w with
  | nil => exact absurd rfl some
  | cons x w ih =>
    rw [mem_cons, not_or] at inside
    rw [cons_append, runs, if_neg (by simpa using Ne.symm inside.1)]
    cases w with
    | nil => rfl
    | cons y w =>
      rw [ih (cons_ne_nil y w) inside.2]
      rfl

theorem feedLines_encode (cs : List Char) : Source.feedLines (encode cs) = (runs '\n' cs).map encode := by
  rw [Source.feedLines]
  induction cs with
  | nil => rfl
  | cons c cs ih =>
    have whole : encode (c :: cs) = encodeChar c ++ encode cs := flatMap_cons
    by_cases ends : c = '\n'
    · subst ends
      exact congrArg ([10] :: ·) ih
    · rw [whole, runs_append (encodeChar_ne_nil c) (ten_not_mem_encodeChar ends), ih, runs, if_neg (by simpa using ends)]
      cases runs '\n' cs <;> simp [encode]

end Utf8

namespace Source

theorem getLast?_of_mem_runs {cs l : List Char} (mem : l ∈ runs '\n' (cs ++ ['\n'])) : l.getLast? = some '\n' := by
  induction cs generalizing l with
  | nil => simp_all [runs]
  | cons c cs ih =>
    rw [cons_append, runs] at mem
    have all := flatten_runs '\n' (cs ++ ['\n'])
    cases lines : runs '\n' (cs ++ ['\n']) with
    | nil => simp [lines] at all
    | cons first rest =>
      rw [lines] at mem ih
      split at mem
      · rcases mem_cons.mp mem with rfl | behind
        · simpa using ‹(c == '\n') = true›
        · exact ih behind
      · rcases mem_cons.mp mem with rfl | behind
        · simp [getLast?_cons, ih mem_cons_self]
        · exact ih (mem_cons_of_mem _ behind)

/-- Bytes in UTF-8 with an ended last line, without carriage returns, byte order mark and declaration. -/
structure Plain (b : Bytes) (cs : List Char) : Prop where
  encoded : b = Utf8.encode (cs ++ ['\n'])
  returns : '\r' ∉ cs
  unmarked : byteOrderMark.isPrefixOf b = false
  undeclared : declaration? (feedLines b) = none

def inputLines (b : Bytes) : List Text := (feedLines b).map fun l => Text.ofChars ((Utf8.decode? l).getD [])

variable {b : Bytes} {cs : List Char} (plain : Plain b cs)

include plain

theorem Plain.isSome_decode? {l : Bytes} (mem : l ∈ feedLines b) : (Utf8.decode? l).isSome := by
  rw [plain.encoded, Utf8.feedLines_encode] at mem
  obtain ⟨l, -, rfl⟩ := mem_map.mp mem
  rw [Utf8.decode?_encode]
  rfl

theorem Plain.inputLines_eq : inputLines b = (runs '\n' (cs ++ ['\n'])).map Text.ofChars := by
  simp [inputLines, plain.encoded, Utf8.feedLines_encode, Function.comp_def, Utf8.decode?_encode]

theorem Plain.encoding : lineEncoding? b = some .utf8 := by
  have undeclared := plain.undeclared
  have decodes := fun l => plain.isSome_decode? (l := l)
  have nothing : Utf8.decode? [] = some [] ∧ declared? [] = none := ⟨rfl, rfl⟩
  simp only [lineEncoding?, dropMark, plain.unmarked, Bool.false_eq_true, if_false]
  generalize feedLines b = lines at undeclared decodes ⊢
  cases lines with
  | nil => simp [nothing, isBlankLine]
  | cons first rest =>
    obtain ⟨fs, read⟩ := Option.isSome_iff_exists.mp (decodes first mem_cons_self)
    cases named : declared? first with
    | some name => simp [declaration?, named] at undeclared
    | none =>
      by_cases blank : isBlankLine first = true
      · cases rest with
        | nil => simp [read, named, nothing]
        | cons second more =>
          obtain ⟨ss, also⟩ := Option.isSome_iff_exists.mp (decodes second (by simp))
          have none : declared? second = none := by simpa [declaration?, named, blank] using undeclared
          simp [read, also, named, none]
      · simp [read, named, blank]

theorem Plain.shownLines_eq : shownLines b = (runs '\n' (cs ++ ['\n'])).map Text.ofChars := by
  have unified (cs : List Char) (free : '\r' ∉ cs) : unifyLineEnds cs = cs := by
    fun_induction unifyLineEnds cs <;> simp_all
  have decoded : Utf8.decode? b = some (cs ++ ['\n']) := by rw [plain.encoded, Utf8.decode?_encode]
  have text : textLines? b = some (runs '\n' (cs ++ ['\n'])) := by
    simp [textLines?, plain.encoding, dropMark, plain.unmarked, Encoding.decode?, decoded,
      unified (cs ++ ['\n']) (by simp [plain.returns]), splitLines]
  rw [shownLines, text]
  apply map_congr_left
  intro l mem
  simp [getLast?_of_mem_runs mem]

end Source

namespace Issue

variable {i : Issue} {files : LineSource} {lines n : Int} {tabbed : Bool} {source : List Text}

/-- An issue is shown with its window of a source, and its own line is in it. -/
structure Framed (files : LineSource) (lines : Int) (tabbed : Bool) (i : Issue) (n : Int) (source : List Text) :
    Prop where
  code : i.code files lines tabbed = .ok (excerpt tabbed (i.window lines n source))
  here : ∃ l, (n, l) ∈ i.window lines n source

theorem mem_window_self (ranged : i.lineRange ≠ []) (low : 1 ≤ n) (inside : n ≤ source.length) :
    ∃ l, (n, l) ∈ i.window lines n source := by
  have some : 0 < i.lineRange.length := length_pos_iff.mpr ranged
  have bound : (n - 1).toNat < source.length := by omega
  refine ⟨source[(n - 1).toNat], mem_window.mpr ⟨?_, ?_, getElem?_eq_getElem bound⟩⟩
  · unfold firstShown
    omega
  · unfold firstShown mostShown
    omega

theorem code_of_input {b : Bytes} (placed : i.line = some n) (file : i.filename = inputName)
    (given : i.input = some b) (decoded : ∀ l ∈ i.around lines n b, (Utf8.decode? l).isSome) :
    i.code files lines tabbed = .ok (excerpt tabbed (i.window lines n (Source.inputLines b))) := by
  apply code_eq_window placed fun _ => by simp [given]
  intro m low high
  have positive : 1 ≤ firstShown lines n := Int.le_max_left ..
  rw [lineAt_input file given, Source.inputLines, getElem?_map]
  cases found : (Source.feedLines b)[(m - 1).toNat]? with
  | none => simp
  | some l =>
    have shown : l ∈ i.around lines n b := by
      apply mem_of_getElem? (i := (m - firstShown lines n).toNat)
      change (take (i.mostShown lines) (drop (firstShown lines n - 1).toNat _))[_]? = _
      rw [getElem?_take_of_lt (by omega), getElem?_drop, ← found]
      congr 1
      omega
    obtain ⟨cs, read⟩ := Option.isSome_iff_exists.mp (decoded l shown)
    have more := Utf8.ne_nil_of_decode? (Source.ne_nil_of_mem_feedLines (mem_of_getElem? found)) read
    simp [read, Text.ofChars, more]

/-- A file is shown by its window around the issue, and so is standard input if the lines of the window are UTF-8. Plain
sources are shown alike. -/
theorem code_framed (placed : i.line = some n) (ranged : i.lineRange ≠ []) (low : 1 ≤ n) (files : LineSource)
    (lines : Int) (tabbed : Bool) :
    (∀ b, i.filename ≠ inputName → files i.filename = Source.shownLines b → n ≤ (Source.shownLines b).length →
      i.Framed files lines tabbed n (Source.shownLines b)) ∧
    (∀ b, i.filename = inputName → i.input = some b → n ≤ (Source.feedLines b).length →
      (i.Framed files lines tabbed n (Source.inputLines b) ↔ ∀ l ∈ i.around lines n b, (Utf8.decode? l).isSome)) ∧
    ∀ b cs, Source.Plain b cs → i.filename = inputName → i.input = some b → ∀ name, name ≠ inputName →
      files name = Source.shownLines b → i.code files lines tabbed = { i with filename := name }.code files lines tabbed := by
  refine ⟨?_, ?_, ?_⟩
  · intro b file read inside
    exact ⟨code_of_file placed file read, mem_window_self ranged low inside⟩
  · intro b file given inside
    constructor
    · intro framed
      obtain ⟨m, same, shown⟩ := exists_code_iff.mp ⟨_, framed.code⟩
      obtain ⟨c, input, decoded⟩ := shown file
      cases placed.symm.trans same
      cases given.symm.trans input
      exact decoded
    · intro decoded
      exact ⟨code_of_input placed file given decoded,
        mem_window_self ranged low (by simpa [Source.inputLines] using inside)⟩
  · intro b cs plain file given name other read
    rw [code_of_input placed file given, code_of_file (i := { i with filename := name }) placed other read,
      plain.shownLines_eq, plain.inputLines_eq]
    · rfl
    · intro l mem
      exact plain.isSome_decode? (mem_of_mem_drop (mem_of_mem_take mem))

def fed (b : Bytes) : Issue :=
  { severity := "LOW", filename := inputName, input := some b, line := some 2, lineRange := [2] }

theorem code_framed_fed : ∃ b cs, Source.Plain b cs ∧ ∀ files lines tabbed, files "./a.py" = Source.shownLines b →
    (fed b).code files lines tabbed = { fed b with filename := "./a.py" }.code files lines tabbed := by
  have plain : Source.Plain (Utf8.encode "# é\nassert a\n".toList) "# é\nassert a".toList :=
    ⟨by decide +kernel, by decide, by decide, by decide +kernel⟩
  refine ⟨_, _, plain, fun files lines tabbed read => ?_⟩
  exact (code_framed (i := fed _) rfl (by decide) (by decide) files lines tabbed).2.2 _ _ plain rfl rfl _ (by decide) read

def declaredInput : Bytes := Utf8.encode "# coding: latin-1\nassert '".toList ++ [0xE9, 39, 10]

theorem declaredInput_undecodable : (fed declaredInput).line = some 2 ∧ (fed declaredInput).lineRange = [2] ∧
    (Source.feedLines declaredInput).length = 2 ∧
    ∀ files, (fed declaredInput).code files 3 false = .error .undecodable :=
  ⟨rfl, rfl, by decide +kernel, fun _ => rfl⟩

end Issue

end SourceAudit
