import SourceAudit.Proofs.Spelling

/-! What is written in JSON is read back in its normal form: members in the order of names, surrogates joined. -/

namespace SourceAudit.Json

open List Text CodePoint

/-! ### Items and members -/

theorem skipBlanks_append {blanks rest : Text} (blank : ∀ p ∈ blanks, isBlank p = true) :
    skipBlanks (blanks ++ rest) = skipBlanks rest :=
  dropWhile_append_of_pos blank

theorem skipBlanks_cons {p : CodePoint} (shown : isBlank p = false) (rest : Text) :
    skipBlanks (p :: rest) = p :: rest := by
  rw [skipBlanks, dropWhile_cons, shown, if_neg Bool.false_ne_true]

theorem ends_cons {p : CodePoint} (after : isBlank p = true ∨ p = 44 ∨ p = 93 ∨ p = 125) (rest : Text) :
    Ends (p :: rest) := by
  intro q first
  obtain rfl : p = q := by simpa using first
  rcases after with blank | rfl | rfl | rfl
  · simp only [isBlank, Bool.or_eq_true, beq_iff_eq] at blank
    rcases blank with ((rfl | rfl) | rfl) | rfl <;> decide
  · decide
  · decide
  · decide

theorem ends_append {blanks rest : Text} (blank : ∀ p ∈ blanks, isBlank p = true) (ends : Ends rest) :
    Ends (blanks ++ rest) := by
  cases blanks with
  | nil => exact ends
  | cons p more => exact ends_cons (.inl (blank p mem_cons_self)) _

def lines (blanks : Text) : List Text → Text
  | [] => []
  | [x] => x
  | x :: y :: rest => x ++ 44 :: (blanks ++ lines blanks (y :: rest))

theorem exists_lines (blanks x : Text) (more : List Text) : ∃ t, lines blanks (x :: more) = x ++ t := by
  cases more with
  | nil => exact ⟨[], (append_nil x).symm⟩
  | cons y others => exact ⟨_, rfl⟩

/-- A text spells a value, whatever stands behind it that is no part of a number. -/
structure Spells (x : Text) (v : Value) : Prop where
  begins : ∃ p t, x = p :: t ∧ isBlank p = false ∧ p ≠ 93
  reads : ∀ (fuel : Nat) (rest : Text), x.length ≤ fuel → Ends rest → value fuel (x ++ rest) = some (v, rest)

theorem Spells.skipBlanks {x : Text} {v : Value} (spells : Spells x v) (rest : Text) :
    skipBlanks (x ++ rest) = x ++ rest := by
  obtain ⟨p, t, rfl, shown, -⟩ := spells.begins
  exact skipBlanks_cons shown (t ++ rest)

theorem Spells.intro {p : CodePoint} {t : Text} {v : Value} (shown : isBlank p = false ∧ p ≠ 93)
    (reads : ∀ (fuel : Nat) (rest : Text), t.length ≤ fuel → Ends rest →
      value (fuel + 1) (p :: (t ++ rest)) = some (v, rest)) : Spells (p :: t) v := by
  refine ⟨⟨p, t, rfl, shown⟩, ?_⟩
  intro fuel rest enough ends
  obtain ⟨fuel, rfl⟩ := Nat.exists_eq_succ_of_ne_zero (n := fuel) (by rintro rfl; simp at enough)
  exact reads fuel rest (Nat.le_of_succ_le_succ enough) ends

/-- A part between brackets: `read` takes it off the front, before a comma or as the last one. -/
structure Part {β : Type} (read : Nat → Text → Option (List β × Text)) (close : CodePoint) (x : Text) (e : β) :
    Prop where
  begins : ∃ p t, x = p :: t ∧ isBlank p = false ∧ p ≠ close
  followed : ∀ {fuel : Nat} {later rest : Text} {es : List β}, x.length ≤ fuel →
    read fuel (skipBlanks later) = some (es, rest) → read (fuel + 1) (x ++ 44 :: later) = some (e :: es, rest)
  last : ∀ {fuel : Nat} {blanks rest : Text}, x.length ≤ fuel → (∀ p ∈ blanks, isBlank p = true) →
    read (fuel + 1) (x ++ (blanks ++ close :: rest)) = some ([e], rest)

theorem ends_close {close : CodePoint} (closes : close = 93 ∨ close = 125) {blanks : Text}
    (blank : ∀ p ∈ blanks, isBlank p = true) (rest : Text) :
    Ends (blanks ++ close :: rest) ∧ skipBlanks (blanks ++ close :: rest) = close :: rest := by
  rw [skipBlanks_append blank]
  rcases closes with rfl | rfl <;>
    exact ⟨ends_append blank (ends_cons (by decide) rest), skipBlanks_cons (by decide) rest⟩

theorem Spells.part {x : Text} {v : Value} (spells : Spells x v) : Part items 93 x v := by
  refine ⟨spells.begins, ?_, ?_⟩
  · intro fuel later rest vs enough following
    rw [items, spells.reads fuel _ enough (ends_cons (by decide) later)]
    simp only [Option.bind_eq_bind, Option.bind_some, skipBlanks_cons (p := 44) (by decide), following]
    rfl
  · intro fuel blanks rest enough blank
    obtain ⟨ends, close⟩ := ends_close (.inl rfl) blank rest
    rw [items, spells.reads fuel _ enough ends]
    simp only [Option.bind_eq_bind, Option.bind_some, close]
    rfl

theorem Spells.member {x : Text} {v : Value} (spells : Spells x v) (name : Text) :
    Part members 125 (34 :: (spelled name ++ 34 :: 58 :: 32 :: x)) (.text (joined name), v) := by
  have key (rest : Text) : textBody ((spelled name ++ 34 :: 58 :: 32 :: (x ++ rest)).length + 1)
      (spelled name ++ 34 :: (58 :: 32 :: (x ++ rest))) = some (joined name, 58 :: 32 :: (x ++ rest)) :=
    textBody_spelled (by rw [length_append]; omega) _
  have blank (rest : Text) : Json.skipBlanks (32 :: (x ++ rest)) = x ++ rest := by
    rw [← singleton_append, skipBlanks_append (forall_mem_singleton.mpr (by decide)), spells.skipBlanks]
  have short {fuel : Nat} (enough : (34 :: (spelled name ++ 34 :: 58 :: 32 :: x)).length ≤ fuel) :
      x.length ≤ fuel := by
    simp only [length_cons, length_append] at enough
    omega
  have shape (rest : Text) : 34 :: (spelled name ++ 34 :: 58 :: 32 :: x) ++ rest =
      34 :: (spelled name ++ 34 :: 58 :: 32 :: (x ++ rest)) := by simp
  refine ⟨⟨34, _, rfl, by decide, by decide⟩, ?_, ?_⟩
  · intro fuel later rest es enough following
    rw [shape, members]
    simp only [key, Option.bind_eq_bind, Option.bind_some, skipBlanks_cons (p := 58) (by decide), blank,
      spells.reads fuel _ (short enough) (ends_cons (p := 44) (by decide) later), skipBlanks_cons (p := 44) (by decide),
      following]
    rfl
  · intro fuel blanks rest enough around
    obtain ⟨ends, close⟩ := ends_close (.inr rfl) around rest
    rw [shape, members]
    simp only [key, Option.bind_eq_bind, Option.bind_some, skipBlanks_cons (p := 58) (by decide), blank,
      spells.reads fuel _ (short enough) ends, close]
    rfl

section

variable {α β : Type} {read : Nat → Text → Option (List β × Text)} {close : CodePoint} {text : α → Text}
  {entry : α → β} {parts : List α} (given : parts ≠ []) (each : ∀ m ∈ parts, Part read close (text m) (entry m))

include given each

theorem begins_lines (blanks x : Text) :
    ∃ p t, lines blanks (parts.map text) ++ x = p :: t ∧ isBlank p = false ∧ p ≠ close := by
  obtain ⟨m, more, rfl⟩ := exists_cons_of_ne_nil given
  obtain ⟨p, t, begins, shown⟩ := (each m mem_cons_self).begins
  obtain ⟨_, first⟩ := exists_lines blanks (text m) (more.map text)
  rw [map_cons, first, begins]
  exact ⟨p, _, rfl, shown⟩

theorem read_lines {between before : Text} (apart : ∀ p ∈ between, isBlank p = true)
    (closing : ∀ p ∈ before, isBlank p = true) {fuel : Nat}
    (enough : (lines between (parts.map text)).length < fuel) (rest : Text) :
    read fuel (lines between (parts.map text) ++ (before ++ close :: rest)) = some (parts.map entry, rest) := by
  induction parts generalizing fuel with
  | nil => exact absurd rfl given
  | cons m more ih =>
    obtain ⟨fuel, rfl⟩ := Nat.exists_eq_succ_of_ne_zero (n := fuel) (by omega)
    have part := each m mem_cons_self
    cases more with
    | nil => exact part.last (Nat.le_of_lt_succ enough) closing
    | cons next others =>
      have length : (text m).length + (lines between ((next :: others).map text)).length < fuel := by
        simp only [map_cons, lines, length_append, length_cons] at enough ⊢
        omega
      have later : ∀ n ∈ next :: others, Part read close (text n) (entry n) :=
        fun n mem => each n (mem_cons_of_mem m mem)
      have following := ih (by simp) later (show _ < fuel by omega)
      obtain ⟨p, t, begins, shown, -⟩ := begins_lines (by simp) later between (before ++ close :: rest)
      change read (fuel + 1) ((text m ++ 44 :: (between ++ lines between ((next :: others).map text))) ++ _) = _
      rw [append_assoc, cons_append]
      apply part.followed (by omega)
      rw [append_assoc, skipBlanks_append apart, begins, skipBlanks_cons shown, ← begins]
      exact following

end

/-! ### Values -/

/-- Values that are written as what they are, with texts for the names of members. -/
inductive Plain : Value → Prop
  | null : Plain .null
  | bool (b : Bool) : Plain (.bool b)
  | int (n : Int) : Plain (.int n)
  | text (t : Text) : Plain (.text t)
  | list {vs : List Value} (each : ∀ v ∈ vs, Plain v) : Plain (.list vs)
  | dict {es : Fields} (named : ∀ e ∈ es, ∃ t, e.1 = .text t) (each : ∀ e ∈ es, Plain e.2) :
      Plain (.dict es)

def joinedKey : Value → Value
  | .text t => .text (joined t)
  | v => v

def arranged {α : Type} (sorted : Bool) (es : List (Value × α)) : List (Value × α) :=
  if sorted then es.mergeSort fun a b => keyBefore a.1 b.1 else es

theorem mem_arranged {α : Type} {sorted : Bool} {es : List (Value × α)} {e : Value × α} :
    e ∈ arranged sorted es ↔ e ∈ es := by
  unfold arranged
  split
  · exact mem_mergeSort
  · exact Iff.rfl

theorem map_arranged {α β : Type} (sorted : Bool) (f : Value × α → β) (es : List (Value × α)) :
    arranged sorted (es.map fun e => (e.1, f e)) = (arranged sorted es).map fun e => (e.1, f e) := by
  unfold arranged
  split
  · symm
    apply map_mergeSort
    intro a _ b _
    rfl
  · rfl

mutual

def normal (sorted : Bool) : Value → Value
  | .text t => .text (joined t)
  | .list vs => .list (normalItems sorted vs)
  | .dict es => .dictOf ((arranged sorted (normalMembers sorted es)).map fun e => (joinedKey e.1, e.2))
  | v => v

def normalItems (sorted : Bool) : List Value → List Value
  | [] => []
  | v :: vs => normal sorted v :: normalItems sorted vs

def normalMembers (sorted : Bool) : Fields → Fields
  | [] => []
  | (k, v) :: es => (k, normal sorted v) :: normalMembers sorted es

end

theorem normalItems_eq (sorted : Bool) (vs : List Value) : normalItems sorted vs = vs.map (normal sorted) := by
  induction vs with
  | nil => rfl
  | cons v rest ih => rw [normalItems, ih, map_cons]

theorem normalMembers_eq (sorted : Bool) (es : Fields) :
    normalMembers sorted es = es.map fun e => (e.1, normal sorted e.2) := by
  induction es with
  | nil => rfl
  | cons e rest ih => rw [normalMembers, ih, map_cons]

theorem normal_dict (sorted : Bool) (es : Fields) : normal sorted (.dict es) =
      .dictOf ((arranged sorted es).map fun e => (joinedKey e.1, normal sorted e.2)) := by
  rw [normal, normalMembers_eq, map_arranged sorted fun e => normal sorted e.2, map_map]
  rfl

section

variable {l : Layout} {width : Nat}

theorem writeItems_eq (l : Layout) (depth : Nat) (vs : List Value) :
    writeItems l depth vs = vs.map (writeAt l depth) := by
  induction vs with
  | nil => rfl
  | cons v rest ih => rw [writeItems, ih, map_cons]

theorem writeMembers_eq (l : Layout) (depth : Nat) (es : Fields) :
    writeMembers l depth es = es.map fun e => (e.1, writeKey e.1 ++ ": " ++ writeAt l depth e.2) := by
  induction es with
  | nil => rfl
  | cons e rest ih => rw [writeMembers, ih, map_cons]

theorem writeAt_dict (l : Layout) (depth : Nat) (es : Fields) : writeAt l depth (.dict es) = bracket l depth "\x7b" "\x7d"
      ((arranged l.sorted es).map fun e => writeKey e.1 ++ ": " ++ writeAt l (depth + 1) e.2) := by
  have parts : (if l.sorted then (writeMembers l (depth + 1) es).mergeSort fun a b => keyBefore a.1 b.1
      else writeMembers l (depth + 1) es) = arranged l.sorted (writeMembers l (depth + 1) es) := rfl
  rw [writeAt, parts, writeMembers_eq,
    map_arranged l.sorted fun e => writeKey e.1 ++ ": " ++ writeAt l (depth + 1) e.2, map_map]
  rfl

def margin (n : Nat) : Text := 10 :: List.replicate n 32

theorem blank_margin (n : Nat) : ∀ p ∈ margin n, isBlank p = true := by
  intro p mem
  rcases mem_cons.mp mem with rfl | later
  · decide
  · rw [(mem_replicate.mp later).2]
    decide

theorem ofString_intercalate (between : String) (blanks : Text) (comma : ofString between = 44 :: blanks)
    (parts : List String) : ofString (between.intercalate parts) = lines blanks (parts.map ofString) := by
  induction parts with
  | nil => simp [lines, ofString, ofChars]
  | cons x rest ih =>
    cases rest with
    | nil => simp [lines]
    | cons y others =>
      rw [String.intercalate_cons_cons, ofString_append, ofString_append, ih, comma, append_assoc, cons_append]
      rfl

theorem bracket_nil (l : Layout) (depth : Nat) (left right : String) : bracket l depth left right [] = left ++ right :=
  rfl

theorem ofString_bracket (indented : l.indent = some width) (depth : Nat) (left right : String) {parts : List String}
    (given : parts ≠ []) :
    ofString (bracket l depth left right parts) = ofString left ++ (margin (width * (depth + 1)) ++
      (lines (margin (width * (depth + 1))) (parts.map ofString) ++ (margin (width * depth) ++ ofString right))) := by
  have line (n : Nat) : ofString ("\n" ++ String.ofList (List.replicate n ' ')) = margin n := by
    have newLine : ofString "\n" = [10] := by decide
    have blank : ofChar ' ' = 32 := by decide
    rw [ofString_append, newLine, ofString_ofList, map_replicate, blank, margin, singleton_append]
  have comma (n : Nat) : ofString ("," ++ ("\n" ++ String.ofList (List.replicate n ' '))) = 44 :: margin n := by
    have mark : ofString "," = [44] := by decide
    rw [ofString_append, line, mark, singleton_append]
  rw [bracket, if_neg (by simpa using given), indented]
  simp only [ofString_append _ right, ofString_append left, ofString_append (left ++ _),
    ofString_append (left ++ _ ++ _), append_assoc, ofString_intercalate _ _ (comma _), line]

theorem spells_text (t : Text) : Spells (ofString (writeText t)) (.text (joined t)) := by
  rw [ofString_writeText]
  apply Spells.intro (by decide)
  intro fuel rest enough ends
  have body : textBody ((spelled t ++ 34 :: rest).length + 1) (spelled t ++ 34 :: rest) = some (joined t, rest) :=
    textBody_spelled (by rw [length_append]; omega) rest
  rw [append_assoc, singleton_append, value, if_pos (by decide), body]
  rfl

theorem exists_of_mem_words {m : Text × Value} (mem : m ∈ words) :
    ∃ first second more, m.1 = first :: second :: more ∧ isDigit first = false ∧
      (first = 45 → isDigit second = false) := by
  simp only [words, mem_cons, not_mem_nil, or_false] at mem
  rcases mem with rfl | rfl | rfl | rfl | rfl | rfl
  all_goals exact ⟨_, _, _, rfl, by decide, by decide⟩

theorem find?_words_digit {d : CodePoint} (digit : isDigit d) (rest : Text) :
    words.find? (fun (w, _) => w.isPrefixOf (d :: rest)) = none ∧
      words.find? (fun (w, _) => w.isPrefixOf (45 :: d :: rest)) = none := by
  constructor
  · apply List.find?_eq_none.mpr
    intro m mem
    obtain ⟨first, second, more, word, other, -⟩ := exists_of_mem_words mem
    have apart : first ≠ d := by
      rintro rfl
      exact absurd digit (by simp [other])
    simp [word, apart]
  · apply List.find?_eq_none.mpr
    intro m mem
    obtain ⟨first, second, more, word, -, other⟩ := exists_of_mem_words mem
    have apart : first = 45 → second ≠ d := by
      rintro minus rfl
      exact absurd digit (by simp [other minus])
    simp [word]
    intro minus same
    exact absurd same (apart minus)

theorem value_of_bare {p : CodePoint} (bare : p ≠ 34 ∧ p ≠ 91 ∧ p ≠ 123) (fuel : Nat) (rest : Text) :
    value (fuel + 1) (p :: rest) = (match words.find? fun (w, _) => w.isPrefixOf (p :: rest) with
      | some (w, v) => some (v, (p :: rest).drop w.length)
      | none => number (p :: rest)) := by
  obtain ⟨unquoted, list, object⟩ := bare
  rw [value, if_neg (by simpa using unquoted), if_neg (by simpa using list)]
  exact if_neg (by simpa using object)

theorem bare_of_isDigit {d : CodePoint} (digit : isDigit d) : isBlank d = false ∧ d ≠ 93 ∧ d ≠ 34 ∧ d ≠ 91 ∧ d ≠ 123 := by
  have same := ofNat_val d
  have all : ∀ n < 58, 48 ≤ n → isBlank (ofNat n) = false ∧ ofNat n ≠ 93 ∧
      ofNat n ≠ 34 ∧ ofNat n ≠ 91 ∧ ofNat n ≠ 123 := by decide
  simp only [isDigit, Bool.and_eq_true, decide_eq_true_eq] at digit
  rw [← same]
  exact all d.val (by omega) digit.1

theorem spells_int (n : Int) : Spells (ofString (toString n)) (.int n) := by
  have reads := fun (rest : Text) (ends : Ends rest) => number_toString n ends
  cases n with
  | ofNat m =>
    obtain ⟨d, more, digits, digit⟩ := exists_decimal m
    obtain ⟨shown, open_, bare⟩ := bare_of_isDigit digit
    have written : ofString (toString (Int.ofNat m)) = d :: more := (ofString_repr m).trans digits
    rw [written] at reads ⊢
    apply Spells.intro ⟨shown, open_⟩
    intro fuel rest enough ends
    rw [value_of_bare bare, (find?_words_digit digit (more ++ rest)).1]
    exact reads rest ends
  | negSucc m =>
    obtain ⟨d, more, digits, digit⟩ := exists_decimal (m + 1)
    rw [ofString_negSucc, digits] at reads ⊢
    apply Spells.intro (by decide)
    intro fuel rest enough ends
    rw [cons_append, value_of_bare (by decide), (find?_words_digit digit (more ++ rest)).2]
    exact reads rest ends

theorem spells_word {p : CodePoint} {t : Text} {v : Value}
    (shown : isBlank p = false ∧ p ≠ 93) (bare : p ≠ 34 ∧ p ≠ 91 ∧ p ≠ 123)
    (found : ∀ rest, words.find? (fun (w, _) => w.isPrefixOf (p :: (t ++ rest))) = some (p :: t, v)) :
    Spells (p :: t) v := by
  apply Spells.intro shown
  intro fuel rest enough ends
  rw [value_of_bare bare, found]
  simp

theorem spells_null : Spells (ofString "null") .null := by
  have letters : ofString "null" = [110, 117, 108, 108] := by decide
  rw [letters]
  refine spells_word (by decide) (by decide) ?_
  simp [words, letters]

theorem spells_bool (b : Bool) : Spells (ofString (if b then "true" else "false")) (.bool b) := by
  have null : ofString "null" = [110, 117, 108, 108] := by decide
  have true_ : ofString "true" = [116, 114, 117, 101] := by decide
  have false_ : ofString "false" = [102, 97, 108, 115, 101] := by decide
  cases b with
  | true =>
    simp only [if_true, true_]
    refine spells_word (by decide) (by decide) ?_
    simp [words, null, true_]
  | false =>
    simp only [Bool.false_eq_true, if_false, false_]
    refine spells_word (by decide) (by decide) ?_
    simp [words, null, true_, false_]

theorem value_list {fuel : Nat} {blanks x y : Text} {vs : List Value} (blank : ∀ p ∈ blanks, isBlank p = true)
    (begins : ∃ p t, x = p :: t ∧ isBlank p = false ∧ p ≠ 93) (read : items fuel x = some (vs, y)) :
    value (fuel + 1) (91 :: (blanks ++ x)) = some (.list vs, y) := by
  obtain ⟨p, t, rfl, shown, opens⟩ := begins
  rw [value, if_neg (by decide), if_pos (by decide), skipBlanks_append blank, skipBlanks_cons shown]
  split
  · rename_i same
    exact absurd (List.cons.inj same).1 opens
  · rw [read]
    rfl

theorem value_object {fuel : Nat} {blanks x y : Text} {es : Fields}
    (blank : ∀ p ∈ blanks, isBlank p = true) (begins : ∃ p t, x = p :: t ∧ isBlank p = false ∧ p ≠ 125)
    (read : members fuel x = some (es, y)) : value (fuel + 1) (123 :: (blanks ++ x)) = some (.dictOf es, y) := by
  obtain ⟨p, t, rfl, shown, opens⟩ := begins
  rw [value, if_neg (by decide), if_neg (by decide), if_pos (by decide), skipBlanks_append blank, skipBlanks_cons shown]
  split
  · rename_i same
    exact absurd (List.cons.inj same).1 opens
  · rw [read]
    rfl

theorem spells_bracket {α β : Type} {read : Nat → Text → Option (List β × Text)} {opens close : CodePoint}
    {left right : String} {wrap : List β → Value} (first : ofString left = [opens])
    (last : ofString right = [close]) (shown : isBlank opens = false ∧ opens ≠ 93)
    (empty : ∀ fuel rest, value (fuel + 1) (opens :: close :: rest) = some (wrap [], rest))
    (full : ∀ {fuel : Nat} {blanks x y : Text} {es : List β}, (∀ p ∈ blanks, isBlank p = true) →
      (∃ p t, x = p :: t ∧ isBlank p = false ∧ p ≠ close) → read fuel x = some (es, y) →
      value (fuel + 1) (opens :: (blanks ++ x)) = some (wrap es, y))
    (indented : l.indent = some width) {depth : Nat} {parts : List α} {written : α → String} {entry : α → β}
    (each : ∀ m ∈ parts, Part read close (ofString (written m)) (entry m)) :
    Spells (ofString (bracket l depth left right (parts.map written))) (wrap (parts.map entry)) := by
  by_cases given : parts = []
  · rw [given, map_nil, map_nil, bracket_nil, ofString_append, first, last]
    exact Spells.intro shown fun fuel rest _ _ => empty fuel rest
  · rw [ofString_bracket indented depth _ _ (by simpa using given), first, last, map_map, singleton_append]
    apply Spells.intro shown
    intro fuel rest enough ends
    have short : (lines (margin (width * (depth + 1))) (parts.map (ofString ∘ written))).length < fuel := by
      simp only [length_append, length_cons, length_nil] at enough
      omega
    simp only [append_assoc, singleton_append]
    exact full (blank_margin _) (begins_lines given each _ _)
      (read_lines given each (blank_margin _) (blank_margin _) short rest)

theorem spells_list (indented : l.indent = some width) {depth : Nat} {vs : List Value}
    (each : ∀ v ∈ vs, Spells (ofString (writeAt l (depth + 1) v)) (normal l.sorted v)) :
    Spells (ofString (writeAt l depth (.list vs))) (normal l.sorted (.list vs)) := by
  rw [writeAt, writeItems_eq, normal, normalItems_eq]
  refine spells_bracket (by decide) (by decide) (by decide) ?_ value_list indented fun v mem => (each v mem).part
  intro fuel rest
  rfl

def nameOf : Value → Text
  | .text t => t
  | _ => []

section

variable (indented : l.indent = some width)

include indented

theorem spells_object {depth : Nat} {es : Fields} (named : ∀ e ∈ es, ∃ t, e.1 = .text t)
    (each : ∀ e ∈ es, Spells (ofString (writeAt l (depth + 1) e.2)) (normal l.sorted e.2)) :
    Spells (ofString (writeAt l depth (.dict es))) (normal l.sorted (.dict es)) := by
  have colon : ofString ": " = [58, 32] := by decide
  rw [writeAt_dict, normal_dict]
  refine spells_bracket (by decide) (by decide) (by decide) ?_ value_object indented ?_
  · intro fuel rest
    rfl
  · intro e there
    obtain ⟨t, key⟩ := named e (mem_arranged.mp there)
    have member := (each e (mem_arranged.mp there)).member t
    simpa [key, joinedKey, writeKey, ofString_append, ofString_writeText, colon] using member

theorem spells_writeAt {v : Value} (plain : Plain v) (depth : Nat) :
    Spells (ofString (writeAt l depth v)) (normal l.sorted v) := by
  induction plain generalizing depth with
  | null => exact spells_null
  | bool b => exact spells_bool b
  | int n => exact spells_int n
  | text t => exact spells_text t
  | list each ih => exact spells_list indented fun v mem => ih v mem (depth + 1)
  | dict named each ih => exact spells_object indented named fun e mem => ih e mem (depth + 1)

theorem read?_write {v : Value} (plain : Plain v) : read? (ofString (write l v)) = some (normal l.sorted v) := by
  have spells := spells_writeAt indented plain 0
  have start := spells.skipBlanks []
  have whole := spells.reads ((ofString (write l v)).length + 1) [] (Nat.le_succ _) (by simp [Ends])
  rw [append_nil] at start whole
  rw [read?, write, start]
  rw [write] at whole
  rw [whole]
  rfl

end

end

/-! ### Entries of objects that have been read -/

theorem isSurrogate_ofChar (c : Char) : (ofChar c).isSurrogate = false := by
  have valid : c.toNat < 0xD800 ∨ 0xDFFF < c.toNat ∧ c.toNat < 0x110000 := c.valid
  simp only [isSurrogate, val_ofChar, Bool.and_eq_false_iff, decide_eq_false_iff_not]
  omega

theorem joined_ofString (s : String) : joined (ofString s) = ofString s := by
  apply joined_of_proper
  intro p mem
  obtain ⟨c, -, rfl⟩ := mem_map.mp mem
  exact isSurrogate_ofChar c

theorem normal_str (sorted : Bool) (s : String) : normal sorted (.str s) = .str s := by
  rw [Value.str, normal, joined_ofString]

/-- Entries whose names are strings, no two of them the same. -/
structure Named (es : Fields) : Prop where
  strings : ∀ e ∈ es, ∃ s : String, e.1 = .str s
  distinct : (es.map fun e => nameOf e.1).Nodup

theorem Named.cons {e : Value × Value} {rest : Fields} (named : Named (e :: rest)) :
    Named rest ∧ ∀ other ∈ rest, e.1.equals other.1 = false := by
  obtain ⟨strings, distinct⟩ := named
  rw [map_cons, nodup_cons] at distinct
  refine ⟨⟨fun other later => strings other (mem_cons_of_mem e later), distinct.2⟩, ?_⟩
  intro other later
  obtain ⟨s, own⟩ := strings e mem_cons_self
  obtain ⟨t, key⟩ := strings other (mem_cons_of_mem e later)
  have apart : nameOf e.1 ≠ nameOf other.1 := by
    intro same
    exact distinct.1 (same ▸ mem_map_of_mem later)
  rw [own, key] at apart ⊢
  simpa [Value.str, nameOf, Value.equals] using apart

section

variable {es : Fields} (named : Named es)

include named

theorem Named.dictOf : Value.dictOf es = .dict es := by
  have along (acc : Fields) (fresh : ∀ a ∈ acc, ∀ e ∈ es, a.1.equals e.1 = false) :
      es.foldl (fun acc e => Value.put e.1 e.2 acc) acc = acc ++ es := by
    induction es generalizing acc with
    | nil => simp
    | cons e rest ih =>
      have unlisted : acc.any (fun a => a.1.equals e.1) = false := by
        rw [any_eq_false]
        intro a mem
        simp [fresh a mem e mem_cons_self]
      have next := ih named.cons.1 (acc ++ [e]) (by
        intro a mem other later
        rcases mem_append.mp mem with before | own
        · exact fresh a before other (mem_cons_of_mem e later)
        · rw [mem_singleton.mp own]
          exact named.cons.2 other later)
      rw [foldl_cons, Value.put, unlisted, if_neg Bool.false_ne_true, next, append_assoc]
      rfl
  have whole := along [] (by simp)
  exact congrArg Value.dict whole

theorem Named.lookup {key : String} {v : Value} (mem : (.str key, v) ∈ es) : Value.lookup (.str key) es = some v := by
  induction es with
  | nil => exact absurd mem not_mem_nil
  | cons e rest ih =>
    obtain ⟨others, apart⟩ := named.cons
    rw [Value.lookup]
    rcases mem_cons.mp mem with rfl | later
    · rw [if_pos (by simp [Value.str, Value.equals])]
    · rw [apart _ later, if_neg Bool.false_ne_true, ih others later]

theorem exists_normal_dict (sorted : Bool) : ∃ read, normal sorted (.dict es) = .dict read ∧
      ∀ key v, (.str key, v) ∈ es → Value.lookup (.str key) read = some (normal sorted v) := by
  have kept : ∀ e ∈ arranged sorted es, joinedKey e.1 = e.1 := by
    intro e mem
    obtain ⟨s, key⟩ := named.strings e (mem_arranged.mp mem)
    rw [key, Value.str, joinedKey, joined_ofString]
  have read : Named ((arranged sorted es).map fun e => (joinedKey e.1, normal sorted e.2)) := by
    constructor
    · intro e mem
      obtain ⟨own, there, rfl⟩ := mem_map.mp mem
      rw [kept own there]
      exact named.strings own (mem_arranged.mp there)
    · have names : ((arranged sorted es).map fun e => (joinedKey e.1, normal sorted e.2)).map
          (fun e => nameOf e.1) = (arranged sorted es).map fun e => nameOf e.1 := by
        rw [map_map]
        apply map_congr_left
        intro e mem
        rw [Function.comp_apply, kept e mem]
      have same : (arranged sorted es).Perm es := by
        unfold arranged
        split
        · exact mergeSort_perm es _
        · exact .refl es
      rw [names, (same.map fun e => nameOf e.1).nodup_iff]
      exact named.distinct
  refine ⟨_, (normal_dict sorted es).trans read.dictOf, ?_⟩
  intro key v mem
  apply read.lookup
  apply mem_map.mpr
  refine ⟨(.str key, v), mem_arranged.mpr mem, ?_⟩
  rw [kept _ (mem_arranged.mpr mem)]

end

end SourceAudit.Json
