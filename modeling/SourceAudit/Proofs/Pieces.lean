import SourceAudit.Proofs.Answers
import SourceAudit.Template.Message

/-! How templates are read: their pieces, each taken off the front of the text whatever follows. -/

namespace SourceAudit.Template

open Answers List

variable {t u rest w : Text} {f : Field} {ps : List Piece}

def Free (t : Text) : Prop := ∀ p ∈ t, isBrace p = false

theorem fieldName_cons (inside : Bool) (p : CodePoint) :
    (∃ b, ∀ x, fieldName inside (p :: x) = (do let r ← fieldName b x; pure (p :: r.1, r.2))) ∨
    (∃ ending, ∀ x, fieldName inside (p :: x) = .ok ([], ending, x)) ∨
    ∃ e, ∀ x, fieldName inside (p :: x) = .error e := by
  have eq x := fieldName.eq_def inside (p :: x)
  simp only [eq]
  split
  · exact .inl ⟨_, fun x => rfl⟩
  · split
    · exact .inr (.inr ⟨_, fun x => rfl⟩)
    · exact .inl ⟨_, fun x => rfl⟩
    · exact .inr (.inl ⟨_, fun x => rfl⟩)
    · exact .inr (.inl ⟨_, fun x => rfl⟩)
    · exact .inr (.inl ⟨_, fun x => rfl⟩)
    · exact .inl ⟨_, fun x => rfl⟩

theorem fieldName_local {inside : Bool} {name : Text} {ending : NameEnd}
    (read : fieldName inside t = .ok (name, ending, rest)) :
    ∃ w, t = w ++ rest ∧ ∀ v, fieldName inside (w ++ v) = .ok (name, ending, v) := by
  induction t generalizing inside name with
  | nil => cases read
  | cons p t ih =>
    rcases fieldName_cons inside p with ⟨b, more⟩ | ⟨e, stops⟩ | ⟨e, fails⟩
    · rw [more] at read
      obtain ⟨⟨_, _, _⟩, step, same⟩ := bind_eq_ok.mp read
      cases same
      obtain ⟨w, rfl, later⟩ := ih step
      refine ⟨p :: w, rfl, fun v => ?_⟩
      rw [cons_append, more, later]
      rfl
    · rw [stops] at read
      cases read
      exact ⟨[p], rfl, stops⟩
    · rw [fails] at read
      cases read

theorem fieldSpec_cons {d : Nat} {p : CodePoint} (inner : ¬ (d = 0 ∧ p = 125)) : ∃ d', (isBrace p = false → d' = d) ∧
      ∀ x, fieldSpec d (p :: x) = (do let r ← fieldSpec d' x; pure (p :: r.1, r.2)) := by
  have eq x := fieldSpec.eq_def d (p :: x)
  simp only [eq]
  split
  · exact ⟨_, nofun, fun x => rfl⟩
  · simp at inner
  · exact ⟨_, nofun, fun x => rfl⟩
  · exact ⟨_, fun _ => rfl, fun x => rfl⟩

theorem fieldSpec_free (free : Free u) (v : Text) : fieldSpec 0 (u ++ 125 :: v) = .ok (u, v) := by
  induction u with
  | nil => rfl
  | cons p u ih =>
    obtain ⟨own, later⟩ := forall_mem_cons.mp free
    obtain ⟨d, same, more⟩ := fieldSpec_cons (d := 0) (p := p) (by rintro ⟨-, rfl⟩; cases own)
    rw [cons_append, more, same own, ih later]
    rfl

def Closed (spec : Text) : Prop := ∀ u, Free u → ∀ v, fieldSpec 0 (spec ++ u ++ 125 :: v) = .ok (spec ++ u, v)

theorem Closed.read {spec : Text} (closed : Closed spec) (v : Text) : fieldSpec 0 (spec ++ 125 :: v) = .ok (spec, v) := by
  simpa using closed [] nofun v

theorem closed_nil : Closed [] := fun _ free v => fieldSpec_free free v

theorem fieldSpec_local {d : Nat} {spec : Text} (read : fieldSpec d t = .ok (spec, rest)) :
    t = spec ++ 125 :: rest ∧ ∀ u, Free u → ∀ v, fieldSpec d (spec ++ u ++ 125 :: v) = .ok (spec ++ u, v) := by
  induction t generalizing d spec with
  | nil => cases read
  | cons p t ih =>
    by_cases closing : d = 0 ∧ p = 125
    · obtain ⟨rfl, rfl⟩ := closing
      cases read
      exact ⟨rfl, closed_nil⟩
    · obtain ⟨_, -, more⟩ := fieldSpec_cons closing
      rw [more] at read
      obtain ⟨⟨_, _⟩, step, same⟩ := bind_eq_ok.mp read
      cases same
      obtain ⟨rfl, later⟩ := ih step
      refine ⟨rfl, fun u free v => ?_⟩
      rw [cons_append, cons_append, more, later u free]
      rfl

theorem closed_of_fieldSpec {spec : Text} (read : fieldSpec 0 t = .ok (spec, rest)) :
    t = spec ++ 125 :: rest ∧ Closed spec := fieldSpec_local read

/-- The text, behind an opening brace, is read as the field. -/
structure Field.Reads (f : Field) (w : Text) : Prop where
  read : ∀ v, readField (w ++ v) = .ok (f, v)
  closed : Closed f.spec

theorem reads_of_readField (read : readField t = .ok (f, rest)) : ∃ w, t = w ++ rest ∧ f.Reads w := by
  obtain ⟨⟨_, ending, _⟩, named, read⟩ := bind_eq_ok.mp read
  obtain ⟨w, rfl, begun⟩ := fieldName_local named
  cases ending with
  | closed =>
    cases read
    exact ⟨w, rfl, fun v => by simp only [readField, begun, bind, Except.bind, pure, Except.pure], closed_nil⟩
  | colon =>
    obtain ⟨⟨spec, rest'⟩, specified, same⟩ := bind_eq_ok.mp read
    cases same
    obtain ⟨rfl, closed⟩ := closed_of_fieldSpec specified
    refine ⟨w ++ (spec ++ [125]), by simp, fun v => ?_, closed⟩
    simp [readField, begun, closed.read, bind, Except.bind, pure, Except.pure]
  | exclamation =>
    dsimp only at read
    split at read
    · cases read
    · cases read
    · rename_i c _ _
      cases read
      refine ⟨w ++ [c, 125], by simp, fun v => ?_, closed_nil⟩
      simp [readField, begun, bind, Except.bind, pure, Except.pure]
    · rename_i c _ _
      obtain ⟨⟨spec, rest'⟩, specified, same⟩ := bind_eq_ok.mp read
      cases same
      obtain ⟨rfl, closed⟩ := closed_of_fieldSpec specified
      refine ⟨w ++ c :: 58 :: (spec ++ [125]), by simp, fun v => ?_, closed⟩
      simp [readField, begun, closed.read, bind, Except.bind, pure, Except.pure]
    · cases read

/-- The pieces of a template: text at the end, a brace written twice, or a field, with text in front. -/
inductive Parsed : Text → List Piece → Prop where
  | text {l : Text} (free : Free l) : Parsed l (if l = [] then [] else [{ literal := l }])
  | brace {l rest : Text} {ps : List Piece} {b : CodePoint} (free : Free l) (brace : isBrace b = true)
      (later : Parsed rest ps) : Parsed (l ++ b :: b :: rest) ({ literal := l ++ [b] } :: ps)
  | field {l w rest : Text} {f : Field} {ps : List Piece} (free : Free l) (reads : f.Reads w)
      (later : Parsed rest ps) : Parsed (l ++ 123 :: (w ++ rest)) ({ literal := l, field := some f } :: ps)

theorem Field.Reads.exists_cons (reads : f.Reads w) : ∃ p x, w = p :: x ∧ p ≠ 123 := by
  cases w with
  | nil => cases reads.read []
  | cons p x =>
    refine ⟨p, x, rfl, ?_⟩
    rintro rfl
    cases reads.read []

theorem takeWhile_free (free : Free t) {b : CodePoint} (isBrace_b : isBrace b) (v : Text) :
    (t ++ b :: v).takeWhile (! isBrace ·) = t ∧ (t ++ b :: v).dropWhile (! isBrace ·) = b :: v := by
  have all : ∀ p ∈ t, (! isBrace p) = true := fun p mem => by simp [free p mem]
  rw [takeWhile_append_of_pos all, dropWhile_append_of_pos all]
  simp [isBrace_b]

theorem readPiece_text (free : Free t) : readPiece t = .ok ({ literal := t }, []) := by
  have all : ∀ p ∈ t, (! isBrace p) = true := fun p mem => by simp [free p mem]
  rw [readPiece, takeWhile_eq_self_iff.mpr all, dropWhile_eq_nil_iff.mpr all]
  rfl

theorem readPiece_brace (free : Free t) {b : CodePoint} (isBrace_b : isBrace b) (v : Text) :
    readPiece (t ++ b :: b :: v) = .ok ({ literal := t ++ [b] }, v) := by
  obtain ⟨front, back⟩ := takeWhile_free free isBrace_b (b :: v)
  rw [readPiece, front, back]
  simp [pure, Except.pure]

theorem readPiece_field (free : Free t) (reads : f.Reads w) (v : Text) :
    readPiece (t ++ 123 :: (w ++ v)) = .ok ({ literal := t, field := some f }, v) := by
  obtain ⟨front, back⟩ := takeWhile_free free (b := 123) rfl (w ++ v)
  have read := reads.read v
  obtain ⟨p, x, rfl, other⟩ := reads.exists_cons
  rw [readPiece, front, back]
  simp only [cons_append] at read ⊢
  simp [read, bind, Except.bind, pure, Except.pure, Ne.symm other]

theorem parsed_cons {p : Piece} (read : readPiece t = .ok (p, rest)) : (Free t ∧ p = { literal := t } ∧ rest = []) ∨
      (rest.length < t.length ∧ ∀ ps, Parsed rest ps → Parsed t (p :: ps)) := by
  have whole := takeWhile_append_dropWhile (p := (! isBrace ·)) (l := t)
  have free : Free (t.takeWhile (! isBrace ·)) := by
    intro q mem
    simpa using mem_takeWhile_imp mem
  unfold readPiece at read
  generalize t.takeWhile (! isBrace ·) = front at whole free read
  have brace : ∀ b x, t.dropWhile (! isBrace ·) = b :: x → isBrace b = true := by
    intro b x dropped
    simpa [dropped] using head_dropWhile_not (! isBrace ·) (l := t) (by simp [dropped])
  generalize t.dropWhile (! isBrace ·) = back at whole brace read
  subst whole
  split at read
  · cases read
    exact .inl ⟨by simpa using free, by simp, rfl⟩
  · cases read
  · cases read
  · rename_i b next x
    have own := brace b _ rfl
    split at read
    · rename_i twice
      obtain rfl : b = next := by simpa using twice
      cases read
      exact .inr ⟨by simp; omega, fun ps later => .brace free own later⟩
    · split at read
      · cases read
      · rename_i other
        obtain rfl : b = 123 := by simpa [isBrace, other] using own
        obtain ⟨⟨g, _⟩, made, same⟩ := bind_eq_ok.mp read
        cases same
        obtain ⟨w, split, reads⟩ := reads_of_readField made
        rw [split]
        exact .inr ⟨by simp; omega, fun ps later => .field free reads later⟩

variable {fuel : Nat}

theorem parsed_of_go (enough : t.length ≤ fuel) (read : pieces.go fuel t = .ok ps) : Parsed t ps := by
  induction fuel generalizing t ps with
  | zero =>
    obtain rfl := eq_nil_of_length_eq_zero (Nat.le_zero.mp enough)
    cases read
    exact .text nofun
  | succ fuel ih =>
    cases t with
    | nil =>
      cases read
      exact .text nofun
    | cons q t =>
      obtain ⟨⟨p, _⟩, first, read⟩ := bind_eq_ok.mp read
      obtain ⟨qs, others, same⟩ := bind_eq_ok.mp read
      cases same
      rcases parsed_cons first with ⟨free, rfl, rfl⟩ | ⟨_, more⟩
      · obtain rfl : qs = [] := by cases fuel <;> cases others <;> rfl
        exact .text free
      · exact more qs (ih (by omega) others)

theorem go_cons {p : Piece} (read : readPiece t = .ok (p, rest)) (some_ : t ≠ []) (more : 0 < fuel)
    (others : pieces.go (fuel - 1) rest = .ok ps) : pieces.go fuel t = .ok (p :: ps) := by
  obtain ⟨fuel, rfl⟩ := Nat.exists_eq_succ_of_ne_zero more.ne'
  rw [pieces.go.eq_3 _ _ some_, read]
  simp only [bind, Except.bind, Nat.succ_eq_add_one, Nat.add_sub_cancel] at others ⊢
  rw [others]
  rfl

theorem go_of_parsed (parsed : Parsed t ps) (enough : t.length ≤ fuel) : pieces.go fuel t = .ok ps := by
  induction parsed generalizing fuel with
  | @text l free =>
    by_cases empty : l = []
    · subst empty
      cases fuel <;> rfl
    · rw [if_neg empty]
      have := length_pos_iff.mpr empty
      exact go_cons (readPiece_text free) empty (by omega) (by cases fuel - 1 <;> rfl)
  | brace free brace later ih =>
    simp only [length_append, length_cons] at enough
    exact go_cons (readPiece_brace free brace _) (by simp) (by omega) (ih (by omega))
  | field free reads later ih =>
    simp only [length_append, length_cons] at enough
    exact go_cons (readPiece_field free reads _) (by simp) (by omega) (ih (by omega))

theorem pieces_eq_ok : pieces t = .ok ps ↔ Parsed t ps := ⟨parsed_of_go le_rfl, fun parsed => go_of_parsed parsed le_rfl⟩

end SourceAudit.Template
