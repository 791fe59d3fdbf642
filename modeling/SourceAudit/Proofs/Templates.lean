import SourceAudit.Proofs.Pieces
import SourceAudit.Proofs.Writing

/-! Reports after a template, which is read and written again before it is filled. -/

namespace SourceAudit

open Answers List

namespace Template

variable {t u rest : Text} {f : Field} {ps : List Piece} {value : Key → Except TemplateError Cell} {depth : Nat}
  {c : CodePoint}

/-! ### Filling -/

def part (value : Key → Except TemplateError Cell) (depth : Nat) (p : Piece) : Except TemplateError Text :=
  match p.field with
  | none => pure p.literal
  | some f => do
    let cell ← (← reach value f.name).convert f.conversion
    let spec ← if f.spec.contains 123 then fill value depth f.spec else pure f.spec
    return p.literal ++ (← cell.lay spec)

def parts (value : Key → Except TemplateError Cell) (depth : Nat) (ps : List Piece) : Except TemplateError Text :=
  List.flatten <$> ps.mapM (part value depth)

theorem fill_of_parsed (parsed : Parsed t ps) : fill value (depth + 1) t = parts value depth ps := by
  rw [fill, pieces_eq_ok.mpr parsed]
  rfl

theorem parts_cons (p : Piece) : parts value depth (p :: ps) =
    (do let first ← part value depth p; (first ++ ·) <$> parts value depth ps) := by
  simp only [parts, mapM_cons]
  cases part value depth p with
  | error e => rfl
  | ok first => cases ps.mapM (part value depth) <;> rfl

theorem parts_text (t : Text) : parts value depth (if t = [] then [] else [{ literal := t }]) = .ok t := by
  by_cases empty : t = []
  · subst empty
    rfl
  · rw [if_neg empty, parts_cons]
    simp [part, parts, pure, Except.pure, bind, Except.bind, Functor.map, Except.map]

theorem parts_cons_append {qs : List Piece} (same : parts value depth qs = (· ++ u) <$> parts value depth ps)
    (p : Piece) : parts value depth (p :: qs) = (· ++ u) <$> parts value depth (p :: ps) := by
  rw [parts_cons, parts_cons, same]
  cases part value depth p with
  | error e => rfl
  | ok first =>
    cases parts value depth ps with
    | error e => rfl
    | ok others => exact congrArg Except.ok (append_assoc first others u).symm

theorem Parsed.append (parsed : Parsed t ps) (also : Free u) : ∃ qs, Parsed (t ++ u) qs ∧
    ∀ value depth, parts value depth qs = (· ++ u) <$> parts value depth ps := by
  induction parsed with
  | @text l free =>
    have both : Free (l ++ u) := forall_mem_append.mpr ⟨free, also⟩
    refine ⟨_, .text both, fun value depth => ?_⟩
    rw [parts_text, parts_text]
    rfl
  | brace free brace later ih =>
    obtain ⟨qs, parsed, same⟩ := ih
    exact ⟨_, by simpa using Parsed.brace free brace parsed, fun value depth => parts_cons_append (same value depth) _⟩
  | field free reads later ih =>
    obtain ⟨qs, parsed, same⟩ := ih
    exact ⟨_, by simpa using Parsed.field free reads parsed, fun value depth => parts_cons_append (same value depth) _⟩

def applied (value : Key → Except TemplateError Cell) (depth : Nat) (spec : Text) : Except TemplateError Text :=
  if spec.contains 123 then fill value depth spec else pure spec

theorem applied_append {spec y : Text} (done : applied value depth spec = .ok y) (also : Free u) :
    applied value depth (spec ++ u) = .ok (y ++ u) := by
  have none : u.contains 123 = false := by
    rw [← Bool.not_eq_true, contains_iff_mem]
    exact fun there => absurd (also 123 there) (by decide)
  unfold applied at done ⊢
  rw [contains_append, none, Bool.or_false]
  split at done
  · cases depth with
    | zero => cases done
    | succ depth =>
      obtain ⟨_, read, -⟩ := bind_eq_ok.mp done
      obtain ⟨_, appended, same⟩ := (pieces_eq_ok.mp read).append also
      rw [fill_of_parsed (pieces_eq_ok.mp read)] at done
      rw [if_pos ‹_›, fill_of_parsed appended, same, done]
      rfl
  · cases done
    rw [if_neg ‹_›]
    rfl

/-! ### Specifications that end in a conversion -/

def Marked (c : CodePoint) (t : Text) : Prop := [33, c] <:+ t

namespace Marked

theorem tail {p : CodePoint} (marked : Marked c (p :: t)) (other : p ≠ 33) : Marked c t := by
  rcases suffix_cons_iff.mp marked with same | later
  · cases same
    exact absurd rfl other
  · exact later

section

variable (marked : Marked c t)

include marked

theorem two_le_length : 2 ≤ t.length := List.IsSuffix.length_le marked

theorem dropWhile {skip : CodePoint → Bool} (stops : skip 33 = false) : Marked c (t.dropWhile skip) := by
  induction t with
  | nil => cases marked.two_le_length
  | cons p t ih =>
    rw [dropWhile_cons]
    split
    · refine ih (marked.tail ?_)
      rintro rfl
      simp_all
    · exact marked

theorem takeCode (code : CodePoint) (other : code ≠ 33) : Marked c (takeCode code t).2 := by
  unfold Template.takeCode
  split
  · split
    · rename_i same
      exact marked.tail (beq_iff_eq.mp same ▸ other)
    · exact marked
  · exact marked

theorem readSign (s : Spec) : Marked c (readSign s t).2 := by
  unfold Template.readSign
  split
  · split
    · refine marked.tail ?_
      rintro rfl
      contradiction
    · exact marked
  · exact marked

theorem readAlign (plain : isAlign c = false) (s : Spec) : Marked c (readAlign s t).2.2.2 := by
  have other {p : CodePoint} (aligns : isAlign p = true) : p ≠ 33 := by
    rintro rfl
    cases aligns
  unfold Template.readAlign
  split
  · split
    · rename_i aligns
      rcases suffix_cons_iff.mp marked with same | later
      · cases same
        simp [plain] at aligns
      · exact tail later (other aligns)
    · split
      · rename_i aligns
        exact marked.tail (other aligns)
      · exact marked
  · cases Nat.le_of_succ_le_succ marked.two_le_length
  · exact marked

theorem leadingNumber {n : Option Nat} (read : leadingNumber t = .ok (n, rest)) : Marked c rest := by
  unfold Template.leadingNumber at read
  dsimp only at read
  split at read
  · cases read
    exact marked
  · split at read
    · cases read
    · cases read
      exact marked.dropWhile (by decide)

theorem readSeparator {n : Option CodePoint} (read : readSeparator t = .ok (n, rest)) : Marked c rest := by
  unfold Template.readSeparator at read
  split at read <;> cases read
  · exact marked.tail (by decide)
  · exact marked.tail (by decide)
  · exact marked

theorem readPrecision {n : Option Nat} (read : readPrecision t = .ok (n, rest)) : Marked c rest := by
  unfold Template.readPrecision at read
  split at read
  · obtain ⟨⟨m, _⟩, counted, read⟩ := bind_eq_ok.mp read
    have kept := (marked.tail (by decide)).leadingNumber counted
    cases m <;> cases read
    exact kept
  · cases read
    exact marked

theorem not_read (plain : isAlign c = false) (type : FieldType) (s : Spec) : Spec.read type t ≠ .ok s := by
  intro read
  simp only [Spec.read] at read
  have aligned := marked.readAlign plain { align := type.align, kind := type.kind }
  generalize Template.readAlign { align := type.align, kind := type.kind } t = begun at aligned read
  have coded := ((aligned.readSign begun.1).takeCode 122 (by decide)).takeCode 35 (by decide)
  obtain ⟨⟨_, rest⟩, counted, read⟩ := bind_eq_ok.mp read
  obtain ⟨⟨_, _⟩, separated, read⟩ := bind_eq_ok.mp read
  obtain ⟨⟨_, rest''⟩, precise, read⟩ := bind_eq_ok.mp read
  have kept : Marked c rest := by
    refine leadingNumber ?_ counted
    split
    · exact coded
    · exact coded.takeCode 48 (by decide)
  have left := ((kept.readSeparator separated).readPrecision precise).two_le_length
  split at read
  · rename_i none
    simp [show rest'' = [] from none] at left
  · rename_i kind one
    simp [show rest'' = [kind] from one] at left
  · cases read

theorem not_lay (plain : isAlign c = false) (cell : Cell) (x : Text) : cell.lay t ≠ .ok x := by
  have given : t.isEmpty = false := by
    cases t with
    | nil => cases marked.two_le_length
    | cons p t => rfl
  intro laid
  cases cell with
  | text own =>
    simp only [Cell.lay, layText, given, Bool.false_eq_true, if_false] at laid
    obtain ⟨s, read, -⟩ := bind_eq_ok.mp laid
    exact marked.not_read plain _ s read
  | number n =>
    simp only [Cell.lay, layNumber, given, Bool.false_eq_true, if_false] at laid
    obtain ⟨s, read, -⟩ := bind_eq_ok.mp laid
    exact marked.not_read plain _ s read
  | _ => simp [Cell.lay, given] at laid

end

end Marked

end Template

/-! ### Templates written again -/

namespace Report

open Template

variable {t s x : Text} {f : Field} {ps : List Piece} {value : Key → Except TemplateError Cell} {depth : Nat}

def Fields (demand : Field → Prop) (ps : List Piece) : Prop := ∀ p ∈ ps, ∀ f, p.field = some f → demand f

/-- The field has a specification or a conversion, but not both. -/
def Plain (f : Field) : Prop := f.spec = [] ∨ f.conversion = none

def again (f : Field) : Field :=
  match f.conversion with
  | none => f
  | some c => if f.spec = [] then f else { name := f.name, spec := f.spec ++ [33, c] }

def againPiece (p : Piece) : Piece := { p with field := p.field.map again }

theorem again_of_plain (plain : Plain f) : again f = f := by
  unfold again
  split
  · rfl
  · rw [if_pos (plain.resolve_right (by simp [*]))]

theorem fieldName_tag {name behind rest : Text} (tag : isTag name) {ending : NameEnd}
    (read : fieldName false behind = .ok ([], ending, rest)) :
    fieldName false (name ++ behind) = .ok (name, ending, rest) := by
  have plain : ∀ tag ∈ tags, ((Text.ofString tag).all fun p => ! [123, 91, 125, 58, 33].contains p) = true := by decide
  obtain ⟨own, mem, same⟩ := any_eq_true.mp tag
  obtain rfl : name = Text.ofString own := by simpa [Text.is] using same
  have free := all_eq_true.mp (plain own mem)
  generalize Text.ofString own = name at free
  induction name with
  | nil => exact read
  | cons p name ih =>
    obtain ⟨first, later⟩ := forall_mem_cons.mp free
    rw [cons_append, fieldName.eq_def]
    simp only [Bool.false_eq_true, if_false]
    split
    case h_6 =>
      rw [ih later]
      rfl
    all_goals cases first

theorem reads_again {w : Text} (reads : f.Reads w) (tag : isTag f.name)
    (known : ∀ c, f.conversion = some c → isBrace c = false) : ∃ w, writeField f = 123 :: w ∧ (again f).Reads w := by
  obtain ⟨name, spec, conversion⟩ := f
  have closed : Closed spec := reads.closed
  have named {behind rest : Text} {ending : NameEnd} (read : fieldName false behind = .ok ([], ending, rest)) :=
    fieldName_tag tag read
  by_cases empty : spec = []
  · subst empty
    cases conversion with
    | none =>
      refine ⟨name ++ [125], by simp [writeField], fun v => ?_, closed⟩
      simp [again, readField, named (rfl : fieldName false (125 :: v) = _), bind, Except.bind, pure, Except.pure]
    | some c =>
      refine ⟨name ++ [33, c, 125], by simp [writeField], fun v => ?_, closed⟩
      simp [again, readField, named (rfl : fieldName false (33 :: c :: 125 :: v) = _), bind, Except.bind, pure,
        Except.pure]
  · cases conversion with
    | none =>
      refine ⟨name ++ 58 :: (spec ++ [125]), by simp [writeField, empty], fun v => ?_, closed⟩
      simp [again, readField, named (rfl : fieldName false (58 :: (spec ++ 125 :: v)) = _), closed.read, bind,
        Except.bind, pure, Except.pure]
    | some c =>
      have free : Free [33, c] := forall_mem_cons.mpr ⟨rfl, forall_mem_singleton.mpr (known c rfl)⟩
      refine ⟨name ++ 58 :: (spec ++ [33, c, 125]), by simp [writeField, empty], fun v => ?_, fun u also v => ?_⟩
      · have read := closed [33, c] free v
        simp only [append_assoc, cons_append, nil_append] at read
        simp [again, empty, readField, named (rfl : fieldName false (58 :: (spec ++ 33 :: c :: 125 :: v)) = _), read,
          bind, Except.bind, pure, Except.pure]
      · have read := closed ([33, c] ++ u) (forall_mem_append.mpr ⟨free, also⟩) v
        simpa [again, empty] using read

theorem doubleBraces_free (free : Free t) : doubleBraces t = t := by
  unfold doubleBraces
  induction t with
  | nil => rfl
  | cons p t ih =>
    obtain ⟨own, later⟩ := forall_mem_cons.mp free
    rw [flatMap_cons, ih later]
    simp [own]

theorem exists_again (parsed : Parsed t ps) (tags : Fields (isTag ·.name = true) ps)
    (known : Fields (fun f => ∀ c, f.conversion = some c → isBrace c = false) ps) :
    ∃ qs, Parsed (knownTemplate ps) qs ∧ ∀ value depth, parts value depth qs =
      (· ++ [10]) <$> parts value depth (ps.map againPiece) := by
  induction parsed with
  | @text l free =>
    have ended : Free (l ++ [10]) := forall_mem_append.mpr ⟨free, by simp [isBrace]⟩
    have written : knownTemplate (if l = [] then [] else [{ literal := l }]) = l ++ [10] := by
      split <;> simp [knownTemplate, doubleBraces_free free, *]
    have kept : (if l = [] then [] else [({ literal := l } : Piece)]).map againPiece =
        if l = [] then [] else [{ literal := l }] := by
      split <;> rfl
    rw [written, kept]
    refine ⟨_, .text ended, fun value depth => ?_⟩
    rw [parts_text, parts_text]
    rfl
  | @brace l rest ps b free brace later ih =>
    obtain ⟨qs, parsed, same⟩ := ih (forall_mem_cons.mp tags).2 (forall_mem_cons.mp known).2
    have double : doubleBraces (l ++ [b]) = l ++ [b, b] := by
      rw [doubleBraces, flatMap_append, ← doubleBraces, doubleBraces_free free]
      simp [brace]
    have written : knownTemplate ({ literal := l ++ [b] } :: ps) = l ++ b :: b :: knownTemplate ps := by
      simp [knownTemplate, double]
    exact ⟨_, written ▸ Parsed.brace free brace parsed, fun value depth => parts_cons_append (same value depth) _⟩
  | @field l w rest f ps free reads later ih =>
    obtain ⟨tag, tags⟩ := forall_mem_cons.mp tags
    obtain ⟨own, known⟩ := forall_mem_cons.mp known
    obtain ⟨qs, parsed, same⟩ := ih tags known
    obtain ⟨w', field, reads'⟩ := reads_again reads (tag f rfl) (own f rfl)
    have written : knownTemplate ({ literal := l, field := some f } :: ps) = l ++ 123 :: (w' ++ knownTemplate ps) := by
      simp [knownTemplate, doubleBraces_free free, tag f rfl, field]
    exact ⟨_, written ▸ Parsed.field free reads' parsed, fun value depth => parts_cons_append (same value depth) _⟩

section

variable {p : Piece} (field : p.field = some f) (done : part value depth p = .ok s)

include field done

theorem exists_of_part : ∃ (cell shown : Cell) (spec laid : Text), cell.convert f.conversion = .ok shown ∧
      applied value depth f.spec = .ok spec ∧ shown.lay spec = .ok laid := by
  unfold part at done
  rw [field] at done
  obtain ⟨cell, -, done⟩ := bind_eq_ok.mp done
  obtain ⟨shown, converted, done⟩ := bind_eq_ok.mp done
  unfold applied
  dsimp only at done
  split at done
  all_goals
    obtain ⟨spec, _, done⟩ := bind_eq_ok.mp done
    obtain ⟨laid, made, -⟩ := bind_eq_ok.mp done
    exact ⟨cell, shown, spec, laid, converted, by simp_all, made⟩

theorem known_of_part {c : CodePoint} (conversion : f.conversion = some c) : isBrace c = false ∧ isAlign c = false := by
  obtain ⟨_, _, -, -, converted, -⟩ := exists_of_part field done
  rw [conversion] at converted
  unfold Cell.convert at converted
  split at converted <;> simp_all [invalid, isBrace, isAlign]

theorem part_again (made : part value depth (againPiece p) = .ok x) : Plain f := by
  by_contra mixed
  obtain ⟨specified, converted⟩ := not_or.mp mixed
  obtain ⟨c, conversion⟩ := Option.ne_none_iff_exists'.mp converted
  obtain ⟨brace, align⟩ := known_of_part field done conversion
  obtain ⟨-, -, spec, -, -, first, -⟩ := exists_of_part field done
  obtain ⟨-, shown, _, laid, -, second, lays⟩ := exists_of_part (f := again f) (by simp [againPiece, field]) made
  have free : Free [33, c] := forall_mem_cons.mpr ⟨rfl, forall_mem_singleton.mpr brace⟩
  have written : again f = { name := f.name, spec := f.spec ++ [33, c] } := by simp [again, conversion, specified]
  rw [written, applied_append first free] at second
  cases second
  exact Marked.not_lay (suffix_append _ _) align shown laid lays

end

/-- Where a template can be filled, so can the one written again exactly if no field has both a specification and a
conversion, and to the same. -/
theorem fill_knownTemplate (read : pieces t = .ok ps) (tags : Fields (isTag ·.name = true) ps)
    (done : fill value (depth + 1) t = .ok s) :
    fill value (depth + 1) (knownTemplate ps) = .ok x ↔ Fields Plain ps ∧ s ++ [10] = x := by
  have parsed := pieces_eq_ok.mp read
  rw [fill_of_parsed parsed] at done
  have every : ∀ p ∈ ps, ∃ s, part value depth p = .ok s := exists_mapM_iff.mp (exists_map_iff.mp ⟨s, done⟩)
  have known : Fields (fun f => ∀ c, f.conversion = some c → isBrace c = false) ps := by
    intro p mem f field c conversion
    obtain ⟨s, made⟩ := every p mem
    exact (known_of_part field made conversion).1
  obtain ⟨_, written, same⟩ := exists_again parsed tags known
  have kept (plain : Fields Plain ps) : ps.map againPiece = ps := by
    refine (map_congr_left ?_).trans (map_id ps)
    rintro ⟨l, _ | f⟩ mem
    · rfl
    · simp [againPiece, again_of_plain (plain _ mem f rfl)]
  rw [fill_of_parsed written, same, map_eq_ok]
  constructor
  · rintro ⟨y, made, rfl⟩
    have plain : Fields Plain ps := by
      intro p mem f field
      obtain ⟨s, first⟩ := every p mem
      obtain ⟨x, second⟩ := exists_mapM_iff.mp (exists_map_iff.mp ⟨y, made⟩) _ (mem_map_of_mem mem)
      exact part_again field first second
    rw [kept plain, done] at made
    cases made
    exact ⟨plain, rfl⟩
  · rintro ⟨plain, rfl⟩
    exact ⟨s, by rw [kept plain, done], rfl⟩

/-! ### The report -/

variable {r : Report} {template : Option Text}

theorem checkTemplate_eq_ok : checkTemplate t = .ok ps ↔
    pieces t = .ok ps ∧ (∃ shown, try_ (nesting + 1) t = .ok shown) ∧ ∃ p ∈ ps, p.field.isSome := by
  have named (qs : List Piece) : (fieldNames qs).isEmpty = false ↔ ∃ p ∈ qs, p.field.isSome := by
    rw [Bool.eq_false_iff, ne_eq, List.isEmpty_iff, List.eq_nil_iff_forall_not_mem]
    simp [fieldNames, Option.isSome_iff_exists]
  have lifted_eq_ok {α : Type} {made : Except TemplateError α} {a : α} : lifted made = .ok a ↔ made = .ok a := by
    cases made <;> simp [lifted]
  simp only [checkTemplate, bind_eq_ok, lifted_eq_ok]
  constructor
  · rintro ⟨qs, read, shown, tried, made⟩
    split at made
    · cases made
    · cases made
      exact ⟨read, ⟨shown, tried⟩, (named ps).mp (Bool.eq_false_iff.mpr ‹_›)⟩
  · rintro ⟨read, ⟨shown, tried⟩, given⟩
    refine ⟨ps, read, shown, tried, ?_⟩
    rw [if_neg (by simp [(named ps).mpr given])]
    rfl

theorem messageFor_eq_ok {home : String} {i : Issue} : messageFor home t i = .ok s ↔
    ∃ values, tagValues home i = .ok values ∧ fill (tagCell values) nesting t = .ok s := by
  rw [messageFor, bind_eq_ok]
  refine exists_congr fun values => and_congr_right fun _ => ?_
  split <;> simp_all [pure, Except.pure, throw, throwThe, MonadExceptOf.throw]

theorem messages_eq_ok {found : Findings} (judged : r.findings = .ok found) : (messages template r).1 = .ok x ↔
    r.NamesRead ∧ ∃ ps, checkTemplate (template.getD standardTemplate) = .ok ps ∧
      ∃ shown, found.issues.mapM (messageFor r.home (knownTemplate ps)) = .ok shown ∧ shown.flatten = x := by
  rw [← exists_skippedNames_iff]
  unfold messages
  rw [judged]
  cases r.session.skippedNames with
  | error e => simp [bind, Except.bind]
  | ok names =>
    cases checkTemplate (template.getD standardTemplate) with
    | error e => cases e <;> simp [bind, Except.bind]
    | ok ps =>
      refine map_eq_ok.trans ?_
      rw [exists_congr fun texts => and_congr_left' (mapM_eq_ok_congr (g := messageFor r.home (knownTemplate ps)) ?_)]
      · simp
      · intro i text
        cases messageFor r.home (knownTemplate ps) i <;> simp

theorem write_custom_eq_ok : (r.write .custom template).1 = .ok { written := x } ↔
    (messages template r).1 = .ok x ∧ Text.Proper x := by
  unfold write
  dsimp only
  split
  · rename_i text told
    rw [told]
    by_cases proper : Text.Proper text
    · simp only [deliver, bind, Except.bind, encodable_of_proper proper, Except.ok.injEq, ReportText.mk.injEq, true_and]
      exact ⟨fun same => ⟨same, same ▸ proper⟩, And.left⟩
    · have stray : encodable text = .error .unencodable := by
        rw [encodable, if_pos]
        simpa [Text.Proper] using proper
      simp only [deliver, bind, Except.bind, stray, Except.ok.injEq, reduceCtorEq, false_iff]
      rintro ⟨rfl, made⟩
      exact proper made
  · simp_all
  · simp_all

/-- If the template gives a text for each issue, the report has just these, line by line, exactly if skipped files can
be named, the template passes its trial and has a field, no field has both a specification and a conversion unless there
is no issue, and the texts can be encoded. -/
theorem write_template_iff {found : Findings} {shown : Issue → Text} (judged : r.findings = .ok found)
    (read : pieces (template.getD standardTemplate) = .ok ps) (tags : Fields (isTag ·.name = true) ps)
    (filled : ∀ i ∈ found.issues, messageFor r.home (template.getD standardTemplate) i = .ok (shown i)) :
    (r.write .custom template).1 = .ok { written := found.issues.flatMap fun i => shown i ++ [10] } ↔
      r.NamesRead ∧ (∃ text, try_ (nesting + 1) (template.getD standardTemplate) = .ok text) ∧
      (∃ p ∈ ps, p.field.isSome) ∧ (found.issues = [] ∨ Fields Plain ps) ∧
      ∀ i ∈ found.issues, Text.Proper (shown i) := by
  have each (i : Issue) (listed : i ∈ found.issues) (x : Text) :
      messageFor r.home (knownTemplate ps) i = .ok x ↔ Fields Plain ps ∧ shown i ++ [10] = x := by
    obtain ⟨_, tagged, done⟩ := messageFor_eq_ok.mp (filled i listed)
    rw [messageFor_eq_ok, ← fill_knownTemplate read tags done]
    simp [tagged, nesting]
  have proper : Text.Proper (found.issues.flatMap fun i => shown i ++ [10]) ↔
      ∀ i ∈ found.issues, Text.Proper (shown i) := by
    simp [show CodePoint.isSurrogate 10 = false from rfl]
  have texts : (∃ texts, found.issues.mapM (messageFor r.home (knownTemplate ps)) = .ok texts ∧
      texts.flatten = found.issues.flatMap fun i => shown i ++ [10]) ↔ found.issues = [] ∨ Fields Plain ps := by
    constructor
    · rintro ⟨texts, made, -⟩
      rcases found.issues.eq_nil_or_concat with none | ⟨_, i, all⟩
      · exact .inl none
      · have listed : i ∈ found.issues := by simp [all]
        obtain ⟨text, told⟩ := exists_mapM_iff.mp ⟨texts, made⟩ i listed
        exact .inr ((each i listed text).mp told).1
    · rintro (none | plain)
      · exact ⟨[], by simp [none, pure, Except.pure], by simp [none]⟩
      · exact ⟨_, mapM_of_ok fun i listed => (each i listed _).mpr ⟨plain, rfl⟩, rfl⟩
  rw [write_custom_eq_ok, messages_eq_ok judged, proper]
  simp only [checkTemplate_eq_ok, read, Except.ok.injEq]
  constructor
  · rintro ⟨⟨names, _, ⟨rfl, tried, given⟩, made⟩, encoded⟩
    exact ⟨names, tried, given, texts.mp made, encoded⟩
  · rintro ⟨names, tried, given, plain, encoded⟩
    exact ⟨⟨names, ps, ⟨rfl, tried, given⟩, texts.mpr plain⟩, encoded⟩

def apart : Text := "\x7bseverity!r\x7d\x7b\x7b\x7bline:>3\x7d"

theorem apart_written : messageFor "/work" apart (Session.asserted 1) = .ok "'LOW'\x7b  1" ∧
    ((lowestOn [Session.asserted 1]).write .custom (some apart)).1 = .ok { written := "'LOW'\x7b  1\n" } := by
  let severity : Field := ⟨"severity", [], some 114⟩
  let line : Field := ⟨"line", ">3", none⟩
  have read : pieces apart = .ok [⟨[], some severity⟩, ⟨[123], none⟩, ⟨[], some line⟩] := by decide +kernel
  have fields {demand : Field → Prop} (first : demand severity) (last : demand line) :
      Fields demand [⟨[], some severity⟩, ⟨[123], none⟩, ⟨[], some line⟩] := by
    simp [Fields, first, last]
  have filled : messageFor "/work" apart (Session.asserted 1) = .ok "'LOW'\x7b  1" := by decide +kernel
  have tried : try_ (nesting + 1) apart = .ok "'\x7bseverity\x7d'\x7b  0" := by decide +kernel
  have judged : (lowestOn [Session.asserted 1]).findings = .ok (.plain [Session.asserted 1]) := rfl
  refine ⟨filled, (@write_template_iff _ _ (some apart) _ (fun _ => _) judged read
    (fields (by decide +kernel) (by decide +kernel)) (forall_mem_singleton.mpr filled)).mpr
    ⟨nofun, ⟨_, tried⟩, ⟨_, mem_cons_self, rfl⟩, .inr (fields (.inl rfl) (.inr rfl)), by simp⟩⟩

/-- A specification and a conversion in one field: there is no report. -/
theorem together_failed : messageFor "/work" "\x7bseverity!r:>10\x7d" (Session.asserted 1) = .ok "     'LOW'" ∧
    ((lowestOn [Session.asserted 1]).write .custom (some "\x7bseverity!r:>10\x7d")).1 = .error (.failed .custom) :=
  ⟨by decide +kernel, rfl⟩

end Report

end SourceAudit
