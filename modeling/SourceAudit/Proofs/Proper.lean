import SourceAudit.Proofs.Json
import SourceAudit.Report.Records

/-! Texts without surrogates, which are those that can be encoded, such as all that is written as indented entries. -/

namespace SourceAudit

open List Text Quoted

variable {α : Type} {demand : α → Prop} {parts : List (List α)} {f : α → Text} {shown : CodePoint → Bool} {run : Text}

variable {t : Text} {sameClass : CodePoint → CodePoint → Bool} {c : CodePoint}

theorem Segments.forall_mem_join {sep : List α} (between : ∀ a ∈ sep, demand a) (each : ∀ x ∈ parts, ∀ a ∈ x, demand a) :
    ∀ a ∈ join sep parts, demand a := by
  fun_induction join sep parts with
  | case1 => exact nofun
  | case2 x => exact each x (mem_singleton_self x)
  | case3 x rest _ ih =>
    rw [forall_mem_cons] at each
    exact forall_mem_append.mpr ⟨forall_mem_append.mpr ⟨each.1, between⟩, ih each.2⟩

namespace Text

def Proper (t : Text) : Prop := ∀ p ∈ t, p.isSurrogate = false

@[simp] theorem proper_nil : Proper [] := by simp [Proper]

variable {p : CodePoint}

@[simp] theorem proper_cons : Proper (p :: t) ↔ p.isSurrogate = false ∧ Proper t := forall_mem_cons

theorem proper_point (proper : p.isSurrogate = false) : Proper [p] := proper_cons.mpr ⟨proper, proper_nil⟩

theorem proper_replicate (proper : p.isSurrogate = false) (n : Nat) : Proper (List.replicate n p) := by
  intro c there
  rw [eq_of_mem_replicate there]
  exact proper

@[simp] theorem proper_append {a b : Text} : Proper (a ++ b) ↔ Proper a ∧ Proper b := forall_mem_append

@[simp] theorem proper_flatMap {items : List α} : Proper (items.flatMap f) ↔ ∀ a ∈ items, Proper (f a) := by
  simp only [Proper, mem_flatMap]
  constructor
  · intro whole a mem p there
    exact whole p ⟨a, mem, there⟩
  · rintro each p ⟨a, mem, there⟩
    exact each a mem p there

@[simp] theorem proper_flatten {parts : List Text} : Proper parts.flatten ↔ ∀ t ∈ parts, Proper t := by
  rw [← flatMap_id, proper_flatMap]
  rfl

@[simp] theorem proper_ofChars (cs : List Char) : Proper (ofChars cs) := by
  intro p mem
  obtain ⟨c, -, rfl⟩ := mem_map.mp mem
  exact Json.isSurrogate_ofChar c

@[simp] theorem proper_ofString (s : String) : Proper (ofString s) := proper_ofChars s.toList

theorem isSurrogate_quoteFor (t : Text) : (quoteFor t).isSurrogate = false := by
  unfold quoteFor
  split <;> rfl

theorem mem_of_mem_escaped {quote p : CodePoint}
    (there : p ∈ t.flatMap (escapePoint shown quote)) (odd : p.isSurrogate) : p ∈ t := by
  obtain ⟨q, own, there⟩ := mem_flatMap.mp there
  have escaped : p ∉ ofString (Escape.encodePoint q) := fun among => by
    simpa [odd] using proper_ofString _ p among
  unfold escapePoint at there
  split_ifs at there
  · rw [mem_cons, mem_singleton] at there
    rcases there with rfl | rfl
    · exact absurd odd (by decide)
    · exact own
  · exact absurd there escaped
  · exact mem_singleton.mp there ▸ own
  · exact absurd there escaped

theorem mem_of_mem_quoted {p : CodePoint} (shown : p ∈ text t) (odd : p.isSurrogate) : p ∈ t := by
  rw [text, mem_append, mem_append, mem_singleton] at shown
  rcases shown with (rfl | there) | rfl
  · exact absurd odd (by simp [isSurrogate_quoteFor])
  · exact mem_of_mem_escaped there odd
  · exact absurd odd (by simp [isSurrogate_quoteFor])

theorem proper_quoted (proper : Proper t) : Proper (text t) := by
  intro p shown
  rw [← Bool.not_eq_true]
  intro odd
  simpa [odd] using proper p (mem_of_mem_quoted shown odd)

theorem isSome_encodeText?_iff : (Utf8.encodeText? t).isSome ↔ Proper t := by
  rw [Utf8.encodeText?, Option.isSome_map, toChars?]
  induction t with
  | nil => simp
  | cons p rest ih =>
    rw [proper_cons, ← ih, mapM_cons, CodePoint.toChar?]
    cases p.isSurrogate with
    | true => simp
    | false => cases rest.mapM CodePoint.toChar? <;> simp

end Text

namespace Yaml

def Pen.Proper (p : Pen) : Prop := ∀ t ∈ p.chunks, Text.Proper t

namespace Pen.Proper

variable {p : Pen}

section

variable (proper : p.Proper)

include proper

theorem put (also : Text.Proper t) : (p.put t).Proper := forall_mem_cons.mpr ⟨also, proper⟩

theorem lineBreak : p.lineBreak.Proper := forall_mem_cons.mpr ⟨proper_point rfl, proper⟩

theorem inLine : p.inLine.Proper := proper

theorem indent (n : Nat) : (p.indent n).Proper := by
  unfold Pen.indent
  extract_lets moved
  have there : moved.Proper := by
    unfold moved
    split
    · exact proper.lineBreak
    · exact proper
  split
  · exact there.put (proper_replicate rfl _)
  · exact there

theorem sign (also : Text.Proper t) (needsBlank leavesBlank keepsFresh : Bool) :
    (p.sign t needsBlank leavesBlank keepsFresh).Proper := by
  refine proper.put ?_
  split
  · exact also
  · exact proper_cons.mpr ⟨rfl, also⟩

theorem written : Text.Proper p.written := by
  rw [Pen.written, proper_flatten]
  intro t mem
  exact proper t (mem_reverse.mp mem)

end

end Pen.Proper

theorem mem_of_mem_runs (mem : run ∈ runs sameClass t) (there : c ∈ run) : c ∈ t := by
  induction t generalizing run with
  | nil => simp [runs] at mem
  | cons d rest ih =>
    rw [runs, foldr_cons, ← runs] at mem
    split at mem
    · rename_i q more others tail
      have earlier {own : Text} (among : own ∈ (q :: more) :: others) (inside : c ∈ own) : c ∈ rest :=
        ih (tail ▸ among) inside
      split at mem
      · rcases mem_cons.mp mem with rfl | later
        · rcases mem_cons.mp there with rfl | inside
          · exact mem_cons_self
          · exact mem_cons_of_mem d (earlier mem_cons_self inside)
        · exact mem_cons_of_mem d (earlier (mem_cons_of_mem _ later) there)
      · rcases mem_cons.mp mem with rfl | later
        · exact mem_cons.mpr (.inl (mem_singleton.mp there))
        · exact mem_cons_of_mem d (earlier later there)
    · rcases mem_cons.mp mem with rfl | later
      · exact mem_cons.mpr (.inl (mem_singleton.mp there))
      · exact mem_cons_of_mem d (ih later there)

theorem proper_of_mem_runs (proper : Text.Proper t) (mem : run ∈ runs sameClass t) : Text.Proper run :=
  fun c there => proper c (mem_of_mem_runs mem there)

variable {p : Pen}

section

variable (proper : p.Proper) (margin : Nat)

include proper margin

theorem proper_writeBreaks (run : Text) : (writeBreaks margin run p).Proper := by
  have breaks {p : Pen} (proper : p.Proper) : (run.foldl (fun p _ => p.lineBreak) p).Proper :=
    List.foldlRecOn run _ proper fun _ there _ _ => there.lineBreak
  refine (breaks ?_).indent margin
  split
  · exact proper.lineBreak
  · exact proper

theorem proper_writeSingle (folds : Bool) (also : Text.Proper t) : (writeSingle margin folds t p).Proper := by
  refine Pen.Proper.sign ?_ (proper_point rfl) _ _ _
  refine List.foldlRecOn _ _ (proper.sign (proper_point rfl) _ _ _) ?_
  rintro q there ⟨run, n⟩ mem
  have own : Text.Proper run := proper_of_mem_runs also (fst_mem_of_mem_zipIdx mem)
  dsimp only
  split
  · split
    · exact there.indent margin
    · exact there.put own
  · split
    · exact proper_writeBreaks there margin _
    · refine there.put (proper_flatMap.mpr ?_)
      intro c inside
      split
      · exact proper_cons.mpr ⟨rfl, proper_point rfl⟩
      · exact proper_point (own c inside)
  · exact there

theorem proper_writePlain (folds : Bool) (also : Text.Proper t) : (writePlain margin folds t p).Proper := by
  unfold writePlain
  split
  · exact proper
  · have start : (if p.blank then p else p.put [32]).inLine.Proper := by
      split
      · exact proper
      · exact proper.put (proper_point rfl)
    refine List.foldlRecOn _ _ start ?_
    intro q there run mem
    split
    · exact there.indent margin
    · exact there.put (proper_of_mem_runs also mem)

end

theorem proper_of_escape? {e : Text} (escaped : escape? c = some e) : Text.Proper e := by
  unfold escape? at escaped
  split at escaped
  · exact Option.some.inj escaped ▸ proper_ofString _
  · split_ifs at escaped <;> exact Option.some.inj escaped ▸ proper_ofString _

theorem isSurrogate_of_escape? (plain : escape? c = none) : c.isSurrogate = false := by
  unfold escape? at plain
  split at plain
  · exact absurd plain (by simp)
  · split_ifs at plain with shown
    rw [Bool.and_eq_true, decide_eq_true_eq, decide_eq_true_eq] at shown
    rw [CodePoint.isSurrogate, Bool.and_eq_false_iff, decide_eq_false_iff_not]
    exact .inl (by omega)

theorem proper_writeDoubleBody (margin : Nat) (folds : Bool) (t : Text) (index : Nat) {pending : Text}
    (held : Text.Proper pending) (proper : p.Proper) : (writeDoubleBody margin folds index pending t p).Proper := by
  have reversed {held : Text} (proper : Text.Proper held) : Text.Proper held.reverse :=
    fun c there => proper c (mem_reverse.mp there)
  have flushed {q : Pen} (there : q.Proper) {held : Text} (proper : Text.Proper held) :
      (if held.isEmpty then q else q.put held.reverse).Proper := by
    split
    · exact there
    · exact there.put (reversed proper)
  induction t generalizing index pending p with
  | nil =>
    exact flushed proper held
  | cons c rest ih =>
    rw [writeDoubleBody]
    split
    · rename_i e escaped
      refine ih _ proper_nil ?_
      have noted := (flushed proper held).put (proper_of_escape? escaped)
      generalize Pen.put e _ = q at noted ⊢
      split
      · have folded := (noted.put (proper_point (p := 92) rfl)).indent margin
        split
        · exact folded.inLine.put (proper_point rfl)
        · exact folded.inLine
      · exact noted
    · rename_i plain
      have own : Text.Proper [c] := proper_point (isSurrogate_of_escape? plain)
      split
      · refine ih _ own ?_
        have noted := proper.put (proper_append.mpr ⟨reversed held, proper_point (p := 92) rfl⟩)
        split
        · exact (noted.indent margin).inLine.put (proper_point rfl)
        · exact (noted.indent margin).inLine
      · exact ih _ (proper_append.mpr ⟨own, held⟩) proper

theorem proper_writeDouble (proper : p.Proper) (margin : Nat) (folds : Bool) (t : Text) :
    (writeDouble margin folds t p).Proper := by
  have opened := proper.sign (t := [34]) (proper_point rfl) true false false
  exact (proper_writeDoubleBody margin folds t 0 proper_nil opened).sign (proper_point rfl) _ _ _

theorem proper_writeText (proper : p.Proper) (margin : Nat) (isKey : Bool) (t : Text) :
    (writeText margin isKey t p).Proper := by
  have plain (style : styleOf isKey t ≠ .double) : Text.Proper t := by
    have calm : t.any (fun c => !isPlainPoint c) = false := by
      cases odd : t.any (fun c => !isPlainPoint c) with
      | false => rfl
      | true => simp [styleOf, odd] at style
    intro c there
    have shown : isPlainPoint c = true := by simpa using any_eq_false.mp calm c there
    simp only [isPlainPoint, Bool.or_eq_true, beq_iff_eq, Bool.and_eq_true, decide_eq_true_eq] at shown
    rw [CodePoint.isSurrogate, Bool.and_eq_false_iff, decide_eq_false_iff_not]
    rcases shown with rfl | ⟨-, _⟩
    · decide
    · exact .inl (by omega)
  unfold writeText
  split
  · rename_i style
    exact proper_writePlain proper _ _ (plain (by simp [style]))
  · rename_i style
    exact proper_writeSingle proper _ _ (plain (by simp [style]))
  · exact proper_writeDouble proper _ _ t

mutual

theorem proper_writeTree (inDict : Bool) (margin : Option Nat) : ∀ (t : Tree) {p : Pen}, p.Proper →
    (writeTree inDict margin t p).Proper
  | .word w, p, proper => by
      rw [writeTree]
      exact proper_writePlain proper _ _ (proper_ofString w)
  | .text t, p, proper => by
      rw [writeTree]
      exact proper_writeText proper _ _ t
  | .reference n, p, proper => by
      rw [writeTree]
      exact proper.sign (proper_cons.mpr ⟨rfl, proper_ofString _⟩) _ _ _
  | .list none items, p, proper => by
      rw [writeTree.eq_def]
      dsimp only
      split
      · exact (proper.sign (proper_point rfl) _ _ _).sign (proper_point rfl) _ _ _
      · exact proper_writeItems _ items proper
  | .list (some n) items, p, proper => by
      rw [writeTree.eq_def]
      dsimp only
      have marked := proper.sign (t := 38 :: markName n) (proper_cons.mpr ⟨rfl, proper_ofString _⟩)
        true false false
      split
      · exact (marked.sign (proper_point rfl) _ _ _).sign (proper_point rfl) _ _ _
      · exact proper_writeItems _ items marked
  | .dict entries, p, proper => by
      rw [writeTree]
      split
      · exact (proper.sign (proper_point rfl) _ _ _).sign (proper_point rfl) _ _ _
      · exact proper_writeEntries _ entries proper

theorem proper_writeItems (margin : Nat) : ∀ (items : List Tree) {p : Pen}, p.Proper →
    (writeItems margin items p).Proper
  | [], p, proper => by
      rw [writeItems]
      exact proper
  | t :: rest, p, proper => by
      rw [writeItems]
      have dashed := (proper.indent margin).sign (t := [45]) (proper_point rfl) true false true
      exact proper_writeItems margin rest (proper_writeTree false (some margin) t dashed)

theorem proper_writeEntries (margin : Nat) : ∀ (entries : List (Text × Tree)) {p : Pen}, p.Proper →
    (writeEntries margin entries p).Proper
  | [], p, proper => by
      rw [writeEntries]
      exact proper
  | (key, t) :: rest, p, proper => by
      rw [writeEntries]
      refine proper_writeEntries margin rest (proper_writeTree true (some margin) t ?_)
      have indented := proper.indent margin
      split
      · exact (proper_writeText indented _ _ _).sign (proper_point rfl) _ _ _
      · have asked := indented.sign (t := [63]) (proper_point rfl) true false true
        exact ((proper_writeText asked _ _ _).indent margin).sign (proper_point rfl) _ _ _

end

theorem proper_render (t : Tree) : Text.Proper (render t) := by
  have start : Pen.Proper {} := by simp [Pen.Proper]
  exact ((proper_writeTree false none t start).indent 0).written

end Yaml

end SourceAudit
