import SourceAudit.Proofs.Robustness

/-! Queries put together from several literals. A literal is read with those of its tree of operators but for its own
operator. -/

namespace SourceAudit

open List

namespace Node

def textsOf (ns : List Node) : List Text := ns.filterMap textOf?

/-- A part of a tree of operators: the operators around it, the innermost first, and the operands beside it. -/
inductive Part (e : Node) : List Ancestor → List Node → Node → List Node → Prop where
  | whole : Part e [] [] e []
  | left {path front span l op r back} (within : Part e path front (binOp span l op r) back) :
      Part e (⟨binOp span l op r, 0⟩ :: path) front l (r.operands ++ back)
  | right {path front span l op r back} (within : Part e path front (binOp span l op r) back) :
      Part e (⟨binOp span l op r, 2⟩ :: path) (front ++ l.operands) r back

/-- What is read from each literal of a tree of operators: the literal, then those outside of its own operator. -/
def readings (front back : List Node) : Node → List (List Text)
  | binOp _ l _ r =>
    (textsOf [l, r]).map (· :: textsOf (front ++ back)) ++
      (readings front (r.operands ++ back) l ++ readings (front ++ l.operands) back r)
  | _ => []

/-- The first literal of the tree is the only one in the operator that it belongs to. -/
def Leads (e : Node) : Prop :=
  ∃ t path front span l op r back, Part e path front (binOp span l op r) back ∧
    (l.textOf? = some t ∨ r.textOf? = some t) ∧ textsOf front = [] ∧ textsOf (binOp span l op r).operands = [t]

variable {e n : Node} {path outer : List Ancestor} {front back : List Node}

theorem operands_leaf (leaf : ∀ span l op r, n ≠ binOp span l op r) : n.operands = [n] := by
  unfold operands
  split
  · exact absurd rfl (leaf _ _ _ _)
  · rfl

section

variable (part : Part e path front n back)

include part

theorem Part.operands_eq : e.operands = front ++ (n.operands ++ back) := by
  induction part with
  | whole => simp
  | left within ih => rw [ih, operands, append_assoc]
  | right within ih => rw [ih, operands, append_assoc, append_assoc]

theorem Part.chainAround_eq (inner : List Node)
    (top : ∀ span l op r slot rest, outer ≠ ⟨binOp span l op r, slot⟩ :: rest) :
    chainAround inner (path ++ outer) = front ++ (inner ++ back) := by
  induction part generalizing inner with
  | whole =>
    rw [nil_append, chainAround.eq_def]
    split
    · exact absurd rfl (top _ _ _ _ _ _)
    · simp
  | left within ih =>
    rw [List.cons_append, chainAround, if_pos (by rfl), ih]
    simp
  | right within ih =>
    rw [List.cons_append, chainAround, if_neg (by decide), ih]
    simp

theorem exists_part_of_mem_operands {m : Node} (mem : m ∈ n.operands) :
    (∃ path front back, Part e path front m back) ∧ ∀ span l op r, m ≠ binOp span l op r := by
  induction n using operands.induct generalizing path front back with
  | case1 span l op r first second =>
    rw [operands, mem_append] at mem
    rcases mem with left | right
    · exact first part.left left
    · exact second part.right right
  | case2 n other =>
    rw [operands_leaf other, mem_singleton] at mem
    exact mem ▸ ⟨⟨path, front, back, part⟩, other⟩

end

theorem mem_textsOf_pair {l r : Node} {t : Text} : t ∈ textsOf [l, r] ↔ l.textOf? = some t ∨ r.textOf? = some t := by
  simp [textsOf]

theorem Part.readings_subset (part : Part e path front n back) : readings front back n ⊆ readings [] [] e := by
  induction part with
  | whole => exact List.Subset.refl _
  | left within ih =>
    intro reading mem
    exact ih (mem_append_right _ (mem_append_left _ mem))
  | right within ih =>
    intro reading mem
    exact ih (mem_append_right _ (mem_append_right _ mem))

theorem Part.mem_readings {span : Span} {l op r : Node} {t : Text} (part : Part e path front (binOp span l op r) back)
    (own : l.textOf? = some t ∨ r.textOf? = some t) : t :: textsOf (front ++ back) ∈ readings [] [] e :=
  part.readings_subset (mem_append_left _ (mem_map_of_mem (mem_textsOf_pair.mpr own)))

theorem exists_part_of_mem_readings (part : Part e path front n back) {reading : List Text}
    (mem : reading ∈ readings front back n) :
    ∃ t path front span l op r back, Part e path front (binOp span l op r) back ∧
      (l.textOf? = some t ∨ r.textOf? = some t) ∧ reading = t :: textsOf (front ++ back) := by
  induction n using operands.induct generalizing path front back with
  | case1 span l op r first second =>
    rw [readings, mem_append, mem_append] at mem
    rcases mem with here | left | right
    · obtain ⟨t, own, rfl⟩ := mem_map.mp here
      exact ⟨t, path, front, span, l, op, r, back, part, mem_textsOf_pair.mp own, rfl⟩
    · exact first part.left left
    · exact second part.right right
  | case2 n other =>
    unfold readings at mem
    split at mem
    · exact absurd rfl (other _ _ _ _)
    · cases mem

theorem Leads.mem_readings (leads : e.Leads) : textsOf e.operands ∈ readings [] [] e := by
  obtain ⟨t, _, front, _, l, _, r, back, part, own, first, alone⟩ := leads
  have all : textsOf e.operands = t :: textsOf (front ++ back) := by
    rw [part.operands_eq]
    simp only [textsOf, filterMap_append] at first alone ⊢
    rw [first, alone]
    rfl
  rw [all]
  exact part.mem_readings own

theorem exists_reading_of_mem {span : Span} {l op r : Node} {t : Text} (mem : t ∈ textsOf (binOp span l op r).operands) :
    ∃ others, t :: others ∈ readings [] [] (binOp span l op r) := by
  obtain ⟨m, among, text⟩ := mem_filterMap.mp mem
  obtain ⟨⟨_, _, _, part⟩, -⟩ := exists_part_of_mem_operands .whole among
  cases part with
  | whole => cases text
  | left within => exact ⟨_, within.mem_readings (.inl text)⟩
  | right within => exact ⟨_, within.mem_readings (.inr text)⟩

end Node

namespace Rule

variable {word : Text} {t rest : Text}

theorem isPrefixOf_append (more : Text) (begins : word.isPrefixOf t) : word.isPrefixOf (t ++ more) = true := by
  rw [ isPrefixOf_iff_prefix] at begins ⊢
  exact begins.trans (prefix_append t more)

theorem occurrences_append (more : Text) (found : rest ∈ occurrences word t) :
    rest ++ more ∈ occurrences word (t ++ more) := by
  induction t with
  | nil => cases found
  | cons p t ih =>
    rw [List.cons_append, occurrences]
    dsimp only [occurrences] at found
    split at found
    · rename_i begins
      have long := IsPrefix.length_le <| isPrefixOf_iff_prefix.mp begins
      rw [← List.cons_append, if_pos (isPrefixOf_append more begins)]
      rcases mem_cons.mp found with rfl | later
      · rw [drop_append_of_le_length long]
        exact mem_cons_self
      · exact mem_cons_of_mem _ (ih later)
    · split
      · exact mem_cons_of_mem _ (ih found)
      · exact ih found

theorem behindBlank?_append (more : Text) (found : behindBlank? t = some rest) :
    behindBlank? (t ++ more) = some (rest ++ more) := by
  cases t with
  | nil => cases found
  | cons b t =>
    dsimp only [behindBlank?, List.cons_append] at found ⊢
    split at found
    · rename_i blank
      cases found
      rw [if_pos blank]
    · cases found

theorem wordThenBlank?_append (more : Text) (found : wordThenBlank? word t = some rest) :
    wordThenBlank? word (t ++ more) = some (rest ++ more) := by
  unfold wordThenBlank? at found ⊢
  split at found
  · rename_i begins
    have long := IsPrefix.length_le <| isPrefixOf_iff_prefix.mp begins
    rw [if_pos (isPrefixOf_append more begins), drop_append_of_le_length long]
    exact behindBlank?_append more found
  · cases found

theorem mentions_append {word : String} (more : Text) (found : mentions word t) : mentions word (t ++ more) = true := by
  induction t with
  | nil => cases found
  | cons p t ih =>
    rw [mentions, Bool.or_eq_true] at found
    rw [List.cons_append, mentions, Bool.or_eq_true]
    rcases found with here | later
    · obtain ⟨_, is⟩ := Option.isSome_iff_exists.mp here
      have longer := wordThenBlank?_append more is
      rw [List.cons_append] at longer
      exact .inl (by rw [longer]; rfl)
    · exact .inr (ih later)

theorem wordPairs_append {first second : String} (more : Text) (found : rest ∈ wordPairs first second t) :
    rest ++ more ∈ wordPairs first second (t ++ more) := by
  obtain ⟨behind, occurs, pairs⟩ := mem_filterMap.mp found
  refine mem_filterMap.mpr ⟨behind ++ more, occurrences_append more occurs, ?_⟩
  split at pairs
  · rename_i blank
    obtain ⟨_, is⟩ := Option.isSome_iff_exists.mp blank
    -- the second word ends the blanks, so what is put behind it does not lengthen them
    have some_ : behind.dropWhile Folding.isBlank ≠ [] := by
      intro none_
      rw [none_] at pairs
      unfold wordThenBlank? at pairs
      split at pairs <;> simp [behindBlank?] at pairs
    rw [behindBlank?_append more is, Option.isSome_some, if_pos rfl, dropWhile_append,
      if_neg (by simpa [List.isEmpty_iff] using some_)]
    exact wordThenBlank?_append more pairs
  · cases pairs

theorem behindWord_append {word : String} (more : Text) (found : rest ∈ behindWord word t) :
    rest ++ more ∈ behindWord word (t ++ more) := by
  obtain ⟨behind, occurs, is⟩ := mem_filterMap.mp found
  exact mem_filterMap.mpr ⟨behind ++ more, occurrences_append more occurs, behindBlank?_append more is⟩

theorem looksLikeQuery_append (more : Text) (query : looksLikeQuery t) : looksLikeQuery (t ++ more) = true := by
  have mentioned {found longer : List Text} {word : String} {more : Text} (each : ∀ u ∈ found, u ++ more ∈ longer)
      (any : found.any (mentions word) = true) : longer.any (mentions word) = true := by
    obtain ⟨u, mem, holds⟩ := any_eq_true.mp any
    exact any_eq_true.mpr ⟨_, each u mem, mentions_append more holds⟩
  unfold looksLikeQuery at query ⊢
  rw [Folding.foldText, map_append]
  simp only [Bool.or_eq_true] at query ⊢
  rcases query with ((selects | deletes) | inserts) | updates
  · exact .inl (.inl (.inl (mentioned (fun _ => behindWord_append _) selects)))
  · refine .inl (.inl (.inr ?_))
    rw [Bool.not_eq_true', isEmpty_eq_false_iff_exists_mem] at deletes ⊢
    obtain ⟨_, mem⟩ := deletes
    exact ⟨_, wordPairs_append _ mem⟩
  · exact .inl (.inr (mentioned (fun _ => wordPairs_append _) inserts))
  · exact .inr (mentioned (fun _ => behindWord_append _) updates)

theorem looksLikeQuery_join {others : List Text} (query : looksLikeQuery t) :
    looksLikeQuery (Segments.join [32] (t :: others)) = true := by
  cases others with
  | nil => exact query
  | cons first others =>
    change looksLikeQuery (t ++ [32] ++ Segments.join [32] (first :: others)) = true
    rw [append_assoc]
    exact looksLikeQuery_append _ query

theorem flags_hardcodedSql_iff {c : Context} {place span : Span} {l op r e : Node} {slot : Nat}
    {path outer : List Ancestor} {front back : List Node} (settings : Value) (node : c.node = some (.constant place (.text t)))
    (around : c.ancestors = ⟨.binOp span l op r, slot⟩ :: (path ++ outer))
    (part : Node.Part e path front (.binOp span l op r) back)
    (top : ∀ span l op r slot rest, outer ≠ ⟨.binOp span l op r, slot⟩ :: rest) : hardcodedSql.Flags c settings ↔
      looksLikeQuery (Segments.join [32] (t :: Node.textsOf (front ++ back))) = true := by
  have read : Node.outerChainText (.constant place (.text t)) c.ancestors =
      Segments.join [32] (t :: Node.textsOf (front ++ back)) := by
    rw [around, Node.outerChainText, part.chainAround_eq [] top]
    rfl
  obtain ⟨confidence, run⟩ : ∃ confidence, hardcodedSql.run c settings = .ok (reportIf
      (looksLikeQuery (Node.outerChainText (.constant place (.text t)) c.ancestors)) (finding .medium confidence 89
        "Possible SQL injection vector through string-based query construction.")) := by
    dsimp only [hardcodedSql, plain]
    rw [Context.theNode, node, around]
    exact ⟨_, rfl⟩
  rw [Flags, run, read, reportIf]
  split <;> simp_all

end Rule

namespace Walker

theorem subset_along {α : Type} (visit : α → Walker → List Stop × Walker) {items : List α} {a : α} (mem : a ∈ items)
    (w : Walker) : ∃ before, (visit a before).1 ⊆ (along visit items w).1 := by
  induction items generalizing w with
  | nil => cases mem
  | cons b rest ih =>
    rcases mem_cons.mp mem with rfl | later
    · exact ⟨w, subset_append_left _ _⟩
    · obtain ⟨before, within⟩ := ih later (visit b w).2
      exact ⟨before, List.Subset.trans within (subset_append_right _ _)⟩

theorem exists_stop_of_child {n c : Node} {next : Option Node} {slot : Nat} (child : n.children[slot]? = some (c, next))
    (ancestors : List Ancestor) (w : Walker) :
    ∃ u ∈ (below ancestors n w).1, u.visit.node = c ∧ u.visit.ancestors = ⟨n, slot⟩ :: ancestors := by
  have mem : ((c, next), slot) ∈ n.children.zipIdx := mem_zipIdx_iff_getElem?.mpr child
  obtain ⟨_, within⟩ := subset_along (visitChild ancestors n) mem w
  rw [below_eq]
  exact ⟨_, within mem_cons_self, rfl, rfl⟩

theorem exists_stop_below (n : Node) : ∀ (ancestors : List Ancestor) (w : Walker), ∀ s ∈ (below ancestors n w).1,
    ∀ slot c next, s.visit.node.children[slot]? = some (c, next) → ∃ u ∈ (below ancestors n w).1, u.visit.node = c ∧
      u.visit.ancestors = ⟨s.visit.node, slot⟩ :: s.visit.ancestors := by
  induction n using Node.induction_on_children with
  | step n ih =>
    intro ancestors w s met slot c next child
    rw [below_eq] at met ⊢
    obtain ⟨⟨⟨m, behind⟩, place⟩, mem, before, met, within⟩ := mem_along met
    have present : n.children[place]? = some (m, behind) := mem_zipIdx_iff_getElem?.mp mem
    -- children are met right behind their node, so the stops below it are those of the same visit
    rcases mem_cons.mp met with rfl | inner
    · obtain ⟨u, there, known⟩ := exists_stop_of_child child (⟨n, place⟩ :: ancestors) (before.enter m)
      exact ⟨u, within (mem_cons_of_mem _ there), known⟩
    · obtain ⟨u, there, known⟩ := ih m behind (mem_of_getElem? present) _ _ s inner slot c next child
      exact ⟨u, within (mem_cons_of_mem _ there), known⟩

end Walker

namespace Document

variable {d : Document} {tree : Node} {s : Stop}

theorem exists_stop_of_part (met : s ∈ d.stops tree) {path : List Ancestor} {front back : List Node} {n : Node}
    (part : Node.Part s.visit.node path front n back) :
    ∃ u ∈ d.stops tree, u.visit.node = n ∧ u.visit.ancestors = path ++ s.visit.ancestors := by
  induction part with
  | whole => exact ⟨s, met, rfl, rfl⟩
  | left within ih =>
    obtain ⟨u, there, node, around⟩ := ih
    obtain ⟨v, met, known, above⟩ := Walker.exists_stop_below tree _ _ u there 0 _ none (by rw [node]; rfl)
    exact ⟨v, met, known, by rw [above, node, around]; rfl⟩
  | right within ih =>
    obtain ⟨u, there, node, around⟩ := ih
    obtain ⟨v, met, known, above⟩ := Walker.exists_stop_below tree _ _ u there 2 _ none (by rw [node]; rfl)
    exact ⟨v, met, known, by rw [above, node, around]; rfl⟩

/-- One of the literals in the tree of operators at a stop is looked at and reported. -/
def ReportsQuery (d : Document) (tree : Node) (s : Stop) (settings : Value) : Prop :=
  ∃ u visit path front back, (u, visit) ∈ (d.stops tree).zipIdx ∧ Node.Part s.visit.node path front u.visit.node back ∧
    u.visit.ancestors = path ++ s.visit.ancestors ∧ u.check? = some "Str" ∧
    Rule.hardcodedSql.Flags (d.sight u visit) settings

theorem exists_text_of_check {u : Stop} (asked : u.check? = some "Str") :
    ∃ place t, u.visit.node = .constant place (.text t) := by
  have shown := Stop.shows_of_check asked (by decide)
  generalize text : "Str" = check at shown
  cases shown with
  | text node => exact ⟨_, _, node⟩
  | importsFrom _ kind => rcases kind with rfl | rfl <;> exact absurd text (by decide)
  | _ => exact absurd text (by decide)

theorem reportsQuery_of_literal (met : s ∈ d.stops tree) {path : List Ancestor} {front back before behind : List Node}
    {span place : Span} {l op r : Node} {slot : Nat} {t : Text}
    (within : Node.Part s.visit.node path front (.binOp span l op r) back)
    (part : Node.Part s.visit.node (⟨.binOp span l op r, slot⟩ :: path) before (.constant place (.text t)) behind)
    (top : ∀ span l op r slot rest, s.visit.ancestors ≠ ⟨.binOp span l op r, slot⟩ :: rest) (settings : Value)
    (query : Rule.looksLikeQuery (Segments.join [32] (t :: Node.textsOf (front ++ back))) = true) :
    d.ReportsQuery tree s settings := by
  obtain ⟨u, there, node, around⟩ := exists_stop_of_part met part
  obtain ⟨visit, numbered⟩ := mem_iff_getElem?.mp there
  obtain ⟨known, above, -⟩ := known_sight d u visit
  refine ⟨u, visit, _, before, behind, mem_zipIdx_iff_getElem?.mpr numbered, node ▸ part, around, ?_, ?_⟩
  · simp [Stop.check?, Stop.parent?, node, around]
  · rw [node] at known
    rw [around] at above
    exact (Rule.flags_hardcodedSql_iff settings known above within top).mpr query

theorem reportsQuery_iff_reading (met : s ∈ d.stops tree) {span : Span} {l op r : Node}
    (node : s.visit.node = .binOp span l op r)
    (top : ∀ span l op r slot rest, s.visit.ancestors ≠ ⟨.binOp span l op r, slot⟩ :: rest) (settings : Value) :
    d.ReportsQuery tree s settings ↔
      ∃ reading ∈ Node.readings [] [] s.visit.node, Rule.looksLikeQuery (Segments.join [32] reading) = true := by
  constructor
  · rintro ⟨u, visit, path, front, back, -, part, around, asked, flags⟩
    obtain ⟨place, t, text⟩ := exists_text_of_check asked
    obtain ⟨known, above, -⟩ := known_sight d u visit
    rw [text] at known
    rw [around] at above
    rw [text, node] at part
    rw [node]
    -- the whole tree is an operator and no literal
    cases part with
    | left within =>
      have query := (Rule.flags_hardcodedSql_iff settings known above within top).mp flags
      exact ⟨_, within.mem_readings (.inl rfl), query⟩
    | right within =>
      have query := (Rule.flags_hardcodedSql_iff settings known above within top).mp flags
      exact ⟨_, within.mem_readings (.inr rfl), query⟩
  · rintro ⟨reading, mem, query⟩
    obtain ⟨t, path, front, span, l, op, r, back, within, own | own, rfl⟩ := Node.exists_part_of_mem_readings .whole mem
    · obtain ⟨place, rfl⟩ := Node.exists_of_textOf? own
      exact reportsQuery_of_literal met within within.left top settings query
    · obtain ⟨place, rfl⟩ := Node.exists_of_textOf? own
      exact reportsQuery_of_literal met within within.right top settings query

theorem exists_stop_of_statement (d : Document) (span : Span) (e : Node) :
    ∃ s ∈ d.stops (.module [.exprStmt span e]), s.visit.node = e ∧
      ∀ span l op r slot rest, s.visit.ancestors ≠ ⟨.binOp span l op r, slot⟩ :: rest := by
  obtain ⟨u, there, node, -⟩ :=
    Walker.exists_stop_of_child (rfl : (Node.module [.exprStmt span e]).children[0]? = _) [] _
  obtain ⟨s, met, known, above⟩ := Walker.exists_stop_below _ _ _ u there 0 e none (by rw [node]; rfl)
  refine ⟨s, met, known, ?_⟩
  intro span l op r slot rest
  rw [above, node]
  simp

/-- A tree of operators is reported exactly if what is read from one of its literals looks like a query: as if all
together do and the first one is alone in its operator, and if one does by itself. -/
theorem reportsQuery_iff (met : s ∈ d.stops tree) {span : Span} {l op r : Node}
    (node : s.visit.node = .binOp span l op r)
    (top : ∀ span l op r slot rest, s.visit.ancestors ≠ ⟨.binOp span l op r, slot⟩ :: rest) (settings : Value) :
    (d.ReportsQuery tree s settings ↔
      ∃ reading ∈ Node.readings [] [] s.visit.node, Rule.looksLikeQuery (Segments.join [32] reading) = true) ∧
    (s.visit.node.Leads → Rule.looksLikeQuery (Segments.join [32] (Node.textsOf s.visit.node.operands)) = true →
      d.ReportsQuery tree s settings) ∧
    ∀ t ∈ Node.textsOf s.visit.node.operands, Rule.looksLikeQuery t = true → d.ReportsQuery tree s settings := by
  have reported := reportsQuery_iff_reading met node top settings
  refine ⟨reported, ?_, ?_⟩
  · intro leads query
    exact reported.mpr ⟨_, leads.mem_readings, query⟩
  · intro t listed query
    rw [node] at listed
    obtain ⟨_, reading⟩ := Node.exists_reading_of_mem listed
    exact reported.mpr ⟨_, node ▸ reading, Rule.looksLikeQuery_join query⟩

def sum (inner : Nat) (a b c : Node) : Node :=
  .binOp ⟨1, 0, 1, 26⟩ (.binOp ⟨1, 0, 1, inner⟩ a (.operator .add) b) (.operator .add) c

def literal (column endColumn : Nat) (t : String) : Node :=
  .constant ⟨1, column, 1, endColumn⟩ (.text (Text.ofString t))

def written (text : String) : Document :=
  let bytes := Utf8.encode text.toList
  { name := "./t.py", bytes, contents := some bytes, module := .ok "t" }

def interrupted : Node := sum 15 (literal 0 11 "select * ") (.name ⟨1, 14, 1, 15⟩ "x" .load) (literal 18 26 "from t")

theorem interrupted_reported : ∃ s ∈ (written "'select * ' + x + 'from t'\n").stops
      (.module [.exprStmt ⟨1, 0, 1, 26⟩ interrupted]), s.visit.node = interrupted ∧
    (written "'select * ' + x + 'from t'\n").ReportsQuery (.module [.exprStmt ⟨1, 0, 1, 26⟩ interrupted]) s .null := by
  obtain ⟨s, met, node, top⟩ :=
    exists_stop_of_statement (written "'select * ' + x + 'from t'\n") ⟨1, 0, 1, 26⟩ interrupted
  refine ⟨s, met, node, (reportsQuery_iff met node top .null).2.1 ?_ ?_⟩
  · rw [node]
    exact ⟨Text.ofString "select * ", _, _, _, _, _, _, _, .left .whole, .inl rfl, rfl, rfl⟩
  · rw [node]
    decide +kernel

/-- Literals that are added to each other are not read together. -/
theorem adjacent_unreported : ∃ tree s,
    Source.parse (written "'select * ' + 'from t' + x\n").bytes = .ok tree ∧
      s ∈ (written "'select * ' + 'from t' + x\n").stops tree ∧
      (∃ m ∈ s.visit.node.operands, m.textOf? = none) ∧
      Rule.looksLikeQuery (Segments.join [32] (Node.textsOf s.visit.node.operands)) = true ∧
      ¬ (written "'select * ' + 'from t' + x\n").ReportsQuery tree s .null := by
  obtain ⟨s, met, node, top⟩ := exists_stop_of_statement (written "'select * ' + 'from t' + x\n") ⟨1, 0, 1, 26⟩
    (sum 22 (literal 0 11 "select * ") (literal 14 22 "from t") (.name ⟨1, 25, 1, 26⟩ "x" .load))
  refine ⟨_, s, ?_, met, ?_⟩
  · cbv
  · rw [reportsQuery_iff_reading met node top, node]
    exact ⟨⟨.name ⟨1, 25, 1, 26⟩ "x" .load, by simp [sum, literal, Node.operands], rfl⟩,
      by decide +kernel, by decide +kernel⟩

end Document

namespace Node

/-- Each node is the child of the next one that its slot tells, and operators stand between operands. -/
def Linked : Node → List Ancestor → Prop
  | _, [] => True
  | n, ⟨p, slot⟩ :: rest => (∃ next, p.children[slot]? = some (n, next)) ∧
    (∀ span l op r, p = binOp span l op r → ∃ o, op = operator o) ∧ p.Linked rest

variable {e n : Node} {path outer : List Ancestor} {front back : List Node}

theorem exists_part (linked : n.Linked path) (operand : ∀ o, n ≠ operator o) : ∃ e inner outer front back,
    path = inner ++ outer ∧ Part e inner front n back ∧
      ∀ span l op r slot rest, outer ≠ ⟨binOp span l op r, slot⟩ :: rest := by
  induction path generalizing n with
  | nil => exact ⟨n, [], [], [], [], rfl, .whole, nofun⟩
  | cons a rest ih =>
    obtain ⟨⟨_, child⟩, formed, above⟩ := linked
    by_cases kind : ∃ span l op r, a.node = binOp span l op r
    · obtain ⟨span, l, op, r, same⟩ := kind
      obtain ⟨p, slot⟩ := a
      cases same
      obtain ⟨o, rfl⟩ := formed _ _ _ _ rfl
      obtain ⟨e, inner, outer, front, back, rfl, part, top⟩ := ih above nofun
      rcases slot with _ | _ | _ | slot <;> cases child
      · exact ⟨e, _, outer, _, _, rfl, part.left, top⟩
      · exact absurd rfl (operand o)
      · exact ⟨e, _, outer, _, _, rfl, part.right, top⟩
    · refine ⟨n, [], a :: rest, [], [], rfl, .whole, fun span l op r slot rest same => kind ⟨span, l, op, r, ?_⟩⟩
      cases same
      rfl

theorem Part.exists_root (part : Part e path front n back) :
    path = [] ∧ n = e ∨ ∃ span l op r, e = binOp span l op r := by
  induction part with
  | whole => exact .inl ⟨rfl, rfl⟩
  | left within ih | right within ih => exact .inr (ih.elim (fun own => ⟨_, _, _, _, own.2.symm⟩) id)

theorem Part.chainRoot_eq (top : ∀ span l op r slot rest, outer ≠ ⟨binOp span l op r, slot⟩ :: rest)
    (part : Part e path front n back) : n.chainRoot (path ++ outer) = e := by
  induction part with
  | whole =>
    rw [nil_append, chainRoot.eq_def]
    split
    · exact absurd rfl (top _ _ _ _ _ _)
    · rfl
  | left within ih | right within ih => exact ih

end Node

end SourceAudit
