import Mathlib
import SourceAudit.Tree.Lines

/-! Lines of nodes without a place of their own, from the first to the last line on which a part begins. -/

namespace SourceAudit

open List

namespace Node

/-- The node or a part of it begins on the line. -/
inductive Begins : Node → Nat → Prop
  | own {n : Node} {l : Nat} (line : n.line? = some l) : n.Begins l
  | part {n : Node} {l : Nat} {p : Node × Option Node} (child : p ∈ n.children) (within : p.1.Begins l) : n.Begins l

/-- The parts of a node outside its bodies. -/
def headParts (n : Node) : List (Node × Option Node) := n.headGroups.flatMap withNext

/-- A range of lines reaches from the least to the greatest line with a property. -/
def Hulls (p : Nat → Prop) : Option (Nat × Nat) → Prop
  | none => ∀ l, ¬ p l
  | some (first, last) => p first ∧ p last ∧ ∀ l, p l → first ≤ l ∧ l ≤ last

variable {n c : Node} {next behind : Option Node} {s : Span} {p q : Nat → Prop} {e d : Option (Nat × Nat)}

theorem begins_iff {l : Nat} : n.Begins l ↔ n.line? = some l ∨ ∃ p ∈ n.children, p.1.Begins l := by
  constructor
  · rintro (line | ⟨child, within⟩)
    · exact .inl line
    · exact .inr ⟨_, child, within⟩
  · rintro (line | ⟨p, child, within⟩)
    · exact .own line
    · exact .part child within

theorem Hulls.or (left : Hulls p e) (right : Hulls q d) : Hulls (fun l => p l ∨ q l) (hull e d) := by
  rcases e with _ | ⟨a, b⟩ <;> rcases d with _ | ⟨c, d⟩ <;> simp only [Hulls, hull] at *
  · grind
  · grind
  · grind
  · grind

theorem Hulls.parts {parts : List (Node × Option Node)} (each : ∀ p ∈ parts, Hulls p.1.Begins p.1.extent)
    (start : Hulls p e) :
    Hulls (fun l => p l ∨ ∃ c ∈ parts, c.1.Begins l) (parts.foldl (fun e c => hull e c.1.extent) e) := by
  induction parts generalizing p e with
  | nil => simpa using start
  | cons c parts ih =>
    obtain ⟨here, later⟩ := forall_mem_cons.mp each
    have all := ih later (start.or here)
    simpa [or_assoc] using all

theorem extent_eq (n : Node) :
    n.extent = n.children.foldl (fun e c => hull e c.1.extent) (n.line?.map fun l => (l, l)) := by
  rw [extent]
  exact foldl_attach (f := fun e (p : Node × Option Node) => hull e p.1.extent)

theorem hulls_extent (n : Node) : Hulls n.Begins n.extent := by
  have own : Hulls (fun l => n.line? = some l) (n.line?.map fun l => (l, l)) := by cases n.line? <;> simp [Hulls]
  rw [extent_eq, funext fun l => propext (begins_iff (n := n) (l := l))]
  refine own.parts fun p child => ?_
  have smaller := sizeOf_lt_of_mem_children child
  exact hulls_extent p.1
termination_by sizeOf n

theorem hulls_headParts (n : Node) : Hulls (fun l => ∃ c ∈ n.headParts, c.1.Begins l)
    (n.headParts.foldl (fun e p => hull e p.1.extent) none) := by
  have nothing : Hulls (fun _ => False) none := fun _ => id
  simpa using nothing.parts fun p (_ : p ∈ n.headParts) => p.1.hulls_extent

/-- The lines of a node without a place, with no place behind it, hold all lines of a part exactly if one of its parts,
or a part of such a part, begins on the last line of that part or below. -/
theorem lines_cover_iff (unplaced : n.span? = none) (alone : next.bind line? = none) (part : (c, behind) ∈ n.headParts)
    (placed : c.span? = some s) :
    (∀ l, s.line ≤ l → l ≤ s.endLine → l ∈ n.lines next) ↔ ∃ p ∈ n.headParts, ∃ l, p.1.Begins l ∧ s.endLine ≤ l := by
  have hulls := n.hulls_headParts
  have begins : c.Begins s.line := .own (by rw [line?, placed]; rfl)
  have found : n.headRange = (n.headParts.foldl (fun e p => hull e p.1.extent) none).getD (0, 1) := rfl
  simp only [lines, unplaced, partLines, reaching, alone, found]
  generalize n.headParts.foldl (fun e p => hull e p.1.extent) none = range at hulls ⊢
  rcases range with _ | ⟨_, last⟩
  · exact absurd ⟨_, part, begins⟩ (hulls s.line)
  · obtain ⟨-, ⟨p, listed, greatest⟩, between⟩ := hulls
    have start := between s.line ⟨_, part, begins⟩
    simp only [Option.getD_some, linesBetween, mem_range'_1]
    constructor
    · intro covered
      obtain many | one := Nat.le_total s.line s.endLine
      · have bound := covered _ many (Nat.le_refl _)
        exact ⟨p, listed, last, greatest, by omega⟩
      · exact ⟨_, part, s.line, begins, one⟩
    · rintro ⟨p, listed, l, below, reached⟩ k low high
      have stop := between l ⟨p, listed, below⟩
      omega

def defaulting (line : Nat) : Node :=
  .arguments [] [.arg ⟨1, 6, 1, 7⟩ "a" none, .arg ⟨1, 9, 1, 10⟩ "b" none] none [] [] none
    [.constant ⟨1, 8, 2, 5⟩ (.text "/tmp"), .name ⟨line, 9, line, 10⟩ "c" .load]

theorem lines_cover_defaulting : 1 ∈ (defaulting 2).lines none ∧ 2 ∈ (defaulting 2).lines none := by
  have covered : ∀ l, 1 ≤ l → l ≤ 2 → l ∈ (defaulting 2).lines none :=
    (lines_cover_iff (s := ⟨1, 8, 2, 5⟩) rfl rfl (.tail _ (.tail _ (.head _))) rfl).mpr
      ⟨_, .tail _ (.tail _ (.tail _ (.head _))), 2, .own rfl, Nat.le_refl 2⟩
  exact ⟨covered 1 (by decide) (by decide), covered 2 (by decide) (by decide)⟩

/-- Line 2, where the first default value ends, is not among the lines of the parameters. -/
theorem default_end_missed : ∃ c behind, (c, behind) ∈ (defaulting 1).headParts ∧ c.span? = some ⟨1, 8, 2, 5⟩ ∧
    (defaulting 1).lines none = [1] :=
  ⟨_, _, .tail _ (.tail _ (.head _)), rfl, by decide +kernel⟩

/-! ### Noted lines -/

variable {tree : Node} {a : List Nat}

theorem at?_concat {i : Nat} : tree.at? (a ++ [i]) = (tree.at? a).bind fun p => p.1.children[i]? := by
  simp [at?, foldlM_append]

theorem map_fst_parts : (n.parts false).map Prod.fst = n.children := by simp [parts, map_take]

theorem map_fst_parts_emptied (unplaced : n.span? = none) : (n.parts true).map Prod.fst = n.headParts := by
  rw [parts, map_take, zipIdx_map_fst]
  refine (prefix_iff_eq_take.mp ?_).symm
  unfold children
  cases n with
  | module | operator => exact nil_prefix
  | matchCase pattern guard body => exact ⟨withNext (body.map some), by simp [headGroups, groups]⟩
  | comprehension | arguments | withItem => exact prefix_rfl
  | _ => cases unplaced

def holdsUnplaced : Node → Nat → Bool
  | withStmt .., 0 | listComp .., 1 | setComp .., 1 | generatorExp .., 1 | dictComp .., 2 | matchStmt .., 1
  | functionDef .., 0 | lambda .., 0 | boolOp .., 0 | binOp .., 1 | unaryOp .., 0 | augAssign .., 1 | compare .., 1
  | attr .., 1 | subscript .., 2 | starred .., 1 | name .., 0 | list .., 1 | tuple .., 1 => true
  | _, _ => false

/-- In each group of children all parts have a place or none has, as the grammar says. -/
def isGrammatical (n : Node) : Bool :=
  (n.groups.zipIdx.all fun (group, k) => group.all (·.all fun c => c.span?.isNone == n.holdsUnplaced k)) &&
    n.children.attach.all fun ⟨(c, _), _⟩ => c.isGrammatical
termination_by sizeOf n
decreasing_by rename_i present; exact sizeOf_lt_of_mem_children present

theorem mem_of_next {group : List (Option Node)} (present : (n, some c) ∈ withNext group) : some c ∈ group := by
  fun_induction withNext group with
  | case1 => cases present
  | case2 rest ih => exact mem_cons_of_mem _ (ih present)
  | case3 first rest ih =>
    rcases mem_cons.mp present with same | later
    · exact mem_cons_of_mem _ (mem_of_head? (Option.join_eq_some_iff.mp (Prod.mk.inj same).2.symm))
    · exact mem_cons_of_mem _ (ih later)

theorem isGrammatical_child (grammatical : n.isGrammatical = true) (child : (c, next) ∈ n.children) :
    c.isGrammatical = true ∧ (c.span? = none → next.bind line? = none) := by
  rw [isGrammatical, Bool.and_eq_true] at grammatical
  refine ⟨all_eq_true.mp grammatical.2 ⟨_, child⟩ (mem_attach _ _), fun unplaced => ?_⟩
  obtain ⟨group, listed, inside⟩ := mem_flatMap.mp child
  obtain ⟨k, there⟩ := getElem?_of_mem listed
  have each {d : Node} (present : some d ∈ group) : d.span?.isNone = n.holdsUnplaced k := by
    simpa using all_eq_true.mp (all_eq_true.mp grammatical.1 (group, k)
      (mk_mem_zipIdx_iff_getElem?.mpr there)) _ present
  cases next with
  | none => rfl
  | some d =>
    have also := (each (mem_of_next inside)).trans (each (mem_of_mem_withNext inside)).symm
    rw [unplaced] at also
    simp [line?, Option.isNone_iff_eq_none.mp also]

theorem next_unplaced (grammatical : tree.isGrammatical = true) (found : tree.at? a = some (n, next)) :
    n.isGrammatical = true ∧ (n.span? = none → next.bind line? = none) := by
  induction a using reverseRecOn generalizing n next with
  | nil =>
    cases found
    exact ⟨grammatical, fun _ => rfl⟩
  | append_singleton a i ih =>
    rw [at?_concat] at found
    obtain ⟨p, above, child⟩ := Option.bind_eq_some_iff.mp found
    exact isGrammatical_child (ih above).1 (mem_of_getElem? child)

end Node

/-- What is answered without notes, and with no regard to neighbours. -/
def LineQuestion.plain (tree : Node) (q : LineQuestion) : Option (Option (Nat × Nat) ⊕ List Nat) :=
  (tree.at? q.address).map fun p => if q.whole then .inl p.1.extent else .inr (p.1.lines none)

namespace Notes

def rangeOf (n : Node) (whole : Bool) : Option (Nat × Nat) := if whole then n.extent else n.headRange

/-- What is noted is what would be found, and the nodes whose bodies are out are known. -/
structure Sound (tree : Node) (out : List Nat → Bool) (s : Notes) : Prop where
  known : ∀ ⦃whole a p v⦄, tree.at? a = some p → s.known ⟨whole, a⟩ = some v → v = rangeOf p.1 whole
  emptied : s.emptied = out

/-- The answer of a step is right, and it leaves right notes and takes out no bodies. -/
structure Right {α : Type} (tree : Node) (out : List Nat → Bool) (right : α) (r : α × Notes) : Prop where
  value : r.1 = right
  sound : r.2.Sound tree out

variable {tree n : Node} {next : Option Node} {s : Notes} {a : List Nat} {out : List Nat → Bool}

theorem Sound.put {whole : Bool} (sound : s.Sound tree out) (found : tree.at? a = some (n, next)) :
    (s.put ⟨whole, a⟩ (rangeOf n whole)).Sound tree out := by
  refine ⟨fun all b p v there here => ?_, sound.emptied⟩
  dsimp only [Notes.put] at here
  split at here
  · rename_i same
    cases same
    cases found.symm.trans there
    exact (Option.some.inj here).symm
  · exact sound.known there here

def addPart (a : List Nat) (r : Option (Nat × Nat) × Notes) (p : (Node × Option Node) × Nat) :
    Option (Nat × Nat) × Notes := (p.1.1.rangeAt (a ++ [p.2]) true r.2).map (Node.hull r.1) id

theorem right_parts {parts : List ((Node × Option Node) × Nat)}
    (each : ∀ p ∈ parts, ∀ t : Notes, t.Sound tree out →
      Right tree out (rangeOf p.1.1 true) (p.1.1.rangeAt (a ++ [p.2]) true t))
    (e : Option (Nat × Nat)) (sound : s.Sound tree out) :
    Right tree out ((parts.map Prod.fst).foldl (fun e c => Node.hull e c.1.extent) e)
      (parts.foldl (addPart a) (e, s)) := by
  induction parts generalizing e s with
  | nil => exact ⟨rfl, sound⟩
  | cons p rest ih =>
    obtain ⟨here, later⟩ := forall_mem_cons.mp each
    obtain ⟨value, still⟩ := here s sound
    rw [map_cons, foldl_cons, foldl_cons, show p.1.1.extent = _ from value.symm]
    exact ih later _ still

-- Bodies are taken out of the node and of nodes above only: those below have all their parts.
theorem right_rangeAt {n : Node} {next : Option Node} {a : List Nat} {whole : Bool} {s : Notes} {out : List Nat → Bool}
    (found : tree.at? a = some (n, next)) (headed : whole = false → n.span? = none)
    (full : ∀ b, a.length ≤ b.length → out b = false) (sound : s.Sound tree out) :
    Right tree out (rangeOf n whole) (n.rangeAt a whole s) := by
  let here (b : List Nat) : Bool := if b = a then !whole else out b
  have each : ∀ p ∈ n.parts !whole, ∀ t : Notes, t.Sound tree here →
      Right tree here (rangeOf p.1.1 true) (p.1.1.rangeAt (a ++ [p.2]) true t) := by
    intro p listed t still
    have there := mk_mem_zipIdx_iff_getElem?.mp (mem_of_mem_take listed)
    have smaller := Node.sizeOf_lt_of_mem_children (mem_of_getElem? there)
    have child : tree.at? (a ++ [p.2]) = some p.1 := by rw [Node.at?_concat, found]; exact there
    refine right_rangeAt child nofun (fun b below => ?_) still
    rw [length_append, length_singleton] at below
    exact (if_neg fun same => by rw [same] at below; omega).trans (full b (by omega))
  have begun : (if whole then s else s.empty a true).Sound tree here := by
    cases whole with
    | true =>
      refine ⟨sound.known, sound.emptied.trans (funext fun b => ?_)⟩
      dsimp only [here]
      split
      · rw [‹b = a›, full a (Nat.le_refl _)]
        rfl
      · rfl
    | false => exact ⟨sound.known, by rw [if_neg nofun, empty, sound.emptied]; rfl⟩
  rw [Node.rangeAt]
  cases noted : s.known ⟨whole, a⟩ with
  | some e => exact ⟨sound.known found noted, sound⟩
  | none =>
    have now : (if whole then s else s.empty a true).emptied a = !whole := (congrFun begun.emptied a).trans (if_pos rfl)
    dsimp only
    erw [foldl_attach (f := addPart a), now]
    obtain ⟨value, still⟩ := right_parts each (n.line?.map fun l => (l, l)) begun
    generalize foldl _ (_, _) _ = r at value still ⊢
    have right : (if whole then r.1 else some (r.1.getD (0, 1))) = rangeOf n whole := by
      cases whole with
      | true =>
        rw [value, Bool.not_true, Node.map_fst_parts, ← Node.extent_eq]
        rfl
      | false =>
        rw [value, Bool.not_false, Node.map_fst_parts_emptied (headed rfl), Node.line?, headed rfl]
        rfl
    rw [right]
    refine ⟨rfl, Sound.put ⟨still.known, funext fun b => ?_⟩ found⟩
    refine (if_congr Iff.rfl (congrFun sound.emptied a) (congrFun still.emptied b)).trans ?_
    by_cases same : b = a
    · rw [if_pos same, same]
    · rw [if_neg same]
      exact if_neg same
termination_by sizeOf n

theorem right_answer (grammatical : tree.isGrammatical = true) (sound : s.Sound tree fun _ => false) (q : LineQuestion) :
    Right tree (fun _ => false) (q.plain tree) (s.answer tree q) := by
  unfold answer LineQuestion.plain
  cases found : tree.at? q.address with
  | none => exact ⟨rfl, sound⟩
  | some place =>
    obtain ⟨n, next⟩ := place
    obtain ⟨_ | _, a⟩ := q
    · unfold Node.linesAt
      dsimp only
      cases placed : n.span? with
      | some p => exact ⟨by simp [Node.lines, placed], sound⟩
      | none =>
        have all : Right tree _ (rangeOf n false) _ := right_rangeAt found (fun _ => placed) (fun _ _ => rfl) sound
        have alone : Node.reaching (if (s.known ⟨false, a⟩).isSome then none else next) = Node.reaching none := by
          split
          · rfl
          · unfold Node.reaching
            rw [(Node.next_unplaced grammatical found).2 placed]
            rfl
        have value : Node.reaching none ((n.rangeAt a false s).1.getD (0, 1)) = n.lines none := by
          rw [all.value, Node.lines, placed]
          rfl
        rw [alone]
        exact ⟨congrArg (some ∘ Sum.inr) value, all.sound⟩
    · have all : Right tree _ (rangeOf n true) _ := right_rangeAt found nofun (fun _ _ => rfl) sound
      exact ⟨congrArg (some ∘ Sum.inl) all.value, all.sound⟩

theorem right_answers (grammatical : tree.isGrammatical = true) (sound : s.Sound tree fun _ => false)
    (questions : List LineQuestion) :
    Right tree (fun _ => false) (questions.map (·.plain tree)) (s.answers tree questions) := by
  induction questions generalizing s with
  | nil => exact ⟨rfl, sound⟩
  | cons q rest ih =>
    obtain ⟨value, still⟩ := right_answer grammatical sound q
    obtain ⟨values, last⟩ := ih still
    exact ⟨congrArg₂ cons value values, last⟩

/-- Notes change no answer, whatever was asked before, and leave all nodes as they were. What would be found without
them is the first and the last line on which the node or a part of it begins; for a node without a place, those of its
parts outside the bodies, or 0 and 1. -/
theorem answers_invisible (grammatical : tree.isGrammatical = true) (questions : List LineQuestion) :
    (({} : Notes).answers tree questions).1 = questions.map (·.plain tree) ∧
      (({} : Notes).answers tree questions).2.emptied = (fun _ => false) ∧
      ∀ n : Node, Node.Hulls n.Begins n.extent ∧
        (∀ p, n.span? = some p → n.lines none = Node.linesBetween p.line p.endLine) ∧
        (n.span? = none → ∃ e, Node.Hulls (fun l => ∃ c ∈ n.headParts, c.1.Begins l) e ∧
          n.lines none = Node.linesBetween (e.getD (0, 1)).1 (e.getD (0, 1)).2) := by
  obtain ⟨values, sound⟩ := right_answers grammatical (s := {}) ⟨fun _ _ _ _ _ => nofun, rfl⟩ questions
  refine ⟨values, sound.emptied, fun n =>
    ⟨n.hulls_extent, fun p placed => ?_, fun unplaced => ⟨_, n.hulls_headParts, ?_⟩⟩⟩
  · rw [Node.lines, placed]
  · rw [Node.lines, unplaced]
    rfl

theorem answers_invisible_defaulting :
    (({} : Notes).answers (.defaulting 2) [⟨true, [2]⟩, ⟨false, []⟩, ⟨true, []⟩, ⟨false, []⟩]).1 =
      [some (.inl (some (1, 1))), some (.inr [1, 2]), some (.inl (some (1, 2))), some (.inr [1, 2])] := by
  rw [(answers_invisible (by decide +kernel) _).1]
  decide +kernel

end Notes

end SourceAudit
