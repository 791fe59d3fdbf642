import SourceAudit.Proofs.Bindings
import SourceAudit.Proofs.Segments

/-! The walk meets every node below the root once, parents first and neighbours in order, and what it knows at a node
depends on the place of the node alone. -/

namespace SourceAudit

open List

namespace Node

def trail : Node → List Nat → Option (List Node)
  | _, [] => some []
  | n, slot :: rest =>
    match n.children[slot]? with
    | some (c, _) => (c.trail rest).map (c :: ·)
    | none => none

/-- No name that the node or a node below it adds to the scope holds a dot. -/
inductive Plain : Node → Prop where
  | intro (n : Node) (own : ∀ name, n.scopeName? = some name → '.' ∉ name.toList)
      (below : ∀ c next, (c, next) ∈ n.children → Plain c) : Plain n

theorem Plain.own {n : Node} (plain : n.Plain) {name : String} (named : n.scopeName? = some name) :
    '.' ∉ name.toList := by
  cases plain with
  | intro _ own _ => exact own name named

theorem Plain.child {n c : Node} {next : Option Node} (plain : n.Plain) (present : (c, next) ∈ n.children) : c.Plain := by
  cases plain with
  | intro _ _ below => exact below c next present

theorem plain_of_children {n : Node} {items : List (Node × Option Node)} (parts : n.children = items)
    (own : ∀ name, n.scopeName? = some name → '.' ∉ name.toList) (below : ∀ item ∈ items, item.1.Plain) : n.Plain := by
  refine .intro n own fun c next present => ?_
  exact below (c, next) (parts ▸ present)

theorem induction_on_children {motive : Node → Prop}
    (step : ∀ n, (∀ c next, (c, next) ∈ n.children → motive c) → motive n) (n : Node) : motive n := by
  induction size : sizeOf n using Nat.strongRecOn generalizing n with
  | ind size ih =>
    apply step
    intro c next present
    have smaller := sizeOf_lt_of_mem_children present
    exact ih (sizeOf c) (by omega) c rfl

theorem visitsBelow_eq (ancestors : List Ancestor) (depth : Nat) (scope : String) (n : Node) :
    n.visitsBelow ancestors depth scope = n.children.zipIdx.flatMap fun ((c, next), slot) =>
      ⟨c, next, ⟨n, slot⟩ :: ancestors, depth, c.scopeIn scope⟩ ::
        c.visitsBelow (⟨n, slot⟩ :: ancestors) (depth + 1) (c.scopeIn scope) := by
  rw [visitsBelow]
  conv => rhs; rw [← attach_map_subtype_val n.children, zipIdx_map, flatMap_map]
  rfl

end Node

def Visit.position (v : Visit) : List Nat := (v.ancestors.map Ancestor.slot).reverse

namespace Node

/-- How a visit below a node lies: the way there, and what depth and scope it must have. -/
structure Lies (n : Node) (ancestors : List Ancestor) (depth : Nat) (scope : String) (way : List Nat)
    (v : Visit) : Prop where
  position : v.position = (ancestors.map Ancestor.slot).reverse ++ way
  trail : ∃ trail, n.trail way = some trail ∧ trail.getLast? = some v.node ∧ v.depth + 1 = depth + trail.length ∧
    v.scope = (trail.filterMap scopeName?).foldl Scope.join scope

theorem foldl_scopeIn (scope : String) (c : Node) (rest : List Node) :
    ((c :: rest).filterMap scopeName?).foldl Scope.join scope =
      (rest.filterMap scopeName?).foldl Scope.join (c.scopeIn scope) := by
  cases named : c.scopeName? with
  | none => simp [scopeIn, named]
  | some name => simp [scopeIn, named]

theorem lies_of_mem_visitsBelow (n : Node) : ∀ (ancestors : List Ancestor) (depth : Nat) (scope : String),
    ∀ v ∈ n.visitsBelow ancestors depth scope, ∃ slot rest, n.Lies ancestors depth scope (slot :: rest) v := by
  induction n using induction_on_children with
  | step n ih =>
    intro ancestors depth scope v met
    rw [visitsBelow_eq, mem_flatMap] at met
    obtain ⟨⟨⟨c, next⟩, slot⟩, mem, here⟩ := met
    have child : n.children[slot]? = some (c, next) := mem_zipIdx_iff_getElem?.mp mem
    rcases mem_cons.mp here with rfl | inner
    · refine ⟨slot, [], ⟨by simp [Visit.position], [c], ?_, by simp, by simp, ?_⟩⟩
      · simp [trail, child]
      · rw [foldl_scopeIn]
        rfl
    · have present : (c, next) ∈ n.children := mem_of_getElem? child
      obtain ⟨s, r, lies⟩ := ih c next present _ _ _ v inner
      obtain ⟨path, known, last, _, named⟩ := lies.trail
      refine ⟨slot, s :: r, ⟨by simpa using lies.position, c :: path, ?_, ?_, ?_, ?_⟩⟩
      · rw [trail, child]
        simp [known]
      · cases path with
        | nil => simp at last
        | cons head tail => simpa using last
      · simp only [length_cons]
        omega
      · rw [foldl_scopeIn]
        exact named

theorem exists_visit_of_trail (n : Node) : ∀ (ancestors : List Ancestor) (depth : Nat) (scope : String)
    (slot : Nat) (rest : List Nat), (n.trail (slot :: rest)).isSome → ∃ v ∈ n.visitsBelow ancestors depth scope,
      v.position = (ancestors.map Ancestor.slot).reverse ++ slot :: rest := by
  induction n using induction_on_children with
  | step n ih =>
    intro ancestors depth scope slot rest leads
    cases child : n.children[slot]? with
    | none => simp [trail, child] at leads
    | some item =>
      obtain ⟨c, next⟩ := item
      have mem : ((c, next), slot) ∈ n.children.zipIdx := mem_zipIdx_iff_getElem?.mpr child
      cases rest with
      | nil =>
        refine ⟨⟨c, next, ⟨n, slot⟩ :: ancestors, depth, c.scopeIn scope⟩, ?_, by simp [Visit.position]⟩
        rw [visitsBelow_eq]
        exact mem_flatMap.mpr ⟨_, mem, mem_cons_self⟩
      | cons s r =>
        have inside : (c.trail (s :: r)).isSome := by simpa [trail, child] using leads
        have present : (c, next) ∈ n.children := mem_of_getElem? child
        obtain ⟨v, met, position⟩ := ih c next present (⟨n, slot⟩ :: ancestors) (depth + 1) (c.scopeIn scope) s r inside
        refine ⟨v, ?_, by simpa using position⟩
        rw [visitsBelow_eq]
        exact mem_flatMap.mpr ⟨_, mem, mem_cons_of_mem _ met⟩

theorem position_of_mem_child {n c : Node} {next : Option Node} {slot depth deeper : Nat}
    {ancestors : List Ancestor} {scope inner : String} {v : Visit}
    (met : v ∈ (⟨c, next, ⟨n, slot⟩ :: ancestors, depth, scope⟩ : Visit) ::
      c.visitsBelow (⟨n, slot⟩ :: ancestors) deeper inner) :
    ∃ rest, v.position = (ancestors.map Ancestor.slot).reverse ++ slot :: rest := by
  rcases mem_cons.mp met with rfl | below
  · exact ⟨[], by simp [Visit.position]⟩
  · obtain ⟨s, r, lies⟩ := lies_of_mem_visitsBelow c _ _ _ v below
    exact ⟨s :: r, by simpa using lies.position⟩

theorem visitsBelow_ordered (n : Node) : ∀ (ancestors : List Ancestor) (depth : Nat) (scope : String),
    (n.visitsBelow ancestors depth scope).Pairwise fun u v => u.position < v.position := by
  induction n using induction_on_children with
  | step n ih =>
    intro ancestors depth scope
    rw [visitsBelow_eq, pairwise_flatMap]
    constructor
    · rintro ⟨⟨c, next⟩, slot⟩ mem
      have child : n.children[slot]? = some (c, next) := mem_zipIdx_iff_getElem?.mp mem
      refine pairwise_cons.mpr ⟨?_, ih c next (mem_of_getElem? child) _ _ _⟩
      intro v inner
      obtain ⟨s, r, lies⟩ := lies_of_mem_visitsBelow c _ _ _ v inner
      rw [lies.position]
      simp only [Visit.position, map_cons, reverse_cons, append_assoc, singleton_append]
      exact append_left_lt (by simp)
    · -- two children: the first number in which the positions differ is that of the child
      have numbered : n.children.zipIdx.Pairwise fun a b => a.2 < b.2 := by
        rw [← pairwise_map (f := Prod.snd), zipIdx_map_snd]
        exact pairwise_lt_range'
      refine numbered.imp ?_
      rintro ⟨⟨c, next⟩, slot⟩ ⟨⟨c', next'⟩, slot'⟩ before u first v second
      obtain ⟨r, hu⟩ := position_of_mem_child first
      obtain ⟨_, hv⟩ := position_of_mem_child second
      rw [hu, hv]
      exact append_left_lt (cons_lt_cons_iff.mpr (Or.inl before))

end Node

theorem Scope.outer_join (scope : String) {name : String} (plain : '.' ∉ name.toList) :
    outer (join scope name) = scope := by
  have apart : (join scope name).toList.reverse =
      name.toList.reverse ++ '.' :: scope.toList.reverse := by
    simp [join]
  have cutting : Segments.cutLast '.' (join scope name).toList =
      some (scope.toList, name.toList) := by
    rw [Segments.cutLast, apart, Segments.cut_append (by simpa using plain)]
    simp
  simp [outer, split, cutting]

namespace Walker

theorem leave_enter {c : Node} (plain : c.Plain) (w : Walker) (b : Bindings) :
    leave c { w.enter c with bindings := b } = { w with bindings := b } := by
  cases named : c.scopeName? with
  | none => simp [leave, enter, Node.scopeIn, named]
  | some name =>
    have back := Scope.outer_join w.scope (plain.own named)
    simp [leave, enter, Node.scopeIn, named, back]

theorem along_map {α β : Type} (f : α → β) (visit : β → Walker → List Stop × Walker) (items : List α)
    (w : Walker) : along visit (items.map f) w = along (fun a => visit (f a)) items w := by
  induction items generalizing w with
  | nil => rfl
  | cons a rest ih => simp only [map_cons, along, ih]

def visitChild (ancestors : List Ancestor) (n : Node) (item : (Node × Option Node) × Nat) (w : Walker) :
    List Stop × Walker :=
  let around := ⟨n, item.2⟩ :: ancestors
  let inside := w.enter item.1.1
  let inner := below around item.1.1 inside
  (⟨⟨item.1.1, item.1.2, around, w.depth, inside.scope⟩, inside.bindings⟩ :: inner.1, inner.2.leave item.1.1)

theorem below_eq (ancestors : List Ancestor) (n : Node) (w : Walker) :
    below ancestors n w = along (visitChild ancestors n) n.children.zipIdx w := by
  rw [below]
  conv => rhs; rw [← attach_map_subtype_val n.children, zipIdx_map, along_map]
  rfl

end Walker

namespace Stop

theorem walk_append (b : Bindings) (first second : List Visit) : walk b (first ++ second) =
      ((walk b first).1 ++ (walk (walk b first).2 second).1, (walk (walk b first).2 second).2) := by
  induction first generalizing b with
  | nil => rfl
  | cons v vs ih => simp [walk, ih]

theorem map_visit_walk (b : Bindings) (visits : List Visit) : (walk b visits).1.map Stop.visit = visits := by
  induction visits generalizing b with
  | nil => rfl
  | cons v vs ih => simp [walk, ih]

theorem bindings_walk {b : Bindings} {visits : List Visit} {before later : List Stop} {s : Stop}
    (split : (walk b visits).1 = before ++ s :: later) :
    s.bindings = ((before ++ [s]).map fun u => u.visit.node).foldl Bindings.after b := by
  induction visits generalizing b before with
  | nil => simp [walk] at split
  | cons v vs ih =>
    cases before with
    | nil =>
      obtain ⟨rfl, -⟩ := cons_eq_cons.mp split
      rfl
    | cons first rest =>
      obtain ⟨rfl, tail⟩ := cons_eq_cons.mp split
      simpa using ih tail

end Stop

theorem Walker.below_eq_walk (n : Node) : ∀ (ancestors : List Ancestor) (w : Walker), n.Plain →
    below ancestors n w = ((Stop.walk w.bindings (n.visitsBelow ancestors w.depth w.scope)).1,
        { w with bindings := (Stop.walk w.bindings (n.visitsBelow ancestors w.depth w.scope)).2 }) := by
  induction n using Node.induction_on_children with
  | step n ih =>
    intro ancestors w plain
    rw [below_eq, Node.visitsBelow_eq]
    have members : ∀ item ∈ n.children.zipIdx, item.1 ∈ n.children := by
      rintro ⟨item, slot⟩ mem
      exact mem_of_getElem? (mem_zipIdx_iff_getElem?.mp mem)
    -- on the children that are left; depth and scope are the same before each of them
    generalize n.children.zipIdx = items at members
    induction items generalizing w with
    | nil => rfl
    | cons item rest later =>
      obtain ⟨⟨c, next⟩, slot⟩ := item
      have present : (c, next) ∈ n.children := members _ mem_cons_self
      have pure := plain.child present
      have inner := ih c next present (⟨n, slot⟩ :: ancestors) (w.enter c) pure
      have back := leave_enter pure w
        (Stop.walk (w.enter c).bindings
          (c.visitsBelow (⟨n, slot⟩ :: ancestors) (w.enter c).depth (w.enter c).scope)).2
      simp only [along, visitChild, inner, back]
      rw [later _ fun item mem => members item (mem_cons_of_mem _ mem)]
      simp only [flatMap_cons, Stop.walk_append, Stop.walk, enter, cons_append]

/-- The stops of a walk over a tree, and the walker at its end, as places in the tree demand them. -/
structure IsWalk (tree : Node) (start : Walker) (stops : List Stop) (last : Walker) : Prop where
  /-- An enclosing node comes first, and neighbours in order; so no position comes twice. -/
  ordered : stops.Pairwise fun s u => s.visit.position < u.visit.position
  /-- There is a stop at every node below the root. -/
  complete : ∀ way, (∃ s ∈ stops, s.visit.position = way) ↔ way ≠ [] ∧ (tree.trail way).isSome
  /-- Node, depth and scope of a stop are given by the nodes on the way to it. -/
  placed : ∀ s ∈ stops, ∃ trail, tree.trail s.visit.position = some trail ∧
    trail.getLast? = some s.visit.node ∧ s.visit.depth + 1 = start.depth + trail.length ∧
    s.visit.scope = (trail.filterMap Node.scopeName?).foldl Scope.join start.scope
  /-- The bindings at a stop are those of all imports up to it. -/
  bound : ∀ before s later, stops = before ++ s :: later →
    s.bindings = ((before ++ [s]).map fun u => u.visit.node).foldl Bindings.after start.bindings
  /-- Every import counts, and of equal local names the last one. -/
  known : ∀ before s later, stops = before ++ s :: later →
    start.bindings.Extends ((before ++ [s]).flatMap fun u => u.visit.node.imported)
      ((before ++ [s]).flatMap fun u => u.visit.node.renamings) s.bindings
  depth : last.depth = start.depth
  scope : last.scope = start.scope

namespace Walker

/-- What the walker knows at a node depends on its place alone, and it comes back as it went. -/
theorem below_isWalk {tree : Node} (plain : tree.Plain) (start : Walker) :
    IsWalk tree start (below [] tree start).1 (below [] tree start).2 := by
  have walked := below_eq_walk tree [] start plain
  generalize visits : tree.visitsBelow [] start.depth start.scope = met at walked
  have met_iff (v : Visit) : v ∈ met ↔ ∃ s ∈ (Stop.walk start.bindings met).1, s.visit = v := by
    rw [← mem_map, Stop.map_visit_walk]
  have fold : ∀ before s later, (Stop.walk start.bindings met).1 = before ++ s :: later →
      s.bindings = ((before ++ [s]).map fun u => u.visit.node).foldl Bindings.after start.bindings :=
    fun before s later split => Stop.bindings_walk split
  rw [walked]
  refine ⟨?_, ?_, ?_, fold, ?_, rfl, rfl⟩
  · rw [← pairwise_map (f := Stop.visit) (R := fun u v => u.position < v.position),
      Stop.map_visit_walk, ← visits]
    exact Node.visitsBelow_ordered tree [] start.depth start.scope
  · intro way
    constructor
    · rintro ⟨s, stopped, rfl⟩
      have seen : s.visit ∈ met := (met_iff s.visit).mpr ⟨s, stopped, rfl⟩
      rw [← visits] at seen
      obtain ⟨slot, rest, lies⟩ := Node.lies_of_mem_visitsBelow tree [] _ _ s.visit seen
      obtain ⟨trail, leads, -⟩ := lies.trail
      rw [lies.position]
      exact ⟨by simp, by simp [leads]⟩
    · rintro ⟨nonempty, leads⟩
      obtain ⟨slot, rest, rfl⟩ := exists_cons_of_ne_nil nonempty
      obtain ⟨v, seen, position⟩ :=
        Node.exists_visit_of_trail tree [] start.depth start.scope slot rest leads
      rw [visits] at seen
      obtain ⟨s, stopped, rfl⟩ := (met_iff v).mp seen
      exact ⟨s, stopped, by simpa using position⟩
  · intro s stopped
    have seen : s.visit ∈ met := (met_iff s.visit).mpr ⟨s, stopped, rfl⟩
    rw [← visits] at seen
    obtain ⟨slot, rest, lies⟩ := Node.lies_of_mem_visitsBelow tree [] _ _ s.visit seen
    rw [lies.position]
    exact lies.trail
  · intro before s later split
    rw [fold before s later split]
    simpa [flatMap_map] using
      Bindings.extends_foldl Bindings.after Node.imported Node.renamings Bindings.extends_after
        ((before ++ [s]).map fun u => u.visit.node) start.bindings

def nestedImports : Node :=
  .module [
    .classDef ⟨1, 0, 3, 25⟩ "Loader" [] []
      [.functionDef ⟨2, 4, 3, 25⟩ false "read" (.arguments [] [] none [] [] none [])
        [.importStmt ⟨3, 8, 3, 25⟩ [.importedName ⟨3, 15, 3, 25⟩ "pickle" (some "p")]] [] none] [],
    .importFrom ⟨4, 0, 4, 20⟩ none [.importedName ⟨4, 14, 4, 20⟩ "marshal" (some "p")] 1]

theorem nestedImports_plain : nestedImports.Plain := by
  have imported (span : Span) (id short : String) : (Node.importedName span id (some short)).Plain :=
    Node.plain_of_children rfl (by simp [Node.scopeName?]) (forall_mem_nil _)
  refine Node.plain_of_children rfl (by simp [nestedImports, Node.scopeName?])
    (forall_mem_cons.mpr ⟨?_, forall_mem_singleton.mpr ?_⟩)
  · refine Node.plain_of_children rfl (by simp [Node.scopeName?]) (forall_mem_singleton.mpr ?_)
    refine Node.plain_of_children rfl (by simp [Node.scopeName?])
      (forall_mem_cons.mpr ⟨?_, forall_mem_singleton.mpr ?_⟩)
    · exact Node.plain_of_children rfl (by simp [Node.scopeName?]) (forall_mem_nil _)
    · exact Node.plain_of_children rfl (by simp [Node.scopeName?])
        (forall_mem_singleton.mpr (imported _ _ _))
  · exact Node.plain_of_children rfl (by simp [Node.scopeName?])
      (forall_mem_singleton.mpr (imported _ _ _))

theorem nestedImports_isWalk : nestedImports.Plain ∧
    IsWalk nestedImports { scope := "app" } (below [] nestedImports { scope := "app" }).1
      (below [] nestedImports { scope := "app" }).2 :=
  ⟨nestedImports_plain, below_isWalk nestedImports_plain _⟩

end Walker

end SourceAudit
