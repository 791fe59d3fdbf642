import SourceAudit.Proofs.Answers
import SourceAudit.Rule.MarkSafe

/-! Which names hold text put together from literals only, on every way of control. A store is the set of other names.
-/

namespace SourceAudit

open Answers List

namespace Node

mutual

def aims (v : String) : Node → Bool
  | name _ id _ => id == v
  | tuple _ elts _ | list _ elts _ => aimsAny v elts
  | starred _ target _ => target.aims v
  | _ => false

def aimsAny (v : String) : List Node → Bool
  | [] => false
  | n :: ns => n.aims v || aimsAny v ns

end

def binds (v : String) : Node → Bool
  | assign _ targets _ => aimsAny v targets
  | augAssign _ target .. | annAssign _ target _ (some _) | namedExpr _ target _ | forLoop _ _ target ..
  | withItem _ (some target) => target.aims v
  | functionDef _ _ id .. | classDef _ id .. => id == v
  | importedName _ id none => id == "*" || (splitString '.' id).head? == some v
  | importedName _ _ (some id) => id == v
  | exceptHandler _ _ (some id) _ | matchStar _ (some id) | matchAs _ _ (some id) | matchMapping _ _ _ (some id) =>
    id == v
  | _ => false

def shares (v : String) : Node → Bool
  | globalStmt _ ids | nonlocalStmt _ ids => ids.contains v
  | _ => false

def Inside (n m : Node) : Prop := Relation.ReflTransGen (fun a b => ∃ next, (b, next) ∈ a.children) n m

/-- The blocks of a statement that control may enter or not; other statements have none. -/
def blocks : Node → List (List Node)
  | ifStmt _ _ body orelse | whileLoop _ _ body orelse | forLoop _ false _ _ body orelse => [body, orelse]
  | withStmt _ false (_ :: _) body | exceptHandler _ _ _ body => [body]
  | tryStmt _ false body handlers orelse finalbody => [body, handlers, orelse, finalbody]
  | _ => []

mutual

/-- What control meets in a statement. A statement with blocks stands for its own head here. -/
def pieces : Node → List Node
  | n@(ifStmt _ _ body orelse) | n@(whileLoop _ _ body orelse) | n@(forLoop _ false _ _ body orelse) =>
    n :: (piecesIn body ++ piecesIn orelse)
  | n@(withStmt _ false (_ :: _) body) | n@(exceptHandler _ _ _ body) => n :: piecesIn body
  | n@(tryStmt _ false body handlers orelse finalbody) =>
    n :: (piecesIn body ++ (piecesIn handlers ++ (piecesIn orelse ++ piecesIn finalbody)))
  | n => [n]

def piecesIn : List Node → List Node
  | [] => []
  | n :: ns => n.pieces ++ piecesIn ns

end

def heads : Node → List Node
  | ifStmt _ test .. | whileLoop _ test .. => [test]
  | forLoop _ false target iter .. => [target, iter]
  | withStmt _ false (item :: items) _ => item :: items
  | tryStmt _ false .. => []
  | exceptHandler _ type _ _ => type.toList
  | functionDef _ _ _ args _ decorators returns => args :: (decorators ++ returns.toList)
  | classDef _ _ bases keywords _ decorators => bases ++ (keywords ++ decorators)
  | n => n.children.map Prod.fst

def opensNames : Node → Bool
  | functionDef .. | classDef .. | lambda .. | listComp .. | setComp .. | dictComp .. | generatorExp .. => true
  | _ => false

def Evaluates (p n : Node) : Prop :=
  ∃ h ∈ p.heads, Relation.ReflTransGen (fun a b => a.opensNames = false ∧ ∃ next, (b, next) ∈ a.children) h n

def BindsWithin (p : Node) (v : String) : Prop :=
  (∃ h ∈ p.heads, ∃ m, h.Inside m ∧ m.binds v = true) ∨ ∃ m, p.Inside m ∧ m.shares v = true

/-- What a piece lets a name hold. -/
inductive Gift where
  | value (e : Node)
  /-- What the name held, together with something. -/
  | joined (e : Node)

def paired : Node → Node → List (String × Node)
  | name _ id _, e => [(id, e)]
  | tuple _ targets _, tuple _ values _ =>
    if targets.length = values.length ∧ values.all (fun | starred .. => false | _ => true) then
      (targets.zip values).filterMap fun | (name _ id _, e) => some (id, e) | _ => none
    else []
  | _, _ => []

def gift? (v : String) : Node → Option Gift
  | assign _ targets value => ((targets.flatMap (paired · value)).reverse.lookup v).map .value
  | annAssign _ (name _ id _) _ (some e) => if id == v then some (.value e) else none
  | augAssign _ (name _ id _) _ e => if id == v then some (.joined e) else none
  | _ => none

end Node

/-- The names that hold something which is not put together from literals. -/
abbrev Store := Set String

open Node

/-- Text that is put together from literals only. -/
inductive Built (σ : Store) : Node → Prop where
  | text {span t} : Built σ (constant span (.text t))
  | name {span v ctx} (clean : v ∉ σ) : Built σ (name span v ctx)
  | format {n args} (filled : MarkSafe.filledIn? n = some args) (each : ∀ a ∈ args, Built σ a) : Built σ n
  | percent {span left right} (literal : left.isText = true)
      (each : ∀ a ∈ (match right with | tuple _ elts _ => elts | n => [n]), Built σ a) :
      Built σ (binOp span left (operator .mod) right)
  | spread {n elts} (items : MarkSafe.spread? n = some elts) (each : ∀ a ∈ elts, Built σ a) : Built σ n

def Node.after (p : Node) (σ : Store) : Store :=
  { v | match p.gift? v with
    | some (.value e) => ¬ Built σ e
    | some (.joined e) => v ∈ σ ∨ ¬ Built σ e
    | none => v ∈ σ ∨ p.binds v = true ∨ p.BindsWithin v }

def Meets (s : Node) : Store → Store → Prop := Relation.ReflTransGen fun σ τ => ∃ p ∈ s.pieces, τ = p.after σ

def Passes (s : Node) (σ τ : Store) : Prop := if s.blocks = [] then τ = s.after σ else Meets s σ τ

def PassesAll : List Node → Store → Store → Prop
  | [], σ, τ => τ = σ
  | s :: rest, σ, τ => ∃ ρ, Passes s σ ρ ∧ PassesAll rest ρ τ

def Arrives (s n : Node) (σ τ : Store) : Prop :=
  ∃ p ∈ s.pieces, p.Evaluates n ∧ ∃ ρ, (if s.blocks = [] then ρ = σ else Meets s σ ρ) ∧ ∀ v ∈ τ, v ∈ ρ ∨ p.BindsWithin v

/-- Control has gone from the start of a block to an expression in it. -/
def Reaches (block : List Node) (n : Node) (σ τ : Store) : Prop :=
  ∃ before s behind ρ, block = before ++ s :: behind ∧ PassesAll before σ ρ ∧ Arrives s n ρ τ

namespace Node

def Seen (p : Node) (v : String) : Prop :=
  ¬ p.BindsWithin v ∧ (p.gift? v = none ∧ p.binds v = false ∨
    ∃ e, p.assigned [] v = .ok (.one e) ∧ (p.gift? v = some (.value e) ∨ p.gift? v = some (.joined e)))

theorem Seen.not_mem_after {p : Node} {v : String} (seen : p.Seen v) {σ : Store} (clean : v ∉ σ)
    (built : ∀ e, p.assigned [] v = .ok (.one e) → Built σ e) : v ∉ p.after σ := by
  obtain ⟨apart, ⟨none, unbound⟩ | ⟨e, looked, given | given⟩⟩ := seen
  · simp [after, none, unbound, apart, clean]
  · simp [after, given, built e looked]
  · simp [after, given, clean, built e looked]

theorem pieces_eq (s : Node) : s.pieces = s :: s.blocks.flatMap piecesIn := by
  unfold pieces blocks
  split <;> simp

theorem mem_piecesIn {p : Node} {ns : List Node} : p ∈ piecesIn ns ↔ ∃ n ∈ ns, p ∈ n.pieces := by
  induction ns with
  | nil => simp [piecesIn]
  | cons n ns ih => simp [piecesIn, ih]

variable {v : String}

theorem exists_of_assignedIn {ns : List Node} {all : List Node} (looked : assignedIn [] v ns = .ok all) :
    ∀ n ∈ ns, ∃ a, n.assigned [] v = .ok a ∧ ∀ e ∈ a.toList, e ∈ all := by
  induction ns generalizing all with
  | nil => nofun
  | cons n ns ih =>
    obtain ⟨a, here, rest⟩ := bind_eq_ok.mp looked
    obtain ⟨_, behind, same⟩ := bind_eq_ok.mp rest
    cases same
    rw [forall_mem_cons]
    constructor
    · exact ⟨a, here, fun e given => mem_append_left _ given⟩
    · intro m mem
      obtain ⟨b, found, among⟩ := ih behind m mem
      exact ⟨b, found, fun e given => mem_append_right _ (among e given)⟩

theorem exists_of_two {body orelse block : List Node} {a : Assigned}
    (looked : (do return Assigned.several ((← assignedIn [] v body) ++ (← assignedIn [] v orelse))) = Except.ok a)
    (mem : block ∈ [body, orelse]) :
    ∃ ns all, a = .several ns ∧ assignedIn [] v block = .ok all ∧ ∀ e ∈ all, e ∈ ns := by
  obtain ⟨b, first, looked⟩ := bind_eq_ok.mp looked
  obtain ⟨o, second, same⟩ := bind_eq_ok.mp looked
  cases same
  simp only [mem_cons, not_mem_nil, or_false] at mem
  rcases mem with rfl | rfl
  · exact ⟨_, b, rfl, first, fun e given => mem_append_left _ given⟩
  · exact ⟨_, o, rfl, second, fun e given => mem_append_right _ given⟩

variable {item : Node} {span : Span} {items body : List Node}

theorem Seen.not_bindsName
    (seen : (withStmt span false (item :: items) body).Seen v) : ∀ i ∈ item :: items, i.bindsName v = false := by
  intro i mem
  by_contra bound
  apply seen.1
  refine .inl ⟨i, mem, i, .refl, ?_⟩
  unfold bindsName at bound
  split at bound
  · simpa [binds, aims] using bound
  · simp at bound

theorem assigned_withStmt (unbound : ∀ i ∈ item :: items, i.bindsName v = false) :
    (withStmt span false (item :: items) body).assigned [] v = Assigned.several <$> assignedIn [] v body := by
  have last : ∃ i, (item :: items).getLast? = some i ∧ i.bindsName v = false := by
    exact ⟨_, rfl, unbound _ (getLast_mem _)⟩
  obtain ⟨i, is, free⟩ := last
  have other : (item :: items).all (bindsName v) = false := by rw [all_cons, unbound item mem_cons_self, Bool.false_and]
  rw [assigned]
  simp only [any_nil, Bool.false_eq_true, if_false, is, other, free]
  rfl

theorem exists_of_blocks {s : Node} {a : Assigned} (seen : s.Seen v) (looked : s.assigned [] v = .ok a)
    {block : List Node} (mem : block ∈ s.blocks) :
    ∃ ns all, a = .several ns ∧ assignedIn [] v block = .ok all ∧ ∀ e ∈ all, e ∈ ns := by
  cases s with
  | ifStmt span test body orelse | whileLoop span test body orelse => exact exists_of_two looked mem
  | forLoop span async target iter body orelse =>
    cases async with
    | true => cases mem
    | false => exact exists_of_two looked mem
  | exceptHandler span type id body =>
    obtain ⟨b, inside, same⟩ := map_eq_ok.mp looked
    cases same
    rw [mem_singleton.mp mem]
    exact ⟨b, b, rfl, inside, fun e given => given⟩
  | tryStmt span star body handlers orelse finalbody =>
    cases star with
    | true => cases mem
    | false =>
      obtain ⟨b, first, looked⟩ := bind_eq_ok.mp looked
      obtain ⟨h, second, looked⟩ := bind_eq_ok.mp looked
      obtain ⟨o, third, looked⟩ := bind_eq_ok.mp looked
      obtain ⟨f, last, same⟩ := bind_eq_ok.mp looked
      cases same
      have parts : block = body ∨ block = handlers ∨ block = orelse ∨ block = finalbody := by simpa [blocks] using mem
      rcases parts with rfl | rfl | rfl | rfl
      · exact ⟨_, b, rfl, first, fun e given => by simp [given]⟩
      · exact ⟨_, h, rfl, second, fun e given => by simp [given]⟩
      · exact ⟨_, o, rfl, third, fun e given => by simp [given]⟩
      · exact ⟨_, f, rfl, last, fun e given => by simp [given]⟩
  | withStmt span async items body =>
    cases async with
    | true => cases mem
    | false =>
      cases items with
      | nil => cases mem
      | cons item items =>
        rw [assigned_withStmt seen.not_bindsName] at looked
        obtain ⟨b, inside, same⟩ := map_eq_ok.mp looked
        cases same
        rw [mem_singleton.mp mem]
        exact ⟨b, b, rfl, inside, fun e given => given⟩
  | _ => cases mem

theorem exists_mem_withNext {c : Node} {group : List (Option Node)} (mem : some c ∈ group) :
    ∃ next, (c, next) ∈ withNext group := by
  induction group with
  | nil => cases mem
  | cons first rest ih =>
    cases first with
    | none =>
      obtain ⟨next, found⟩ := ih (by simpa using mem)
      exact ⟨next, found⟩
    | some n =>
      rcases mem_cons.mp mem with same | later
      · cases same
        exact ⟨_, mem_cons_self⟩
      · obtain ⟨next, found⟩ := ih later
        exact ⟨next, mem_cons_of_mem _ found⟩

theorem exists_mem_children {n c : Node} (mem : some c ∈ n.groups.flatten) : ∃ next, (c, next) ∈ n.children := by
  obtain ⟨group, among, member⟩ := mem_flatten.mp mem
  obtain ⟨next, found⟩ := exists_mem_withNext member
  exact ⟨next, mem_flatMap.mpr ⟨group, among, found⟩⟩

theorem mem_children_of_blocks {s n : Node} {block : List Node} (mem : block ∈ s.blocks) (member : n ∈ block) :
    ∃ next, (n, next) ∈ s.children := by
  unfold blocks at mem
  split at mem <;> simp only [mem_cons, not_mem_nil, or_false] at mem <;>
    (repeat' (obtain mem | mem := mem)) <;> exact exists_mem_children (by simp [groups, member])

theorem sizeOf_lt_of_mem_blocks {s n : Node} {block : List Node} (mem : block ∈ s.blocks) (member : n ∈ block) :
    sizeOf n < sizeOf s := by
  obtain ⟨_, child⟩ := mem_children_of_blocks mem member
  exact sizeOf_lt_of_mem_children child

theorem mem_assigned {s p e : Node} {a : Assigned} (seen : ∀ p ∈ s.pieces, p.Seen v)
    (looked : s.assigned [] v = .ok a) (piece : p ∈ s.pieces) (given : p.assigned [] v = .ok (.one e)) :
    e ∈ a.toList := by
  rw [pieces_eq] at piece seen
  rcases mem_cons.mp piece with rfl | within
  · rw [given] at looked
    cases looked
    exact List.mem_singleton_self e
  · obtain ⟨block, mem, within⟩ := mem_flatMap.mp within
    obtain ⟨n, member, piece⟩ := mem_piecesIn.mp within
    obtain ⟨_, _, rfl, found, among⟩ := exists_of_blocks (seen s mem_cons_self) looked mem
    obtain ⟨b, here, sub⟩ := exists_of_assignedIn found n member
    have smaller := sizeOf_lt_of_mem_blocks mem member
    apply among e (sub e (mem_assigned _ here piece given))
    intro q there
    exact seen q (mem_cons_of_mem s (mem_flatMap.mpr ⟨block, mem, mem_piecesIn.mpr ⟨n, member, there⟩⟩))
termination_by sizeOf s

theorem mem_children_of_heads {p h : Node} (mem : h ∈ p.heads) : ∃ next, (h, next) ∈ p.children := by
  unfold heads at mem
  split at mem
  case h_9 =>
    obtain ⟨⟨c, next⟩, found, rfl⟩ := mem_map.mp mem
    exact ⟨next, found⟩
  all_goals
    apply exists_mem_children
    simp only [mem_cons, mem_append, not_mem_nil, or_false, Option.mem_toList] at mem
  case h_3 | h_4 => rcases mem with mem | mem <;> simp [groups, mem]
  case h_7 | h_8 => rcases mem with mem | mem | mem <;> simp [groups, mem]
  all_goals simp [groups, mem]

theorem inside_of_mem_pieces {s p : Node} (piece : p ∈ s.pieces) : s.Inside p := by
  rw [pieces_eq] at piece
  rcases mem_cons.mp piece with rfl | within
  · exact .refl
  · obtain ⟨_, mem, within⟩ := mem_flatMap.mp within
    obtain ⟨n, member, piece⟩ := mem_piecesIn.mp within
    have smaller := sizeOf_lt_of_mem_blocks mem member
    exact .head (mem_children_of_blocks mem member) (inside_of_mem_pieces piece)
termination_by sizeOf s

theorem Evaluates.inside {p n : Node} (evaluates : p.Evaluates n) : p.Inside n := by
  obtain ⟨h, mem, way⟩ := evaluates
  exact .head (mem_children_of_heads mem) (way.lift id fun a b step => step.2)

def nodesTo : Nat → Node → List Node
  | 0, n => [n]
  | k + 1, n => n :: n.children.flatMap fun child => nodesTo k child.1

def endsBy : Nat → Node → Bool
  | 0, n => n.children.isEmpty
  | k + 1, n => n.children.all fun child => endsBy k child.1

theorem mem_nodesTo {k : Nat} {n m : Node} (ends : endsBy k n) (way : n.Inside m) : m ∈ nodesTo k n := by
  induction k generalizing n with
  | zero =>
    rcases Relation.ReflTransGen.cases_head way with rfl | ⟨child, ⟨next, mem⟩, -⟩
    · exact List.mem_singleton_self _
    · rw [endsBy, List.isEmpty_iff] at ends
      rw [ends] at mem
      cases mem
  | succ k ih =>
    rw [endsBy, List.all_eq_true] at ends
    rcases Relation.ReflTransGen.cases_head way with rfl | ⟨child, ⟨next, mem⟩, rest⟩
    · exact mem_cons_self
    · apply mem_cons_of_mem
      exact mem_flatMap.mpr ⟨(child, next), mem, ih (ends _ mem) rest⟩

theorem not_bindsWithin {k : Nat} {p : Node} (ends : endsBy k p)
    (heads : ∀ h ∈ p.heads, endsBy k h = true ∧ ∀ m ∈ nodesTo k h, m.binds v = false)
    (shares : ∀ m ∈ nodesTo k p, m.shares v = false) : ¬ p.BindsWithin v := by
  rintro (⟨h, mem, m, way, bound⟩ | ⟨m, way, shared⟩)
  · have free := (heads h mem).2 m (mem_nodesTo (heads h mem).1 way)
    rw [free] at bound
    cases bound
  · rw [shares m (mem_nodesTo ends way)] at shared
    cases shared

end Node

end SourceAudit
