import Mathlib
import SourceAudit.Grammar.Expression
import SourceAudit.Rule.Password

/-! Which default each parameter has, and which one the rule on passwords takes it to have. -/

namespace SourceAudit

open List

variable {p : Parameter} {c : Context} {span : Span} {async : Bool} {id : String} {body : List Node}
  {returns : Option Node}

namespace Grammar

def Parameter.password? (p : Parameter) : Option Text :=
  match p.node, p.default with
  | .arg _ name _, some (.constant _ (.text t)) => if Rule.namesSecretString name then some t else none
  | _, _ => none

theorem Parameter.password?_of_bare (bare : p.default = none) : p.password? = none := by
  unfold password?
  split <;> simp_all

theorem Parameter.password?_of_dull {name : String} (dull : Rule.namesSecretString name = false) (span : Span)
    (hint d : Option Node) : Parameter.password? ⟨.arg span name hint, d⟩ = none := by
  unfold password?
  split <;> simp_all

namespace Parameters

def all (ps : Parameters) : List Parameter := ps.posOnly ++ (ps.plain ++ ps.kwOnly)

def Suits (ps : Parameters) (answer : Option Issue) : Prop :=
  (answer.isSome ↔ ∃ p ∈ ps.all, p.password?.isSome) ∧
    ∀ i, answer = some i → ∃ p ∈ ps.all, ∃ t, p.password? = some t ∧ i = Rule.passwordIssue t

/-- The rule is right at every function with these parameters. -/
def Faithful (ps : Parameters) : Prop :=
  ∀ (c : Context) (span : Span) (async : Bool) (id : String) (parameters : Node) (body decorators : List Node)
    (returns : Option Node) (settings : Value), ps.node? = some parameters →
    c.node = some (.functionDef span async id parameters body decorators returns) →
    ∃ answer, Rule.hardcodedPasswordDefault.run c settings = .ok answer ∧ ps.Suits answer

/-- The same parameters have defaults, whatever these are and whatever the parameters are called. -/
structure Alike (ps other : Parameters) : Prop where
  posOnly : ps.posOnly.map (·.default.isSome) = other.posOnly.map (·.default.isSome)
  plain : ps.plain.map (·.default.isSome) = other.plain.map (·.default.isSome)
  kwOnly : ps.kwOnly.map (·.default.isSome) = other.kwOnly.map (·.default.isSome)

theorem ordered_cons_none {ps : List Parameter} (bare : p.default = none) : ordered (p :: ps) = ordered ps := by
  simp [ordered, bare]

theorem ordered_append {front ps : List Parameter} (bare : ∀ p ∈ front, p.default = none) :
    ordered (front ++ ps) = ordered ps := by
  induction front with
  | nil => rfl
  | cons p front ih =>
    obtain ⟨first, later⟩ := forall_mem_cons.mp bare
    rw [cons_append, ordered_cons_none first, ih later]

theorem ordered_congr {ps other : List Parameter}
    (alike : ps.map (·.default.isSome) = other.map (·.default.isSome)) : ordered ps = ordered other := by
  have read (ps : List Parameter) : ordered ps = ((ps.map (·.default.isSome)).dropWhile (!·)).all id := by
    simp [ordered, dropWhile_map, all_map, Function.comp_def]
  rw [read, read, alike]

theorem map_default_eq {ps : List Parameter} (given : ∀ p ∈ ps, p.default.isSome) :
    ps.map (·.default) = (ps.filterMap (·.default)).map some := by
  induction ps with
  | nil => rfl
  | cons p ps ih =>
    obtain ⟨first, later⟩ := forall_mem_cons.mp given
    obtain ⟨d, own⟩ := Option.isSome_iff_exists.mp first
    rw [filterMap_cons_some own, map_cons, map_cons, ih later, own]

theorem padded_eq {ps : List Parameter} (row : ordered ps) :
    List.replicate (ps.length - (ps.filterMap (·.default)).length) none ++
      (ps.filterMap (·.default)).map some = ps.map (·.default) := by
  induction ps with
  | nil => rfl
  | cons p ps ih =>
    cases own : p.default with
    | none =>
      rw [ordered_cons_none own] at row
      have fewer := length_filterMap_le (fun q : Parameter => q.default) ps
      rw [filterMap_cons_none own, map_cons, own, ← ih row, length_cons,
        Nat.succ_sub fewer, replicate_succ, cons_append]
    | some d =>
      -- behind the first default every parameter has one, so there are no blanks
      have full : (p :: ps).map (·.default) = ((p :: ps).filterMap (·.default)).map some :=
        map_default_eq (by simpa [ordered, own] using row)
      have count := congrArg List.length full
      rw [length_map, length_map] at count
      rw [← count, Nat.sub_self, full]
      rfl

variable {ps other : Parameters} {parameters : Node}

section

variable (made : ps.node? = some parameters)

include made

theorem node?_eq_some : ordered (ps.posOnly.reverse ++ ps.plain.reverse) = true ∧
    parameters = .arguments (ps.posOnly.reverse.map (·.node)) (ps.plain.reverse.map (·.node)) ps.vararg
      (ps.kwOnly.reverse.map (·.node)) (ps.kwOnly.reverse.map (·.default)) ps.kwarg
      ((ps.posOnly.reverse ++ ps.plain.reverse).filterMap (·.default)) := by
  unfold node? at made
  dsimp only at made
  split at made
  · cases made
  · rename_i row
    split at made
    · cases made
    · cases made
      exact ⟨by simpa using row, rfl⟩

theorem run_eq {decorators : List Node} (settings : Value)
    (node : c.node = some (.functionDef span async id parameters body decorators returns)) :
    Rule.hardcodedPasswordDefault.run c settings = .ok (((ps.plain.reverse.map (·.node)).zip (List.replicate
          (ps.plain.length - ((ps.posOnly.reverse ++ ps.plain.reverse).filterMap (·.default)).length) none ++
        ((ps.posOnly.reverse ++ ps.plain.reverse).filterMap (·.default)).map some)).findSome?
      fun (n, d) => (Parameter.password? ⟨n, d⟩).map Rule.passwordIssue) := by
  dsimp only [Rule.hardcodedPasswordDefault, Rule.plain]
  rw [node, (node?_eq_some made).2]
  simp only [length_map, length_reverse]
  refine congrArg Except.ok (congrFun (congrArg List.findSome? (funext ?_)) _)
  rintro ⟨n, d⟩
  unfold Parameter.password? reportIf
  dsimp only
  split
  · rename_i both
    cases both
    dsimp only
    split <;> rfl
  · rename_i other
    split
    · exact absurd rfl (other _ _ _ _ _)
    · rfl

theorem run_eq_plain (bare : ∀ p ∈ ps.posOnly, p.default = none) {decorators : List Node} (settings : Value)
    (node : c.node = some (.functionDef span async id parameters body decorators returns)) :
    Rule.hardcodedPasswordDefault.run c settings =
      .ok (ps.plain.reverse.findSome? fun p => p.password?.map Rule.passwordIssue) := by
  have none_ : ps.posOnly.reverse.filterMap (·.default) = [] :=
    filterMap_eq_nil_iff.mpr fun p mem => bare p (mem_reverse.mp mem)
  have row := (node?_eq_some made).1
  rw [ordered_append fun p mem => bare p (mem_reverse.mp mem)] at row
  have paired := padded_eq row
  rw [length_reverse] at paired
  rw [run_eq made settings node, filterMap_append, none_, nil_append, paired, zip_map', List.findSome?_map]
  rfl

end

theorem suits_plain_iff (bare : ∀ p ∈ ps.posOnly, p.default = none) :
    ps.Suits (ps.plain.reverse.findSome? fun p => p.password?.map Rule.passwordIssue) ↔
      ((∃ p ∈ ps.kwOnly, p.password?.isSome) → ∃ p ∈ ps.plain, p.password?.isSome) := by
  have found : (ps.plain.reverse.findSome? fun p => p.password?.map Rule.passwordIssue).isSome ↔
      ∃ p ∈ ps.plain, p.password?.isSome := by
    simp [List.findSome?_isSome_iff]
  have some_ : (∃ p ∈ ps.all, p.password?.isSome) ↔
      (∃ p ∈ ps.plain, p.password?.isSome) ∨ ∃ p ∈ ps.kwOnly, p.password?.isSome := by
    simp only [all, mem_append, or_and_right, exists_or]
    refine ⟨Or.rec ?_ id, .inr⟩
    rintro ⟨p, mem, has⟩
    rw [Parameter.password?_of_bare (bare p mem)] at has
    cases has
  unfold Suits
  rw [found, some_]
  constructor
  · intro suits keyword
    exact suits.1.mpr (.inr keyword)
  · intro covered
    refine ⟨⟨.inl, Or.rec id covered⟩, ?_⟩
    intro i first
    obtain ⟨p, mem, is⟩ := exists_of_findSome?_eq_some first
    obtain ⟨t, own, rfl⟩ := Option.map_eq_some_iff.mp is
    exact ⟨p, by simp [all, mem_reverse.mp mem], t, own, rfl⟩

theorem faithful_iff_of_bare (made : ps.node? = some parameters) (bare : ∀ p ∈ ps.posOnly, p.default = none) :
    ps.Faithful ↔ ((∃ p ∈ ps.kwOnly, p.password?.isSome) → ∃ p ∈ ps.plain, p.password?.isSome) := by
  rw [← suits_plain_iff bare]
  constructor
  · intro faithful
    obtain ⟨_, given, suits⟩ := faithful { node := some (.functionDef default false "f" parameters [] [] none) }
      _ _ _ _ _ _ _ .null made rfl
    rw [run_eq_plain made bare .null rfl] at given
    cases given
    exact suits
  · intro suits c span async id other body decorators returns settings again node
    rw [made] at again
    cases again
    exact ⟨_, run_eq_plain made bare settings node, suits⟩

def renamed (name : String) (p : Parameter) : Parameter :=
  ⟨.arg default name none, p.default.map fun _ => .constant default (.text "a")⟩

def disguised (ps : Parameters) : Parameters where
  posOnly := ps.posOnly.map (renamed "pwd")
  plain := ps.plain.map (renamed "x")
  kwOnly := ps.kwOnly.map (renamed "pwd")

theorem alike_disguised (ps : Parameters) : ps.Alike ps.disguised := by constructor <;> simp [disguised, renamed]

theorem secret_pwd : Rule.namesSecretString "pwd" = true := by decide +kernel

theorem dull_x : Rule.namesSecretString "x" = false := by decide +kernel

theorem exists_node?_disguised (made : ps.node? = some parameters) : ∃ others, ps.disguised.node? = some others := by
  have row : ordered (ps.disguised.posOnly.reverse ++ ps.disguised.plain.reverse) = true := by
    rw [← (node?_eq_some made).1]
    apply ordered_congr
    simp [disguised, renamed, Function.comp_def]
  unfold node?
  simp only [row]
  exact ⟨_, rfl⟩

theorem run_disguised {others : Node} (made : ps.disguised.node? = some others) {decorators : List Node}
    (settings : Value) (node : c.node = some (.functionDef span async id others body decorators returns)) :
    Rule.hardcodedPasswordDefault.run c settings = .ok none := by
  rw [run_eq made settings node]
  congr 1
  rw [List.findSome?_eq_none_iff]
  rintro ⟨n, d⟩ paired
  -- whatever default it is paired with, an ordinary parameter is read by its own name
  obtain ⟨p, -, rfl⟩ : ∃ p ∈ ps.plain, n = (renamed "x" p).node := by
    have mem := (of_mem_zip paired).1
    simp only [disguised, ← map_reverse, map_map, mem_map, mem_reverse, Function.comp_apply] at mem
    obtain ⟨p, among, is⟩ := mem
    exact ⟨p, among, is.symm⟩
  exact congrArg (Option.map Rule.passwordIssue) (Parameter.password?_of_dull dull_x _ _ d)

theorem not_faithful_disguised (made : ps.node? = some parameters) (mem : p ∈ ps.posOnly ++ ps.kwOnly)
    (has : p.default ≠ none) : ¬ ps.disguised.Faithful := by
  intro faithful
  obtain ⟨others, made⟩ := exists_node?_disguised made
  obtain ⟨_, given, suits, -⟩ := faithful { node := some (.functionDef default false "f" others [] [] none) }
    _ _ _ _ _ _ _ .null made rfl
  rw [run_disguised made .null rfl] at given
  cases given
  have bears : (renamed "pwd" p).password?.isSome := by
    obtain ⟨d, own⟩ := Option.ne_none_iff_exists'.mp has
    simp [Parameter.password?, renamed, own, secret_pwd]
  have among : renamed "pwd" p ∈ ps.disguised.all := by
    simp only [all, disguised, mem_append, mem_map] at mem ⊢
    rcases mem with first | last
    · exact .inl ⟨p, first, rfl⟩
    · exact .inr (.inr ⟨p, last, rfl⟩)
  exact absurd (suits.mpr ⟨_, among, bears⟩) (by simp)

/-- The rule is right about all functions with defaults in the same places exactly if only ordinary parameters have any.
Without defaults of positional-only ones, it is right exactly if keyword-only passwords come with an ordinary one. -/
theorem faithful_iff (made : ps.node? = some parameters) :
    ((∀ other : Parameters, ps.Alike other → other.Faithful) ↔ ∀ p ∈ ps.posOnly ++ ps.kwOnly, p.default = none) ∧
    ((∀ p ∈ ps.posOnly, p.default = none) →
      (ps.Faithful ↔ ((∃ p ∈ ps.kwOnly, p.password?.isSome) → ∃ p ∈ ps.plain, p.password?.isSome))) := by
  refine ⟨⟨?_, ?_⟩, faithful_iff_of_bare made⟩
  · intro right p listed
    by_cases bare : p.default = none
    · exact bare
    · exact absurd (right _ ps.alike_disguised) (not_faithful_disguised made listed bare)
  · intro bare other alike
    have none_ : ∀ {own its : List Parameter}, own.map (·.default.isSome) = its.map (·.default.isSome) →
        (∀ p ∈ own, p.default = none) → ∀ p ∈ its, p.default = none := by
      intro own its same without p listed
      have among : p.default.isSome ∈ own.map (·.default.isSome) := same ▸ mem_map_of_mem listed
      obtain ⟨q, there, is⟩ := mem_map.mp among
      rw [without q there] at is
      exact Option.isSome_eq_false_iff.mp is.symm |> Option.isNone_iff_eq_none.mp
    rw [forall_mem_append] at bare
    intro c span async id others body decorators returns settings made node
    have first := none_ alike.posOnly bare.1
    apply (faithful_iff_of_bare made first).mpr ?_ c span async id others body decorators returns settings made node
    rintro ⟨p, listed, has⟩
    rw [Parameter.password?_of_bare (none_ alike.kwOnly bare.2 p listed)] at has
    cases has

def sample (name : String) (value : Option Constant) : Parameter :=
  ⟨.arg ⟨1, 0, 1, 0⟩ name none, value.map (.constant ⟨1, 0, 1, 0⟩)⟩

def signIn : Parameters where
  plain := [sample "password" (some (.text "Admin")), sample "user" none]

theorem signIn_faithful : signIn.node?.isSome ∧ ∀ other : Parameters, signIn.Alike other → other.Faithful :=
  have bare : ∀ p ∈ signIn.posOnly ++ signIn.kwOnly, p.default = none := forall_mem_nil _
  ⟨rfl, (faithful_iff (rfl : signIn.node? = some _)).1.mpr bare⟩

def shifted : Parameters where
  posOnly := [sample "user" (some (.text "root"))]
  plain := [sample "password" (some .none)]

/-- The default of the user is reported as that of the password. -/
theorem shifted_default_quoted : (∀ p ∈ shifted.all, p.password? = none) ∧
    ∃ parameters, shifted.node? = some parameters ∧
      ∀ (c : Context) (settings : Value), c.node = some (.functionDef ⟨1, 0, 2, 8⟩ false "login" parameters
          [.pass ⟨2, 4, 2, 8⟩] [] none) →
        Rule.hardcodedPasswordDefault.run c settings = .ok (some (Rule.passwordIssue "root")) := by
  have secret : Rule.namesSecretString "password" = true := by decide +kernel
  have open_ : Rule.namesSecretString "user" = false := by decide +kernel
  constructor
  · intro p listed
    simp only [all, shifted, mem_append, mem_singleton, not_mem_nil, or_false] at listed
    rcases listed with rfl | rfl
    · exact Parameter.password?_of_dull open_ _ _ _
    · rfl
  · refine ⟨_, rfl, ?_⟩
    intro c settings node
    rw [run_eq (rfl : shifted.node? = some _) settings node]
    simp [shifted, sample, Parameter.password?, secret]

end Parameters

end Grammar

end SourceAudit
