import SourceAudit.Proofs.Listing

/-! The values that arguments of calls spell, unless a set holds something that can change; of equal keywords the last
counts. -/

namespace SourceAudit

open Answers List

variable {v : Value}

variable {n : Node} {elts : List Node} {es : Fields}

theorem Text.ofString_inj {a b : String} : Text.ofString a = Text.ofString b ↔ a = b := by
  constructor
  · intro same
    rw [← Text.toStringLossy_ofString a, same, Text.toStringLossy_ofString]
  · rintro rfl
    rfl

namespace Value

theorem equals_str (a b : String) : (str a).equals (str b) = (a == b) := by
  simp [str, equals, Text.ofString_inj]

theorem mem_of_lookup {k : Value} (found : lookup k es = some v) : ∃ key, (key, v) ∈ es := by
  induction es with
  | nil => cases found
  | cons e rest ih =>
    rw [lookup] at found
    split at found
    · exact ⟨e.1, Option.some.inj found ▸ mem_cons_self⟩
    · obtain ⟨key, member⟩ := ih found
      exact ⟨key, mem_cons_of_mem e member⟩

theorem allHashable_eq (vs : List Value) : allHashable vs = vs.all hashable := by
  induction vs with
  | nil => rfl
  | cons v vs ih => rw [allHashable, ih, all_cons]

end Value

namespace Node

mutual

def isMutable : Node → Bool
  | list .. | set .. | dict .. => true
  | tuple _ elts _ => anyMutable elts
  | _ => false

def anyMutable : List Node → Bool
  | [] => false
  | n :: ns => n.isMutable || anyMutable ns

end

mutual

/-- Whether a set is written in the node that holds what can change. -/
def hasBadSet : Node → Bool
  | list _ elts _ | tuple _ elts _ => anyBadSet elts
  | set _ elts => anyBadSet elts || anyMutable elts
  | _ => false

def anyBadSet : List Node → Bool
  | [] => false
  | n :: ns => n.hasBadSet || anyBadSet ns

end

/-- The node spells a value exactly if it has no bad set, and its writing tells whether a set can hold the value. -/
structure Spells (n : Node) : Prop where
  value : n.hasBadSet = false → Brings n.literal fun v => v.hashable = !n.isMutable
  failure : n.hasBadSet = true → ∃ fault, n.literal = .error fault

/-- The nodes spell values exactly if there is no bad set in any of them. -/
structure SpellAll (ns : List Node) : Prop where
  values : anyBadSet ns = false → Brings (literals ns) fun vs => vs.all Value.hashable = !anyMutable ns
  failure : anyBadSet ns = true → ∃ fault, literals ns = .error fault

theorem spells_of_ok (spelled : n.literal = .ok v) (clear : n.hasBadSet = false)
    (fits : v.hashable = !n.isMutable) : n.Spells := by
  refine ⟨fun _ => ⟨v, spelled, fits⟩, ?_⟩
  intro bad
  rw [clear] at bad
  exact absurd bad Bool.false_ne_true

section

variable {span : Span} (items : SpellAll elts)

include items

theorem SpellAll.list : (list span elts ctx).Spells := by
  constructor
  · intro clear
    exact Brings.map (items.values clear) fun vs _ => rfl
  · intro bad
    obtain ⟨fault, failed⟩ := items.failure bad
    exact ⟨fault, by rw [literal, failed]; rfl⟩

theorem SpellAll.tuple : (tuple span elts ctx).Spells := by
  constructor
  · intro clear
    apply Brings.map (items.values clear)
    intro vs fits
    rw [isMutable, Value.hashable, Value.allHashable_eq, fits]
  · intro bad
    obtain ⟨fault, failed⟩ := items.failure bad
    exact ⟨fault, by rw [literal, failed]; rfl⟩

theorem SpellAll.set : (set span elts).Spells := by
  constructor
  · intro clear
    rw [hasBadSet, Bool.or_eq_false_iff] at clear
    obtain ⟨vs, spelled, fits⟩ := items.values clear.1
    rw [clear.2, Bool.not_false] at fits
    exact ⟨Value.setOf vs, by rw [literal, spelled]; simp [bind, Except.bind, fits, pure_eq_ok], rfl⟩
  · intro bad
    rw [hasBadSet] at bad
    cases inside : anyBadSet elts with
    | true =>
      obtain ⟨fault, failed⟩ := items.failure inside
      exact ⟨fault, by rw [literal, failed]; rfl⟩
    | false =>
      -- every item spells a value, but one of the values can change
      obtain ⟨vs, spelled, fits⟩ := items.values inside
      rw [inside, Bool.false_or] at bad
      rw [bad, Bool.not_true] at fits
      exact ⟨.wrongKind, by rw [literal, spelled]; simp only [bind, Except.bind, fits]; rfl⟩

end

theorem SpellAll.cons {ns : List Node} (first : n.Spells) (others : SpellAll ns) : SpellAll (n :: ns) := by
  constructor
  · intro clear
    rw [anyBadSet, Bool.or_eq_false_iff] at clear
    apply Brings.bind (first.value clear.1)
    intro v fits
    apply Brings.bind (others.values clear.2)
    intro vs rest
    apply Brings.pure
    rw [all_cons, fits, rest, anyMutable, Bool.not_or]
  · intro bad
    rw [anyBadSet] at bad
    cases here : n.hasBadSet with
    | true =>
      obtain ⟨fault, failed⟩ := first.failure here
      exact ⟨fault, by rw [literals, failed]; rfl⟩
    | false =>
      rw [here, Bool.false_or] at bad
      obtain ⟨v, spelled, -⟩ := first.value here
      obtain ⟨fault, failed⟩ := others.failure bad
      exact ⟨fault, by rw [literals, spelled]; simp only [bind, Except.bind, failed]⟩

theorem spells_all : (∀ n : Node, n.Spells) ∧ ∀ ns, SpellAll ns := by
  apply literal.mutual_induct
  case case1 =>
    intro span c
    exact spells_of_ok rfl rfl (by cases c <;> rfl)
  case case2 => exact fun span elts ctx items => items.list
  case case3 => exact fun span elts ctx items => items.tuple
  case case4 => exact fun span elts items => items.set
  case case5 => exact fun span keys values => spells_of_ok rfl rfl rfl
  case case6 => exact fun span id ctx => spells_of_ok rfl rfl rfl
  case case7 =>
    intro n constant list tuple set dict name
    have plain : n.literal = .ok .null := by
      unfold literal
      split <;> simp_all
    have unchanging : n.isMutable = false := by
      unfold isMutable
      split <;> simp_all
    have clear : n.hasBadSet = false := by
      unfold hasBadSet
      split <;> simp_all
    exact spells_of_ok plain clear (by rw [unchanging]; rfl)
  case case8 => exact ⟨fun _ => ⟨[], rfl, rfl⟩, fun bad => absurd bad Bool.false_ne_true⟩
  case case9 => exact fun n ns first others => .cons first others

theorem brings_argumentValue (clear : n.hasBadSet = false) :
    Brings n.argumentValue fun v => v.hashable = !n.isMutable := by
  unfold argumentValue
  split
  · exact ⟨_, rfl, rfl⟩
  · exact (spells_all.1 n).value clear

theorem exists_argumentValue_error (bad : n.hasBadSet) : ∃ fault, n.argumentValue = .error fault := by
  unfold argumentValue
  split
  · simp [hasBadSet] at bad
  · exact (spells_all.1 n).failure bad

def argument (n : Node) : Value := n.argumentValue.toOption.getD .null

theorem argumentValue_eq (clear : n.hasBadSet = false) : n.argumentValue = .ok n.argument := by
  obtain ⟨v, spelled, -⟩ := brings_argumentValue clear
  rw [argument, spelled]
  rfl

theorem hashable_argument (clear : n.hasBadSet = false) : n.argument.hashable = !n.isMutable := by
  obtain ⟨v, spelled, fits⟩ := brings_argumentValue clear
  rw [argument, spelled]
  exact fits

def keywordName : Node → Option String
  | keyword _ id _ => id
  | _ => none

def handed : Node → Node
  | keyword _ _ value => value
  | n => n

end Node

abbrev Sane (keywords : List Node) : Prop := ∀ k ∈ keywords, k.handed.hasBadSet = false

namespace Rule

theorem keywordNamed_eq (name : String) (keywords : List Node) :
    keywordNamed name keywords = (keywords.find? fun k => k.keywordName == some name).map Node.handed := by
  unfold keywordNamed
  induction keywords with
  | nil => rfl
  | cons k rest ih =>
    rw [List.findSome?_cons, List.find?_cons]
    cases k with
    | keyword span arg value =>
      simp only [Node.keywordName]
      cases arg == some name with
      | true => rfl
      | false => exact ih
    | _ => exact ih

theorem isSome_keywordNamed_reverse (name : String) (keywords : List Node) :
    (keywordNamed name keywords.reverse).isSome = (keywordNamed name keywords).isSome := by
  rw [keywordNamed_eq, keywordNamed_eq, Option.isSome_map, Option.isSome_map, Bool.eq_iff_iff]
  simp only [List.find?_isSome, mem_reverse]

end Rule

namespace Value

def key (arg : Option String) : Value := (arg.map str).getD .null

theorem equals_text_iff {v : Value} {t : Text} : v.equals (.text t) = true ↔ v = .text t := by
  cases v with
  | text own => simp [equals]
  | _ => simp [equals, number?]

theorem equals_str_iff {v : Value} {name : String} : v.equals (str name) = true ↔ v = str name := equals_text_iff

theorem str_inj {a b : String} : str a = str b ↔ a = b := by rw [str, str, text.injEq, Text.ofString_inj]

theorem eq_str_of_equals {s : String} {v : Value} (is : (str s).equals v = true) : v = str s := by
  cases v with
  | text own => exact congrArg text (Eq.symm (by simpa [str, equals] using is))
  | _ => simp [str, equals, number?] at is

theorem key_equals_iff {arg : Option String} {name : String} : (key arg).equals (str name) = true ↔ arg = some name := by
  rw [equals_str_iff]
  cases arg with
  | none => simp [key, str]
  | some a => simp [key, str_inj]

theorem lookup_put (k v : Value) (es : Fields) (name : String) :
    lookup (str name) (put k v es) = if k.equals (str name) then some v else lookup (str name) es := by
  split
  · rename_i asked
    rw [equals_str_iff.mp asked, put]
    split
    · rename_i present
      induction es with
      | nil => simp at present
      | cons e rest ih =>
        cases same : e.1.equals (str name) with
        | true => simp [lookup, same]
        | false => simpa [lookup, same] using ih (by simpa [same] using present)
    · rename_i absent
      induction es with
      | nil => exact if_pos (equals_str_iff.mpr rfl)
      | cons e rest ih =>
        rw [any_cons, Bool.or_eq_true, not_or] at absent
        rw [cons_append, lookup, if_neg absent.1, ih absent.2]
  · rename_i other
    rw [put]
    split
    · clear * - other
      induction es with
      | nil => rfl
      | cons e rest ih =>
        have unnamed (is : e.1.equals k = true) : ¬ e.1.equals (str name) = true := by
          intro named
          rw [equals_str_iff.mp named] at is
          exact other (equals_str_iff.mpr (eq_str_of_equals is))
        rw [map_cons, lookup]
        split
        · rename_i own
          rw [lookup, if_neg (unnamed own), if_neg (unnamed own), ih]
        · rw [lookup, ih]
    · clear * - other
      induction es with
      | nil => exact if_neg other
      | cons e rest ih => rw [cons_append, lookup, lookup, ih]

theorem lookup_foldl_put {α : Type} (arg : α → Option String) (value : α → Value) (items : List α) (name : String) :
    lookup (str name) (items.foldl (fun es a => put (key (arg a)) (value a) es) []) =
      (items.reverse.find? fun a => arg a == some name).map value := by
  induction items using List.reverseRecOn with
  | nil => rfl
  | append_singleton items a ih =>
    rw [foldl_append, foldl_cons, foldl_nil, reverse_append, reverse_singleton, singleton_append, List.find?_cons,
      lookup_put, ih]
    by_cases asked : arg a = some name
    · rw [if_pos (key_equals_iff.mpr asked), asked, beq_self_eq_true]
      rfl
    · rw [if_neg (mt key_equals_iff.mp asked), beq_false_of_ne asked]

end Value

namespace Context

/-- The place is a call, and its function has a name, which may be empty. -/
structure Calls (c : Context) (span : Span) (func : Node) (args keywords : List Node) : Prop where
  node : c.node = some (.call span func args keywords)
  call : c.call = some (.call span func args keywords)
  qualname : ∃ qualname, c.qualname = some qualname
  name : ∃ name, c.name = some name

namespace Calls

variable {c : Context} {span : Span} {func : Node} {args keywords : List Node}

section

variable (site : c.Calls span func args keywords)

include site

theorem theNode : c.theNode = .ok (.call span func args keywords) := by
  rw [Context.theNode, site.node]
  rfl

theorem callParts : c.callParts = .ok (args, keywords) := by rw [Context.callParts, site.node]

theorem args? : c.args? = some args := by rw [Context.args?, site.call]

theorem callArgsCount : c.callArgsCount = some args.length := by
  rw [Context.callArgsCount, site.args?]
  rfl

theorem theQualname : Answered c.theQualname := by
  obtain ⟨qualname, named⟩ := site.qualname
  rw [Context.theQualname, named]
  exact answered_ok qualname

theorem qualnameParts : Answered c.qualnameParts := Brings.map site.theQualname fun _ _ => trivial

theorem callArgs (clear : ∀ n ∈ args, n.hasBadSet = false) : c.callArgs = .ok (args.map Node.argument) := by
  rw [Context.callArgs, site.args?]
  exact mapM_of_ok fun n mem => Node.argumentValue_eq (clear n mem)

theorem exists_callArgs_error (mem : n ∈ args) (bad : n.hasBadSet) : ∃ fault, c.callArgs = .error fault := by
  rw [← not_answered_iff, Context.callArgs, site.args?]
  rintro ⟨vs, spelled, -⟩
  obtain ⟨v, spelled⟩ := exists_mapM_iff.mp ⟨vs, spelled⟩ n mem
  obtain ⟨fault, failed⟩ := Node.exists_argumentValue_error bad
  rw [failed] at spelled
  cases spelled

end

def Given (keywords : List Node) (given : Fields) : Prop :=
  ∀ name, Value.lookup (.str name) given = (Rule.keywordNamed name keywords.reverse).map Node.argument

section

variable (site : c.Calls span func args keywords)

include site

theorem callKeywords_eq :
    c.callKeywords = (do
      let pairs ← keywords.mapM fun k => do return (Value.key k.keywordName, ← k.handed.argumentValue)
      return some (pairs.foldl (fun acc (k, v) => Value.put k v acc) [])) := by
  rw [Context.callKeywords, site.call]
  dsimp only
  congr 2
  funext k
  cases k <;> rfl

theorem callKeywords (clear : Sane keywords) : ∃ given, c.callKeywords = .ok (some given) ∧ Given keywords given := by
  have spelled : (keywords.mapM fun k => do return (Value.key k.keywordName, ← k.handed.argumentValue)) =
      .ok (keywords.map fun k => (Value.key k.keywordName, k.handed.argument)) := by
    apply mapM_of_ok
    intro k mem
    rw [Node.argumentValue_eq (clear k mem)]
    rfl
  refine ⟨_, by rw [callKeywords_eq site, spelled]; rfl, ?_⟩
  intro name
  rw [foldl_map, Value.lookup_foldl_put, Rule.keywordNamed_eq, Option.map_map]
  rfl

theorem exists_callKeywords_error {k : Node} (mem : k ∈ keywords)
    (bad : k.handed.hasBadSet) : ∃ fault, c.callKeywords = .error fault := by
  rw [← not_answered_iff, callKeywords_eq site]
  rintro ⟨given, spelled, -⟩
  obtain ⟨pairs, spelled, -⟩ := bind_eq_ok.mp spelled
  obtain ⟨_, spelled⟩ := exists_mapM_iff.mp ⟨pairs, spelled⟩ k mem
  obtain ⟨fault, failed⟩ := Node.exists_argumentValue_error bad
  rw [failed] at spelled
  cases spelled

end

/-- Every argument of the call spells a value. -/
structure Clear (args keywords : List Node) : Prop where
  positional : ∀ n ∈ args, n.hasBadSet = false
  named : Sane keywords

theorem Clear.at_ (clear : Clear args keywords) (i : Nat) : ∀ n ∈ args[i]?, n.hasBadSet = false :=
  fun n here => clear.positional n (mem_of_getElem? here)

section

variable (site : c.Calls span func args keywords)

include site

theorem keywordsOr (clear : Clear args keywords) (fault : Fault) : Brings (c.keywordsOr fault) (Given keywords) := by
  obtain ⟨_, asked, found⟩ := site.callKeywords clear.named
  rw [Context.keywordsOr, asked]
  exact Brings.pure found

theorem argValue (clear : Sane keywords) (name : String) :
    c.argValue name = .ok (((Rule.keywordNamed name keywords.reverse).map Node.argument).getD .null) := by
  obtain ⟨_, asked, found⟩ := site.callKeywords clear
  rw [Context.argValue, asked, ← found name]
  rfl

theorem checkArgValue (clear : Clear args keywords) (name : String)
    (values : Value) : Answered (c.checkArgValue name values) := by
  rw [Context.checkArgValue, argValue site clear.named]
  apply Brings.bind (answered_ok _)
  intro v _
  split
  · exact answered_ok _
  · split
    · exact answered_ok _
    · exact answered_ok _

theorem argIs (clear : Clear args keywords) (name : String) (value : Value) : Answered (c.argIs name value) := by
  apply Brings.bind (checkArgValue site clear name value)
  intro known _
  exact answered_ok _

theorem argAt {i : Nat} (clear : ∀ n ∈ args[i]?, n.hasBadSet = false) :
    c.argAt i = .ok ((args[i]?.map Node.argument).getD .null) := by
  simp only [Context.argAt, site.args?]
  cases here : args[i]? with
  | none =>
    have beyond : args.length ≤ i := List.getElem?_eq_none_iff.mp here
    have far : (args.length : Int) ≤ i := by omega
    simp [far]
  | some n =>
    obtain ⟨inside, rfl⟩ := List.getElem?_eq_some_iff.mp here
    have near : ¬ (args.length : Int) ≤ i := by omega
    have forward : ¬ (i : Int) < 0 := by omega
    have nonempty : args.isEmpty = false := by
      cases args with
      | nil => simp at inside
      | cons => rfl
    have spelled := Node.argumentValue_eq (clear _ here)
    simp [near, forward, nonempty, spelled, inside]

end

end Calls

end Context

namespace Value

theorem any_equals_str (es : Fields) (name : String) :
    (es.any fun e => e.1.equals (str name)) = (lookup (str name) es).isSome := by
  induction es with
  | nil => rfl
  | cons e rest ih =>
    obtain ⟨k, v⟩ := e
    rw [any_cons, ih, lookup]
    cases k.equals (str name) <;> rfl

theorem lookup_put_self (es : Fields) (name : String) (v : Value) : lookup (str name) (put (str name) v es) = some v := by
  rw [lookup_put, if_pos (equals_str_iff.mpr rfl)]

theorem lookup_put_of_ne {key name : String} (other : key ≠ name) (es : Fields) (v : Value) :
    lookup (str name) (put (str key) v es) = lookup (str name) es := by
  rw [lookup_put, if_neg fun is => other (str_inj.mp (equals_str_iff.mp is))]

theorem put_put (es : Fields) (name : String) (v w : Value) :
    put (str name) w (put (str name) v es) = put (str name) w es := by
  have there : ((put (str name) v es).any fun e => e.1.equals (str name)) = true := by
    rw [any_equals_str, lookup_put_self, Option.isSome_some]
  rw [put, if_pos there]
  unfold put
  split
  · rw [map_map]
    apply map_congr_left
    intro e _
    cases same : e.1.equals (str name) <;> simp [same]
  · rename_i absent
    have self : (str name).equals (str name) = true := equals_str_iff.mpr rfl
    have apart : es.map (fun e => if e.1.equals (str name) then (e.1, w) else e) = es := by
      conv_rhs => rw [← map_id es]
      apply map_congr_left
      intro e mem
      exact if_neg fun same => absent (any_eq_true.mpr ⟨e, mem, same⟩)
    rw [map_append, apart]
    simp [self]

end Value

namespace Settings

variable {name : String}

theorem follow_cons_dict (level : String) (rest : List String) (es : Fields) :
    follow (level :: rest) (.dict es) = (Value.lookup (.str level) es).elim (.ok .null) (follow rest) := by
  rw [follow]
  cases es with
  | nil => rfl
  | cons e es =>
    have holds : (Value.dict (e :: es)).holds (.str level) = .ok (Value.lookup (.str level) (e :: es)).isSome := by
      rw [Value.holds, Value.any_equals_str]
      exact if_pos rfl
    have truthy : (Value.dict (e :: es)).truthy = true := rfl
    rw [if_pos truthy, holds]
    cases found : Value.lookup (.str level) (e :: es) with
    | none => rfl
    | some v =>
      rw [Value.entry, found]
      rfl

theorem option_dict (plain : splitString '.' name = [name]) (es : Fields) :
    option ⟨.dict es⟩ name = .ok ((Value.lookup (.str name) es).getD .null) := by
  rw [option, plain, follow_cons_dict]
  cases Value.lookup (.str name) es <;> rfl

theorem exists_dict_of_option (plain : splitString '.' name = [name]) {s : Settings} {v : Value}
    (set : s.option name = .ok v) (truthy : v.truthy) :
    ∃ es, s.content = .dict es ∧ Value.lookup (.str name) es = some v := by
  obtain ⟨content⟩ := s
  have nothing : v ≠ .null := by
    rintro rfl
    cases truthy
  cases content with
  | dict es =>
    rw [option_dict plain] at set
    cases found : Value.lookup (.str name) es with
    | none => exact absurd (by simpa [found] using set.symm) nothing
    | some w => simpa [found] using set
  | _ =>
    rw [option, plain, follow] at set
    split at set
    · obtain ⟨held, -, set⟩ := bind_eq_ok.mp set
      cases held with
      | false => exact absurd (pure_eq_ok.mp set).symm nothing
      | true =>
        obtain ⟨w, entered, -⟩ := bind_eq_ok.mp set
        cases entered
    · exact absurd (pure_eq_ok.mp set).symm nothing

end Settings

end SourceAudit
