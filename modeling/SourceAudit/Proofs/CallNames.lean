import SourceAudit.Proofs.Bindings
import SourceAudit.Grammar.Statement

/-! The names by which calls are known. No import binds a dotted name, so only the root of a callee is replaced. -/

namespace SourceAudit

open List

variable {names : List Node}

def Undotted (name : String) : Prop := '.' ∉ name.toList

def Token.Plain (t : Token) : Prop := ∀ spelling name, t.lexeme = .word spelling name → Undotted name

namespace Lexer

theorem undotted_of_isIdentifier {cs : List Char} (read : Identifier.isIdentifier cs) : Undotted (String.ofList cs) := by
  cases cs with
  | nil => cases read
  | cons c cs =>
    rw [Identifier.isIdentifier, Bool.and_eq_true, all_eq_true] at read
    rw [Undotted, String.toList_ofList, mem_cons]
    rintro (rfl | later)
    · exact absurd read.1 (by decide)
    · exact absurd (read.2 _ later) (by decide)

section

variable {s s' : State} (plain : ∀ t ∈ s.tokens, t.Plain)

include plain

theorem plain_scanToken {blank lineStart : Bool}
    (read : scanToken blank s = .ok (s', lineStart)) : ∀ t ∈ s'.tokens, t.Plain := by
  unfold scanToken at read
  dsimp only at read
  split at read
  · cases read
    exact plain
  repeat' split at read
  all_goals cases read
  all_goals try exact plain
  all_goals refine forall_mem_cons.mpr ⟨?_, plain⟩
  all_goals rintro spelling name ⟨⟩
  -- Of the new tokens only a word stands for a name.
  rename_i accepted
  apply undotted_of_isIdentifier
  simp only [Bool.not_eq_true', Bool.not_eq_false, Bool.and_eq_true] at accepted
  exact accepted.2

theorem plain_indentTo {target : Indent} (read : indentTo target s = .ok s') : ∀ t ∈ s'.tokens, t.Plain := by
  unfold indentTo at read
  dsimp only at read
  split at read
  · repeat' split at read
    all_goals cases read
    exact forall_mem_cons.mpr ⟨by rintro _ _ ⟨⟩, plain⟩
  · rcases closed : closeBlocks target s.blocks with _ | ⟨blocks, n⟩
    · rw [closed] at read
      cases read
    · rw [closed] at read
      cases read
      rintro t member spelling name own
      rcases mem_append.mp member with new | old
      · rw [(mem_replicate.mp new).2] at own
        cases own
      · exact plain t old spelling name own

theorem plain_scanMargin {blank : Bool} (read : scanMargin s = .ok (s', blank)) : ∀ t ∈ s'.tokens, t.Plain := by
  unfold scanMargin at read
  rcases measured : margin {} s.cursor s.cursor.rest with why | ⟨m, k⟩
  · rw [measured] at read
    cases read
  · rw [measured] at read
    rcases ite_eq_iff.mp read with ⟨-, same⟩ | ⟨-, further⟩
    · cases same
      exact plain
    · revert further
      generalize moved : indentTo _ _ = next
      rcases next with why | next
      · rintro ⟨⟩
      · rintro ⟨⟩
        exact plain_indentTo (s := { s with cursor := k }) plain moved

end

theorem plain_scan (fuel : Nat) {s : State} (plain : ∀ t ∈ s.tokens, t.Plain) (lineStart blank : Bool) :
    ∀ t ∈ scan fuel s lineStart blank, t.Plain := by
  induction fuel generalizing s lineStart blank with
  | zero => exact forall_mem_cons.mpr ⟨by rintro _ _ ⟨⟩, plain⟩
  | succ fuel ih =>
    unfold scan
    dsimp only
    repeat' split
    all_goals try exact forall_mem_cons.mpr ⟨by rintro _ _ ⟨⟩, plain⟩
    · exact ih (plain_scanMargin plain ‹_›) _ _
    · exact ih (plain_scanToken plain ‹_›) _ _

theorem plain_tokens (line : Nat) (cs : List Char) : ∀ t ∈ tokens line cs, t.Plain := by
  intro t member
  exact plain_scan _ (by rintro _ ⟨⟩) _ _ t (mem_reverse.mp member)

end Lexer

namespace Grammar

def Reads {α : Type} (rule : Parse α) (kind : α → Prop) : Prop :=
  ∀ feed a feed', (∀ t ∈ feed.tokens, t.Plain) → rule.run feed = .ok (a, feed') → (∀ t ∈ feed'.tokens, t.Plain) ∧ kind a

section Reads

variable {α β : Type} {kind : α → Prop} {other : β → Prop} {rule : Parse α}

theorem Reads.pure {a : α} (own : kind a) : Reads (pure a) kind := by
  rintro feed _ _ plain ⟨⟩
  exact ⟨plain, own⟩

theorem Reads.bind {next : α → Parse β} (first : Reads rule kind) (second : ∀ a, kind a → Reads (next a) other) :
    Reads (rule >>= next) other := by
  intro feed b last plain read
  rw [StateT.run_bind] at read
  rcases begun : rule.run feed with _ | ⟨a, feed'⟩
  · rw [begun] at read
    cases read
  · rw [begun] at read
    obtain ⟨left, own⟩ := first feed a feed' plain begun
    exact second a own feed' b last left read

theorem Reads.ite {c : Prop} [Decidable c] {rule' : Parse α} (yes : Reads rule kind) (no : Reads rule' kind) :
    Reads (if c then rule else rule') kind := by
  split
  · exact yes
  · exact no

theorem reads_get : Reads get fun _ => True := by
  rintro feed _ _ plain ⟨⟩
  exact ⟨plain, trivial⟩

theorem reads_peek : Reads peek Token.Plain := by
  rintro ⟨_ | ⟨t, ts⟩, left, endLine, endColumn⟩ _ _ plain ⟨⟩
  · exact ⟨plain, by rintro _ _ ⟨⟩⟩
  · exact ⟨plain, (forall_mem_cons.mp plain).1⟩

theorem reads_advance : Reads advance fun _ => True := by
  rintro ⟨_ | ⟨t, ts⟩, left, endLine, endColumn⟩ _ _ plain ⟨⟩
  · exact ⟨plain, trivial⟩
  · refine ⟨?_, trivial⟩
    dsimp only
    split <;> exact (forall_mem_cons.mp plain).2

theorem reads_reject : Reads (reject : Parse α) kind := by
  refine reads_peek.bind fun t _ => ?_
  rintro feed a feed' plain read
  split at read <;> cases read

section

variable (s : String)

include s

theorem reads_nextIsMark : Reads (nextIsMark s) fun _ => True := reads_peek.bind fun _ _ => .pure trivial

theorem reads_nextIsWord : Reads (nextIsWord s) fun _ => True := reads_peek.bind fun _ _ => .pure trivial

theorem reads_tryMark : Reads (tryMark s) fun _ => True :=
  reads_peek.bind fun _ _ => .ite (reads_advance.bind fun _ _ => .pure trivial) (.pure trivial)

theorem reads_tryWord : Reads (tryWord s) fun _ => True :=
  reads_peek.bind fun _ _ => .ite (reads_advance.bind fun _ _ => .pure trivial) (.pure trivial)

theorem reads_mark : Reads (mark s) fun _ => True := (reads_tryMark s).bind fun _ _ => .ite reads_reject (.pure trivial)

theorem reads_word : Reads (word s) fun _ => True := (reads_tryWord s).bind fun _ _ => .ite reads_reject (.pure trivial)

end

theorem reads_spanFrom (t : Token) : Reads (spanFrom t) fun _ => True := reads_get.bind fun _ _ => .pure trivial

theorem reads_name : Reads name Undotted := by
  refine reads_peek.bind fun t plain => ?_
  rcases named : t.name? with _ | n
  · exact reads_reject
  · refine reads_advance.bind fun _ _ => .pure ?_
    unfold Token.name? at named
    split at named
    next spelling name own =>
        split at named
        · cases named
        · cases named
          exact plain spelling n own
    · cases named

theorem reads_many {rule : Parse (Option α)} (each : Reads rule fun found => ∀ a ∈ found, kind a) :
    Reads (many rule) fun items => ∀ a ∈ items, kind a := by
  refine reads_get.bind fun feed _ => ?_
  induction feed.left with
  | zero => exact .pure (by simp)
  | succ n ih =>
    refine each.bind fun found own => ?_
    rcases found with _ | a
    · exact .pure (by simp)
    · exact ih.bind fun rest others => .pure (forall_mem_cons.mpr ⟨own a rfl, others⟩)

theorem reads_commaSeparated {stops : Parse Bool} (ends : Reads stops fun _ => True)
    (item : Reads rule kind) : Reads (commaSeparated stops rule) fun found => ∀ a ∈ found.1, kind a := by
  refine item.bind fun first own => ?_
  refine (reads_many ?_).bind fun (rest : List (Option α)) (others : ∀ found ∈ rest, ∀ a ∈ found, kind a) => .pure ?_
  · refine (reads_nextIsMark ",").bind fun _ _ => .ite (reads_advance.bind fun _ _ => ?_) (.pure (by simp))
    refine ends.bind fun _ _ => .ite ?_ ?_
    · exact (reads_nextIsMark ",").bind fun _ _ => .ite reads_reject (.pure (by simp))
    exact item.bind fun a good => .pure (by simpa using good)
  · refine forall_mem_cons.mpr ⟨own, fun a member => ?_⟩
    obtain ⟨found, listed, same⟩ := mem_filterMap.mp member
    exact others found listed a same

theorem reads_listed (item : Reads rule kind) : Reads (listed rule) fun items => ∀ a ∈ items, kind a := by
  refine (reads_commaSeparated (.pure trivial) item).bind fun found each => ?_
  exact .ite reads_reject (.pure each)

def Renamed (kind : String → Prop) : Node → Prop
  | .importedName _ id asName => kind id ∧ ∀ short ∈ asName, Undotted short
  | _ => False

theorem reads_aliased {rule : Parse String} {kind : String → Prop} (read : Reads rule kind) :
    Reads (aliased rule) (Renamed kind) := by
  refine reads_peek.bind fun start _ => read.bind fun id own => ?_
  have rest : ∀ asName : Option String, (∀ short ∈ asName, Undotted short) →
      Reads (do return Node.importedName (← spanFrom start) id asName) (Renamed kind) := by
    intro asName good
    exact (reads_spanFrom start).bind fun _ _ => .pure ⟨own, good⟩
  refine (reads_tryWord "as").bind fun _ _ => .ite ?_ (rest none (by simp))
  exact reads_name.bind fun short good => rest (some short) (by simpa using good)

theorem reads_dottedName : Reads dottedName fun _ => True := by
  refine reads_name.bind fun first _ => (reads_many ?_).bind fun rest (_ : ∀ n ∈ rest, Undotted n) => .pure trivial
  refine (reads_tryMark ".").bind fun _ _ => .ite ?_ (.pure (by simp))
  exact reads_name.bind fun n good => .pure (by simpa using good)

end Reads

def Tidy (n : Node) : Prop := ∀ pair ∈ n.renamings, Undotted pair.1

theorem tidy_modules {kind : String → Prop} (each : ∀ name ∈ names, Renamed kind name)
    (span : Span) : Tidy (.importStmt span names) := by
  intro pair member
  obtain ⟨name, listed, same⟩ := mem_filterMap.mp member
  have own := each name listed
  split at same
  · cases same
    exact own.2 _ rfl
  · cases same

theorem tidy_members (each : ∀ name ∈ names, Renamed Undotted name) (span : Span)
    (source : Option String) (level : Nat) : Tidy (.importFrom span source names level) := by
  cases source with
  | none => exact tidy_modules each span
  | some source =>
    intro pair member
    obtain ⟨name, listed, same⟩ := mem_filterMap.mp member
    have own := each name listed
    split at same
    next id asName =>
        cases same
        cases asName with
        | none => exact own.1
        | some short => exact own.2 short rfl
    · cases same

theorem reads_importStatement : Reads importStatement Tidy := by
  refine reads_peek.bind fun start _ => (reads_word "import").bind fun _ _ => ?_
  refine (reads_listed (reads_aliased reads_dottedName)).bind fun names each => ?_
  exact (reads_spanFrom start).bind fun span _ => .pure (tidy_modules each span)

theorem reads_importedNames : Reads importedNames fun names => ∀ name ∈ names, Renamed Undotted name := by
  refine reads_peek.bind fun t _ => (reads_tryMark "*").bind fun _ _ => .ite ?_ ?_
  · refine (reads_spanFrom t).bind fun span _ => .pure ?_
    exact forall_mem_singleton.mpr ⟨by unfold Undotted; decide, by simp⟩
  · refine (reads_tryMark "(").bind fun _ _ => .ite ?_ (reads_listed (reads_aliased reads_name))
    refine (reads_commaSeparated (reads_nextIsMark ")") (reads_aliased reads_name)).bind fun found each => ?_
    exact (reads_mark ")").bind fun _ _ => .pure each

theorem reads_fromStatement : Reads fromStatement Tidy := by
  refine reads_peek.bind fun start _ => (reads_word "from").bind fun _ _ => ?_
  refine (reads_many ?_).bind fun dots (_ : ∀ n ∈ dots, True) => ?_
  · refine (reads_tryMark ".").bind fun _ _ => .ite (.pure (by simp)) ?_
    exact (reads_tryMark "...").bind fun _ _ => .ite (.pure (by simp)) (.pure (by simp))
  · have rest : ∀ source, Reads (do
        word "import"
        let names ← importedNames
        return .importFrom (← spanFrom start) source names (dots.foldl (· + ·) 0)) Tidy := by
      intro source
      refine (reads_word "import").bind fun _ _ => reads_importedNames.bind fun names each => ?_
      exact (reads_spanFrom start).bind fun span _ => .pure (tidy_members each span source _)
    refine (reads_nextIsWord "import").bind fun _ _ => .ite (rest none) ?_
    exact reads_dottedName.bind fun source _ => rest (some source)

end Grammar

/-- An import statement, as it can stand at any place of any text. -/
def Node.IsImport (n : Node) : Prop :=
  ∃ line cs feed feed', feed.tokens <:+ Lexer.tokens line cs ∧
    (Grammar.importStatement.run feed = .ok (n, feed') ∨ Grammar.fromStatement.run feed = .ok (n, feed'))

theorem Node.IsImport.tidy {n : Node} (read : n.IsImport) : Grammar.Tidy n := by
  obtain ⟨line, cs, feed, feed', part, read⟩ := read
  have plain : ∀ t ∈ feed.tokens, t.Plain := fun t member => Lexer.plain_tokens line cs t (part.subset member)
  rcases read with whole | members
  · exact (Grammar.reads_importStatement feed n feed' plain whole).2
  · exact (Grammar.reads_fromStatement feed n feed' plain members).2

theorem Bindings.undotted_of_lookup {statements : List Node} (read : ∀ s ∈ statements, s.IsImport) {name target : String}
    (bound : (statements.foldl after {}).aliases.lookup name = some target) : Undotted name := by
  rw [(extends_foldl after Node.imported Node.renamings extends_after statements {}).aliases] at bound
  obtain ⟨_, _, split, -⟩ := lookup_eq_some_iff.mp bound
  have member : (name, target) ∈ statements.flatMap Node.renamings := by
    have listed : (name, target) ∈ (statements.flatMap Node.renamings).reverse ++ [] := split ▸ by simp
    simpa using listed
  obtain ⟨s, known, own⟩ := mem_flatMap.mp member
  exact (read s known).tidy (name, target) own

namespace Node

/-- The expression at which a chain of attributes begins. -/
def root : Node → Node
  | attr _ value _ _ => value.root
  | n => n

def path : Node → String
  | attr _ value id _ => value.path ++ "." ++ id
  | _ => ""

/-- What a root is known as: a name as what it stands for, anything else as nothing. -/
def rootName (aliases : Aliases) : Node → String
  | name _ id _ => aliases.resolve id
  | _ => ""

section

variable {aliases : Aliases} (undotted : ∀ name target, aliases.lookup name = some target → Undotted name)

include undotted

theorem resolve_of_undotted (front back : String) : aliases.resolve (front ++ "." ++ back) = front ++ "." ++ back := by
  rw [Aliases.resolve]
  cases found : aliases.lookup (front ++ "." ++ back) with
  | none => rfl
  | some target => exact absurd (undotted _ target found) (by simp [Undotted])

theorem dottedName_eq (n : Node) : n.dottedName aliases = n.root.rootName aliases ++ n.path := by
  fun_induction root n with
  | case1 span value id ctx ih =>
    rw [dottedName, ih, path, resolve_of_undotted undotted]
    simp only [String.append_assoc]
  | case2 n other =>
    cases n
    case attr span value id ctx => exact absurd rfl (other span value id ctx)
    all_goals simp [dottedName, rootName, path]

end

/-- A call is known by what the root of its callee stands for and the attributes of the chain, whatever was imported. -/
theorem callName_eq (statements : List Node) (read : ∀ s ∈ statements, s.IsImport) :
    (∀ name target, (statements.foldl Bindings.after {}).aliases.lookup name = some target → '.' ∉ name.toList) ∧
    ∀ span callee args keywords,
      (call span callee args keywords).callName (statements.foldl Bindings.after {}).aliases =
        callee.root.rootName (statements.foldl Bindings.after {}).aliases ++ callee.path :=
  ⟨fun _ _ => Bindings.undotted_of_lookup read, fun _ callee _ _ =>
    dottedName_eq (fun _ _ => Bindings.undotted_of_lookup read) callee⟩

def pathImport : Node := .importFrom ⟨1, 0, 1, 24⟩ (some "os") [.importedName ⟨1, 15, 1, 24⟩ "path" (some "p")] 0

theorem isImport_pathImport : pathImport.IsImport := by
  have read : (Grammar.fromStatement.run (.ofTokens (Lexer.tokens 1 "from os import path as p\n".toList))).map
      Prod.fst = .ok pathImport := by
    cbv
  revert read
  generalize ran : Grammar.fromStatement.run _ = result
  rcases result with _ | ⟨n, feed'⟩
  · rintro ⟨⟩
  · rintro ⟨⟩
    exact ⟨1, _, _, feed', suffix_rfl, .inr ran⟩

def chainCall (id : String) (attributes : List String) : Node :=
  .call ⟨2, 0, 2, 0⟩ (attributes.foldl (.attr ⟨2, 0, 2, 0⟩ · · .load) (.name ⟨2, 0, 2, 0⟩ id .load)) [] []

theorem callName_join : (∀ s ∈ [pathImport], s.IsImport) ∧
    (chainCall "p" ["join"]).callName (Bindings.after {} pathImport).aliases = "os.path.join" ∧
    (chainCall "x" ["p", "join"]).callName (Bindings.after {} pathImport).aliases = "x.p.join" := by
  have read : ∀ s ∈ [pathImport], s.IsImport := forall_mem_singleton.mpr isImport_pathImport
  have named := (callName_eq [pathImport] read).2
  exact ⟨read, (named _ _ [] []).trans (by decide), (named _ _ [] []).trans (by decide)⟩

end Node

end SourceAudit
