import SourceAudit.Proofs.Entries
import SourceAudit.Scan.Survey

/-! The names that imports bind, and for each local name the binding that came last. -/

namespace SourceAudit

open List

theorem Aliases.lookup_bind (as : Aliases) (name target other : String) :
    (as.bind name target).lookup other = if other = name then some target else as.lookup other := by
  rw [Aliases.bind, Entries.lookup_put]
  cases as.lookup name <;> rfl

namespace Node

def imported : Node → List String
  | importStmt _ names | importFrom _ none names _ =>
    names.filterMap fun | .importedName _ id _ => some id | _ => none
  | importFrom _ (some source) names _ =>
    names.filterMap fun | .importedName _ id _ => some (source ++ "." ++ id) | _ => none
  | _ => []

def renamings : Node → List (String × String)
  | importStmt _ names | importFrom _ none names _ =>
    names.filterMap fun | .importedName _ id (some short) => some (short, id) | _ => none
  | importFrom _ (some source) names _ =>
    names.filterMap fun
      | .importedName _ id asName => some (asName.getD id, source ++ "." ++ id)
      | _ => none
  | _ => []

end Node

namespace Bindings

/-- Bindings know what `start` knows and what has been brought since, the last of equal local names. -/
structure Extends (start : Bindings) (names : List String) (pairs : List (String × String))
    (b : Bindings) : Prop where
  imports : ∀ name, name ∈ b.imports ↔ name ∈ start.imports ∨ name ∈ names
  aliases : ∀ short, b.aliases.lookup short = (pairs.reverse ++ start.aliases).lookup short

theorem Extends.refl (b : Bindings) : Extends b [] [] b := ⟨by simp, by simp⟩

theorem Extends.trans {start middle last : Bindings} {names more : List String}
    {pairs others : List (String × String)} (first : start.Extends names pairs middle)
    (second : middle.Extends more others last) : start.Extends (names ++ more) (pairs ++ others) last := by
  constructor
  · intro name
    rw [second.imports, first.imports, mem_append, or_assoc]
  · intro short
    rw [second.aliases, lookup_append, first.aliases, ← lookup_append, reverse_append, append_assoc]

theorem extends_foldl {α : Type} (step : Bindings → α → Bindings) (names : α → List String)
    (pairs : α → List (String × String)) (each : ∀ b a, Extends b (names a) (pairs a) (step b a))
    (items : List α) (b : Bindings) : b.Extends (items.flatMap names) (items.flatMap pairs) (items.foldl step b) := by
  induction items generalizing b with
  | nil => exact Extends.refl b
  | cons a rest ih => exact (each b a).trans (ih (step b a))

section

variable (b : Bindings)

include b

theorem mem_addImport (name other : String) : other ∈ (b.addImport name).imports ↔ other ∈ b.imports ∨ other = name := by
  unfold addImport
  split
  case isTrue known =>
      have mem : name ∈ b.imports := by simpa using known
      constructor
      · exact Or.inl
      · rintro (there | rfl)
        · exact there
        · exact mem
  case isFalse => simp

theorem aliases_addImport (name : String) : (b.addImport name).aliases = b.aliases := by
  unfold addImport
  split <;> rfl

theorem extends_addImport (name : String) : b.Extends [name] [] (b.addImport name) :=
  ⟨by simp [mem_addImport], by simp [aliases_addImport]⟩

theorem extends_bind (short target : String) :
    b.Extends [] [(short, target)] { b with aliases := b.aliases.bind short target } := by
  refine ⟨by simp, ?_⟩
  intro other
  rw [Aliases.lookup_bind]
  simp [Entries.lookup_cons]

theorem extends_importModule (n : Node) :
    b.Extends (Option.toList (match n with | .importedName _ name _ => some name | _ => none))
      (Option.toList (match n with | .importedName _ name (some short) => some (short, name) | _ => none))
      (b.importModule n) := by
  cases n
  case importedName span name asName =>
      cases asName with
      | none => exact extends_addImport b name
      | some short => exact (extends_addImport b name).trans (extends_bind _ short name)
  all_goals exact Extends.refl b

end

theorem extends_importMember (module : String) (b : Bindings) (n : Node) :
    b.Extends (Option.toList (match n with | .importedName _ name _ => some (module ++ "." ++ name) | _ => none))
      (Option.toList (match n with
        | .importedName _ name asName => some (asName.getD name, module ++ "." ++ name)
        | _ => none)) (b.importMember module n) := by
  cases n
  case importedName span name asName => exact (extends_addImport b _).trans (extends_bind _ (asName.getD name) _)
  all_goals exact Extends.refl b

theorem extends_after (b : Bindings) (n : Node) : b.Extends n.imported n.renamings (b.after n) := by
  cases n
  case importStmt span names =>
      simpa [Node.imported, Node.renamings, filterMap_eq_flatMap_toList, after] using
        extends_foldl importModule _ _ extends_importModule names b
  case importFrom span module names level =>
      cases module with
      | none =>
        simpa [Node.imported, Node.renamings, filterMap_eq_flatMap_toList, after] using
          extends_foldl importModule _ _ extends_importModule names b
      | some module =>
        simpa [Node.imported, Node.renamings, filterMap_eq_flatMap_toList, after] using
          extends_foldl (importMember module) _ _ (extends_importMember module) names b
  all_goals exact Extends.refl b

end Bindings

end SourceAudit
