import Mathlib
import SourceAudit.CommandLine.Arguments

/-! Command lines that are put together: long options in front, and words behind two hyphens at the end. -/

namespace SourceAudit.CommandLine

open List

variable {κ : Type} {flags : List (Flag κ)}

namespace Use

def spelled (u : Use κ) : String := u.name ++ "=" ++ u.argument.getD ""

/-- The use can be spelled in one word: the name is that of the flag, which takes an argument, and one is given. -/
structure Spellable (flags : List (Flag κ)) (u : Use κ) : Prop where
  named : Word.flagNamed? flags u.name = some u.flag
  long : '-' :: '-' :: (u.name.toList.drop 2) = u.name.toList
  free : '=' ∉ u.name.toList
  takes : u.flag.takes ≠ .nothing
  given : u.argument.isSome

def request (u : Use κ) : Request κ := .flag u.flag.key u.argument

end Use

namespace Word

def EqualsFree (flags : List (Flag κ)) : Prop := ∀ f ∈ flags, ∀ n ∈ f.names, '=' ∉ n.toList

theorem toList_spelled (u : Use κ) : u.spelled.toList = u.name.toList ++ '=' :: (u.argument.getD "").toList := by
  simp [Use.spelled]

variable {u : Use κ}

theorem atEquals_spelled (spellable : u.Spellable flags) : atEquals u.spelled = (u.name, u.argument) := by
  have each : ∀ c ∈ u.name.toList, (c != '=') = true := by
    intro c there
    simp only [bne_iff_ne]
    intro same
    exact spellable.free (same ▸ there)
  obtain ⟨a, given⟩ := Option.isSome_iff_exists.mp spellable.given
  unfold atEquals
  dsimp only
  rw [toList_spelled, dropWhile_append_of_pos each, takeWhile_append_of_pos each]
  simp [given]

theorem ofString?_spelled (plain : EqualsFree flags) (spellable : u.Spellable flags) :
    ofString? flags u.spelled = some (.known u) := by
  have equals : '=' ∈ u.spelled.toList := by simp [toList_spelled]
  have dashed : u.spelled.startsWith "-" = true := by
    rw [String.startsWith_string_iff, toList_spelled, ← spellable.long]
    exact ⟨_, rfl⟩
  have whole : flagNamed? flags u.spelled = none := by
    rw [flagNamed?, List.find?_eq_none]
    intro f mem named
    exact plain f mem u.spelled (contains_iff_mem.mp named) equals
  have other : (u.spelled == "-") = false := by
    rw [beq_eq_false_iff_ne]
    intro same
    rw [same] at equals
    exact absurd equals (by decide)
  obtain ⟨a, given⟩ := Option.isSome_iff_exists.mp spellable.given
  unfold ofString?
  rw [dashed, whole, atEquals_spelled spellable, given]
  dsimp only
  rw [spellable.named]
  simp only [other, Bool.not_true, Bool.false_eq_true, if_false, Option.isSome_some]
  rw [← given]

theorem spelled_ne_divider : u.spelled ≠ "--" := by
  intro same
  have equals : '=' ∈ u.spelled.toList := by simp [toList_spelled]
  rw [same] at equals
  exact absurd equals (by decide)

theorem ofStrings?_cons {w : String} (word : w ≠ "--") (rest : List String) :
    ofStrings? flags (w :: rest) = (ofString? flags w).bind fun a => (ofStrings? flags rest).map (a :: ·) := by
  rw [ofStrings?]
  · cases ofString? flags w with
    | none => rfl
    | some a => cases ofStrings? flags rest <;> rfl
  · exact word

theorem ofStrings?_spelled (plain : EqualsFree flags) {us : List (Use κ)} (spellable : ∀ u ∈ us, u.Spellable flags)
    (args : List String) :
    ofStrings? flags (us.map Use.spelled ++ args) = (ofStrings? flags args).map (us.map .known ++ ·) := by
  induction us with
  | nil => simp
  | cons u rest ih =>
    rw [forall_mem_cons] at spellable
    rw [map_cons, cons_append, ofStrings?_cons spelled_ne_divider, ofString?_spelled plain spellable.1,
      Option.bind_some, ih spellable.2, Option.map_map]
    rfl

theorem ne_divider_of_ofString? {w : String} {word : Word κ} (read : ofString? flags w = some word) :
    word ≠ .divider := by
  rintro rfl
  unfold ofString? at read
  repeat' split at read
  all_goals simp at read

theorem ofStrings?_divided {args : List String} (undivided : "--" ∉ args) {words : List (Word κ)}
    (read : ofStrings? flags args = some words) (targets : List String) :
    ofStrings? flags (args ++ "--" :: targets) = some (words ++ .divider :: targets.map .plain) ∧
      .divider ∉ words := by
  induction args generalizing words with
  | nil =>
    cases read
    exact ⟨rfl, not_mem_nil⟩
  | cons w rest ih =>
    rw [mem_cons, not_or] at undivided
    rw [ofStrings?_cons (Ne.symm undivided.1)] at read
    obtain ⟨_, first, read⟩ := Option.bind_eq_some_iff.mp read
    obtain ⟨_, later, rfl⟩ := Option.map_eq_some_iff.mp read
    obtain ⟨whole, none⟩ := ih undivided.2 later
    constructor
    · rw [cons_append, ofStrings?_cons (Ne.symm undivided.1), first, whole]
      rfl
    · rw [mem_cons, not_or]
      exact ⟨Ne.symm (ne_divider_of_ofString? first), none⟩

end Word

namespace Request

theorem ofWords_known {us : List (Use κ)} (spellable : ∀ u ∈ us, u.Spellable flags) (strict : Bool) (fuel : Nat)
    (count : TargetCount) (extra : Bool) (words : List (Word κ)) :
    ofWords flags strict (us.length + fuel) count extra (us.map .known ++ words) =
      us.map Use.request ++ ofWords flags strict fuel count extra words := by
  induction us with
  | nil => simp
  | cons u rest ih =>
    rw [forall_mem_cons] at spellable
    obtain ⟨a, given⟩ := Option.isSome_iff_exists.mp spellable.1.given
    have used (fuel : Nat) (later : List (Word κ)) : ofUse flags later (fuel + 1) u = some ([u.request], later) := by
      have takes := spellable.1.takes
      rw [ofUse, given]
      cases kind : u.flag.takes with
      | nothing => exact absurd kind takes
      | one => simp [Use.request, given]
      | atMostOne => simp [Use.request, given]
    rw [length_cons, Nat.add_right_comm, map_cons, cons_append, ofWords, used]
    dsimp only
    rw [ih spellable.2]
    rfl

theorem ofStrings_spelled (plain : Word.EqualsFree flags) {us : List (Use κ)} (spellable : ∀ u ∈ us, u.Spellable flags)
    {args : List String} {words : List (Word κ)} (read : Word.ofStrings? flags args = some words)
    (count : TargetCount) (strict : Bool) : ofStrings flags count strict (us.map Use.spelled ++ args) =
      us.map Use.request ++ ofStrings flags count strict args := by
  have length : (us.map Word.known ++ words).length + 1 = us.length + (words.length + 1) := by simp [Nat.add_assoc]
  rw [ofStrings, ofStrings, Word.ofStrings?_spelled plain spellable, read, Option.map_some]
  dsimp only
  rw [length, ofWords_known spellable]

theorem ofUse_append {fuel : Nat} {u : Use κ} {rest later : List (Word κ)} {requests : List (Request κ)}
    (used : ofUse flags rest fuel u = some (requests, later)) (more : List (Word κ)) :
    ofUse flags (rest ++ .divider :: more) fuel u = some (requests, later ++ .divider :: more) ∧ later <:+ rest ∧
      ∀ r ∈ requests, ∃ key argument, r = .flag key argument := by
  induction fuel generalizing u requests with
  | zero => cases used
  | succ fuel ih =>
    rw [ofUse] at used ⊢
    have itself {key : κ} {argument : Option String} :
        ∀ r ∈ [Request.flag key argument], ∃ key argument, r = .flag key argument := by simp
    cases argument : u.argument with
    | some a =>
      rw [argument] at used
      cases takes : u.flag.takes with
      | nothing =>
        rw [takes] at used
        dsimp only at used ⊢
        cases letters : a.toList with
        | nil => simp [letters] at used
        | cons c others =>
          simp only [letters] at used ⊢
          split at used
          · cases used
          · rename_i short
            rw [if_neg short]
            obtain ⟨flag, named, used⟩ := Option.bind_eq_some_iff.mp used
            obtain ⟨⟨_, _⟩, inner, used⟩ := Option.bind_eq_some_iff.mp used
            cases used
            obtain ⟨same, suffix, each⟩ := ih inner
            refine ⟨?_, suffix, forall_mem_cons.mpr ⟨⟨_, _, rfl⟩, each⟩⟩
            exact Option.bind_eq_some_iff.mpr ⟨flag, named, Option.bind_eq_some_iff.mpr ⟨_, same, rfl⟩⟩
      | one | atMostOne =>
        rw [takes] at used
        cases used
        exact ⟨rfl, suffix_refl _, itself⟩
    | none =>
      rw [argument] at used
      cases takes : u.flag.takes with
      | nothing =>
        rw [takes] at used
        cases used
        exact ⟨rfl, suffix_refl _, itself⟩
      | one =>
        rw [takes] at used
        match rest, used with
        | .plain w :: others, used =>
          cases used
          exact ⟨rfl, suffix_cons _ _, itself⟩
      | atMostOne =>
        rw [takes] at used
        match rest, used with
        | [], used =>
          cases used
          exact ⟨rfl, suffix_refl _, itself⟩
        | .plain w :: others, used =>
          cases used
          exact ⟨rfl, suffix_cons _ _, itself⟩
        | .divider :: others, used | .known _ :: others, used | .unknown :: others, used =>
          cases used
          exact ⟨rfl, suffix_refl _, itself⟩

theorem refused_of_extra (fuel : Nat) (count : TargetCount) (words : List (Word κ)) :
    .refused ∈ ofWords flags true fuel count true words := by
  induction fuel generalizing count words with
  | zero => simp [ofWords]
  | succ fuel ih =>
    match words with
    | [] => cases count <;> simp [ofWords]
    | .known u :: rest =>
      rw [ofWords]
      split
      · exact mem_append_right _ (ih _ _)
      · exact mem_singleton_self _
    | .unknown :: rest =>
      rw [ofWords]
      exact ih _ _
    | .plain w :: rest | .divider :: rest =>
      rw [ofWords]
      · split
        · exact mem_cons_of_mem _ (ih _ _)
        · exact ih _ _
      · simp
      · simp

theorem ofWords_targets (fuel : Nat) (targets : List String) :
    ofWords flags true (fuel + 2) .any false (.divider :: targets.map .plain) = [.targets targets] := by
  have bare : ∀ w ∈ targets.map (Word.plain (κ := κ)), w.isBare = true := by
    intro w mem
    obtain ⟨t, -, rfl⟩ := mem_map.mp mem
    rfl
  have strings : Word.strings (.divider :: targets.map (Word.plain (κ := κ))) = targets := by
    simp [Word.strings, filterMap_map]
  rw [ofWords, takeWhile_eq_self_iff.mpr bare, dropWhile_eq_nil_iff.mpr bare, strings]
  · rfl
  · simp
  · simp

theorem ofWords_divided {fuel : Nat} {words : List (Word κ)} (undivided : .divider ∉ words)
    (whole : .refused ∉ ofWords flags true fuel .any false words)
    (untargeted : ∀ ts, .targets ts ∈ ofWords flags true fuel .any false words → ts = []) (targets : List String)
    {enough : Nat} (bound : words.length + targets.length + 1 < enough) :
    ∃ front, ofWords flags true fuel .any false words = front ++ [.targets []] ∧
      ofWords flags true enough .any false (words ++ .divider :: targets.map .plain) = front ++ [.targets targets] ∧
      ∀ r ∈ front, ∃ key argument, r = .flag key argument := by
  induction fuel generalizing words enough with
  | zero => simp [ofWords] at whole
  | succ fuel ih =>
    obtain ⟨enough, rfl⟩ : ∃ n, enough = n + 1 := ⟨enough - 1, by omega⟩
    match words with
    | [] =>
      obtain ⟨left, rfl⟩ : ∃ n, enough = n + 1 := ⟨enough - 1, by omega⟩
      exact ⟨[], rfl, ofWords_targets left targets, by simp⟩
    | .known u :: rest =>
      rw [mem_cons, not_or] at undivided
      rw [ofWords] at whole untargeted ⊢
      cases used : ofUse flags rest (u.argument.elim 0 (·.length) + 1) u with
      | none => simp [used] at whole
      | some result =>
        obtain ⟨requests, left⟩ := result
        rw [used] at whole untargeted
        dsimp only at whole untargeted
        obtain ⟨same, suffix, each⟩ := ofUse_append used (targets.map .plain)
        have shorter := suffix.length_le
        rw [length_cons] at bound
        have room : left.length + targets.length + 1 < enough := by omega
        obtain ⟨front, here, there, plain⟩ := ih (fun member => undivided.2 (suffix.subset member))
          (fun member => whole (mem_append_right _ member))
          (fun ts member => untargeted ts (mem_append_right _ member)) room
        refine ⟨requests ++ front, ?_, ?_, forall_mem_append.mpr ⟨each, plain⟩⟩
        · dsimp only
          rw [here, append_assoc]
        · rw [cons_append, ofWords, same]
          dsimp only
          rw [there, append_assoc]
    | .unknown :: rest =>
      rw [ofWords] at whole
      exact absurd (refused_of_extra _ _ _) whole
    | .divider :: rest => exact absurd mem_cons_self undivided
    | .plain w :: rest =>
      rw [ofWords] at untargeted
      · have asked := untargeted _ mem_cons_self
        simp [Word.strings] at asked
      · simp
      · simp

theorem ofStrings_divided {args : List String} (undivided : "--" ∉ args)
    (whole : .refused ∉ ofStrings flags .any true args)
    (untargeted : ∀ ts, .targets ts ∈ ofStrings flags .any true args → ts = []) (targets : List String) :
    ∃ front, ofStrings flags .any true args = front ++ [.targets []] ∧
      ofStrings flags .any true (args ++ "--" :: targets) = front ++ [.targets targets] ∧
      ∀ r ∈ front, ∃ key argument, r = .flag key argument := by
  cases read : Word.ofStrings? flags args with
  | none => simp [ofStrings, read] at whole
  | some words =>
    obtain ⟨longer, none⟩ := Word.ofStrings?_divided undivided read targets
    unfold ofStrings at whole untargeted ⊢
    rw [read] at whole untargeted ⊢
    rw [longer]
    exact ofWords_divided none whole untargeted targets (by simp)

end Request

end SourceAudit.CommandLine
