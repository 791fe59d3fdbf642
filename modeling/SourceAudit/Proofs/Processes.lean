import SourceAudit.Proofs.Answering

/-! Which of three rules speaks of a call that may start a process. -/

namespace SourceAudit

open List

theorem Value.truthy_of_entry {settings v : Value} {key : String} (found : settings.entry key = .ok v) :
    settings.truthy = true := by
  unfold Value.entry at found
  split at found
  · rename_i entries
    cases entries with
    | nil => cases found
    | cons => rfl
  · cases found

namespace Rule

/-- Whether the last keyword argument for a shell asks for one. -/
def shellAsked (keywords : List Node) : Bool := (keywordNamed "shell" keywords.reverse).any asksForShell

variable {c : Context} {span : Span} {func : Node} {args keywords : List Node} {q : String} {settings : Value}
  {functions : List Value}

theorem foldl_asksForShell (keywords : List Node) :
    keywords.foldl (fun result k => match k with
      | .keyword _ arg value => if arg == some "shell" then asksForShell value else result
      | _ => result) false = shellAsked keywords := by
  unfold shellAsked
  rw [keywordNamed_eq]
  induction keywords using List.reverseRecOn with
  | nil => rfl
  | append_singleton keywords k ih =>
    rw [foldl_append, ih, foldl_cons, foldl_nil, reverse_append, reverse_singleton, singleton_append, List.find?_cons]
    cases k with
    | keyword span arg value =>
      simp only [Node.keywordName]
      cases arg == some "shell" <;> rfl
    | _ => rfl

theorem hasShell_eq (site : c.Calls span func args keywords) (clear : Sane keywords) :
    hasShell c = .ok (shellAsked keywords) := by
  obtain ⟨_, asked, found⟩ := site.callKeywords clear
  unfold hasShell
  rw [site.callParts, Context.keywordsOr, asked]
  simp only [bind, Except.bind, pure, Except.pure, found "shell", Option.isNone_map]
  cases named : keywordNamed "shell" keywords.reverse with
  | none => simp [shellAsked, named]
  | some value => exact congrArg Except.ok (foldl_asksForShell keywords)

theorem hasShell_eq_ok_iff (site : c.Calls span func args keywords) {asked : Bool} :
    hasShell c = .ok asked ↔ Sane keywords ∧ shellAsked keywords = asked := by
  by_cases clear : Sane keywords
  · rw [hasShell_eq site clear, Except.ok.injEq]
    exact (and_iff_right clear).symm
  · have bad : ∃ k ∈ keywords, k.handed.hasBadSet = true := by simpa using clear
    obtain ⟨k, listed, bad⟩ := bad
    obtain ⟨_, failed⟩ := exists_hasShell_error site listed bad
    rw [failed]
    exact ⟨nofun, fun both => absurd both.1 clear⟩

theorem calls_eq (named : c.qualname = some q) (config : settings.entry "subprocess" = .ok (.list functions)) :
    calls c settings "subprocess" = .ok (functions.any (·.equals (.str q))) := by
  rw [calls, config, Context.qualnameValue, named]
  rfl

theorem not_flags_of_none {r : Rule} (quiet : r.run c settings = .ok none) : ¬ Flags r c settings := by
  rintro ⟨i, reported⟩
  rw [quiet] at reported
  cases reported

section Listed

variable (config : settings.entry "subprocess" = .ok (.list functions))
  (listed : calls c settings "subprocess" = .ok true)

include config listed

theorem not_flags_other : ¬ Flags otherFunctionWithShell c settings := by
  apply not_flags_of_none
  dsimp only [otherFunctionWithShell, shellRule, configured]
  rw [Value.truthy_of_entry config, listed]
  rfl

theorem flags_without_iff : Flags subprocessWithoutShell c settings ↔ hasShell c = .ok false := by
  unfold Flags
  dsimp only [subprocessWithoutShell, shellRule, configured]
  rw [Value.truthy_of_entry config, listed]
  exact flags_bind_iff (x := hasShell c) ⟨_, rfl⟩ fun | false, other => absurd rfl other | true, _ => rfl

theorem flags_popen_iff (site : c.Calls span func args keywords) :
    Flags popenWithShell c settings ↔ hasShell c = .ok true ∧ args ≠ [] ∧ ∀ n ∈ args, n.hasBadSet = false := by
  unfold Flags
  dsimp only [popenWithShell, shellRule, configured]
  rw [Value.truthy_of_entry config, listed]
  cases hasShell c with
  | error fault => exact ⟨fun ⟨_, reported⟩ => (nomatch reported), fun given => (nomatch given.1)⟩
  | ok asked =>
    cases asked with
    | false => exact ⟨fun ⟨_, reported⟩ => (nomatch reported), fun given => (nomatch given.1)⟩
    | true =>
      by_cases clear : ∀ n ∈ args, n.hasBadSet = false
      · rw [site.callArgs clear, firstArgIsText, site.callParts]
        cases args with
        | nil => exact ⟨fun ⟨_, reported⟩ => (nomatch reported), fun given => absurd rfl given.2.1⟩
        | cons a rest =>
          refine ⟨fun _ => ⟨rfl, cons_ne_nil a rest, clear⟩, fun _ => ?_⟩
          change ∃ i, (if a.isText then _ else _) = Except.ok (some i)
          split <;> exact ⟨_, rfl⟩
      · -- all positional arguments are read as values before they are counted
        have bad : ∃ n ∈ args, n.hasBadSet = true := by simpa using clear
        obtain ⟨n, given, bad⟩ := bad
        obtain ⟨fault, failed⟩ := site.exists_callArgs_error given bad
        rw [failed]
        exact ⟨fun ⟨_, reported⟩ => (nomatch reported), fun given => absurd given.2.2 clear⟩

end Listed

section Unlisted

variable (config : settings.entry "subprocess" = .ok (.list functions))
  (unlisted : calls c settings "subprocess" = .ok false)

include config unlisted

theorem not_flags_of_unlisted : ¬ Flags popenWithShell c settings ∧ ¬ Flags subprocessWithoutShell c settings := by
  constructor <;> apply not_flags_of_none
  · dsimp only [popenWithShell, shellRule, configured]
    rw [Value.truthy_of_entry config, unlisted]
    rfl
  · dsimp only [subprocessWithoutShell, shellRule, configured]
    rw [Value.truthy_of_entry config, unlisted]
    rfl

theorem flags_other_iff : Flags otherFunctionWithShell c settings ↔ hasShell c = .ok true := by
  unfold Flags
  dsimp only [otherFunctionWithShell, shellRule, configured]
  rw [Value.truthy_of_entry config, unlisted]
  exact flags_bind_iff (x := hasShell c) ⟨_, rfl⟩ fun | true, other => absurd rfl other | false, _ => rfl

end Unlisted

/-- A call of a listed function is never taken for another. It is reported once exactly if its keyword arguments spell
values and, where a shell is asked for, there are positional arguments and they do too. Others are reported if they have
a shell. -/
theorem shell_classified (site : c.Calls span func args keywords) (named : c.qualname = some q)
    (config : settings.entry "subprocess" = .ok (.list functions)) :
    (functions.any (·.equals (.str q)) = true → ¬ Flags otherFunctionWithShell c settings ∧
      ((Flags popenWithShell c settings ↔ ¬ Flags subprocessWithoutShell c settings) ↔
        (∀ k ∈ keywords, k.handed.hasBadSet = false) ∧
          (shellAsked keywords = true → args ≠ [] ∧ ∀ n ∈ args, n.hasBadSet = false))) ∧
    (functions.any (·.equals (.str q)) = false → ¬ Flags popenWithShell c settings ∧
      ¬ Flags subprocessWithoutShell c settings ∧
      (Flags otherFunctionWithShell c settings ↔ hasShell c = .ok true)) := by
  have asked := calls_eq named config
  constructor
  · intro listed
    rw [listed] at asked
    refine ⟨not_flags_other config asked, ?_⟩
    rw [flags_popen_iff config asked site, flags_without_iff config asked, hasShell_eq_ok_iff site,
      hasShell_eq_ok_iff site]
    cases shellAsked keywords <;> simp
  · intro unlisted
    rw [unlisted] at asked
    obtain ⟨with_, without⟩ := not_flags_of_unlisted config asked
    exact ⟨with_, without, flags_other_iff config asked⟩

def onSecond : Span := ⟨2, 0, 2, 0⟩

def starting (args others : List Node) : Context :=
  let call := Node.call onSecond (.attr onSecond (.name onSecond "subprocess" .load) "Popen" .load) args
    (others ++ [.keyword onSecond (some "shell") (.constant onSecond (.bool true))])
  { node := some call, call := some call, qualname := some "subprocess.Popen", name := some "Popen" }

theorem calls_starting (args others : List Node) : (starting args others).Calls onSecond
    (.attr onSecond (.name onSecond "subprocess" .load) "Popen" .load) args
    (others ++ [.keyword onSecond (some "shell") (.constant onSecond (.bool true))]) :=
  ⟨rfl, rfl, ⟨_, rfl⟩, ⟨_, rfl⟩⟩

theorem popen_listed : ((subprocessFunctions.map Value.str).any (·.equals (.str "subprocess.Popen"))) = true := by
  decide +kernel

def byPosition : Context := starting [.name onSecond "command" .load] []

theorem positional_reported_once : ¬ Flags otherFunctionWithShell byPosition shellSettings ∧
    (Flags popenWithShell byPosition shellSettings ↔ ¬ Flags subprocessWithoutShell byPosition shellSettings) := by
  have classified := (shell_classified (calls_starting [.name onSecond "command" .load] []) rfl entry_shellSettings.1).1
    popen_listed
  refine ⟨classified.1, classified.2.mpr ⟨?_, fun _ => ⟨cons_ne_nil _ _, ?_⟩⟩⟩
  · exact forall_mem_singleton.mpr rfl
  · exact forall_mem_singleton.mpr rfl

def byName : Context := starting [] [.keyword onSecond (some "args") (.name onSecond "command" .load)]

/-- A command that is given by name, and run in a shell, is reported by no rule. -/
theorem named_command_unreported : hasShell byName = .ok true ∧
    ∀ r ∈ [popenWithShell, subprocessWithoutShell, otherFunctionWithShell], ¬ Flags r byName shellSettings := by
  have config := entry_shellSettings.1
  have listed : calls byName shellSettings "subprocess" = .ok true :=
    (calls_eq rfl config).trans (congrArg Except.ok popen_listed)
  have asked : hasShell byName = .ok true := by decide +kernel
  refine ⟨asked, ?_⟩
  simp only [forall_mem_cons, flags_popen_iff config listed (calls_starting _ _), flags_without_iff config listed,
    asked]
  exact ⟨fun given => given.2.1 rfl, nofun, not_flags_other config listed, forall_mem_nil _⟩

end Rule

end SourceAudit
