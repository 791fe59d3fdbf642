import SourceAudit.Proofs.Processes

/-! Keys that are too short are judged by their size alone; but a size of zero counts as none. -/

namespace SourceAudit.Rule

structure Limits (settings : Value) (kind : KeyKind) (high medium : Int) : Prop where
  set : ∀ other : KeyKind, Answered (settings.entry other.keys.1) ∧ Answered (settings.entry other.keys.2)
  grave : settings.entry kind.keys.1 = .ok (.int high)
  lesser : settings.entry kind.keys.2 = .ok (.int medium)
  ordered : high ≤ medium

def SizeIs (keyword : String) (position : Nat) (args keywords : List Node) (n : Nat) : Prop :=
  (∃ place, keywordNamed keyword keywords.reverse = some (.constant place (.int n))) ∧
      (n = 0 → args[position]? = none) ∨
    keywordNamed keyword keywords.reverse = none ∧ ∃ place, args[position]? = some (.constant place (.int n))

def MakesKey (c : Context) (keywords : List Node) (kind : KeyKind) (n : Nat) : Prop :=
  ∃ span func args function keyword position, c.Calls span func args keywords ∧ c.qualname = some function ∧
    (primitivesKind? function).or (publicKeyKind? function) = some kind ∧
    (function, keyword, position) ∈ sizeArguments ∧ SizeIs keyword position args keywords n

/-- There is an answer: an issue of that severity, or none. -/
def Rated (c : Context) (settings : Value) (severity : Option Rank) : Prop :=
  Brings (weakKey.run c settings) fun found => found.map Issue.severity = severity.map Rank.name

def Due (high medium : Int) (n : Nat) : Option Rank → Prop
  | some .high => n < high
  | some .medium => high ≤ n ∧ n < medium
  | none => medium ≤ n
  | _ => False

/-- The call is rated as is due to the size. -/
def RatedBy (c : Context) (settings : Value) (high medium : Int) (n : Nat) : Prop :=
  ∃ severity, Due high medium n severity ∧ Rated c settings severity

def gravity (severity : Option Rank) : Nat := severity.elim 0 Rank.index

variable {c : Context} {settings : Value} {kind : KeyKind} {high medium : Int} {n : Nat} {keywords : List Node}

theorem Rated.unique {first second : Option Rank} (rated : Rated c settings first) (also : Rated c settings second) :
    first = second := by
  obtain ⟨_, ran, one⟩ := rated
  obtain ⟨_, same, other⟩ := also
  obtain rfl := Except.ok.inj (ran.symm.trans same)
  have names := one.symm.trans other
  rcases first with _ | (_ | _ | _ | _) <;> rcases second with _ | (_ | _ | _ | _) <;>
    first | rfl | exact absurd names (by decide)

theorem gravity_of_due {m : Nat} {own its : Option Rank} (ordered : high ≤ medium) (shorter : n ≤ m)
    (first : Due high medium n own) (second : Due high medium m its) : gravity its ≤ gravity own := by
  unfold Due at first second
  split at first <;> split at second <;> first | decide | omega | contradiction

theorem ratedBy_of_answer {size : Nat} (limits : Limits settings kind high medium)
    (judged : weakKey.run c settings = classifyKey settings kind (.int size)) :
    RatedBy c settings high medium size := by
  have below (limit : Int) : (Value.int size).isBelow (.int limit) = .ok (decide (size < limit)) := by
    have order : (compare (size : Int) limit == .lt) = decide (size < limit) := by
      rw [Bool.eq_iff_iff, beq_iff_eq, Int.compare_eq_lt, decide_eq_true_iff]
    exact congrArg Except.ok order
  have read : Answered (forIn [KeyKind.dsa, .rsa, .ec] PUnit.unit fun other _ => do
      let _ ← settings.entry other.keys.1
      let _ ← settings.entry other.keys.2
      pure (ForInStep.yield PUnit.unit)) := by
    apply Brings.forIn trivial
    intro other _ _ _
    exact Brings.bind (limits.set other).1 fun _ _ => Brings.bind (limits.set other).2 fun _ _ => Brings.pure trivial
  obtain ⟨_, read, -⟩ := read
  unfold RatedBy Rated
  rw [judged]
  unfold classifyKey
  rw [read, limits.grave, limits.lesser]
  simp only [bind, Except.bind, below, decide_eq_true_eq]
  split_ifs
  · exact ⟨some .high, ‹_›, Brings.pure rfl⟩
  · exact ⟨some .medium, ⟨by omega, ‹_›⟩, Brings.pure rfl⟩
  · exact ⟨none, Int.not_lt.mp ‹_›, Brings.pure rfl⟩

theorem givenSize_of_sizeIs {span : Span} {func : Node} {args : List Node} {keyword : String} {position : Nat}
    (site : c.Calls span func args keywords) (size : SizeIs keyword position args keywords n) (clear : Sane keywords) :
    givenSize c keyword position = .ok (.int (if n = 0 then 2048 else n : Nat)) := by
  have literal (place : Span) : (Node.constant place (.int n)).argument = .int n := rfl
  rw [givenSize, site.argValue clear]
  rcases size with ⟨⟨place, named⟩, alone⟩ | ⟨unnamed, place, here⟩
  · by_cases zero : n = 0
    · have missing : c.argAt position = .ok .null := by
        rw [site.argAt (by simp [alone zero]), alone zero]
        rfl
      subst zero
      simp [named, literal, bind, Except.bind, firstTruthy, Value.truthy, missing]
    · simp [named, literal, bind, Except.bind, firstTruthy, Value.truthy, zero]
  · have given : c.argAt position = .ok (.int n) := by
      rw [site.argAt (by simp [here, Node.hasBadSet]), here]
      rfl
    by_cases zero : n = 0 <;> simp [unnamed, given, bind, Except.bind, firstTruthy, Value.truthy, zero]

theorem MakesKey.ratedBy (makes : MakesKey c keywords kind n) (clear : Sane keywords)
    (limits : Limits settings kind high medium) : RatedBy c settings high medium (if n = 0 then 2048 else n) := by
  obtain ⟨_, _, _, _, _, _, site, called, known, mem, size⟩ := makes
  obtain ⟨_, same, judged⟩ := weakKey_eq mem called settings
  obtain rfl := Option.some.inj (same.symm.trans known)
  rw [givenSize_of_sizeIs site size clear] at judged
  exact ratedBy_of_answer limits judged

theorem MakesKey.readable (makes : MakesKey c keywords kind n) {severity : Option Rank}
    (rated : Rated c settings severity) : Sane keywords := by
  obtain ⟨_, _, _, _, _, _, site, called, -, mem, -⟩ := makes
  obtain ⟨_, -, judged⟩ := weakKey_eq mem called settings
  intro k given
  by_contra bad
  obtain ⟨_, failed⟩ := site.exists_callKeywords_error given (by simpa using bad)
  obtain ⟨_, ran, -⟩ := rated
  rw [judged, givenSize, Context.argValue, failed] at ran
  cases ran

theorem limits_standard (kind : KeyKind) : Limits keySizeSettings kind kind.limits.1 kind.limits.2 := by
  refine ⟨fun other => ?_, (entry_limits kind).1, (entry_limits kind).2, by cases kind <;> decide⟩
  rw [(entry_limits other).1, (entry_limits other).2]
  exact ⟨answered_ok _, answered_ok _⟩

/-- A key is rated by its size at all limits exactly if the keyword arguments can be read and the size is not zero,
which rates like the common size. Of two keys above zero the shorter is never rated milder. -/
theorem ratedBy_size_iff (makes : MakesKey c keywords kind n) :
    ((∀ settings high medium, Limits settings kind high medium → RatedBy c settings high medium n) ↔
      (∀ k ∈ keywords, k.handed.hasBadSet = false) ∧ n ≠ 0) ∧
    ((∀ k ∈ keywords, k.handed.hasBadSet = false) → n = 0 →
      ∀ settings high medium, Limits settings kind high medium → RatedBy c settings high medium 2048) ∧
    ∀ d others m, MakesKey d others kind m → n ≠ 0 → n ≤ m → ∀ settings high medium, Limits settings kind high medium →
      ∀ own its, Rated c settings own → Rated d settings its → gravity its ≤ gravity own := by
  have due {c keywords n settings high medium severity} (makes : MakesKey c keywords kind n) (more : n ≠ 0)
      (limits : Limits settings kind high medium) (rated : Rated c settings severity) : Due high medium n severity := by
    obtain ⟨own, due, also⟩ := makes.ratedBy (makes.readable rated) limits
    rw [if_neg more] at due
    exact also.unique rated ▸ due
  refine ⟨⟨fun all => ?_, fun ⟨clear, more⟩ _ _ _ limits => ?_⟩, fun clear zero _ _ _ limits => ?_, ?_⟩
  · obtain ⟨severity, due, rated⟩ := all _ _ _ (limits_standard kind)
    have clear := makes.readable rated
    refine ⟨clear, ?_⟩
    rintro rfl
    -- zero is below both limits, and the common size is not
    obtain ⟨own, common, also⟩ := makes.ratedBy clear (limits_standard kind)
    obtain rfl := also.unique rated
    unfold Due at due common
    cases kind <;> split at due <;> simp_all [KeyKind.limits]
  · simpa [more] using makes.ratedBy clear limits
  · simpa [zero] using makes.ratedBy clear limits
  · intro d others m also more shorter settings high medium limits own its first second
    exact gravity_of_due limits.ordered shorter (due makes more limits first) (due also (by omega) limits second)

def generating (n : Nat) : Context :=
  let call := Node.call onSecond (.attr onSecond (.name onSecond "RSA" .load) "generate" .load)
    [.constant onSecond (.int n)] []
  { node := some call, call := some call, qualname := some "Crypto.PublicKey.RSA.generate", name := some "generate" }

theorem makesKey_generating (n : Nat) : MakesKey (generating n) [] .rsa n :=
  ⟨_, _, _, _, "bits", 0, ⟨rfl, rfl, ⟨_, rfl⟩, ⟨_, rfl⟩⟩, rfl, rfl, by decide, .inr ⟨rfl, _, rfl⟩⟩

theorem midsize_rated : RatedBy (generating 1536) keySizeSettings 1024 2048 1536 :=
  (ratedBy_size_iff (makesKey_generating 1536)).1.mpr ⟨nofun, by decide⟩ _ _ _ (limits_standard .rsa)

/-- A key of no bits at all is not reported, though it is below both limits. -/
theorem bitless_unrated : MakesKey (generating 0) [] .rsa 0 ∧ Limits keySizeSettings .rsa 1024 2048 ∧
    Rated (generating 0) keySizeSettings none ∧ ¬ RatedBy (generating 0) keySizeSettings 1024 2048 0 := by
  obtain ⟨severity, due, rated⟩ := (makesKey_generating 0).ratedBy nofun (limits_standard .rsa)
  have silent : severity = none := by
    unfold Due at due
    split at due <;> simp_all [KeyKind.limits]
  rw [silent] at rated
  refine ⟨makesKey_generating 0, limits_standard .rsa, rated, ?_⟩
  rintro ⟨own, due, also⟩
  obtain rfl := also.unique rated
  exact absurd due (by simp [Due])

end SourceAudit.Rule
