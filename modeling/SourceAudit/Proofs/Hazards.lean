import SourceAudit.Proofs.Arguments

/-! What keeps rules from an answer at a call. -/

namespace SourceAudit

open List Option Value Context

variable {k n : Node} {size : Value} {function : String}

namespace Rule

def bearsPassword : Node → Bool
  | .keyword _ (some name) (.constant _ (.text _)) => namesSecretString name
  | _ => false

def unpacksText : Node → Bool
  | .keyword _ none (.constant _ (.text _)) => true
  | _ => false

def sizeArguments : List (String × String × Nat) := [
  ("cryptography.hazmat.primitives.asymmetric.dsa.generate_private_key", "key_size", 0),
  ("cryptography.hazmat.primitives.asymmetric.rsa.generate_private_key", "key_size", 1),
  ("Crypto.PublicKey.DSA.generate", "bits", 0), ("Crypto.PublicKey.RSA.generate", "bits", 0),
  ("Cryptodome.PublicKey.DSA.generate", "bits", 0), ("Cryptodome.PublicKey.RSA.generate", "bits", 0)]

def sizeGiven (keyword : String) (position : Nat) (args keywords : List Node) : Option Node :=
  ((keywordNamed keyword keywords.reverse).toList ++ args[position]?.toList).find? fun n => n.argument.truthy

def curveGiven (args keywords : List Node) : Option Node :=
  ((keywordNamed "curve" keywords.reverse).filter fun n => n.argument.truthy).or args.head?

end Rule

def Value.judgeable : Value → Bool
  | .text _ => true
  | v =>
    match v.number? with
    | some (.imaginary _) => false
    | some _ => true
    | none => false

namespace Context

/-- The module or function around the place. -/
def scope (c : Context) : Node :=
  ((c.ancestors.find? fun a => Rule.opensScope a.node).map Ancestor.node).getD (.module [])

/-- What keeps some rule from an answer at a call. -/
inductive Hazard (c : Context) (span : Span) (func : Node) (args keywords : List Node) : Prop where
  /-- A set is written in an argument that holds what can change. -/
  | badSet (n : Node) (given : n ∈ args ∨ ∃ k ∈ keywords, k.handed = n) (bad : n.hasBadSet = true)
  /-- A module is imported by its name, which is not given. -/
  | unnamedImport
      (called : c.qualname = some "importlib.import_module" ∨ c.qualname = some "importlib.__import__")
      (other : func.id? ≠ some "__import__") (empty : args = []) (unnamed : Rule.keywordNamed "name" keywords = none)
  /-- A query is made without its text. -/
  | missingQuery (imported : c.importsLike "django.db.models" = true) (called : c.name = some "RawSQL")
      (empty : args = []) (unnamed : Rule.keywordNamed "sql" keywords = none)
  /-- A text is unpacked as if it were a mapping, and no password comes before it. -/
  | unpackedText (k : Node)
      (first : keywords.find? (fun k => Rule.bearsPassword k || Rule.unpacksText k) = some k)
      (unpacks : Rule.unpacksText k = true)
  /-- The members to extract are the result of a function that has no plain name. -/
  | computedMembers (imported : c.importsExactly "tarfile" = true)
      (called : ∃ name, c.name = some name ∧ Segments.occurs "extractall".toList name.toList = true)
      (unfiltered : (Rule.keywordNamed "filter" keywords).any
        (fun v => v.textOf? == some (Text.ofString "data")) = false)
      (place : Span) (maker : Node) (parts named : List Node)
      (given : Rule.keywordNamed "members" keywords = some (.call place maker parts named))
      (computed : maker.id? = none)
  /-- The size of a key is neither a text nor a real number. -/
  | keySize (function keyword : String) (position : Nat)
      (listed : (function, keyword, position) ∈ Rule.sizeArguments) (called : c.qualname = some function)
      (n : Node) (given : Rule.sizeGiven keyword position args keywords = some n)
      (odd : n.argument.judgeable = false)
  /-- The curve of a key can change, so it cannot be looked up. -/
  | keyCurve
      (called : c.qualname = some "cryptography.hazmat.primitives.asymmetric.ec.generate_private_key")
      (n : Node) (given : Rule.curveGiven args keywords = some n) (changes : n.isMutable = true)
  /-- Nothing is marked as safe. -/
  | nothingMarked (imported : c.importsLike "django.utils.safestring" = true)
      (called : c.name.any Rule.markSafeFunctions.contains = true) (empty : args = [])
  /-- It cannot be traced at any depth where the text comes from that is marked as safe. -/
  | untraceable (imported : c.importsLike "django.utils.safestring" = true)
      (called : c.name.any Rule.markSafeFunctions.contains = true) (marked : Node) (others : List Node)
      (given : args = marked :: others) (open_ : marked.isText = false)
      (lost : ∀ fuel harmless, MarkSafe.traced fuel c.scope (.call span func args keywords) marked ≠ .ok harmless)

/-- If a text that is marked as safe can be traced at all, the rule goes deep enough for it. -/
def TracesInTime (c : Context) (call : Node) (args : List Node) : Prop :=
  c.importsLike "django.utils.safestring" = true → c.name.any Rule.markSafeFunctions.contains = true →
    ∀ marked ∈ args.head?, ∀ fuel harmless, MarkSafe.traced fuel c.scope call marked = .ok harmless →
      ∃ answer, MarkSafe.traced MarkSafe.depth c.scope call marked = .ok answer

variable {c : Context} {span : Span} {func : Node} {args keywords : List Node}

theorem clear_of_safe (safe : ¬ c.Hazard span func args keywords) : Calls.Clear args keywords := by
  constructor
  · intro n mem
    by_contra bad
    exact safe (.badSet n (.inl mem) (by simpa using bad))
  · intro k mem
    by_contra bad
    exact safe (.badSet k.handed (.inr ⟨k, mem, rfl⟩) (by simpa using bad))

theorem Hazard.transfer {c' : Context} (qualname : c'.qualname = c.qualname) (name : c'.name = c.name)
    (imports : c'.imports = c.imports) (ancestors : c'.ancestors = c.ancestors)
    (hazard : c.Hazard span func args keywords) : c'.Hazard span func args keywords := by
  have exactly : c'.importsExactly = c.importsExactly := by
    funext module
    rw [importsExactly, importsExactly, imports]
  have like : c'.importsLike = c.importsLike := by
    funext module
    rw [importsLike, importsLike, imports]
  have around : c'.scope = c.scope := by rw [scope, scope, ancestors]
  cases hazard with
  | badSet n given bad => exact .badSet n given bad
  | unnamedImport called other empty unnamed => exact .unnamedImport (qualname ▸ called) other empty unnamed
  | missingQuery imported called empty unnamed => exact .missingQuery (like ▸ imported) (name ▸ called) empty unnamed
  | unpackedText k first unpacks => exact .unpackedText k first unpacks
  | computedMembers imported called unfiltered place maker parts named given computed =>
    exact .computedMembers (exactly ▸ imported) (name ▸ called) unfiltered place maker parts named given computed
  | keySize function keyword position mem called n given odd =>
    exact .keySize function keyword position mem (qualname ▸ called) n given odd
  | keyCurve called n given changes => exact .keyCurve (qualname ▸ called) n given changes
  | nothingMarked imported called empty => exact .nothingMarked (like ▸ imported) (name ▸ called) empty
  | untraceable imported called marked others given open_ lost =>
    exact .untraceable (like ▸ imported) (name ▸ called) marked others given open_ (around ▸ lost)

end Context

namespace Rule

variable {c : Context} {span : Span} {func : Node} {args keywords : List Node}

/-! ### Queries and marked texts -/

theorem argumentFor_eq_none_iff (name : String) (args keywords : List Node) :
    argumentFor [name] args keywords name = none ↔ args = [] ∧ keywordNamed name keywords = none := by
  have named : argumentFor.keywordNamedLast keywords name = none ↔ keywordNamed name keywords = none := by
    rw [← isNone_iff_eq_none, ← isNone_iff_eq_none, ← not_isSome, ← not_isSome, ← isSome_keywordNamed_reverse]
    rfl
  cases args with
  | nil => simpa [argumentFor] using named
  | cons a rest => simp [argumentFor]

section

variable (site : c.Calls span func args keywords)

include site

theorem answered_djangoRawSql (safe : ¬ c.Hazard span func args keywords)
    (settings : Value) : Answered (djangoRawSql.run c settings) := by
  dsimp only [djangoRawSql, plain]
  rw [site.callParts]
  split
  · rename_i asked
    rw [Bool.and_eq_true, beq_iff_eq] at asked
    cases found : argumentFor ["sql"] args keywords "sql" with
    | some sql =>
      simp only [found, bind, Except.bind]
      exact answered_pure _
    | none =>
      obtain ⟨empty, unnamed⟩ := (argumentFor_eq_none_iff "sql" args keywords).mp found
      exact absurd (.missingQuery asked.1 asked.2 empty unnamed) safe
  · exact answered_pure _

theorem fails_djangoRawSql (settings : Value)
    (imported : c.importsLike "django.db.models") (called : c.name = some "RawSQL") (empty : args = [])
    (unnamed : keywordNamed "sql" keywords = none) : ∃ fault, djangoRawSql.run c settings = .error fault := by
  have missing := (argumentFor_eq_none_iff "sql" args keywords).mpr ⟨empty, unnamed⟩
  refine ⟨.missingKey, ?_⟩
  dsimp only [djangoRawSql, plain]
  rw [site.callParts, imported, called]
  simp only [bind, Except.bind, missing]
  rfl

theorem answered_djangoMarkSafe (safe : ¬ c.Hazard span func args keywords)
    (timely : c.TracesInTime (.call span func args keywords) args)
    (settings : Value) : Answered (djangoMarkSafe.run c settings) := by
  dsimp only [djangoMarkSafe, plain]
  rw [site.callParts, site.theNode]
  split
  · exact answered_pure _
  · rename_i asked
    rw [Bool.not_eq_true, Bool.not_eq_false', Bool.and_eq_true] at asked
    obtain ⟨imported, called⟩ := asked
    cases args with
    | nil => exact absurd (.nothingMarked imported called rfl) safe
    | cons marked others =>
      simp only [bind, Except.bind]
      cases open_ : marked.isText with
      | true => exact answered_pure _
      | false =>
        obtain ⟨answer, traced⟩ : ∃ answer, MarkSafe.traced MarkSafe.depth c.scope
            (.call span func (marked :: others) keywords) marked = .ok answer := by
          by_contra unanswered
          refine safe (.untraceable imported called marked others rfl open_ fun fuel harmless told => unanswered ?_)
          exact timely imported called marked rfl fuel harmless told
        rw [scope] at traced
        simp only [traced]
        exact answered_pure _

theorem fails_djangoMarkSafe (settings : Value) (imported : c.importsLike "django.utils.safestring")
    (called : c.name.any markSafeFunctions.contains)
    (lost : args = [] ∨ ∃ marked others fault, args = marked :: others ∧ marked.isText = false ∧
      MarkSafe.traced MarkSafe.depth c.scope (.call span func args keywords) marked = .error fault) :
    ∃ fault, djangoMarkSafe.run c settings = .error fault := by
  dsimp only [djangoMarkSafe, plain]
  rw [site.callParts, site.theNode, imported, called]
  rcases lost with rfl | ⟨marked, others, fault, rfl, open_, failed⟩
  · exact ⟨.outOfRange, rfl⟩
  · refine ⟨fault, ?_⟩
    rw [scope] at failed
    simp only [bind, Except.bind, open_, failed]
    rfl

end

/-! ### Passwords as arguments -/

theorem findAnswer_eq {α : Type} {ask : α → Answer Bool} {stops : α → Bool}
    (passed : ∀ a, stops a = false → ask a = .ok false) (stopped : ∀ a, stops a = true → ask a ≠ .ok false)
    (items : List α) :
    findAnswer ask items = (items.find? stops).elim (.ok none) fun a => (fun _ => some a) <$> ask a := by
  induction items with
  | nil => rfl
  | cons a rest ih =>
    rw [findAnswer, List.find?_cons]
    cases here : stops a with
    | false =>
      rw [passed a here]
      exact ih
    | true =>
      have differs := stopped a here
      cases asked : ask a with
      | error fault =>
        rw [elim_some, asked]
        rfl
      | ok yes =>
        cases yes with
        | false => exact absurd asked differs
        | true =>
          rw [elim_some, asked]
          rfl

theorem secretArgument_of_unpacksText (unpacks : unpacksText k) : secretArgument k = .error .wrongKind := by
  unfold unpacksText at unpacks
  split at unpacks
  · rfl
  · simp at unpacks

theorem secretArgument_of_bearsPassword (bears : bearsPassword k) : ∃ t, secretArgument k = .ok (some t) := by
  unfold bearsPassword at bears
  split at bears
  · rename_i t
    exact ⟨t, by simp [secretArgument, bears]⟩
  · simp at bears

theorem secretArgument_of_neither (quiet : (bearsPassword k || unpacksText k) = false) : secretArgument k = .ok none := by
  rw [Bool.or_eq_false_iff] at quiet
  unfold secretArgument
  split
  · split
    · simpa [bearsPassword] using quiet.1
    · simp [unpacksText] at quiet
  · rfl

theorem findAnswer_secretArgument (keywords : List Node) :
    findAnswer (fun k => isSome <$> secretArgument k) keywords =
      (keywords.find? fun k => bearsPassword k || unpacksText k).elim (.ok none) fun k =>
        (fun _ => some k) <$> (isSome <$> secretArgument k) := by
  apply findAnswer_eq
  · intro k quiet
    rw [secretArgument_of_neither quiet]
    rfl
  · intro k stops
    rcases (Bool.or_eq_true _ _).mp stops with bears | unpacks
    · obtain ⟨t, found⟩ := secretArgument_of_bearsPassword bears
      rw [found]
      exact fun no => Bool.false_ne_true (Except.ok.inj no).symm
    · rw [secretArgument_of_unpacksText unpacks]
      exact fun no => nomatch no

theorem answered_hardcodedPasswordFuncarg (site : c.Calls span func args keywords)
    (safe : ¬ c.Hazard span func args keywords) (settings : Value) :
    Answered (hardcodedPasswordFuncarg.run c settings) := by
  dsimp only [hardcodedPasswordFuncarg, plain]
  rw [site.callParts]
  have search := findAnswer_secretArgument keywords
  cases first : keywords.find? fun k => bearsPassword k || unpacksText k with
  | none =>
    rw [first, elim_none] at search
    simp only [bind, Except.bind, search]
    exact answered_pure _
  | some k =>
    have stops : (bearsPassword k || unpacksText k) = true := by simpa using List.find?_some first
    rcases (Bool.or_eq_true _ _).mp stops with bears | unpacks
    · obtain ⟨t, found⟩ := secretArgument_of_bearsPassword bears
      rw [first, elim_some, found] at search
      simp only [bind, Except.bind, search]
      simp only [Functor.map, Except.map, found]
      exact answered_pure _
    · exact absurd (.unpackedText k first unpacks) safe

theorem fails_hardcodedPasswordFuncarg (site : c.Calls span func args keywords) (settings : Value)
    (first : keywords.find? (fun k => bearsPassword k || unpacksText k) = some k) (unpacks : unpacksText k) :
    ∃ fault, hardcodedPasswordFuncarg.run c settings = .error fault := by
  have search := findAnswer_secretArgument keywords
  rw [first, elim_some, secretArgument_of_unpacksText unpacks] at search
  refine ⟨.wrongKind, ?_⟩
  dsimp only [hardcodedPasswordFuncarg, plain]
  rw [site.callParts]
  simp only [bind, Except.bind, search]
  rfl

/-! ### Members of archives -/

theorem isSome_lookup_given {given : Fields} (found : Context.Calls.Given keywords given) (name : String) :
    (Value.lookup (.str name) given).isSome = (keywordNamed name keywords).isSome := by
  rw [found name, isSome_map, isSome_keywordNamed_reverse]

theorem answered_membersOf (known : ∀ place maker parts named, n = .call place maker parts named →
    maker.id? ≠ none) : Answered (membersOf n) := by
  unfold membersOf
  split
  · exact answered_ok _
  · rename_i place maker parts named other
    cases maker with
    | name span id ctx => exact absurd rfl (other span id ctx)
    | _ => exact absurd rfl (known _ _ _ _ rfl)
  · exact answered_ok _
  · exact answered_ok _

theorem answered_tarfileUnsafeMembers (site : c.Calls span func args keywords)
    (safe : ¬ c.Hazard span func args keywords) (settings : Value) : Answered (tarfileUnsafeMembers.run c settings) := by
  obtain ⟨name, called⟩ := site.name
  dsimp only [tarfileUnsafeMembers, plain]
  rw [called]
  dsimp only
  split
  · rename_i asked
    rw [Bool.and_eq_true] at asked
    apply Brings.bind (site.keywordsOr (clear_of_safe safe) .wrongKind)
    intro given found
    simp only [isSome_lookup_given found, site.callParts, bind, Except.bind]
    cases filtered : (keywordNamed "filter" keywords).any fun v => v.textOf? == some (Text.ofString "data") with
    | true =>
      have present : (keywordNamed "filter" keywords).isSome := isSome_of_any filtered
      simp only [present]
      exact answered_pure _
    | false =>
      simp only [ite_self]
      cases members : keywordNamed "members" keywords with
      | none => exact answered_pure _
      | some value =>
        have known : Answered (membersOf value) := by
          apply answered_membersOf
          rintro place maker parts named rfl computed
          exact safe (.computedMembers asked.1 ⟨name, called, asked.2⟩ filtered place maker parts named members
            computed)
        obtain ⟨kind, judged, -⟩ := known
        simp only [judged]
        cases kind with
        | function id => exact answered_pure _
        | other v => exact answered_pure _
  · exact answered_pure _

theorem fails_tarfileUnsafeMembers (site : c.Calls span func args keywords) (clear : Context.Calls.Clear args keywords)
    (settings : Value) (imported : c.importsExactly "tarfile")
    (called : ∃ name, c.name = some name ∧ Segments.occurs "extractall".toList name.toList = true)
    (unfiltered : (keywordNamed "filter" keywords).any (fun v => v.textOf? == some (Text.ofString "data")) = false)
    {place : Span} {maker : Node} {parts named : List Node}
    (members : keywordNamed "members" keywords = some (.call place maker parts named)) (computed : maker.id? = none) :
    ∃ fault, tarfileUnsafeMembers.run c settings = .error fault := by
  obtain ⟨name, called, extracts⟩ := called
  obtain ⟨_, asked, found⟩ := site.keywordsOr clear .wrongKind
  have unknown : membersOf (.call place maker parts named) = .error .missingAttribute := by
    cases maker with
    | name => simp [Node.id?] at computed
    | _ => rfl
  refine ⟨.missingAttribute, ?_⟩
  dsimp only [tarfileUnsafeMembers, plain]
  rw [called, asked]
  simp only [imported, extracts, isSome_lookup_given found, site.callParts, bind, Except.bind, unfiltered, ite_self,
    members, unknown]
  rfl

/-! ### Sizes of keys -/

def KeyKind.limits : KeyKind → Int × Int
  | .dsa => (1024, 2048)
  | .rsa => (1024, 2048)
  | .ec => (160, 224)

theorem entry_limits (kind : KeyKind) : keySizeSettings.entry kind.keys.1 = .ok (.int kind.limits.1) ∧
    keySizeSettings.entry kind.keys.2 = .ok (.int kind.limits.2) := by
  cases kind <;> simp [Value.entry, keySizeSettings, Value.lookup, Value.equals_str, KeyKind.keys, KeyKind.limits]

theorem classifyKey_eq (kind : KeyKind) (other : size.text? = none) :
    classifyKey keySizeSettings kind size = (do
      if ← size.isBelow (.int kind.limits.1) then return some (← keySizeIssue kind .high (.int kind.limits.1))
      else if ← size.isBelow (.int kind.limits.2) then
        return some (← keySizeIssue kind .medium (.int kind.limits.2))
      else return none) := by
  unfold classifyKey
  cases size with
  | text t => simp [text?] at other
  | _ =>
    simp only [forIn_cons, forIn_nil, (entry_limits _).1, (entry_limits _).2, bind, Except.bind, pure,
      Except.pure]

theorem answered_isBelow (fits : size.judgeable) (other : size.text? = none) (limit : Int) :
    Answered (size.isBelow (.int limit)) := by
  cases size with
  | bool b => exact answered_ok _
  | int n => exact answered_ok _
  | float x => exact answered_ok _
  | text t => simp [text?] at other
  | _ => simp [judgeable, number?] at fits

theorem answered_classifyKey (kind : KeyKind) (fits : size.judgeable) :
    Answered (classifyKey keySizeSettings kind size) := by
  cases shown : size.text? with
  | some t =>
    cases size with
    | text t => exact answered_pure _
    | _ => simp [text?] at shown
  | none =>
    rw [classifyKey_eq kind shown]
    have judged (limit : Int) := answered_isBelow fits shown limit
    apply Brings.bind (judged _)
    intro short _
    split
    · exact answered_pure _
    · apply Brings.bind (judged _)
      intro short _
      split
      · exact answered_pure _
      · exact answered_pure _

theorem fails_classifyKey (kind : KeyKind) (odd : size.judgeable = false) :
    ∃ fault, classifyKey keySizeSettings kind size = .error fault := by
  have other : size.text? = none := by
    cases size with
    | text t => simp [judgeable] at odd
    | _ => rfl
  have unordered (limit : Int) : size.isBelow (.int limit) = .error .wrongKind := by
    cases size with
    | bool b => simp [judgeable, number?] at odd
    | int n => simp [judgeable, number?] at odd
    | float x => simp [judgeable, number?] at odd
    | _ => rfl
  refine ⟨.wrongKind, ?_⟩
  rw [classifyKey_eq kind other, unordered]
  rfl

theorem mem_of_keywordNamed {name : String} (found : keywordNamed name keywords.reverse = some n) :
    ∃ k ∈ keywords, k.handed = n := by
  rw [keywordNamed_eq, map_eq_some_iff] at found
  obtain ⟨k, found, handed⟩ := found
  exact ⟨k, mem_reverse.mp (mem_of_find?_eq_some found), handed⟩

section

variable (site : c.Calls span func args keywords)

include site

theorem givenSize_eq (clear : Context.Calls.Clear args keywords) (keyword : String) (position : Nat) :
    givenSize c keyword position =
      .ok (((sizeGiven keyword position args keywords).map Node.argument).getD (.int 2048)) := by
  have absent : null.truthy = false := rfl
  simp only [givenSize, site.argValue clear.named, site.argAt (clear.at_ position), bind, Except.bind, firstTruthy,
    sizeGiven]
  cases keywordNamed keyword keywords.reverse with
  | none =>
    cases args[position]? with
    | none => rfl
    | some n => cases truthy : n.argument.truthy <;> simp [absent, truthy]
  | some k =>
    cases args[position]? with
    | none => cases truthy : k.argument.truthy <;> simp [absent, truthy]
    | some n => cases truthy : k.argument.truthy <;> cases later : n.argument.truthy <;> simp [truthy, later]

theorem answered_sized (safe : ¬ c.Hazard span func args keywords)
    (kind : KeyKind) (keyword : String) (position : Nat) (mem : (function, keyword, position) ∈ sizeArguments)
    (called : c.qualname = some function) :
    Answered (do classifyKey keySizeSettings kind (← givenSize c keyword position)) := by
  rw [givenSize_eq site (clear_of_safe safe)]
  apply answered_classifyKey
  cases given : sizeGiven keyword position args keywords with
  | none => rfl
  | some n =>
    by_contra odd
    exact safe (.keySize function keyword position mem called n given (by simpa using odd))

theorem fails_sized (clear : Context.Calls.Clear args keywords)
    (kind : KeyKind) (keyword : String) (position : Nat) (given : sizeGiven keyword position args keywords = some n)
    (odd : n.argument.judgeable = false) :
    ∃ fault, (do classifyKey keySizeSettings kind (← givenSize c keyword position)) = .error fault := by
  rw [givenSize_eq site clear, given]
  exact fails_classifyKey kind odd

end

theorem givenCurve_eq (site : c.Calls span func args keywords) (clear : Context.Calls.Clear args keywords) :
    givenCurve c = .ok (((curveGiven args keywords).map Node.argument).getD (.bool false)) := by
  simp only [givenCurve, site.argValue clear.named, site.callArgs clear.positional, bind, Except.bind, curveGiven]
  cases keywordNamed "curve" keywords.reverse with
  | none => cases args <;> rfl
  | some k => cases truthy : k.argument.truthy <;> cases args <;> simp [truthy, Option.filter, Answers.pure_eq_ok]

theorem hasBadSet_curveGiven (clear : Context.Calls.Clear args keywords) (given : curveGiven args keywords = some n) :
    n.hasBadSet = false := by
  rcases or_eq_some_iff.mp given with named | ⟨-, first⟩
  · obtain ⟨k, mem, rfl⟩ := mem_of_keywordNamed (filter_eq_some_iff.mp named).1
    exact clear.named k mem
  · exact clear.positional n (mem_of_head? first)

theorem answered_curveSize {curve : Value} (lasting : curve.hashable) : Answered (curveSize curve) := by
  rw [curveSize, lasting]
  exact answered_ok _

theorem curveSize_eq_error {curve : Value} (changes : curve.hashable = false) : curveSize curve = .error .wrongKind := by
  rw [curveSize, changes]
  rfl

section

variable (site : c.Calls span func args keywords) (safe : ¬ c.Hazard span func args keywords)

include site safe

theorem answered_primitivesKey : Answered (primitivesKey c keySizeSettings) := by
  have clear := clear_of_safe safe
  obtain ⟨function, called⟩ := site.qualname
  unfold primitivesKey
  rw [called, bind_some]
  cases known : primitivesKind? function with
  | none => exact answered_pure _
  | some kind =>
    have mem := Lists.mem_of_lookup known
    simp only [mem_cons, Prod.mk.injEq, not_mem_nil, or_false] at mem
    rcases mem with ⟨rfl, rfl⟩ | ⟨rfl, rfl⟩ | ⟨rfl, rfl⟩
    · exact answered_sized site safe .dsa "key_size" 0 (by decide) called
    · exact answered_sized site safe .rsa "key_size" 1 (by decide) called
    · have lasting : (((curveGiven args keywords).map Node.argument).getD (.bool false)).hashable = true := by
        cases given : curveGiven args keywords with
        | none => rfl
        | some n =>
          rw [map_some, getD_some, Node.hashable_argument (hasBadSet_curveGiven clear given)]
          by_contra changes
          exact safe (.keyCurve called n given (by simpa using changes))
      have known : Brings (givenCurve c) fun curve => curve.hashable = true := ⟨_, givenCurve_eq site clear, lasting⟩
      apply Brings.bind known
      intro curve lasting
      apply Brings.bind (answered_curveSize lasting)
      intro size _
      exact answered_classifyKey .ec rfl

theorem answered_publicKey : Answered (publicKey c keySizeSettings) := by
  obtain ⟨function, called⟩ := site.qualname
  unfold publicKey
  rw [called, bind_some]
  cases known : publicKeyKind? function with
  | none => exact answered_pure _
  | some kind =>
    have mem : (function, "bits", 0) ∈ sizeArguments := by
      have present := Lists.mem_of_lookup known
      simp only [mem_cons, Prod.mk.injEq, not_mem_nil, or_false] at present
      rcases present with ⟨rfl, -⟩ | ⟨rfl, -⟩ | ⟨rfl, -⟩ | ⟨rfl, -⟩ <;> decide
    exact answered_sized site safe kind "bits" 0 mem called

theorem answered_weakKey : Answered (weakKey.run c keySizeSettings) := by
  obtain ⟨found, answered, -⟩ := answered_primitivesKey site safe
  dsimp only [weakKey, configured]
  rw [answered]
  cases found with
  | none => exact answered_publicKey site safe
  | some i => exact answered_pure _

end

variable {position : Nat} {keyword : String}

theorem bind_some_or_none (x : Answer (Option Issue)) :
    (do match ← x with | some i => return some i | none => pure none) = x := by
  rcases x with _ | (_ | i) <;> rfl

theorem weakKey_eq (mem : (function, keyword, position) ∈ sizeArguments)
    (called : c.qualname = some function) (settings : Value) :
    ∃ kind, (primitivesKind? function).or (publicKeyKind? function) = some kind ∧
      weakKey.run c settings = (do classifyKey settings kind (← givenSize c keyword position)) := by
  dsimp only [weakKey, configured]
  unfold primitivesKey publicKey
  rw [called]
  simp only [sizeArguments, mem_cons, Prod.mk.injEq, not_mem_nil, or_false] at mem
  rcases mem with ⟨rfl, rfl, rfl⟩ | ⟨rfl, rfl, rfl⟩ | ⟨rfl, rfl, rfl⟩ | ⟨rfl, rfl, rfl⟩ | ⟨rfl, rfl, rfl⟩ |
    ⟨rfl, rfl, rfl⟩
  · exact ⟨.dsa, rfl, bind_some_or_none _⟩
  · exact ⟨.rsa, rfl, bind_some_or_none _⟩
  · exact ⟨.dsa, rfl, rfl⟩
  · exact ⟨.rsa, rfl, rfl⟩
  · exact ⟨.dsa, rfl, rfl⟩
  · exact ⟨.rsa, rfl, rfl⟩

theorem fails_weakKey_size (site : c.Calls span func args keywords) (clear : Context.Calls.Clear args keywords)
    (mem : (function, keyword, position) ∈ sizeArguments)
    (called : c.qualname = some function) (given : sizeGiven keyword position args keywords = some n)
    (odd : n.argument.judgeable = false) : ∃ fault, weakKey.run c keySizeSettings = .error fault := by
  obtain ⟨kind, -, judged⟩ := weakKey_eq mem called keySizeSettings
  rw [judged]
  exact fails_sized site clear kind keyword position given odd

theorem fails_weakKey_curve (site : c.Calls span func args keywords) (clear : Context.Calls.Clear args keywords)
    (called : c.qualname = some "cryptography.hazmat.primitives.asymmetric.ec.generate_private_key")
    (given : curveGiven args keywords = some n) (changes : n.isMutable) :
    ∃ fault, weakKey.run c keySizeSettings = .error fault := by
  have unhashable : n.argument.hashable = false := by
    rw [Node.hashable_argument (hasBadSet_curveGiven clear given), changes]
    rfl
  have judged : primitivesKey c keySizeSettings =
      (do classifyKey keySizeSettings .ec (.int (← curveSize (← givenCurve c)))) := by
    rw [primitivesKey, called]
    rfl
  refine ⟨.wrongKind, ?_⟩
  dsimp only [weakKey, configured]
  rw [judged, givenCurve_eq site clear, given, map_some, getD_some]
  simp only [bind, Except.bind, curveSize_eq_error unhashable]

end Rule

end SourceAudit
