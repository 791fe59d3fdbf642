import SourceAudit.Proofs.Loadable

/-! Where the data of an older file go: those on modules to profiles with the test for functions, and the other way
round. -/

namespace SourceAudit.Settings

open List

variable {test kind : String} {r : Value}

def itemsAt (key : String) (profile : Value) : List Value := (part key profile.entries).items.toOption.getD []

def Includes (test : String) (profile : Value) : Prop := .str test ∈ itemsAt "include" profile

def Takes (test : String) (profile : Value) : Prop := Includes test profile ∧ .str test ∉ itemsAt "exclude" profile

/-- A name of an older test: neither the name nor the id of a test of today. -/
structure Outdated (test : String) : Prop where
  unnamed : Catalogue.idOf? test = none
  no_id : test ∉ Catalogue.rules.map Rule.id ++ Banned.all.map Banned.id

theorem mem_ids_of_idOf? {name id : String} (found : Catalogue.idOf? name = some id) :
    id ∈ Catalogue.rules.map Rule.id ++ Banned.all.map Banned.id := by
  unfold Catalogue.idOf? at found
  rw [mem_append]
  cases first : Catalogue.rules.find? fun r => r.name == name with
  | some r =>
    rw [first] at found
    cases found
    exact .inl (mem_map_of_mem (mem_of_find?_eq_some first))
  | none =>
    rw [first] at found
    obtain ⟨b, second, rfl⟩ := Option.map_eq_some_iff.mp found
    exact .inr (mem_map_of_mem (mem_of_find?_eq_some second))

theorem byId_eq_iff (outdated : Outdated test) (v : Value) : byId v = .str test ↔ v = .str test := by
  cases v with
  | text t =>
    constructor
    · intro same
      rw [byId] at same
      cases found : Catalogue.idOf? t.toStringLossy with
      | none => rwa [found] at same
      | some id =>
        rw [found] at same
        -- then the older name would be an id of today
        have id_eq : id = test := Value.str_inj.mp same
        exact absurd (id_eq ▸ mem_ids_of_idOf? found) outdated.no_id
    · intro same
      rw [same, Value.str, byId, Text.toStringLossy_ofString, outdated.unnamed]
      rfl
  | _ => exact Iff.rfl

theorem mem_listed_iff (outdated : Outdated test) (v : Value) :
    .str test ∈ listed v ↔ .str test ∈ v.items.toOption.getD [] := by
  rw [listed, Value.str, Value.text_mem_distinct, ← Value.str, mem_map]
  simp only [byId_eq_iff outdated, exists_eq_right]

def recordsAt (kind : String) (data : Value) : List Value :=
  match data.get? kind with
  | some (.list rs) => rs
  | _ => []

@[simp] theorem recordsAt_nil (kind : String) : recordsAt kind (.dict []) = [] := rfl

@[simp] theorem recordsAt_cons (kind key : String) (rs : List Value) (rest : Fields) :
    recordsAt kind (.dict ((.str key, .list rs) :: rest)) = if key = kind then rs else recordsAt kind (.dict rest) := by
  rw [recordsAt, recordsAt, Value.get?, Value.get?, Value.lookup]
  by_cases same : key = kind
  · rw [if_pos (Value.equals_str_iff.mpr (congrArg Value.str same)), if_pos same]
  · rw [if_neg (fun equal => same (Value.str_inj.mp (Value.equals_str_iff.mp equal))), if_neg same]

/-- The data follow the names of the tests: functions under calls for who takes these, modules under imports and calls
for who takes those, and nothing of a family that is not included. -/
structure AsNamed (calls imports : List Value) (profile data : Value) : Prop where
  functions : Takes "blacklist_calls" profile → calls ⊆ recordsAt "Call" data
  modules : Takes "blacklist_imports" profile → ∀ kind ∈ ["Import", "ImportFrom", "Call"], imports ⊆ recordsAt kind data
  empty : ¬ Includes "blacklist_calls" profile → ¬ Includes "blacklist_imports" profile → data = .dict []
  own : ∀ kind, ∀ r ∈ recordsAt kind data,
    (Includes "blacklist_calls" profile ∧ r ∈ calls) ∨ (Includes "blacklist_imports" profile ∧ r ∈ imports)

/-- What a profile gets by the tests that it takes. -/
inductive Routed (calls imports : List Value) (profile : Value) : Value → Prop
  | neither (functions : ¬ Takes "blacklist_calls" profile) (modules : ¬ Takes "blacklist_imports" profile) :
      Routed calls imports profile (.dict [])
  | functions (functions : Takes "blacklist_calls" profile) (modules : ¬ Takes "blacklist_imports" profile) :
      Routed calls imports profile (.dict [(.str "Call", .list imports)])
  | modules (functions : ¬ Takes "blacklist_calls" profile) (modules : Takes "blacklist_imports" profile) :
      Routed calls imports profile
        (.dict [(.str "Import", .list calls), (.str "ImportFrom", .list calls), (.str "Call", .list calls)])
  | both (functions : Takes "blacklist_calls" profile) (modules : Takes "blacklist_imports" profile) :
      Routed calls imports profile
        (.dict [(.str "Call", .list (imports ++ calls)), (.str "Import", .list calls),
          (.str "ImportFrom", .list calls)])

/-- The families are alike as far as the tests of the profile tell them apart. -/
structure Interchangeable (calls imports : List Value) (profile : Value) : Prop where
  functions : Takes "blacklist_calls" profile → ¬ Takes "blacklist_imports" profile → calls ⊆ imports
  modules : Takes "blacklist_imports" profile → imports ⊆ calls
  no_modules : Takes "blacklist_calls" profile → ¬ Includes "blacklist_imports" profile → imports ⊆ calls
  no_functions : Takes "blacklist_imports" profile → ¬ Includes "blacklist_calls" profile → calls ⊆ imports

namespace Routed

variable {calls imports : List Value} {profile data : Value}

section

variable (routed : Routed calls imports profile data)

include routed

theorem of_mem (member : r ∈ recordsAt kind data) :
    (Takes "blacklist_calls" profile ∧ r ∈ imports) ∨ (Takes "blacklist_imports" profile ∧ r ∈ calls) := by
  cases routed with
  | neither noFunctions noModules => cases member
  | functions functions noModules =>
    simp only [recordsAt_cons, recordsAt_nil] at member
    split_ifs at member
    · exact .inl ⟨functions, member⟩
    · cases member
  | modules noFunctions modules =>
    simp only [recordsAt_cons, recordsAt_nil] at member
    split_ifs at member
    · exact .inr ⟨modules, member⟩
    · exact .inr ⟨modules, member⟩
    · exact .inr ⟨modules, member⟩
    · cases member
  | both functions modules =>
    simp only [recordsAt_cons, recordsAt_nil] at member
    split_ifs at member
    · exact (mem_append.mp member).imp (⟨functions, ·⟩) (⟨modules, ·⟩)
    · exact .inr ⟨modules, member⟩
    · exact .inr ⟨modules, member⟩
    · cases member

theorem mem_call_iff : r ∈ recordsAt "Call" data ↔
      (Takes "blacklist_calls" profile ∧ r ∈ imports) ∨ (Takes "blacklist_imports" profile ∧ r ∈ calls) := by
  refine ⟨routed.of_mem, fun either => ?_⟩
  cases routed <;> simp_all

theorem mem_import_iff (listed : kind ∈ ["Import", "ImportFrom"]) :
    r ∈ recordsAt kind data ↔ Takes "blacklist_imports" profile ∧ r ∈ calls := by
  simp only [mem_cons, not_mem_nil, or_false] at listed
  cases routed <;> rcases listed with rfl | rfl <;> simp_all

theorem asNamed_iff : AsNamed calls imports profile data ↔ Interchangeable calls imports profile := by
  constructor
  · intro named
    refine ⟨fun functions noModules r member => ?_, fun modules r member => ?_, fun functions absent r member => ?_,
      fun modules absent r member => ?_⟩
    · have placed := routed.mem_call_iff.mp (named.functions functions member)
      exact (placed.resolve_right fun other => noModules other.1).2
    · have placed := named.modules modules "Import" (by simp) member
      exact ((routed.mem_import_iff (by simp)).mp placed).2
    · have from_ := named.own "Call" r (routed.mem_call_iff.mpr (.inl ⟨functions, member⟩))
      exact (from_.resolve_right fun other => absent other.1).2
    · have from_ := named.own "Call" r (routed.mem_call_iff.mpr (.inr ⟨modules, member⟩))
      exact (from_.resolve_left fun other => absent other.1).2
  · intro alike
    refine ⟨fun functions r member => ?_, fun modules kind listed r member => ?_, fun noFunctions noModules => ?_,
      fun kind r member => ?_⟩
    · rw [routed.mem_call_iff]
      by_cases modules : Takes "blacklist_imports" profile
      · exact .inr ⟨modules, member⟩
      · exact .inl ⟨functions, alike.functions functions modules member⟩
    · have function : r ∈ calls := alike.modules modules member
      by_cases call : kind = "Call"
      · rw [call, routed.mem_call_iff]
        exact .inr ⟨modules, function⟩
      · exact (routed.mem_import_iff (by simpa [call] using listed)).mpr ⟨modules, function⟩
    · cases routed with
      | neither => rfl
      | functions functions => exact absurd functions.1 noFunctions
      | modules _ modules => exact absurd modules.1 noModules
      | both functions => exact absurd functions.1 noFunctions
    · rcases routed.of_mem member with ⟨functions, module⟩ | ⟨modules, function⟩
      · by_cases included : Includes "blacklist_imports" profile
        · exact .inr ⟨included, module⟩
        · exact .inl ⟨functions.1, alike.no_modules functions included module⟩
      · by_cases included : Includes "blacklist_calls" profile
        · exact .inl ⟨included, function⟩
        · exact .inr ⟨modules.1, alike.no_functions modules included function⟩

end

end Routed

def taken (test : String) (inc exc : List Value) : Bool :=
  inc.any (·.equals (.str test)) && !exc.any (·.equals (.str test))

theorem taken_iff (outdated : Outdated test) (profile : Value) :
    taken test (listed (part "include" profile.entries)) (listed (part "exclude" profile.entries)) = true ↔
      Takes test profile := by
  rw [taken, Bool.and_eq_true, Bool.not_eq_true', Bool.eq_false_iff, Ne, Value.any_equals_str_iff,
    Value.any_equals_str_iff, mem_listed_iff outdated, mem_listed_iff outdated]
  rfl

def routedData (calls imports : List Value) (onCalls onImports : Bool) : Value :=
  let forCalls := (if onCalls then imports else []) ++ (if onImports then calls else [])
  let data := (if onCalls then [("Call", forCalls)] else []) ++
    (if onImports then [("Import", calls), ("ImportFrom", calls)] else []) ++
    (if onImports && !onCalls then [("Call", forCalls)] else [])
  .dict (data.map fun (check, records) => (.str check, .list records))

theorem get?_profileRecord (calls imports inc exc : List Value) :
    (profileRecord calls imports (.set inc) (.set exc)).get? "blacklist" =
      some (routedData calls imports (taken "blacklist_calls" inc exc) (taken "blacklist_imports" inc exc)) := rfl

theorem routed_routedData {calls imports : List Value} {profile : Value} {onCalls onImports : Bool}
    (functions : onCalls = true ↔ Takes "blacklist_calls" profile)
    (modules : onImports = true ↔ Takes "blacklist_imports" profile) :
    Routed calls imports profile (routedData calls imports onCalls onImports) := by
  cases onCalls <;> cases onImports
  · exact .neither (by simpa using functions) (by simpa using modules)
  · exact .modules (by simpa using functions) (by simpa using modules)
  · have same : routedData calls imports true false = .dict [(.str "Call", .list imports)] := by
      simp [routedData]
    rw [same]
    exact .functions (by simpa using functions) (by simpa using modules)
  · exact .both (by simpa using functions) (by simpa using modules)

theorem exists_routed (calls imports : List Value) (e : Value × Value) :
    ∃ data, (renewProfile calls imports e).2.get? "blacklist" = some data ∧ Routed calls imports e.2 data :=
  ⟨_, get?_profileRecord calls imports _ _,
    routed_routedData (taken_iff ⟨by decide +kernel, by decide +kernel⟩ e.2)
      (taken_iff ⟨by decide +kernel, by decide +kernel⟩ e.2)⟩

theorem get?_profiles_of_ofContent {path : String} {es profiles : Fields} {log later : Log} {s : Settings}
    (loaded : (ofContent path (.dict es)).run log = .ok s later)
    (present : Value.lookup (.str "profiles") es = some (.dict profiles)) :
    s.content.get? "profiles" = some (.dict (profiles.map (renewProfile (calls es) (imports es)))) := by
  obtain ⟨tabled, loads⟩ := loads_of_ofContent loaded
  obtain ⟨now, last, again, renewed⟩ := ofContent_of_loads path log tabled loads
  obtain ⟨rfl, rfl⟩ : s = ⟨.dict now⟩ ∧ later = last := by simpa using loaded.symm.trans again
  rwa [present, profilesOf_of_present present] at renewed

/-- Each profile of a loaded file gets the data of the family that its tests do not name, and so what its tests say as
far as the families are interchangeable. -/
theorem profiles_routed {path : String} {es profiles : List (Value × Value)} {log later : Log} {s : Settings}
    (loaded : (ofContent path (.dict es)).run log = .ok s later)
    (present : Value.lookup (.str "profiles") es = some (.dict profiles)) :
    ∃ records, s.content.get? "profiles" = some (.dict records) ∧
      List.Forall₂ (fun old now => now.1 = old.1 ∧ ∃ data, now.2.get? "blacklist" = some data ∧
        Routed (calls es) (imports es) old.2 data ∧
        (AsNamed (calls es) (imports es) old.2 data ↔ Interchangeable (calls es) (imports es) old.2))
        profiles records := by
  refine ⟨_, get?_profiles_of_ofContent loaded present, ?_⟩
  rw [List.forall₂_map_right_iff, List.forall₂_same]
  intro e _
  obtain ⟨data, found, routed⟩ := exists_routed (calls es) (imports es) e
  exact ⟨rfl, data, found, routed, routed.asNamed_iff⟩

def callsOnly : Value := .dict [(.str "include", .list [.str "blacklist_calls"])]

def twoFamilies : Fields :=
  [(.str "profiles", .dict [(.str "p", callsOnly)]),
    (.str "blacklist_calls", .dict [(.str "bad_name_sets", .list [.dict [(.str "pickle",
      .dict [(.str "qualnames", .list [.str "pickle.loads"]), (.str "message", .str "\x7bfunc\x7d is used.")])]])]),
    (.str "blacklist_imports", .dict [(.str "bad_import_sets", .list [.dict [(.str "telnet",
      .dict [(.str "imports", .list [.str "telnetlib"]), (.str "message", .str "\x7bmodule\x7d is used.")])]])])]

theorem lookup_profiles_twoFamilies :
    Value.lookup (.str "profiles") twoFamilies = some (.dict [(.str "p", callsOnly)]) := rfl

theorem exists_loaded_twoFamilies : ∃ s later, (ofContent "b.yaml" (.dict twoFamilies)).run [] = .ok s later := by
  have loads : ((ofContent "b.yaml" (.dict twoFamilies)).run' []).isSome := by decide +kernel
  cases loaded : (ofContent "b.yaml" (.dict twoFamilies)).run [] with
  | ok s later => exact ⟨s, later, rfl⟩
  | error e later => simp [EStateM.run', loaded] at loads

theorem takes_callsOnly : Takes "blacklist_calls" callsOnly ∧ ¬ Includes "blacklist_imports" callsOnly := by
  have included : itemsAt "include" callsOnly = [.str "blacklist_calls"] := rfl
  have excluded : itemsAt "exclude" callsOnly = [] := rfl
  simp [Takes, Includes, included, excluded, Value.str_inj]

theorem profiles_routed_twoFamilies : ∃ s later record,
    (ofContent "b.yaml" (.dict twoFamilies)).run [] = .ok s later ∧
    s.content.get? "profiles" = some (.dict [(.str "p", record)]) ∧
    record.get? "blacklist" = some (.dict [(.str "Call", .list (imports twoFamilies))]) := by
  obtain ⟨s, later, loaded⟩ := exists_loaded_twoFamilies
  obtain ⟨_, found, each⟩ := profiles_routed loaded lookup_profiles_twoFamilies
  obtain ⟨⟨_, record⟩, _, ⟨named, _, held, routed, -⟩, others, rfl⟩ := List.forall₂_cons_left_iff.mp each
  obtain rfl := List.forall₂_nil_left_iff.mp others
  cases named
  refine ⟨s, later, record, loaded, found, held.trans ?_⟩
  cases routed with
  | functions => rfl
  | neither noFunctions => exact absurd takes_callsOnly.1 noFunctions
  | modules noFunctions => exact absurd takes_callsOnly.1 noFunctions
  | both _ modules => exact absurd modules.1 takes_callsOnly.2

/-- The records on functions that the profile asks for are not among its data on calls. -/
theorem twoFamilies_misrouted : ∃ s later record data,
    (ofContent "b.yaml" (.dict twoFamilies)).run [] = .ok s later ∧
    s.content.get? "profiles" = some (.dict [(.str "p", record)]) ∧ record.get? "blacklist" = some data ∧
    Takes "blacklist_calls" callsOnly ∧ ¬ calls twoFamilies ⊆ recordsAt "Call" data := by
  obtain ⟨s, later, loaded⟩ := exists_loaded_twoFamilies
  obtain ⟨data, held, routed⟩ := exists_routed (calls twoFamilies) (imports twoFamilies) (.str "p", callsOnly)
  refine ⟨s, later, _, data, loaded, get?_profiles_of_ofContent loaded lookup_profiles_twoFamilies, held,
    takes_callsOnly.1, fun within => ?_⟩
  have functions : calls twoFamilies = [.dict [(.str "qualnames", .list [.str "pickle.loads"]),
      (.str "message", .str "\x7bname\x7d is used."), (.str "name", .str "pickle")]] := by cbv
  have modules : imports twoFamilies = [.dict [(.str "message", .str "\x7bname\x7d is used."),
      (.str "name", .str "telnet"), (.str "qualnames", .list [.str "telnetlib"])]] := by cbv
  have placed := routed.mem_call_iff.mp (within (by rw [functions]; exact mem_singleton_self _))
  have other := (placed.resolve_right fun modules => takes_callsOnly.2 modules.1.1).2
  simp [modules, Value.str_inj] at other

end SourceAudit.Settings
