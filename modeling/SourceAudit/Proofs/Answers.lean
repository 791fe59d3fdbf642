import SourceAudit.Data.Value
import SourceAudit.Proofs.Lists

/-! Steps that may fail: taking those apart that have ended well, and putting together those that end well. -/

namespace SourceAudit.Answers

open List

variable {ε α β γ : Type}

theorem bind_eq_ok {x : Except ε α} {f : α → Except ε β} {b : β} : x >>= f = .ok b ↔ ∃ a, x = .ok a ∧ f a = .ok b := by
  cases x with
  | error e =>
    change Except.error e = Except.ok b ↔ _
    simp
  | ok a =>
    change f a = Except.ok b ↔ _
    simp

theorem run_bind_eq_ok {σ : Type} {x : EStateM ε σ α} {f : α → EStateM ε σ β} {b : β} {s last : σ} :
    (x >>= f).run s = .ok b last ↔ ∃ a later, x.run s = .ok a later ∧ (f a).run later = .ok b last := by
  rw [EStateM.run_bind]
  cases x.run s with
  | ok a later => simp
  | error fault later => simp

theorem pure_eq_ok {a b : α} : (pure a : Except ε α) = .ok b ↔ a = b := by
  change Except.ok a = Except.ok b ↔ _
  simp

variable {g : α → β} {x : Except ε α}

theorem map_eq_ok {b : β} : g <$> x = .ok b ↔ ∃ a, x = .ok a ∧ g a = b := by
  cases x with
  | error e =>
    change Except.error e = Except.ok b ↔ _
    simp
  | ok a =>
    change Except.ok (g a) = Except.ok b ↔ _
    simp

theorem exists_map_iff : (∃ b, g <$> x = .ok b) ↔ ∃ a, x = .ok a := by
  simp only [map_eq_ok]
  constructor
  · rintro ⟨b, a, done, -⟩
    exact ⟨a, done⟩
  · rintro ⟨a, done⟩
    exact ⟨g a, a, done, rfl⟩

variable {f : α → Except ε β}

theorem mapM_cons_eq_ok {a : α} {rest : List α} {brought : List β} : (a :: rest).mapM f = .ok brought ↔
      ∃ first others, f a = .ok first ∧ rest.mapM f = .ok others ∧ first :: others = brought := by
  simp only [mapM_cons, bind_eq_ok, pure_eq_ok]
  constructor
  · rintro ⟨first, begun, others, ended, whole⟩
    exact ⟨first, others, begun, ended, whole⟩
  · rintro ⟨first, others, begun, ended, whole⟩
    exact ⟨first, begun, others, ended, whole⟩

theorem exists_mapM_iff {items : List α} : (∃ brought, items.mapM f = .ok brought) ↔ ∀ a ∈ items, ∃ b, f a = .ok b := by
  induction items with
  | nil => simp [pure_eq_ok]
  | cons a rest ih =>
    rw [forall_mem_cons, ← ih]
    constructor
    · rintro ⟨brought, done⟩
      obtain ⟨first, others, begun, ended, rfl⟩ := mapM_cons_eq_ok.mp done
      exact ⟨⟨first, begun⟩, others, ended⟩
    · rintro ⟨⟨first, begun⟩, others, ended⟩
      exact ⟨_, mapM_cons_eq_ok.mpr ⟨first, others, begun, ended, rfl⟩⟩

variable {items : List α}

theorem mapM_congr {f g : α → Except ε β} (same : ∀ a ∈ items, f a = g a) : items.mapM f = items.mapM g := by
  induction items with
  | nil => rfl
  | cons a rest ih =>
    obtain ⟨first, later⟩ := forall_mem_cons.mp same
    rw [mapM_cons, mapM_cons, first, ih later]

variable {f : α → Except ε β}

theorem mapM_eq_ok_congr {δ : Type} {g : α → Except δ β} (same : ∀ a b, f a = .ok b ↔ g a = .ok b) {brought : List β} :
    items.mapM f = .ok brought ↔ items.mapM g = .ok brought := by
  induction items generalizing brought with
  | nil => simp [pure_eq_ok]
  | cons a rest ih => simp only [mapM_cons_eq_ok, same, ih]

theorem mapM_of_ok {g : α → β} (each : ∀ a ∈ items, f a = .ok (g a)) : items.mapM f = .ok (items.map g) := by
  induction items with
  | nil => rfl
  | cons a rest ih =>
    have begun := each a List.mem_cons_self
    have ended := ih fun b later => each b (List.mem_cons_of_mem a later)
    exact mapM_cons_eq_ok.mpr ⟨_, _, begun, ended, rfl⟩

theorem foldlM_of_fixed {g : β → α → Except ε β} {b : β} (each : ∀ a ∈ items, g b a = .ok b) :
    items.foldlM g b = .ok b := by
  induction items with
  | nil => rfl
  | cons a rest ih =>
    obtain ⟨first, later⟩ := forall_mem_cons.mp each
    rw [List.foldlM_cons, first]
    exact ih later

theorem mem_mapM_iff {brought : List β} {b : β}
    (done : items.mapM f = .ok brought) : b ∈ brought ↔ ∃ a ∈ items, f a = .ok b := by
  induction items generalizing brought with
  | nil =>
    rw [mapM_nil, pure_eq_ok] at done
    simp [← done]
  | cons a rest ih =>
    obtain ⟨_, _, begun, ended, rfl⟩ := mapM_cons_eq_ok.mp done
    simp [ih ended, begun, eq_comm]

theorem map_eq_of_mapM {g : β → γ} {h : α → γ} {brought : List β}
    (done : items.mapM f = .ok brought) (each : ∀ a b, f a = .ok b → g b = h a) : brought.map g = items.map h := by
  induction items generalizing brought with
  | nil =>
    rw [mapM_nil, pure_eq_ok] at done
    simp [← done]
  | cons a rest ih =>
    obtain ⟨first, _, begun, ended, rfl⟩ := mapM_cons_eq_ok.mp done
    rw [map_cons, map_cons, each a first begun, ih ended]

theorem mapM_filter {keep : α → Bool} {kept : β → Bool} (each : ∀ a b, f a = .ok b → kept b = keep a) {brought : List β}
    (done : items.mapM f = .ok brought) : (items.filter keep).mapM f = .ok (brought.filter kept) := by
  induction items generalizing brought with
  | nil =>
    rw [mapM_nil, pure_eq_ok] at done
    simp [← done, pure_eq_ok]
  | cons a rest ih =>
    obtain ⟨first, _, begun, ended, rfl⟩ := mapM_cons_eq_ok.mp done
    rw [filter_cons, filter_cons, each a first begun]
    split
    · exact mapM_cons_eq_ok.mpr ⟨first, _, begun, ih ended, rfl⟩
    · exact ih ended

theorem forM_flatMap {m : Type → Type} [Monad m] [LawfulMonad m] (items : List α) (parts : α → List β)
    (f : β → m PUnit) : (items.flatMap parts).forM f = items.forM fun a => (parts a).forM f := by
  induction items with
  | nil => rfl
  | cons a rest ih => simp_all [flatMap_cons, forM_append]

end SourceAudit.Answers

namespace SourceAudit

def Brings {ε α : Type} (x : Except ε α) (demand : α → Prop) : Prop := ∃ a, x = .ok a ∧ demand a

/-- The steps end well. -/
abbrev Answered {ε α : Type} (x : Except ε α) : Prop := Brings x fun _ => True

namespace Brings

variable {ε α β : Type} {x : Except ε α} {demand : α → Prop} {goal : β → Prop}

theorem pure {a : α} (met : demand a) : Brings (pure a : Except ε α) demand := ⟨a, rfl, met⟩

theorem bind {f : α → Except ε β} (first : Brings x demand) (later : ∀ a, demand a → Brings (f a) goal) :
    Brings (x >>= f) goal := by
  obtain ⟨a, brought, met⟩ := first
  obtain ⟨b, ended, reached⟩ := later a met
  exact ⟨b, Answers.bind_eq_ok.mpr ⟨a, brought, ended⟩, reached⟩

theorem map {f : α → β} (first : Brings x demand) (later : ∀ a, demand a → goal (f a)) : Brings (f <$> x) goal := by
  obtain ⟨a, brought, met⟩ := first
  exact ⟨f a, Answers.map_eq_ok.mpr ⟨a, brought, rfl⟩, later a met⟩

theorem forIn {items : List α} {start : β} {step : α → β → Except ε (ForInStep β)} (begun : goal start)
    (each : ∀ a ∈ items, ∀ b, goal b → Brings (step a b) fun next => goal next.value) :
    Brings (forIn items start step) goal := by
  induction items generalizing start with
  | nil => exact Brings.pure begun
  | cons a rest ih =>
    rw [List.forIn_cons]
    apply Brings.bind (each a List.mem_cons_self start begun)
    intro next kept
    cases next with
    | done b => exact Brings.pure kept
    | yield b => exact ih kept fun a mem => each a (List.mem_cons_of_mem _ mem)

end Brings

def Ensures {ε α : Type} (x : Except ε α) (demand : α → Prop) : Prop := ∀ a, x = .ok a → demand a

namespace Ensures

variable {ε α β : Type} {x : Except ε α} {demand : α → Prop} {goal : β → Prop}

theorem pure {a : α} (met : demand a) : Ensures (pure a : Except ε α) demand := by
  rintro _ ⟨⟩
  exact met

theorem bind {f : α → Except ε β} (first : Ensures x demand) (later : ∀ a, demand a → Ensures (f a) goal) :
    Ensures (x >>= f) goal := by
  intro b ended
  obtain ⟨a, brought, ended⟩ := Answers.bind_eq_ok.mp ended
  exact later a (first a brought) b ended

theorem itself (x : Except ε α) : Ensures x fun a => x = .ok a := fun _ brought => brought

theorem forIn {items : List α} {start : β} {step : α → β → Except ε (ForInStep β)} (begun : goal start)
    (each : ∀ a ∈ items, ∀ b, goal b → Ensures (step a b) fun next => goal next.value) :
    Ensures (forIn items start step) goal := by
  induction items generalizing start with
  | nil => exact Ensures.pure begun
  | cons a rest ih =>
    rw [List.forIn_cons]
    refine Ensures.bind (each a List.mem_cons_self start begun) fun next kept => ?_
    cases next with
    | done b => exact Ensures.pure kept
    | yield b => exact ih kept fun a mem => each a (List.mem_cons_of_mem _ mem)

end Ensures

variable {ε α : Type}

theorem answered_ok (a : α) : Answered (.ok a : Except ε α) := ⟨a, rfl, trivial⟩

theorem answered_pure (a : α) : Answered (pure a : Except ε α) := answered_ok a

theorem not_answered_iff {x : Except ε α} : ¬ Answered x ↔ ∃ fault, x = .error fault := by
  cases x with
  | error fault => simp [Answered, Brings]
  | ok a => simp [answered_ok]

variable {α : Type} {items : List α} {ask : α → Answer Bool}

theorem answered_anyAnswer (each : ∀ a ∈ items, Answered (ask a)) : Answered (anyAnswer ask items) := by
  have searched : Answered (findAnswer ask items) := by
    induction items with
    | nil => exact answered_ok none
    | cons a rest ih =>
      apply Brings.bind (each a List.mem_cons_self)
      intro yes _
      split
      · exact answered_ok _
      · exact ih fun b later => each b (List.mem_cons_of_mem a later)
  exact Brings.map searched fun _ _ => trivial

theorem mem_of_findAnswer {a : α} (found : findAnswer ask items = .ok (some a)) : a ∈ items := by
  induction items with
  | nil => cases found
  | cons b rest ih =>
    rw [findAnswer, Answers.bind_eq_ok] at found
    obtain ⟨yes, -, found⟩ := found
    cases yes with
    | true =>
      cases found
      exact List.mem_cons_self
    | false => exact List.mem_cons_of_mem b (ih found)

theorem isSome_findAnswer {first : Option α}
    (done : findAnswer ask items = .ok first) : first.isSome = true ↔ ∃ a ∈ items, ask a = .ok true := by
  induction items with
  | nil => simp [← Except.ok.inj done]
  | cons a rest ih =>
    rw [findAnswer, Answers.bind_eq_ok] at done
    obtain ⟨yes, asked, done⟩ := done
    cases yes with
    | true => simp [← Answers.pure_eq_ok.mp done, asked]
    | false => simpa [asked] using ih done

theorem anyAnswer_eq_ok {some_ : Bool}
    (done : anyAnswer ask items = .ok some_) : some_ = true ↔ ∃ a ∈ items, ask a = .ok true := by
  obtain ⟨_, found, rfl⟩ := Answers.map_eq_ok.mp done
  exact isSome_findAnswer found

end SourceAudit
