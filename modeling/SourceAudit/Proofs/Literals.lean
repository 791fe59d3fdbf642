import SourceAudit.Proofs.Arguments
import SourceAudit.Proofs.Execution
import SourceAudit.Proofs.Proper

/-! Which literals a text is drawn from: surrogates come from nowhere else. -/

namespace SourceAudit

open Answers List

inductive Node.HasText : Node → Text → Prop where
  | literal (place : Span) (t : Text) : HasText (.constant place (.text t)) t
  | inside {n c : Node} {t : Text} (child : some c ∈ n.groups.flatten) (within : HasText c t) : HasText n t

namespace Text

def DrawnFrom (held : Text → Prop) (t : Text) : Prop := ∀ p ∈ t, p.isSurrogate = true → ∃ s, held s ∧ p ∈ s

variable {held more : Text → Prop} {t : Text}

theorem Proper.drawnFrom (proper : Proper t) : DrawnFrom held t := by
  intro p there odd
  simp [proper p there] at odd

theorem drawnFrom_of_held (own : held t) : DrawnFrom held t := fun _ there _ => ⟨t, own, there⟩

theorem DrawnFrom.mono (drawn : DrawnFrom held t) (wider : ∀ s, held s → more s) : DrawnFrom more t := by
  intro p there odd
  obtain ⟨s, own, among⟩ := drawn p there odd
  exact ⟨s, wider s own, among⟩

@[simp] theorem drawnFrom_ofString (s : String) : DrawnFrom held (ofString s) := (proper_ofString s).drawnFrom

@[simp] theorem drawnFrom_append {a b : Text} : DrawnFrom held (a ++ b) ↔ DrawnFrom held a ∧ DrawnFrom held b :=
  forall_mem_append

theorem DrawnFrom.quoted (drawn : DrawnFrom held t) : DrawnFrom held (Quoted.text t) :=
  fun p shown odd => drawn p (mem_of_mem_quoted shown odd) odd

theorem DrawnFrom.capitals (drawn : DrawnFrom held t) : DrawnFrom held (capitals t) := by
  intro p shown odd
  obtain ⟨q, there, rfl⟩ := mem_map.mp shown
  by_cases small : (97 ≤ q.val && q.val ≤ 122) = true
  · have range : 97 ≤ q.val ∧ q.val ≤ 122 := by simpa using small
    rw [if_pos small, CodePoint.ofNat, dif_pos (by omega)] at odd
    simp [CodePoint.isSurrogate] at odd
    omega
  · rw [if_neg small] at odd ⊢
    exact drawn q there odd

theorem proper_bytes (b : Bytes) : Proper (Quoted.bytes b) := by
  have narrow : Proper (Bytes.toText b) := by
    intro p there
    obtain ⟨x, -, rfl⟩ := mem_map.mp there
    have small : x.toNat < 256 := x.toNat_lt
    rw [CodePoint.ofNat, dif_pos (by omega)]
    simp [CodePoint.isSurrogate]
    omega
  intro p shown
  rw [← Bool.not_eq_true]
  intro odd
  rw [Quoted.bytes, mem_append, mem_append, mem_cons, mem_singleton] at shown
  rcases shown with ((rfl | rfl) | there) | rfl
  · exact absurd odd (by decide)
  · exact absurd odd (by simp [isSurrogate_quoteFor])
  · simpa [odd] using narrow p (mem_of_mem_escaped there odd)
  · exact absurd odd (by simp [isSurrogate_quoteFor])

theorem DrawnFrom.commas {parts : List Text} (each : ∀ s ∈ parts, DrawnFrom held s) :
    DrawnFrom held (Value.commas parts) :=
  Segments.forall_mem_join (drawnFrom_ofString ", ") each

end Text

namespace Value

variable {held : Text → Prop}

theorem drawnFrom_render {v : Value} (drawn : v.display.DrawnFrom held) : v.render.DrawnFrom held := by
  cases v with
  | text t => exact Text.DrawnFrom.quoted drawn
  | _ => exact drawn

section

variable {vs : List Value} (each : ∀ v ∈ vs, v.display.DrawnFrom held)

include each

theorem drawnFrom_renderItems : ∀ t ∈ renderItems vs, t.DrawnFrom held := by
  induction vs with
  | nil => exact nofun
  | cons v rest ih =>
    rw [forall_mem_cons] at each
    exact forall_mem_cons.mpr ⟨drawnFrom_render each.1, ih each.2⟩

theorem drawnFrom_setOf : (setOf vs).display.DrawnFrom held := by
  have kept : ∀ v ∈ vs.foldl (fun acc v => if acc.any (·.equals v) then acc else acc ++ [v]) [],
      v.display.DrawnFrom held := by
    refine List.foldlRecOn vs _ (motive := fun acc : List Value => ∀ v ∈ acc, v.display.DrawnFrom held) nofun ?_
    intro acc fine v mem
    split
    · exact fine
    · exact forall_mem_append.mpr ⟨fine, forall_mem_singleton.mpr (each v mem)⟩
  change (render (.set _)).DrawnFrom held
  rw [render]
  split
  · exact Text.drawnFrom_ofString _
  · simpa using Text.DrawnFrom.commas (drawnFrom_renderItems kept)

end

variable {es : Fields}

theorem forall_mem_foldl_put (ofKey ofValue : Value → Prop) (each : ∀ e ∈ es, ofKey e.1 ∧ ofValue e.2) :
    ∀ e ∈ es.foldl (fun acc (k, v) => put k v acc) [], ofKey e.1 ∧ ofValue e.2 := by
  refine List.foldlRecOn es _ (motive := fun acc : Fields => ∀ e ∈ acc, ofKey e.1 ∧ ofValue e.2) nofun ?_
  intro acc fine e mem
  dsimp only
  unfold put
  split
  · intro new there
    obtain ⟨old, member, rfl⟩ := mem_map.mp there
    split
    · exact ⟨(fine old member).1, (each e mem).2⟩
    · exact fine old member
  · exact forall_mem_append.mpr ⟨fine, forall_mem_singleton.mpr (each e mem)⟩

theorem drawnFrom_dictOf
    (each : ∀ e ∈ es, e.1.render.DrawnFrom held ∧ e.2.render.DrawnFrom held) : (dictOf es).display.DrawnFrom held := by
  have entries (es : Fields) (each : ∀ e ∈ es, e.1.render.DrawnFrom held ∧ e.2.render.DrawnFrom held) :
      ∀ t ∈ renderEntries es, t.DrawnFrom held := by
    induction es with
    | nil => exact nofun
    | cons e rest ih =>
      rw [forall_mem_cons] at each
      exact forall_mem_cons.mpr ⟨by simpa using each.1, ih each.2⟩
  have kept := forall_mem_foldl_put (fun k => k.render.DrawnFrom held) (fun v => v.render.DrawnFrom held) each
  rw [show (dictOf es).display = (Value.dict (es.foldl (fun acc (k, v) => put k v acc) [])).render from rfl, render]
  simpa using Text.DrawnFrom.commas (entries _ kept)

end Value

namespace Node

theorem exists_of_textOf? {n : Node} {t : Text} (text : n.textOf? = some t) : ∃ place, n = constant place (.text t) := by
  unfold textOf? at text
  split at text <;> cases text
  exact ⟨_, rfl⟩

theorem of_child {n c : Node} (child : some c ∈ n.groups.flatten) {t : Text} (drawn : t.DrawnFrom c.HasText) :
    t.DrawnFrom n.HasText := drawn.mono fun _ within => .inside child within

/-- What is shown of the value that an argument spells is drawn from its literals. -/
theorem drawnFrom_literal : (∀ n v, literal n = .ok v → v.display.DrawnFrom n.HasText) ∧
    ∀ ns vs, literals ns = .ok vs → ∀ v ∈ vs, ∃ n ∈ ns, v.display.DrawnFrom n.HasText := by
  have gathered {n : Node} {elts : List Node} (children : elts.map some ∈ n.groups) {vs : List Value}
      (each : ∀ v ∈ vs, ∃ m ∈ elts, v.display.DrawnFrom m.HasText) : ∀ v ∈ vs, v.display.DrawnFrom n.HasText := by
    intro v mem
    obtain ⟨m, member, drawn⟩ := each v mem
    exact of_child (mem_flatten.mpr ⟨_, children, mem_map_of_mem member⟩) drawn
  apply literal.mutual_induct
  case case1 =>
    rintro place c v ⟨⟩
    cases c with
    | text t => exact Text.drawnFrom_of_held (.literal place t)
    | none => exact Text.drawnFrom_ofString _
    | ellipsis => exact Text.drawnFrom_ofString _
    | bool b => exact Text.drawnFrom_ofString _
    | int n => exact Text.drawnFrom_ofString _
    | float x => exact Text.drawnFrom_ofString _
    | imaginary x => exact Text.drawnFrom_ofString _
    | bytes b => exact (Text.proper_bytes b).drawnFrom
  case case2 =>
    intro place elts ctx items v spelled
    obtain ⟨vs, each, rfl⟩ := map_eq_ok.mp spelled
    have drawn := gathered (n := .list place elts ctx) (by simp [groups]) (items vs each)
    change (Value.render (.list vs)).DrawnFrom _
    rw [Value.render]
    simpa using Text.DrawnFrom.commas (Value.drawnFrom_renderItems drawn)
  case case3 =>
    intro place elts ctx items v spelled
    obtain ⟨vs, each, rfl⟩ := map_eq_ok.mp spelled
    have drawn := gathered (n := .tuple place elts ctx) (by simp [groups]) (items vs each)
    change (Value.render (.tuple vs)).DrawnFrom _
    rw [Value.render]
    split <;> simpa using Text.DrawnFrom.commas (Value.drawnFrom_renderItems drawn)
  case case4 =>
    intro place elts items v spelled
    obtain ⟨vs, each, same⟩ := bind_eq_ok.mp spelled
    split at same
    · cases same
      exact Value.drawnFrom_setOf (gathered (n := .set place elts) (by simp [groups]) (items vs each))
    · cases same
  case case5 =>
    rintro place keys values v ⟨⟩
    apply Value.drawnFrom_dictOf
    intro e mem
    obtain ⟨⟨k, _⟩, -, rfl⟩ := mem_map.mp mem
    cases k <;> simp [Value.render]
  case case6 =>
    rintro place id ctx v ⟨⟩
    exact Text.drawnFrom_ofString _
  case case7 =>
    intro n constant list tuple set dict name v spelled
    have plain : n.literal = .ok .null := by
      unfold literal
      split <;> simp_all
    cases plain.symm.trans spelled
    exact Text.drawnFrom_ofString _
  case case8 =>
    rintro vs ⟨⟩ v ⟨⟩
  case case9 =>
    intro n ns first others vs spelled
    obtain ⟨v, own, spelled⟩ := bind_eq_ok.mp spelled
    obtain ⟨rest, later, ⟨⟩⟩ := bind_eq_ok.mp spelled
    rw [forall_mem_cons]
    refine ⟨⟨n, mem_cons_self, first v own⟩, ?_⟩
    intro w mem
    obtain ⟨m, member, drawn⟩ := others rest later w mem
    exact ⟨m, mem_cons_of_mem n member, drawn⟩

end Node

theorem Node.drawnFrom_argumentValue {n : Node} {v : Value} (spelled : n.argumentValue = .ok v) :
    v.display.DrawnFrom n.HasText := by
  unfold argumentValue at spelled
  split at spelled
  · cases spelled
    exact Text.drawnFrom_ofString _
  · exact drawnFrom_literal.1 n v spelled

namespace Context

variable {c : Context} {v : Value}

/-- The text is a literal in the place, in the call there or in a node around it. -/
inductive HasText (c : Context) (t : Text) : Prop where
  | node {n : Node} (here : c.node = some n) (within : n.HasText t)
  | call {n : Node} (here : c.call = some n) (within : n.HasText t)
  | around {a : Ancestor} (listed : a ∈ c.ancestors) (within : a.node.HasText t)

theorem drawnFrom_arg {args : List Node} (given : c.args? = some args) {n : Node} (mem : n ∈ args)
    (spelled : n.argumentValue = .ok v) : v.display.DrawnFrom c.HasText := by
  unfold args? at given
  split at given
  · cases given
    exact (Node.drawnFrom_argumentValue spelled).mono fun s within =>
      .call ‹_› (.inside (by simp [Node.groups, mem]) within)
  · cases given

theorem drawnFrom_argAt {position : Int} (given : c.argAt position = .ok v) : v.display.DrawnFrom c.HasText := by
  unfold argAt at given
  split at given
  · dsimp only at given
    split_ifs at given
    · cases given
      exact Text.drawnFrom_ofString _
    all_goals
      split at given
      · exact drawnFrom_arg ‹_› (mem_of_getElem? ‹_›) given
      · cases given
        exact Text.drawnFrom_ofString _
  · cases given
    exact Text.drawnFrom_ofString _

theorem drawnFrom_callArgs {vs : List Value} (given : c.callArgs = .ok vs) (mem : v ∈ vs) :
    v.display.DrawnFrom c.HasText := by
  unfold callArgs at given
  split at given
  · obtain ⟨n, member, spelled⟩ := (mem_mapM_iff given).mp mem
    exact drawnFrom_arg ‹_› member spelled
  · cases given
    cases mem

theorem drawnFrom_callKeywords {ks : Fields} (given : c.callKeywords = .ok (some ks)) {key : Value}
    (found : Value.lookup key ks = some v) : v.display.DrawnFrom c.HasText := by
  unfold callKeywords at given
  split at given
  · obtain ⟨pairs, spelled, ⟨⟩⟩ := bind_eq_ok.mp given
    have each (e : Value × Value) (mem : e ∈ pairs) : True ∧ e.2.display.DrawnFrom c.HasText := by
      refine ⟨trivial, ?_⟩
      obtain ⟨k, member, spelled⟩ := (mem_mapM_iff spelled).mp mem
      have child : ∀ s, k.HasText s → c.HasText s := fun s within =>
        .call ‹_› (.inside (by simp [Node.groups, member]) within)
      split at spelled <;> obtain ⟨w, own, ⟨⟩⟩ := bind_eq_ok.mp spelled
      · exact (Node.drawnFrom_argumentValue own).mono fun s within => child s (.inside (by simp [Node.groups]) within)
      · exact (Node.drawnFrom_argumentValue own).mono child
    obtain ⟨own, there⟩ := Value.mem_of_lookup found
    exact (Value.forall_mem_foldl_put (fun _ => True) (fun v => v.display.DrawnFrom c.HasText) each _ there).2
  · cases given

end Context

end SourceAudit
