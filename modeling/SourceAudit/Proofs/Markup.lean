import SourceAudit.Proofs.Records
import SourceAudit.Report.Page

/-! The markup of pages. A page is an outline into which texts are put, code escaped and all else as it is. -/

namespace SourceAudit

open Answers List

namespace Markup

def ends (p : CodePoint) : Bool := p == 62 || p == 32 || p == 10

/-- The names of the tags of a page, one for each opening bracket. -/
def tags : Text → List Text
  | [] => []
  | p :: rest => if p == 60 then rest.takeWhile (!ends ·) :: tags rest else tags rest

theorem tags_cons (p : CodePoint) (rest : Text) :
    tags (p :: rest) = if p == 60 then rest.takeWhile (!ends ·) :: tags rest else tags rest := rfl

theorem length_tags (t : Text) : (tags t).length = t.count 60 := by
  induction t with
  | nil => rfl
  | cons p rest ih =>
    rw [tags_cons, count_cons]
    split
    · rw [length_cons, ih]
    · rw [ih, Nat.add_zero]

def closed : Text → Bool
  | [] => true
  | p :: rest => (p != 60 || rest.any ends) && closed rest

theorem takeWhile_append {name : Text} (ended : name.any ends) (rest : Text) :
    (name ++ rest).takeWhile (!ends ·) = name.takeWhile (!ends ·) := by
  induction name with
  | nil => simp at ended
  | cons p more ih =>
    by_cases last : ends p = true
    · simp [last]
    · have later : more.any ends = true := by simpa [last] using ended
      simp [last, ih later]

theorem tags_append {t : Text} (whole : closed t) (rest : Text) : tags (t ++ rest) = tags t ++ tags rest := by
  induction t with
  | nil => rfl
  | cons p more ih =>
    rw [closed, Bool.and_eq_true] at whole
    rw [cons_append, tags_cons, tags_cons, ih whole.2]
    by_cases opening : (p == 60) = true
    · have ended : more.any ends = true := by simpa [bne, opening] using whole.1
      rw [if_pos opening, if_pos opening, takeWhile_append ended, cons_append]
    · rw [if_neg opening, if_neg opening]

theorem tags_append_of_free {t : Text} (free : 60 ∉ t) (rest : Text) : tags (t ++ rest) = tags rest := by
  induction t with
  | nil => rfl
  | cons p more ih =>
    rw [mem_cons, not_or] at free
    rw [cons_append, tags_cons, ih free.2, if_neg]
    simpa using Ne.symm free.1

theorem closed_append {t : Text} (whole : closed t) (ended : t.any ends) (before : Text) :
    closed (before ++ t) = true := by
  induction before with
  | nil => exact whole
  | cons p more ih =>
    rw [cons_append, closed, ih, any_append, ended]
    simp

def special (p : CodePoint) : Bool := p == 38 || p == 60 || p == 62 || p == 34 || p == 39

theorem escapeMarkup_cons (p : CodePoint) (t : Text) :
    Report.escapeMarkup (p :: t) = Report.escapeMarkup [p] ++ Report.escapeMarkup t := by
  simp [Report.escapeMarkup]

theorem escapeMarkup_single (p : CodePoint) : special p = false ∧ Report.escapeMarkup [p] = [p] ∨
    special p = true ∧ ∃ name : Text, Report.escapeMarkup [p] = 38 :: name ∧ 38 ∉ name ∧ 60 ∉ name ∧ 62 ∉ name := by
  by_cases marked : special p = true
  · refine .inr ⟨marked, ?_⟩
    simp only [special, Bool.or_eq_true, beq_iff_eq, or_assoc] at marked
    rcases marked with rfl | rfl | rfl | rfl | rfl <;> exact ⟨_, rfl, by decide⟩
  · refine .inl ⟨by simpa using marked, ?_⟩
    simp only [special, Bool.or_eq_true, beq_iff_eq, not_or] at marked
    simp [Report.escapeMarkup, marked]

theorem count_escapeMarkup {mark : CodePoint} (bracket : mark = 60 ∨ mark = 62) (t : Text) :
    (Report.escapeMarkup t).count mark = 0 := by
  induction t with
  | nil => rfl
  | cons p rest ih =>
    rw [escapeMarkup_cons, count_append, ih, Nat.add_zero]
    rcases escapeMarkup_single p with ⟨plain, same⟩ | ⟨-, _, written, -, opening, closing⟩
    · have other : p ≠ mark := by
        rintro rfl
        rcases bracket with rfl | rfl <;> exact absurd plain (by decide)
      rw [same, count_singleton, if_neg (by simpa using other)]
    · rw [written, count_eq_zero]
      rcases bracket with rfl | rfl <;> simp [opening, closing]

theorem count_escapeMarkup_ampersand (t : Text) : (Report.escapeMarkup t).count 38 = t.countP special := by
  induction t with
  | nil => rfl
  | cons p rest ih =>
    rw [escapeMarkup_cons, count_append, ih, countP_cons]
    rcases escapeMarkup_single p with ⟨plain, same⟩ | ⟨marked, _, written, free, -⟩
    · have other : p ≠ 38 := by
        rintro rfl
        exact absurd plain (by decide)
      rw [same, plain, count_singleton, if_neg (by simpa using other)]
      simp
    · rw [written, marked, count_cons_self, count_eq_zero.mpr free]
      simp [Nat.add_comm]

/-- Two texts with one outline: what was put in as it is, and the code that was escaped. -/
inductive Alike : (t given code : Text) → (t' given' code' : Text) → Prop
  | nil : Alike [] [] [] [] [] []
  | outline (body last : Text) {t u c t' u' c' : Text} (whole : (closed last && last.any ends) = true)
      (rest : Alike t u c t' u' c') : Alike (body ++ (last ++ t)) u c (body ++ (last ++ t')) u' c'
  | given (own other : Text) {t u c t' u' c' : Text} (rest : Alike t u c t' u' c') :
      Alike (own ++ t) (own ++ u) c (other ++ t') (other ++ u') c'
  | code (own other : Text) {t u c t' u' c' : Text} (rest : Alike t u c t' u' c') :
      Alike (Report.escapeMarkup own ++ t) u (own ++ c) (Report.escapeMarkup other ++ t') u' (other ++ c')

namespace Alike

variable {t u c t' u' c' : Text}

theorem append {a v d a' v' d' : Text} (first : Alike t u c t' u' c') (second : Alike a v d a' v' d') :
    Alike (t ++ a) (u ++ v) (c ++ d) (t' ++ a') (u' ++ v') (c' ++ d') := by
  induction first with
  | nil => exact second
  | outline body last whole _ ih =>
    simp only [append_assoc]
    exact .outline body last whole ih
  | given own other _ ih =>
    simp only [append_assoc]
    exact .given own other ih
  | code own other _ ih =>
    simp only [append_assoc]
    exact .code own other ih

theorem fixed (last : Text) (whole : (closed last && last.any ends) = true) (rest : Alike t u c t' u' c') :
    Alike (last ++ t) u c (last ++ t') u' c' := .outline [] last whole rest

section

variable (alike : Alike t u c t' u' c')

include alike

theorem ended (last : Text) (whole : (closed last && last.any ends) = true) :
    Alike (t ++ last) u c (t' ++ last) u' c' := by
  have whole := alike.append (fixed last whole .nil)
  rwa [append_nil, append_nil, append_nil, append_nil, append_nil] at whole

theorem count_bracket {mark : CodePoint} (bracket : mark = 60 ∨ mark = 62) :
    t.count mark + u'.count mark = t'.count mark + u.count mark := by
  induction alike with
  | nil => rfl
  | outline body last _ _ ih =>
    simp only [count_append]
    omega
  | given own other _ ih =>
    simp only [count_append]
    omega
  | code own other _ ih =>
    simp only [count_append, count_escapeMarkup bracket]
    omega

theorem count_ampersand : t.count 38 + u'.count 38 + c'.countP special = t'.count 38 + u.count 38 + c.countP special := by
  induction alike with
  | nil => rfl
  | outline body last _ _ ih =>
    simp only [count_append]
    omega
  | given own other _ ih =>
    simp only [count_append]
    omega
  | code own other _ ih =>
    simp only [count_append, countP_append, count_escapeMarkup_ampersand]
    omega

theorem tags_eq (free : 60 ∉ u) (free' : 60 ∉ u') : tags t = tags t' := by
  induction alike with
  | nil => rfl
  | outline body last whole _ ih =>
    rw [Bool.and_eq_true] at whole
    have both := closed_append whole.1 whole.2 body
    rw [← append_assoc, ← append_assoc, tags_append both, tags_append both, ih free free']
  | given own other _ ih =>
    rw [mem_append, not_or] at free free'
    rw [tags_append_of_free free.1, tags_append_of_free free'.1, ih free.2 free'.2]
  | code own other _ ih =>
    have escaped (t : Text) : 60 ∉ Report.escapeMarkup t := count_eq_zero.mp (count_escapeMarkup (.inl rfl) t)
    rw [tags_append_of_free (escaped own), tags_append_of_free (escaped other), ih free free']

theorem tags_eq_iff (free : 60 ∉ u) : tags t = tags t' ↔ 60 ∉ u' := by
  refine ⟨?_, alike.tags_eq free⟩
  intro same
  have number : t.count 60 = t'.count 60 := by rw [← length_tags, same, length_tags]
  have none : u.count 60 = 0 := count_eq_zero.mpr free
  have counted := alike.count_bracket (.inl rfl)
  apply count_eq_zero.mp
  omega

end

end Alike

end Markup

/-- Issues of one shape: they may differ in their texts, their names of files and tests, and their code. -/
structure Issue.Alike (i j : Issue) : Prop where
  severity : i.severity = j.severity
  confidence : i.confidence = j.confidence
  weakness : i.weakness = j.weakness
  testId : i.testId = j.testId
  line : i.line = j.line

theorem Issue.Alike.reaches {i j : Issue} (same : i.Alike j) (severity confidence : String) :
    i.reaches severity confidence = j.reaches severity confidence := by
  unfold Issue.reaches
  rw [same.severity, same.confidence]

def Issue.given (i : Issue) : Text := i.testName ++ i.text ++ i.filename ++ i.filename

namespace Report

open Markup

def findingCode (r : Report) (i : Issue) (candidates : List Issue) : Answer Text :=
  List.flatten <$> (if candidates.length == 1 then [i] else candidates).mapM r.pageCode

variable {r r' : Report}

theorem codeBlock_alike (code code' : Text) : Markup.Alike (codeBlock code) [] code (codeBlock code') [] code' := by
  rw [codeBlock, codeBlock, append_assoc, append_assoc]
  refine .fixed _ (by decide +kernel) (.ended ?_ _ (by decide +kernel))
  have coded := Markup.Alike.code code code' .nil
  rwa [append_nil, append_nil, append_nil, append_nil] at coded

theorem candidateBlock_alike {codes codes' : List Text} (many : codes.length = codes'.length) :
    Markup.Alike (candidateBlock codes) [] codes.flatten (candidateBlock codes') [] codes'.flatten := by
  unfold candidateBlock
  rw [append_assoc, append_assoc]
  refine .fixed _ (by decide +kernel) (.ended ?_ _ (by decide +kernel))
  induction codes generalizing codes' with
  | nil =>
    rw [length_eq_zero_iff.mp many.symm]
    exact .nil
  | cons code rest ih =>
    cases codes' with
    | nil => simp at many
    | cons code' rest' =>
      simp only [flatMap_cons, flatten_cons, append_assoc]
      refine .fixed _ (by decide +kernel) (.code code code' (.fixed _ (by decide +kernel) ?_))
      exact ih (Nat.succ.inj many)

theorem issueText_alike {i j : Issue} (same : i.Alike j) (n : Nat) {code others c code' others' c' : Text}
    (rest : Markup.Alike (code ++ (Text.ofString "\n" ++ others)) [] c
      (code' ++ (Text.ofString "\n" ++ others')) [] c') :
    Markup.Alike (issueText n i code others) i.given c (issueText n j code' others') j.given c' := by
  have all := rest.ended (Text.ofString "\n</div>\n</div>\n") (by decide +kernel)
  rw [← append_nil i.given, ← append_nil j.given]
  unfold issueText Issue.given
  rw [same.severity, same.confidence, same.weakness, same.testId, same.line]
  simp only [append_assoc] at all ⊢
  refine .fixed _ (by decide +kernel) ?_
  refine .outline _ _ (by decide +kernel) ?_
  rw [← append_assoc (Text.ofString "issue-sev-"), ← append_assoc (Text.ofString "issue-sev-")]
  refine .outline _ _ (by decide +kernel) (.given _ _ ?_)
  refine .fixed _ (by decide +kernel) (.given _ _ ?_)
  refine .fixed _ (by decide +kernel) ?_
  refine .outline _ _ (by decide +kernel) (.outline _ _ (by decide +kernel) (.outline _ _ (by decide +kernel) ?_))
  refine .outline _ _ (by decide +kernel) (.outline _ _ (by decide +kernel) (.given _ _ ?_))
  refine .fixed _ (by decide +kernel) (.given _ _ ?_)
  refine .fixed _ (by decide +kernel) ?_
  refine .outline _ _ (by decide +kernel) (.outline _ _ (by decide +kernel) (.outline _ _ (by decide +kernel) ?_))
  exact all

theorem issueBlock_alike {i j : Issue} {cs ds : List Issue} {n : Nat} {t t' : Text} (same : i.Alike j)
    (many : cs.length = ds.length) (made : r.issueBlock n i cs = .ok t) (made' : r'.issueBlock n j ds = .ok t') :
    ∃ c c', r.findingCode i cs = .ok c ∧ r'.findingCode j ds = .ok c' ∧ Markup.Alike t i.given c t' j.given c' := by
  unfold issueBlock at made made'
  unfold findingCode
  by_cases alone : (cs.length == 1) = true
  · have alone' : (ds.length == 1) = true := many ▸ alone
    rw [if_pos alone] at made ⊢
    rw [if_pos alone'] at made' ⊢
    simp only [bind_eq_ok, pure_eq_ok] at made made'
    obtain ⟨code, shown, rfl⟩ := made
    obtain ⟨code', shown', rfl⟩ := made'
    refine ⟨code, code', ?_, ?_, ?_⟩
    · simp [shown]
    · simp [shown']
    · apply issueText_alike same n
      rw [append_nil]
      exact (codeBlock_alike code code').ended _ (by decide +kernel)
  · have alone' : ¬ (ds.length == 1) = true := many ▸ alone
    rw [if_neg alone] at made ⊢
    rw [if_neg alone'] at made' ⊢
    simp only [bind_eq_ok, pure_eq_ok] at made made'
    obtain ⟨codes, shown, rfl⟩ := made
    obtain ⟨codes', shown', rfl⟩ := made'
    have length : codes.length = codes'.length := by
      rw [← (mapM_eq_ok_iff.mp shown).length_eq, many, (mapM_eq_ok_iff.mp shown').length_eq]
    refine ⟨codes.flatten, codes'.flatten, ?_, ?_, ?_⟩
    · rw [shown]
      rfl
    · rw [shown']
      rfl
    · apply issueText_alike same n
      rw [nil_append, nil_append]
      exact .fixed _ (by decide +kernel) (candidateBlock_alike length)

def skippedGiven (names : List (String × String)) : Text :=
  names.flatMap fun (name, reason) => Text.ofString name ++ Text.ofString reason

theorem skippedBlock_alike {names names' : List (String × String)} (many : names.length = names'.length) :
    Markup.Alike (skippedBlock names) (skippedGiven names) [] (skippedBlock names') (skippedGiven names') [] := by
  unfold skippedBlock
  by_cases none : names = []
  · have none' : names' = [] := length_eq_zero_iff.mp (by rw [← many, none, length_nil])
    rw [none, none']
    exact .nil
  · have some' : names' ≠ [] := fun none' => none (length_eq_zero_iff.mp (by rw [many, none', length_nil]))
    rw [if_neg (by simpa using none), if_neg (by simpa using some'), append_assoc, append_assoc]
    refine .fixed _ (by decide +kernel) (.ended ?_ _ (by decide +kernel))
    clear none some'
    induction names generalizing names' with
    | nil =>
      rw [length_eq_zero_iff.mp many.symm]
      exact .nil
    | cons entry rest ih =>
      cases names' with
      | nil => simp at many
      | cons entry' rest' =>
        simp only [skippedGiven, flatMap_cons, append_assoc]
        refine .given _ _ (.fixed _ (by decide +kernel) (.given _ _ (.fixed _ (by decide +kernel) ?_)))
        simpa only [skippedGiven, append_assoc] using ih (Nat.succ.inj many)

def FindingAlike (f g : Issue × List Issue) : Prop := f.1.Alike g.1 ∧ f.2.length = g.2.length

theorem results_alike {found found' : List (Issue × List Issue)} (n : Nat) (same : List.Forall₂ FindingAlike found found')
    {blocks blocks' : List Text} (made : ((found.zipIdx n).mapM fun ((i, cs), n) => r.issueBlock n i cs) = .ok blocks)
    (made' : ((found'.zipIdx n).mapM fun ((i, cs), n) => r'.issueBlock n i cs) = .ok blocks') :
    ∃ codes codes', (found.mapM fun f => r.findingCode f.1 f.2) = .ok codes ∧
      (found'.mapM fun f => r'.findingCode f.1 f.2) = .ok codes' ∧
      Markup.Alike blocks.flatten (found.flatMap (·.1.given)) codes.flatten
        blocks'.flatten (found'.flatMap (·.1.given)) codes'.flatten := by
  induction same generalizing n blocks blocks' with
  | nil =>
    cases made
    cases made'
    exact ⟨[], [], rfl, rfl, .nil⟩
  | @cons f g rest rest' first _ ih =>
    simp only [zipIdx_cons, mapM_cons_eq_ok] at made made'
    obtain ⟨_, _, begun, ended, rfl⟩ := made
    obtain ⟨_, _, begun', ended', rfl⟩ := made'
    obtain ⟨c, c', coded, coded', alike⟩ := issueBlock_alike first.1 first.2 begun begun'
    obtain ⟨codes, codes', shown, shown', later⟩ := ih (n + 1) ended ended'
    refine ⟨c :: codes, c' :: codes', ?_, ?_, ?_⟩
    · exact mapM_cons_eq_ok.mpr ⟨c, codes, coded, shown, rfl⟩
    · exact mapM_cons_eq_ok.mpr ⟨c', codes', coded', shown', rfl⟩
    · exact alike.append later

/-- What a page has as it is: the names and reasons of skipped files, and the names and texts of findings. -/
def given (r : Report) : Answer Text := do
  let found ← r.findings
  let names ← r.session.skippedNames
  return skippedGiven names ++ (withCandidates found).flatMap (·.1.given)

def shownCode (r : Report) : Answer Text := do
  let found ← r.findings
  return (← (withCandidates found).mapM fun f => r.findingCode f.1 f.2).flatten

section

variable {found : Findings}

section

variable (judged : r.findings = .ok found)

include judged

theorem given_eq {names : List (String × String)} (read : r.session.skippedNames = .ok names) :
    r.given = .ok (skippedGiven names ++ (withCandidates found).flatMap (·.1.given)) := by
  rw [given, judged, read]
  rfl

theorem shownCode_eq {codes : List Text}
    (shown : ((withCandidates found).mapM fun f => r.findingCode f.1 f.2) = .ok codes) :
    r.shownCode = .ok codes.flatten := by
  rw [shownCode, judged]
  change (do return (← (withCandidates found).mapM _).flatten : Answer Text) = _
  rw [shown]
  rfl

theorem exists_shownCode_iff : (∃ c, r.shownCode = .ok c) ↔
    ∀ f ∈ withCandidates found, ∀ i ∈ if f.2.length == 1 then [f.1] else f.2,
      ∃ code, i.code r.files r.lines true = .ok code := by
  have each (f : Issue × List Issue) : (∃ c, r.findingCode f.1 f.2 = .ok c) ↔
      ∀ i ∈ if f.2.length == 1 then [f.1] else f.2, ∃ code, i.code r.files r.lines true = .ok code := by
    rw [findingCode, exists_map_iff, exists_mapM_iff]
    simp [pageCode, exists_map_iff]
  have whole : (∃ c, r.shownCode = .ok c) ↔
      ∃ codes, ((withCandidates found).mapM fun f => r.findingCode f.1 f.2) = .ok codes := by
    constructor
    · rintro ⟨c, shown⟩
      rw [shownCode, judged] at shown
      obtain ⟨codes, made, -⟩ := map_eq_ok.mp shown
      exact ⟨codes, made⟩
    · rintro ⟨codes, shown⟩
      exact ⟨_, shownCode_eq judged shown⟩
  simp only [whole, exists_mapM_iff, each]

end

end

/-- Reports that may differ in texts, names of files and tests, and code of findings, and in skipped files. -/
structure Alike (r r' : Report) : Prop where
  findings : ∃ found found', r.findings = .ok found ∧ r'.findings = .ok found' ∧
    List.Forall₂ FindingAlike (withCandidates found) (withCandidates found')
  skipped : r.session.skipped.length = r'.session.skipped.length
  loc : r.total "loc" = r'.total "loc"
  nosec : r.total "nosec" = r'.total "nosec"

theorem page_alike (same : r.Alike r') {p p' : Text} (made : r.page = .ok p) (made' : r'.page = .ok p') :
    ∃ u c u' c', r.given = .ok u ∧ r.shownCode = .ok c ∧ r'.given = .ok u' ∧ r'.shownCode = .ok c' ∧
      Markup.Alike p u c p' u' c' := by
  obtain ⟨_, _, judged, judged', alike⟩ := same.findings
  unfold page at made made'
  simp only [bind_eq_ok, pure_eq_ok, judged, judged', Except.ok.injEq, exists_eq_left', same.loc,
    same.nosec] at made made'
  obtain ⟨names, read, _, written, loc, counted, nosec, exempt, rfl⟩ := made
  obtain ⟨names', read', _, written', loc', counted', nosec', exempt', rfl⟩ := made'
  obtain rfl : loc = loc' := Except.ok.inj (counted.symm.trans counted')
  obtain rfl : nosec = nosec' := Except.ok.inj (exempt.symm.trans exempt')
  have many : names.length = names'.length := by
    rw [← (mapM_eq_ok_iff.mp read).length_eq, same.skipped, (mapM_eq_ok_iff.mp read').length_eq]
  obtain ⟨_, _, shown, shown', results⟩ := results_alike 0 alike written written'
  refine ⟨_, _, _, _, given_eq judged read, shownCode_eq judged shown, given_eq judged' read',
    shownCode_eq judged' shown', ?_⟩
  simp only [append_assoc]
  refine .outline _ _ (by decide +kernel) (.outline _ _ (by decide +kernel) ?_)
  have body := (skippedBlock_alike many).append (.fixed (Text.ofString "\n\n<br>\n<div id=\"results\">\n    ")
    (by decide +kernel) (results.ended (Text.ofString "\n</div>\n\n</body>\n</html>\n") (by decide +kernel)))
  rwa [nil_append, nil_append] at body

theorem reaches_alike {is js : List Issue} {severity confidence : String} (results : List.Forall₂ Issue.Alike is js)
    (judged : ∀ i ∈ is, ∃ passed, i.reaches severity confidence = .ok passed) :
    ∀ j ∈ js, ∃ passed, j.reaches severity confidence = .ok passed := by
  induction results with
  | nil => exact judged
  | cons first _ ih =>
    rw [forall_mem_cons] at judged ⊢
    exact ⟨first.reaches severity confidence ▸ judged.1, ih judged.2⟩

theorem filter_alike {is js : List Issue} (severity confidence : String) (results : List.Forall₂ Issue.Alike is js) :
    List.Forall₂ Issue.Alike (is.filter fun i => (i.reaches severity confidence).toOption == some true)
      (js.filter fun j => (j.reaches severity confidence).toOption == some true) := by
  induction results with
  | nil => exact .nil
  | cons first _ ih =>
    rw [filter_cons, filter_cons, first.reaches]
    split
    · exact .cons first ih
    · exact ih

theorem alike_of_results (ranks : r.severity = r'.severity ∧ r.confidence = r'.confidence)
    (alone : r.session.baseline = []) (alone' : r'.session.baseline = [])
    (results : List.Forall₂ Issue.Alike r.session.results r'.session.results)
    (judged : ∀ i ∈ r.session.results, ∃ passed, i.reaches r.severity r.confidence = .ok passed)
    (skipped : r.session.skipped.length = r'.session.skipped.length)
    (metrics : r.session.metrics = r'.session.metrics) : r.Alike r' := by
  have judged' : ∀ j ∈ r'.session.results, ∃ passed, j.reaches r'.severity r'.confidence = .ok passed := by
    rw [← ranks.1, ← ranks.2]
    exact reaches_alike results judged
  refine ⟨⟨_, _, Session.findings_eq judged, Session.findings_eq judged', ?_⟩, skipped, ?_, ?_⟩
  · rw [alone, alone', ranks.1, ranks.2]
    change List.Forall₂ FindingAlike (List.map _ _) (List.map _ _)
    rw [List.forall₂_map_left_iff, List.forall₂_map_right_iff]
    exact (filter_alike _ _ results).imp fun _ _ same => ⟨same, rfl⟩
  · rw [total, total, metrics]
  · rw [total, total, metrics]

theorem exists_issueBlock_iff {n : Nat} {i : Issue} {cs : List Issue} :
    (∃ t, r.issueBlock n i cs = .ok t) ↔ ∃ c, r.findingCode i cs = .ok c := by
  unfold issueBlock findingCode
  split
  · simp [map_eq_ok]
  · simp [map_eq_ok]

theorem exists_results_iff {found : List (Issue × List Issue)} {n : Nat} :
    (∃ blocks, ((found.zipIdx n).mapM fun ((i, cs), n) => r.issueBlock n i cs) = .ok blocks) ↔
      ∃ codes, (found.mapM fun f => r.findingCode f.1 f.2) = .ok codes := by
  simp only [exists_mapM_iff, exists_issueBlock_iff]
  constructor
  · intro each f mem
    obtain ⟨k, bound, rfl⟩ := getElem_of_mem mem
    exact each (found[k], n + k) (mk_add_mem_zipIdx_iff_getElem?.mpr (List.getElem?_eq_getElem bound))
  · intro each f mem
    exact each f.1 (fst_mem_of_mem_zipIdx mem)

theorem exists_page_iff : (∃ p, r.page = .ok p) ↔ (∃ u, r.given = .ok u) ∧ (∃ c, r.shownCode = .ok c) ∧
    (∃ n, r.total "loc" = .ok n) ∧ ∃ n, r.total "nosec" = .ok n := by
  unfold page given shownCode
  simp only [bind_eq_ok, pure_eq_ok]
  constructor
  · rintro ⟨-, found, judged, names, read, blocks, written, loc, counted, nosec, exempt, -⟩
    obtain ⟨codes, shown⟩ := exists_results_iff.mp ⟨blocks, written⟩
    exact ⟨⟨_, found, judged, names, read, rfl⟩, ⟨_, found, judged, codes, shown, rfl⟩, ⟨loc, counted⟩, nosec, exempt⟩
  · rintro ⟨⟨-, -, -, names, read, -⟩, ⟨-, found, judged, codes, shown, -⟩, ⟨loc, counted⟩, nosec, exempt⟩
    obtain ⟨blocks, written⟩ := exists_results_iff.mpr ⟨codes, shown⟩
    exact ⟨_, found, judged, names, read, blocks, written, loc, counted, nosec, exempt, rfl⟩

def quoting (text : String) (code : Text) : Report :=
  { lowestOn [{ Session.asserted 1 with text := Text.ofString text }] with files := fun _ => [code] }

theorem quoting_alike (text text' : String) (code code' : Text) : (quoting text code).Alike (quoting text' code') := by
  refine alike_of_results ⟨rfl, rfl⟩ rfl rfl ?_ ?_ rfl rfl
  · exact .cons ⟨rfl, rfl, rfl, rfl, rfl⟩ .nil
  · exact forall_mem_singleton.mpr ⟨true, rfl⟩

theorem given_quoting (text : String) (code : Text) : (quoting text code).given =
    .ok (Text.ofString "assert_used" ++ Text.ofString text ++ Text.ofString "./a.py" ++ Text.ofString "./a.py") := by
  have judged : (quoting text code).findings = .ok (.plain (quoting text code).session.results) := rfl
  have none : (quoting text code).session.skippedNames = .ok [] := rfl
  exact congrArg Except.ok (append_nil _)

theorem exists_page_quoting (text : String) (code : Text) : ∃ p, (quoting text code).page = .ok p := by
  have judged : (quoting text code).findings = .ok (.plain (quoting text code).session.results) := rfl
  refine exists_page_iff.mpr ⟨⟨_, given_quoting text code⟩, ?_, ⟨0, rfl⟩, 0, rfl⟩
  rw [exists_shownCode_iff judged]
  refine forall_mem_singleton.mpr (forall_mem_singleton.mpr ?_)
  exact Issue.exists_code rfl (by simp [Session.asserted, Issue.inputName]) _ _ _

/-- Two pages with one outline, the first without opening brackets in what it has as it is, have the same tags exactly
if the second has none there either. In code each special code point is escaped. -/
theorem page_tags_iff (same : r.Alike r') {p p' : Text} (made : r.page = .ok p) (made' : r'.page = .ok p') :
    ∃ u c u' c', r.given = .ok u ∧ r.shownCode = .ok c ∧ r'.given = .ok u' ∧ r'.shownCode = .ok c' ∧
      (60 ∉ u → (Markup.tags p = Markup.tags p' ↔ 60 ∉ u')) ∧
      (∀ mark, mark = 60 ∨ mark = 62 → p.count mark + u'.count mark = p'.count mark + u.count mark) ∧
      p.count 38 + u'.count 38 + c'.countP special = p'.count 38 + u.count 38 + c.countP special := by
  obtain ⟨u, c, u', c', put, shown, put', shown', alike⟩ := page_alike same made made'
  exact ⟨u, c, u', c', put, shown, put', shown', alike.tags_eq_iff, fun _ => alike.count_bracket, alike.count_ampersand⟩

theorem page_tags_quoted_code : ∃ p p', (quoting "Use of assert." "assert 1\n").page = .ok p ∧
    (quoting "Use of assert & more." "assert \"<b>\"\n").page = .ok p' ∧
    (quoting "Use of assert." "assert 1\n").Alike (quoting "Use of assert & more." "assert \"<b>\"\n") ∧
    Markup.tags p = Markup.tags p' := by
  obtain ⟨p, made⟩ := exists_page_quoting "Use of assert." "assert 1\n"
  obtain ⟨p', made'⟩ := exists_page_quoting "Use of assert & more." "assert \"<b>\"\n"
  have alike := quoting_alike "Use of assert." "Use of assert & more." (Text.ofString "assert 1\n")
    (Text.ofString "assert \"<b>\"\n")
  obtain ⟨u, -, _, -, put, -, put', -, same_iff, -⟩ := page_tags_iff alike made made'
  rw [given_quoting, Except.ok.injEq] at put put'
  refine ⟨p, p', made, made', alike, ?_⟩
  rw [same_iff (put ▸ by decide +kernel)]
  exact put' ▸ by decide +kernel

/-- A tag in the text is one of the page. -/
theorem page_tags_quoted_text : ∃ p p', (quoting "Use of assert." "assert 1\n").page = .ok p ∧
    (quoting "Use of <b>." "assert 1\n").page = .ok p' ∧
    (quoting "Use of assert." "assert 1\n").Alike (quoting "Use of <b>." "assert 1\n") ∧
      Markup.tags p ≠ Markup.tags p' := by
  obtain ⟨p, made⟩ := exists_page_quoting "Use of assert." "assert 1\n"
  obtain ⟨p', made'⟩ := exists_page_quoting "Use of <b>." "assert 1\n"
  have alike := quoting_alike "Use of assert." "Use of <b>." (Text.ofString "assert 1\n") (Text.ofString "assert 1\n")
  obtain ⟨u, c, _, _, put, -, put', -, framed⟩ := page_alike alike made made'
  rw [given_quoting, Except.ok.injEq] at put put'
  refine ⟨p, p', made, made', alike, ?_⟩
  rw [Ne, framed.tags_eq_iff (put ▸ by decide +kernel)]
  exact put' ▸ by decide +kernel

end Report

end SourceAudit
