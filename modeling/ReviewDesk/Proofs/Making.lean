import Mathlib.Data.Set.Function
import Mathlib.Order.Interval.Set.Basic
import ReviewDesk.Desk.Reviewing
import ReviewDesk.Proofs.Checking
import ReviewDesk.Proofs.Tally
import ReviewDesk.Proofs.Task

/-!
# Making a review

A review is made in four changes of the store: a place is taken, the review is opened, and then
either the completed review is kept and its files are counted, or the place is given back and the
review is kept as failed.
-/
namespace ReviewDesk.Desk

variable {σ : Type}

/-- Issues with identifiers from number `k` on. -/
def numbered (ids : Nat → Uuid) : Nat → List Issue → List Finding
  | _, [] => []
  | k, issue :: rest => { issue with id := ids k } :: numbered ids (k + 1) rest

theorem outcome_identify (issues : List Issue) (d : Desk σ) :
    outcome (identify issues) d =
      (.ok (numbered d.ids d.used issues), { d with used := d.used + issues.length }) := by
  induction issues generalizing d with
  | nil => rfl
  | cons issue rest ih =>
    rw [identify, outcome_bind_ok (outcome_freshId d), outcome_bind_ok (ih _)]
    simp only [outcome_pure, numbered, List.length_cons]
    congr 2
    omega

theorem numbered_issues (ids : Nat → Uuid) (k : Nat) (issues : List Issue) :
    (numbered ids k issues).map Finding.toIssue = issues := by
  induction issues generalizing k with
  | nil => rfl
  | cons issue rest ih => simp [numbered, ih]

theorem mem_numbered {ids : Nat → Uuid} {first : Nat} {issues : List Issue} {f : Finding}
    (h : f ∈ numbered ids first issues) :
    ∃ k ∈ Set.Ico first (first + issues.length), f.id = ids k := by
  induction issues generalizing first with
  | nil => simp [numbered] at h
  | cons issue rest ih =>
    rcases List.mem_cons.mp h with rfl | hr
    · exact ⟨first, by simp, rfl⟩
    · obtain ⟨k, hk, he⟩ := ih hr
      refine ⟨k, ?_, he⟩
      simp only [Set.mem_Ico, List.length_cons] at hk ⊢
      omega

theorem numbered_nodup {ids : Nat → Uuid} {first : Nat} {issues : List Issue}
    (h : Set.InjOn ids (Set.Ico first (first + issues.length))) :
    ((numbered ids first issues).map (·.id)).Nodup := by
  induction issues generalizing first with
  | nil => simp [numbered]
  | cons issue rest ih =>
    rw [numbered, List.map_cons, List.nodup_cons]
    constructor
    · intro hmem
      obtain ⟨f, hf, he⟩ := List.mem_map.mp hmem
      obtain ⟨k, hk, hid⟩ := mem_numbered hf
      simp only [Set.mem_Ico] at hk
      have hsame : first = k := by
        apply h
        · simp
        · simp only [Set.mem_Ico, List.length_cons]
          omega
        · exact he.symm.trans hid
      omega
    · apply ih
      apply h.mono
      intro k hk
      simp only [Set.mem_Ico, List.length_cons] at hk ⊢
      omega

/-- What the model sees in the files, and what that used; or why the analysis fails, and what the
model had seen by then. -/
def modelPass (m : Model σ) (files : Files) (d : Desk σ) :
    Except (Model.Fault × List Issue) (List Issue × Usage) :=
  match ((m.analyzeProject {} files (some { model := m.name })).run d.model).1 with
  | .error fault => .error (fault, [])
  | .ok (issues, usage) =>
    match Inspection.run files with
    | .error _ => .error (.broken "", issues)
    | .ok _ => .ok (issues, usage.getD { model := m.name })

/-- The model has seen something when the analysis fails only if the checks have failed. -/
theorem modelPass_error {m : Model σ} {files : Files} {d : Desk σ} {fault : Model.Fault}
    {issues : List Issue} (h : modelPass m files d = .error (fault, issues)) :
    issues = [] ∨ (∃ f ∈ files, Inspection.isTooDeep f.1 f.2 = true) ∧ fault = .broken "" := by
  unfold modelPass at h
  split at h
  · cases h
    exact .inl rfl
  · split at h
    · next hrun =>
      cases h
      refine .inr ⟨?_, rfl⟩
      unfold Inspection.run at hrun
      split at hrun
      · next hdeep => exact List.any_eq_true.mp hdeep
      · cases hrun
    · cases h

/-- The model after it has seen the files. -/
def modelAfter (m : Model σ) (files : Files) (d : Desk σ) : σ :=
  ((m.analyzeProject {} files (some { model := m.name })).run d.model).2

/-- The desk when the model has seen the files and some issues have their identifiers. -/
def afterPass (m : Model σ) (files : Files) (issues : List Issue) (d : Desk σ) : Desk σ :=
  { d with
    model := modelAfter m files d
    used := d.used + issues.length }

/-- What both passes see in the files, the model having seen some issues. -/
def allIssues (files : Files) (issues : List Issue) : List Issue :=
  issues ++ (Inspection.inspect files).issues

/-- The usage with the warnings of the checks. -/
def warned (files : Files) (usage : Usage) : Usage :=
  (Inspection.inspect files).warnings.foldl (fun u w => u.warn w) usage

theorem warned_tokens (files : Files) (usage : Usage) :
    (warned files usage).tokens = usage.tokens := by
  unfold warned
  induction (Inspection.inspect files).warnings generalizing usage with
  | nil => rfl
  | cons w rest ih => exact ih (usage.warn w)

/-- The review that the desk has in hand when the analysis fails, the model having seen some
issues. -/
def stopped (r : Review) (d : Desk σ) (issues : List Issue) : Review :=
  { r.start d.now with findings := r.findings ++ numbered d.ids d.used issues }

/-- The review that the desk has in hand when both passes are done. -/
def found (m : Model σ) (files : Files) (r : Review) (d : Desk σ) (issues : List Issue)
    (usage : Usage) : Review :=
  concluded d.now m.name files (warned files usage)
    (numbered d.ids d.used (allIssues files issues)) (r.start d.now)

theorem outcome_analyse (m : Model σ) (files : Files) (r : Review) (d : Desk σ) :
    outcome (analyse m files r) d =
      match modelPass m files d with
      | .error (fault, issues) =>
        (.ok (.error ⟨fault, stopped r d issues⟩), afterPass m files issues d)
      | .ok (issues, usage) =>
        (.ok (.ok (found m files r d issues usage, warned files usage)),
          afterPass m files (allIssues files issues) d) := by
  rw [analyse, outcome_bind_ok (outcome_clock d), outcome_bind_ok (outcome_askModel d _), modelPass]
  cases ((m.analyzeProject {} files (some { model := m.name })).run d.model).1 with
  | error fault =>
    have hnone : stopped r d [] = r.start d.now := by
      simp [stopped, numbered, Review.start]
    dsimp only
    rw [hnone]
    rfl
  | ok seen =>
    dsimp only
    cases hrun : Inspection.run files with
    | error fault => exact outcome_bind_ok (outcome_identify _ _)
    | ok checks =>
      obtain rfl := Inspection.eq_inspect_of_run hrun
      exact outcome_bind_ok (outcome_identify _ _)

/-- No time passes while a task is done. -/
theorem millisecondsBetween_self (now : Moment) : Review.millisecondsBetween now now = 0 := by
  have hzero : (Decimal.wholePart? (Decimal.ofDigits 0 (-6) * 1000.0)).getD 0 = 0 := by
    decide +kernel
  simp [Review.millisecondsBetween, hzero]

section Concluded

variable (now : Moment) (model : String) (files : Files) (usage : Usage) (findings : List Finding)
  (r : Review)

/-- A review that has been started is completed with its duration. -/
theorem concluded_eq :
    concluded now model files usage findings (r.start now) =
      { r with
        status := .completed
        findings
        score := some (Score.ofIssues (findings.map Finding.toIssue))
        filesAnalyzed := files.length
        linesAnalyzed := files.totalLines
        durationMs := some 0
        startedAt := some now
        completedAt := some now
        modelUsed := some model
        tokensUsed := some usage.tokens
        costUsd := some usage.costUsd } := by
  simp [concluded, Review.start, Review.complete, Review.comparable, Review.issues,
    millisecondsBetween_self]

theorem fitsReview_concluded :
    Store.fitsReview (concluded now model files usage findings (r.start now)) =
      (Store.fits files.length && Store.fits files.totalLines && Store.fits usage.tokens) := by
  have hzero : Store.fits 0 = true := by decide
  simp [concluded_eq, Store.fitsReview, hzero]

end Concluded

theorem outcome_reserve (caller : Account) (d : Desk σ) :
    outcome (reserve caller) d =
      (if (d.store.reserveReview d.now caller.id).1 then .ok () else .error .quota,
        { d with store := (d.store.reserveReview d.now caller.id).2 }) := by
  rw [reserve, outcome_bind_ok (outcome_clock d), outcome_bind_ok (outcome_adjust d _)]
  generalize d.store.reserveReview d.now caller.id = reserved
  rcases reserved with ⟨_ | _, store⟩ <;> rfl

theorem outcome_saveReview_ok {r : Review} {d : Desk σ} {s : Store}
    (h : d.store.saveReview r = .ok s) :
    outcome (saveReview r) d = (.ok (), { d with store := s }) :=
  outcome_change_ok d (by rw [h]; rfl)

theorem outcome_saveReview_error {r : Review} {d : Desk σ} {fault : Store.Fault}
    (h : d.store.saveReview r = .error fault) :
    outcome (saveReview r) d = (.error (.store fault), d) :=
  outcome_change_error d (by rw [h]; rfl)

theorem outcome_addFiles_ok {now : Moment} {id : Uuid} {count : Int} {d : Desk σ} {s : Store}
    (h : d.store.addFiles now id count = .ok s) :
    outcome (change fun s => (s.addFiles now id count).map ((), ·)) d =
      (.ok (), { d with store := s }) :=
  outcome_change_ok d (by rw [h]; rfl)

theorem outcome_addFiles_error {now : Moment} {id : Uuid} {count : Int} {d : Desk σ}
    {fault : Store.Fault} (h : d.store.addFiles now id count = .error fault) :
    outcome (change fun s => (s.addFiles now id count).map ((), ·)) d =
      (.error (.store fault), d) :=
  outcome_change_error d (by rw [h]; rfl)

/-- Once the review is saved, what is left is to count its files. -/
theorem outcome_keep_saved (caller : Account) (files : Files) {r : Review} {d : Desk σ} {s : Store}
    (h : d.store.saveReview r = .ok s) :
    outcome (keep caller files r) d =
      outcome (change fun s => (s.addFiles d.now caller.id files.length).map ((), ·))
        { d with store := s } := by
  rw [keep, outcome_bind_ok (outcome_saveReview_ok h), outcome_bind_ok (outcome_clock _)]

theorem outcome_keep_error (caller : Account) (files : Files) {r : Review} {d : Desk σ}
    {fault : Store.Fault} (h : d.store.saveReview r = .error fault) :
    outcome (keep caller files r) d = (.error (.store fault), d) := by
  rw [keep, outcome_bind_error (outcome_saveReview_error h)]

theorem outcome_abandon (caller : Account) (r : Review) (reason : String) (d : Desk σ) :
    outcome (abandon caller r reason) d =
      outcome (saveReview (r.fail d.now (Failure.analysis reason).message))
        { d with store := d.store.releaseReview d.now caller.id } := by
  rw [abandon, outcome_bind_ok (outcome_clock d), outcome_bind_ok (outcome_adjust d _)]

/-- What is done with a review that is open. -/
def finish (m : Model σ) (caller : Account) (files : Files) (r : Review) : Task σ Review := do
  match ← analyse m files r with
  | .ok (r, _) =>
    keep caller files r
    return r
  | .error setback =>
    abandon caller setback.review setback.fault.message
    fail (.analysis setback.fault.message)

section CreateReview

variable {m : Model σ} {d : Desk σ} {caller : Account} {title : String}
  {description : Option String} {files : Files}

theorem outcome_openReview {r : Review} {s : Store}
    (hmake : Review.make (d.ids d.used) d.now caller.id title description = .good r)
    (hsave : d.store.saveReview r = .ok s) :
    outcome (openReview caller title description) d =
      (.ok r, { d with store := s, used := d.used + 1 }) := by
  rw [openReview, outcome_bind_ok (outcome_freshId d), outcome_bind_ok (outcome_clock _)]
  dsimp only
  rw [hmake, outcome_bind_ok (outcome_checked_good _ r),
    outcome_bind_ok (outcome_saveReview_ok (d := { d with used := d.used + 1 }) hsave),
    outcome_pure]

theorem outcome_openReview_bad {problems : List Problem}
    (hmake : Review.make (d.ids d.used) d.now caller.id title description = .bad problems) :
    outcome (openReview caller title description) d =
      (.error (.invalid problems), { d with used := d.used + 1 }) := by
  rw [openReview, outcome_bind_ok (outcome_freshId d), outcome_bind_ok (outcome_clock _)]
  dsimp only
  rw [hmake]
  exact outcome_bind_error rfl

theorem outcome_openReview_error {r : Review} {fault : Store.Fault}
    (hmake : Review.make (d.ids d.used) d.now caller.id title description = .good r)
    (hsave : d.store.saveReview r = .error fault) :
    outcome (openReview caller title description) d =
      (.error (.store fault), { d with used := d.used + 1 }) := by
  rw [openReview, outcome_bind_ok (outcome_freshId d), outcome_bind_ok (outcome_clock _)]
  dsimp only
  rw [hmake, outcome_bind_ok (outcome_checked_good _ r)]
  exact outcome_bind_error (outcome_saveReview_error (d := { d with used := d.used + 1 }) hsave)

theorem outcome_createReview_refused {failure : Failure}
    (h : checkAdmission caller files = .error failure) :
    outcome (createReview m caller title description files) d = (.error failure, d) := by
  rw [createReview, h]
  rfl

theorem outcome_createReview_full (h : checkAdmission caller files = .ok ())
    (hr : (d.store.reserveReview d.now caller.id).1 = false) :
    outcome (createReview m caller title description files) d =
      (.error .quota, { d with store := (d.store.reserveReview d.now caller.id).2 }) := by
  have hq := outcome_reserve caller d
  rw [hr] at hq
  rw [createReview, h]
  exact outcome_bind_error hq

/-- Once a place is taken, the review is opened and finished. -/
theorem outcome_createReview_reserved (h : checkAdmission caller files = .ok ())
    (hr : (d.store.reserveReview d.now caller.id).1 = true) :
    outcome (createReview m caller title description files) d =
      outcome (openReview caller title description >>= finish m caller files)
        { d with store := (d.store.reserveReview d.now caller.id).2 } := by
  have hq := outcome_reserve caller d
  rw [hr] at hq
  rw [createReview, h]
  exact outcome_bind_ok hq

theorem outcome_createReview_opened {r : Review} {s : Store}
    (h : checkAdmission caller files = .ok ())
    (hr : (d.store.reserveReview d.now caller.id).1 = true)
    (hmake : Review.make (d.ids d.used) d.now caller.id title description = .good r)
    (hsave : (d.store.reserveReview d.now caller.id).2.saveReview r = .ok s) :
    outcome (createReview m caller title description files) d =
      outcome (finish m caller files r) { d with store := s, used := d.used + 1 } := by
  have ho := outcome_openReview (d := { d with store := (d.store.reserveReview d.now caller.id).2 })
    hmake hsave
  rw [outcome_createReview_reserved h hr]
  exact outcome_bind_ok ho

end CreateReview

/-- The store while a review is open: it came last, it is blank, and `t` is counted for its
owner. -/
structure Opened (before : List Review) (row : Account) (t : Tally) (r : Review) (s : Store) :
    Prop where
  stands : s.Stands row t
  reviews : s.reviews = before ++ [Store.kept r]
  owner : r.reviewerId = row.id
  new : ∀ q ∈ before, q.id ≠ r.id
  blank : r.findings = []
  fits : Store.fitsReview r = true

/-- A review that has just been made is open. -/
theorem opened_of_make {s : Store} {row : Account} {t : Tally} {r : Review} {id : Uuid}
    {now : Moment} {title : String} {description : Option String} (hs : s.Stands row t)
    (hnew : ∀ q ∈ s.reviews, q.id ≠ id)
    (hmake : Review.make id now row.id title description = .good r) :
    ∃ s', s.saveReview r = .ok s' ∧ Opened s.reviews row t r s' := by
  obtain ⟨title, -, rfl⟩ := (Checked.map_eq_good _).mp hmake
  have hzero : Store.fits 0 = true := by decide
  refine ⟨{ s with reviews := Store.putReview (Store.kept _) s.reviews },
    Store.saveReview_eq_ok_iff.mpr ⟨?_, hs.any_id, rfl, rfl⟩, ?_⟩
  · simp [Store.fitsReview, hzero]
  · exact
      { stands := hs.of_accounts rfl
        reviews := Store.putReview_new fun q hq => by rw [Store.kept_id]; exact hnew q hq
        owner := rfl
        new := hnew
        blank := rfl
        fits := by simp [Store.fitsReview, hzero] }

section Opened

variable {before : List Review} {s : Store} {row : Account} {t : Tally} {r q : Review}

/-- An open review can be saved again if its numbers fit and its findings are new. -/
theorem Opened.saveReview (h : Opened before row t r s) (hid : q.id = r.id)
    (howner : q.reviewerId = r.reviewerId) (hfits : Store.fitsReview q = true)
    (hfindings : ∀ f ∈ q.findings, Store.fitsFinding f = true)
    (hnodup : (q.findings.map (·.id)).Nodup)
    (hnew : ∀ f ∈ q.findings, ∀ p ∈ before, ∀ g ∈ p.findings, g.id ≠ f.id) :
    s.saveReview q = .ok { s with reviews := before ++ [Store.kept q] } := by
  have hown : s.accounts.any (·.id == q.reviewerId) = true := by
    rw [howner, h.owner]
    exact h.stands.any_id
  have hput : Store.putReview (Store.kept q) s.reviews = before ++ [Store.kept q] := by
    rw [h.reviews]
    exact Store.putReview_last (fun p hp => by simpa [hid] using h.new p hp) (by simp [hid])
  -- The identifiers that are taken are those of the reviews before: this one is left out.
  have htaken : ∀ f ∈ q.findings, f.id ∉ s.findingIds q.id := by
    intro f hf hmem
    obtain ⟨p, hp, hg⟩ := List.mem_flatMap.mp hmem
    obtain ⟨hp, hne⟩ := List.mem_filter.mp hp
    obtain ⟨g, hg, he⟩ := List.mem_map.mp hg
    rw [h.reviews] at hp
    rcases List.mem_append.mp hp with hp | hp
    · exact hnew f hf p hp g hg he
    · obtain rfl := List.mem_singleton.mp hp
      simp [hid] at hne
  rw [Store.saveReview_eq_ok_iff, Store.checkFindings_eq_ok_iff, hput]
  exact ⟨hfits, hown, ⟨hfindings, hnodup, htaken⟩, rfl⟩

theorem Opened.release (h : Opened before row t r s) (now : Moment) :
    Opened before row (Tally.Change.release.apply row.admits t) r (s.releaseReview now row.id) :=
  { h with
    stands := h.stands.run now .release
    reviews := h.reviews }

end Opened

/-- The numbers of all lines in some issues fit. -/
def LinesFit (issues : List Issue) : Prop :=
  ∀ issue ∈ issues,
    (∀ n ∈ issue.line, Store.fits n = true) ∧ ∀ n ∈ issue.endLine, Store.fits n = true

/-- The findings fit if the issues do: the numbers of a finding are those of its issue. -/
theorem fitsFinding_numbered (ids : Nat → Uuid) (first : Nat) (issues : List Issue) :
    (∀ f ∈ numbered ids first issues, Store.fitsFinding f = true) ↔ LinesFit issues := by
  have hissues := numbered_issues ids first issues
  generalize numbered ids first issues = fs at hissues
  rw [LinesFit, ← hissues, List.forall_mem_map]
  apply forall₂_congr
  intro f _
  rw [Store.fitsFinding_iff]

/-- The store can keep a review of the files with what the model saw in them: all that the model
and the files have a say in fits. -/
def Keepable (files : Files) (issues : List Issue) (usage : Usage) : Prop :=
  Store.fits files.totalLines = true ∧ Store.fits usage.tokens = true ∧
    LinesFit (allIssues files issues)

/-- The identifiers from one number up to another are those of no findings yet. -/
structure Fresh (ids : Nat → Uuid) (first last : Nat) (reviews : List Review) : Prop where
  new : ∀ k ∈ Set.Ico first last, ∀ r ∈ reviews, ∀ f ∈ r.findings, f.id ≠ ids k
  distinct : Set.InjOn ids (Set.Ico first last)

/-- An open review can be saved with findings that have new identifiers if its numbers fit. -/
theorem Opened.saveReview_numbered {before : List Review} {s : Store} {row : Account} {t : Tally}
    {r q : Review} {ids : Nat → Uuid} {first : Nat} {issues : List Issue}
    (hopen : Opened before row t r s) (hsame : q.id = r.id ∧ q.reviewerId = r.reviewerId)
    (hfits : Store.fitsReview q = true) (hfindings : q.findings = numbered ids first issues)
    (hlines : LinesFit issues) (hfresh : Fresh ids first (first + issues.length) before) :
    s.saveReview q = .ok { s with reviews := before ++ [Store.kept q] } := by
  apply hopen.saveReview hsame.1 hsame.2 hfits
  · rw [hfindings]
    exact (fitsFinding_numbered ids first issues).mpr hlines
  · rw [hfindings]
    exact numbered_nodup hfresh.distinct
  · intro f hf p hp g hg
    rw [hfindings] at hf
    obtain ⟨k, hk, hid⟩ := mem_numbered hf
    rw [hid]
    exact hfresh.new k hk p hp g hg

section Finish

variable {m : Model σ} {d : Desk σ} {caller row : Account} {files : Files} {r : Review}
  {before : List Review} {t : Tally} {fault : Model.Fault} {issues : List Issue} {usage : Usage}

theorem stopped_findings (hblank : r.findings = []) (issues : List Issue) :
    (stopped r d issues).findings = numbered d.ids d.used issues := by
  rw [stopped, hblank, List.nil_append]

theorem outcome_finish_fault (hpass : modelPass m files d = .error (fault, issues)) :
    outcome (finish m caller files r) d =
      outcome (do abandon caller (stopped r d issues) fault.message
                  fail (.analysis fault.message))
        (afterPass m files issues d) := by
  have hseen := outcome_analyse m files r d
  rw [hpass] at hseen
  rw [finish, outcome_bind_ok hseen]

/-- The analysis fails, and the review is given up: its place is given back, and it is kept as
failed. -/
theorem outcome_finish_broken (hopen : Opened before row t r d.store) (hid : caller.id = row.id)
    (hfresh : Fresh d.ids d.used (d.used + issues.length) before)
    (hpass : modelPass m files d = .error (fault, issues)) (hlines : LinesFit issues) :
    ∃ d', outcome (finish m caller files r) d = (.error (.analysis fault.message), d') ∧
      d'.store.Stands row (Tally.Change.release.apply row.admits t) ∧
      d'.store.reviews = before ++ [Store.kept
        ((stopped r d issues).fail d.now (Failure.analysis fault.message).message)] := by
  let q := (stopped r d issues).fail d.now (Failure.analysis fault.message).message
  have hreleased := hopen.release d.now
  have hsaved := hreleased.saveReview_numbered (q := q) ⟨rfl, rfl⟩ hopen.fits
    (stopped_findings hopen.blank issues) hlines hfresh
  rw [← hid] at hreleased hsaved
  have hgiven := (outcome_abandon caller (stopped r d issues) fault.message
    (afterPass m files issues d)).trans (outcome_saveReview_ok hsaved)
  exact ⟨_, (outcome_finish_fault hpass).trans (outcome_bind_ok hgiven),
    hreleased.stands.of_accounts rfl, rfl⟩

/-- The analysis fails and the review cannot even be kept as failed. -/
theorem outcome_finish_stuck (caller : Account) (hblank : r.findings = [])
    (hpass : modelPass m files d = .error (fault, issues)) (hlines : ¬LinesFit issues) :
    ∃ d' lost, outcome (finish m caller files r) d = (.error (.store lost), d') := by
  rw [outcome_finish_fault hpass]
  cases hsaved : (d.store.releaseReview d.now caller.id).saveReview
      ((stopped r d issues).fail d.now (Failure.analysis fault.message).message) with
  | ok s =>
    obtain ⟨-, -, hcheck, -⟩ := Store.saveReview_eq_ok_iff.mp hsaved
    have hfits := ((Store.checkFindings_eq_ok_iff _ _).mp hcheck).1
    rw [Review.fail, stopped_findings hblank, fitsFinding_numbered] at hfits
    exact absurd hfits hlines
  | error lost =>
    have hgiven := outcome_abandon caller (stopped r d issues) fault.message
      (afterPass m files issues d)
    exact ⟨_, lost, outcome_bind_error (hgiven.trans (outcome_saveReview_error hsaved))⟩

theorem outcome_finish_found (hpass : modelPass m files d = .ok (issues, usage)) :
    outcome (finish m caller files r) d =
      outcome (do keep caller files (found m files r d issues usage)
                  return found m files r d issues usage)
        (afterPass m files (allIssues files issues) d) := by
  have hseen := outcome_analyse m files r d
  rw [hpass] at hseen
  rw [finish, outcome_bind_ok hseen]

theorem fitsReview_found (issues : List Issue) (usage : Usage)
    (hfiles : Store.fits files.length = true) :
    Store.fitsReview (found m files r d issues usage) = true ↔
      Store.fits files.totalLines = true ∧ Store.fits usage.tokens = true := by
  rw [found, fitsReview_concluded, hfiles, warned_tokens]
  simp

theorem found_findings (issues : List Issue) (usage : Usage) :
    (found m files r d issues usage).findings = numbered d.ids d.used (allIssues files issues) := by
  rw [found, concluded_eq]

theorem found_same (m : Model σ) (files : Files) (r : Review) (d : Desk σ) (issues : List Issue)
    (usage : Usage) :
    (found m files r d issues usage).id = r.id ∧
      (found m files r d issues usage).reviewerId = r.reviewerId ∧
      (found m files r d issues usage).createdAt = r.createdAt := by
  rw [found, concluded_eq]
  exact ⟨rfl, rfl, rfl⟩

/-- The review in hand is kept if it can be. -/
theorem Opened.saveReview_found (hopen : Opened before row t r d.store)
    (hfiles : Store.fits files.length = true)
    (hfresh : Fresh d.ids d.used (d.used + (allIssues files issues).length) before)
    (hkeep : Keepable files issues usage) :
    d.store.saveReview (found m files r d issues usage) =
      .ok { d.store with reviews := before ++ [Store.kept (found m files r d issues usage)] } := by
  obtain ⟨hlines, htokens, hissues⟩ := hkeep
  obtain ⟨hid, howner, -⟩ := found_same m files r d issues usage
  exact hopen.saveReview_numbered ⟨hid, howner⟩
    ((fitsReview_found issues usage hfiles).mpr ⟨hlines, htokens⟩) (found_findings issues usage)
    hissues hfresh

/-- The model is done and the review can be kept: its files are counted. -/
theorem outcome_finish_kept (hopen : Opened before row t r d.store) (hid : caller.id = row.id)
    (hfiles : Store.fits files.length = true)
    (hfresh : Fresh d.ids d.used (d.used + (allIssues files issues).length) before)
    (hpass : modelPass m files d = .ok (issues, usage)) (hkeep : Keepable files issues usage) :
    ∃ d', outcome (finish m caller files r) d = (.ok (found m files r d issues usage), d') ∧
      d'.store.Stands row ((Tally.Change.addFiles files.length).apply row.admits t) ∧
      d'.store.reviews = before ++ [Store.kept (found m files r d issues usage)] := by
  have hsaved := hopen.saveReview_found (m := m) hfiles hfresh hkeep
  obtain ⟨s, hadded, hreviews, hstands⟩ := Store.Stands.addFiles
    (s := { d.store with reviews := before ++ [Store.kept (found m files r d issues usage)] })
    (hopen.stands.of_accounts rfl) d.now hfiles
  rw [← hid] at hadded
  refine ⟨{ afterPass m files (allIssues files issues) d with store := s }, ?_, hstands, hreviews⟩
  rw [outcome_finish_found hpass]
  apply outcome_bind_ok
  rw [outcome_keep_saved caller files (d := afterPass m files (allIssues files issues) d) hsaved]
  exact outcome_addFiles_ok hadded

/-- A review that is kept has only numbers that fit. -/
theorem keepable_of_saveReview {s s' : Store} (hfiles : Store.fits files.length = true)
    (h : s.saveReview (found m files r d issues usage) = .ok s') : Keepable files issues usage := by
  obtain ⟨hr, -, hf, -⟩ := Store.saveReview_eq_ok_iff.mp h
  obtain ⟨hlines, htokens⟩ := (fitsReview_found issues usage hfiles).mp hr
  have hfits := ((Store.checkFindings_eq_ok_iff _ _).mp hf).1
  rw [found_findings, fitsFinding_numbered] at hfits
  exact ⟨hlines, htokens, hfits⟩

/-- The model is done and the review cannot be kept: the store refuses it and stays as it is. -/
theorem outcome_finish_overflow (hfiles : Store.fits files.length = true)
    (hpass : modelPass m files d = .ok (issues, usage)) (hkeep : ¬Keepable files issues usage) :
    ∃ d' fault, outcome (finish m caller files r) d = (.error (.store fault), d') ∧
      d'.store = d.store := by
  cases hsaved : d.store.saveReview (found m files r d issues usage) with
  | ok s => exact absurd (keepable_of_saveReview hfiles hsaved) hkeep
  | error fault =>
    refine ⟨afterPass m files (allIssues files issues) d, fault, ?_, rfl⟩
    rw [outcome_finish_found hpass]
    exact outcome_bind_error (outcome_keep_error caller files hsaved)

/-- Every issue that the model saw takes an identifier when the analysis fails. -/
theorem used_finish_fault (hpass : modelPass m files d = .error (fault, issues)) :
    (outcome (finish m caller files r) d).2.used = d.used + issues.length := by
  have hgiven := outcome_abandon caller (stopped r d issues) fault.message
    (afterPass m files issues d)
  rw [outcome_finish_fault hpass]
  cases hsaved : (d.store.releaseReview d.now caller.id).saveReview
      ((stopped r d issues).fail d.now (Failure.analysis fault.message).message) with
  | ok s =>
    rw [outcome_bind_ok (hgiven.trans (outcome_saveReview_ok hsaved)), outcome_fail, afterPass]
  | error lost =>
    rw [outcome_bind_error (hgiven.trans (outcome_saveReview_error hsaved)), afterPass]

/-- Every issue takes an identifier, whether or not the review is kept. -/
theorem used_finish_found (hfiles : Store.fits files.length = true)
    (hpass : modelPass m files d = .ok (issues, usage)) :
    (outcome (finish m caller files r) d).2.used = d.used + (allIssues files issues).length := by
  rw [outcome_finish_found hpass]
  cases hsaved : d.store.saveReview (found m files r d issues usage) with
  | error fault =>
    have hlost := outcome_keep_error caller files
      (d := afterPass m files (allIssues files issues) d) hsaved
    rw [outcome_bind_error hlost, afterPass]
  | ok s =>
    have hkept := outcome_keep_saved caller files
      (d := afterPass m files (allIssues files issues) d) hsaved
    rw [outcome_bind_ok (hkept.trans (outcome_addFiles_ok (if_pos hfiles))), outcome_pure,
      afterPass]

end Finish

end ReviewDesk.Desk
