import Mathlib.Logic.Function.Iterate
import ReviewDesk.Proofs.Making

/-!
# A request for a review, step by step

Between two calls of the store other requests may come in. A request is therefore taken as a little
machine: each step makes one call of the store or looks at what does not belong to it. A request
that is left alone does what `createReview` does, and every step changes the tally of the account
by the place that the request takes or gives back and by the files that it counts.
-/
namespace ReviewDesk.Desk

/-- A request for a review, with the copy of the account that it goes by. -/
structure Request where
  caller : Account
  title : String
  description : Option String
  files : Files

/-- What a step finds outside of the store. An analysis that fails may have found something. -/
structure Turn where
  now : Moment
  id : Uuid
  analysis : Except (Model.Fault × List Finding) Review

inductive Stage where
  | asked
  | admitted
  | reserved
  | opened (r : Review)
  | analysed (r : Review)
  | stored (r : Review)
  | counted (r : Review)
  | broken (r : Review) (fault : Model.Fault)
  | released (r : Review) (fault : Model.Fault)
  | failed (fault : Model.Fault)
  | refused (failure : Failure)
  /-- The store, or a check of the desk, broke off the request. -/
  | crashed (holding : Bool) (failure : Failure)

namespace Stage

/-- Whether the request has taken a place and not given it back. -/
def holds : Stage → Bool
  | reserved | opened _ | analysed _ | stored _ | counted _ | broken _ _ => true
  | crashed holding _ => holding
  | asked | admitted | released _ _ | failed _ | refused _ => false

/-- Whether the files of the request have been counted. -/
def isCounted : Stage → Bool
  | counted _ => true
  | _ => false

/-- The places that the request has, none or one. -/
def places (stage : Stage) : ℕ := if stage.holds then 1 else 0

/-- What the caller is told at the end. -/
def result? : Stage → Option (Except Failure Review)
  | counted r => some (.ok r)
  | failed fault => some (.error (.analysis fault.message))
  | refused failure | crashed _ failure => some (.error failure)
  | _ => none

end Stage

namespace Request

/-- The files of the request that have been counted. -/
def filesCounted (q : Request) (stage : Stage) : ℕ :=
  if stage.isCounted then q.files.length else 0

/-- Where a call of the store leads to: to the next stage, or to a crash. -/
def after (next : Stage) (holding : Bool) (s : Store) : Except Store.Fault Store → Stage × Store
  | .ok s' => (next, s')
  | .error fault => (.crashed holding (.store fault), s)

def step (q : Request) (turn : Turn) : Stage × Store → Stage × Store
  | (.asked, s) =>
    match checkAdmission q.caller q.files with
    | .ok () => (.admitted, s)
    | .error failure => (.refused failure, s)
  | (.admitted, s) =>
    let taken := s.reserveReview turn.now q.caller.id
    (if taken.1 then .reserved else .refused .quota, taken.2)
  | (.reserved, s) =>
    match Review.make turn.id turn.now q.caller.id q.title q.description with
    | .good r => after (.opened r) true s (s.saveReview r)
    | .bad problems => (.crashed true (.invalid problems), s)
  | (.opened r, s) =>
    match turn.analysis with
    | .ok r' => (.analysed r', s)
    | .error (fault, findings) =>
      (.broken { r.start turn.now with findings := r.findings ++ findings } fault, s)
  | (.analysed r, s) => after (.stored r) true s (s.saveReview r)
  | (.stored r, s) =>
    after (.counted r) true s (s.addFiles turn.now q.caller.id q.files.length)
  | (.broken r fault, s) => (.released r fault, s.releaseReview turn.now q.caller.id)
  | (.released r fault, s) =>
    after (.failed fault) false s
      (s.saveReview (r.fail turn.now (Failure.analysis fault.message).message))
  | ended => ended

/-- Some steps on, the request is at an end with a result and a store. -/
def Ends (q : Request) (turn : Turn) (p : Stage × Store) (result : Except Failure Review)
    (s : Store) : Prop :=
  ∃ k, ((q.step turn)^[k] p).1.result? = some result ∧ ((q.step turn)^[k] p).2 = s

variable {q : Request} {turn : Turn} {p : Stage × Store} {result : Except Failure Review}
  {r : Review} {s s' : Store}

theorem ends_of_result {stage : Stage} (h : stage.result? = some result) :
    q.Ends turn (stage, s) result s :=
  ⟨0, h, rfl⟩

theorem ends_of_step (h : q.Ends turn (q.step turn p) result s) : q.Ends turn p result s := by
  obtain ⟨k, hk⟩ := h
  exact ⟨k + 1, hk⟩

theorem after_ok (next : Stage) (holding : Bool) (s s' : Store) :
    after next holding s (.ok s') = (next, s') := rfl

theorem after_error (next : Stage) (holding : Bool) (s : Store) (fault : Store.Fault) :
    after next holding s (.error fault) = (.crashed holding (.store fault), s) := rfl

section Alone

variable {σ : Type} {m : Model σ} {d : Desk σ}

/-- A request whose analysis fails gives its review up. -/
theorem ends_of_fault {fault : Model.Fault} {issues : List Issue} (hnow : turn.now = d.now)
    (hturn : turn.analysis = .error (fault, numbered d.ids d.used issues))
    (hpass : modelPass m q.files d = .error (fault, issues)) :
    q.Ends turn (.opened r, d.store) (outcome (finish m q.caller q.files r) d).1
      (outcome (finish m q.caller q.files r) d).2.store := by
  have hgiven := outcome_abandon q.caller (stopped r d issues) fault.message
    (afterPass m q.files issues d)
  rw [outcome_finish_fault hpass]
  -- The three steps from here: the analysis fails, the place is given back, the review is saved.
  apply ends_of_step
  rw [step, hturn, hnow]
  apply ends_of_step
  rw [step, hnow]
  apply ends_of_step
  rw [step, hnow, ← stopped]
  cases hsaved : (d.store.releaseReview d.now q.caller.id).saveReview
      ((stopped r d issues).fail d.now (Failure.analysis fault.message).message) with
  | ok s =>
    rw [after_ok, outcome_bind_ok (hgiven.trans (outcome_saveReview_ok hsaved)), outcome_fail]
    exact ends_of_result rfl
  | error lost =>
    rw [after_error, outcome_bind_error (hgiven.trans (outcome_saveReview_error hsaved))]
    exact ends_of_result rfl

/-- A request whose model is done keeps its review and counts the files. -/
theorem ends_of_found {issues : List Issue} {usage : Usage} (hnow : turn.now = d.now)
    (hpass : modelPass m q.files d = .ok (issues, usage))
    (hturn : turn.analysis = .ok (found m q.files r d issues usage)) :
    q.Ends turn (.opened r, d.store) (outcome (finish m q.caller q.files r) d).1
      (outcome (finish m q.caller q.files r) d).2.store := by
  rw [outcome_finish_found hpass]
  apply ends_of_step
  rw [step, hturn]
  apply ends_of_step
  rw [step]
  cases hsaved : d.store.saveReview (found m q.files r d issues usage) with
  | error fault =>
    have hlost := outcome_keep_error q.caller q.files
      (d := afterPass m q.files (allIssues q.files issues) d) hsaved
    rw [after_error, outcome_bind_error hlost]
    exact ends_of_result rfl
  | ok s =>
    have hkept := outcome_keep_saved q.caller q.files
      (d := afterPass m q.files (allIssues q.files issues) d) hsaved
    rw [after_ok]
    apply ends_of_step
    rw [step, hnow]
    cases hadded : s.addFiles d.now q.caller.id q.files.length with
    | error fault =>
      rw [after_error, outcome_bind_error (hkept.trans (outcome_addFiles_error hadded))]
      exact ends_of_result rfl
    | ok s' =>
      rw [after_ok, outcome_bind_ok (hkept.trans (outcome_addFiles_ok hadded)), outcome_pure]
      exact ends_of_result rfl

/-- A request with a place opens its review and finishes it. -/
theorem ends_of_reserved (m : Model σ) (q : Request) (d : Desk σ) :
    ∃ turn, turn.now = d.now ∧ q.Ends turn (.reserved, d.store)
      (outcome (openReview q.caller q.title q.description >>= finish m q.caller q.files) d).1
      (outcome (openReview q.caller q.title q.description >>= finish m q.caller q.files)
        d).2.store := by
  -- A request that does not come to the analysis may have any.
  let early : Turn := ⟨d.now, d.ids d.used, .error (.unpriceable, [])⟩
  cases hmake : Review.make (d.ids d.used) d.now q.caller.id q.title q.description with
  | bad problems =>
    refine ⟨early, rfl, ends_of_step ?_⟩
    rw [step, hmake, outcome_bind_error (outcome_openReview_bad hmake)]
    exact ends_of_result rfl
  | good r =>
    cases hsave : d.store.saveReview r with
    | error fault =>
      refine ⟨early, rfl, ends_of_step ?_⟩
      rw [step, hmake, outcome_bind_error (outcome_openReview_error hmake hsave)]
      dsimp only
      rw [hsave, after_error]
      exact ends_of_result rfl
    | ok s =>
      have hopened := outcome_openReview hmake hsave
      cases hpass : modelPass m q.files d with
      | error pass =>
        obtain ⟨fault, issues⟩ := pass
        refine ⟨⟨d.now, d.ids d.used, .error (fault, numbered d.ids (d.used + 1) issues)⟩, rfl,
          ends_of_step ?_⟩
        rw [step, hmake, outcome_bind_ok hopened]
        dsimp only
        rw [hsave, after_ok]
        exact ends_of_fault (d := { d with store := s, used := d.used + 1 }) rfl rfl hpass
      | ok pass =>
        obtain ⟨issues, usage⟩ := pass
        refine ⟨⟨d.now, d.ids d.used,
          .ok (found m q.files r { d with store := s, used := d.used + 1 } issues usage)⟩, rfl,
          ends_of_step ?_⟩
        rw [step, hmake, outcome_bind_ok hopened]
        dsimp only
        rw [hsave, after_ok]
        exact ends_of_found (d := { d with store := s, used := d.used + 1 }) rfl hpass rfl

/-- A request that is left alone does what making a review does. -/
theorem ends_createReview (m : Model σ) (q : Request) (d : Desk σ) :
    ∃ turn, q.Ends turn (.asked, d.store)
      (outcome (createReview m q.caller q.title q.description q.files) d).1
      (outcome (createReview m q.caller q.title q.description q.files) d).2.store := by
  cases hcopy : checkAdmission q.caller q.files with
  | error failure =>
    refine ⟨⟨d.now, d.ids d.used, .error (.unpriceable, [])⟩, ends_of_step ?_⟩
    rw [step, hcopy, outcome_createReview_refused hcopy]
    exact ends_of_result rfl
  | ok _ =>
    cases hflag : (d.store.reserveReview d.now q.caller.id).1 with
    | false =>
      refine ⟨⟨d.now, d.ids d.used, .error (.unpriceable, [])⟩, ends_of_step ?_⟩
      rw [step, hcopy]
      apply ends_of_step
      rw [step, outcome_createReview_full hcopy hflag]
      dsimp only
      rw [hflag]
      exact ends_of_result rfl
    | true =>
      obtain ⟨turn, hnow, hrest⟩ := ends_of_reserved m q
        { d with store := (d.store.reserveReview d.now q.caller.id).2 }
      refine ⟨turn, ends_of_step ?_⟩
      rw [step, hcopy, outcome_createReview_reserved hcopy hflag]
      apply ends_of_step
      rw [step, hnow]
      dsimp only
      rw [hflag]
      exact hrest

end Alone

/-- A tally moves with a request: by the places that it takes or gives back, and by the files that
it counts. -/
structure Follows (q : Request) (row : Account) (t : Tally) (stage : Stage) (p : Stage × Store)
    (t' : Tally) : Prop where
  stands : p.2.Stands row t'
  reviews : t'.reviews + stage.places = t.reviews + p.1.places
  files : t'.files + q.filesCounted stage = t.files + q.filesCounted p.1
  /-- A place is taken only if the row allows it. -/
  taken : stage.places < p.1.places → row.admits t.reviews = true

theorem follows_of_same {row : Account} {t : Tally} {stage : Stage} (hs : p.2.Stands row t)
    (hplaces : p.1.places = stage.places) (hfiles : q.filesCounted p.1 = q.filesCounted stage) :
    q.Follows row t stage p t := by
  refine ⟨hs, ?_, ?_, ?_⟩
  · rw [hplaces]
  · rw [hfiles]
  · intro htaken
    omega

/-- A review that is saved, or cannot be, leaves the tally alone. -/
theorem follows_after_save {row : Account} {t : Tally} {stage next : Stage} {holding : Bool}
    (hs : s.Stands row t) (hplaces : next.places = stage.places) (hholding : stage.holds = holding)
    (hfiles : q.filesCounted next = q.filesCounted stage) (hnone : stage.isCounted = false) :
    q.Follows row t stage (after next holding s (s.saveReview r)) t := by
  cases hsaved : s.saveReview r with
  | ok s' =>
    rw [after_ok]
    exact follows_of_same (hs.of_accounts (Store.saveReview_accounts hsaved)) hplaces hfiles
  | error fault =>
    rw [after_error]
    apply follows_of_same hs
    · rw [Stage.places, Stage.places, hholding]
      rfl
    · rw [filesCounted, filesCounted, hnone]
      rfl

/-- A place is taken if the row allows it. -/
theorem follows_reserve {row : Account} {t : Tally} (turn : Turn) (hs : s.Stands row t)
    (hid : q.caller.id = row.id)
    (hreserve : row.admits t.reviews = true → Store.plus t.reviews 1 = t.reviews + 1) :
    ∃ t', q.Follows row t .admitted (q.step turn (.admitted, s)) t' := by
  obtain ⟨hflag, hstands⟩ := hs.reserveReview turn.now
  rw [← hid] at hflag hstands
  rw [step, hflag]
  by_cases ha : row.admits t.reviews = true
  · rw [Tally.Change.apply, if_pos ha, hreserve ha] at hstands
    rw [if_pos ha]
    exact ⟨_, hstands, by simp [Stage.places, Stage.holds], rfl, fun _ => ha⟩
  · rw [Tally.Change.apply, if_neg ha] at hstands
    rw [if_neg ha]
    exact ⟨t, follows_of_same hstands rfl rfl⟩

/-- The files of a review that is stored are counted, unless they are too many to be told. -/
theorem follows_count {row : Account} {t : Tally} (turn : Turn) (hs : s.Stands row t)
    (hid : q.caller.id = row.id)
    (hcount : Store.plus t.files q.files.length = t.files + q.files.length) :
    ∃ t', q.Follows row t (.stored r) (q.step turn (.stored r, s)) t' := by
  rw [step]
  by_cases hfits : Store.fits q.files.length = true
  · obtain ⟨s', hadded, -, hstands⟩ := hs.addFiles turn.now hfits
    rw [← hid] at hadded
    rw [Tally.Change.apply, if_pos hfits, hcount] at hstands
    rw [hadded, after_ok]
    exact ⟨_, hstands, rfl, by simp [filesCounted, Stage.isCounted],
      by simp [Stage.places, Stage.holds]⟩
  · have hlost : s.addFiles turn.now q.caller.id q.files.length = .error .integerOverflow :=
      if_neg hfits
    rw [hlost, after_error]
    exact ⟨t, follows_of_same hs rfl rfl⟩

/-- The place of a review that failed is given back. -/
theorem follows_release {row : Account} {t : Tally} {fault : Model.Fault} (turn : Turn)
    (hs : s.Stands row t) (hid : q.caller.id = row.id)
    (hrelease : max (Store.plus t.reviews (-1)) 0 = t.reviews - 1) :
    ∃ t', q.Follows row t (.broken r fault) (q.step turn (.broken r fault, s)) t' := by
  have hstands := hs.run turn.now .release
  rw [← hid, Tally.Change.apply, hrelease] at hstands
  exact ⟨_, hstands, by simp [step, Stage.places, Stage.holds], rfl,
    by simp [step, Stage.places, Stage.holds]⟩

/-- Every step moves the tally with the request, if the numbers leave room for it. -/
theorem step_follows {row : Account} {t : Tally} {stage : Stage} (turn : Turn)
    (hs : s.Stands row t) (hid : q.caller.id = row.id)
    (hreserve : stage.places = 0 → row.admits t.reviews = true →
      Store.plus t.reviews 1 = t.reviews + 1)
    (hrelease : 0 < stage.places → max (Store.plus t.reviews (-1)) 0 = t.reviews - 1)
    (hcount : stage.isCounted = false →
      Store.plus t.files q.files.length = t.files + q.files.length) :
    ∃ t', q.Follows row t stage (q.step turn (stage, s)) t' := by
  -- Only three of the stages are followed by a change of the tally.
  cases stage with
  | admitted => exact follows_reserve turn hs hid (hreserve rfl)
  | stored r => exact follows_count turn hs hid (hcount rfl)
  | broken r fault => exact follows_release turn hs hid (hrelease Nat.one_pos)
  | asked =>
    refine ⟨t, ?_⟩
    rw [step]
    cases checkAdmission q.caller q.files <;> exact follows_of_same hs rfl rfl
  | reserved =>
    refine ⟨t, ?_⟩
    rw [step]
    cases Review.make turn.id turn.now q.caller.id q.title q.description with
    | good r => exact follows_after_save hs rfl rfl rfl rfl
    | bad problems => exact follows_of_same hs rfl rfl
  | opened r =>
    refine ⟨t, ?_⟩
    rw [step]
    cases turn.analysis <;> exact follows_of_same hs rfl rfl
  | analysed r =>
    refine ⟨t, ?_⟩
    rw [step]
    exact follows_after_save hs rfl rfl rfl rfl
  | released r fault =>
    refine ⟨t, ?_⟩
    rw [step]
    exact follows_after_save hs rfl rfl rfl rfl
  | counted r => exact ⟨t, follows_of_same hs rfl rfl⟩
  | failed fault => exact ⟨t, follows_of_same hs rfl rfl⟩
  | refused failure => exact ⟨t, follows_of_same hs rfl rfl⟩
  | crashed holding failure => exact ⟨t, follows_of_same hs rfl rfl⟩

end Request

end ReviewDesk.Desk
