import ReviewDesk.Proofs.ReviewRules

/-!
# Reviews of others

What an account that is no administrator asks about a review of somebody else is refused before
anything happens, nothing that it asks touches such a review, and what it is told about its own
reviews does not depend on the others.
-/
namespace ReviewDesk

/-- What can be asked about reviews. -/
inductive ReviewRequest where
  | create (title : String) (description : Option String) (files : Files)
  | list (limit : Option Int)
  | statistics
  | view (id : Uuid)
  | summary (id : Uuid)
  | resolve (id finding : Uuid)
  | delete (id : Uuid)
  | insights (id : Uuid)
  | fixing (id : Uuid)
  | download (id : Uuid) (format : String)

namespace ReviewRequest

variable {σ : Type}

/-- The task of a request. -/
def task (m : Model σ) (caller : Account) : ReviewRequest → Task σ Unit
  | create title description files => discard <| Desk.createReview m caller title description files
  | list limit => discard <| Desk.reviewsFor caller limit
  | statistics => discard <| Desk.statistics caller
  | view id => discard <| Desk.reviewFor caller id
  | summary id => discard <| Desk.summary m caller id
  | resolve id finding => discard <| Desk.resolveFinding caller id finding
  | delete id => Desk.deleteReview caller id
  | insights id => discard <| Desk.insights caller id
  | fixing id => discard <| Desk.fixingRequest caller id
  | download id format => discard <| Desk.download caller id format

/-- The review that a request is about, if it is about one and otherwise in order. -/
def target? : ReviewRequest → Option Uuid
  | create _ _ _ | list _ | statistics => none
  | view id | summary id | resolve id _ | delete id | insights id | fixing id => some id
  | download id format =>
    if (Report.Format.ofName? (Text.lower format)).isSome then some id else none

end ReviewRequest

namespace Store

/-- The reviews of an account, with their findings. -/
def own (id : Uuid) (s : Store) : List Review := s.reviews.filter (·.reviewerId == id)

/-- The reviews of all other accounts, with their findings. -/
def others (id : Uuid) (s : Store) : List Review := s.reviews.filter (·.reviewerId != id)

variable {s s' : Store} {owner id : Uuid}

/-- The others are as before, and whatever has the identifier is the owner's. -/
def Spared (owner id : Uuid) (before : List Review) (s : Store) : Prop :=
  s.others owner = before ∧ ∀ r ∈ s.reviews, r.id = id → r.reviewerId = owner

theorem Making.spared {before : List Review} {fit : Review → Prop}
    (h : Making owner id fit s s') (hs : Spared owner id before s) :
    Spared owner id before s' := by
  obtain ⟨hothers, howned⟩ := hs
  cases h with
  | count now hc =>
    obtain ⟨f, hf, -⟩ := recounted_run hc now owner s
    rw [hf]
    exact ⟨hothers, howned⟩
  | @keep r s' hid howner _ h =>
    obtain ⟨-, -, -, rfl⟩ := saveReview_eq_ok_iff.mp h
    constructor
    · rw [← hothers]
      refine filter_putReview (by simp [howner]) fun q hq hqr => ?_
      simp [howned q hq ((hqr.trans (kept_id r)).trans hid)]
    · intro q hq hqid
      rcases mem_putReview hq with rfl | hq
      · exact (kept_reviewerId r).trans howner
      · exact howned q hq hqid

end Store

namespace Desk

open Relation (ReflTransGen)

variable {σ : Type} {m : Model σ} {d : Desk σ} {caller : Account}

/-- A review of somebody else is not shown, and nothing happens. -/
theorem outcome_reviewFor_foreign (hcaller : caller.isAdmin = false) {r : Review} {id : Uuid}
    (hr : d.store.getReview id = some r) (hforeign : r.reviewerId ≠ caller.id) :
    outcome (reviewFor caller id) d = (.error .foreignReview, d) := by
  rw [reviewFor, outcome_bind_ok (outcome_get d), hr]
  simp [hcaller, hforeign]

theorem getReview_of_mem {s : Store} (hids : (s.reviews.map (·.id)).Nodup) {r : Review}
    (hr : r ∈ s.reviews) : s.getReview r.id = some r := by
  rw [Store.getReview, ← List.head?_filter, Store.filter_id_eq hids hr]
  rfl

/-- Every request about a review of somebody else ends where the review is looked for. -/
theorem outcome_foreign {q : ReviewRequest} {id : Uuid} (hq : q.target? = some id)
    (h : outcome (reviewFor caller id) d = (.error .foreignReview, d)) :
    outcome (q.task m caller) d = (.error .foreignReview, d) := by
  cases q with
  | create title description files => cases hq
  | list limit => cases hq
  | statistics => cases hq
  | view id => cases hq; exact outcome_bind_error h
  | summary id => cases hq; exact outcome_bind_error (outcome_bind_error h)
  | resolve id finding => cases hq; exact outcome_bind_error (outcome_bind_error h)
  | delete id => cases hq; exact outcome_bind_error h
  | insights id => cases hq; exact outcome_bind_error (outcome_bind_error h)
  | fixing id => cases hq; exact outcome_bind_error (outcome_bind_error h)
  | download id format =>
    rw [ReviewRequest.target?] at hq
    refine outcome_bind_error ?_
    unfold download
    cases hformat : Report.Format.ofName? (Text.lower format) with
    | none => simp [hformat] at hq
    | some f =>
      obtain rfl : id = _ := by simpa [hformat] using hq
      exact outcome_bind_error h

/-- The reviews of others stay as they are. -/
def Spares (owner : Uuid) (s s' : Store) : Prop := s'.others owner = s.others owner

theorem spares_of_moves {α : Type} {t : Task σ α} {owner : Uuid} (h : Moves (Spares owner) t d) :
    Spares owner d.store (outcome t d).2.store := by
  unfold Moves at h
  generalize (outcome t d).2.store = s at h
  induction h with
  | refl => rfl
  | tail _ hlast ih => exact hlast.trans ih

/-- An own review has an identifier of its own. -/
theorem own_of_id {s : Store} (hids : (s.reviews.map (·.id)).Nodup) {id owner : Uuid} {r q : Review}
    (hr : s.getReview id = some r) (howner : r.reviewerId = owner) (hq : q ∈ s.reviews)
    (hqid : q.id = r.id) : q.reviewerId = owner := by
  have hsame := List.inj_on_of_nodup_map hids hq (List.mem_of_find?_eq_some hr) hqid
  rwa [hsame]

theorem spares_setResolved {s : Store} {owner review finding : Uuid}
    (howned : ∀ q ∈ s.reviews, q.id = review → q.reviewerId = owner) (flag : Bool) :
    Spares owner s (s.setResolved review finding flag).2 := by
  have howner (q : Review) : (if q.id == review then q.setResolved finding flag else q).reviewerId =
      q.reviewerId := by
    split <;> rfl
  unfold Spares Store.others Store.setResolved
  rw [List.filter_map]
  simp only [Function.comp_def, howner]
  conv_rhs => rw [← List.map_id (s.reviews.filter _)]
  refine List.map_congr_left fun q hq => ?_
  obtain ⟨hq, hforeign⟩ := List.mem_filter.mp hq
  have hne : q.id ≠ review := fun hid => by simp [howned q hq hid] at hforeign
  simp [hne]

theorem spares_deleteReview {s : Store} {owner review : Uuid}
    (howned : ∀ q ∈ s.reviews, q.id = review → q.reviewerId = owner) :
    Spares owner s (s.deleteReview review) := by
  unfold Spares Store.others Store.deleteReview
  rw [List.filter_filter]
  refine List.filter_congr fun q hq => ?_
  by_cases hid : q.id = review
  · simp [howned q hq hid]
  · simp [hid]

theorem createReview_spares (title : String) (description : Option String) (files : Files)
    (hnew : ∀ r ∈ d.store.reviews, r.id ≠ d.ids d.used) :
    Spares caller.id d.store
      (outcome (createReview m caller title description files) d).2.store := by
  have hmoves := createReview_moves m caller title description files d
  have hstart : Store.Spared caller.id (d.ids d.used) (d.store.others caller.id) d.store :=
    ⟨rfl, fun r hr hid => absurd hid (hnew r hr)⟩
  unfold Moves at hmoves
  generalize (outcome (createReview m caller title description files) d).2.store = s at hmoves
  have hend : Store.Spared caller.id (d.ids d.used) (d.store.others caller.id) s := by
    induction hmoves with
    | refl => exact hstart
    | tail _ hlast ih => exact hlast.spared ih
  exact hend.1

/-- Nothing that is asked touches the reviews of others. -/
theorem request_spares (hcaller : caller.isAdmin = false)
    (hids : (d.store.reviews.map (·.id)).Nodup)
    (hnew : ∀ r ∈ d.store.reviews, r.id ≠ d.ids d.used) (q : ReviewRequest) :
    Spares caller.id d.store (outcome (q.task m caller) d).2.store := by
  have hown {r : Review} (hmay : r.reviewerId = caller.id ∨ caller.isAdmin = true) :
      r.reviewerId = caller.id := by
    rcases hmay with howner | hadmin
    · exact howner
    · simp [hcaller] at hadmin
  apply spares_of_moves
  cases q with
  | create title description files =>
    exact moves_discard (moves_of_step (createReview_spares title description files hnew))
  | list limit =>
    exact moves_discard (moves_of_same (by rw [reviewsFor, outcome_look]))
  | statistics =>
    exact moves_discard (moves_look fun _ _ => moves_of_same rfl)
  | view id =>
    exact @moves_reviewFor _ _ _ _ _ _ (fun _ => pure ()) fun _ _ _ => moves_of_same rfl
  | summary id =>
    refine moves_discard (moves_reviewFor fun r _ _ => ?_)
    refine moves_bind (moves_of_same rfl) fun told d' _ => ?_
    split <;> exact moves_of_same rfl
  | resolve id finding =>
    refine moves_discard (moves_reviewFor fun r hr hmay => ?_)
    have howned := fun q => own_of_id (q := q) hids hr (hown hmay)
    split
    · exact moves_of_same rfl
    · exact moves_bind (moves_of_step (spares_setResolved howned true))
        fun _ _ _ => moves_of_same rfl
  | delete id =>
    refine moves_reviewFor fun r hr hmay => ?_
    exact moves_of_step (spares_deleteReview fun q => own_of_id hids hr (hown hmay))
  | insights id => exact moves_discard (moves_reviewFor fun r _ _ => moves_of_same rfl)
  | fixing id => exact moves_discard (moves_reviewFor fun r _ _ => moves_of_same rfl)
  | download id format =>
    refine moves_discard ?_
    unfold download
    split
    · exact moves_of_same rfl
    · exact moves_reviewFor fun r _ _ => moves_of_same rfl

end Desk

/-- What is listed for an account is taken from its own reviews. -/
theorem Desk.outcome_reviewsFor {σ : Type} (d : Desk σ) (caller : Account) (limit : Option Int) :
    outcome (reviewsFor caller limit) d =
      ((Store.reviewsOf caller.id limit ⟨[], d.store.own caller.id⟩).mapError .store, d) := by
  rw [reviewsFor, outcome_look]
  unfold Store.reviewsOf Store.own
  simp only [List.filter_filter, Bool.and_self]

theorem Desk.outcome_statistics {σ : Type} (d : Desk σ) (caller : Account) :
    outcome (statistics caller) d =
      (.ok (statisticsOf (Store.newestFirst (d.store.own caller.id))), d) := by
  have hlist : outcome (reviewsFor caller none) d =
      (.ok (Store.newestFirst (d.store.own caller.id)), d) := outcome_look d _
  rw [statistics, outcome_bind_ok hlist]
  rfl

/-- Reviews are isolated from accounts other than their owners and administrators, identifiers of
reviews being unique. A request about a review of somebody else is refused without any effect. No
request changes a review or a finding of somebody else, the next identifier being new. What is
listed and counted for an account depends on its own reviews alone. -/
theorem reviews_isolated {σ : Type} (m : Model σ) (d : Desk σ) {v : Account}
    (hv : v.isAdmin = false) (hids : (d.store.reviews.map (·.id)).Nodup) :
    (∀ r ∈ d.store.reviews, r.reviewerId ≠ v.id → ∀ q : ReviewRequest, q.target? = some r.id →
      ∃ failure : Failure, failure.verdict? = some ("PermissionDeniedError", 403) ∧
        Desk.outcome (q.task m v) d = (.error failure, d)) ∧
    ((∀ r ∈ d.store.reviews, r.id ≠ d.ids d.used) → ∀ q : ReviewRequest,
      (Desk.outcome (q.task m v) d).2.store.others v.id = d.store.others v.id) ∧
    ∀ {τ : Type} (e : Desk τ), d.store.own v.id = e.store.own v.id →
      (∀ limit, (Desk.outcome (Desk.reviewsFor v limit) d).1 =
        (Desk.outcome (Desk.reviewsFor v limit) e).1) ∧
      (Desk.outcome (Desk.statistics v) d).1 = (Desk.outcome (Desk.statistics v) e).1 := by
  refine ⟨?_, Desk.request_spares hv hids, ?_⟩
  · intro r hr hforeign q hq
    have hrefused := Desk.outcome_reviewFor_foreign hv (Desk.getReview_of_mem hids hr) hforeign
    exact ⟨.foreignReview, rfl, Desk.outcome_foreign hq hrefused⟩
  · intro τ e hown
    constructor
    · intro limit
      rw [Desk.outcome_reviewsFor, Desk.outcome_reviewsFor, hown]
    · rw [Desk.outcome_statistics, Desk.outcome_statistics, hown]

/-- A review of somebody else. -/
def foreign : Review where
  id := Uuid.ofNat 10
  reviewerId := Uuid.ofNat 11
  title := "Elsewhere"
  createdAt := ⟨0, some 0⟩

/-- Somebody who has no reviews. -/
def bystander : Account where
  id := Uuid.ofNat 12
  username := "bob"
  email := "bob@example.com"
  createdAt := ⟨0, some 0⟩
  updatedAt := ⟨0, some 0⟩

theorem reviews_isolated_bystander :
    let d : Desk Model.Script :=
    { newDesk [] with store := { accounts := [bystander], reviews := [foreign] } }
    (∃ failure : Failure, failure.verdict? = some ("PermissionDeniedError", 403) ∧
      Desk.outcome ((ReviewRequest.delete foreign.id).task (Model.Script.model "script")
        bystander) d = (.error failure, d)) ∧
    (Desk.outcome ((ReviewRequest.create "Mine" none []).task (Model.Script.model "script")
      bystander) d).2.store.others bystander.id = [foreign] := by
  intro d
  obtain ⟨hrefused, hspared, -⟩ := reviews_isolated (Model.Script.model "script") d
    (v := bystander) rfl (by simp [d])
  constructor
  · exact hrefused foreign (by simp [d]) (by decide) (.delete foreign.id) rfl
  · exact hspared (by simp [d]; decide) (.create "Mine" none [])

end ReviewDesk
