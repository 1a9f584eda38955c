import Mathlib.Data.List.Infix
import ReviewDesk.Proofs.Stages

/-!
# A review that is deleted while it is made

The owner of a review or an administrator may delete it while it is still being made. The request
has the review in hand and saves it once more at its end, and this save does not ask whether the
review is still there. So a review that was deleted is back exactly if its last save was still to
come when it was deleted, and has been made since.
-/
namespace ReviewDesk.Desk

namespace Stage

/-- Whether the review may still be opened. -/
def mayOpen : Stage → Bool
  | asked | admitted | reserved => true
  | _ => false

/-- Whether the last save has been made. -/
def isKept : Stage → Bool
  | stored _ | counted _ | failed _ => true
  | _ => false

/-- The review in hand, as long as it is to be saved once more. -/
def inHand? : Stage → Option Review
  | opened r | analysed r | broken r _ | released r _ => some r
  | _ => none

/-- Whether the last save is still to come. -/
def owes (stage : Stage) : Bool := stage.inHand?.isSome

theorem of_owes {stage : Stage} (h : stage.owes = true) :
    stage.mayOpen = false ∧ stage.isKept = false := by
  cases stage <;> first | exact ⟨rfl, rfl⟩ | cases h

theorem of_isKept {stage : Stage} (h : stage.isKept = true) :
    stage.mayOpen = false ∧ stage.owes = false := by
  cases stage <;> first | exact ⟨rfl, rfl⟩ | cases h

/-- The review in hand, if there is one, has an identifier. -/
def Has (id : Uuid) (stage : Stage) : Prop := ∀ r ∈ stage.inHand?, r.id = id

theorem has_of_not_owes {id : Uuid} {stage : Stage} (h : stage.owes = false) : stage.Has id := by
  intro r hr
  rw [owes, hr] at h
  cases h

end Stage

/-- What a step finds is for the review with an identifier. -/
structure Turn.IsFor (id : Uuid) (turn : Turn) : Prop where
  fresh : turn.id = id
  analysis : ∀ r, turn.analysis = .ok r → r.id = id

namespace Request

variable {turn : Turn} {stage : Stage} {r : Review} {id : Uuid}

/-- A save that leads on has put the review in its place, and one that does not has changed
nothing. -/
theorem after_saveReview (next : Stage) (holding : Bool) (r : Review) (s : Store) :
    (∃ s', after next holding s (s.saveReview r) = (next, s') ∧
        s'.getReview r.id = some (Store.kept r)) ∨
      ∃ failure, after next holding s (s.saveReview r) = (.crashed holding failure, s) := by
  cases hsaved : s.saveReview r with
  | ok s' =>
    refine .inl ⟨s', after_ok next holding s s', ?_⟩
    rw [Store.getReview_saveReview hsaved, if_pos rfl]
  | error fault => exact .inr ⟨.store fault, after_error next holding s fault⟩

theorem make_id {now : Moment} {reviewer : Uuid} {title : String} {description : Option String}
    (h : Review.make id now reviewer title description = .good r) : r.id = id := by
  obtain ⟨_, -, rfl⟩ := (Checked.map_eq_good _).mp h
  rfl

/-- Before a review is opened there is none; a step opens it, or leaves the reviews alone. -/
theorem step_opening (q : Request) (s : Store) (hturn : turn.IsFor id)
    (hopen : stage.mayOpen = true) :
    (∃ r s', q.step turn (stage, s) = (.opened r, s') ∧ r.id = id) ∨
      ((q.step turn (stage, s)).2.reviews = s.reviews ∧
        (q.step turn (stage, s)).1.owes = false) := by
  cases stage with
  | asked =>
    right
    rw [step]
    cases checkAdmission q.caller q.files <;> exact ⟨rfl, rfl⟩
  | admitted =>
    right
    rw [step]
    refine ⟨Store.reserveReview_reviews turn.now q.caller.id s, ?_⟩
    dsimp only
    split <;> rfl
  | reserved =>
    rw [step]
    cases hmake : Review.make turn.id turn.now q.caller.id q.title q.description with
    | bad problems => exact .inr ⟨rfl, rfl⟩
    | good r =>
      have hid : r.id = id := (make_id hmake).trans hturn.fresh
      rcases after_saveReview (.opened r) true r s with ⟨s', h, -⟩ | ⟨failure, h⟩
      · exact .inl ⟨r, s', h, hid⟩
      · right
        dsimp only
        rw [h]
        exact ⟨rfl, rfl⟩
  | _ => cases hopen

/-- A request that has nothing more to save leaves the reviews alone from then on. -/
theorem step_settled (q : Request) (turn : Turn) (s : Store) (hopen : stage.mayOpen = false)
    (howes : stage.owes = false) :
    (q.step turn (stage, s)).2.reviews = s.reviews ∧
      (q.step turn (stage, s)).1.mayOpen = false ∧ (q.step turn (stage, s)).1.owes = false := by
  cases stage with
  | stored r =>
    rw [step, Store.addFiles]
    split <;> exact ⟨rfl, rfl, rfl⟩
  | counted r => exact ⟨rfl, rfl, rfl⟩
  | failed fault => exact ⟨rfl, rfl, rfl⟩
  | refused failure => exact ⟨rfl, rfl, rfl⟩
  | crashed holding failure => exact ⟨rfl, rfl, rfl⟩
  | asked => cases hopen
  | admitted => cases hopen
  | reserved => cases hopen
  | _ => cases howes

/-- A request with a review to save still has it after a step, or has saved it, or could not. -/
theorem step_owing (q : Request) (s : Store) (hturn : turn.IsFor id) (howes : stage.owes = true)
    (hhand : stage.Has id) :
    ((q.step turn (stage, s)).2.reviews = s.reviews ∧
        (q.step turn (stage, s)).1.owes = true ∧ (q.step turn (stage, s)).1.Has id) ∨
      (((q.step turn (stage, s)).2.getReview id).isSome = true ∧
        (q.step turn (stage, s)).1.isKept = true) ∨
      ∃ holding failure, q.step turn (stage, s) = (.crashed holding failure, s) := by
  cases stage with
  | opened r =>
    left
    rw [step]
    cases hanalysis : turn.analysis with
    | ok r' =>
      refine ⟨rfl, rfl, fun x hx => ?_⟩
      cases hx
      exact hturn.analysis r' hanalysis
    | error fault =>
      refine ⟨rfl, rfl, fun x hx => ?_⟩
      cases hx
      exact hhand r rfl
  | broken r fault =>
    left
    refine ⟨rfl, rfl, fun x hx => ?_⟩
    cases hx
    exact hhand r rfl
  | analysed r =>
    right
    have hid : r.id = id := hhand r rfl
    rw [step]
    rcases after_saveReview (.stored r) true r s with ⟨s', h, hs'⟩ | ⟨failure, h⟩
    · left
      rw [h, ← hid, hs']
      exact ⟨rfl, rfl⟩
    · exact .inr ⟨true, failure, h⟩
  | released r fault =>
    right
    let given := r.fail turn.now (Failure.analysis fault.message).message
    have hid : given.id = id := hhand r rfl
    rw [step]
    rcases after_saveReview (.failed fault) false given s with ⟨s', h, hs'⟩ | ⟨failure, h⟩
    · left
      rw [h, ← hid, hs']
      exact ⟨rfl, rfl⟩
    · exact .inr ⟨false, failure, h⟩
  | _ => cases howes

end Request

/-- A wish to delete a review. -/
structure Removal where
  caller : Account
  id : Uuid

namespace Removal

inductive Stage where
  | asked
  | permitted
  | done
  | refused (failure : Failure)
  deriving DecidableEq

/-- What the caller is told at the end. -/
def Stage.result? : Stage → Option (Except Failure Unit)
  | asked | permitted => none
  | done => some (.ok ())
  | refused failure => some (.error failure)

/-- The review is looked at first, and deleted by a second call of the store. -/
def step (w : Removal) : Stage × Store → Stage × Store
  | (.asked, s) =>
    match s.getReview w.id with
    | none => (.refused (.noReview w.id), s)
    | some r =>
      if r.reviewerId == w.caller.id || w.caller.isAdmin then (.permitted, s)
      else (.refused .foreignReview, s)
  | (.permitted, s) => (.done, s.deleteReview w.id)
  | ended => ended

/-- A removal that is left alone does what deleting a review does. -/
theorem ends_deleteReview {σ : Type} (w : Removal) (d : Desk σ) :
    (w.step (w.step (.asked, d.store))).1.result? =
        some (outcome (deleteReview w.caller w.id) d).1 ∧
      (w.step (w.step (.asked, d.store))).2 =
        (outcome (deleteReview w.caller w.id) d).2.store := by
  rw [deleteReview, reviewFor]
  cases hr : d.store.getReview w.id with
  | none =>
    have hgone : outcome (reviewFor w.caller w.id) d = (.error (.noReview w.id), d) := by
      rw [reviewFor, outcome_bind_ok (outcome_get d), hr]
      rfl
    rw [← reviewFor, outcome_bind_error hgone]
    simp [step, hr, Stage.result?]
  | some r =>
    have hid : r.id = w.id := by simpa using List.find?_some hr
    by_cases hmay : (r.reviewerId == w.caller.id || w.caller.isAdmin) = true
    · have hseen : outcome (reviewFor w.caller w.id) d = (.ok r, d) := by
        rw [reviewFor, outcome_bind_ok (outcome_get d), hr]
        simp [hmay]
      rw [← reviewFor, outcome_bind_ok hseen, outcome_adjust, hid]
      simp [step, hr, hmay, Stage.result?]
    · have hforeign : outcome (reviewFor w.caller w.id) d = (.error .foreignReview, d) := by
        rw [reviewFor, outcome_bind_ok (outcome_get d), hr]
        simp [hmay]
      rw [← reviewFor, outcome_bind_error hforeign]
      simp [step, hr, hmay, Stage.result?]

end Removal

/-- A request and a removal of its review under way, and the store that they share. -/
structure Crossing where
  store : Store
  making : Stage
  removing : Removal.Stage

namespace Crossing

inductive Move where
  | make (turn : Turn)
  | remove

/-- Neither has begun. -/
def start (s : Store) : Crossing := ⟨s, .asked, .asked⟩

/-- One of the two goes one step on. -/
def step (q : Request) (w : Removal) (x : Crossing) : Move → Crossing
  | .make turn =>
    let next := q.step turn (x.making, x.store)
    ⟨next.2, next.1, x.removing⟩
  | .remove =>
    let next := w.step (x.removing, x.store)
    ⟨next.2, x.making, next.1⟩

/-- The two take their steps in the order of the moves. -/
def run (q : Request) (w : Removal) (x : Crossing) (moves : List Move) : Crossing :=
  moves.foldl (step q w) x

/-- Whether the review that is to be deleted is in the store. -/
def shows (w : Removal) (x : Crossing) : Bool := (x.store.getReview w.id).isSome

/-- The moves of the request are about the review that is to be deleted. -/
def AllFor (w : Removal) (moves : List Move) : Prop :=
  ∀ turn, .make turn ∈ moves → turn.IsFor w.id

variable {q : Request} {w : Removal} {x : Crossing} {move : Move} {moves : List Move}

theorem run_cons : x.run q w (move :: moves) = (x.step q w move).run q w moves := rfl

theorem run_append (more : List Move) :
    x.run q w (moves ++ more) = (x.run q w moves).run q w more :=
  List.foldl_append

theorem shows_congr {y : Crossing} (h : y.store.reviews = x.store.reviews) :
    y.shows w = x.shows w := by
  simp only [shows, Store.getReview, h]

/-- What is in hand is the review, and as long as it may still be opened it is not there and nobody
has been permitted to delete it. -/
structure Sound (w : Removal) (x : Crossing) : Prop where
  inHand : x.making.Has w.id
  unopened : x.making.mayOpen = true → x.shows w = false ∧ x.removing ≠ .permitted

theorem Sound.of_opened (hhand : x.making.Has w.id) (hopen : x.making.mayOpen = false) :
    x.Sound w := by
  refine ⟨hhand, fun h => ?_⟩
  rw [hopen] at h
  cases h

/-- A review that has been opened stays so, and stays in hand until it is saved. -/
theorem opened_step {turn : Turn} (hturn : turn.IsFor w.id) (hopen : x.making.mayOpen = false)
    (hhand : x.making.Has w.id) :
    (x.step q w (.make turn)).making.mayOpen = false ∧
      (x.step q w (.make turn)).making.Has w.id := by
  obtain ⟨s, making, removing⟩ := x
  cases howes : making.owes with
  | false =>
    obtain ⟨-, hopen', howes'⟩ := Request.step_settled q turn s hopen howes
    exact ⟨hopen', Stage.has_of_not_owes howes'⟩
  | true =>
    rcases Request.step_owing q s hturn howes hhand with
      ⟨-, howes', hhand'⟩ | ⟨-, hkept⟩ | ⟨holding, failure, hstep⟩
    · exact ⟨(Stage.of_owes howes').1, hhand'⟩
    · exact ⟨(Stage.of_isKept hkept).1, Stage.has_of_not_owes (Stage.of_isKept hkept).2⟩
    · simp only [step, hstep]
      exact ⟨rfl, Stage.has_of_not_owes rfl⟩

theorem Sound.step_make (hx : x.Sound w) {turn : Turn} (hturn : turn.IsFor w.id) :
    (x.step q w (.make turn)).Sound w := by
  cases hopen : x.making.mayOpen with
  | true =>
    rcases Request.step_opening q x.store hturn hopen with
      ⟨r, s', hstep, hid⟩ | ⟨hreviews, howes⟩
    · simp only [step, hstep]
      refine .of_opened (fun r' hr' => ?_) rfl
      cases hr'
      exact hid
    · refine ⟨Stage.has_of_not_owes howes, fun _ => ?_⟩
      obtain ⟨hshows, hremoving⟩ := hx.unopened hopen
      exact ⟨(shows_congr hreviews).trans hshows, hremoving⟩
  | false =>
    obtain ⟨hopen', hhand'⟩ := opened_step (q := q) hturn hopen hx.inHand
    exact .of_opened hhand' hopen'

theorem Sound.step_remove (hx : x.Sound w) : (x.step q w .remove).Sound w := by
  obtain ⟨s, making, removing⟩ := x
  refine ⟨hx.inHand, fun hopen => ?_⟩
  obtain ⟨hshows, hremoving⟩ := hx.unopened hopen
  cases removing with
  | asked =>
    have hnone : s.getReview w.id = none := by simpa [shows] using hshows
    simp [step, Removal.step, hnone, shows]
  | permitted => exact absurd rfl hremoving
  | done => exact ⟨hshows, hremoving⟩
  | refused failure => exact ⟨hshows, hremoving⟩

/-- The order of steps does not matter for what is in hand. -/
theorem Sound.run (hx : x.Sound w) (hmoves : AllFor w moves) : (x.run q w moves).Sound w := by
  induction moves generalizing x with
  | nil => exact hx
  | cons move rest ih =>
    have hrest : AllFor w rest := fun turn h => hmoves turn (List.mem_cons_of_mem _ h)
    cases move with
    | make turn => exact ih (hx.step_make (hmoves turn List.mem_cons_self)) hrest
    | remove => exact ih hx.step_remove hrest

theorem sound_start {s : Store} (h : s.getReview w.id = none) : (start s).Sound w := by
  refine ⟨Stage.has_of_not_owes rfl, fun _ => ⟨?_, fun hr => by cases hr⟩⟩
  simp [shows, start, h]

/-- The last save has been made at some moment of a run. -/
def KeptDuring (q : Request) (w : Removal) (x : Crossing) (moves : List Move) : Prop :=
  ∃ part, part <+: moves ∧ (x.run q w part).making.isKept = true

theorem keptDuring_nil : KeptDuring q w x [] ↔ x.making.isKept = true := by
  simp [KeptDuring, run]

theorem keptDuring_cons :
    KeptDuring q w x (move :: moves) ↔
      x.making.isKept = true ∨ KeptDuring q w (x.step q w move) moves := by
  simp only [KeptDuring, List.prefix_cons_iff]
  constructor
  · rintro ⟨part, rfl | ⟨part, rfl, hpart⟩, hkept⟩
    · exact .inl hkept
    · exact .inr ⟨part, hpart, hkept⟩
  · rintro (hkept | ⟨part, hpart, hkept⟩)
    · exact ⟨[], .inl rfl, hkept⟩
    · exact ⟨move :: part, .inr ⟨part, rfl, hpart⟩, hkept⟩

/-- A request that was broken off makes no save any more. -/
theorem not_keptDuring_of_crashed {holding : Bool} {failure : Failure}
    (h : x.making = .crashed holding failure) : ¬ KeptDuring q w x moves := by
  induction moves generalizing x with
  | nil =>
    rw [keptDuring_nil, h]
    exact Bool.false_ne_true
  | cons move rest ih =>
    have hnext : (x.step q w move).making = .crashed holding failure := by
      cases move <;> simp [step, h, Request.step]
    rw [keptDuring_cons, h]
    rintro (hkept | hlater)
    · cases hkept
    · exact ih hnext hlater

/-- A step of the request when its review has been opened: the review is there afterwards if it was
there before or this step is the last save. -/
theorem shows_step {turn : Turn} (hturn : turn.IsFor w.id) (hopen : x.making.mayOpen = false)
    (hhand : x.making.Has w.id) :
    ((x.step q w (.make turn)).shows w = x.shows w ∧
        (x.step q w (.make turn)).making.owes = x.making.owes) ∨
      (x.making.owes = true ∧ (x.step q w (.make turn)).shows w = true ∧
        (x.step q w (.make turn)).making.isKept = true) ∨
      (x.making.owes = true ∧ (x.step q w (.make turn)).shows w = x.shows w ∧
        ∃ holding failure, (x.step q w (.make turn)).making = .crashed holding failure) := by
  cases howes : x.making.owes with
  | false =>
    obtain ⟨hreviews, -, howes'⟩ :=
      Request.step_settled q turn x.store hopen howes
    exact .inl ⟨shows_congr hreviews, howes'⟩
  | true =>
    rcases Request.step_owing q x.store hturn howes hhand with
      ⟨hreviews, howes', -⟩ | ⟨hshows, hkept⟩ | ⟨holding, failure, hstep⟩
    · exact .inl ⟨shows_congr hreviews, howes'⟩
    · exact .inr (.inl ⟨rfl, hshows, hkept⟩)
    · refine .inr (.inr ⟨rfl, ?_, holding, failure, ?_⟩) <;> simp only [step, hstep, shows]

/-- When the removal is over and the review has been opened, it is there at the end of a run if it
was there at its beginning or its last save has been made in the meantime. -/
theorem shows_run (hmoves : AllFor w moves) (hdone : x.removing = .done)
    (hopen : x.making.mayOpen = false) (hhand : x.making.Has w.id) :
    (x.run q w moves).shows w = true ↔
      x.shows w = true ∨ (x.making.owes = true ∧ KeptDuring q w x moves) := by
  induction moves generalizing x with
  | nil =>
    rw [keptDuring_nil]
    constructor
    · exact .inl
    · rintro (h | ⟨howes, hkept⟩)
      · exact h
      · rw [(Stage.of_owes howes).2] at hkept
        cases hkept
  | cons move rest ih =>
    have hrest : AllFor w rest := fun turn h => hmoves turn (List.mem_cons_of_mem _ h)
    have hunkept : x.making.owes = true → x.making.isKept ≠ true := fun h => by
      rw [(Stage.of_owes h).2]
      exact Bool.false_ne_true
    rw [keptDuring_cons]
    cases move with
    | remove =>
      have hsame : x.step q w .remove = x := by
        obtain ⟨s, making, removing⟩ := x
        cases hdone
        rfl
      rw [run_cons, hsame, ih hrest hdone hopen hhand]
      grind
    | make turn =>
      have hturn := hmoves turn List.mem_cons_self
      obtain ⟨hopen', hhand'⟩ := opened_step (q := q) hturn hopen hhand
      rw [run_cons, ih (x := x.step q w (.make turn)) hrest hdone hopen' hhand']
      rcases shows_step (q := q) hturn hopen hhand with
        ⟨hshows, howes⟩ | ⟨howes, hshows, hkept⟩ | ⟨howes, hshows, holding, failure, hcrashed⟩
      · rw [hshows, howes]
        grind
      · have hmade : KeptDuring q w (x.step q w (.make turn)) rest :=
          ⟨[], List.nil_prefix, hkept⟩
        exact iff_of_true (.inl hshows) (.inr ⟨howes, .inr hmade⟩)
      · have hnever : ¬ KeptDuring q w (x.step q w (.make turn)) rest :=
          not_keptDuring_of_crashed hcrashed
        rw [hshows]
        grind

/-- A review that was deleted is back exactly if its last save was still to come when it was
deleted and has been made since. -/
theorem shows_deleted_iff (q : Request) (w : Removal) {s : Store}
    (hnew : s.getReview w.id = none) {before later : List Move}
    (hmoves : AllFor w (before ++ later))
    (hpermitted : ((start s).run q w before).removing = .permitted) :
    ((start s).run q w (before ++ .remove :: later)).shows w = true ↔
      ((start s).run q w before).making.owes = true ∧
        ∃ part, part <+: later ∧
          ((start s).run q w (before ++ .remove :: part)).making.isKept = true := by
  have hbefore : AllFor w before := fun turn h => hmoves turn (List.mem_append_left _ h)
  have hlater : AllFor w later := fun turn h => hmoves turn (List.mem_append_right _ h)
  have hsound := (sound_start hnew).run (q := q) hbefore
  simp only [run_append, run_cons]
  generalize (start s).run q w before = x at hsound hpermitted ⊢
  have hopen : x.making.mayOpen = false := by
    by_contra h
    exact (hsound.unopened (Bool.not_eq_false _ ▸ h)).2 hpermitted
  have hstep : x.step q w .remove = ⟨x.store.deleteReview w.id, x.making, .done⟩ := by
    simp only [step, hpermitted, Removal.step]
  have hgone : (x.step q w .remove).shows w = false := by
    simp [hstep, shows, Store.getReview_deleteReview]
  rw [shows_run hlater (by rw [hstep]) (by rw [hstep]; exact hopen)
    (by rw [hstep]; exact hsound.inHand), hgone]
  simp [hstep, KeptDuring]

/-- An account that has a review made, and deletes it. -/
def owner : Account where
  id := Uuid.ofNat 1
  username := "ada"
  email := "ada@example.com"
  createdAt := ⟨0, some 0⟩
  updatedAt := ⟨0, some 0⟩

def order : Request := ⟨owner, "Small review", none, [("a.txt", "x")]⟩

def regret : Removal := ⟨owner, Uuid.ofNat 2⟩

/-- A turn of the request; the analysis finds nothing. -/
def turn : Turn where
  now := ⟨1, some 0⟩
  id := regret.id
  analysis := .ok (concluded ⟨1, some 0⟩ "model" order.files { model := "model" } []
    { id := regret.id, reviewerId := owner.id, title := order.title, createdAt := ⟨1, some 0⟩ })

/-- The owner looks at the review while it is open, and deletes it after its last save. -/
def lateRegret : List Move :=
  [.make turn, .make turn, .make turn, .remove, .make turn, .make turn]

/-- A review that is deleted after its last save stays away, whatever the request still does. -/
theorem shows_deleted_late :
    ((start ⟨[owner], []⟩).run order regret lateRegret).removing = .permitted ∧
      ((start ⟨[owner], []⟩).run order regret lateRegret).shows regret = true ∧
      ((start ⟨[owner], []⟩).run order regret
        (lateRegret ++ .remove :: [.make turn, .make turn])).shows regret = false := by
  have hturn : turn.IsFor regret.id := by
    refine ⟨rfl, fun r hr => ?_⟩
    cases hr
    rfl
  have hmoves : AllFor regret (lateRegret ++ [.make turn, .make turn]) := by
    intro other hother
    have hsame : other = turn := by simpa [lateRegret] using hother
    exact hsame ▸ hturn
  have hpermitted : ((start ⟨[owner], []⟩).run order regret lateRegret).removing = .permitted := by
    decide +kernel
  refine ⟨hpermitted, by decide +kernel, ?_⟩
  rw [← Bool.not_eq_true, shows_deleted_iff order regret rfl hmoves hpermitted]
  have howes : ((start ⟨[owner], []⟩).run order regret lateRegret).making.owes = false := by
    decide +kernel
  simp [howes]

/-- The owner deletes the review when it has been analysed and not yet saved again. -/
def earlyRegret : List Move :=
  [.make turn, .make turn, .make turn, .make turn, .remove, .remove]

/-- A review that is deleted before its last save comes back with it. -/
theorem shows_deleted_early :
    ((start ⟨[owner], []⟩).run order regret earlyRegret).removing = .done ∧
      ((start ⟨[owner], []⟩).run order regret earlyRegret).shows regret = false ∧
      ((start ⟨[owner], []⟩).run order regret (earlyRegret ++ [.make turn])).shows regret =
        true := by
  decide +kernel

end Crossing

end ReviewDesk.Desk
