import Mathlib
import ReviewDesk.Proofs.Chronology
import ReviewDesk.Proofs.ReviewRules

/-!
# Reviews by the time they were opened

The store knows the time at which a review was opened as a text. Where all these times are times of
UTC, counting and sorting by the texts is counting and sorting by the times, and the figures for a
day, a week and a month are ordered. They are times of UTC in every store that the desk gets to
while its clock shows UTC. What the figure for today counts is the day without its first moment.
-/
namespace ReviewDesk

/-! ## Moments around a moment -/

namespace Moment

variable {m now : Moment}

theorem IsUtc.storable (h : m.IsUtc) : m.Storable := by
  refine ⟨h.range, fun offset hoffset => ?_⟩
  obtain rfl := Option.some.inj (h.zone.symm.trans hoffset)
  decide

theorem inRange_iff : m.inRange = true ↔ firstWall ≤ m.wall ∧ m.wall ≤ lastWall := by
  rw [inRange, Bool.and_eq_true, decide_eq_true_eq, decide_eq_true_eq]

/-- The start of a day is on the calendar if the day is. -/
theorem IsUtc.startOfDay (h : m.IsUtc) : m.startOfDay.IsUtc := by
  refine ⟨h.zone, inRange_iff.mpr ?_⟩
  have hbounds := inRange_iff.mp h.range
  have hday : day = 86400000000 := rfl
  rw [firstWall_eq, lastWall_eq, hday] at hbounds ⊢
  simp only [Moment.startOfDay, hday]
  omega

/-- Times back to one that is on the calendar are on the calendar. -/
theorem IsUtc.earlier (h : m.IsUtc) {back n : Int}
    (hback : (m.addMicroseconds back).inRange = true) (hle : back ≤ n) (hn : n ≤ 0) :
    (m.addMicroseconds n).IsUtc := by
  refine ⟨h.zone, inRange_iff.mpr ?_⟩
  have hbounds := inRange_iff.mp h.range
  have hbounds' := inRange_iff.mp hback
  simp only [addMicroseconds] at hbounds' ⊢
  omega

/-- The date in UTC: year, month and day. -/
def utcDate (m : Moment) : Int × Int × Int := dateOfDays (m.instant / day)

theorem dateOfDays_injective : Function.Injective dateOfDays := by
  intro a b h
  rw [← daysOfDate_dateOfDays a, h, daysOfDate_dateOfDays]

/-- What is not in the future has today's date if it is not before the day began. -/
theorem utcDate_eq_iff (hnow : now.IsUtc) (h : m.instant ≤ now.instant) :
    m.utcDate = now.utcDate ↔ now.startOfDay.instant ≤ m.instant := by
  unfold utcDate
  rw [dateOfDays_injective.eq_iff, hnow.startOfDay.instant]
  rw [hnow.instant] at h ⊢
  have hday : day = 86400000000 := rfl
  simp only [Moment.startOfDay, hday]
  omega

end Moment

namespace Store

variable {s s' : Store}

/-- Every review was opened at a moment of UTC. -/
def InUtc (s : Store) : Prop := ∀ r ∈ s.reviews, r.createdAt.IsUtc

namespace InUtc

/-! ## Counting and sorting by texts -/

theorem countCreatedAfter (hs : s.InUtc) {m : Moment} (hm : m.IsUtc) :
    s.countCreatedAfter m = s.reviews.countP fun r => m.instant < r.createdAt.instant := by
  refine List.countP_congr fun r hr => ?_
  rw [decide_eq_true_eq, decide_eq_true_eq]
  exact Moment.storedText_lt_iff hm (hs r hr)

/-- After a later moment there are no more reviews. -/
theorem countCreatedAfter_anti (hs : s.InUtc) {m n : Moment} (hm : m.IsUtc) (hn : n.IsUtc)
    (h : m.instant ≤ n.instant) : s.countCreatedAfter n ≤ s.countCreatedAfter m := by
  rw [hs.countCreatedAfter hm, hs.countCreatedAfter hn]
  refine List.countP_mono_left fun r _ hlater => ?_
  rw [decide_eq_true_eq] at hlater ⊢
  omega

theorem pairwise_newestFirst {reviews : List Review} (hs : ∀ r ∈ reviews, r.createdAt.IsUtc) :
    (newestFirst reviews).Pairwise fun a b => b.createdAt.instant ≤ a.createdAt.instant := by
  have hsorted : (newestFirst reviews).Pairwise fun a b =>
      decide (b.createdAt.storedText ≤ a.createdAt.storedText) = true := by
    apply List.pairwise_mergeSort
    · intro a b c hab hbc
      exact decide_eq_true (le_trans (of_decide_eq_true hbc) (of_decide_eq_true hab))
    · intro a b
      simpa using le_total b.createdAt.storedText a.createdAt.storedText
  have hmem {r : Review} (hr : r ∈ newestFirst reviews) : r.createdAt.IsUtc :=
    hs r ((List.mergeSort_perm _ _).mem_iff.mp hr)
  refine hsorted.imp_of_mem fun {a b} ha hb hle => ?_
  have hnot := not_lt.mpr (of_decide_eq_true hle)
  rw [Moment.storedText_lt_iff (hmem ha) (hmem hb)] at hnot
  exact not_lt.mp hnot

/-! ## Times of UTC and what keeps them -/

theorem of_mem (hs : s.InUtc)
    (h : ∀ r ∈ s'.reviews, ∃ q ∈ s.reviews, r.createdAt = q.createdAt) : s'.InUtc := by
  intro r hr
  obtain ⟨q, hq, hsame⟩ := h r hr
  rw [hsame]
  exact hs q hq

theorem of_subset (hs : s.InUtc) (h : s'.reviews ⊆ s.reviews) : s'.InUtc :=
  hs.of_mem fun r hr => ⟨r, h hr, rfl⟩

/-- A time of UTC is kept as it is. -/
theorem saveReview {r : Review} (hs : s.InUtc) (hr : r.createdAt.IsUtc)
    (h : s.saveReview r = .ok s') : s'.InUtc := by
  obtain ⟨-, -, -, rfl⟩ := saveReview_eq_ok_iff.mp h
  intro q hq
  rcases mem_putReview hq with rfl | hq
  · rw [(keptAs_kept r).createdAt hr.storable]
    exact hr
  · exact hs q hq

theorem setResolved (hs : s.InUtc) (review finding : Uuid) (flag : Bool) :
    (s.setResolved review finding flag).2.InUtc := by
  refine hs.of_mem fun r hr => ?_
  obtain ⟨q, hq, rfl⟩ := List.mem_map.mp hr
  refine ⟨q, hq, ?_⟩
  split <;> rfl

theorem step {fit : Review → Prop} (hs : s.InUtc) (hfit : ∀ r, fit r → r.createdAt.IsUtc)
    (h : Step fit s s') : s'.InUtc := by
  cases h with
  | join _ _ h =>
    obtain ⟨-, rfl⟩ := saveAccount_eq_ok h
    exact hs
  | write _ _ h =>
    obtain ⟨-, rfl⟩ := saveAccount_eq_ok h
    exact hs
  | leave id => exact hs.of_subset (List.filter_subset_self _)
  | count now id hc =>
    obtain ⟨f, hf, -⟩ := recounted_run hc now id s
    rw [hf]
    exact hs
  | keep hr h => exact hs.saveReview (hfit _ hr) h
  | drop id => exact hs.of_subset (List.filter_subset_self _)
  | resolve review finding flag => exact hs.setResolved review finding flag

end InUtc

end Store

/-- The stores that come about from the empty one while the clocks of the desks show UTC. -/
def ReachableInUtc : Store → Prop := ReachableBy fun now _ => now.IsUtc

theorem ReachableInUtc.inUtc {s : Store} (hs : ReachableInUtc s) : s.InUtc := by
  refine hs.induct (by simp [Store.InUtc]) ?_
  intro now op hnow s s' h _ hs
  refine hs.step (fun r hr => ?_) h
  rw [hr.opened]
  exact hnow

namespace Desk

variable {σ : Type} {d : Desk σ}

theorem outcome_takeCensus (d : Desk σ) :
    outcome takeCensus d =
      if (d.now.addMicroseconds (-30 * Moment.day)).inRange then (.ok (census d.now d.store), d)
      else (.error .dateOutOfRange, d) := by
  rw [takeCensus, outcome_bind_ok (outcome_clock d)]
  split
  · rw [outcome_bind_ok (outcome_get d), outcome_pure]
  · rw [outcome_fail]

/-- The longer a time, the more reviews. -/
theorem census_ordered (hs : d.store.InUtc) (hnow : d.now.IsUtc)
    (hrange : (d.now.addMicroseconds (-30 * Moment.day)).inRange = true) :
    (census d.now d.store).reviewsToday ≤ (census d.now d.store).reviewsThisWeek ∧
      (census d.now d.store).reviewsThisWeek ≤ (census d.now d.store).reviewsThisMonth ∧
      (census d.now d.store).reviewsThisMonth ≤ (census d.now d.store).reviews := by
  have hday : Moment.day = 86400000000 := rfl
  have hweek := hnow.earlier (n := -7 * Moment.day) hrange (by decide) (by decide)
  have hmonth := hnow.earlier (n := -30 * Moment.day) hrange (le_refl _) (by decide)
  refine ⟨hs.countCreatedAfter_anti hweek hnow.startOfDay ?_,
    hs.countCreatedAfter_anti hmonth hweek ?_, List.countP_le_length⟩
  · rw [hweek.instant, hnow.startOfDay.instant]
    simp only [Moment.addMicroseconds, Moment.startOfDay, hday]
    omega
  · rw [hmonth.instant, hweek.instant]
    simp only [Moment.addMicroseconds, hday]
    omega

/-- The reviews of a day that goes on are those opened as it began and those opened later. -/
theorem countP_utcDate {reviews : List Review} (hs : ∀ r ∈ reviews, r.createdAt.IsUtc)
    {now : Moment} (hnow : now.IsUtc) (hpast : ∀ r ∈ reviews, r.createdAt.instant ≤ now.instant) :
    reviews.countP (fun r => r.createdAt.utcDate = now.utcDate) =
      reviews.countP (fun r => now.startOfDay.instant < r.createdAt.instant) +
        reviews.countP fun r => r.createdAt = now.startOfDay := by
  induction reviews with
  | nil => rfl
  | cons r rest ih =>
    obtain ⟨hr, hs⟩ := List.forall_mem_cons.mp hs
    obtain ⟨hbefore, hpast⟩ := List.forall_mem_cons.mp hpast
    have hrest := ih hs hpast
    have hdate := Moment.utcDate_eq_iff hnow hbefore
    have hstart := hr.eq_iff hnow.startOfDay
    simp only [List.countP_cons, decide_eq_true_eq, hdate, hstart]
    split_ifs <;> omega

/-- A store of times of UTC is counted and listed by time: after every moment of UTC as many reviews
are counted as were opened later, an account has its reviews listed from the newest to the oldest,
with a limit only the first of them, and the figures for longer times are greater. A limit has to
fit in 64 bits, and the figures go back thirty days, which have to be on the calendar. -/
theorem reviews_inOrder_of_time {s : Store} (hs : s.InUtc) :
    (∀ m : Moment, m.IsUtc → s.countCreatedAfter m =
      s.reviews.countP fun r => m.instant < r.createdAt.instant) ∧
    (∀ id, ∃ all, s.reviewsOf id none = .ok all ∧
      all.Perm (s.reviews.filter (·.reviewerId == id)) ∧
      all.Pairwise (fun a b => b.createdAt.instant ≤ a.createdAt.instant) ∧
      ∀ k : Int, 0 ≤ k →
        (k < 2 ^ 63 → ∃ front, s.reviewsOf id (some k) = .ok front ∧ front <+: all ∧
          (front.length : Int) = min k all.length) ∧
        (2 ^ 63 ≤ k → s.reviewsOf id (some k) = .error .integerOverflow)) ∧
    ∀ {σ : Type} (d : Desk σ), d.store = s → d.now.IsUtc →
      ((d.now.addMicroseconds (-30 * Moment.day)).inRange = true →
        ∃ c, (outcome takeCensus d).1 = .ok c ∧ c.reviewsToday ≤ c.reviewsThisWeek ∧
          c.reviewsThisWeek ≤ c.reviewsThisMonth ∧ c.reviewsThisMonth ≤ c.reviews ∧
          c.reviews = s.reviews.length) ∧
      ((d.now.addMicroseconds (-30 * Moment.day)).inRange = false →
        (outcome takeCensus d).1 = .error .dateOutOfRange) := by
  refine ⟨fun m hm => hs.countCreatedAfter hm, fun id => ?_, ?_⟩
  · refine ⟨_, rfl, List.mergeSort_perm _ _,
      Store.InUtc.pairwise_newestFirst fun r hr => hs r (List.mem_filter.mp hr).1, ?_⟩
    intro k hk
    constructor
    · intro hlt
      have hfits : Store.fits k = true := (Store.fits_iff k).mpr (by omega)
      refine ⟨_, ?_, List.take_prefix k.toNat _, ?_⟩
      · simp [Store.reviewsOf, hfits, not_lt.mpr hk]
      · rw [List.length_take]
        omega
    · intro hge
      have hfits : Store.fits k = false := by
        rw [Bool.eq_false_iff, ne_eq, Store.fits_iff]
        omega
      simp [Store.reviewsOf, hfits]
  · rintro σ d rfl hnow
    rw [outcome_takeCensus]
    constructor
    · intro hrange
      rw [if_pos hrange]
      obtain ⟨htoday, hweek, hmonth⟩ := census_ordered hs hnow hrange
      exact ⟨_, rfl, htoday, hweek, hmonth, rfl⟩
    · intro hrange
      rw [if_neg (by rw [hrange]; decide)]

/-- Three reviews of one account, opened around the turn of a day. -/
def aroundMidnight : Store :=
  let review (n : Nat) (wall : Int) : Review :=
    { id := Uuid.ofNat n, reviewerId := Uuid.ofNat 1, title := "Review", createdAt := .utc wall }
  { reviews := [review 2 0, review 3 999999, review 4 (-1)] }

theorem reviews_inOrder_of_time_aroundMidnight :
    aroundMidnight.InUtc ∧ aroundMidnight.countCreatedAfter (.utc 0) = 1 ∧
      ∃ all, aroundMidnight.reviewsOf (Uuid.ofNat 1) none = .ok all ∧ all.length = 3 ∧
        all.Pairwise fun a b => b.createdAt.instant ≤ a.createdAt.instant := by
  have hutc : aroundMidnight.InUtc := by
    unfold Store.InUtc
    decide
  obtain ⟨hcount, hlist, -⟩ := reviews_inOrder_of_time hutc
  obtain ⟨all, hall, hperm, hsorted, -⟩ := hlist (Uuid.ofNat 1)
  exact ⟨hutc, (hcount (.utc 0) (by decide)).trans (by decide), all, hall,
    hperm.length_eq.trans (by decide), hsorted⟩

/-- With a limit beyond 64 bits nothing is listed. -/
theorem reviewsOf_beyond : aroundMidnight.InUtc ∧
    aroundMidnight.reviewsOf (Uuid.ofNat 1) (some 9223372036854775808) =
      .error .integerOverflow := by
  refine ⟨?_, rfl⟩
  unfold Store.InUtc
  decide

/-- The figure for today leaves out the reviews that were opened at the very start of the day. So it
is the number of the reviews that have today's date if and only if there are none of these, and the
thirty days that the figures go back are on the calendar. -/
theorem reviewsToday_eq_iff (hs : ReachableInUtc d.store) (hnow : d.now.IsUtc)
    (hpast : ∀ r ∈ d.store.reviews, r.createdAt.instant ≤ d.now.instant) :
    (∀ c, (outcome takeCensus d).1 = .ok c →
      d.store.reviews.countP (fun r => r.createdAt.utcDate = d.now.utcDate) =
        c.reviewsToday + d.store.reviews.countP fun r => r.createdAt = d.now.startOfDay) ∧
    ((∃ c, (outcome takeCensus d).1 = .ok c ∧ c.reviewsToday =
        d.store.reviews.countP fun r => r.createdAt.utcDate = d.now.utcDate) ↔
      (d.now.addMicroseconds (-30 * Moment.day)).inRange = true ∧
        ∀ r ∈ d.store.reviews, r.createdAt ≠ d.now.startOfDay) := by
  have htoday := countP_utcDate hs.inUtc hnow hpast
  rw [← hs.inUtc.countCreatedAfter hnow.startOfDay] at htoday
  rw [outcome_takeCensus]
  by_cases hrange : (d.now.addMicroseconds (-30 * Moment.day)).inRange = true
  · rw [if_pos hrange]
    refine ⟨?_, ?_⟩
    · intro c hc
      obtain rfl := Except.ok.inj hc
      exact htoday
    · have hnone : d.store.reviews.countP (fun r => r.createdAt = d.now.startOfDay) = 0 ↔
          ∀ r ∈ d.store.reviews, r.createdAt ≠ d.now.startOfDay := by
        simp [List.countP_eq_zero]
      rw [htoday, ← hnone]
      constructor
      · rintro ⟨c, hc, hsame⟩
        obtain rfl := Except.ok.inj hc
        exact ⟨hrange, Nat.left_eq_add.mp hsame⟩
      · rintro ⟨-, hzero⟩
        exact ⟨_, rfl, by rw [hzero]; rfl⟩
  · rw [if_neg hrange]
    refine ⟨fun c hc => (nomatch hc), ?_, fun h => absurd h.1 hrange⟩
    rintro ⟨c, hc, -⟩
    cases hc

/-- The store after an account has opened a review at a time of UTC. -/
def openedAt (opened : Int) : Store :=
  (Operation.runAll (Model.Script.model "script") { secret := "secret" } [
      .register "ada" "ada@example.com" "password" none,
      .createReview (Uuid.ofNat 2) "First" none []]
    { newDesk [] with now := .utc opened }).store

/-- The last microsecond of that day. -/
def eveningDesk (opened : Int) : Desk Model.Script :=
  { newDesk [] with store := openedAt opened, now := .utc 86399999999 }

theorem forall_createdAt {reviews : List Review} {m : Moment} (h : reviews.map (·.createdAt) = [m])
    {P : Moment → Prop} (hm : P m) : ∀ r ∈ reviews, P r.createdAt := by
  have hall : ∀ t ∈ reviews.map (·.createdAt), P t := by
    rw [h]
    exact List.forall_mem_singleton.mpr hm
  exact List.forall_mem_map.mp hall

/-- A review of the first microsecond after the start of a day is counted until the last. -/
theorem reviewsToday_eq_iff_firstMicrosecond :
    ReachableInUtc (openedAt 1) ∧ (openedAt 1).reviews.map (·.createdAt) = [.utc 1] ∧
      ∃ c, (outcome takeCensus (eveningDesk 1)).1 = .ok c ∧
        c.reviewsToday = (openedAt 1).reviews.countP
          fun r => r.createdAt.utcDate = (Moment.utc 86399999999).utcDate := by
  have hreachable : ReachableInUtc (openedAt 1) :=
    .after _ _ _ _ (by decide +kernel) (.after _ _ _ _ (by decide) .empty)
  have htimes : (openedAt 1).reviews.map (·.createdAt) = [.utc 1] := by decide +kernel
  have hpast : ∀ r ∈ (openedAt 1).reviews,
      r.createdAt.instant ≤ (Moment.utc 86399999999).instant :=
    forall_createdAt htimes (P := fun m => m.instant ≤ _) (by decide)
  have hlater : ∀ r ∈ (openedAt 1).reviews,
      r.createdAt ≠ (Moment.utc 86399999999).startOfDay :=
    forall_createdAt htimes (P := fun m => m ≠ _) (by decide)
  have htoday := reviewsToday_eq_iff (d := eveningDesk 1) hreachable (by decide) hpast
  exact ⟨hreachable, htimes, htoday.2.mpr ⟨by decide, hlater⟩⟩

/-- A review of the very start of a day is not counted on that day. -/
theorem reviewsToday_startOfDay :
    ReachableInUtc (openedAt 0) ∧ (openedAt 0).reviews.map (·.createdAt) = [.utc 0] ∧
      (outcome takeCensus (eveningDesk 0)).1.map (·.reviewsToday) = .ok 0 ∧
      (Moment.utc 0).utcDate = (eveningDesk 0).now.utcDate := by
  have htimes : (openedAt 0).reviews.map (·.createdAt) = [.utc 0] := by decide +kernel
  refine ⟨.after _ _ _ _ (by decide +kernel) (.after _ _ _ _ (by decide) .empty), htimes, ?_,
    by decide⟩
  have hnone : (openedAt 0).countCreatedAfter (eveningDesk 0).now.startOfDay = 0 := by
    rw [Store.countCreatedAfter, List.countP_eq_zero]
    exact forall_createdAt htimes (P := fun m => ¬decide (_ < m.storedText) = true)
      (by decide +kernel)
  rw [outcome_takeCensus, if_pos (by decide)]
  exact congrArg Except.ok hnone

end Desk

end ReviewDesk
