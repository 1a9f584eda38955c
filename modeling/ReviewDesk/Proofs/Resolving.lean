import Mathlib
import ReviewDesk.Proofs.Isolation
import ReviewDesk.Proofs.Saving

/-!
# Resolving a finding

A finding is resolved by setting one flag in one row. What resolving gives does not depend on the
flags, so one finding may be resolved again and two may be resolved in any order; and of the figures
of a review, only the number of open findings looks at the flag.
-/
namespace ReviewDesk

section Keyed

variable {α β : Type} [BEq β] [LawfulBEq β] {key : α → β} {change change' : α → α}

/-- A row with a change, if it has the key. -/
def changeAt (key : α → β) (k : β) (change : α → α) (x : α) : α :=
  if key x == k then change x else x

theorem changeAt_of_eq {k : β} {x : α} (h : key x = k) : changeAt key k change x = change x :=
  if_pos (beq_iff_eq.mpr h)

theorem changeAt_of_ne {k : β} {x : α} (h : key x ≠ k) : changeAt key k change x = x :=
  if_neg (mt beq_iff_eq.mp h)

theorem key_changeAt (hkey : ∀ x, key (change x) = key x) (k : β) (x : α) :
    key (changeAt key k change x) = key x := by
  by_cases h : key x = k
  · rw [changeAt_of_eq h, hkey]
  · rw [changeAt_of_ne h]

theorem changeAt_comm (hkey : ∀ x, key (change x) = key x) (hkey' : ∀ x, key (change' x) = key x)
    (hcomm : ∀ x, change (change' x) = change' (change x)) (k k' : β) (x : α) :
    changeAt key k change (changeAt key k' change' x) =
      changeAt key k' change' (changeAt key k change x) := by
  by_cases h : key x = k
  · have hthen : key (changeAt key k' change' x) = k := (key_changeAt hkey' k' x).trans h
    rw [changeAt_of_eq hthen, changeAt_of_eq h]
    by_cases h' : key x = k'
    · rw [changeAt_of_eq h', changeAt_of_eq ((hkey x).trans h'), hcomm]
    · rw [changeAt_of_ne h', changeAt_of_ne fun he => h' ((hkey x).symm.trans he)]
  · have hthen : key (changeAt key k' change' x) ≠ k := fun he =>
      h ((key_changeAt hkey' k' x).symm.trans he)
    rw [changeAt_of_ne hthen, changeAt_of_ne h]

theorem changeAt_self (hkey : ∀ x, key (change x) = key x)
    (hself : ∀ x, change (change x) = change x) (k : β) (x : α) :
    changeAt key k change (changeAt key k change x) = changeAt key k change x := by
  by_cases h : key x = k
  · rw [changeAt_of_eq h, changeAt_of_eq ((hkey x).trans h), hself]
  · rw [changeAt_of_ne h, changeAt_of_ne h]

theorem find_map_changeAt (hkey : ∀ x, key (change x) = key x) (k i : β) (rows : List α) :
    (rows.map (changeAt key k change)).find? (key · == i) =
      (rows.find? (key · == i)).map (changeAt key k change) := by
  rw [List.find?_map]
  simp only [Function.comp_def, key_changeAt hkey]

/-- Of rows with distinct keys, one is changed. -/
theorem exists_map_changeAt (change : α → α) {rows : List α} (h : (rows.map key).Nodup) {x : α}
    (hx : x ∈ rows) :
    ∃ before after, rows = before ++ x :: after ∧
      rows.map (changeAt key (key x) change) = before ++ change x :: after := by
  obtain ⟨before, after, rfl⟩ := List.append_of_mem hx
  rw [List.map_append, List.map_cons, List.nodup_middle, List.nodup_cons, List.mem_append,
    not_or] at h
  have hothers {ys : List α} (hys : key x ∉ ys.map key) :
      ys.map (changeAt key (key x) change) = ys := by
    refine (List.map_congr_left fun y hy => ?_).trans (List.map_id ys)
    exact changeAt_of_ne fun he => hys (he ▸ List.mem_map_of_mem hy)
  refine ⟨before, after, rfl, ?_⟩
  rw [List.map_append, List.map_cons, hothers h.1.1, hothers h.1.2, changeAt_of_eq rfl]

end Keyed

/-- The finding with its flag set. -/
def Finding.resolved (f : Finding) : Finding := { f with isResolved := true }

theorem Finding.id_resolved (f : Finding) : f.resolved.id = f.id := rfl

theorem Finding.resolved_changeAt (finding : Uuid) (f : Finding) :
    (changeAt Finding.id finding Finding.resolved f).resolved = f.resolved := by
  by_cases h : f.id = finding
  · rw [changeAt_of_eq h]
    rfl
  · rw [changeAt_of_ne h]

namespace Review

variable {r : Review} {f : Finding} {finding : Uuid}

/-- The review with the flag of a finding set. -/
def resolve (finding : Uuid) (r : Review) : Review :=
  { r with findings := r.findings.map (changeAt Finding.id finding Finding.resolved) }

theorem id_resolve (finding : Uuid) (r : Review) : (r.resolve finding).id = r.id := rfl

theorem reviewerId_resolve (finding : Uuid) (r : Review) :
    (r.resolve finding).reviewerId = r.reviewerId := rfl

theorem findFinding_resolve (finding id : Uuid) (r : Review) :
    (r.resolve finding).findFinding id =
      (r.findFinding id).map (changeAt Finding.id finding Finding.resolved) :=
  find_map_changeAt Finding.id_resolved finding id r.findings

theorem resolve_comm (finding finding' : Uuid) (r : Review) :
    (r.resolve finding').resolve finding = (r.resolve finding).resolve finding' := by
  simp only [resolve, List.map_map]
  refine congrArg (fun findings => { r with findings }) (List.map_congr_left fun f _ => ?_)
  exact changeAt_comm Finding.id_resolved Finding.id_resolved (fun _ => rfl) finding finding' f

theorem resolve_self (finding : Uuid) (r : Review) :
    (r.resolve finding).resolve finding = r.resolve finding := by
  simp only [resolve, List.map_map]
  refine congrArg (fun findings => { r with findings }) (List.map_congr_left fun f _ => ?_)
  exact changeAt_self Finding.id_resolved (fun _ => rfl) finding f

/-- What does not look at the flag is counted as before. -/
theorem countP_resolve (finding : Uuid) {p : Finding → Bool} (hp : ∀ f, p f.resolved = p f) :
    (r.resolve finding).findings.countP p = r.findings.countP p := by
  rw [resolve, List.countP_map]
  refine List.countP_congr fun f _ => ?_
  by_cases h : f.id = finding
  · rw [Function.comp_apply, changeAt_of_eq h, hp]
  · rw [Function.comp_apply, changeAt_of_ne h]

theorem countP_issues_resolve (finding : Uuid) {p : Issue → Bool}
    (hp : ∀ f : Finding, p f.resolved.toIssue = p f.toIssue) :
    (r.resolve finding).issues.countP p = r.issues.countP p := by
  rw [issues, issues, List.countP_map, List.countP_map]
  exact countP_resolve finding hp

theorem exists_findings_resolve (hids : (r.findings.map (·.id)).Nodup)
    (hf : r.findFinding finding = some f) :
    f.id = finding ∧ ∃ fs gs, r.findings = fs ++ f :: gs ∧
      (r.resolve finding).findings = fs ++ f.resolved :: gs := by
  obtain rfl : f.id = finding := eq_of_beq (List.find?_some hf :)
  exact ⟨rfl, exists_map_changeAt Finding.resolved hids (List.mem_of_find?_eq_some hf)⟩

/-- Of the figures of a review, the number of open findings is the only one that changes. -/
theorem insightsOf_resolve (hids : (r.findings.map (·.id)).Nodup)
    (hf : r.findFinding finding = some f) :
    ∃ n, (Desk.insightsOf r).unresolved = n + (if f.isResolved then 0 else 1) ∧
      Desk.insightsOf (r.resolve finding) = { Desk.insightsOf r with unresolved := n } := by
  have hseverity (s : Severity) := countP_issues_resolve (r := r) finding
    (p := (·.severity == s)) fun _ => rfl
  have hcategory (c : Category) := countP_issues_resolve (r := r) finding
    (p := (·.category == c)) fun _ => rfl
  have hsecurity := countP_resolve (r := r) finding (p := (·.isSecurityRelated)) fun _ => rfl
  obtain ⟨-, fs, gs, hfindings, hresolved⟩ := exists_findings_resolve hids hf
  refine ⟨(Desk.insightsOf (r.resolve finding)).unresolved, ?_, ?_⟩
  · rw [Desk.insightsOf, Desk.insightsOf]
    dsimp only
    rw [hfindings, hresolved]
    cases hflag : f.isResolved <;> simp [hflag, Finding.resolved, Nat.add_assoc]
  · simp only [Desk.insightsOf, Issue.severityCounts, Issue.categoryCounts, Hiring.assess,
      Issue.countOf, hseverity, hcategory, hsecurity]
    rfl

end Review

namespace Store

variable {s : Store} {review finding : Uuid} {r : Review} {f : Finding}

/-- The keys of the tables: no two reviews and no two findings have the same identifier. -/
structure DistinctKeys (s : Store) : Prop where
  reviews : (s.reviews.map (·.id)).Nodup
  findings : (s.reviews.flatMap fun r => r.findings.map (·.id)).Nodup

theorem DistinctKeys.nodup_findings (hs : s.DistinctKeys) (hr : r ∈ s.reviews) :
    (r.findings.map (·.id)).Nodup :=
  (List.nodup_flatMap.mp hs.findings).1 r hr

/-- The finding of a review. -/
def finding? (review finding : Uuid) (s : Store) : Option Finding :=
  (s.getReview review).bind (·.findFinding finding)

/-- The store with the flag of a finding set. -/
def resolve (review finding : Uuid) (s : Store) : Store :=
  { s with reviews := s.reviews.map (changeAt Review.id review (·.resolve finding)) }

theorem setResolved_eq (review finding : Uuid) (s : Store) :
    (s.setResolved review finding true).2 = s.resolve review finding := rfl

theorem resolve_comm (review finding review' finding' : Uuid) (s : Store) :
    (s.resolve review' finding').resolve review finding =
      (s.resolve review finding).resolve review' finding' := by
  simp only [resolve, List.map_map]
  refine congrArg (Store.mk s.accounts) (List.map_congr_left fun r _ => ?_)
  exact changeAt_comm (Review.id_resolve finding) (Review.id_resolve finding')
    (Review.resolve_comm finding finding') review review' r

theorem resolve_self (review finding : Uuid) (s : Store) :
    (s.resolve review finding).resolve review finding = s.resolve review finding := by
  simp only [resolve, List.map_map]
  refine congrArg (Store.mk s.accounts) (List.map_congr_left fun r _ => ?_)
  exact changeAt_self (Review.id_resolve finding) (Review.resolve_self finding) review r

theorem getReview_resolve (review finding id : Uuid) (s : Store) :
    (s.resolve review finding).getReview id =
      (s.getReview id).map (changeAt Review.id review (·.resolve finding)) :=
  find_map_changeAt (Review.id_resolve finding) review id s.reviews

theorem finding?_resolve (hf : s.finding? review finding = some f) :
    (s.resolve review finding).finding? review finding = some f.resolved := by
  obtain ⟨r, hr, hfound⟩ := Option.bind_eq_some_iff.mp hf
  have hid : r.id = review := eq_of_beq (List.find?_some hr :)
  have hfid : f.id = finding := eq_of_beq (List.find?_some hfound :)
  rw [finding?, getReview_resolve, hr, Option.map_some, changeAt_of_eq hid, Option.bind_some,
    Review.findFinding_resolve, hfound, Option.map_some, changeAt_of_eq hfid]

/-- One store is the other with the flag of one finding set. -/
inductive Flagged (review finding : Uuid) (f : Finding) : Store → Store → Prop where
  | mk {accounts : List Account} {before after : List Review} {r : Review} {fs gs : List Finding}
      (hr : r.id = review) (hf : f.id = finding) (hfindings : r.findings = fs ++ f :: gs) :
      Flagged review finding f ⟨accounts, before ++ r :: after⟩
        ⟨accounts, before ++ { r with findings := fs ++ f.resolved :: gs } :: after⟩

theorem flagged_resolve (hs : s.DistinctKeys) (hr : s.getReview review = some r)
    (hf : r.findFinding finding = some f) :
    Flagged review finding f s (s.resolve review finding) := by
  have hmem : r ∈ s.reviews := List.mem_of_find?_eq_some hr
  obtain rfl : r.id = review := eq_of_beq (List.find?_some hr :)
  obtain ⟨before, after, hreviews, hchanged⟩ :=
    exists_map_changeAt (Review.resolve finding) hs.reviews hmem
  obtain ⟨hid, fs, gs, hfindings, hresolved⟩ :=
    Review.exists_findings_resolve (hs.nodup_findings hmem) hf
  have hbefore : s = ⟨s.accounts, before ++ r :: after⟩ := by rw [← hreviews]
  have hafter : s.resolve r.id finding =
      ⟨s.accounts, before ++ { r with findings := fs ++ f.resolved :: gs } :: after⟩ := by
    rw [← hresolved]
    exact congrArg (Store.mk s.accounts) hchanged
  rw [hafter]
  nth_rewrite 1 [hbefore]
  exact .mk rfl hid hfindings

end Store

namespace Desk

variable {σ : Type} {d : Desk σ} {caller : Account} {review finding : Uuid}

/-- The review is there, and the caller may see it. -/
def MaySee (caller : Account) (review : Uuid) (s : Store) : Prop :=
  ∃ r ∈ s.getReview review, r.reviewerId = caller.id ∨ caller.isAdmin = true

/-- What resolving a finding gives. -/
def resolution (caller : Account) (review finding : Uuid) (s : Store) : Except Failure Finding :=
  match s.getReview review with
  | none => .error (.noReview review)
  | some r =>
    if r.reviewerId == caller.id || caller.isAdmin then
      match r.findFinding finding with
      | none => .error (.noFinding finding)
      | some f => .ok f.resolved
    else .error .foreignReview

/-- The desk after a finding was resolved, if it can be. -/
def resolved (caller : Account) (review finding : Uuid) (d : Desk σ) : Desk σ :=
  match resolution caller review finding d.store with
  | .ok _ => { d with store := d.store.resolve review finding }
  | .error _ => d

theorem outcome_resolveFinding (caller : Account) (review finding : Uuid) (d : Desk σ) :
    outcome (resolveFinding caller review finding) d =
      (resolution caller review finding d.store, d.resolved caller review finding) := by
  unfold resolveFinding reviewFor resolved resolution
  rw [bind_assoc, outcome_bind_ok (outcome_get d)]
  cases hr : d.store.getReview review with
  | none => rfl
  | some r =>
    obtain rfl : r.id = review := eq_of_beq (List.find?_some hr :)
    dsimp only
    split
    · rw [pure_bind]
      cases hf : r.findFinding finding with
      | none => rfl
      | some f =>
        obtain rfl : f.id = finding := eq_of_beq (List.find?_some hf :)
        dsimp only
        rw [← Store.setResolved_eq]
        rfl
    · rfl

/-- The flags make no difference to what resolving gives. -/
theorem resolution_resolve (caller : Account) (review finding review' finding' : Uuid)
    (s : Store) :
    resolution caller review finding (s.resolve review' finding') =
      resolution caller review finding s := by
  unfold resolution
  rw [Store.getReview_resolve]
  cases s.getReview review with
  | none => rfl
  | some r =>
    rw [Option.map_some]
    by_cases h : r.id = review'
    · rw [changeAt_of_eq h]
      dsimp only
      rw [Review.findFinding_resolve, Review.reviewerId_resolve]
      cases r.findFinding finding with
      | none => rfl
      | some f =>
        rw [Option.map_some]
        dsimp only
        rw [Finding.resolved_changeAt]
    · rw [changeAt_of_ne h]

theorem resolved_of_ok {g : Finding} (h : resolution caller review finding d.store = .ok g) :
    d.resolved caller review finding = { d with store := d.store.resolve review finding } := by
  rw [resolved, h]

theorem resolved_of_error {failure : Failure}
    (h : resolution caller review finding d.store = .error failure) :
    d.resolved caller review finding = d := by
  rw [resolved, h]

theorem resolution_resolved (caller caller' : Account) (review finding review' finding' : Uuid)
    (d : Desk σ) :
    resolution caller review finding (d.resolved caller' review' finding').store =
      resolution caller review finding d.store := by
  cases h : resolution caller' review' finding' d.store with
  | error failure => rw [resolved_of_error h]
  | ok g =>
    rw [resolved_of_ok h]
    exact resolution_resolve caller review finding review' finding' d.store

theorem resolved_comm (caller caller' : Account) (review finding review' finding' : Uuid)
    (d : Desk σ) :
    (d.resolved caller' review' finding').resolved caller review finding =
      (d.resolved caller review finding).resolved caller' review' finding' := by
  have hthen := resolution_resolved caller caller' review finding review' finding' d
  have hthen' := resolution_resolved caller' caller review' finding' review finding d
  cases h : resolution caller review finding d.store with
  | error failure => rw [resolved_of_error (hthen.trans h), resolved_of_error h]
  | ok g =>
    rw [resolved_of_ok (hthen.trans h), resolved_of_ok h]
    cases h' : resolution caller' review' finding' d.store with
    | error failure =>
      rw [resolved_of_ok h] at hthen'
      rw [resolved_of_error h', resolved_of_error (hthen'.trans h')]
    | ok g' =>
      rw [resolved_of_ok h] at hthen'
      rw [resolved_of_ok h', resolved_of_ok (hthen'.trans h'), Store.resolve_comm]

theorem resolved_resolved (caller : Account) (review finding : Uuid) (d : Desk σ) :
    (d.resolved caller review finding).resolved caller review finding =
      d.resolved caller review finding := by
  have hthen := resolution_resolved caller caller review finding review finding d
  cases h : resolution caller review finding d.store with
  | error failure => rw [resolved_of_error h, resolved_of_error h]
  | ok g =>
    rw [resolved_of_ok (hthen.trans h), resolved_of_ok h, Store.resolve_self]

theorem resolution_of_maySee {s : Store} {f : Finding} (h : MaySee caller review s)
    (hf : s.finding? review finding = some f) :
    resolution caller review finding s = .ok f.resolved := by
  obtain ⟨r, hr, hmay⟩ := h
  rw [Store.finding?, hr, Option.bind_some] at hf
  rw [resolution, hr]
  dsimp only
  rw [if_pos (by simpa using hmay), hf]

theorem exists_of_resolution {s : Store} {g : Finding}
    (h : resolution caller review finding s = .ok g) :
    MaySee caller review s ∧ ∃ f, s.finding? review finding = some f ∧ g = f.resolved := by
  unfold resolution at h
  cases hr : s.getReview review with
  | none => rw [hr] at h; cases h
  | some r =>
    rw [hr] at h
    dsimp only at h
    split at h
    · rename_i hmay
      cases hf : r.findFinding finding with
      | none => rw [hf] at h; cases h
      | some f =>
        rw [hf] at h
        cases h
        exact ⟨⟨r, hr, by simpa using hmay⟩, f, by rw [Store.finding?, hr]; exact hf, rfl⟩
    · cases h

/-- A review is given to its owner and to administrators. -/
theorem outcome_reviewFor_eq_ok_iff {r : Review} {d' : Desk σ} :
    outcome (reviewFor caller review) d = (.ok r, d') ↔
      d' = d ∧ d.store.getReview review = some r ∧
        (r.reviewerId = caller.id ∨ caller.isAdmin = true) := by
  rw [reviewFor, outcome_bind_ok (outcome_get d)]
  cases d.store.getReview review with
  | none => simp
  | some found =>
    dsimp only
    split
    · rename_i hmay
      simp only [Bool.or_eq_true, beq_iff_eq] at hmay
      rw [outcome_pure, Prod.mk.injEq, Except.ok.injEq, Option.some.injEq]
      constructor
      · rintro ⟨rfl, rfl⟩
        exact ⟨rfl, rfl, hmay⟩
      · rintro ⟨rfl, rfl, -⟩
        exact ⟨rfl, rfl⟩
    · rename_i hforeign
      simp only [Bool.or_eq_true, beq_iff_eq] at hforeign
      rw [outcome_fail]
      constructor
      · rintro ⟨⟩
      · rintro ⟨rfl, hfound, hmay⟩
        cases hfound
        exact absurd hmay hforeign

theorem outcome_insights {r : Review} (hr : d.store.getReview review = some r)
    (hmay : r.reviewerId = caller.id ∨ caller.isAdmin = true) :
    outcome (insights caller review) d = (.ok (insightsOf r), d) := by
  rw [insights, outcome_bind_ok (outcome_reviewFor_eq_ok_iff.mpr ⟨rfl, hr, hmay⟩), outcome_pure]

/-- What is told of a review before and after one of its findings is resolved. -/
theorem exists_insights_resolve {f : Finding} (hkeys : d.store.DistinctKeys)
    (hf : d.store.finding? review finding = some f) (h : MaySee caller review d.store) :
    ∃ i n, outcome (insights caller review) d = (.ok i, d) ∧
      i.unresolved = n + (if f.isResolved then 0 else 1) ∧
      outcome (insights caller review) { d with store := d.store.resolve review finding } =
        (.ok { i with unresolved := n }, { d with store := d.store.resolve review finding }) := by
  obtain ⟨r, hr, hmay⟩ := h
  have hid : r.id = review := eq_of_beq (List.find?_some hr :)
  have hafter : (d.store.resolve review finding).getReview review = some (r.resolve finding) := by
    rw [Store.getReview_resolve, hr, Option.map_some, changeAt_of_eq hid]
  rw [Store.finding?, hr, Option.bind_some] at hf
  obtain ⟨n, hopen, hfigures⟩ := Review.insightsOf_resolve
    (hkeys.nodup_findings (List.mem_of_find?_eq_some hr)) hf
  have hthen : outcome (insights caller review) { d with store := d.store.resolve review finding } =
      (.ok (insightsOf (r.resolve finding)), { d with store := d.store.resolve review finding }) :=
    outcome_insights hafter hmay
  rw [hfigures] at hthen
  exact ⟨insightsOf r, n, outcome_insights hr hmay, hopen, hthen⟩

/-- To resolve a finding gives a failure and changes nothing, or it sets the flag of the one finding
with this identifier in this review, changes nothing else and gives the finding as it then stands in
the store; the second if and only if the caller may see the review and the finding is in it. To
resolve it again is to resolve it once. Of any two findings and any two callers, each is given what
it is given alone, and the order makes no difference to the desk. Whoever may see the review is told
the same figures as before, but that one finding less is open if this one was. -/
theorem resolveFinding_sets_flag (d : Desk σ) (hkeys : d.store.DistinctKeys) (caller : Account)
    (review finding : Uuid) :
    ((∃ failure, outcome (resolveFinding caller review finding) d = (.error failure, d)) ∨
      ∃ f s, outcome (resolveFinding caller review finding) d =
          (.ok f.resolved, { d with store := s }) ∧
        d.store.Flagged review finding f s ∧ s.finding? review finding = some f.resolved ∧
        ∀ viewer, MaySee viewer review d.store → ∃ i n,
          outcome (insights viewer review) d = (.ok i, d) ∧
          i.unresolved = n + (if f.isResolved then 0 else 1) ∧
          outcome (insights viewer review) { d with store := s } =
            (.ok { i with unresolved := n }, { d with store := s })) ∧
    ((∃ g d', outcome (resolveFinding caller review finding) d = (.ok g, d')) ↔
      MaySee caller review d.store ∧ (d.store.finding? review finding).isSome = true) ∧
    outcome (resolveFinding caller review finding)
        (outcome (resolveFinding caller review finding) d).2 =
      outcome (resolveFinding caller review finding) d ∧
    ∀ caller' review' finding',
      (outcome (resolveFinding caller review finding)
          (outcome (resolveFinding caller' review' finding') d).2).1 =
        (outcome (resolveFinding caller review finding) d).1 ∧
      (outcome (resolveFinding caller review finding)
          (outcome (resolveFinding caller' review' finding') d).2).2 =
        (outcome (resolveFinding caller' review' finding')
          (outcome (resolveFinding caller review finding) d).2).2 := by
  simp only [outcome_resolveFinding]
  refine ⟨?_, ⟨fun ⟨g, d', hok⟩ => ?_, fun ⟨hmay, hsome⟩ => ?_⟩, ?_,
    fun caller' review' finding' => ?_⟩
  · cases h : resolution caller review finding d.store with
    | error failure => exact .inl ⟨failure, by rw [resolved_of_error h]⟩
    | ok g =>
      obtain ⟨hmay, f, hf, rfl⟩ := exists_of_resolution h
      refine .inr ⟨f, d.store.resolve review finding, by rw [resolved_of_ok h], ?_, ?_,
        fun viewer hviewer => exists_insights_resolve hkeys hf hviewer⟩
      · obtain ⟨r, hr, hfound⟩ := Option.bind_eq_some_iff.mp hf
        exact Store.flagged_resolve hkeys hr hfound
      · exact Store.finding?_resolve hf
  · obtain ⟨hmay, f, hf, -⟩ := exists_of_resolution (Prod.mk.inj hok).1
    exact ⟨hmay, by rw [hf]; rfl⟩
  · obtain ⟨f, hf⟩ := Option.isSome_iff_exists.mp hsome
    exact ⟨_, _, by rw [resolution_of_maySee hmay hf]⟩
  · rw [resolution_resolved, resolved_resolved]
  · rw [resolution_resolved]
    exact ⟨rfl, resolved_comm caller caller' review finding review' finding' d⟩

/-- The account that has the reviews of the busy desk. -/
def busyOwner : Account where
  id := Uuid.ofNat 1
  username := "ada"
  email := "ada@example.com"
  createdAt := ⟨0, some 0⟩
  updatedAt := ⟨0, some 0⟩

theorem distinctKeys_busyDesk : busyDesk.store.DistinctKeys where
  reviews := by decide +kernel
  findings := by decide +kernel

/-- The finding of the first review is resolved there; in the second review it is not found. -/
theorem resolveFinding_sets_flag_busy :
    (∃ f s, outcome (resolveFinding busyOwner (Uuid.ofNat 2) (Uuid.ofNat 3)) busyDesk =
        (.ok f.resolved, { busyDesk with store := s }) ∧
      busyDesk.store.Flagged (Uuid.ofNat 2) (Uuid.ofNat 3) f s) ∧
    ¬∃ g d', outcome (resolveFinding busyOwner (Uuid.ofNat 5) (Uuid.ofNat 3)) busyDesk =
      (.ok g, d') := by
  have hsets := resolveFinding_sets_flag busyDesk distinctKeys_busyDesk busyOwner
  have hmay : MaySee busyOwner (Uuid.ofNat 2) busyDesk.store := ⟨_, rfl, .inl rfl⟩
  constructor
  · obtain ⟨hends, hok, -⟩ := hsets (Uuid.ofNat 2) (Uuid.ofNat 3)
    obtain ⟨g, d', hgives⟩ := hok.mpr ⟨hmay, by decide +kernel⟩
    obtain ⟨failure, hfails⟩ | ⟨f, s, hresolved, hflagged, -⟩ := hends
    · rw [hfails] at hgives
      cases hgives
    · exact ⟨f, s, hresolved, hflagged⟩
  · rw [(hsets (Uuid.ofNat 5) (Uuid.ofNat 3)).2.1]
    rintro ⟨-, hsome⟩
    revert hsome
    decide +kernel

end Desk

end ReviewDesk
