import Mathlib.Data.List.Forall2
import ReviewDesk.Service.Table

/-!
# Where a request leads

A path runs along the pattern of a route if it has the same fixed segments, whatever stands in the
slots. Two patterns with different fixed segments in one place have no path in common, and that is
so for any two routes of one method that are open to different callers: the path and the method of
a request alone decide who may make it, in whatever order the routes are tried.
-/
namespace ReviewDesk.Service

variable {σ : Type}

/-! ## Paths and patterns -/

/-- A path has the fixed segments of a pattern. -/
def Along (pattern path : List String) : Prop :=
  List.Forall₂ (fun p s => slotName? p = none → s = p) pattern path

theorem along_of_matchSegments {pattern path : List String}
    (h : (matchSegments pattern path).isSome) : Along pattern path := by
  fun_induction matchSegments pattern path with
  | case1 => exact .nil
  | case2 => simp at h
  | case3 p pattern s path name hname hs ih =>
    refine .cons (fun hp => ?_) (ih (by simpa using h))
    rw [hname] at hp
    cases hp
  | case4 p pattern s path hname hs ih => exact .cons (fun _ => (eq_of_beq hs).symm) (ih h)
  | case5 => simp at h
  | case6 => simp at h

/-- Taking a line end away keeps a path along a pattern that has none at its own end. -/
theorem Along.dropLastLineEnd {pattern path : List String} (h : Along pattern path)
    (hend : ∀ p ∈ pattern.getLast?, dropLineEnd p = p) :
    Along pattern (dropLastLineEnd path) := by
  induction h with
  | nil => exact .nil
  | @cons p s pattern path hs hrest ih =>
    cases hrest with
    | nil =>
      refine .cons (fun hp => ?_) .nil
      rw [hs hp]
      exact hend p (by simp)
    | cons ht hrest =>
      refine .cons hs (ih fun q hq => hend q ?_)
      rwa [List.getLast?_cons_cons]

/-- Somewhere two patterns have different fixed segments, or they differ in length. -/
def apart : List String → List String → Bool
  | [], [] => false
  | p :: ps, q :: qs =>
    ((slotName? p).isNone && (slotName? q).isNone && p != q) || apart ps qs
  | _, _ => true

theorem not_along_of_apart {ps qs path : List String} (h : apart ps qs = true)
    (hp : Along ps path) : ¬ Along qs path := by
  intro hq
  induction hp generalizing qs with
  | nil => cases hq with | nil => simp [apart] at h
  | cons hs _ ih =>
    cases hq with
    | cons ht hrest =>
      simp only [apart, Bool.or_eq_true, Bool.and_eq_true, Option.isNone_iff_eq_none, bne_iff_ne,
        ne_eq] at h
      rcases h with ⟨⟨hfixed, hfixed'⟩, hne⟩ | h
      · exact hne ((hs hfixed).symm.trans (ht hfixed'))
      · exact ih h hrest

/-- What stands in front of both makes no difference. -/
theorem apart_append (base : List String) {ps qs : List String} (h : apart ps qs = true) :
    apart (base ++ ps) (base ++ qs) = true := by
  induction base with
  | nil => exact h
  | cons b base ih => simp [apart, ih]

theorem segments_append (base : String) {path : String} (h : path.toList.head? = some '/') :
    segments (base ++ path) = segments base ++ (segments path).tail := by
  obtain ⟨rest, hrest⟩ : ∃ rest, path.toList = '/' :: rest := List.head?_eq_some_iff.mp h
  simp [segments, hrest, List.splitOn_append_cons_self, List.splitOn_cons_eq_if_modifyHead]

/-! ## Routes and who may ask for them -/

inductive Access where
  | visitor
  | member
  | admin
  deriving Repr, DecidableEq

def Handler.access : Handler σ → Access
  | .visitor _ => .visitor
  | .member _ => .member
  | .admin _ => .admin

/-- A route without what it does. -/
structure Entry where
  method : String
  path : String
  access : Access
  deriving Repr, DecidableEq

def Route.entry (route : Route σ) : Entry := ⟨route.method, route.path, route.handler.access⟩

/-- The routes of the desk, each with those who may ask for it. -/
def entries : List Entry := [
  ⟨"GET", "/health", .visitor⟩,
  ⟨"POST", "/auth/register", .visitor⟩,
  ⟨"POST", "/auth/login", .visitor⟩,
  ⟨"GET", "/auth/me", .member⟩,
  ⟨"GET", "/admin/users", .admin⟩,
  ⟨"GET", "/admin/users/special", .admin⟩,
  ⟨"POST", "/admin/users/special", .admin⟩,
  ⟨"GET", "/admin/users/{user_id}", .admin⟩,
  ⟨"PUT", "/admin/users/{user_id}", .admin⟩,
  ⟨"DELETE", "/admin/users/{user_id}", .admin⟩,
  ⟨"POST", "/admin/users/{user_id}/reset-usage", .admin⟩,
  ⟨"GET", "/admin/stats", .admin⟩,
  ⟨"POST", "/reviews", .member⟩,
  ⟨"GET", "/reviews", .member⟩,
  ⟨"GET", "/reviews/recent", .member⟩,
  ⟨"GET", "/reviews/stats", .member⟩,
  ⟨"GET", "/reviews/{review_id}", .member⟩,
  ⟨"GET", "/reviews/{review_id}/summary", .member⟩,
  ⟨"GET", "/reviews/{review_id}/insights", .member⟩,
  ⟨"PUT", "/reviews/{review_id}/findings/{finding_id}/resolve", .member⟩,
  ⟨"DELETE", "/reviews/{review_id}", .member⟩,
  ⟨"GET", "/reviews/{review_id}/download/{report_format}", .member⟩,
  ⟨"GET", "/reviews/{review_id}/generate-prompt", .member⟩,
  ⟨"POST", "/github/oauth/callback", .visitor⟩,
  ⟨"POST", "/github/oauth/link", .member⟩,
  ⟨"GET", "/github/repositories", .member⟩,
  ⟨"GET", "/github/repos/{owner}/{repo}", .member⟩,
  ⟨"POST", "/github/repos/{owner}/{repo}/analyze", .member⟩,
  ⟨"POST", "/github/repos/{owner}/{repo}/files", .member⟩,
  ⟨"DELETE", "/github/disconnect", .member⟩]

/-- The routes of accounts, administration, reviews and GitHub, in this order. -/
def deskRoutes (m : Model σ) (settings : Settings) : List (Route σ) :=
  signInRoutes settings ++ adminRoutes settings ++ reviewRoutes m ++ gitHubRoutes settings

theorem map_entry (m : Model σ) (settings : Settings) :
    (healthRoute :: deskRoutes m settings).map Route.entry = entries := rfl

/-- What holds of every entry holds of every route. -/
theorem entry_mem {m : Model σ} {settings : Settings} {route : Route σ}
    (h : route ∈ healthRoute :: deskRoutes m settings) : route.entry ∈ entries :=
  map_entry m settings ▸ List.mem_map_of_mem h

theorem entries_regular : ∀ e ∈ entries, e.path.toList.head? = some '/' ∧
    ∃ p ∈ (segments e.path).tail.getLast?, dropLineEnd p = p := by decide +kernel

/-- Routes of one method that are for different callers have no path in common. -/
theorem entries_apart : ∀ e ∈ entries, ∀ f ∈ entries, e.method = f.method → e.access ≠ f.access →
    apart (segments e.path).tail (segments f.path).tail = true := by decide +kernel

theorem entries_not_options : ∀ e ∈ entries, e.method ≠ "OPTIONS" := by decide +kernel

section Fitting

variable {m : Model σ} {settings : Settings} {base path : String} {route other : Route σ}

theorem along_of_slots (h : route ∈ healthRoute :: deskRoutes m settings)
    (hfits : ((route.below base).slots? path).isSome) :
    Along (segments base ++ (segments route.path).tail) (dropLastLineEnd (segments path)) := by
  obtain ⟨hroot, p, hp, hend⟩ : route.path.toList.head? = some '/' ∧
      ∃ p, (segments route.path).tail.getLast? = some p ∧ dropLineEnd p = p :=
    entries_regular _ (entry_mem h)
  have hlast : ∀ q ∈ (segments base ++ (segments route.path).tail).getLast?, dropLineEnd q = q := by
    intro q hq
    rw [List.getLast?_append, hp, Option.some_or] at hq
    cases hq
    exact hend
  have hpattern : segments (route.below base).path = segments base ++ (segments route.path).tail :=
    segments_append base hroot
  simp only [Route.slots?, hpattern, Option.orElse_eq_orElse, Option.orElse_eq_or, Option.isSome_or,
    Bool.or_eq_true] at hfits
  rcases hfits with hfits | hfits
  · exact (along_of_matchSegments hfits).dropLastLineEnd hlast
  · exact along_of_matchSegments hfits

/-- Whoever may ask for one route may ask for every other with the same method and path. -/
theorem access_eq_of_slots (h : route ∈ healthRoute :: deskRoutes m settings)
    (ho : other ∈ healthRoute :: deskRoutes m settings) (hmethod : route.method = other.method)
    (hfits : ((route.below base).slots? path).isSome)
    (hfitso : ((other.below base).slots? path).isSome) :
    route.handler.access = other.handler.access := by
  by_contra hne
  have hapart := entries_apart _ (entry_mem h) _ (entry_mem ho) hmethod hne
  exact not_along_of_apart (apart_append (segments base) hapart) (along_of_slots h hfits)
    (along_of_slots ho hfitso)

end Fitting

/-- A request that fits a route is led to the first route that it fits. -/
theorem locate_of_slots {rs : List (Route σ)} {route : Route σ} {path : String} (h : route ∈ rs)
    (hfits : (route.slots? path).isSome) :
    ∃ found ∈ rs, ∃ slots, found.method = route.method ∧ found.slots? path = some slots ∧
      locate rs route.method path = .route found slots := by
  obtain ⟨slots, hslots⟩ := Option.isSome_iff_exists.mp hfits
  set fitting := rs.filterMap fun r => (r.slots? path).map (r, ·) with hfitting
  have hmem : (route, slots) ∈ fitting := List.mem_filterMap.mpr ⟨route, h, by simp [hslots]⟩
  obtain ⟨⟨found, slots'⟩, hfound⟩ :=
    Option.isSome_iff_exists.mp (List.find?_isSome (p := (·.1.method == route.method))
      |>.mpr ⟨_, hmem, beq_self_eq_true route.method⟩)
  obtain ⟨r, hr, hpair⟩ := List.mem_filterMap.mp (List.mem_of_find?_eq_some hfound)
  obtain ⟨_, hs, heq⟩ := Option.map_eq_some_iff.mp hpair
  cases heq
  have hmethod := List.find?_some hfound
  refine ⟨found, hr, slots', eq_of_beq hmethod, hs, ?_⟩
  -- The search for a method comes first, so it does not matter what else fits.
  rw [locate, ← hfitting]
  simp only [hfound]

end ReviewDesk.Service
