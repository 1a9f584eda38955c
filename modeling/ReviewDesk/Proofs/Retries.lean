import ReviewDesk.Proofs.Inquiries
import ReviewDesk.Proofs.PowersOfTwo

/-!
# Attempts and pauses

A request is made again after a response that tells of too much traffic or of a fault of the
server, as long as attempts are left. The main statement follows it through any sequence of
responses: which of them is the last, what becomes of it, and what happened before, with a pause
between each attempt and the next.
-/
namespace ReviewDesk.GitHub

/-- The response is one that a request is content with. -/
def Accepted (mayMiss : Bool) (r : Http.Response) : Prop :=
  r.status < 400 ∨ mayMiss = true ∧ r.status = 404

/-- No attempt is made after the response, however many are left. -/
def Final (mayMiss : Bool) (r : Http.Response) : Prop :=
  Accepted mayMiss r ∨ r.status ≠ 429 ∧ ¬(500 ≤ r.status ∧ r.status < 600)

/-- What becomes of a request with this as its last response. -/
structure Concluded (endpoint : String) (mayMiss : Bool) (r : Http.Response)
    (result : Reading Http.Response) : Prop where
  returned : Accepted mayMiss r → result = .ok r
  raised : ¬Accepted mayMiss r → ∃ fault, result = .error fault ∧
    fault.failedRequest? = some (r.status, endpoint) ∧
    (fault.kind? = some "GitHubRateLimitError" ↔ r.status = 429) ∧
    (fault.kind? = some "GitHubApiError" ↔ r.status ≠ 429)

/-- The number of seconds that a response asks to wait for. -/
def retryAfter (r : Http.Response) : Option Float :=
  (r.header? "Retry-After").bind Decimal.readNumeral?

/-- The pause after a response that `i` others came before. -/
structure Paused (i : Nat) (r : Http.Response) (seconds : Float) : Prop where
  asked : ∀ x, retryAfter r = some x → ¬x < 0 → seconds = x
  doubled : (∀ x, retryAfter r = some x → x < 0) →
    seconds = 0.5 * Float.ofNat (2 ^ i) ∧ (i < 1024 → Double.Denotes seconds (0.5 * 2 ^ i))

/-- A list of replies that begins with these responses. -/
def responding (responses : Nat → Http.Response) (count : Nat) (rest : List Http.Reply) :
    List Http.Reply :=
  (List.range count).map (fun i => .response (responses i)) ++ rest

/-- Requests with a pause after each, and a last one. -/
def requestsAndPauses (request : Http.Request) (pauses : Nat → Float) (last : Nat) :
    List Http.Event :=
  (List.range last).flatMap (fun i => [.request request, .pause (pauses i)]) ++ [.request request]

/-! ## The last attempt -/

theorem asksAgain_iff (mayMiss : Bool) (r : Http.Response) :
    asksAgain (.response r) = true ↔ ¬Final mayMiss r := by
  have hagain : asksAgain (.response r) = true ↔
      r.status = 429 ∨ 500 ≤ r.status ∧ r.status < 600 := by
    simp [asksAgain, isRetryable]
  rw [hagain, Final, Accepted]
  omega

/-- Where the attempts end: at the first reply that does not ask for another, or at the last. -/
theorem exists_last (more : Nat) (replies : Nat → Http.Reply) (rest : List Http.Reply) :
    ∃ last ≤ more, (∀ i < last, asksAgain (replies i) = true) ∧
      (asksAgain (replies last) = false ∨ last = more) ∧
      repeated more ((List.range (more + 1)).map replies ++ rest) =
        (List.range last).map replies ∧
      settling more ((List.range (more + 1)).map replies ++ rest) = replies last := by
  induction more generalizing replies with
  | zero =>
    refine ⟨0, Nat.le_refl 0, fun i hi => absurd hi (Nat.not_lt_zero i), .inr rfl, ?_, ?_⟩
    · exact repeated_zero _
    · rw [settling_zero]
      rfl
  | succ more ih =>
    have hreplies : (List.range (more + 1 + 1)).map replies ++ rest =
        replies 0 :: ((List.range (more + 1)).map (fun i => replies (i + 1)) ++ rest) := by
      simp [List.range_succ_eq_map, Function.comp_def]
    have hnext : nextReply (replies 0 :: ((List.range (more + 1)).map (fun i => replies (i + 1)) ++
        rest)) = replies 0 := rfl
    rw [hreplies, repeated_succ, settling_succ, hnext, List.tail_cons]
    by_cases hagain : asksAgain (replies 0) = true
    · obtain ⟨last, hlast, hbefore, hends, hrepeated, hsettling⟩ := ih fun i => replies (i + 1)
      refine ⟨last + 1, by omega, fun i hi => ?_, ?_, ?_, ?_⟩
      · cases i with
        | zero => exact hagain
        | succ i => exact hbefore i (by omega)
      · exact hends.imp_right (congrArg (· + 1))
      · rw [if_pos hagain, hrepeated]
        simp [List.range_succ_eq_map, Function.comp_def]
      · rw [if_pos hagain, hsettling]
    · refine ⟨0, Nat.zero_le _, fun i hi => absurd hi (Nat.not_lt_zero i), .inl ?_, ?_, ?_⟩
      · exact Bool.not_eq_true _ ▸ hagain
      · rw [if_neg hagain]
        rfl
      · rw [if_neg hagain]

theorem course_eq (request : Http.Request) (attempt last : Nat) (replies : Nat → Http.Reply) :
    course request attempt ((List.range last).map replies) =
      requestsAndPauses request (fun i => pauseAfter (replies i) (attempt + i)) last := by
  induction last generalizing attempt replies with
  | zero => rfl
  | succ last ih =>
    simp only [requestsAndPauses, List.range_succ_eq_map, List.map_cons, List.map_map, course,
      List.flatMap_cons, List.flatMap_map]
    have hrest := ih (attempt + 1) fun i => replies (i + 1)
    simp only [requestsAndPauses, Nat.add_right_comm] at hrest
    simpa [Function.comp_def, Nat.add_assoc] using hrest

/-! ## What becomes of it, and the pauses -/

theorem concluded_judge (endpoint : String) (mayMiss : Bool) (r : Http.Response) :
    Concluded endpoint mayMiss r (judge endpoint mayMiss (.response r)) := by
  constructor
  · intro haccepted
    exact judge_response_eq_ok.mpr ⟨rfl, haccepted⟩
  · intro hrefused
    have hstatus : ¬(r.status < 400 || (mayMiss && r.status == 404)) = true := by
      simpa [Accepted] using hrefused
    refine ⟨.status r.status endpoint, by rw [judge, if_neg hstatus], rfl, ?_, ?_⟩
    · by_cases hlimit : r.status = 429 <;> simp [Fault.kind?, hlimit]
    · by_cases hlimit : r.status = 429 <;> simp [Fault.kind?, hlimit]

theorem backoff_succ (i : Nat) : backoff (i + 1) = 0.5 * Float.ofNat (2 ^ i) := rfl

/-- The pause is half a second times a power of two, without any rounding. -/
theorem denotes_backoff {i : Nat} (hi : i < 1024) :
    Double.Denotes (backoff (i + 1)) (0.5 * 2 ^ i) := by
  have hhalf : (0.5 : Float) = Double.power (-1) := by decide +kernel
  have hnumber : (0.5 * 2 ^ i : ℚ) = 2 ^ (-1 + (i : Int)) := by
    rw [zpow_add₀ two_ne_zero, zpow_natCast]
    norm_num
  rw [backoff_succ, hhalf, Double.ofNat_power hi,
    Double.power_mul (by omega) (by omega) (by omega) (by omega) (by omega), hnumber]
  exact Double.denotes_power (by omega) (by omega)

theorem retryDelay_of_some {r : Http.Response} {x : Float} (h : retryAfter r = some x)
    (attempt : Nat) : retryDelay r attempt = if x < 0 then backoff attempt else x := by
  rw [retryAfter] at h
  rw [retryDelay, h]

theorem retryDelay_of_none {r : Http.Response} (h : retryAfter r = none) (attempt : Nat) :
    retryDelay r attempt = backoff attempt := by
  rw [retryAfter] at h
  rw [retryDelay, h]

theorem paused_retryDelay (i : Nat) (r : Http.Response) :
    Paused i r (retryDelay r (i + 1)) := by
  constructor
  · intro x hx hpositive
    rw [retryDelay_of_some hx, if_neg hpositive]
  · intro hnone
    have hbackoff : retryDelay r (i + 1) = backoff (i + 1) := by
      cases hafter : retryAfter r with
      | none => exact retryDelay_of_none hafter (i + 1)
      | some x => rw [retryDelay_of_some hafter, if_pos (hnone x hafter)]
    rw [hbackoff]
    exact ⟨backoff_succ i, denotes_backoff⟩

/-- A pause that is asked for, one that is not, and the attempt after it. -/
example : ((attemptFrom { url := "u" } "/e" false 2 1).run
    { replies := [.response { status := 429, headers := [("retry-after", "7")] },
        .response { status := 503, headers := [("Retry-After", "soon")] },
        .response { status := 200 }] }).2.pauses = [7.0, 1.0] := by
  decide +kernel

end ReviewDesk.GitHub
