import Mathlib
import ReviewDesk.Proofs.Bearer

/-!
# Free names

A newcomer from GitHub is named after the login, with a number behind it if the name is taken. The
main statement is that the search ends at the first name that nobody has, unless a row before it
cannot be read: numbers with as many digits as each other give different names, and of these more
are tried than there are accounts.
-/
namespace ReviewDesk.Desk

theorem candidate_succ {login : String} {k : Nat} (hk : 0 < k) :
    candidate login k =
      .ofList (firstItems (Account.usernameLimit - (toString k).length) login.toList) ++
        toString k := by
  simp [candidate, Nat.ne_of_gt hk]

theorem length_toString_eq {k digits : Nat} (hdigits : 0 < digits) (hlow : 10 ^ digits ≤ k)
    (hhigh : k < 10 ^ (digits + 1)) : (toString k).length = digits + 1 := by
  have hmost := (Nat.length_toDigits_le_iff (b := 10) (by decide) (Nat.succ_pos digits)).mpr hhigh
  have hleast : ¬(Nat.toDigits 10 k).length ≤ digits := fun h =>
    Nat.not_lt.mpr hlow ((Nat.length_toDigits_le_iff (by decide) hdigits).mp h)
  rw [Nat.toString_eq_ofList_toDigits, String.length_ofList]
  omega

/-- Numbers with the same number of digits give different names. -/
theorem candidate_inj {login : String} {j k : Nat} (hj : 0 < j) (hk : 0 < k)
    (hlength : (toString j).length = (toString k).length)
    (h : candidate login j = candidate login k) : j = k := by
  rw [candidate_succ hj, candidate_succ hk, hlength] at h
  have htails := congrArg String.toList h
  rw [String.toList_append, String.toList_append, List.append_cancel_left_eq] at htails
  have hvalues := congrArg (Nat.ofDigitChars 10 · 0) htails
  simpa [Nat.toString_eq_ofList_toDigits] using hvalues

/-- Of numbers with one digit more than `digits` as many as are needed give a free name. -/
theorem exists_free_of_digits (login : String) (taken : List String) {digits count : Nat}
    (hdigits : 0 < digits) (hcount : count ≤ 9 * 10 ^ digits) (htaken : taken.length < count) :
    ∃ k, 10 ^ digits ≤ k ∧ k < 10 ^ digits + count ∧ candidate login k ∉ taken := by
  by_contra hall
  push Not at hall
  have hmore : 10 ^ (digits + 1) = 10 * 10 ^ digits := by ring
  have hlength {i : Nat} (hi : i < count) : (toString (10 ^ digits + i)).length = digits + 1 :=
    length_toString_eq hdigits (by omega) (by omega)
  have hnodup : ((List.range count).map fun i => candidate login (10 ^ digits + i)).Nodup := by
    refine List.Nodup.map_on (fun i hi j hj h => ?_) List.nodup_range
    rw [List.mem_range] at hi hj
    have hpos : 0 < 10 ^ digits := by positivity
    have := candidate_inj (by omega) (by omega) ((hlength hi).trans (hlength hj).symm) h
    omega
  have hsubset : ((List.range count).map fun i => candidate login (10 ^ digits + i)) ⊆ taken := by
    intro name hname
    obtain ⟨i, hi, rfl⟩ := List.mem_map.mp hname
    rw [List.mem_range] at hi
    exact hall _ (by omega) (by omega)
  have hmany := (hnodup.subperm hsubset).length_le
  rw [List.length_map, List.length_range] at hmany
  omega

/-- Among twelve names for each one that is taken there is a free one. -/
theorem exists_free (login : String) (taken : List String) :
    ∃ k < 12 * taken.length + 12, candidate login k ∉ taken := by
  set n := taken.length
  set digits := Nat.log 10 n + 1
  have hlow : n < 10 ^ digits := Nat.lt_pow_succ_log_self (by decide) n
  have hhigh : 10 ^ digits ≤ 10 * n + 10 := by
    rcases Nat.eq_zero_or_pos n with hn | hn
    · simp [digits, hn]
    · have := Nat.pow_log_le_self 10 (Nat.ne_of_gt hn)
      simp only [digits, pow_succ]
      omega
  have hdigits : 0 < digits := Nat.succ_pos _
  obtain ⟨k, -, hk, hfree⟩ :=
    exists_free_of_digits login taken hdigits (by omega) (Nat.lt_succ_self n)
  exact ⟨k, by omega, hfree⟩

/-- The first number whose name is free. -/
theorem exists_least_free (login : String) (taken : List String) :
    ∃ k < 12 * taken.length + 12, IsLeast {k | candidate login k ∉ taken} k := by
  obtain ⟨j, hj, hfree⟩ := exists_free login taken
  have hsome : ∃ k, candidate login k ∉ taken := ⟨j, hfree⟩
  refine ⟨Nat.find hsome, (Nat.find_min' hsome hfree).trans_lt hj, Nat.find_spec hsome, ?_⟩
  exact fun k hk => Nat.find_min' hsome hk

/-- Names that are taken are passed over. -/
theorem freeCandidate_skip {taken : String → Except Store.Fault Bool} {login : String}
    {first n : Nat} (budget : Nat)
    (h : ∀ j, first ≤ j → j < first + n → taken (candidate login j) = .ok true) :
    freeCandidate taken login (n + budget) first =
      freeCandidate taken login budget (first + n) := by
  induction n generalizing first with
  | zero => rw [Nat.zero_add, Nat.add_zero]
  | succ n ih =>
    rw [Nat.add_right_comm, freeCandidate, h first (Nat.le_refl _) (by omega),
      show first + (n + 1) = first + 1 + n by omega,
      ← ih fun j hleast hmost => h j (by omega) (by omega)]
    rfl

variable {s : Store}

/-- The row of a name, if there is one, can be read. -/
def Legible (s : Store) (name : String) : Prop :=
  ∀ a ∈ s.accounts.find? (·.username == name), a.Readable

instance (s : Store) (name : String) : Decidable (Legible s name) :=
  inferInstanceAs (Decidable (∀ a ∈ s.accounts.find? _, a.Readable))

theorem legible_of_readable (hs : ∀ a ∈ s.accounts, a.Readable) (name : String) :
    Legible s name := fun a ha => hs a (List.mem_of_find?_eq_some ha)

/-- Whether a name is taken can be told if its row can be read. -/
theorem isSome_accountNamed {name : String} (h : Legible s name) :
    (s.accountNamed name).map Option.isSome =
      .ok (decide (name ∈ s.accounts.map (·.username))) := by
  rw [Store.accountNamed]
  cases hrows : s.accounts.filter (·.username == name) with
  | nil =>
    have hfree : name ∉ s.accounts.map (·.username) := by
      intro hname
      obtain ⟨a, ha, rfl⟩ := List.mem_map.mp hname
      exact List.filter_eq_nil_iff.mp hrows a ha BEq.rfl
    rw [decide_eq_false hfree]
    rfl
  | cons a rest =>
    obtain ⟨ha, hname⟩ := List.mem_filter.mp (hrows ▸ List.mem_cons_self : a ∈ _)
    have htaken : name ∈ s.accounts.map (·.username) :=
      eq_of_beq hname ▸ List.mem_map_of_mem ha
    have hfirst : a ∈ s.accounts.find? (·.username == name) := by
      rw [← List.head?_filter, hrows]
      rfl
    rw [decide_eq_true htaken, Store.loadFirst, Store.loadRow_of_readable (h a hfirst)]
    rfl

/-- If it cannot be read, the search ends there. -/
theorem accountNamed_of_not_legible {name : String} (h : ¬Legible s name) :
    ∃ problems, s.accountNamed name = .error (.unreadable problems) := by
  unfold Legible at h
  push Not at h
  obtain ⟨a, hfirst, hunreadable⟩ := h
  obtain ⟨problems, hload⟩ := Store.loadRow_of_not_readable hunreadable
  obtain ⟨rest, hrows⟩ : ∃ rest, s.accounts.filter (·.username == name) = a :: rest := by
    rw [← List.head?_eq_some_iff, List.head?_filter]
    exact hfirst
  exact ⟨problems, by rw [Store.accountNamed, hrows, Store.loadFirst, hload]; rfl⟩

section Search

variable {login : String} {k : Nat} (hk : k < 12 * s.accounts.length + 12)
  (htaken : ∀ j < k, candidate login j ∈ s.accounts.map (·.username))
  (hlegible : ∀ j < k, Legible s (candidate login j))

include hk htaken hlegible

/-- After names that are taken the search goes on with the next. -/
theorem availableUsername_skip : ∃ budget, availableUsername s login =
    freeCandidate (fun name => (s.accountNamed name).map Option.isSome) login (budget + 1) k := by
  obtain ⟨budget, hbudget⟩ := Nat.exists_eq_add_of_lt hk
  refine ⟨budget, ?_⟩
  have hpassed : ∀ j, 0 ≤ j → j < 0 + k →
      (s.accountNamed (candidate login j)).map Option.isSome = .ok true := by
    intro j _ hj
    rw [isSome_accountNamed (hlegible j (by omega)), decide_eq_true (htaken j (by omega))]
  rw [availableUsername, hbudget, Nat.add_assoc, freeCandidate_skip (budget + 1) hpassed,
    Nat.zero_add]

theorem availableUsername_eq_ok (hfree : candidate login k ∉ s.accounts.map (·.username)) :
    availableUsername s login = .ok (candidate login k) := by
  obtain ⟨budget, hskip⟩ := availableUsername_skip hk htaken hlegible
  have hlast : Legible s (candidate login k) := by
    intro a ha
    have hname := List.find?_some ha
    exact absurd (eq_of_beq hname ▸ List.mem_map_of_mem (List.mem_of_find?_eq_some ha)) hfree
  rw [hskip, freeCandidate, isSome_accountNamed hlast, decide_eq_false hfree]
  rfl

theorem availableUsername_eq_error (hlast : ¬Legible s (candidate login k)) :
    ∃ problems, availableUsername s login = .error (.unreadable problems) := by
  obtain ⟨budget, hskip⟩ := availableUsername_skip hk htaken hlegible
  obtain ⟨problems, hfault⟩ := accountNamed_of_not_legible hlast
  exact ⟨problems, by rw [hskip, freeCandidate, hfault]; rfl⟩

end Search

/-- A name is found that nobody has. -/
theorem availableUsername_free (hs : ∀ a ∈ s.accounts, a.Readable) (login : String) :
    ∃ k < 12 * s.accounts.length + 12, availableUsername s login = .ok (candidate login k) ∧
      ∀ a ∈ s.accounts, a.username ≠ candidate login k := by
  obtain ⟨k, hk, hfree, hleast⟩ := exists_least_free login (s.accounts.map (·.username))
  rw [List.length_map] at hk
  refine ⟨k, hk, ?_, fun a ha hname => hfree (hname ▸ List.mem_map_of_mem ha)⟩
  refine availableUsername_eq_ok hk (fun j hj => ?_) (fun j _ => legible_of_readable hs _) hfree
  exact not_not.mp fun hfree' => Nat.not_le.mpr hj (hleast hfree')

theorem length_candidate_le {login : String} {k : Nat} (hk : k < 10 ^ 50) :
    (candidate login k).length ≤ Account.usernameLimit := by
  rcases Nat.eq_zero_or_pos k with rfl | hpos
  · simp only [candidate, BEq.rfl, ↓reduceIte, String.length_ofList, List.length_take,
      Account.usernameLimit]
    omega
  · have hmost : (Nat.toDigits 10 k).length ≤ 50 :=
      (Nat.length_toDigits_le_iff (by decide) (by decide)).mpr hk
    rw [candidate_succ hpos, Nat.toString_eq_ofList_toDigits, String.length_append,
      String.length_ofList, String.length_ofList, firstItems, Account.usernameLimit,
      if_pos (by omega), List.length_take]
    omega

/-- Names are of a length that is allowed, if the number is not longer than the name. -/
theorem length_candidate {login : String} (hlogin : login ≠ "") {k : Nat} (hk : k < 10 ^ 50) :
    1 ≤ (candidate login k).length ∧ (candidate login k).length ≤ Account.usernameLimit := by
  refine ⟨?_, length_candidate_le hk⟩
  rcases Nat.eq_zero_or_pos k with rfl | hpos
  · have hlength : 0 < login.toList.length := by
      rw [String.length_toList]
      exact Nat.pos_of_ne_zero fun h => hlogin (String.length_eq_zero_iff.mp h)
    simp only [candidate, BEq.rfl, ↓reduceIte, String.length_ofList, List.length_take,
      Account.usernameLimit]
    omega
  · have hleast := Nat.length_toDigits_pos (b := 10) (n := k)
    rw [candidate_succ hpos, Nat.toString_eq_ofList_toDigits, String.length_append,
      String.length_ofList, String.length_ofList]
    omega

/-- The search goes through the names in order and ends at the first that is free, or at a row
before it that cannot be read. As long as there are fewer rows than numbers of fifty digits, the
name has room for its number. -/
theorem availableUsername_least_free (s : Store) (login : String) :
    ∃ k, IsLeast {k | candidate login k ∉ s.accounts.map (·.username)} k ∧
      ((∀ j < k, Legible s (candidate login j)) →
        availableUsername s login = .ok (candidate login k)) ∧
      ((∃ j < k, ¬Legible s (candidate login j)) →
        ∃ problems, availableUsername s login = .error (.unreadable problems)) ∧
      (s.accounts.length < 9 * 10 ^ 49 →
        (candidate login k).length ≤ Account.usernameLimit) := by
  obtain ⟨k, hk, hfree, hleast⟩ := exists_least_free login (s.accounts.map (·.username))
  rw [List.length_map] at hk
  have htaken : ∀ j < k, candidate login j ∈ s.accounts.map (·.username) := fun j hj =>
    not_not.mp fun hfree' => Nat.not_le.mpr hj (hleast hfree')
  refine ⟨k, ⟨hfree, hleast⟩, fun hlegible => ?_, fun hill => ?_, fun hfew => ?_⟩
  · exact availableUsername_eq_ok hk htaken hlegible hfree
  · obtain ⟨hj, hfault⟩ := Nat.find_spec hill
    refine availableUsername_eq_error (hj.trans hk) (fun i hi => htaken i (hi.trans hj)) ?_ hfault
    exact fun i hi => not_not.mp fun h => Nat.find_min hill hi ⟨hi.trans hj, h⟩
  · obtain ⟨j, -, hj, hfree'⟩ := exists_free_of_digits login (s.accounts.map (·.username))
      (by decide : 0 < 49) (Nat.le_refl _) (by rwa [List.length_map])
    have hbound := hleast hfree'
    exact length_candidate_le (by omega)

/-- Two accounts that have the first two names for a login. -/
def crowdedStore : Store where
  accounts := [ada, { ada with id := .ofNat 3, username := "ada1", email := "eve@example.com" }]

/-- The third name for it is given out. -/
theorem availableUsername_least_free_crowded :
    availableUsername crowdedStore "ada" = .ok "ada2" := by
  obtain ⟨k, hleast, hfound, -⟩ := availableUsername_least_free crowdedStore "ada"
  have htwo : IsLeast {k | candidate "ada" k ∉ crowdedStore.accounts.map (·.username)} 2 := by
    refine ⟨by decide +kernel, fun j hj => ?_⟩
    by_contra hbefore
    have hzero : candidate "ada" 0 ∈ crowdedStore.accounts.map (·.username) := by decide +kernel
    have hone : candidate "ada" 1 ∈ crowdedStore.accounts.map (·.username) := by decide +kernel
    obtain rfl | rfl : j = 0 ∨ j = 1 := by omega
    · exact hj hzero
    · exact hj hone
  obtain rfl := hleast.unique htwo
  have hlegible : ∀ j < 2, Legible crowdedStore (candidate "ada" j) := by decide +kernel
  have hname : candidate "ada" 2 = "ada2" := by decide +kernel
  rw [hfound hlegible, hname]

/-- A row that cannot be read stops the search, though the next name is free. -/
theorem availableUsername_fullAccount :
    candidate "ada" 1 ∉ fullDesk.store.accounts.map (·.username) ∧
      ∃ problems, availableUsername fullDesk.store "ada" = .error (.unreadable problems) := by
  refine ⟨by decide +kernel, ?_⟩
  exact availableUsername_eq_error (Nat.succ_pos _) (fun _ => nofun) (fun _ => nofun)
    (by decide +kernel)

end ReviewDesk.Desk
