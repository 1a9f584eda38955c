import Mathlib
import ReviewDesk.Proofs.Fetching
import ReviewDesk.Proofs.ModelPass

/-!
# The source files of a repository

GitHub is asked for the repository, for the listing of its default branch and then for one file
after the other: the first source files of the listing, as many as the budget allows. So there is a
bound on the requests, whatever the replies are. What is collected keeps the order of the listing,
with each path once, though the listing may repeat paths and though files may be left out.
-/
namespace ReviewDesk

namespace Files

variable {files : Files} {pairs : List (String × String)}

/-! ## The order of a collection -/

/-- A new path goes to the end, and a known one stays where it is. -/
theorem paths_insert (path content : String) (files : Files) :
    (files.insert path content).map (·.1) =
      if path ∈ files.map (·.1) then files.map (·.1) else files.map (·.1) ++ [path] := by
  induction files with
  | nil => simp [insert]
  | cons file rest ih =>
    obtain ⟨q, t⟩ := file
    rw [insert]
    by_cases hsame : q = path
    · simp [hsame]
    · have hne : path ≠ q := fun h => hsame h.symm
      rw [if_neg (by simpa using hsame), List.map_cons, ih]
      by_cases hmem : path ∈ rest.map (·.1) <;> simp [hmem, hne]

theorem nodup_paths_foldl (h : (files.map (·.1)).Nodup) :
    ((pairs.foldl (fun files f => insert f.1 f.2 files) files).map (·.1)).Nodup := by
  induction pairs generalizing files with
  | nil => exact h
  | cons pair rest ih =>
    apply ih
    rw [paths_insert]
    split_ifs with hmem
    · exact h
    · rw [← List.concat_eq_append]
      exact h.concat hmem

/-- Paths come in one after the other. -/
theorem paths_foldl_sublist :
    ((pairs.foldl (fun files f => insert f.1 f.2 files) files).map (·.1)).Sublist
      (files.map (·.1) ++ pairs.map (·.1)) := by
  induction pairs generalizing files with
  | nil => simp
  | cons pair rest ih =>
    refine ih.trans ?_
    rw [paths_insert, List.map_cons, List.append_cons _ _ (rest.map (·.1))]
    refine List.Sublist.append_right ?_ _
    split_ifs with hmem
    · exact List.sublist_append_left _ _
    · exact List.Sublist.refl _

end Files

namespace GitHub

theorem map_fst_endings (paths : List String) (replies : List Http.Reply) :
    (endings paths replies).map (·.1) = paths := by
  induction paths generalizing replies with
  | nil => rfl
  | cons path rest ih => rw [endings, List.map_cons, ih]

theorem paths_texts_sublist (ends : List (String × Http.Reply)) :
    ((texts ends).map (·.1)).Sublist (ends.map (·.1)) := by
  induction ends with
  | nil => exact List.Sublist.refl _
  | cons e rest ih =>
    rw [texts, List.filterMap_cons]
    cases textOf? e.2 with
    | none => exact ih.cons _
    | some text => exact ih.cons_cons _

/-! ## How many requests there are -/

/-- The requests of a log. -/
def requestsOf (log : List Http.Event) : List Http.Request := log.filterMap Http.Event.request?

/-- The service is asked no more than so many times. -/
def Asked (most : Nat) (p p' : Http.Peer) : Prop :=
  ∃ log, p'.log = p.log ++ log ∧ (requestsOf log).length ≤ most

namespace Asked

variable {p p' p'' : Http.Peer} {m n : Nat}

theorem refl (n : Nat) (p : Http.Peer) : Asked n p p :=
  ⟨[], (List.append_nil _).symm, Nat.zero_le n⟩

theorem mono (h : Asked m p p') (hle : m ≤ n) : Asked n p p' := by
  obtain ⟨log, hlog, hcount⟩ := h
  exact ⟨log, hlog, hcount.trans hle⟩

theorem trans (h : Asked m p p') (h' : Asked n p' p'') : Asked (m + n) p p'' := by
  obtain ⟨log, hlog, hcount⟩ := h
  obtain ⟨log', hlog', hcount'⟩ := h'
  refine ⟨log ++ log', by rw [hlog', hlog, List.append_assoc], ?_⟩
  rw [requestsOf, List.filterMap_append, List.length_append]
  exact Nat.add_le_add hcount hcount'

end Asked

theorem asked_attemptFrom (request : Http.Request) (endpoint : String) (mayMiss : Bool)
    (more attempt : Nat) (p : Http.Peer) :
    Asked (more + 1) p ((attemptFrom request endpoint mayMiss more attempt).run p).2 := by
  rw [run_attemptFrom_eq]
  refine ⟨_, rfl, ?_⟩
  rw [requestsOf, requests_course, List.length_replicate]
  have hrepeated : (repeated more p.replies).length ≤ (p.replies.take more).length :=
    (List.takeWhile_sublist _).length_le
  rw [List.length_take] at hrepeated
  omega

theorem asked_get (c : Client) (endpoint media : String) (mayMiss : Bool) (p : Http.Peer) :
    Asked maxAttempts p ((c.get endpoint media mayMiss).run p).2 := by
  unfold Client.get
  cases Http.resolve host endpoint with
  | error fault => exact Asked.refl _ _
  | ok url => exact asked_attemptFrom _ _ _ _ _ _

theorem asked_send (c : Client) (q : Inquiry) (endpoint : String) (p : Http.Peer) :
    Asked maxAttempts p ((q.send c endpoint).run p).2 := by
  cases q with
  | exchangeCode clientId clientSecret code => exact asked_attemptFrom _ _ _ _ _ _
  | fileText owner repo path ref => exact asked_get c endpoint rawMedia true p
  | _ => exact asked_get c endpoint jsonMedia false p

/-- An inquiry makes three requests at most. -/
theorem asked_run (c : Client) (q : Inquiry) (p : Http.Peer) :
    Asked maxAttempts p ((q.run c).run p).2 := by
  rw [Inquiry.run_eq, run_bind, run_liftReading]
  cases q.endpoint with
  | error fault => exact Asked.refl _ _
  | ok endpoint =>
    have hsent := asked_send c q endpoint p
    dsimp only
    rw [run_bind]
    rcases hrun : (q.send c endpoint).run p with ⟨_ | r, p'⟩
    · rwa [hrun] at hsent
    · rw [hrun] at hsent
      simpa using hsent

end GitHub

namespace Desk

open GitHub

variable {σ α β : Type}

/-- Whatever the replies are, a task makes no more than so many requests. -/
def Inquires (most : Nat) (t : Task σ α) : Prop :=
  ∀ d, Asked most d.github (outcome t d).2.github

namespace Inquires

theorem pure (a : α) (n : Nat) : Inquires n (Pure.pure a : Task σ α) :=
  fun d => Asked.refl n d.github

theorem fail (failure : Failure) (n : Nat) : Inquires n (Desk.fail failure : Task σ α) :=
  fun d => Asked.refl n d.github

theorem bind {t : Task σ α} {next : α → Task σ β} {m n : Nat} (ht : Inquires m t)
    (hnext : ∀ a, Inquires n (next a)) : Inquires (m + n) (t >>= next) := by
  intro d
  have hfirst := ht d
  rw [outcome_bind]
  rcases houtcome : outcome t d with ⟨_ | a, d'⟩
  · rw [houtcome] at hfirst
    exact hfirst.mono (Nat.le_add_right m n)
  · rw [houtcome] at hfirst
    exact hfirst.trans (hnext a d')

theorem askGitHub (c : Client) (q : Inquiry) :
    Inquires maxAttempts (Desk.askGitHub (q.run c) : Task σ q.Result) := by
  intro d
  rw [outcome_askGitHub]
  exact asked_run c q d.github

theorem mono {t : Task σ α} {m n : Nat} (h : Inquires m t) (hle : m ≤ n) : Inquires n t :=
  fun d => (h d).mono hle

theorem fetchAll (c : Client) (owner repo : String) (ref : Option String) (paths : List String)
    (files : Files) :
    Inquires (maxAttempts * paths.length)
      (Desk.fetchAll c owner repo ref paths files : Task σ _) := by
  induction paths generalizing files with
  | nil => exact Inquires.pure files 0
  | cons path rest ih =>
    rw [List.length_cons, Nat.mul_succ, Nat.add_comm]
    refine (Inquires.askGitHub c (.fileText owner repo path ref)).bind fun text => ?_
    cases text with
    | none => exact ih files
    | some text => exact ih (files.insert path text)

end Inquires

end Desk

namespace GitHub

/-! ## From the repository to its files -/

/-- An entry of a listing that is a file of source text. -/
def TreeEntry.IsSource (suffixes : List String) (e : TreeEntry) : Prop :=
  e.kind = "blob" ∧ ∃ suffix ∈ suffixes, suffix.toList <:+ (Text.lower e.path).toList

instance (suffixes : List String) : DecidablePred (TreeEntry.IsSource suffixes) :=
  fun _ => inferInstanceAs (Decidable (_ ∧ _))

/-- The paths of the first source files of a listing. -/
def Tree.firstPaths (suffixes : List String) (n : Nat) (t : Tree) : List String :=
  ((t.entries.filter fun e => e.IsSource suffixes).take n).map (·.path)

theorem Tree.length_firstPaths_le (t : Tree) (suffixes : List String) (n : Nat) :
    (t.firstPaths suffixes n).length ≤ n := by
  rw [firstPaths, List.length_map]
  exact List.length_take_le _ _

theorem Tree.filesEnding_eq (suffixes : List String) (t : Tree) :
    t.filesEnding suffixes = t.entries.filter fun e => e.IsSource suffixes := by
  refine List.filter_congr fun e _ => ?_
  rw [Bool.eq_iff_iff, decide_eq_true_eq]
  simp [TreeEntry.IsSource]

/-- What GitHub says of a repository and of what is in its default branch. -/
def Surveyed (c : Client) (owner repo : String) (p : Http.Peer) (repository : Repository)
    (tree : Tree) (p' : Http.Peer) : Prop :=
  ∃ p₁, (c.repository owner repo).run p = (.ok repository, p₁) ∧
    (c.tree owner repo repository.defaultBranch).run p₁ = (.ok tree, p')

end GitHub

namespace Desk

open GitHub

variable {σ : Type} (d : Desk σ) {budget : Budget} {caller : Account} {c : Client}
  {owner repo : String} {suffixes : List String}

/-- After the survey there are only files to be fetched. -/
theorem outcome_sourceFiles (hbudget : 0 ≤ budget.repositoryFiles)
    (hclient : outcome (clientFor caller) d = (.ok c, d)) {repository : Repository} {tree : Tree}
    {p : Http.Peer} (h : Surveyed c owner repo d.github repository tree p) :
    outcome (sourceFiles budget caller owner repo suffixes) d =
      outcome (fetchAll c owner repo (some repository.defaultBranch)
        (tree.firstPaths suffixes budget.repositoryFiles.toNat) []) { d with github := p } := by
  obtain ⟨p₁, hrepository, htree⟩ := h
  rw [sourceFiles, outcome_bind_ok hclient, outcome_bind_ok (outcome_askGitHub_ok d hrepository),
    outcome_bind_ok (outcome_askGitHub_ok { d with github := p₁ } htree)]
  dsimp only
  rw [Model.firstItems_eq_take hbudget, Tree.filesEnding_eq]
  rfl

theorem connected_of_sourceFiles {files : Files}
    (h : (outcome (sourceFiles budget caller owner repo suffixes) d).1 = .ok files) :
    caller.hasGitHub = true := by
  by_contra hnot
  have hclient : outcome (clientFor caller) d = (.error .notConnected, d) := by
    rw [clientFor, if_neg hnot, outcome_fail]
  rw [sourceFiles, outcome_bind_error hclient] at h
  cases h

theorem surveyed_of_sourceFiles {files : Files} (hclient : outcome (clientFor caller) d = (.ok c, d))
    (h : (outcome (sourceFiles budget caller owner repo suffixes) d).1 = .ok files) :
    ∃ repository tree p, Surveyed c owner repo d.github repository tree p := by
  rw [sourceFiles, outcome_bind_ok hclient] at h
  rcases hrepository : (c.repository owner repo).run d.github with ⟨fault | repository, p₁⟩
  · rw [outcome_bind_error (outcome_askGitHub_error d hrepository)] at h
    cases h
  · rw [outcome_bind_ok (outcome_askGitHub_ok d hrepository)] at h
    rcases htree : (c.tree owner repo repository.defaultBranch).run p₁ with ⟨fault | tree, p⟩
    · rw [outcome_bind_error (outcome_askGitHub_error { d with github := p₁ } htree)] at h
      cases h
    · exact ⟨repository, tree, p, p₁, hrepository, htree⟩

/-- Files come back only after a survey, and if every request for a file ends well. -/
theorem allPassed_of_sourceFiles (hbudget : 0 ≤ budget.repositoryFiles)
    (hclient : outcome (clientFor caller) d = (.ok c, d)) {files : Files}
    (h : (outcome (sourceFiles budget caller owner repo suffixes) d).1 = .ok files) :
    ∃ repository tree p, Surveyed c owner repo d.github repository tree p ∧
      AllPassed c owner repo (some repository.defaultBranch)
        (tree.firstPaths suffixes budget.repositoryFiles.toNat) p.replies := by
  obtain ⟨repository, tree, p, hsurveyed⟩ := surveyed_of_sourceFiles d hclient h
  refine ⟨repository, tree, p, hsurveyed, ?_⟩
  rw [outcome_sourceFiles d hbudget hclient hsurveyed] at h
  by_contra hnot
  obtain ⟨failure, hfailure⟩ := outcome_fetchAll_error { d with github := p } [] hnot
  rw [hfailure] at h
  cases h

theorem collected_of_allPassed {ref : Option String} {paths : List String}
    {replies : List Http.Reply} (h : AllPassed c owner repo ref paths replies) :
    Collected (· < 400) paths (endings paths replies)
      (Files.ofPairs (texts (endings paths replies))) := by
  refine collected_texts (by decide) (fun e he => fst_mem_of_mem_endings he) ?_
  intro path reply he
  obtain ⟨r, hreply, haccepted⟩ := h.endings _ he
  exact ⟨r, hreply, haccepted.symm.imp_left And.right⟩

/-- Three requests for the repository, three for the listing and three for each file. -/
theorem Inquires.sourceFiles (hbudget : 0 ≤ budget.repositoryFiles) (caller : Account)
    (owner repo : String) (suffixes : List String) :
    Inquires (maxAttempts * (2 + budget.repositoryFiles.toNat))
      (Desk.sourceFiles budget caller owner repo suffixes : Task σ Files) := by
  have hclient : Inquires 0 (clientFor caller : Task σ Client) := by
    unfold clientFor
    split
    · exact Inquires.pure _ 0
    · exact Inquires.fail _ 0
  have hfiles (c : Client) (repository : Repository) (tree : Tree) :
      Inquires (maxAttempts * budget.repositoryFiles.toNat) (Desk.fetchAll c owner repo
        (some repository.defaultBranch)
        (tree.firstPaths suffixes budget.repositoryFiles.toNat) [] : Task σ Files) :=
    (Inquires.fetchAll c owner repo _ _ []).mono
      (Nat.mul_le_mul_left _ (tree.length_firstPaths_le suffixes _))
  have hall := hclient.bind fun c =>
    (Inquires.askGitHub c (.repository owner repo)).bind fun repository =>
      (Inquires.askGitHub c (.tree owner repo repository.defaultBranch)).bind (hfiles c repository)
  have hcount : maxAttempts * (2 + budget.repositoryFiles.toNat) =
      0 + (maxAttempts + (maxAttempts + maxAttempts * budget.repositoryFiles.toNat)) := by ring
  rw [hcount]
  unfold Desk.sourceFiles
  simp only [Model.firstItems_eq_take hbudget, Tree.filesEnding_eq]
  exact hall

/-- The files of a repository come back if and only if the account is linked, the repository and its
listing can be read and every request for a file ends well. They are then what these requests ended
in, for the first source files of the listing, in their order and each path once. However it ends,
there are three requests at most for the repository, for the listing and for each of these files. -/
theorem sourceFiles_collects (budget : Budget) (hbudget : 0 ≤ budget.repositoryFiles)
    (caller : Account) (owner repo : String) (suffixes : List String) :
    let c := Client.ofToken (caller.githubToken.getD "")
    let paths (tree : Tree) := tree.firstPaths suffixes budget.repositoryFiles.toNat
    (∃ log, (outcome (sourceFiles budget caller owner repo suffixes) d).2.github.log =
        d.github.log ++ log ∧ (requestsOf log).length ≤ 3 * (2 + budget.repositoryFiles)) ∧
    ((∃ files, (outcome (sourceFiles budget caller owner repo suffixes) d).1 = .ok files) ↔
      caller.hasGitHub = true ∧ ∃ repository tree p,
        Surveyed c owner repo d.github repository tree p ∧
        AllPassed c owner repo (some repository.defaultBranch) (paths tree) p.replies) ∧
    ∀ files, (outcome (sourceFiles budget caller owner repo suffixes) d).1 = .ok files →
      ∃ repository tree p, Surveyed c owner repo d.github repository tree p ∧
        (files.map (·.1)).Nodup ∧ (files.map (·.1)).Sublist (paths tree) ∧
        Collected (· < 400) (paths tree) (endings (paths tree) p.replies) files ∧
        ∃ log, (outcome (sourceFiles budget caller owner repo suffixes) d).2.github.log =
            p.log ++ log ∧
          ∀ e ∈ endings (paths tree) p.replies, ∃ request,
            fileRequest c owner repo e.1 (some repository.defaultBranch) = .ok request ∧
            Answered log p.replies request e.2 := by
  intro c paths
  refine ⟨?_, ⟨?_, ?_⟩, ?_⟩
  · obtain ⟨log, hlog, hcount⟩ := Inquires.sourceFiles hbudget caller owner repo suffixes d
    have hattempts : maxAttempts = 3 := rfl
    rw [hattempts] at hcount
    exact ⟨log, hlog, by omega⟩
  · rintro ⟨files, hok⟩
    have hconnected := connected_of_sourceFiles d hok
    exact ⟨hconnected, allPassed_of_sourceFiles d hbudget (outcome_clientFor d hconnected) hok⟩
  · rintro ⟨hconnected, repository, tree, p, hsurveyed, hpassed⟩
    obtain ⟨log, hfiles, -⟩ := outcome_fetchAll_ok { d with github := p } [] hpassed
    rw [outcome_sourceFiles d hbudget (outcome_clientFor d hconnected) hsurveyed]
    exact ⟨_, hfiles⟩
  · intro files hok
    have hclient := outcome_clientFor d (connected_of_sourceFiles d hok)
    obtain ⟨repository, tree, p, hsurveyed, hpassed⟩ :=
      allPassed_of_sourceFiles d hbudget hclient hok
    obtain ⟨log, hfiles, hlog, hanswered⟩ :=
      outcome_fetchAll_ok { d with github := p } [] hpassed
    rw [outcome_sourceFiles d hbudget hclient hsurveyed] at hok ⊢
    obtain rfl := Except.ok.inj (hfiles.symm.trans hok)
    refine ⟨repository, tree, p, hsurveyed, Files.nodup_paths_foldl List.nodup_nil, ?_,
      collected_of_allPassed hpassed, log, hlog, hanswered⟩
    have horder := paths_texts_sublist (endings (paths tree) p.replies)
    rw [map_fst_endings] at horder
    exact Files.paths_foldl_sublist.trans horder

section Example

/-- A folder, and source files of which the first is listed twice. -/
def repeatedListing : List Json :=
  [("d.py", "tree"), ("A.PY", "blob"), ("b.py", "blob"), ("A.PY", "blob"), ("c.py", "blob")].map
    fun e => .obj [("path", .str e.1), ("type", .str e.2), ("sha", .str "")]

/-- The repository; a fault of the server and then the listing; for the files no file, a text and
a text. -/
def surveyReplies : List Http.Reply :=
  let reply (fields : List (String × Json)) : Http.Reply :=
    .response { status := 200, body := Text.utf8Bytes (Json.write .compact (.obj fields)) }
  [reply [("id", .int 7), ("name", .str "a"), ("full_name", .str "o/a"), ("html_url", .str ""),
      ("default_branch", .str "main"), ("private", .bool false)],
    .response { status := 503 },
    reply [("sha", .str ""), ("tree", .arr repeatedListing)],
    .response { status := 404 }, .response { status := 200, body := [0x78] },
    .response { status := 200, body := [0x79] }]

/-- With room for three files the first is left out where it is listed first, and comes in where it
is listed again. -/
theorem sourceFiles_collects_repeated :
    let t : Task Unit Files := sourceFiles { repositoryFiles := 3 } reader "o" "a" [".py"]
    (outcome t (readingDesk surveyReplies)).1 = .ok [("b.py", "x"), ("A.PY", "y")] ∧
      ∃ repository tree p, Surveyed (.ofToken "token") "o" "a"
          (readingDesk surveyReplies).github repository tree p ∧
        ["b.py", "A.PY"].Sublist (tree.firstPaths [".py"] 3) := by
  intro t
  have hfiles : (outcome t (readingDesk surveyReplies)).1 =
      .ok [("b.py", "x"), ("A.PY", "y")] := by
    decide +kernel
  obtain ⟨-, -, hcollected⟩ := sourceFiles_collects (readingDesk surveyReplies)
    { repositoryFiles := 3 } (by decide) reader "o" "a" [".py"]
  obtain ⟨repository, tree, p, hsurveyed, -, horder, -⟩ := hcollected _ hfiles
  exact ⟨hfiles, repository, tree, p, hsurveyed, horder⟩

end Example

end Desk

end ReviewDesk
