import Mathlib
import ReviewDesk.CommandLine.Basic
import ReviewDesk.Proofs.Addresses
import ReviewDesk.Proofs.Issues

/-!
# Full names of repositories

A repository is named by its owner and a name of its own, with a slash between the two. Such a full
name is trimmed and split in one place, and each part is trimmed and looked at again in another,
where an address is made of it. The main statement says which texts can be split, and that the
second look never refuses what the first one let pass. So a check of a repository, as it is asked
for at the command line, can end badly in many ways, but not for the name that it was given.
-/
namespace ReviewDesk

namespace Text

variable {p : Char → Bool} {cs : List Char}

/-- What is left of a text ends with a character that is kept. -/
theorem last_trimBy (h : trimBy p cs ≠ []) :
    ∃ front c, trimBy p cs = front ++ [c] ∧ p c = false := by
  rw [trimBy] at h ⊢
  obtain ⟨c, rest, hc⟩ := List.exists_cons_of_ne_nil (List.reverse_ne_nil_iff.mp h)
  have hhead := List.head?_dropWhile_not p (cs.dropWhile p).reverse
  rw [hc] at hhead ⊢
  exact ⟨rest.reverse, c, List.reverse_cons, by simpa using hhead⟩

theorem mem_of_mem_trimBy {c : Char} (h : c ∈ trimBy p cs) : c ∈ cs := by
  have hfront := trimBy_prefix p cs
  exact List.dropWhile_subset p (hfront.subset h)

/-- A text of which nothing is left has nothing but characters that are dropped. -/
theorem of_trimBy_eq_nil (h : trimBy p cs = []) : ∀ c ∈ cs, p c = true := by
  rw [trimBy, List.reverse_eq_nil_iff, List.dropWhile_eq_nil_iff] at h
  intro c hc
  rw [← List.takeWhile_append_dropWhile (p := p) (l := cs)] at hc
  rcases List.mem_append.mp hc with hfront | hback
  · exact List.mem_takeWhile_imp hfront
  · exact h c (List.mem_reverse.mpr hback)

theorem length_splitOn (x : Char) (cs : List Char) : (cs.splitOn x).length = cs.count x + 1 := by
  induction cs with
  | nil => rfl
  | cons c cs ih =>
    rw [List.splitOn_cons_eq_if_modifyHead, List.count_cons]
    split_ifs <;> simp [ih]

theorem splitOn_eq_pair_iff {x : Char} {cs front back : List Char} :
    cs.splitOn x = [front, back] ↔ cs = front ++ x :: back ∧ x ∉ front ∧ x ∉ back := by
  constructor
  · intro h
    have hjoin : [x].intercalate (cs.splitOn x) = cs := List.intercalate_splitOn x
    have hcount := length_splitOn x cs
    rw [h] at hjoin hcount
    obtain rfl : front ++ x :: back = cs := by simpa [List.intercalate] using hjoin
    simp only [List.length_cons, List.length_nil, List.count_append, List.count_cons_self] at hcount
    exact ⟨rfl, List.count_eq_zero.mp (by omega), List.count_eq_zero.mp (by omega)⟩
  · rintro ⟨rfl, hfront, hback⟩
    rw [List.splitOn_append_cons_self_of_not_mem hfront, List.splitOn_eq_singleton hback]

end Text

namespace GitHub

open Resource (IsName)
open Text (splitOn_eq_pair_iff)

variable {name owner repo : String}

/-! ## Splitting a full name -/

/-- A text with one slash, and that neither first nor last. -/
structure HasInnerSlash (text : String) : Prop where
  once : text.toList.count '/' = 1
  not_first : text.toList.head? ≠ some '/'
  not_last : text.toList.getLast? ≠ some '/'

/-- A text that is put together of two parts and a slash, in characters. -/
theorem append_slash_eq_iff {text : String} :
    owner ++ "/" ++ repo = text ↔ text.toList = owner.toList ++ '/' :: repo.toList := by
  rw [← String.toList_inj, eq_comm]
  simp

/-- Splitting undoes joining, for parts that have no slash in them and are not empty. -/
theorem splitFullName_eq_ok_iff :
    splitFullName name = .ok (owner, repo) ↔
      owner ++ "/" ++ repo = Text.trim name ∧ IsName owner ∧ IsName repo := by
  constructor
  · intro h
    unfold splitFullName at h
    split at h
    · next front back hsplit =>
      split_ifs at h with hempty
      obtain ⟨rfl, rfl⟩ := Prod.mk.inj (Except.ok.inj h)
      obtain ⟨hname, hfront, hback⟩ := splitOn_eq_pair_iff.mp hsplit
      simp only [Bool.or_eq_true, List.isEmpty_iff, not_or] at hempty
      exact ⟨append_slash_eq_iff.mpr (by simpa using hname),
        ⟨by simpa using hempty.1, by simpa using hfront⟩,
        ⟨by simpa using hempty.2, by simpa using hback⟩⟩
    · cases h
  · rintro ⟨hname, ⟨howner, hfront⟩, hrepo, hback⟩
    rw [splitFullName, splitOn_eq_pair_iff.mpr ⟨append_slash_eq_iff.mp hname, hfront, hback⟩]
    simp [howner, hrepo]

/-- A full name begins as its owner does. -/
theorem head?_append_slash (howner : owner ≠ "") (back : List Char) :
    (owner.toList ++ '/' :: back).head? = owner.toList.head? :=
  List.head?_append_of_ne_nil _ (String.toList_eq_nil_iff.not.mpr howner)

/-- A full name ends as its repository does. -/
theorem getLast?_append_slash (hrepo : repo ≠ "") (front : List Char) :
    (front ++ '/' :: repo.toList).getLast? = repo.toList.getLast? := by
  have hne : repo.toList ≠ [] := String.toList_eq_nil_iff.not.mpr hrepo
  rw [List.append_cons, List.getLast?_append_of_ne_nil _ hne]

theorem hasInnerSlash_iff {text : String} :
    HasInnerSlash text ↔
      ∃ owner repo, owner ++ "/" ++ repo = text ∧ IsName owner ∧ IsName repo := by
  constructor
  · rintro ⟨honce, hfirst, hlast⟩
    obtain ⟨front, back, hchars⟩ := List.append_of_mem (List.count_pos_iff.mp (honce ▸ Nat.one_pos))
    rw [hchars] at honce hfirst hlast
    rw [List.count_append, List.count_cons_self] at honce
    have hfront : '/' ∉ front := List.count_eq_zero.mp (by omega)
    have hback : '/' ∉ back := List.count_eq_zero.mp (by omega)
    have howner : front ≠ [] := by
      rintro rfl
      exact hfirst rfl
    have hrepo : back ≠ [] := by
      rintro rfl
      exact hlast List.getLast?_concat
    refine ⟨.ofList front, .ofList back, append_slash_eq_iff.mpr (by simpa using hchars), ?_, ?_⟩
    · simp [IsName, howner, hfront]
    · simp [IsName, hrepo, hback]
  · rintro ⟨owner, repo, hname, ⟨howner, hfront⟩, hrepo, hback⟩
    have hchars := append_slash_eq_iff.mp hname
    constructor
    · rw [hchars, List.count_append, List.count_cons_self, List.count_eq_zero.mpr hfront,
        List.count_eq_zero.mpr hback]
    · rw [hchars, head?_append_slash howner]
      exact fun hfirst => hfront (List.mem_of_head? hfirst)
    · rw [hchars, getLast?_append_slash hrepo]
      exact fun hlast => hback (List.mem_of_getLast? hlast)

/-! ## Both parts are names -/

/-- A part with something in it besides blanks is a name without the blanks around it. -/
theorem isName_trim {part : String} (hslash : '/' ∉ part.toList) {c : Char} (hc : c ∈ part.toList)
    (hkept : Text.isBlank c = false) : IsName (Text.trim part) := by
  rw [IsName, Text.trim, String.toList_ofList]
  constructor
  · intro hempty
    have hnil : Text.trimBy Text.isBlank part.toList = [] := by simpa using hempty
    rw [Text.of_trimBy_eq_nil hnil c hc] at hkept
    cases hkept
  · exact fun hmem => hslash (Text.mem_of_mem_trimBy hmem)

/-- A full name that is trimmed begins and ends with characters that are no blanks. The first of
them is in the owner, the last in the repository. -/
theorem isName_trim_parts (h : splitFullName name = .ok (owner, repo)) :
    IsName (Text.trim owner) ∧ IsName (Text.trim repo) := by
  obtain ⟨hname, howner, hrepo⟩ := splitFullName_eq_ok_iff.mp h
  have hchars : Text.trimBy Text.isBlank name.toList = owner.toList ++ '/' :: repo.toList := by
    simpa [Text.trim] using append_slash_eq_iff.mp hname
  have hne : Text.trimBy Text.isBlank name.toList ≠ [] := by simp [hchars]
  constructor
  · obtain ⟨c, rest, hfirst, hkept⟩ := Text.head_trimBy hne
    have hhead : owner.toList.head? = some c := by
      rw [← head?_append_slash howner.1 repo.toList, ← hchars, hfirst, List.head?_cons]
    exact isName_trim howner.2 (List.mem_of_head? hhead) hkept
  · obtain ⟨front, c, hlast, hkept⟩ := Text.last_trimBy hne
    have hend : repo.toList.getLast? = some c := by
      rw [← getLast?_append_slash hrepo.1 owner.toList, ← hchars, hlast, List.getLast?_concat]
    exact isName_trim hrepo.2 (List.mem_of_getLast? hend) hkept

/-! ## What is refused for what it asks -/

namespace Inquiry

variable (c : Client) (q : Inquiry) (p : Http.Peer) (fault : InputFault)

theorem read_ne_input (endpoint : String) (r : Http.Response) :
    q.read endpoint r ≠ .error (.input fault) := by
  by_cases hjson : q.isForText = false
  · obtain ⟨next, hnext, hread⟩ := exists_read_eq q endpoint hjson
    rw [hread, readBody]
    cases Json.parseBytes r.body with
    | error unreadable => rintro ⟨⟩
    | ok v => exact (hnext v).ne_input fault
  · cases q with
    | fileText owner repo path ref => rintro ⟨⟩
    | _ => exact absurd rfl hjson

theorem send_ne_input {endpoint : String} (h : q.endpoint = .ok endpoint) :
    ((q.send c endpoint).run p).1 ≠ .error (.input fault) := by
  have hsent := sent_send c q p h
  by_cases hfit : Sendable endpoint
  · rw [hsent.settled hfit, judge.eq_def]
    split
    · split_ifs <;> simp
    · simp
    · simp
  · obtain ⟨other, hother⟩ := hsent.refused hfit
    simp [hother]

/-- An inquiry is refused for what it asks just if no address can be made of that. -/
theorem run_eq_input_iff :
    ((q.run c).run p).1 = .error (.input fault) ↔ q.endpoint = .error (.input fault) := by
  rw [run_eq, run_bind, run_liftReading]
  cases hendpoint : q.endpoint with
  | error other => simp
  | ok endpoint =>
    have hsend := send_ne_input c q p fault hendpoint
    simp only [run_bind, reduceCtorEq, iff_false]
    rcases hsent : (q.send c endpoint).run p with ⟨_ | r, p'⟩
    · simpa [hsent] using hsend
    · simpa using read_ne_input q fault endpoint r

end Inquiry

/-- A call that is never refused for what it asks. -/
def Allowed {α : Type} (call : Call α) : Prop := ∀ p fault, (call.run p).1 ≠ .error (.input fault)

theorem allowed_profile (c : Client) : Allowed c.profile := by
  intro p fault hrefused
  have hendpoint := (Inquiry.run_eq_input_iff c .profile p fault).mp hrefused
  cases hendpoint

theorem allowed_repository (c : Client) (howner : IsName (Text.trim owner))
    (hrepo : IsName (Text.trim repo)) : Allowed (c.repository owner repo) := by
  intro p fault hrefused
  have hendpoint := (Inquiry.run_eq_input_iff c (.repository owner repo) p fault).mp hrefused
  rw [Inquiry.endpoint, repositoryEndpoint_eq howner hrepo] at hendpoint
  cases hendpoint

end GitHub

/-! ## The check at the command line -/

namespace CommandLine

open GitHub (Allowed splitFullName)

variable {α β : Type}

namespace Run

/-- No way through this part of a command ends for what GitHub was asked. -/
def Fit (x : Run α) : Prop :=
  ∀ s fault, (x.run s).1 ≠ .error (.crash (.failure (.github (.input fault))))

/-- What comes after a part has only to be fit for what that part can give. -/
theorem Fit.bind_of_run {x : Run α} {next : α → Run β} (hx : x.Fit)
    (hnext : ∀ s a, (x.run s).1 = .ok a → (next a).Fit) : (x >>= next).Fit := by
  intro s fault
  have hfirst := hx s fault
  have hthen := hnext s
  change (x.run s >>= fun q => (ExceptT.bindCont next q.1).run q.2).1 ≠ _
  rcases hrun : x.run s with ⟨ending | a, s'⟩
  · rw [hrun] at hfirst
    exact fun h => hfirst (congrArg Except.error (Except.error.inj h))
  · rw [hrun] at hthen
    exact hthen a rfl s' fault

theorem Fit.bind {x : Run α} {next : α → Run β} (hx : x.Fit) (hnext : ∀ a, (next a).Fit) :
    (x >>= next).Fit :=
  hx.bind_of_run fun _ a _ => hnext a

theorem fit_pure (a : α) : Fit (pure a) := by
  rintro s fault ⟨⟩

theorem fit_get : Fit get := by
  rintro s fault ⟨⟩

theorem fit_say (line : String) : Fit (say line) := by
  rintro s fault ⟨⟩

theorem fit_askGitHub (call : GitHub.Call α) : Fit (askGitHub call) := by
  rintro s fault ⟨⟩

theorem fit_giveUp (line : String) : Fit (giveUp line : Run α) := by
  rintro s fault ⟨⟩

end Run

open Run

theorem fit_failCheck {fault : GitHub.Fault} (h : ∀ input, fault ≠ .input input) :
    (failCheck fault : Run α).Fit := by
  rintro s input hcrash
  cases fault <;> cases hcrash
  exact h _ rfl

theorem fit_inquire {call : GitHub.Call α} (h : Allowed call) : (inquire call).Fit := by
  refine (fit_askGitHub call).bind_of_run fun s result hresult => ?_
  obtain rfl : (call.run s.desk.github).1 = result := Except.ok.inj hresult
  split
  · exact fit_pure _
  · next fault hfault => exact fit_failCheck fun input hinput => h _ input (hinput ▸ hfault)

theorem fit_authCheck {repository : Option (String × String)}
    (h : ∀ owner repo, repository = some (owner, repo) →
      ∀ c : GitHub.Client, Allowed (c.repository owner repo)) :
    (authCheck repository).Fit := by
  unfold authCheck
  refine fit_get.bind fun s => ?_
  dsimp only
  -- Whether an application is set up is only said; the check goes on in the same way.
  split_ifs
  all_goals
    refine (fit_say _).bind fun _ => ?_
    split
    · exact fit_giveUp _
    · next token source _ =>
      have hprofile := fit_inquire (GitHub.allowed_profile (.ofToken token))
      refine (fit_say _).bind fun _ => hprofile.bind fun profile => (fit_say _).bind fun _ => ?_
      split
      · next owner repo =>
        have hrepository := fit_inquire (h owner repo rfl (.ofToken token))
        exact hrepository.bind fun r => (fit_say _).bind fun _ => fit_say _
      · exact fit_say _

/-- Arguments that are understood name a repository by a full name that could be split. -/
theorem read_authCheck {w : Workspace} {args : List String} {command : Command}
    (h : Command.read w ("auth-check" :: args) = some command) :
    ∃ repository, command = .authCheck repository ∧
      ∀ parts, repository = some parts → ∃ name, splitFullName name = .ok parts := by
  rw [Command.read] at h
  obtain ⟨a, -, h⟩ := Option.bind_eq_some_iff.mp h
  -- The name of the command decides which of the readers it is.
  change (if a.rest.isEmpty then Command.readAuthCheck a else none) = some command at h
  split_ifs at h
  rw [Command.readAuthCheck] at h
  obtain ⟨-, -, h⟩ := Option.bind_eq_some_iff.mp h
  split at h
  · exact ⟨none, (Option.some.inj h).symm, by simp⟩
  · next name _ =>
    obtain ⟨parts, hparts, h⟩ := Option.bind_eq_some_iff.mp h
    refine ⟨some parts, (Option.some.inj h).symm, ?_⟩
    rintro _ ⟨⟩
    refine ⟨name, ?_⟩
    cases hsplit : splitFullName name with
    | error fault => simp [hsplit, Except.toOption] at hparts
    | ok other => simpa [hsplit, Except.toOption] using hparts

theorem ending_run_authCheck (args : List String) (s : Session) (fault : GitHub.InputFault) :
    (run ("auth-check" :: args) s).1.ending ≠ .crash (.failure (.github (.input fault))) := by
  unfold run
  dsimp only
  split
  · rintro ⟨⟩
  · next command hread =>
    obtain ⟨repository, rfl, hparts⟩ := read_authCheck hread
    have hfit : (authCheck repository).Fit := by
      refine fit_authCheck fun owner repo hrepository c => ?_
      obtain ⟨name, hsplit⟩ := hparts _ hrepository
      obtain ⟨howner, hrepo⟩ := GitHub.isName_trim_parts hsplit
      exact GitHub.allowed_repository c howner hrepo
    have hending := hfit { s with out := "", err := "" } fault
    rw [Command.perform]
    split
    next result s' hrun =>
      rw [hrun] at hending
      cases result with
      | ok done => rintro ⟨⟩
      | error ending => exact fun hcrash => hending (congrArg Except.error hcrash)

end CommandLine

open GitHub CommandLine

/-- A text can be split as a full name just if there is one slash in it, apart from the blanks
around it, and that neither first nor last. The parts make up what was split, both of them are
taken for names, and no inquiry for such a repository is refused for what it asks. So no check at
the command line comes to such an end. -/
theorem splitFullName_usable :
    (∀ name, (∃ owner repo, splitFullName name = .ok (owner, repo)) ↔
      HasInnerSlash (Text.trim name)) ∧
    (∀ name owner repo, splitFullName name = .ok (owner, repo) →
      owner ++ "/" ++ repo = Text.trim name ∧
      Client.checkSegment owner = .ok (Text.trim owner) ∧
      Client.checkSegment repo = .ok (Text.trim repo) ∧
      ∀ (c : Client) p fault, ((c.repository owner repo).run p).1 ≠ .error (.input fault)) ∧
    ∀ args s fault, (CommandLine.run ("auth-check" :: args) s).1.ending ≠
      .crash (.failure (.github (.input fault))) := by
  refine ⟨fun name => ?_, fun name owner repo hsplit => ?_, ending_run_authCheck⟩
  · simp only [splitFullName_eq_ok_iff, hasInnerSlash_iff]
  · obtain ⟨howner, hrepo⟩ := isName_trim_parts hsplit
    obtain ⟨hname, -, -⟩ := splitFullName_eq_ok_iff.mp hsplit
    refine ⟨hname, ?_, ?_, fun c => allowed_repository c howner hrepo⟩
    · rw [checkSegment_eq, if_pos howner]
    · rw [checkSegment_eq, if_pos hrepo]

/-- Blanks of several kinds around the whole and on both sides of the slash. -/
theorem splitFullName_usable_blanks :
    splitFullName "\u3000acme\u00a0/ rocket\x1f" = .ok ("acme\u00a0", " rocket") ∧
    HasInnerSlash (Text.trim "\u3000acme\u00a0/ rocket\x1f") ∧
    "acme\u00a0" ++ "/" ++ " rocket" = Text.trim "\u3000acme\u00a0/ rocket\x1f" ∧
    Client.checkSegment "acme\u00a0" = .ok "acme" ∧ Client.checkSegment " rocket" = .ok "rocket" ∧
    ∀ (c : Client) p fault,
      ((c.repository "acme\u00a0" " rocket").run p).1 ≠ .error (.input fault) := by
  have hsplit : splitFullName "\u3000acme\u00a0/ rocket\x1f" = .ok ("acme\u00a0", " rocket") := by
    decide +kernel
  have howner : Text.trim "acme\u00a0" = "acme" := by decide +kernel
  have hrepo : Text.trim " rocket" = "rocket" := by decide +kernel
  obtain ⟨hsplits, hparts, -⟩ := splitFullName_usable
  obtain ⟨hname, hfirst, hsecond, hasked⟩ := hparts _ _ _ hsplit
  rw [howner] at hfirst
  rw [hrepo] at hsecond
  exact ⟨hsplit, (hsplits _).mp ⟨_, _, hsplit⟩, hname, hfirst, hsecond, hasked⟩

end ReviewDesk
