import Mathlib.Algebra.BigOperators.Group.List.Basic
import Mathlib.Data.List.Forall2
import ReviewDesk.Model.Analysis
import ReviewDesk.Model.Script
import ReviewDesk.Proofs.Doubles
import ReviewDesk.Proofs.Issues

/-!
# The model's pass over a project

The model is asked about every file once, in their order. Each file has its block of issues: the
first of those that the reply holds, or a single one that says why there are none. The usage follows
the replies: every reply that came in is counted and paid for, whether or not it could be read, and
every file that is cut off or fails has its warning.
-/
namespace ReviewDesk

namespace Model

variable {σ : Type}

/-- What the model is asked about a file. -/
def question (budget : Budget) (file : String × String) : String :=
  filePrompt file.1 (detectLanguage file.1) (budget.truncate file.2).1 categoryNames

/-- A file and what the model answers about it. -/
structure Exchange where
  file : String × String
  answer : Except Fault Completion

/-- The model is asked about every file once, in their order. -/
def askAll (m : Model σ) (budget : Budget) (files : Files) : StateM σ (List Exchange) :=
  files.mapM fun file => do return ⟨file, ← m.complete (question budget file) (some systemPrompt)⟩

/-- The replies that came in. -/
def replies (exchanges : List Exchange) : List Completion :=
  exchanges.filterMap (·.answer.toOption)

namespace Exchange

/-- An answer that the pass can go on with: a reply with sensible numbers, or a refusal. -/
def Acceptable (x : Exchange) : Prop :=
  match x.answer with
  | .ok c => (0 ≤ c.tokensIn ∧ c.tokensIn < 2 ^ 63) ∧ 0 ≤ c.tokensOut ∧ c.tokensOut < 2 ^ 63
  | .error (.refused _ _) => True
  | .error _ => False

/-- Why nothing is known about the file: its call failed, or the reply cannot be read. -/
def reason? (x : Exchange) : Option String :=
  match x.answer with
  | .error fault => some fault.message
  | .ok c =>
    match parseReply x.file.1 (stripFences c.text) with
    | .error fault => some (fault.message (stripFences c.text))
    | .ok _ => none

/-- The warnings about the file: one if it is cut off, and one if nothing is known about it. -/
def warnings (budget : Budget) (x : Exchange) : List String :=
  (if (budget.truncate x.file.2).2 then
    [s!"{x.file.1} truncated to {budget.fileChars} characters."] else []) ++
  (x.reason?.map fun reason => s!"Analysis of {x.file.1} failed: {reason}").toList

/-- The block of issues of the file. -/
structure IsBlock (budget : Budget) (x : Exchange) (issues : List Issue) : Prop where
  isOf : ∀ i ∈ issues, i.IsOf x.file.1
  atMost : (issues.length : Int) ≤ budget.findingsPerFile
  /-- A file about which nothing is known has one issue, which says why. -/
  failed : ∀ reason, x.reason? = some reason →
    ∃ i, issues = [i] ∧ i.title = "Analysis Error" ∧ i.severity = .info ∧ i.category = .codeSmell ∧
      i.description = s!"Failed to analyze file: {reason}"
  /-- Else the issues are the first of the reply. -/
  read : ∀ c all, x.answer = .ok c → parseReply x.file.1 (stripFences c.text) = .ok all →
    issues = all.take budget.findingsPerFile.toNat

end Exchange

/-- The usage of a run is that of the exchanges. -/
structure Accounts (budget : Budget) (name : String) (exchanges : List Exchange) (u : Usage) :
    Prop where
  model : u.model = name
  calls : u.calls = (replies exchanges).length
  tokensIn : u.tokensIn = ((replies exchanges).map (·.tokensIn)).sum
  tokensOut : u.tokensOut = ((replies exchanges).map (·.tokensOut)).sum
  cost : cost? name u.tokensIn u.tokensOut = some u.costUsd
  warnings : u.warnings = exchanges.flatMap (Exchange.warnings budget)

/-- Counts of moderate size have a price. -/
theorem cost?_eq_some (name : String) {tokensIn tokensOut : Int}
    (hin : 0 ≤ tokensIn ∧ tokensIn < 2 ^ 126) (hout : 0 ≤ tokensOut ∧ tokensOut < 2 ^ 126) :
    ∃ cost, cost? name tokensIn tokensOut = some cost := by
  simp only [cost?, Field.isInf_realOfInt hin.1 hin.2, Field.isInf_realOfInt hout.1 hout.2]
  exact ⟨_, rfl⟩

/-- Nothing costs nothing. -/
theorem cost?_zero (name : String) : cost? name 0 0 = some 0.0 := by
  have hprice : priceOf name ∈ [((3.0, 15.0) : Float × Float), (0.8, 4.0), (15.0, 75.0)] := by
    unfold priceOf prices
    simp only [List.lookup]
    split
    · simp
    · split
      · simp
      · split <;> simp
  unfold cost?
  generalize priceOf name = price at hprice ⊢
  simp only [List.mem_cons, List.not_mem_nil, or_false] at hprice
  rcases hprice with rfl | rfl | rfl <;> decide +kernel

section File

variable {m : Model σ} {budget : Budget} {file : String × String} {u : Usage} {s s' : σ}

/-- The usage with the warning about a file that is cut off. -/
def cutUsage (budget : Budget) (file : String × String) (u : Usage) : Usage :=
  if (budget.truncate file.2).2 then
    u.warn s!"{file.1} truncated to {budget.fileChars} characters."
  else u

/-- A run goes on from the state in which the model leaves it. -/
theorem run_ask_bind {α : Type} {prompt : String} {instructions : Option String}
    {answer : Except Fault Completion} (next : Except Fault Completion → Run σ α)
    (h : m.complete prompt instructions s = (answer, s')) :
    (m.ask prompt instructions >>= next).run s = (next answer).run s' := by
  change (m.complete prompt instructions >>= fun a => (next a).run) s = _
  change (match m.complete prompt instructions s with | (a, s) => (next a).run s) = _
  rw [h]

theorem cut_some (budget : Budget) (file : String × String) (u : Usage) :
    (if (budget.truncate file.2).2 then
      (some u).map (·.warn s!"{file.1} truncated to {budget.fileChars} characters.")
    else some u) = some (cutUsage budget file u) := by
  unfold cutUsage
  split <;> rfl

/-- A file whose call is refused. -/
theorem analyzeFile_refused {message : String} {status : Option Nat}
    (hasked : m.complete (question budget file) (some systemPrompt) s =
      (.error (.refused message status), s')) :
    (m.analyzeFile budget file.1 file.2 none (some u)).run s =
      (.ok (failed file.1 message (some (cutUsage budget file u))), s') := by
  unfold analyzeFile
  dsimp only
  unfold question at hasked
  rw [run_ask_bind _ hasked, cut_some]
  rfl

/-- A file whose reply came in. -/
theorem analyzeFile_replied {c : Completion} {v : Usage}
    (hasked : m.complete (question budget file) (some systemPrompt) s = (.ok c, s'))
    (hpaid : (cutUsage budget file u).record? c.tokensIn c.tokensOut = some v) :
    (m.analyzeFile budget file.1 file.2 none (some u)).run s =
      (.ok (match parseReply file.1 (stripFences c.text) with
        | .error fault => failed file.1 (fault.message (stripFences c.text)) (some v)
        | .ok issues => (if budget.findingsPerFile < issues.length then
            firstItems budget.findingsPerFile issues else issues, some v)), s') := by
  unfold analyzeFile
  dsimp only
  unfold question at hasked
  have hrecord : (record c (some (cutUsage budget file u)) : Run σ (Option Usage)) =
      pure (some v) := by
    rw [record, hpaid]
  rw [run_ask_bind _ hasked, cut_some]
  dsimp only
  rw [hrecord]
  cases parseReply file.1 (stripFences c.text) <;> rfl

theorem cutUsage_eq (budget : Budget) (file : String × String) (u : Usage) :
    cutUsage budget file u = { u with
      warnings := u.warnings ++ if (budget.truncate file.2).2 then
        [s!"{file.1} truncated to {budget.fileChars} characters."] else [] } := by
  unfold cutUsage Usage.warn
  split
  · rfl
  · rw [List.append_nil]

end File

section Usage

variable {budget : Budget} {name : String} {file : String × String} {u v : Usage}
  {exchanges : List Exchange}

theorem accounts_nil (budget : Budget) (name : String) :
    Accounts budget name [] { model := name } :=
  ⟨rfl, rfl, rfl, rfl, cost?_zero name, rfl⟩

theorem replies_append (exchanges : List Exchange) (x : Exchange) :
    replies (exchanges ++ [x]) = replies exchanges ++ x.answer.toOption.toList := by
  rw [replies, replies, List.filterMap_append]
  rcases x with ⟨file, fault | c⟩ <;> rfl

/-- A refusal costs nothing and is warned about. -/
theorem Accounts.refused (h : Accounts budget name exchanges u) (fault : Fault) :
    Accounts budget name (exchanges ++ [⟨file, .error fault⟩])
      ((cutUsage budget file u).warn s!"Analysis of {file.1} failed: {fault.message}") := by
  have hreplies : replies (exchanges ++ [⟨file, .error fault⟩]) = replies exchanges := by
    rw [replies_append]
    exact List.append_nil _
  obtain ⟨hmodel, hcalls, hin, hout, hcost, hwarnings⟩ := h
  rw [cutUsage_eq]
  constructor <;> simp only [Usage.warn, hreplies]
  · exact hmodel
  · exact hcalls
  · exact hin
  · exact hout
  · exact hcost
  · rw [List.flatMap_append, ← hwarnings]
    simp [Exchange.warnings, Exchange.reason?]

/-- A reply is counted and paid for, and warned about if it cannot be read. -/
theorem Accounts.replied (h : Accounts budget name exchanges u) {c : Completion}
    (hpaid : (cutUsage budget file u).record? c.tokensIn c.tokensOut = some v) :
    Accounts budget name (exchanges ++ [⟨file, .ok c⟩]) { v with
      warnings := v.warnings ++ ((Exchange.mk file (.ok c)).reason?.map fun reason =>
        s!"Analysis of {file.1} failed: {reason}").toList } := by
  have hreplies : replies (exchanges ++ [⟨file, .ok c⟩]) = replies exchanges ++ [c] :=
    replies_append exchanges ⟨file, .ok c⟩
  obtain ⟨hmodel, hcalls, hin, hout, -, hwarnings⟩ := h
  rw [cutUsage_eq] at hpaid
  obtain ⟨cost, hcost, rfl⟩ := Option.map_eq_some_iff.mp hpaid
  constructor <;> simp only [hreplies]
  · exact hmodel
  · simp [hcalls]
  · simp [hin]
  · simp [hout]
  · exact hmodel ▸ hcost
  · simp [Exchange.warnings, hwarnings]

/-- The numbers of the replies add up to no more than their room. -/
theorem sum_replies_bound {f : Completion → Int} {cs : List Completion}
    (h : ∀ c ∈ cs, 0 ≤ f c ∧ f c < 2 ^ 63) :
    0 ≤ (cs.map f).sum ∧ (cs.map f).sum ≤ cs.length * 2 ^ 63 := by
  induction cs with
  | nil => simp
  | cons c rest ih =>
    obtain ⟨hc, hrest⟩ := List.forall_mem_cons.mp h
    obtain ⟨hnonneg, hle⟩ := ih hrest
    rw [List.map_cons, List.sum_cons, List.length_cons]
    push_cast
    omega

theorem mem_replies {c : Completion} (h : c ∈ replies exchanges) :
    ∃ x ∈ exchanges, x.answer = .ok c := by
  obtain ⟨x, hx, hc⟩ := List.mem_filterMap.mp h
  refine ⟨x, hx, ?_⟩
  cases hanswer : x.answer with
  | error fault =>
    rw [hanswer] at hc
    cases hc
  | ok c' =>
    rw [hanswer] at hc
    cases hc
    rfl

theorem acceptable_of_mem_replies (h : ∀ x ∈ exchanges, x.Acceptable) {c : Completion}
    (hc : c ∈ replies exchanges) :
    (0 ≤ c.tokensIn ∧ c.tokensIn < 2 ^ 63) ∧ 0 ≤ c.tokensOut ∧ c.tokensOut < 2 ^ 63 := by
  obtain ⟨x, hx, hanswer⟩ := mem_replies hc
  have hx := h x hx
  rw [Exchange.Acceptable, hanswer] at hx
  exact hx

/-- One more reply can be paid for. -/
theorem Accounts.record (h : Accounts budget name exchanges u)
    (hall : ∀ x ∈ exchanges, x.Acceptable) {c : Completion}
    (hc : Exchange.Acceptable ⟨file, .ok c⟩) (hroom : exchanges.length + 1 < 2 ^ 63) :
    ∃ v, (cutUsage budget file u).record? c.tokensIn c.tokensOut = some v := by
  have hlength : (replies exchanges).length ≤ exchanges.length := List.length_filterMap_le _ _
  have hin := sum_replies_bound fun c hc => (acceptable_of_mem_replies hall hc).1
  have hout := sum_replies_bound fun c hc => (acceptable_of_mem_replies hall hc).2
  rw [← h.tokensIn] at hin
  rw [← h.tokensOut] at hout
  obtain ⟨⟨hin₀, hin₁⟩, hout₀, hout₁⟩ := hc
  have hsumIn : 0 ≤ u.tokensIn + c.tokensIn ∧ u.tokensIn + c.tokensIn < 2 ^ 126 := by omega
  have hsumOut : 0 ≤ u.tokensOut + c.tokensOut ∧ u.tokensOut + c.tokensOut < 2 ^ 126 := by omega
  obtain ⟨cost, hcost⟩ := cost?_eq_some u.model hsumIn hsumOut
  rw [cutUsage_eq, Usage.record?]
  dsimp only
  rw [hcost]
  exact ⟨_, rfl⟩

end Usage

section Block

variable {budget : Budget} {x : Exchange}

theorem isOf_errorIssue (path reason : String) : (errorIssue path reason).IsOf path :=
  ⟨rfl, rfl, (by decide : Text.isBlankText "Analysis Error" = false),
    (by decide : "Analysis Error".length ≤ 200)⟩

theorem isBlock_failed (hbudget : 1 ≤ budget.findingsPerFile) {reason : String}
    (h : x.reason? = some reason) : x.IsBlock budget [errorIssue x.file.1 reason] := by
  constructor
  · intro i hi
    rw [List.mem_singleton.mp hi]
    exact isOf_errorIssue _ _
  · exact hbudget
  · intro other hother
    obtain rfl : reason = other := Option.some.inj (h.symm.trans hother)
    exact ⟨_, rfl, rfl, rfl, rfl, rfl⟩
  · intro c all hanswer hparse
    simp [Exchange.reason?, hanswer, hparse] at h

theorem isBlock_read (hbudget : 1 ≤ budget.findingsPerFile) {c : Completion} {all : List Issue}
    (hanswer : x.answer = .ok c) (hparse : parseReply x.file.1 (stripFences c.text) = .ok all) :
    x.IsBlock budget (all.take budget.findingsPerFile.toNat) := by
  constructor
  · intro i hi
    exact isOf_parseReply hparse i (List.mem_of_mem_take hi)
  · rw [List.length_take]
    omega
  · intro reason hreason
    simp [Exchange.reason?, hanswer, hparse] at hreason
  · intro c' all' hanswer' hparse'
    obtain rfl : c = c' := Except.ok.inj (hanswer.symm.trans hanswer')
    rw [Except.ok.inj (hparse.symm.trans hparse')]

/-- A bound that is not negative keeps the first items. -/
theorem firstItems_eq_take {α : Type} {n : Int} (hn : 0 ≤ n) (items : List α) :
    (if n < items.length then firstItems n items else items) = items.take n.toNat := by
  split
  · rw [firstItems, if_pos hn]
  · rw [List.take_of_length_le (by omega)]

end Block

section Run

variable {m : Model σ} {budget : Budget} {name : String} {file : String × String} {u : Usage}
  {s s' : σ} {exchanges : List Exchange} {answer : Except Fault Completion}

/-- One file: its block, and the usage with one exchange more. -/
theorem analyzeFile_step (hbudget : 1 ≤ budget.findingsPerFile)
    (hasked : m.complete (question budget file) (some systemPrompt) s = (answer, s'))
    (hu : Accounts budget name exchanges u) (hall : ∀ x ∈ exchanges, x.Acceptable)
    (hx : Exchange.Acceptable ⟨file, answer⟩) (hroom : exchanges.length + 1 < 2 ^ 63) :
    ∃ issues v, (m.analyzeFile budget file.1 file.2 none (some u)).run s =
        (.ok (issues, some v), s') ∧
      Exchange.IsBlock budget ⟨file, answer⟩ issues ∧
      Accounts budget name (exchanges ++ [⟨file, answer⟩]) v := by
  cases answer with
  | error fault =>
    cases fault with
    | refused message status =>
      exact ⟨_, _, analyzeFile_refused hasked, isBlock_failed hbudget rfl, hu.refused _⟩
    | broken message => exact hx.elim
    | flawed flaw => exact hx.elim
    | unpriceable => exact hx.elim
  | ok c =>
    obtain ⟨v, hpaid⟩ := hu.record hall hx hroom
    have hrun := analyzeFile_replied hasked hpaid
    have hv := hu.replied hpaid
    cases hparse : parseReply file.1 (stripFences c.text) with
    | error fault =>
      have hreason : (Exchange.mk file (.ok c)).reason? =
          some (fault.message (stripFences c.text)) := by
        simp [Exchange.reason?, hparse]
      rw [hparse] at hrun
      rw [hreason] at hv
      exact ⟨_, _, hrun, isBlock_failed hbudget hreason, hv⟩
    | ok all =>
      have hreason : (Exchange.mk file (.ok c)).reason? = none := by
        simp [Exchange.reason?, hparse]
      rw [hparse] at hrun
      dsimp only at hrun
      rw [firstItems_eq_take (Int.le_of_lt hbudget)] at hrun
      rw [hreason, Option.map_none, Option.toList_none, List.append_nil] at hv
      exact ⟨_, _, hrun, isBlock_read hbudget rfl hparse, hv⟩

theorem run_bind_ok {α β : Type} {x : Run σ α} {a : α} (next : α → Run σ β)
    (h : x.run s = (.ok a, s')) : (x >>= next).run s = (next a).run s' := by
  change (match x.run s with | (a, s) => (ExceptT.bindCont next a : StateM σ _) s) = _
  rw [h]
  rfl

theorem askAll_cons {rest : Files}
    (hasked : m.complete (question budget file) (some systemPrompt) s = (answer, s')) :
    m.askAll budget (file :: rest) s =
      (⟨file, answer⟩ :: (m.askAll budget rest s').1, (m.askAll budget rest s').2) := by
  unfold askAll
  rw [List.mapM_cons]
  change (match m.complete (question budget file) (some systemPrompt) s with
    | (a, s) => (Exchange.mk file a :: (m.askAll budget rest s).1, (m.askAll budget rest s).2)) = _
  rw [hasked]
  rfl

/-- The files one after the other: their blocks, and the usage with all exchanges. -/
theorem analyzeProject_step (hbudget : 1 ≤ budget.findingsPerFile) {files : Files}
    (hu : Accounts budget name exchanges u)
    (hall : ∀ x ∈ exchanges ++ (m.askAll budget files s).1, x.Acceptable)
    (hroom : exchanges.length + files.length < 2 ^ 63) :
    ∃ blocks v, (m.analyzeProject budget files (some u)).run s =
        (.ok (blocks.flatten, some v), (m.askAll budget files s).2) ∧
      List.Forall₂ (Exchange.IsBlock budget) (m.askAll budget files s).1 blocks ∧
      Accounts budget name (exchanges ++ (m.askAll budget files s).1) v := by
  induction files generalizing exchanges u s with
  | nil =>
    refine ⟨[], u, rfl, .nil, ?_⟩
    change Accounts budget name (exchanges ++ []) u
    rw [List.append_nil]
    exact hu
  | cons file rest ih =>
    cases hasked : m.complete (question budget file) (some systemPrompt) s with
    | mk answer s' =>
      rw [askAll_cons hasked] at hall ⊢
      dsimp only at hall ⊢
      rw [List.length_cons] at hroom
      rw [List.append_cons] at hall ⊢
      have hfirst : ∀ x ∈ exchanges ++ [⟨file, answer⟩], x.Acceptable :=
        fun x hx => hall x (List.mem_append_left _ hx)
      obtain ⟨issues, v, hfile, hblock, hv⟩ := analyzeFile_step hbudget hasked hu
        (fun x hx => hfirst x (List.mem_append_left _ hx)) (hfirst _ (by simp)) (by omega)
      obtain ⟨blocks, w, hrest, hblocks, hw⟩ := ih hv hall (by simp; omega)
      refine ⟨issues :: blocks, w, ?_, .cons hblock hblocks, hw⟩
      rw [analyzeProject, run_bind_ok _ hfile, run_bind_ok _ hrest]
      rfl

theorem map_file_askAll (m : Model σ) (budget : Budget) (files : Files) (s : σ) :
    (m.askAll budget files s).1.map (·.file) = files := by
  induction files generalizing s with
  | nil => rfl
  | cons file rest ih =>
    cases hasked : m.complete (question budget file) (some systemPrompt) s with
    | mk answer s' => rw [askAll_cons hasked, List.map_cons, ih]

/-- A pass comes to its end: it has asked about every file once, in their order, its issues are the
blocks of the files, and its usage is that of the answers. -/
theorem analyzeProject_passes (m : Model σ) (budget : Budget) (name : String) (files : Files)
    (s : σ) (hbudget : 1 ≤ budget.findingsPerFile) (hfiles : files.length < 2 ^ 63)
    (hanswers : ∀ x ∈ (m.askAll budget files s).1, x.Acceptable) :
    ∃ blocks u, (m.analyzeProject budget files (some { model := name })).run s =
        (.ok (blocks.flatten, some u), (m.askAll budget files s).2) ∧
      (m.askAll budget files s).1.map (·.file) = files ∧
      List.Forall₂ (Exchange.IsBlock budget) (m.askAll budget files s).1 blocks ∧
      Accounts budget name (m.askAll budget files s).1 u := by
  obtain ⟨blocks, u, hrun, hblocks, hu⟩ := analyzeProject_step hbudget
    (accounts_nil budget name) (by simpa using hanswers) (by simpa using hfiles)
  exact ⟨blocks, u, hrun, map_file_askAll m budget files s, hblocks, by simpa using hu⟩

/-- Room for one issue of a file. -/
def tight : Budget := { findingsPerFile := 1 }

def threeFiles : Files := [("a.py", "x = 1"), ("b.py", "y = 2"), ("c.py", "z = 3")]

/-- A reply with two issues. -/
def twoIssues : Completion :=
  ⟨"[\x7b\"title\": \"A\"\x7d, \x7b\"title\": \"B\"\x7d]", 3, 4, "model"⟩

/-- A model that finds two issues, is busy, and says something unreadable. -/
def moody : Script where
  name := "model"
  replies := [.text twoIssues.text 3 4, .refused "busy", .text "no list" 5 6]

theorem parse_twoIssues :
    ∃ all, parseReply "a.py" (stripFences twoIssues.text) = .ok all ∧ all.length = 2 := by
  have hlength : (parseReply "a.py" (stripFences twoIssues.text)).toOption.map (·.length) =
      some 2 := by decide +kernel
  cases hparse : parseReply "a.py" (stripFences twoIssues.text) with
  | error fault =>
    rw [hparse] at hlength
    cases hlength
  | ok all =>
    rw [hparse] at hlength
    exact ⟨all, rfl, Option.some.inj hlength⟩

/-- Every file has its issue; two replies are paid for, and two files are warned about. -/
theorem analyzeProject_passes_threeFiles :
    ∃ (blocks : List (List Issue)) (u : Usage),
      ((Script.model "model").analyzeProject tight threeFiles
          (some { model := "model" })).run moody =
        (.ok (blocks.flatten, some u), ((Script.model "model").askAll tight threeFiles moody).2) ∧
      blocks.map (·.length) = [1, 1, 1] ∧ u.calls = 2 ∧ u.tokensIn = 8 ∧ u.tokensOut = 10 ∧
      u.warnings.length = 2 := by
  have hanswers : ∀ x ∈ ((Script.model "model").askAll tight threeFiles moody).1,
      x.Acceptable := by
    change ∀ x ∈ [Exchange.mk _ _, Exchange.mk _ _, Exchange.mk _ _], _
    simp [Exchange.Acceptable, Script.answer, moody]
  obtain ⟨blocks, u, hrun, -, hblocks, hu⟩ := analyzeProject_passes (Script.model "model") tight
    "model" threeFiles moody (by decide) (by decide) hanswers
  refine ⟨blocks, u, hrun, ?_, hu.calls, hu.tokensIn, hu.tokensOut, ?_⟩
  · obtain ⟨all, hparse, hlength⟩ := parse_twoIssues
    obtain ⟨reason, hreason⟩ : ∃ reason,
        (Exchange.mk ("c.py", "z = 3") (.ok ⟨"no list", 5, 6, "model"⟩)).reason? = some reason :=
      Option.isSome_iff_exists.mp (by decide +kernel)
    obtain _ | ⟨hfirst, _ | ⟨hsecond, _ | ⟨hthird, ⟨⟩⟩⟩⟩ := hblocks
    obtain rfl := hfirst.read _ all rfl hparse
    obtain ⟨_, rfl, -⟩ := hsecond.failed _ rfl
    obtain ⟨_, rfl, -⟩ := hthird.failed reason hreason
    simp [hlength, tight]
  · rw [hu.warnings]
    decide +kernel

end Run

end Model

end ReviewDesk
