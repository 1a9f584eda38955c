import ReviewDesk.Proofs.Checking
import ReviewDesk.Proofs.Columns
import ReviewDesk.Proofs.Issues

/-!
# Replies that are refused

A reply is read if it is an array of objects, whatever their fields hold, and every issue that is
read passes the checks of a finding. One kind of value breaks this: a line number in text whose
digits make no number. It spoils the whole reply. Main statement: `parseReply_refused_iff`.
-/
namespace ReviewDesk

/-- The fields from which a finding is made of an issue. -/
def Issue.fields (i : Issue) : List (String × Json) :=
  [("title", .str i.title), ("description", .str i.description),
    ("severity", .str i.severity.name), ("category", .str i.category.name),
    ("file_path", Json.ofText i.filePath), ("line_number", Json.ofOption Json.ofNat i.line),
    ("end_line_number", Json.ofOption Json.ofNat i.endLine),
    ("code_snippet", Json.ofText i.snippet), ("suggested_fix", Json.ofText i.suggestedFix),
    ("explanation", Json.ofText i.explanation), ("resources_url", Json.ofText i.resources),
    ("impact_score", Json.ofOption Json.ofNat i.impact),
    ("metrics_violated", .arr (i.metrics.map .str))]

namespace Field

@[simp] theorem nullable_ofText (s : Option String) : nullable text (Json.ofText s) = .good s := by
  cases s <;> rfl

@[simp] theorem nullable_count (n : Option Nat) :
    nullable Issue.readCount (Json.ofOption Json.ofNat n) = .good n := by
  cases n with
  | none => rfl
  | some n =>
    simp [Json.ofOption, Json.ofNat, nullable, Issue.readCount, integerFrom, integer,
      Checked.andThen, checkAtLeast, Checked.map, Int.not_lt.mpr (Int.natCast_nonneg n)]

theorem nullable_impact {n : Option Nat} (h : ∀ k ∈ n, 1 ≤ k ∧ k ≤ 10) :
    nullable Issue.readImpact (Json.ofOption Json.ofNat n) = .good n := by
  cases n with
  | none => rfl
  | some n =>
    have hlow : ¬(n : Int) < 1 := by have := (h n rfl).1; omega
    have hhigh : ¬(10 : Int) < n := by have := (h n rfl).2; omega
    simp [Json.ofOption, Json.ofNat, nullable, Issue.readImpact, integerBetween, integer,
      Checked.andThen, checkAtLeast, checkAtMost, Checked.map, hlow, hhigh]

@[simp] theorem oneOf_severity (s : Severity) :
    oneOf Severity.all Severity.name (.str s.name) = .good s := by
  cases s <;> rfl

@[simp] theorem oneOf_category (c : Category) :
    oneOf Category.all Category.name (.str c.name) = .good c := by
  cases c <;> rfl

end Field

/-- What is fit to be a finding is accepted as one. -/
theorem Finding.read_fields {i : Issue} {id : Uuid} (h : Finding.Valid ⟨i, id⟩)
    (hresolved : i.isResolved = false) : Finding.read id i.fields = .good ⟨i, id⟩ := by
  have htitle : Issue.readTitle (.str i.title) = .good i.title :=
    Checked.andThen_eq_good.mpr ⟨i.title, rfl, Checked.andThen_eq_good.mpr
      ⟨i.title, Field.checkLength_eq_good.mpr ⟨h.title, rfl⟩, by simp [h.text]⟩⟩
  have hmetrics : Field.list Field.text (.arr (i.metrics.map .str)) = .good i.metrics :=
    Store.Cell.each_text i.metrics 0
  obtain ⟨title, description, severity, category, filePath, line, endLine, snippet, suggestedFix,
    explanation, resources, impact, metrics, isResolved⟩ := i
  simpa [Finding.read, Issue.fields, Field.optional, Field.required, Field.Key.find, Json.lookup?,
    Checked.under, Functor.map, Seq.seq, Checked.map, Checked.seq, Field.text, htitle, hmetrics,
    Field.nullable_impact h.impact] using hresolved

namespace Model

/-- Text that consists of digits and is no number, because one of them has no place in a numeral or
because there are more than are read. -/
structure IsFalseNumber (s : String) : Prop where
  some_digit : Text.trim s ≠ ""
  all_digits : ∀ c ∈ (Text.trim s).toList, Text.isDigit c = true
  no_number : (∃ c ∈ (Text.trim s).toList, Text.digitValue? c = none) ∨
    4300 < (Text.trim s).length

theorem numberOfDigits_eq_error_iff (t : String) :
    (∃ fault, numberOfDigits t = .error fault) ↔
      (∃ c ∈ t.toList, Text.digitValue? c = none) ∨ 4300 < t.length := by
  unfold numberOfDigits Json.maxDigits
  rw [← String.length_toList]
  generalize t.toList = cs
  dsimp only
  by_cases hall : ∀ c ∈ cs, (Text.digitValue? c).isSome = true
  · have hnone : ¬∃ c ∈ cs, Text.digitValue? c = none := by
      rintro ⟨c, hc, hvalue⟩
      simpa [hvalue] using hall c hc
    rw [List.takeWhile_eq_self_iff.mpr hall]
    split_ifs with hlong hshort
    · exact ⟨fun _ => .inr hlong, fun _ => ⟨_, rfl⟩⟩
    · exact absurd hshort (Nat.lt_irrefl _)
    · simp [hnone, hlong]
  · have hshort : (cs.takeWhile fun c => (Text.digitValue? c).isSome).length < cs.length := by
      have hfront : cs.takeWhile (fun c => (Text.digitValue? c).isSome) <+: cs :=
        List.takeWhile_prefix _
      refine lt_of_le_of_ne hfront.length_le fun hlength => hall ?_
      rw [← List.takeWhile_eq_self_iff]
      exact hfront.eq_of_length hlength
    have hsome : ∃ c ∈ cs, Text.digitValue? c = none := by
      simpa using hall
    rw [if_pos hshort]
    split_ifs <;> simp [hsome]

theorem lineOf_text (s : String) :
    (∃ fault, lineOf (some (.str s)) = .error fault) ↔ IsFalseNumber s := by
  unfold lineOf
  dsimp only
  split_ifs with hplain
  · have hnot : ¬IsFalseNumber s := by
      rintro ⟨hsome, hall, -⟩
      obtain hempty | hmore := Bool.or_eq_true_iff.mp hplain
      · exact hsome (String.isEmpty_iff.mp hempty)
      · simp [List.all_eq_true.mpr hall] at hmore
    simp [hnot]
  · have hdigits : Text.trim s ≠ "" ∧ ∀ c ∈ (Text.trim s).toList, Text.isDigit c = true := by
      simpa using hplain
    have hmap : (∃ fault, (numberOfDigits (Text.trim s)).map some = .error fault) ↔
        ∃ fault, numberOfDigits (Text.trim s) = .error fault := by
      cases numberOfDigits (Text.trim s) <;> simp [Except.map]
    rw [hmap, numberOfDigits_eq_error_iff]
    exact ⟨fun h => ⟨hdigits.1, hdigits.2, h⟩, fun h => h.no_number⟩

/-- Only such a text is refused as a line number; any other value is taken or left out. -/
theorem lineOf_eq_error_iff (v : Option Json) :
    (∃ fault, lineOf v = .error fault) ↔ ∃ s, v = some (.str s) ∧ IsFalseNumber s := by
  cases v with
  | none => simp [lineOf]
  | some v =>
    cases v with
    | str s => simp [lineOf_text]
    | _ => simp [lineOf]

/-! ## Objects -/

/-- The keys under which an object of a reply holds line numbers. -/
def lineKeys : List String := ["lineNumber", "endLineNumber"]

/-- The object has a line number that only looks like one. -/
def Misleads (fields : List (String × Json)) : Prop :=
  ∃ key ∈ lineKeys, ∃ s, Json.lookup? fields key = some (.str s) ∧ IsFalseNumber s

variable {path : String}

theorem issueOf_eq_error_iff (fields : List (String × Json)) :
    (∃ fault, issueOf path fields = .error fault) ↔ Misleads fields := by
  have hmisleads : Misleads fields ↔
      (∃ fault, lineOf (Json.lookup? fields "lineNumber") = .error fault) ∨
        ∃ fault, lineOf (Json.lookup? fields "endLineNumber") = .error fault := by
    simp [Misleads, lineKeys, lineOf_eq_error_iff]
  rw [hmisleads, issueOf]
  dsimp only
  cases hline : lineOf (Json.lookup? fields "lineNumber") with
  | error fault => simp [bind, Except.bind]
  | ok line =>
    cases hend : lineOf (Json.lookup? fields "endLineNumber") with
    | error fault => simp [bind, Except.bind]
    | ok endLine => simp [bind, Except.bind, pure, Except.pure]

theorem isResolved_issueOf {fields : List (String × Json)} {i : Issue}
    (h : issueOf path fields = .ok i) : i.isResolved = false := by
  unfold issueOf at h
  dsimp only at h
  cases hline : lineOf (Json.lookup? fields "lineNumber") with
  | error fault =>
    rw [hline] at h
    cases h
  | ok line =>
    cases hend : lineOf (Json.lookup? fields "endLineNumber") with
    | error fault =>
      rw [hline, hend] at h
      cases h
    | ok endLine =>
      rw [hline, hend] at h
      simp only [bind, Except.bind, pure, Except.pure, Except.ok.injEq] at h
      rw [← h]

theorem impact_range (s : Severity) : 1 ≤ s.impact ∧ s.impact ≤ 10 := by
  cases s <;> decide

/-- Whatever the fields of an object are, its issue passes the checks of a finding. -/
theorem read_issueOf {fields : List (String × Json)} {i : Issue} (h : issueOf path fields = .ok i)
    (id : Uuid) : Finding.read id i.fields = .good ⟨i, id⟩ := by
  have hof := isOf_issueOf h
  -- A title that is left out is replaced by one with text in it, so none is empty.
  have hlength : 1 ≤ i.title.length := by
    rw [Nat.one_le_iff_ne_zero]
    intro hzero
    have htext := hof.title_text
    rw [String.length_eq_zero_iff.mp hzero] at htext
    cases htext
  have himpact : ∀ n ∈ i.impact, 1 ≤ n ∧ n ≤ 10 := by
    intro n hn
    rw [hof.impact, Option.mem_some_iff] at hn
    exact hn ▸ impact_range i.severity
  exact Finding.read_fields ⟨⟨hlength, hof.title_length⟩, hof.title_text, himpact⟩
    (isResolved_issueOf h)

/-! ## Replies -/

/-- Every item of a list is read, or the first that is refused spoils the list. -/
theorem mapM_outcome {α β ε : Type} (f : α → Except ε β) (xs : List α) :
    (∃ ys, xs.mapM f = .ok ys ∧ List.Forall₂ (fun x y => f x = .ok y) xs ys) ∨
      ∃ x ∈ xs, ∃ fault, f x = .error fault ∧ xs.mapM f = .error fault := by
  induction xs with
  | nil => exact .inl ⟨[], rfl, .nil⟩
  | cons x xs ih =>
    rw [List.mapM_cons]
    cases hx : f x with
    | error fault => exact .inr ⟨x, List.mem_cons_self, fault, hx, rfl⟩
    | ok y =>
      obtain ⟨ys, hys, hall⟩ | ⟨z, hz, fault, hfault, hxs⟩ := ih
      · rw [hys]
        exact .inl ⟨y :: ys, rfl, .cons hx hall⟩
      · rw [hxs]
        exact .inr ⟨z, List.mem_cons_of_mem x hz, fault, hfault, rfl⟩

/-- An array of which every item is read is an array of objects. -/
theorem objects_of_issues {items : List Json} {issues : List Issue}
    (h : List.Forall₂ (fun item i => itemIssue path item = .ok i) items issues) :
    ∃ objects : List (List (String × Json)), items = objects.map .obj ∧
      List.Forall₂ (fun fields i => issueOf path fields = .ok i) objects issues := by
  induction h with
  | nil => exact ⟨[], rfl, .nil⟩
  | @cons item i items issues hitem _ ih =>
    obtain ⟨objects, rfl, hobjects⟩ := ih
    cases item with
    | obj fields => exact ⟨fields :: objects, rfl, .cons hitem hobjects⟩
    | _ => cases hitem

/-- A reply without its fence that is an array of these objects. -/
def Holds (source : String) (objects : List (List (String × Json))) : Prop :=
  Json.parse source = .ok (.arr (objects.map .obj))

theorem Holds.eq {source : String} {objects objects' : List (List (String × Json))}
    (h : Holds source objects) (h' : Holds source objects') : objects = objects' := by
  have hmaps : objects.map Json.obj = objects'.map Json.obj := by
    simpa [Holds] using h.symm.trans h'
  exact List.map_injective_iff.mpr (fun _ _ => Json.obj.inj) hmaps

theorem Holds.parseReply {source : String} {objects : List (List (String × Json))}
    (h : Holds source objects) : parseReply path source = objects.mapM (issueOf path) := by
  unfold Model.parseReply
  rw [h]
  exact List.mapM_map

theorem holds_of_parseReply {source : String} {issues : List Issue}
    (h : parseReply path source = .ok issues) :
    ∃ objects, Holds source objects ∧
      List.Forall₂ (fun fields i => issueOf path fields = .ok i) objects issues := by
  unfold parseReply at h
  cases hparse : Json.parse source with
  | error fault =>
    rw [hparse] at h
    cases h
  | ok payload =>
    rw [hparse] at h
    cases payload with
    | arr items =>
      obtain ⟨found, hfound, hall⟩ | ⟨_, -, fault, -, hfault⟩ :=
        mapM_outcome (itemIssue path) items
      · obtain rfl : found = issues := Except.ok.inj (hfound.symm.trans h)
        obtain ⟨objects, rfl, hobjects⟩ := objects_of_issues hall
        exact ⟨objects, hparse, hobjects⟩
      · cases hfault.symm.trans h
    | _ => cases h

theorem misleads_of_error {source : String} {objects : List (List (String × Json))}
    {fault : ReplyFault} (h : Holds source objects)
    (hfault : parseReply path source = .error fault) :
    ∃ fields ∈ objects, Misleads fields := by
  rw [h.parseReply] at hfault
  obtain ⟨issues, hissues, -⟩ | ⟨fields, hmem, found, hfound, -⟩ :=
    mapM_outcome (issueOf path) objects
  · cases hissues.symm.trans hfault
  · exact ⟨fields, hmem, (issueOf_eq_error_iff fields).mp ⟨found, hfound⟩⟩

theorem not_misleads_of_issues {objects : List (List (String × Json))} {issues : List Issue}
    (h : List.Forall₂ (fun fields i => issueOf path fields = .ok i) objects issues) :
    ∀ fields ∈ objects, ¬Misleads fields := by
  induction h with
  | nil => simp
  | @cons fields i objects issues hi _ ih =>
    refine List.forall_mem_cons.mpr ⟨fun hmisleads => ?_, ih⟩
    obtain ⟨fault, hfault⟩ := (@issueOf_eq_error_iff path fields).mpr hmisleads
    cases hi.symm.trans hfault

/-- A reply is refused if it is no array of objects or if one of them has a line number that only
looks like one. Otherwise there is an issue for each object, in their order, and each of them passes
the checks of a finding. -/
theorem parseReply_refused_iff (path text : String) :
    ((∃ fault, parseReply path (stripFences text) = .error fault) ↔
      (¬∃ objects, Holds (stripFences text) objects) ∨
        ∃ objects, Holds (stripFences text) objects ∧ ∃ fields ∈ objects, Misleads fields) ∧
    ∀ objects, Holds (stripFences text) objects → (∀ fields ∈ objects, ¬Misleads fields) →
      ∃ issues, parseReply path (stripFences text) = .ok issues ∧
        List.Forall₂ (fun fields i => issueOf path fields = .ok i ∧
          ∀ id, Finding.read id i.fields = .good ⟨i, id⟩) objects issues := by
  generalize stripFences text = source
  cases hreply : parseReply path source with
  | error fault =>
    refine ⟨⟨fun _ => ?_, fun _ => ⟨fault, rfl⟩⟩, fun objects hobjects hfair => ?_⟩
    · by_cases hholds : ∃ objects, Holds source objects
      · obtain ⟨objects, hobjects⟩ := hholds
        exact .inr ⟨objects, hobjects, misleads_of_error hobjects hreply⟩
      · exact .inl hholds
    · obtain ⟨fields, hmem, hmisleads⟩ := misleads_of_error hobjects hreply
      exact absurd hmisleads (hfair fields hmem)
  | ok issues =>
    obtain ⟨objects, hobjects, hissues⟩ := holds_of_parseReply hreply
    refine ⟨⟨fun h => by simp at h, fun h => ?_⟩, fun objects' hobjects' _ => ?_⟩
    · obtain hnone | ⟨objects', hobjects', fields, hmem, hmisleads⟩ := h
      · exact absurd ⟨objects, hobjects⟩ hnone
      · obtain rfl := hobjects.eq hobjects'
        exact absurd hmisleads (not_misleads_of_issues hissues fields hmem)
    · obtain rfl := hobjects.eq hobjects'
      exact ⟨issues, rfl, hissues.imp fun fields i hi => ⟨hi, read_issueOf hi⟩⟩

/-- A fenced reply of two objects with values of unexpected kinds. -/
def oddValues : String :=
  "```json\n[\x7b\"title\": [7], \"severity\": null, \"lineNumber\": \"x\"\x7d, \x7b\x7d]\n```"

/-- They are read as two issues. -/
theorem parseReply_refused_iff_odd :
    ∃ issues, parseReply "a.py" (stripFences oddValues) = .ok issues ∧ issues.length = 2 := by
  have hholds : Holds (stripFences oddValues)
      [[("title", .arr [.int 7]), ("severity", .null), ("lineNumber", .str "x")], []] := rfl
  have hfair : ∀ fields ∈ [[("title", Json.arr [.int 7]), ("severity", .null),
      ("lineNumber", .str "x")], []], ¬Misleads fields := by
    have hletter : ¬IsFalseNumber "x" := fun h =>
      absurd (h.all_digits 'x' (by decide)) (by decide +kernel)
    simp [Misleads, lineKeys, Json.lookup?, hletter]
  obtain ⟨issues, hissues, hall⟩ := (parseReply_refused_iff "a.py" oddValues).2 _ hholds hfair
  exact ⟨issues, hissues, hall.length_eq.symm⟩

/-- A reply of one object, on a line that is written as a raised two. -/
def raisedTwo : String := "[\x7b\"title\": \"Bug\", \"lineNumber\": \"²\"\x7d]"

/-- The raised two is a digit and no number, so the reply is refused. -/
theorem parseReply_raisedTwo :
    Holds (stripFences raisedTwo) [[("title", .str "Bug"), ("lineNumber", .str "²")]] ∧
      parseReply "a.py" (stripFences raisedTwo) = .error (.badNumber "²") := by
  constructor
  · rfl
  · decide +kernel

end Model

end ReviewDesk
