import Mathlib
import ReviewDesk.Report.Csv

/-!
# Reading comma-separated records

A reader of tables goes through the text character by character. It does not know why the writer put
a field in quotes; it only follows the rules of the format and refuses what breaks them. Main
statement: `read_render`. Whatever text the findings hold, the reader gets their rows back.
-/
namespace ReviewDesk.Report.Csv

/-- Where in a record the reader is. -/
inductive Mode where
  /-- At the start of a field. -/
  | start
  /-- In a field without quotes. -/
  | plain
  /-- In a field with quotes. -/
  | quoted
  /-- After a quote in a field with quotes: the field ends here, or a second quote follows. -/
  | quoteSeen
  /-- After the carriage return that ends a record. -/
  | returnSeen
  deriving Repr, DecidableEq

/-- What has been read so far, the last character, field and record first. -/
structure Reading where
  mode : Mode := .start
  field : List Char := []
  record : List String := []
  records : List (List String) := []
  deriving Repr, DecidableEq

namespace Reading

def push (r : Reading) (mode : Mode) (c : Char) : Reading :=
  { r with mode, field := c :: r.field }

def endField (r : Reading) (mode : Mode) : Reading :=
  { r with mode, field := [], record := .ofList r.field.reverse :: r.record }

def endRecord (r : Reading) : Reading :=
  { r with mode := .start, record := [], records := r.record.reverse :: r.records }

/-- After a field stands a comma or the end of the record. -/
def afterField (r : Reading) (c : Char) : Option Reading :=
  if c = ',' then some (r.endField .start)
  else if c = '\r' then some (r.endField .returnSeen)
  else none

/-- Quotes and line feeds stand in quoted fields only. -/
def inPlain (r : Reading) (c : Char) : Option Reading :=
  if c = ',' ∨ c = '\r' then r.afterField c
  else if c = '"' ∨ c = '\n' then none
  else some (r.push .plain c)

def step (r : Reading) (c : Char) : Option Reading :=
  match r.mode with
  | .start => if c = '"' then some { r with mode := .quoted } else r.inPlain c
  | .plain => r.inPlain c
  | .quoted => some (if c = '"' then { r with mode := .quoteSeen } else r.push .quoted c)
  | .quoteSeen => if c = '"' then some (r.push .quoted c) else r.afterField c
  | .returnSeen => if c = '\n' then some r.endRecord else none

/-- The records of a text that ends here; the last one may lack its line end. -/
def finish (r : Reading) : Option (List (List String)) :=
  match r.mode, r.record with
  | .start, [] => some r.records.reverse
  | .quoted, _ => none
  | .returnSeen, _ => none
  | _, _ => some (r.endField .start).endRecord.records.reverse

end Reading

/-- The records of a text, unless it is no table. -/
def read (text : String) : Option (List (List String)) := do
  (← text.toList.foldlM Reading.step {}).finish

/-! ## One field -/

namespace Reading

/-- The reader has come to the end of a field, and knows no more than before but its text. -/
structure Holds (r : Reading) (field : List Char) (r' : Reading) : Prop where
  mode : r'.mode = .start ∨ r'.mode = .plain ∨ r'.mode = .quoteSeen
  field : r'.field = field.reverse
  record : r'.record = r.record
  records : r'.records = r.records

variable {r r' : Reading} {field : List Char}

theorem Holds.step_comma (h : r.Holds field r') :
    r'.step ',' =
      some { mode := .start, record := .ofList field :: r.record, records := r.records } := by
  obtain ⟨hmode, hfield, hrecord, hrecords⟩ := h
  obtain hmode | hmode | hmode := hmode <;>
    simp [step, hmode, inPlain, afterField, endField, hfield, hrecord, hrecords]

theorem Holds.step_return (h : r.Holds field r') :
    r'.step '\r' =
      some { mode := .returnSeen, record := .ofList field :: r.record, records := r.records } := by
  obtain ⟨hmode, hfield, hrecord, hrecords⟩ := h
  obtain hmode | hmode | hmode := hmode <;>
    simp [step, hmode, inPlain, afterField, endField, hfield, hrecord, hrecords]

/-- In quotes every character is taken, and two quotes are one. -/
theorem foldlM_quoteChars (cs : List Char) (r : Reading) (h : r.mode = .quoted) :
    (quoteChars cs).foldlM step r = some { r with field := cs.reverse ++ r.field } := by
  fun_induction quoteChars cs generalizing r with
  | case1 => rfl
  | case2 cs ih => simp [step, h, push, ih]
  | case3 c cs hc ih =>
    have hne : c ≠ '"' := fun heq => hc heq
    simp [step, h, hne, push, ih]

theorem foldlM_plain (cs : List Char) (r : Reading) (h : r.mode = .start ∨ r.mode = .plain)
    (hcs : ∀ c ∈ cs, c ≠ ',' ∧ c ≠ '"' ∧ c ≠ '\r' ∧ c ≠ '\n') :
    ∃ r', cs.foldlM step r = some r' ∧ (r'.mode = .start ∨ r'.mode = .plain) ∧
      r'.field = cs.reverse ++ r.field ∧ r'.record = r.record ∧ r'.records = r.records := by
  induction cs generalizing r with
  | nil => exact ⟨r, rfl, h, rfl, rfl, rfl⟩
  | cons c cs ih =>
    obtain ⟨⟨hcomma, hquote, hreturn, hfeed⟩, hrest⟩ := List.forall_mem_cons.mp hcs
    have hstep : r.step c = some (r.push .plain c) := by
      obtain h | h := h <;> simp [step, h, inPlain, hcomma, hquote, hreturn, hfeed]
    obtain ⟨r', hr', hmode, hfield, hrecord, hrecords⟩ := ih (r.push .plain c) (.inr rfl) hrest
    refine ⟨r', ?_, hmode, ?_, hrecord, hrecords⟩
    · rw [List.foldlM_cons, hstep]
      exact hr'
    · simp [hfield, push]

/-- However a field is written, the reader has its text when it comes to the end. -/
theorem foldlM_writeField (field : String) (r : Reading) (hmode : r.mode = .start)
    (hfield : r.field = []) :
    ∃ r', (writeField field).toList.foldlM step r = some r' ∧ r.Holds field.toList r' := by
  unfold writeField
  split
  · refine ⟨{ r with mode := .quoteSeen, field := field.toList.reverse }, ?_, ?_⟩
    · simp [step, hmode, hfield, foldlM_quoteChars]
    · exact ⟨.inr (.inr rfl), rfl, rfl, rfl⟩
  · next hneeds =>
    have hcs : ∀ c ∈ field.toList, c ≠ ',' ∧ c ≠ '"' ∧ c ≠ '\r' ∧ c ≠ '\n' := by
      simpa [needsQuotes, and_assoc] using hneeds
    obtain ⟨r', hr', hmode', hfield', hrecord, hrecords⟩ := foldlM_plain _ r (.inl hmode) hcs
    refine ⟨r', hr', ?_, by simpa [hfield] using hfield', hrecord, hrecords⟩
    exact hmode'.imp_right .inl

/-! ## Records and tables -/

theorem foldlM_writeRecord (fields : List String) (hne : fields ≠ []) (r : Reading)
    (hmode : r.mode = .start) (hfield : r.field = []) :
    (writeRecord fields).toList.foldlM step r =
      some { records := (r.record.reverse ++ fields) :: r.records } := by
  induction fields generalizing r with
  | nil => exact absurd rfl hne
  | cons f rest ih =>
    obtain ⟨r', hr', hholds⟩ := foldlM_writeField f r hmode hfield
    -- A comma follows every field but the last, so the last one is a case of its own.
    cases rest with
    | nil =>
      have htext : (writeRecord [f]).toList = (writeField f).toList ++ ['\r', '\n'] := by
        simp [writeRecord]
      rw [htext, List.foldlM_append, hr', Option.bind_eq_bind, Option.bind_some, List.foldlM_cons,
        hholds.step_return]
      simp [step, endRecord]
    | cons g rest =>
      have htext : (writeRecord (f :: g :: rest)).toList =
          (writeField f).toList ++ ',' :: (writeRecord (g :: rest)).toList := by
        simp [writeRecord, String.intercalate_cons_cons, String.append_assoc]
      rw [htext, List.foldlM_append, hr']
      simp [hholds.step_comma, ih]

theorem foldlM_writeTable (table : List (List String)) (hne : ∀ fields ∈ table, fields ≠ [])
    (done : List (List String)) :
    (writeTable table).toList.foldlM step { records := done } =
      some { records := table.reverse ++ done } := by
  induction table generalizing done with
  | nil => rfl
  | cons fields table ih =>
    obtain ⟨hfields, htable⟩ := List.forall_mem_cons.mp hne
    have htext : (writeTable (fields :: table)).toList =
        (writeRecord fields).toList ++ (writeTable table).toList := by
      simp [writeTable]
    rw [htext, List.foldlM_append, foldlM_writeRecord fields hfields _ rfl rfl]
    simp [ih htable]

end Reading

/-- What is written can be read, whatever is in the fields. -/
theorem read_writeTable (table : List (List String)) (hne : ∀ fields ∈ table, fields ≠ []) :
    read (writeTable table) = some table := by
  rw [read, Reading.foldlM_writeTable table hne]
  simp [Reading.finish]

/-- The report of a review reads as its header and a row for each finding, in their order. -/
theorem read_render (review : Review) :
    read (render review) = some (
      ["ID", "Title", "Severity", "Category", "File", "Line", "Resolved", "Description",
        "Suggested Fix"] ::
      review.findings.map fun f =>
        [f.id.text, f.title, f.severity.name, f.category.name, f.filePath.getD "",
          f.line.elim "" Nat.repr, if f.isResolved then "Yes" else "No", f.description,
          f.suggestedFix.getD ""]) := by
  refine read_writeTable _ fun fields hfields => ?_
  obtain rfl | hfields := List.mem_cons.mp hfields
  · simp [header]
  · obtain ⟨f, -, rfl⟩ := List.mem_map.mp hfields
    simp [row]

end ReviewDesk.Report.Csv
