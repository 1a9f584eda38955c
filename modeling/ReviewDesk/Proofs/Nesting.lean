import Mathlib.Data.List.Infix
import ReviewDesk.Grammar.Statement

/-!
# Nesting

The reader of a module takes a place on its stack for each phrase inside a phrase. An overflow is
no refusal: no other reading is tried, and the reading of the whole module ends. A row of minus
signs as long as the stack is deep uses it up, though the module is in order.
-/
namespace ReviewDesk.Grammar

namespace Phrase

variable {α β : Type}

/-- The phrase uses up the stack on these tokens. -/
def Overflows (p : Phrase α) (ts : List Token) : Prop := (p ts).run = .error .overflow

theorem Overflows.bind {p : Phrase α} {ts : List Token} (h : p.Overflows ts) (f : α → Phrase β) :
    (p >>= f).Overflows ts := by
  change (OptionT.run (p ts) >>= _) = _
  rw [h]
  rfl

theorem overflows_bind {p : Phrase α} {f : α → Phrase β} {ts rest : List Token} {a : α}
    (h : p ts = pure (a, rest)) (hf : (f a).Overflows rest) : (p >>= f).Overflows ts := by
  change ((p ts) >>= fun r => f r.1 r.2).run = _
  rw [h, pure_bind]
  exact hf

theorem Overflows.option {p : Phrase α} {ts : List Token} (h : p.Overflows ts) :
    (option p).Overflows ts := by
  unfold Overflows Phrase.option at *
  rw [OptionT.run_mk, h]
  rfl

theorem Overflows.many {p : Phrase α} {t : Token} {ts : List Token} (h : p.Overflows (t :: ts)) :
    (many p).Overflows (t :: ts) :=
  h.option.bind _

theorem Overflows.joined {operand : Phrase Tree} {ts : List Token} (h : operand.Overflows ts)
    (form : Form) (operator : Phrase Unit) :
    (Expression.joined form operator operand).Overflows ts :=
  overflows_bind rfl (h.bind _)

end Phrase

/-! ## Rows of minus signs -/

section Minuses

open Phrase Expression

def minus : Token := ⟨.mark "-", 1⟩

variable {read : Reader} {ts : List Token}

theorem overflows_factor (h : (read .factor).Overflows ts) :
    (factor read).Overflows (minus :: ts) :=
  overflows_bind rfl (overflows_bind rfl (h.bind _))

theorem overflows_reader_factor (stack : Nat) (ts : List Token) :
    (reader stack .factor).Overflows (List.replicate stack minus ++ ts) := by
  induction stack with
  | zero => rfl
  | succ stack ih => exact overflows_factor ih

/-- The rules from expressions down to factors look at the first token and take none. -/
theorem overflows_expression (h : (factor read).Overflows (minus :: ts)) :
    (expression read).Overflows (minus :: ts) := by
  have hbitwise : (bitwiseOr read).Overflows (minus :: ts) :=
    (((((h.joined _ _).joined _ _).joined _ _).joined _ _).joined _ _).joined _ _
  have hinversion : (inversion read).Overflows (minus :: ts) :=
    overflows_bind rfl (overflows_bind rfl (hbitwise.joined _ _))
  have hdisjunction : (disjunction read).Overflows (minus :: ts) :=
    (hinversion.joined _ _).joined _ _
  exact overflows_bind rfl (overflows_bind rfl (hdisjunction.bind _))

theorem overflows_reader_expression (stack : Nat) (ts : List Token) :
    (reader (stack + 1) .expression).Overflows (minus :: (List.replicate stack minus ++ ts)) :=
  overflows_expression (overflows_factor (overflows_reader_factor stack ts))

theorem overflows_statement {r : Statement.Readers}
    (h : (r.expressions .expression).Overflows (minus :: ts)) :
    (Statement.statement r).Overflows (minus :: ts) := by
  have hstar : (starExpression r.expressions).Overflows (minus :: ts) := overflows_bind rfl h
  have hstars : (starExpressions r.expressions).Overflows (minus :: ts) :=
    overflows_bind rfl (((hstar.bind _).bind _).bind _)
  have hassigned : (Statement.assigned r).Overflows (minus :: ts) := overflows_bind rfl hstars
  have hsimple : (Statement.simple r).Overflows (minus :: ts) :=
    overflows_bind rfl (overflows_bind rfl (overflows_bind rfl (hassigned.bind _)))
  exact overflows_bind rfl (hsimple.bind _)

end Minuses

/-! ## Their text -/

/-- The number one behind that many minus signs. -/
def negatedOne (n : Nat) : List Char := List.replicate n '-' ++ ['1']

theorem takeLexeme_minus (n : Nat) (rest : List Char) :
    takeLexeme ('-' :: (List.replicate n '-' ++ '1' :: rest)) =
      some (.mark "-", 0, List.replicate n '-' ++ '1' :: rest) := by
  cases n <;> rfl

theorem readTokens_minuses (n budget : Nat) (r : Reading) (rest : List Char) (hline : r.line = 1) :
    readTokens (budget + n) false r (List.replicate n '-' ++ '1' :: rest) =
      readTokens budget false { r with tokens := List.replicate n minus ++ r.tokens }
        ('1' :: rest) := by
  induction n generalizing r with
  | zero => rfl
  | succ n ih =>
    have hstep : readTokens (budget + n + 1) false r (List.replicate (n + 1) '-' ++ '1' :: rest) =
        readTokens (budget + n) false (r.push (.mark "-"))
          (List.replicate n '-' ++ '1' :: rest) := by
      rw [List.replicate_succ, List.cons_append, readTokens]
      · simp [takeLexeme_minus, nextBrackets, closing]
        rfl
      all_goals simp
    rw [← Nat.add_assoc, hstep, ih]
    · simp [Reading.push, List.replicate_succ', minus, hline]
    · exact hline

theorem normalizeLines_negatedOne (n : Nat) :
    normalizeLines (negatedOne n) = negatedOne n ++ ['\n'] := by
  unfold negatedOne
  induction n with
  | zero => rfl
  | succ n ih =>
    rw [List.replicate_succ, List.cons_append, normalizeLines, ih]
    · rfl
    all_goals simp

/-- The line is not indented. -/
theorem readTokens_negatedOne (n budget : Nat) :
    readTokens (budget + 1) true {} (negatedOne n ++ ['\n']) =
      readTokens budget false {} (negatedOne n ++ ['\n']) := by
  cases n <;> rfl

theorem tokenize_negatedOne (n : Nat) :
    tokenize (negatedOne n) =
      some (List.replicate n minus ++ [⟨.number false, 1⟩, ⟨.lineEnd, 1⟩]) := by
  have hlength : (negatedOne n ++ ['\n']).length = n + 2 := by simp [negatedOne]
  have hbudget : 2 * (n + 2) + 2 = n + 5 + n + 1 := by omega
  have hrow := readTokens_minuses n (n + 5) {} ['\n'] rfl
  have hone : readTokens (n + 5) false { tokens := List.replicate n minus ++ [] } ['1', '\n'] =
      some (⟨.lineEnd, 1⟩ :: ⟨.number false, 1⟩ :: List.replicate n minus) := by
    rw [List.append_nil]
    rfl
  rw [tokenize, normalizeLines_negatedOne, hlength, hbudget, readTokens_negatedOne, negatedOne,
    List.append_assoc, List.singleton_append, hrow, hone]
  simp

/-- A module of a single number can be nested too deeply. -/
theorem parseModule_negatedOne (n : Nat) :
    parseModule (.ofList (negatedOne (stackLimit + n))) = .error .tooDeep := by
  have hnull : (negatedOne (stackLimit + n)).contains '\x00' = false := by
    simp [negatedOne, List.mem_replicate]
  have hrun : (statements (negatedOne (stackLimit + n))).run = .error .overflow := by
    obtain ⟨stack, hstack⟩ : ∃ stack, stackLimit = stack + 1 := ⟨5999, rfl⟩
    rw [statements, tokenize_negatedOne, hstack, List.replicate_add, List.append_assoc]
    exact Phrase.Overflows.many (overflows_statement (overflows_reader_expression stack _))
  rw [parseModule, String.toList_ofList]
  simp only [hnull, hrun]
  rfl

end ReviewDesk.Grammar
