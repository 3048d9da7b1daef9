/-
# TripleAlgebra.Proofs.Text.Expressions -- expressions are recognized by their written form

An expression without an operator is written like a slot.  All others stand in parentheses and
begin with a word, and no two kinds of expression and no two operators share that word.  Then
follow the operands, each of which is recognized by induction.
-/
import TripleAlgebra.Proofs.Text.Terms

namespace TripleAlgebra

set_option autoImplicit false

open Text

/-- The expression that reads a variable or yields a term. -/
def Slot.expr : Slot → Expr
  | const term => .const term
  | var name => .var name

namespace Expr

/-- Every term and every name of the expression can be read back. -/
def isLegible : Expr → Bool
  | var name => isWord name
  | const term => term.isLegible
  | bound name => isWord name
  | unary _ operand => operand.isLegible
  | binary _ left right => left.isLegible && right.isLegible

/-- The word behind the parenthesis of an expression, if it has one. -/
def symbol : Expr → String
  | var _ | const _ => ""
  | bound _ => "bound"
  | unary op _ => op.symbol
  | binary op _ _ => op.symbol

theorem toList_render_bound (name : String) (rest : List Char) :
    ((bound name).render Term.text).toList ++ rest =
      '(' :: ("bound".toList ++ ' ' :: ((variableText name).toList ++ ')' :: rest)) := by
  simp [render]

theorem toList_render_unary (op : UnaryOp) (e : Expr) (rest : List Char) :
    ((unary op e).render Term.text).toList ++ rest =
      '(' :: (op.symbol.toList ++ ' ' :: ((e.render Term.text).toList ++ ')' :: rest)) := by
  simp [render]

theorem toList_render_binary (op : BinaryOp) (e f : Expr) (rest : List Char) :
    ((binary op e f).render Term.text).toList ++ rest =
      '(' :: (op.symbol.toList ++ ' ' :: ((e.render Term.text).toList ++
        ' ' :: ((f.render Term.text).toList ++ ')' :: rest))) := by
  simp [render]

theorem keyword_render (e : Expr) (rest : List Char) :
    keyword ((e.render Term.text).toList ++ rest) = e.symbol.toList := by
  cases e with
  | var name => simp [render, variableText, keyword, symbol]
  | const term => simpa [render, symbol] using term.keyword_text rest
  | bound name =>
      rw [toList_render_bound]
      exact keyword_open (by decide) (stops_space _)
  | unary op e =>
      rw [toList_render_unary]
      exact keyword_open (by cases op <;> decide) (stops_space _)
  | binary op e f =>
      rw [toList_render_binary]
      exact keyword_open (by cases op <;> decide) (stops_space _)

theorem eq_expr_of_symbol {e : Expr} (h : e.symbol = "") : ∃ slot : Slot, e = slot.expr := by
  cases e with
  | var name => exact ⟨.var name, rfl⟩
  | const term => exact ⟨.const term, rfl⟩
  | bound name => simp [symbol] at h
  | unary op e => cases op <;> simp [symbol, UnaryOp.symbol] at h
  | binary op e f => cases op <;> simp [symbol, BinaryOp.symbol] at h

theorem eq_bound_of_symbol {e : Expr} (h : e.symbol = "bound") : ∃ name, e = bound name := by
  cases e with
  | bound name => exact ⟨name, rfl⟩
  | var | const => simp [symbol] at h
  | unary op e => cases op <;> simp [symbol, UnaryOp.symbol] at h
  | binary op e f => cases op <;> simp [symbol, BinaryOp.symbol] at h

theorem eq_unary_of_symbol {e : Expr} {op : UnaryOp} (h : e.symbol = op.symbol) :
    ∃ operand, e = unary op operand := by
  cases e with
  | unary op' e =>
      have ops : op' = op := by
        cases op' <;> cases op <;> simp [symbol, UnaryOp.symbol] at h ⊢
      exact ⟨e, by rw [ops]⟩
  | var | const | bound => cases op <;> simp [symbol, UnaryOp.symbol] at h
  | binary op' e f => cases op' <;> cases op <;> simp [symbol, UnaryOp.symbol, BinaryOp.symbol] at h

theorem eq_binary_of_symbol {e : Expr} {op : BinaryOp} (h : e.symbol = op.symbol) :
    ∃ left right, e = binary op left right := by
  cases e with
  | binary op' e f =>
      have ops : op' = op := by
        cases op' <;> cases op <;> simp [symbol, BinaryOp.symbol] at h ⊢
      exact ⟨e, f, by rw [ops]⟩
  | var | const | bound => cases op <;> simp [symbol, BinaryOp.symbol] at h
  | unary op' e => cases op' <;> cases op <;> simp [symbol, UnaryOp.symbol, BinaryOp.symbol] at h

end Expr

theorem Slot.render_expr (slot : Slot) (format : TermFormat) :
    slot.expr.render format = slot.render format := by
  cases slot <;> rfl

theorem Slot.isLegible_expr (slot : Slot) : slot.expr.isLegible = slot.isLegible := by
  cases slot <;> rfl

theorem Slot.symbol_expr (slot : Slot) : slot.expr.symbol = "" := by
  cases slot <;> rfl

namespace Expr

/-- Expressions of one text begin with one word. -/
theorem symbol_eq_of_text {e f : Expr} {r s : List Char}
    (same : (e.render Term.text).toList ++ r = (f.render Term.text).toList ++ s) :
    f.symbol = e.symbol := by
  rw [← String.toList_inj, ← keyword_render f s, ← same, keyword_render]

theorem recognized_expr (slot : Slot) (readable : slot.expr.isLegible = true) :
    Recognized isLegible (render Term.text) slot.expr := by
  intro f r s other stopsLeft stopsRight same
  obtain ⟨slot', rfl⟩ := eq_expr_of_symbol ((symbol_eq_of_text same).trans slot.symbol_expr)
  rw [slot.isLegible_expr] at readable
  rw [slot'.isLegible_expr] at other
  rw [slot.render_expr, slot'.render_expr] at same
  obtain ⟨slots, rests⟩ := Slot.recognized readable other stopsLeft stopsRight same
  exact ⟨congrArg Slot.expr slots, rests⟩

theorem recognized {e : Expr} (readable : e.isLegible = true) :
    Recognized isLegible (render Term.text) e := by
  induction e with
  | var name => exact recognized_expr (.var name) readable
  | const term => exact recognized_expr (.const term) readable
  | bound name =>
      intro f r s other _ _ same
      obtain ⟨name', rfl⟩ := eq_bound_of_symbol (symbol_eq_of_text same)
      rw [toList_render_bound, toList_render_bound] at same
      obtain ⟨names, rests⟩ := recognized_variableText readable other (stops_close r)
        (stops_close s) (operands_eq same)
      exact ⟨congrArg bound names, (List.cons.inj rests).2⟩
  | unary op operand ih =>
      intro f r s other _ _ same
      obtain ⟨operand', rfl⟩ := eq_unary_of_symbol (symbol_eq_of_text same)
      rw [toList_render_unary, toList_render_unary] at same
      have readable' : operand'.isLegible = true := other
      obtain ⟨rfl, rests⟩ := ih readable readable' (stops_close r) (stops_close s)
        (operands_eq same)
      exact ⟨rfl, (List.cons.inj rests).2⟩
  | binary op left right ihLeft ihRight =>
      intro f r s other _ _ same
      obtain ⟨left', right', rfl⟩ := eq_binary_of_symbol (symbol_eq_of_text same)
      rw [toList_render_binary, toList_render_binary] at same
      obtain ⟨readableLeft, readableRight⟩ := Bool.and_eq_true_iff.mp readable
      obtain ⟨otherLeft, otherRight⟩ := Bool.and_eq_true_iff.mp other
      obtain ⟨rfl, behind⟩ := ihLeft readableLeft otherLeft (stops_space _) (stops_space _)
        (operands_eq same)
      obtain ⟨rfl, rests⟩ := ihRight readableRight otherRight (stops_close r) (stops_close s)
        (List.cons.inj behind).2
      exact ⟨rfl, (List.cons.inj rests).2⟩

end Expr

end TripleAlgebra
