import LiveSession.Host

/-!
# Statements of a script

A script is a line of statements or a loop. A statement assigns a value to
names, evaluates an expression, raises an error, does nothing, or repeats other
statements. Expressions remember the line on which evaluating them can fail.
-/

namespace LiveSession.Script

/-- An expression. -/
inductive Expression where
  | constant (value : Host)
  | name (name : String) (line : Nat)
  | negation (operand : Expression) (line : Nat)
  | quotient (dividend divisor : Expression) (line : Nat)
  | call (callee : Expression) (arguments : List Expression) (line : Nat)
  | list (items : List Expression)
  | tuple (items : List Expression)
  | set (items : List Expression) (line : Nat)
  | mapping (entries : List (Expression × Expression)) (line : Nat)

/-- A statement. -/
inductive Statement where
  /-- Assign a value to names, from left to right. -/
  | assign (names : List String) (value : Expression)
  /-- Evaluate an expression for its value, which is echoed. -/
  | evaluate (value : Expression) (line : Nat)
  /-- Raise an error; without one, the error that is being handled, of which there
  is none. -/
  | raise (error : Option Expression) (line : Nat)
  | pass
  /-- Run the body once for every element of a value. -/
  | loop (counter : String) (elements : Expression) (line : Nat) (body : List Statement)

end LiveSession.Script
