import Converge.Backend.Basic
import Converge.Script.Calls

/-!
# Programs of scripts

A script of calls is a program over what its calls come to. It makes a call, is told the result or what
was raised, and goes on accordingly; in between it does on the host whatever its own code does. Every
course of such a program is finite.

What the text of a script means is a parameter (`Reader`). One way to read it knows scripts that are
lines one after the other, and refuses all others (`Reader.ofLines`).
-/

namespace Converge

/-- A program over what its calls come to. -/
inductive Routine where
  /-- The script is at its end. -/
  | done
  /-- The script raises. -/
  | raise (fault : Fault)
  /-- Code of the script that makes no call. -/
  | own (step : Action Host Value) (next : Except Fault Value → Routine)
  /-- A call for a resource, with the arguments as they are given. -/
  | resource (positional : List Value) (named : List (String × Value)) (next : Except Fault Enforcement → Routine)
  /-- A call for a block of code, with the arguments as they are given. -/
  | apply (positional : List Value) (named : List (String × Value)) (next : Except Fault BlockResult → Routine)

/-- Why the text of a script of calls has no meaning. -/
inductive Unread where
  /-- It breaks the rules of the language, in a line if one is known. -/
  | broken (line : Option Nat) (message : String)
  | refused (fault : Fault)

/-- What the text of a script of calls at a path means, given the facts about the host. -/
abbrev Reader := (path source : String) → Except Unread (Table Value → Routine)

/-! ## Lines -/

/-- The values of the arguments of a call. -/
def Expr.arguments (scope : Expr.Scope) (positional : List Expr) (named : List (String × Expr)) :
    Except Fault (List Value × List (String × Value)) := do
  let first ← Expr.evalAll scope positional
  let others ← Expr.evalAll scope (named.map Prod.snd)
  return (first, (named.map Prod.fst).zip others)

/-- What a script raises that stops with some values: one of them is shown on its own. -/
def Fault.ofStop (values : List Value) : Fault :=
  let message : Value := match values with
    | [] => .text ""
    | [v] => v
    | vs => .tuple vs
  match message.display? with
  | some text => .raised text
  | none => .unshown "RuntimeError"

namespace Routine

/-- The script goes on after a call, unless that raised. -/
def onward {α : Type} (rest : Routine) : Except Fault α → Routine
  | .ok _ => rest
  | .error fault => raise fault

def ofLine (scope : Expr.Scope) (rest : Routine) : Statement → Routine
  | .nothing => rest
  | .stop arguments => match Expr.evalAll scope arguments with
    | .error fault => raise fault
    | .ok values => raise (.ofStop values)
  | .evaluate e => onward rest (e.eval scope)
  | .resource positional named => match Expr.arguments scope positional named with
    | .error fault => raise fault
    | .ok (positional, named) => resource positional named (onward rest)
  | .apply positional named => match Expr.arguments scope positional named with
    | .error fault => raise fault
    | .ok (positional, named) => apply positional named (onward rest)

def ofLines (scope : Expr.Scope) (lines : List Statement) : Routine :=
  lines.foldr (fun line rest => ofLine scope rest line) done

/-- What holds of every way to go on from line to line holds of lines one after the other. -/
theorem of_ofLines {P : Routine → Prop} (ends : P done) (raises : ∀ fault, P (raise fault))
    (calls : ∀ positional named rest, P rest → P (resource positional named (onward rest)))
    (blocks : ∀ positional named rest, P rest → P (apply positional named (onward rest))) (scope : Expr.Scope)
    (lines : List Statement) : P (ofLines scope lines) := by
  induction lines with
  | nil => exact ends
  | cons line lines ih =>
    change P (ofLine scope (ofLines scope lines) line)
    cases line with
    | nothing => exact ih
    | stop arguments =>
      rw [ofLine]
      split <;> exact raises _
    | evaluate e =>
      rw [ofLine]
      cases e.eval scope with
      | error fault => exact raises fault
      | ok v => exact ih
    | resource positional named =>
      rw [ofLine]
      split
      · exact raises _
      · exact calls _ _ _ ih
    | apply positional named =>
      rw [ofLine]
      split
      · exact raises _
      · exact blocks _ _ _ ih

end Routine

def Reader.ofLines (sets : Value.SetOrder) : Reader := fun path source =>
  match Statement.ofText source with
  | .error fault => .error (.broken fault.line fault.cause.message)
  | .ok lines => .ok fun facts => .ofLines ⟨path, facts, sets⟩ lines

end Converge
