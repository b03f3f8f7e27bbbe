import Flowline.Regex.Syntax
set_option autoImplicit false

/-!
# How deeply a pattern may nest

A pattern whose tree nests more than `nestLimit` levels deep is refused
before it is translated, with the stretch of the first item, in reading
order, that goes one level too deep.

The levels counted are those of the items that hold other items: groups,
repetitions, sequences and alternations, bracketed classes (the outermost
one and those inside it), unions of class parts and class operations. So
`a**` is two levels deep, `(ab)` is two (a group around a sequence), and
`[[a]]` is two (a bracket inside a bracket). Literals, classes such as `\d`,
assertions and flag changes are leaves and take no level.
-/

namespace Flowline.Regex

/-- The deepest nesting a pattern may have. -/
def nestLimit : Nat := 250

/-- Fails at `span` when an item entered below `depth` levels would be one
level too deep. -/
def enterLevel (depth : Nat) (span : Span) : Except SyntaxError Unit :=
  if nestLimit < depth + 1 then .error ⟨.nestLimitExceeded, span, none⟩ else .ok ()

mutual

/-- Checks the nesting of a class part found below `depth` levels. -/
def ClassSet.checkNesting (depth : Nat) : ClassSet → Except SyntaxError Unit
  | .bracketed body _ span => do
    enterLevel depth span
    body.checkNesting (depth + 1)
  | .union items span => do
    enterLevel depth span
    ClassSet.checkNestingAll (depth + 1) items
  | .op _ lhs rhs span => do
    enterLevel depth span
    lhs.checkNesting (depth + 1)
    rhs.checkNesting (depth + 1)
  | _ => .ok ()

/-- Checks the nesting of class parts side by side, in order. -/
def ClassSet.checkNestingAll (depth : Nat) : List ClassSet → Except SyntaxError Unit
  | [] => .ok ()
  | item :: rest => do
    item.checkNesting depth
    ClassSet.checkNestingAll depth rest

end

mutual

/-- Checks the nesting of an item found below `depth` levels. The body of a
bracketed class is one level below the bracket itself. -/
def Ast.checkNesting (depth : Nat) : Ast → Except SyntaxError Unit
  | .bracketed body _ span => do
    enterLevel depth span
    body.checkNesting (depth + 1)
  | .repetition _ _ inner span => do
    enterLevel depth span
    inner.checkNesting (depth + 1)
  | .group _ inner span => do
    enterLevel depth span
    inner.checkNesting (depth + 1)
  | .concat items span => do
    enterLevel depth span
    Ast.checkNestingAll (depth + 1) items
  | .alternation branches span => do
    enterLevel depth span
    Ast.checkNestingAll (depth + 1) branches
  | _ => .ok ()

/-- Checks the nesting of items in order. -/
def Ast.checkNestingAll (depth : Nat) : List Ast → Except SyntaxError Unit
  | [] => .ok ()
  | item :: rest => do
    item.checkNesting depth
    Ast.checkNestingAll depth rest

end

/-- Reads a pattern and checks how deeply it nests. -/
def readPattern (pattern : String) : Except SyntaxError Ast := do
  let ast ← parsePattern pattern
  ast.checkNesting 0
  pure ast

end Flowline.Regex
