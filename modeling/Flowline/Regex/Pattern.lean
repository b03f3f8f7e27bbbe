import Flowline.Regex.Diagnostic
import Flowline.Regex.Nesting
import Flowline.Regex.Translate
import Flowline.Regex.Budget
import Flowline.Regex.Program
set_option autoImplicit false

/-!
# Patterns

`Pattern.compile` reads a pattern, checks how deeply it nests, translates
it and compiles it, or describes why it is refused:

* a problem with the text of the pattern is shown as a diagram
  (`Diagnostic.render`);
* a pattern whose forward automaton would pass `Budget.limit` bytes is too
  big;
* a pattern with a Unicode word condition (`\b`, `\B`, `\<`, `\>` and
  `\b{...}` with `u` on) cannot be built, for lack of Unicode word
  characters;
* a pattern whose backward automaton would pass the limit is too big.

`Pattern.isMatch` tells whether a compiled pattern matches anywhere in a
text.
-/

namespace Flowline.Regex

/-- A compiled pattern. -/
structure Pattern where
  source : String
  program : Program
  deriving Inhabited

namespace Pattern

/-- The message for a pattern over the size limit. -/
def tooBig : String := s!"Compiled regex exceeds size limit of {Budget.limit} bytes."

/-- The message for a pattern that cannot be built. -/
def unbuildable : String := "error building NFA"

/-- Compiles a pattern, or describes why it is refused. -/
def compile (text : String) : Except String Pattern :=
  match readPattern text >>= translate with
  | .ok h =>
    if Budget.exceeds .forward h then .error tooBig
    else if h.hasUnicodeWord then .error unbuildable
    else if Budget.exceeds .backward h then .error tooBig
    else .ok ⟨text, Program.compile h⟩
  | .error e => .error (Diagnostic.render text e)

/-- Whether the pattern matches somewhere in a text. -/
def isMatch (p : Pattern) (s : String) : Bool := p.program.isMatch s

end Pattern

end Flowline.Regex
