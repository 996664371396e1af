import AgentCanvas.Message.Basic
import AgentCanvas.Message.Inline
import AgentCanvas.Text.Pattern

set_option autoImplicit false

/-!
# The two forms as patterns

A second description of where a message holds commands: the form of a command on a line and the form
of a fenced block, each as one pattern. `Inline.parts?` and `Block.inside?` find the same parts word
by word, without trying anything twice.
-/
namespace AgentCanvas

open Text

namespace Inline

def blanks : Pattern := .some isBlank

/-- The marker at the start of the line or behind a blank, the verb as group 1, the target as group
    2 and the tail as group 3. -/
def pattern : Pattern :=
  .sequence [
    .either .start (.one isBlank),
    .literal commandMark.toList,
    blanks,
    .group 1 (.some isInk),
    .optional (.sequence [blanks, .group 2 (.seq (.one startsTarget) (.many true isInk))]),
    .optional (.sequence [blanks, .group 3 (.many false fun c => c != '\n')]),
    .many true isBlank,
    .stop]

def partsMatched? (line : List Char) : Option Parts := do
  let groups ← pattern.search? line
  return {
    verb := ← groups.get? 1
    target := groups.get? 2
    tail := trimChars ((groups.get? 3).getD []) }

end Inline

namespace Block

/-- A fence with a language tag, and what stands inside the block up to the next fence as group 1.
    -/
def pattern : Pattern :=
  .sequence [
    .literal fence,
    .many true isTag,
    .many true fun c => c == ' ' || c == '\t',
    .optional (.one fun c => c == '\r'),
    .optional (.one fun c => c == '\n'),
    .group 1 (.many false fun _ => true),
    .literal fence]

def insideMatched? (text : List Char) : Option (List Char) := do
  (← pattern.search? text).get? 1

end Block
end AgentCanvas
