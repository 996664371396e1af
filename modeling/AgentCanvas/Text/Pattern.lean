set_option autoImplicit false

/-!
# Patterns

A pattern describes a stretch of text and marks parts of it as groups. Where it leaves a choice, the
choices have an order, so that the ways in which it fits a text form a list; the first way from the
first place that has one is the match. Only single characters are repeated, which keeps the list
finite.
-/
namespace AgentCanvas.Text

inductive Pattern where
  | start
  | stop
  | one (isMember : Char → Bool)
  /-- Characters of a class, as many as possible if `greedy` and as few as possible if not. -/
  | many (greedy : Bool) (isMember : Char → Bool)
  | seq (first second : Pattern)
  /-- The first choice if the rest can match after it, and the second choice otherwise. -/
  | either (first second : Pattern)
  /-- A part that is remembered under an index. -/
  | group (index : Nat) (part : Pattern)
  | nothing

namespace Pattern

abbrev Groups := List (Nat × List Char)

structure Progress where
  atStart : Bool
  rest : List Char
  groups : Groups

def some (isMember : Char → Bool) : Pattern :=
  .seq (.one isMember) (.many true isMember)

def optional (part : Pattern) : Pattern :=
  .either part .nothing

def sequence : List Pattern → Pattern
  | [] => .nothing
  | part :: parts => .seq part (sequence parts)

def literal (chars : List Char) : Pattern :=
  sequence (chars.map fun c => .one fun x => x == c)

/-- The places that no, one, two, … characters of a class lead to. -/
def stops (isMember : Char → Bool) (groups : Groups) : Bool → List Char → List Progress
  | atStart, [] => [⟨atStart, [], groups⟩]
  | atStart, c :: rest =>
    ⟨atStart, c :: rest, groups⟩ :: if isMember c then stops isMember groups false rest else []

def Progress.close (index : Nat) (before after : Progress) : Progress :=
  let stretch := before.rest.take (before.rest.length - after.rest.length)
  { after with groups := (index, stretch) :: after.groups }

/-- All ways in which a pattern fits from a place on, the preferred ones first. -/
def ways : Pattern → Progress → List Progress
  | start, place => if place.atStart then [place] else []
  | stop, place => if place.rest.isEmpty then [place] else []
  | one isMember, place =>
    match place.rest with
    | c :: rest => if isMember c then [⟨false, rest, place.groups⟩] else []
    | [] => []
  | many greedy isMember, place =>
    let places := stops isMember place.groups place.atStart place.rest
    if greedy then places.reverse else places
  | seq first second, place => (first.ways place).flatMap second.ways
  | either first second, place => first.ways place ++ second.ways place
  | group index part, place => (part.ways place).map (place.close index)
  | nothing, place => [place]

/-- The groups of the match that starts first. -/
def searchFrom? (pattern : Pattern) : Bool → List Char → Option Groups
  | atStart, [] => (pattern.ways ⟨atStart, [], []⟩).head?.map Progress.groups
  | atStart, c :: rest =>
    match pattern.ways ⟨atStart, c :: rest, []⟩ with
    | place :: _ => .some place.groups
    | [] => searchFrom? pattern false rest

def search? (pattern : Pattern) (text : List Char) : Option Groups :=
  pattern.searchFrom? true text

def Groups.get? (groups : Groups) (index : Nat) : Option (List Char) :=
  (groups.find? fun group => group.1 == index).map Prod.snd

end Pattern
end AgentCanvas.Text
