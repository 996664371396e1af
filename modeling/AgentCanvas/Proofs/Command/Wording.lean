import AgentCanvas.Command.Execution
import AgentCanvas.Proofs.Element.Patches
import AgentCanvas.Proofs.Message.InlineGrammar

set_option autoImplicit false

namespace AgentCanvas

open Json Text Execution

def CommandVerb.NamedBy (verb : CommandVerb) (raw : String) : Prop :=
  lower (trim raw) = verb.name

def ElementKind.NamedBy (kind : ElementKind) (raw : String) : Prop :=
  lower (trim raw) = kind.name

namespace Command

def AsksFor (c : Command) (kind : ElementKind) : Prop :=
  ∃ name, c.elementType = some name ∧ kind.NamedBy name

/-- The reference of the command is missing or blank. -/
def RefersToNone (c : Command) : Prop :=
  ∀ raw, c.elementId = some raw → ∀ x ∈ raw.toList, isBlank x = true

/-- The reference of the command is the id, with blanks around it at most. -/
def RefersTo (c : Command) (id : ElementId) : Prop :=
  ∃ raw, c.elementId = some raw ∧ (∃ x ∈ raw.toList, isBlank x = false) ∧
    id = ⟨trim raw⟩

def settings (c : Command) : Fields :=
  c.params.getD []

/-- The commands agree on the fields that a verb looks at. -/
def AgreeFor (c d : Command) : CommandVerb → Prop
  | .create => c.elementType = d.elementType ∧ c.params = d.params
  | .update => c.elementId = d.elementId ∧ c.params = d.params
  | .delete | .select => c.elementId = d.elementId
  | .clear | .deselect => True

end Command

variable {c : Command} {raw : String} {verb : CommandVerb} {kind : ElementKind} {id : ElementId}

theorem CommandVerb.namedBy_iff : verb.NamedBy raw ↔ CommandVerb.parse? raw = some verb :=
  (CommandVerb.parse?_eq_some_iff raw verb).symm

theorem CommandVerb.NamedBy.unique {other : CommandVerb} (h : verb.NamedBy raw)
    (hother : other.NamedBy raw) : verb = other :=
  Option.some.inj ((namedBy_iff.mp h).symm.trans (namedBy_iff.mp hother))

theorem CommandVerb.parse?_eq_none_iff :
    CommandVerb.parse? raw = none ↔ ∀ verb : CommandVerb, ¬ verb.NamedBy raw := by
  simp only [namedBy_iff, Option.eq_none_iff_forall_ne_some, ne_eq]

theorem ElementKind.namedBy_iff : kind.NamedBy raw ↔ ElementKind.parse? raw = some kind := by
  unfold NamedBy parse?
  generalize lower (trim raw) = name
  constructor
  · rintro rfl
    exact ofName?_name kind
  · intro h
    have hname := List.find?_some h
    exact (beq_iff_eq.mp hname).symm

theorem ElementKind.parse?_eq_none_iff :
    ElementKind.parse? raw = none ↔ ∀ kind : ElementKind, ¬ kind.NamedBy raw := by
  simp only [namedBy_iff, Option.eq_none_iff_forall_ne_some, ne_eq]

theorem reference?_eq_none_iff : reference? c = none ↔ c.RefersToNone := by
  unfold reference? Command.RefersToNone
  cases c.elementId with
  | none => simp
  | some raw => simp [← trim_eq_empty_iff]

theorem reference?_eq_some_iff : reference? c = some id ↔ c.RefersTo id := by
  unfold reference? Command.RefersTo
  cases c.elementId with
  | none => simp
  | some raw =>
    have hink : (∃ x ∈ raw.toList, isBlank x = false) ↔ ¬ trim raw = "" := by
      simp [trim_eq_empty_iff]
    simp only [Option.some.injEq, exists_eq_left', hink, String.isEmpty_iff]
    split_ifs with hblank
    · simp [hblank]
    · simp [hblank, eq_comm (a := id)]

theorem merged_patchOf (p : ElementProps) (c : Command) :
    p.merged (patchOf c) = p.merged c.settings :=
  p.merged_unreserved c.settings

end AgentCanvas
