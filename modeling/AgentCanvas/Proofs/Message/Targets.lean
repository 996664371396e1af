import AgentCanvas.Proofs.Command.Outcomes
import AgentCanvas.Proofs.Message.InlineGrammar

set_option autoImplicit false

namespace AgentCanvas

open Json Text

namespace Inline

variable {line target : List Char} {parts : Parts} {found : Found}

theorem ne_nil_of_mem_pieces {piece : List Char} (h : piece ∈ pieces line) : piece ≠ [] := by
  rintro rfl
  have hnonempty := (List.mem_filter.mp h).2
  cases hnonempty

theorem HasForm.target_ne_nil (h : HasForm line parts) (htarget : parts.target = some target) :
    target ≠ [] := by
  obtain ⟨before, behind, front, rest, -, -, -, -, -, hfront, -⟩ := h
  have hmem : target ∈ pieces front := by
    rw [hfront, htarget]
    simp
  exact ne_nil_of_mem_pieces hmem

theorem parts?_eq_some_iff : parts? line = some parts ↔ HasForm line parts := by
  rw [parts?_eq_wordParts?, wordParts?_eq_some_iff]

theorem HasForm.unique {other : Parts} (h : HasForm line parts) (hother : HasForm line other) :
    parts = other :=
  Option.some.inj ((parts?_eq_some_iff.mpr h).symm.trans (parts?_eq_some_iff.mpr hother))

theorem find?_eq_some_iff :
    find? line = some found ↔ ∃ parts, HasForm line parts ∧ foundOf parts = found := by
  rw [find?_eq_map, Option.map_eq_some_iff]
  simp only [parts?_eq_some_iff]

theorem elementType_eq_none_iff
    (hverb : CommandVerb.create.NamedBy (String.ofList parts.verb)) :
    (foundOf parts).command.elementType = none ↔ parts.target = none := by
  have hcreate : isCreate (String.ofList parts.verb) = true := by
    rw [isCreate, CommandVerb.namedBy_iff.mp hverb]
    rfl
  simp [foundOf, hcreate]

theorem refersToNone_iff (h : HasForm line parts) {verb : CommandVerb} (hother : verb ≠ .create)
    (hverb : verb.NamedBy (String.ofList parts.verb)) :
    (foundOf parts).command.RefersToNone ↔ parts.target = none := by
  have hcreate : isCreate (String.ofList parts.verb) = false := by
    rw [isCreate, CommandVerb.namedBy_iff.mp hverb]
    simpa using hother
  have hid : (foundOf parts).command.elementId = parts.target.map String.ofList := by
    simp [foundOf, hcreate]
  unfold Command.RefersToNone
  rw [hid]
  cases htarget : parts.target with
  | none => simp
  | some target =>
    obtain ⟨x, rest, rfl⟩ := List.exists_cons_of_ne_nil (h.target_ne_nil htarget)
    have hink := target_of_parts (parts?_eq_some_iff.mpr h) htarget x List.mem_cons_self
    simp [hink]

end Inline

/-- The command of a line fails for want of a type or of a reference if and only if the line has no
    target and its verb, in any letter case, needs one: a type to create, a reference to update,
    delete or select. A line with a target never fails so, whatever store it meets. -/
theorem missing_iff_no_target {line : List Char} {found : Inline.Found}
    (h : Inline.find? line = some found) (s : Store) :
    (∃ parts, Inline.HasForm line parts) ∧ ∀ parts, Inline.HasForm line parts →
      let answer := (execute s found.command).answer
      (answer = .error .missingElementType ↔
        parts.target = none ∧ CommandVerb.create.NamedBy (String.ofList parts.verb)) ∧
      ∀ verb, answer = .error (.missingReference verb) ↔
        parts.target = none ∧ verb.NamedBy (String.ofList parts.verb) ∧
          (verb = .update ∨ verb = .delete ∨ verb = .select) := by
  obtain ⟨named, hnamed, rfl⟩ := Inline.find?_eq_some_iff.mp h
  refine ⟨⟨named, hnamed⟩, fun parts hform => ?_⟩
  obtain rfl := hnamed.unique hform
  have hverb : (Inline.foundOf named).command.verb = String.ofList named.verb := rfl
  constructor
  · rw [missingElementType_iff, hverb, and_comm]
    exact and_congr_left fun hcreate => Inline.elementType_eq_none_iff hcreate
  · intro verb
    have hnone : verb.NamedBy (String.ofList named.verb) →
        (verb = .update ∨ verb = .delete ∨ verb = .select) →
          ((Inline.foundOf named).command.RefersToNone ↔ named.target = none) := by
      intro hnames hneeds
      have hother : verb ≠ .create := by
        rintro rfl
        simp at hneeds
      exact Inline.refersToNone_iff hform hother hnames
    rw [missingReference_iff, hverb]
    constructor
    · rintro ⟨hnames, hneeds, hmissing⟩
      exact ⟨(hnone hnames hneeds).mp hmissing, hnames, hneeds⟩
    · rintro ⟨htarget, hnames, hneeds⟩
      exact ⟨hnames, hneeds, (hnone hnames hneeds).mpr htarget⟩

/-- Among wide blanks and in capital letters, parameters are no reference to delete; and a target is a
    type to create, even if no kind has its name. -/
theorem parameters_are_no_target :
    let s := Store.empty (.uuids 0)
    let bare := "ok\u2003/canvas\u00a0DELETE\u3000[1]".toList
    let aimed := "/canvas\u2003Create\u3000x".toList
    (∃ found, Inline.find? bare = some found ∧
      (execute s found.command).answer = .error (.missingReference .delete)) ∧
    ∃ found, Inline.find? aimed = some found ∧
      (execute s found.command).answer ≠ .error .missingElementType := by
  intro s bare aimed
  have hbare : Inline.HasForm bare ⟨"DELETE".toList, none, "[1]".toList⟩ :=
    Inline.parts?_eq_some_iff.mp (by decide +kernel)
  have haimed : Inline.HasForm aimed ⟨"Create".toList, some "x".toList, []⟩ :=
    Inline.parts?_eq_some_iff.mp (by decide +kernel)
  have hdelete : CommandVerb.delete.NamedBy (String.ofList "DELETE".toList) := by
    rw [CommandVerb.NamedBy]
    decide +kernel
  have hfound := Inline.find?_eq_some_iff.mpr ⟨_, hbare, rfl⟩
  have hmade := Inline.find?_eq_some_iff.mpr ⟨_, haimed, rfl⟩
  refine ⟨⟨_, hfound, ?_⟩, ⟨_, hmade, ?_⟩⟩
  · exact (((missing_iff_no_target hfound s).2 _ hbare).2 .delete).mpr ⟨rfl, hdelete, by simp⟩
  · intro hmissing
    cases (((missing_iff_no_target hmade s).2 _ haimed).1.mp hmissing).1

end AgentCanvas
