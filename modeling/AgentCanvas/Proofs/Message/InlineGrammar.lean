import AgentCanvas.Proofs.Message.Form
import AgentCanvas.Proofs.Message.InlinePattern

set_option autoImplicit false

namespace AgentCanvas

open Json Text

theorem CommandVerb.parse?_eq_some_iff (raw : String) (verb : CommandVerb) :
    CommandVerb.parse? raw = some verb ↔ lower (trim raw) = verb.name := by
  simp only [CommandVerb.parse?]
  generalize lower (trim raw) = name
  constructor
  · intro h
    have hname := List.find?_some h
    exact (beq_iff_eq.mp hname).symm
  · rintro rfl
    cases verb <;> decide

namespace Inline

/-- What the parts of a command say, and which issues come with it. -/
structure Parts.Say (parts : Parts) (command : Command) (issues : List ParseIssue) : Prop where
  verb : command.verb = String.ofList parts.verb
  create : lower command.verb = "create" →
    command.elementType = parts.target.map String.ofList ∧ command.elementId = none
  other : lower command.verb ≠ "create" →
    command.elementType = none ∧ command.elementId = parts.target.map String.ofList
  empty : parts.tail = [] → command.params = none ∧ issues = []
  object : ∀ fields, parts.tail ≠ [] → parse (String.ofList parts.tail) = .ok (.object fields) →
    command.params = some fields ∧ issues = []
  text : parts.tail ≠ [] → (∀ fields, parse (String.ofList parts.tail) ≠ .ok (.object fields)) →
    command.params = some [("text", .string (String.ofList parts.tail))] ∧
      issues = [.inlineTailAsText 1]

theorem linesFrom_of_not_mem {text : List Char} (line : List Char) (h : '\n' ∉ text) :
    linesFrom line text =
      if line.isEmpty && text.isEmpty then [] else [line.reverse ++ text] := by
  induction text generalizing line with
  | nil => simp [linesFrom]
  | cons c text ih =>
    have hc : c ≠ '\n' := fun hc => h (by simp [hc])
    rw [linesFrom, ih (c :: line) fun hmem => h (List.mem_cons_of_mem c hmem)]
    · simp
    · exact hc

theorem findAll_of_line {line : List Char} (h : '\n' ∉ line) :
    findAll line = ((find? line).map fun found => (1, found)).toList := by
  rw [findAll, lines, linesFrom_of_not_mem [] h]
  cases line with
  | nil => rfl
  | cons c line =>
    cases hfind : find? (c :: line) <;> simp [hfind]

theorem verb_of_parts {line : List Char} {parts : Parts} (h : parts? line = some parts) :
    ∀ c ∈ parts.verb, isBlank c = false := by
  rw [parts?_eq_map] at h
  obtain ⟨text, -, rfl⟩ := Option.map_eq_some_iff.mp h
  intro c hc
  simpa [isInk] using List.mem_takeWhile_imp hc

theorem target_of_parts {line target : List Char} {parts : Parts} (h : parts? line = some parts)
    (htarget : parts.target = some target) : ∀ c ∈ target, isBlank c = false := by
  rw [parts?_eq_map] at h
  obtain ⟨text, -, rfl⟩ := Option.map_eq_some_iff.mp h
  simp only [partsBehind, takeTarget] at htarget
  split at htarget
  · cases htarget
  · split_ifs at htarget
    cases htarget
    intro c hc
    simpa [isInk] using List.mem_takeWhile_imp hc

theorem isCreate_iff {verb : List Char} (h : ∀ c ∈ verb, isBlank c = false) :
    isCreate (String.ofList verb) = true ↔ lower (String.ofList verb) = "create" := by
  rw [isCreate, beq_iff_eq, CommandVerb.parse?_eq_some_iff, trim, String.toList_ofList,
    trimChars_of_not_blank h, CommandVerb.name]

/-- The parameters of a tail, and whether they are the tail as text. -/
def tailParams (tail : List Char) : Option Fields × Bool :=
  if tail.isEmpty then (none, false)
  else (some (params (String.ofList tail)).1, (params (String.ofList tail)).2)

theorem tailParams_of_object {tail : List Char} {fields : Fields} (hne : tail ≠ [])
    (h : parse (String.ofList tail) = .ok (.object fields)) :
    tailParams tail = (some fields, false) := by
  simp [tailParams, params, hne, h]

theorem tailParams_of_not_object {tail : List Char} (hne : tail ≠ [])
    (h : ∀ fields, parse (String.ofList tail) ≠ .ok (.object fields)) :
    tailParams tail = (some [("text", .string (String.ofList tail))], true) := by
  have hparams : params (String.ofList tail) = ([("text", .string (String.ofList tail))], true) := by
    unfold params
    split
    case h_1 fields hfields => exact absurd hfields (h fields)
    case h_2 => rfl
  simp [tailParams, hne, hparams]

def foundOf (parts : Parts) : Found :=
  let verb := String.ofList parts.verb
  let target := parts.target.map String.ofList
  { command := {
      verb
      elementType := if isCreate verb then target else none
      elementId := if isCreate verb then none else target
      params := (tailParams parts.tail).1 }
    tailAsText := (tailParams parts.tail).2 }

theorem find?_eq_map (line : List Char) : find? line = (parts? line).map foundOf := by
  unfold find?
  cases parts? line with
  | none => rfl
  | some parts => cases htail : parts.tail <;> simp [foundOf, tailParams, htail]

theorem exists_parts_of_mem {text : List Char} {command : Command}
    (h : command ∈ commands (findAll text)) :
    ∃ line parts, parts? line = some parts ∧ command = (foundOf parts).command := by
  obtain ⟨⟨number, found⟩, hfound, rfl⟩ := List.mem_map.mp h
  obtain ⟨⟨line, place⟩, -, hline⟩ := List.mem_filterMap.mp hfound
  obtain ⟨found, hfind, heq⟩ := Option.map_eq_some_iff.mp hline
  rw [find?_eq_map] at hfind
  obtain ⟨parts, hparts, rfl⟩ := Option.map_eq_some_iff.mp hfind
  cases heq
  exact ⟨line, parts, hparts, rfl⟩

theorem foundOf_says {parts : Parts} (h : ∀ c ∈ parts.verb, isBlank c = false) :
    parts.Say (foundOf parts).command (issues [(1, foundOf parts)]) where
  verb := rfl
  create hverb := by
    have hcreate := (isCreate_iff h).mpr hverb
    simp [foundOf, hcreate]
  other hverb := by
    have hcreate : ¬ isCreate (String.ofList parts.verb) = true := fun hc =>
      hverb ((isCreate_iff h).mp hc)
    simp [foundOf, hcreate]
  empty hnil := by simp [foundOf, issues, tailParams, hnil]
  object fields hne hfields := by simp [foundOf, issues, tailParams_of_object hne hfields]
  text hne hno := by simp [foundOf, issues, tailParams_of_not_object hne hno]

theorem exists_form_iff (line : List Char) :
    (∃ parts, HasForm line parts) ↔ ∃ before behind,
      pieces line = before ++ commandMark.toList :: behind ∧ commandMark.toList ∉ before ∧
        behind ≠ [] := by
  constructor
  · rintro ⟨parts, before, behind, -, -, hpieces, hfirst, -⟩
    exact ⟨before, parts.verb :: behind, hpieces, hfirst, List.cons_ne_nil _ _⟩
  · rintro ⟨before, behind, hpieces, hfirst, hne⟩
    rw [← map_letters_words] at hpieces
    obtain ⟨found, fromMark, hline, rfl, hfromMark⟩ := List.map_eq_append_iff.mp hpieces
    obtain ⟨mark, others, rfl, hmark, rfl⟩ := List.map_eq_cons_iff.mp hfromMark
    cases others with
    | nil => exact absurd rfl hne
    | cons verb others =>
      refine ⟨partsFrom verb others, (wordParts?_eq_some_iff line _).mp ?_⟩
      rw [wordParts?, hline, dropWhile_to_mark hmark hfirst]

/-- On a line without a line feed a command is found if the first marker among its pieces is not the
    last piece; the pattern finds the parts that have the form; and the one command and the issues
    of the line are what these parts say. -/
theorem command_on_line {line : List Char} (h : '\n' ∉ line) :
    (findAll line ≠ [] ↔ ∃ before behind, pieces line = before ++ commandMark.toList :: behind ∧
      commandMark.toList ∉ before ∧ behind ≠ []) ∧
    (∀ parts, partsMatched? line = some parts ↔ HasForm line parts) ∧
    ∀ parts, HasForm line parts → ∃ command, commands (findAll line) = [command] ∧
      parts.Say command (issues (findAll line)) := by
  have hform : ∀ parts, parts? line = some parts ↔ HasForm line parts := by
    intro parts
    rw [parts?_eq_wordParts?, wordParts?_eq_some_iff]
  refine ⟨?_, ?_, ?_⟩
  · rw [← exists_form_iff, findAll_of_line h, find?_eq_map]
    simp only [← hform]
    cases parts? line <;> simp
  · intro parts
    rw [partsMatched?_eq_parts? h, hform]
  · intro parts hparts
    have hread := (hform parts).mpr hparts
    refine ⟨(foundOf parts).command, ?_, ?_⟩
    · rw [findAll_of_line h, find?_eq_map, hread]
      rfl
    · rw [findAll_of_line h, find?_eq_map, hread]
      exact foundOf_says (verb_of_parts hread)

theorem label_from_prose :
    ∃ command, commands (findAll "see /canvas Create label  hello world ".toList) = [command] ∧
      command.elementType = some "label" ∧ command.elementId = none ∧
      command.params = some [("text", .string "hello world")] ∧
      issues (findAll "see /canvas Create label  hello world ".toList) = [.inlineTailAsText 1] := by
  obtain ⟨-, hpattern, hsays⟩ :=
    command_on_line (show '\n' ∉ "see /canvas Create label  hello world ".toList by decide)
  obtain ⟨command, hcommand, hsay⟩ :=
    hsays ⟨"Create".toList, some "label".toList, "hello world".toList⟩ ((hpattern _).mp (by rfl))
  have hverb : lower command.verb = "create" := by
    rw [hsay.verb]
    decide
  have hprose : ∀ fields, parse "hello world" ≠ .ok (.object fields) := by
    intro fields h
    have hfails : (parse "hello world").isOk = false := by decide +kernel
    rw [h] at hfails
    cases hfails
  obtain ⟨htype, hid⟩ := hsay.create hverb
  obtain ⟨hparams, hissues⟩ := hsay.text (by decide) hprose
  exact ⟨command, hcommand, htype, hid, hparams, hissues⟩

end Inline
end AgentCanvas
