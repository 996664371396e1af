import AgentCanvas.Log.Session
import AgentCanvas.Proofs.Json.Fields
import Mathlib.Data.List.Basic

set_option autoImplicit false

namespace AgentCanvas

open Text

structure LogRequest where
  level : String
  directory : String

/-- The text names the level, in any letter case and between blanks. One level has a second name. -/
def LogLevel.NamedBy (level : LogLevel) (raw : String) : Prop :=
  lower (trim raw) = level.name ∨ level = .warn ∧ lower (trim raw) = "warning"

structure LogRequest.AsksFor (r : LogRequest) (settings : LogSettings) : Prop where
  level : settings.level.NamedBy r.level
  directory : settings.directory = trim r.directory
  absolute : ∃ rest, settings.directory.toList = '/' :: rest

/-- The names between the slashes of a path that lead anywhere. -/
def Path.leading (path : String) : List (List Char) :=
  (path.toList.splitOn '/').filter fun name => name ≠ [] ∧ name ≠ ['.']

/-- The paths lead the same way. Only their text is looked at, so a name and a double dot behind it
    are not left out. -/
def Path.SameAs (p q : String) : Prop :=
  leading p = leading q

theorem LogLevel.parse_eq_ok_iff {raw : String} {level : LogLevel} :
    LogLevel.parse raw = .ok level ↔ level.NamedBy raw := by
  unfold parse NamedBy
  generalize lower (trim raw) = text
  constructor
  · intro h
    split at h <;> cases h
    case h_5 => exact .inr ⟨rfl, rfl⟩
    all_goals exact .inl rfl
  · rintro (rfl | ⟨rfl, rfl⟩)
    · cases level <;> rfl
    · rfl

theorem Path.isAbsolute_iff {path : String} :
    isAbsolute path = true ↔ ∃ rest, path.toList = '/' :: rest := by
  unfold isAbsolute
  cases path.toList with
  | nil => simp
  | cons c rest => simp

theorem LogSettings.parseDirectory_eq_ok_iff {raw path : String} :
    parseDirectory raw = .ok path ↔ path = trim raw ∧ ∃ rest, path.toList = '/' :: rest := by
  unfold parseDirectory
  simp only [← Path.isAbsolute_iff]
  split_ifs with hempty habsolute
  · rw [String.isEmpty_iff] at hempty
    have hrelative : Path.isAbsolute "" = false := by decide
    simp +contextual [hempty, hrelative]
  · rw [Except.ok.injEq, eq_comm]
    exact ⟨fun h => ⟨h, h ▸ habsolute⟩, And.left⟩
  · simp +contextual [habsolute]

theorem LogSettings.parse_eq_ok_iff {r : LogRequest} {settings : LogSettings} :
    LogSettings.parse r.level r.directory = .ok settings ↔ r.AsksFor settings := by
  simp only [parse, Json.bind_eq_ok, LogLevel.parse_eq_ok_iff, parseDirectory_eq_ok_iff]
  constructor
  · rintro ⟨level, hlevel, path, ⟨rfl, habsolute⟩, h⟩
    cases h
    exact ⟨hlevel, rfl, habsolute⟩
  · rintro ⟨hlevel, hpath, habsolute⟩
    exact ⟨settings.level, hlevel, settings.directory, ⟨hpath, habsolute⟩, rfl⟩

theorem LogRequest.AsksFor.unique {r : LogRequest} {settings others : LogSettings}
    (h : r.AsksFor settings) (hothers : r.AsksFor others) : settings = others :=
  Except.ok.inj ((LogSettings.parse_eq_ok_iff.mpr h).symm.trans
    (LogSettings.parse_eq_ok_iff.mpr hothers))

theorem Path.names_split (text : List Char) : ∃ first others, text.splitOn '/' = first :: others ∧
    text.foldr (fun c (current, done) =>
      if c = '/' then (([] : List Char), String.ofList current :: done) else (c :: current, done))
      ([], []) = (first, others.map String.ofList) := by
  induction text with
  | nil => exact ⟨[], [], rfl, rfl⟩
  | cons c text ih =>
    obtain ⟨first, others, hsplit, hread⟩ := ih
    rw [List.splitOn_cons_eq_if_modifyHead, hsplit, List.foldr_cons, hread]
    by_cases hc : c = '/'
    · subst hc
      exact ⟨[], first :: others, rfl, rfl⟩
    · refine ⟨c :: first, others, ?_, ?_⟩
      · simp [hc]
      · simp [hc]

theorem Path.components_eq (path : String) :
    components path = (leading path).map String.ofList := by
  obtain ⟨first, others, hsplit, hread⟩ := names_split path.toList
  have hnames : names path =
      ((path.toList.splitOn '/').map String.ofList).filter fun name => !name.isEmpty := by
    rw [names, hread, hsplit]
    rfl
  have hkept : ∀ name : List Char, (String.ofList name != "." && !(String.ofList name).isEmpty) =
      decide (name ≠ [] ∧ name ≠ ['.']) := by
    intro name
    have hdot : String.ofList name = "." ↔ name = ['.'] :=
      @String.ofList_inj name ['.']
    rw [Bool.eq_iff_iff]
    simp [hdot, and_comm]
  rw [components, hnames, leading, List.filter_filter, List.filter_map]
  exact congrArg (List.map String.ofList) (List.filter_congr fun name _ => hkept name)

theorem Path.same_iff {p q : String} : same p q = true ↔ SameAs p q := by
  rw [same, beq_iff_eq, components_eq, components_eq, SameAs,
    List.map_inj_right fun _ _ => String.ofList_injective]

theorem LogSettings.conflict?_eq_none_iff {active requested : LogSettings} :
    active.conflict? requested = none ↔
      active.level = requested.level ∧ Path.SameAs active.directory requested.directory := by
  rw [conflict?, ← Path.same_iff]
  cases Path.same active.directory requested.directory with
  | false => simp
  | true => simp

end AgentCanvas
