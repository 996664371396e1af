import AgentCanvas.Proofs.Json.Escapes
import AgentCanvas.Proofs.Json.NumberEnds
import AgentCanvas.Proofs.Text.Joining

set_option autoImplicit false

namespace AgentCanvas.Json

open Text

namespace Value

@[elab_as_elim]
theorem induction {motive : Value → Prop} (null : motive .null) (bool : ∀ b, motive (.bool b))
    (number : ∀ n, motive (.number n)) (string : ∀ s, motive (.string s))
    (array : ∀ items, (∀ item ∈ items, motive item) → motive (.array items))
    (object : ∀ fields, (∀ field ∈ fields, motive field.2) → motive (.object fields))
    (value : Value) : motive value :=
  @Value.rec motive (fun items => ∀ item ∈ items, motive item)
    (fun fields => ∀ field ∈ fields, motive field.2) (fun field => motive field.2)
    null bool number string array object
    (fun _ => nofun) (fun _ _ hitem hitems => List.forall_mem_cons.mpr ⟨hitem, hitems⟩)
    (fun _ => nofun) (fun _ _ hfield hfields => List.forall_mem_cons.mpr ⟨hfield, hfields⟩)
    (fun _ _ hvalue => hvalue) value

/-! ## Lists of parts -/

def listText {α : Type} (text : α → List Char) : Bool → List α → List Char
  | _, [] => []
  | first, a :: rest => (if first then [] else [',']) ++ (text a ++ listText text false rest)

def chars (value : Value) : List Char :=
  value.text.toList

def fieldChars (field : String × Value) : List Char :=
  (stringText field.1).toList ++ ':' :: field.2.chars

theorem toList_itemsText (first : Bool) (items : List Value) :
    (itemsText first items).toList = listText chars first items := by
  induction items generalizing first with
  | nil => rfl
  | cons item items ih =>
    rw [itemsText, String.toList_append, String.toList_append, ih, List.append_assoc, listText]
    cases first <;> rfl

theorem toList_fieldsText (first : Bool) (fields : List (String × Value)) :
    (fieldsText first fields).toList = listText fieldChars first fields := by
  induction fields generalizing first with
  | nil => rfl
  | cons field fields ih =>
    obtain ⟨key, value⟩ := field
    rw [fieldsText, String.toList_append, String.toList_append, String.toList_append,
      String.toList_append, ih, listText, fieldChars]
    simp only [List.append_assoc]
    cases first <;> rfl

theorem chars_array (items : List Value) :
    chars (.array items) = '[' :: (listText chars true items ++ [']']) := by
  rw [chars, text, String.toList_append, String.toList_append, toList_itemsText]
  rfl

theorem chars_object (fields : List (String × Value)) :
    chars (.object fields) = '\x7b' :: (listText fieldChars true fields ++ ['\x7d']) := by
  rw [chars, text, String.toList_append, String.toList_append, toList_fieldsText]
  rfl

theorem toList_stringText (s : String) :
    (stringText s).toList = '"' :: (s.toList.flatMap escapedChar ++ ['"']) := by
  rw [stringText, String.toList_ofList]
  rfl

theorem chars_string (s : String) :
    chars (.string s) = '"' :: (s.toList.flatMap escapedChar ++ ['"']) :=
  toList_stringText s

theorem chars_number (n : Number) : chars (.number n) = n.text.toList := rfl

/-! ## Printed characters -/

/-- No character is below U+0020. -/
def Prints (text : List Char) : Prop :=
  ∀ c ∈ text, 0x20 ≤ c.toNat

instance (text : List Char) : Decidable (Prints text) :=
  decidable_of_iff _ List.all_iff_forall_prop

theorem prints_append {a b : List Char} : Prints (a ++ b) ↔ Prints a ∧ Prints b :=
  List.forall_mem_append

theorem prints_cons {c : Char} {rest : List Char} :
    Prints (c :: rest) ↔ 0x20 ≤ c.toNat ∧ Prints rest :=
  List.forall_mem_cons

theorem prints_nil : Prints [] := nofun

theorem prints_of_mem_escapeLetters {c : Char} (h : c ∈ escapeLetters) : 0x20 ≤ c.toNat := by
  have hall : Prints escapeLetters := by decide
  exact hall c h

theorem prints_escapedChar (c : Char) : Prints (escapedChar c) := by
  have hescaped := escapedAs c
  generalize escapedChar c = written at hescaped
  cases hescaped with
  | escape body hbody hread =>
    exact prints_cons.mpr ⟨by decide, fun x hx => prints_of_mem_escapeLetters (hbody x hx)⟩
  | plain hquote hslash hprints => exact prints_cons.mpr ⟨hprints, prints_nil⟩

theorem prints_stringText (s : String) : Prints (stringText s).toList := by
  rw [toList_stringText]
  refine prints_cons.mpr ⟨by decide, prints_append.mpr ⟨fun c hc => ?_, by decide⟩⟩
  obtain ⟨x, -, hx⟩ := List.mem_flatMap.mp hc
  exact prints_escapedChar x c hx

theorem prints_of_numeric {c : Char} (h : isNumeric c = true) : 0x20 ≤ c.toNat := by
  simp only [isNumeric, Bool.or_eq_true, beq_iff_eq] at h
  obtain (((hdigit | rfl) | rfl) | rfl) | rfl := h
  · have hlow : 48 ≤ c.toNat ∧ c.toNat ≤ 57 := by
      simpa [Char.isDigit, UInt32.le_iff_toNat_le] using hdigit
    omega
  all_goals decide

theorem prints_listText {α : Type} {text : α → List Char} (first : Bool) {as : List α}
    (h : ∀ a ∈ as, Prints (text a)) : Prints (listText text first as) := by
  induction as generalizing first with
  | nil => exact prints_nil
  | cons a as ih =>
    obtain ⟨ha, has⟩ := List.forall_mem_cons.mp h
    refine prints_append.mpr ⟨?_, prints_append.mpr ⟨ha, ih false has⟩⟩
    cases first <;> decide

theorem prints_chars (value : Value) : Prints value.chars := by
  induction value using Value.induction with
  | null => decide
  | bool b => cases b <;> decide
  | number n => exact fun c hc => prints_of_numeric (n.numeric_text c hc)
  | string s => exact prints_stringText s
  | array items ih =>
    rw [chars_array]
    exact prints_cons.mpr ⟨by decide, prints_append.mpr ⟨prints_listText true ih, by decide⟩⟩
  | object fields ih =>
    rw [chars_object]
    have hfields : ∀ field ∈ fields, Prints (fieldChars field) := fun field hfield =>
      prints_append.mpr ⟨prints_stringText _, prints_cons.mpr ⟨by decide, ih field hfield⟩⟩
    exact prints_cons.mpr ⟨by decide, prints_append.mpr ⟨prints_listText true hfields, by decide⟩⟩

/-! ## Strings in a value -/

/-- A string of a value, as a value of its own or as a key. -/
inductive Holds (s : String) : Value → Prop where
  | string : Holds s (.string s)
  | item {items : List Value} {item : Value} (hitem : item ∈ items) (h : Holds s item) :
    Holds s (.array items)
  | key {fields : List (String × Value)} {value : Value} (hfield : (s, value) ∈ fields) :
    Holds s (.object fields)
  | field {fields : List (String × Value)} {field : String × Value} (hfield : field ∈ fields)
    (h : Holds s field.2) : Holds s (.object fields)

/-- A mark that stands in strings only, and is written as it is. -/
structure ProseMark (mark : List Char) : Prop where
  blank : ∃ b rest, mark = b :: rest ∧ isBlank b = true
  plain : ∀ c ∈ mark, escapedChar c = [c]
  prose : ∀ c ∈ [',', ':', '"', ']', '\x7d'], c ∉ mark

theorem prefix_of_prefix_escaped {mark chars : List Char} (hplain : ∀ c ∈ mark, escapedChar c = [c])
    (h : mark <+: chars.flatMap escapedChar) : mark <+: chars := by
  induction mark generalizing chars with
  | nil => exact List.nil_prefix
  | cons x mark ih =>
    obtain ⟨hx, hmark⟩ := List.forall_mem_cons.mp hplain
    cases chars with
    | nil => exact absurd h (by simp)
    | cons c chars =>
      rw [List.flatMap_cons] at h
      have hescaped := escapedAs c
      generalize escapedChar c = written at hescaped h
      cases hescaped with
      | escape body hbody hread =>
        obtain ⟨rfl, -⟩ := List.cons_prefix_cons.mp h
        exact absurd hx (by decide)
      | plain hquote hslash hprints =>
        obtain ⟨rfl, hrest⟩ := List.cons_prefix_cons.mp h
        exact List.cons_prefix_cons.mpr ⟨rfl, ih hmark hrest⟩

theorem flatMap_escapedChar_of_plain {chars : List Char} (h : ∀ c ∈ chars, escapedChar c = [c]) :
    chars.flatMap escapedChar = chars := by
  rw [List.flatMap_congr h, List.flatMap_singleton']

namespace ProseMark

variable {mark : List Char}

theorem not_infix_nil (h : ProseMark mark) : ¬ mark <:+: [] := by
  obtain ⟨b, rest, rfl, -⟩ := h.blank
  simp

theorem not_infix_of_ink (h : ProseMark mark) {text : List Char}
    (hink : ∀ c ∈ text, isBlank c = false) : ¬ mark <:+: text := by
  obtain ⟨b, rest, rfl, hb⟩ := h.blank
  intro hmark
  rw [hink b (hmark.subset List.mem_cons_self)] at hb
  cases hb

theorem infix_append_iff_of_ink (h : ProseMark mark) {before text : List Char}
    (hink : ∀ c ∈ before, isBlank c = false) : mark <:+: before ++ text ↔ mark <:+: text := by
  refine ⟨fun hmark => ?_, fun hmark => hmark.trans (List.suffix_append before text).isInfix⟩
  obtain ⟨b, rest, rfl, hb⟩ := h.blank
  induction before with
  | nil => exact hmark
  | cons x before ih =>
    obtain ⟨hx, hbefore⟩ := List.forall_mem_cons.mp hink
    obtain hhere | hrest := List.infix_cons_iff.mp hmark
    · rw [(List.cons_prefix_cons.mp hhere).1, hx] at hb
      cases hb
    · exact ih hbefore hrest

theorem infix_cons_iff (h : ProseMark mark) {x : Char} {text : List Char}
    (hink : isBlank x = false) : mark <:+: x :: text ↔ mark <:+: text :=
  have hall : ∀ c ∈ [x], isBlank c = false := List.forall_mem_singleton.mpr hink
  h.infix_append_iff_of_ink hall

theorem infix_ended_iff (h : ProseMark mark) {c : Char} (hc : c ∈ [',', ':', '"', ']', '\x7d'])
    {text : List Char} : mark <:+: text ++ [c] ↔ mark <:+: text := by
  rw [infix_append_cons_iff (h.prose c hc), or_iff_left h.not_infix_nil]

theorem infix_escaped_iff (h : ProseMark mark) (chars : List Char) :
    mark <:+: chars.flatMap escapedChar ↔ mark <:+: chars := by
  constructor
  · intro hmark
    induction chars with
    | nil => exact hmark
    | cons c chars ih =>
      have hhere : mark <+: (c :: chars).flatMap escapedChar → mark <+: c :: chars :=
        prefix_of_prefix_escaped h.plain
      rw [List.flatMap_cons] at hmark hhere
      have hescaped := escapedAs c
      generalize escapedChar c = written at hescaped hmark hhere
      cases hescaped with
      | escape body hbody hread =>
        -- no blank stands in an escape, so that the mark begins behind it
        have hink : ∀ x ∈ '\\' :: body, isBlank x = false := by
          have hall : ∀ x ∈ escapeLetters, isBlank x = false := List.all_iff_forall_prop.mp rfl
          exact List.forall_mem_cons.mpr ⟨by decide, fun x hx => hall x (hbody x hx)⟩
        exact List.infix_cons (ih ((h.infix_append_iff_of_ink hink).mp hmark))
      | plain hquote hslash hprints =>
        obtain hmark | hmark := List.infix_cons_iff.mp hmark
        · exact (hhere hmark).isInfix
        · exact List.infix_cons (ih hmark)
  · rintro ⟨before, behind, rfl⟩
    rw [List.flatMap_append, List.flatMap_append, flatMap_escapedChar_of_plain h.plain]
    exact List.infix_append _ _ _

theorem infix_stringText_iff (h : ProseMark mark) (s : String) :
    mark <:+: (stringText s).toList ↔ mark <:+: s.toList := by
  rw [toList_stringText, h.infix_cons_iff (by decide), h.infix_ended_iff (by decide),
    h.infix_escaped_iff]

theorem infix_listText_iff (h : ProseMark mark) {α : Type} (text : α → List Char) (first : Bool)
    (as : List α) : mark <:+: listText text first as ↔ ∃ a ∈ as, mark <:+: text a := by
  induction as generalizing first with
  | nil => simpa [listText] using h.not_infix_nil
  | cons a as ih =>
    have hsplit : mark <:+: text a ++ listText text false as ↔
        mark <:+: text a ∨ mark <:+: listText text false as := by
      cases as with
      | nil => rw [listText, List.append_nil, or_iff_left h.not_infix_nil]
      | cons b as =>
        change mark <:+: text a ++ ',' :: (text b ++ listText text false as) ↔
          _ ∨ mark <:+: ',' :: (text b ++ listText text false as)
        rw [infix_append_cons_iff (h.prose ',' (by decide)), h.infix_cons_iff (by decide)]
    have hcomma : ∀ c ∈ if first then [] else [','], isBlank c = false :=
      List.all_iff_forall_prop.mp (by cases first <;> rfl)
    rw [listText, h.infix_append_iff_of_ink hcomma, hsplit, ih, List.exists_mem_cons_iff]

theorem infix_fieldChars_iff (h : ProseMark mark) (field : String × Value) :
    mark <:+: fieldChars field ↔ mark <:+: field.1.toList ∨ mark <:+: field.2.chars := by
  rw [fieldChars, infix_append_cons_iff (h.prose ':' (by decide)), h.infix_stringText_iff]

/-- A mark stands in the text of a value if it stands in one of its strings. -/
theorem infix_chars_iff (h : ProseMark mark) (value : Value) :
    mark <:+: value.chars ↔ ∃ s, Holds s value ∧ mark <:+: s.toList := by
  induction value using Value.induction with
  | null => exact iff_of_false (h.not_infix_of_ink (List.all_iff_forall_prop.mp rfl)) nofun
  | bool b =>
    have hink : ∀ c ∈ chars (.bool b), isBlank c = false :=
      List.all_iff_forall_prop.mp (by cases b <;> rfl)
    exact iff_of_false (h.not_infix_of_ink hink) nofun
  | number n =>
    refine iff_of_false (h.not_infix_of_ink fun c hc => ?_) nofun
    exact isBlank_of_numeric (n.numeric_text c hc)
  | string s =>
    refine (h.infix_stringText_iff s).trans ⟨fun hmark => ⟨s, .string, hmark⟩, ?_⟩
    rintro ⟨_, ⟨⟩, hmark⟩
    exact hmark
  | array items ih =>
    rw [chars_array, h.infix_cons_iff (by decide), h.infix_ended_iff (by decide),
      h.infix_listText_iff]
    constructor
    · rintro ⟨item, hitem, hmark⟩
      obtain ⟨s, hs, hmark⟩ := (ih item hitem).mp hmark
      exact ⟨s, .item hitem hs, hmark⟩
    · rintro ⟨s, hs, hmark⟩
      cases hs with
      | item hitem hs => exact ⟨_, hitem, (ih _ hitem).mpr ⟨s, hs, hmark⟩⟩
  | object fields ih =>
    rw [chars_object, h.infix_cons_iff (by decide), h.infix_ended_iff (by decide),
      h.infix_listText_iff]
    constructor
    · rintro ⟨field, hfield, hmark⟩
      obtain hkey | hvalue := (h.infix_fieldChars_iff field).mp hmark
      · exact ⟨field.1, .key hfield, hkey⟩
      · obtain ⟨s, hs, hmark⟩ := (ih field hfield).mp hvalue
        exact ⟨s, .field hfield hs, hmark⟩
    · rintro ⟨s, hs, hmark⟩
      cases hs with
      | key hfield => exact ⟨_, hfield, (h.infix_fieldChars_iff _).mpr (.inl hmark)⟩
      | field hfield hs =>
        exact ⟨_, hfield, (h.infix_fieldChars_iff _).mpr (.inr ((ih _ hfield).mpr ⟨s, hs, hmark⟩))⟩

end ProseMark
end Value
end AgentCanvas.Json
