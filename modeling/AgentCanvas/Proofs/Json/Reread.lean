import AgentCanvas.Proofs.Json.Texts

set_option autoImplicit false

/-!
# Written values are read back

What is read from the text of a value is the value itself, up to the numbers a reader rounds
otherwise; and a text that was cut off inside a string is no document.
-/
namespace AgentCanvas.Json

open Text

variable {α β : Type}

/-- The number that is read where a number was written. -/
def Number.reread (n : Number) : Number :=
  match readNumber (.start n.text.toList) with
  | .ok (m, _) => m
  | .error _ => n

namespace Value

mutual

def reread : Value → Value
  | .number n => .number n.reread
  | .array items => .array (rereadItems items)
  | .object fields => .object (rereadFields fields)
  | value => value

def rereadItems : List Value → List Value
  | [] => []
  | item :: rest => item.reread :: rereadItems rest

def rereadFields : List (String × Value) → List (String × Value)
  | [] => []
  | (key, value) :: rest => (key, value.reread) :: rereadFields rest

end

theorem rereadItems_eq_map (items : List Value) : rereadItems items = items.map reread := by
  induction items with
  | nil => rfl
  | cons item items ih => rw [rereadItems, ih, List.map_cons]

def rereadField (field : String × Value) : String × Value :=
  (field.1, field.2.reread)

theorem rereadFields_eq_map (fields : List (String × Value)) :
    rereadFields fields = fields.map rereadField := by
  induction fields with
  | nil => rfl
  | cons field fields ih => rw [rereadFields, ih, List.map_cons]; rfl

end Value

/-- A reader that takes a text it finds for the given value, also where the text is cut off. -/
def ReadsBack (lost : List Char) (read : Cursor → Except Fault (α × Cursor)) (text : List Char)
    (a : α) : Prop :=
  ∀ ⦃c b c' behind⦄, c.rest ++ lost = text ++ behind → read c = .ok (b, c') →
    b = a ∧ c'.rest ++ lost = behind

/-- The same of a reader of numbers, which may take more of what goes on like a number. -/
def ReadsBackEnded (lost : List Char) (read : Cursor → Except Fault (α × Cursor))
    (text : List Char) (a : α) : Prop :=
  ∀ ⦃c b c' behind⦄, c.rest ++ lost = text ++ behind → EndsNumber behind →
    read c = .ok (b, c') → EndsNumber c'.rest → b = a ∧ c'.rest ++ lost = behind

variable {lost : List Char}

theorem rest_ne_nil {read : Cursor → Except Fault (α × Cursor)} {c c' : Cursor} {b : α}
    (hnil : ∀ c, c.rest = [] → ∃ fault, read c = .error fault) (h : read c = .ok (b, c')) :
    c.rest ≠ [] := by
  intro hempty
  obtain ⟨fault, hfault⟩ := hnil c hempty
  rw [hfault] at h
  cases h

namespace ReadsBack

variable {read : Cursor → Except Fault (α × Cursor)} {text : List Char} {a : α}

theorem ended (h : ReadsBack lost read text a) : ReadsBackEnded lost read text a :=
  fun _ _ _ _ hc _ hread _ => h hc hread

theorem map (h : ReadsBack lost read text a) (f : α → β) :
    ReadsBack lost (fun c => (read c).map fun step => (f step.1, step.2)) text (f a) := by
  intro c b c' behind hc hread
  obtain ⟨⟨a', mid⟩, hstep, heq⟩ := map_eq_ok hread
  cases heq
  obtain ⟨rfl, hrest⟩ := h hc hstep
  exact ⟨rfl, hrest⟩

theorem behind (h : ReadsBack lost read text a) {read' : Cursor → Except Fault (α × Cursor)}
    {x : Char} (hnil : ∀ c, c.rest = [] → ∃ fault, read' c = .error fault)
    (heq : ∀ c rest, c.rest = x :: rest → read' c = read (c.skip 1)) :
    ReadsBack lost read' (x :: text) a := by
  intro c b c' behind hc hread
  obtain ⟨left, hleft, hrest⟩ := Cut.uncons hc (rest_ne_nil hnil hread)
  rw [heq c left hleft] at hread
  exact h (by rwa [Cursor.skip_one_rest hleft]) hread

end ReadsBack

/-! ## Scalars -/

theorem not_severs_of_numeric {x : Char} (h : isNumeric x = true) : ¬ Severs x := by
  rintro (rfl | hblank)
  · revert h
    decide
  · rw [isBlank_of_numeric h] at hblank
    cases hblank

theorem readNumber_readsBack (hlost : Cut lost) (n : Number) :
    ReadsBackEnded lost readNumber n.text.toList n.reread := by
  intro c m c' behind hc hbehind hread hends
  have hnumeric := n.numeric_text
  obtain ⟨left, hleft, rfl⟩ := hlost.append (fun x hx => not_severs_of_numeric (hnumeric x hx)) hc
  obtain ⟨hrest, d, halone, -⟩ := readNumber_before hnumeric hbehind.of_append hleft hread hends
  exact ⟨by rw [Number.reread, halone], by rw [hrest]⟩

theorem readWord_readsBack (word : List Char) (a : α) :
    ReadsBack lost (fun c => (readWord word c).map fun c => (a, c)) word a := by
  intro c b c' behind hc hread
  obtain ⟨c'', hword, heq⟩ := map_eq_ok hread
  cases heq
  rw [readWord_ok hword, List.append_assoc] at hc
  exact ⟨rfl, List.append_cancel_left hc⟩

theorem readString_readsBack (hlost : Cut lost) (s : String) :
    ReadsBack lost readString (s.toList.flatMap escapedChar ++ ['"']) s := by
  intro c s' c' behind hc hread
  rw [List.append_assoc] at hc
  obtain ⟨rfl, hrest⟩ := stringFrom_written hlost hc hread
  exact ⟨String.ofList_toList, hrest⟩

theorem readKey_readsBack (hlost : Cut lost) (s : String) :
    ReadsBack lost readKey (stringText s).toList s := by
  rw [Value.toList_stringText]
  refine (readString_readsBack hlost s).behind (fun c hc => ?_) fun c rest hrest => ?_
  · exact ⟨c.faultAhead .keyNotString, by simp only [readKey, hc]⟩
  · simp only [readKey, hrest]

theorem readScalar_nil (c : Cursor) (h : c.rest = []) : ∃ fault, readScalar c = .error fault :=
  ⟨c.faultAhead .endInValue, by simp only [readScalar, h]⟩

theorem readScalar_word {x : Char} {word : List Char} {a : Value}
    (heq : ∀ c rest, c.rest = x :: rest →
      readScalar c = (readWord word (c.skip 1)).map fun c => (a, c)) :
    ReadsBack lost readScalar (x :: word) a :=
  (readWord_readsBack word a).behind readScalar_nil heq

theorem readScalar_string (hlost : Cut lost) (s : String) :
    ReadsBack lost readScalar (Value.chars (.string s)) (.string s) := by
  rw [Value.chars_string]
  refine ((readString_readsBack hlost s).map Value.string).behind readScalar_nil ?_
  intro c rest hrest
  simp only [readScalar, hrest]

theorem Number.exists_numeric (n : Number) :
    ∃ x more, n.text.toList = x :: more ∧ isNumeric x = true := by
  obtain ⟨x, more, hmore⟩ := List.exists_cons_of_ne_nil n.toList_text_ne_nil
  exact ⟨x, more, hmore, n.numeric_text x (by rw [hmore]; exact List.mem_cons_self)⟩

theorem readScalar_number (hlost : Cut lost) (n : Number) :
    ReadsBackEnded lost readScalar n.text.toList (.number n.reread) := by
  intro c v c' behind hc hbehind hread hends
  obtain ⟨x, more, hmore, hx⟩ := n.exists_numeric
  have hne : c.rest ≠ [] := rest_ne_nil readScalar_nil hread
  obtain ⟨left, hleft, -⟩ := Cut.uncons (by rw [hc, hmore]; rfl) hne
  have hother : x ≠ 'n' ∧ x ≠ 't' ∧ x ≠ 'f' ∧ x ≠ '"' := by
    refine ⟨?_, ?_, ?_, ?_⟩ <;> rintro rfl <;> exact absurd hx (by decide)
  rw [readScalar_other hleft hother] at hread
  split_ifs at hread
  obtain ⟨⟨m, last⟩, hnumber, heq⟩ := map_eq_ok hread
  cases heq
  obtain ⟨rfl, hrest⟩ := readNumber_readsBack hlost n hc hbehind hnumber hends
  exact ⟨rfl, hrest⟩

/-! ## Punctuation -/

/-- The reader before a part of a list, which may be the first one. -/
def punctuation (close : Char) (stop wrong : Cause) (first : Bool) (c : Cursor) :
    Except Fault (Bool × Cursor) :=
  if first then openedBy close stop c.skipSpace else continuedBy close stop wrong c.skipSpace

theorem skipSpace_of_ink {c : Cursor} {x : Char} {rest : List Char} (h : c.rest = x :: rest)
    (hx : Cursor.isSpace x = false) : c.skipSpace.rest = x :: rest := by
  rw [Cursor.skipSpace_rest, h, List.dropWhile_cons_of_neg (by simp [hx])]

theorem skipSpace_nil {c : Cursor} (h : c.rest = []) : c.skipSpace.rest = [] := by
  rw [Cursor.skipSpace_rest, h, List.dropWhile_nil]

section

variable {close : Char} {stop wrong : Cause} {first go : Bool} {c c' : Cursor}
  {behind rest : List Char}

theorem punctuation_nil (first : Bool) (c : Cursor) (h : c.rest = []) :
    ∃ fault, punctuation close stop wrong first c = .error fault := by
  cases first with
  | false => exact continuedBy_nil close stop wrong _ (skipSpace_nil h)
  | true => exact openedBy_nil close stop _ (skipSpace_nil h)

theorem punctuation_close (hclose : Cursor.isSpace close = false)
    (hc : c.rest ++ lost = close :: behind)
    (h : punctuation close stop wrong first c = .ok (go, c')) :
    go = false ∧ c'.rest ++ lost = behind := by
  obtain ⟨left, hleft, rfl⟩ := Cut.uncons hc (rest_ne_nil (punctuation_nil first) h)
  have hskip := skipSpace_of_ink hleft hclose
  have hlead : lead c.skipSpace.rest = some close := by rw [hskip, lead_cons hclose]
  have hboth : punctuation close stop wrong first c = .ok (false, c.skipSpace.skip 1) := by
    cases first <;> simp [punctuation, openedBy, continuedBy, hlead]
  rw [hboth] at h
  cases h
  exact ⟨rfl, by rw [Cursor.skip_one_rest hskip]⟩

theorem another_go {x : Char} (hx : Cursor.isSpace x = false) (hne : x ≠ close)
    (hc : c.rest ++ lost = x :: rest) (h : anotherBefore close c.skipSpace = .ok (go, c')) :
    go = true ∧ c'.rest ++ lost = x :: rest := by
  have hnil : ∀ c : Cursor, c.rest = [] → ∃ fault, anotherBefore close c.skipSpace = .error fault :=
    fun c hc => anotherBefore_nil close _ (skipSpace_nil hc)
  obtain ⟨left, hleft, rfl⟩ := Cut.uncons hc (rest_ne_nil hnil h)
  have hskip := skipSpace_of_ink hleft hx
  have hlead : lead c.skipSpace.rest = some x := by rw [hskip, lead_cons hx]
  have hgo : anotherBefore close c.skipSpace = .ok (true, c.skipSpace) := by
    simp [anotherBefore, hlead, hne]
  rw [hgo] at h
  cases h
  exact ⟨rfl, by rw [hskip]; rfl⟩

theorem punctuation_first {x : Char} (hx : Cursor.isSpace x = false) (hne : x ≠ close)
    (hc : c.rest ++ lost = x :: rest)
    (h : punctuation close stop wrong true c = .ok (go, c')) :
    go = true ∧ c'.rest ++ lost = x :: rest := by
  obtain ⟨left, hleft, rfl⟩ := Cut.uncons hc (rest_ne_nil (punctuation_nil true) h)
  have hskip := skipSpace_of_ink hleft hx
  have hlead : lead c.skipSpace.rest = some x := by rw [hskip, lead_cons hx]
  have hgo : punctuation close stop wrong true c = .ok (true, c.skipSpace) := by
    simp [punctuation, openedBy, hlead, hne]
  rw [hgo] at h
  cases h
  exact ⟨rfl, by rw [hskip]; rfl⟩

theorem punctuation_next {x : Char} (hx : Cursor.isSpace x = false) (hne : x ≠ close)
    (hcomma : ',' ≠ close) (hc : c.rest ++ lost = ',' :: x :: rest)
    (h : punctuation close stop wrong false c = .ok (go, c')) :
    go = true ∧ c'.rest ++ lost = x :: rest := by
  obtain ⟨left, hleft, hrest⟩ := Cut.uncons hc (rest_ne_nil (punctuation_nil false) h)
  have hskip := skipSpace_of_ink hleft rfl
  have hlead : lead c.skipSpace.rest = some ',' := by rw [hskip, lead_cons rfl]
  have hbehind : punctuation close stop wrong false c =
      anotherBefore close (c.skipSpace.skip 1).skipSpace := by
    simp [punctuation, continuedBy, hlead, hcomma]
  rw [hbehind] at h
  exact another_go hx hne (by rwa [Cursor.skip_one_rest hskip]) h

theorem endsNumber_of_next (hclose : ¬ IsNumberChar close)
    (h : punctuation close stop wrong false c = .ok (go, c')) : EndsNumber c.rest := by
  refine EndsNumber.of_skipSpace fun x hx => ?_
  obtain ⟨rest, hrest⟩ := List.head?_eq_some_iff.mp hx
  have hlead : lead c.skipSpace.rest = some x := by
    rw [hrest, lead_cons (Cursor.lead_skipSpace hrest)]
  simp only [punctuation, Bool.false_eq_true, if_false, continuedBy, hlead] at h
  split_ifs at h with hx hx
  · exact hx ▸ hclose
  · subst hx
    decide

end

/-! ## Lists -/

/-- A text begins with a character that neither ends a list nor can be passed over. -/
def Opens (close : Char) (text : List Char) : Prop :=
  ∃ x rest, text = x :: rest ∧ Cursor.isSpace x = false ∧ x ≠ close

section

variable {close : Char} {stop wrong : Cause} {elem : ℕ → Cursor → Except Fault (α × Cursor)}
  {read : ℕ → (Cursor → Except Fault (Bool × Cursor)) → Cursor → Except Fault (List α × Cursor)}
  {text : β → List Char} {value : β → α}

theorem endsNumber_listText (hclose : ¬ IsNumberChar close) (parts : List β)
    (behind : List Char) : EndsNumber (Value.listText text false parts ++ close :: behind) := by
  cases parts with
  | nil => exact fun x hx => Option.some.inj hx ▸ hclose
  | cons part parts =>
    intro x hx
    obtain rfl : ',' = x := Option.some.inj hx
    decide

theorem list_readsBack (hspace : Cursor.isSpace close = false) (hclose : ¬ IsNumberChar close)
    (hcomma : ',' ≠ close)
    (hread : ∀ n more c as c', read n more c = .ok (as, c') → ∃ m go mid, more c = .ok (go, mid) ∧
      listBehind (elem m) (read m (punctuation close stop wrong false)) go mid = .ok (as, c'))
    {parts : List β} (hopens : ∀ part ∈ parts, Opens close (text part))
    (helem : ∀ part ∈ parts, ∀ n, ReadsBackEnded lost (elem n) (text part) (value part))
    (n : ℕ) (first : Bool) :
    ReadsBack lost (read n (punctuation close stop wrong first))
      (Value.listText text first parts ++ [close]) (parts.map value) := by
  induction parts generalizing n first with
  | nil =>
    intro c as c' behind hc h
    obtain ⟨m, go, mid, hmore, hlist⟩ := hread _ _ _ _ _ h
    obtain ⟨rfl, hmid⟩ := punctuation_close hspace hc hmore
    cases hlist
    exact ⟨rfl, hmid⟩
  | cons part parts ih =>
    intro c as c' behind hc h
    obtain ⟨⟨x, more, hx, hink, hne⟩, hopens⟩ := List.forall_mem_cons.mp hopens
    obtain ⟨hpart, hparts⟩ := List.forall_mem_cons.mp helem
    obtain ⟨m, go, mid, hmore, hlist⟩ := hread _ _ _ _ _ h
    have hgo : go = true ∧ mid.rest ++ lost =
        text part ++ (Value.listText text false parts ++ close :: behind) := by
      rw [Value.listText, List.append_assoc, List.append_assoc, List.append_assoc] at hc
      rw [hx] at hc ⊢
      cases first with
      | false => exact punctuation_next hink hne hcomma hc hmore
      | true => exact punctuation_first hink hne hc hmore
    obtain ⟨rfl, hmid⟩ := hgo
    obtain ⟨⟨a, mid'⟩, ha, hlast⟩ := bind_eq_ok.mp hlist
    obtain ⟨⟨as', last⟩, has, heq⟩ := map_eq_ok hlast
    cases heq
    -- the part ends here, since the list was read on
    obtain ⟨_, _, _, hnext, -⟩ := hread _ _ _ _ _ has
    obtain ⟨rfl, hmid'⟩ :=
      hpart m hmid (endsNumber_listText hclose parts behind) ha (endsNumber_of_next hclose hnext)
    have hrest : mid'.rest ++ lost = Value.listText text false parts ++ [close] ++ behind := by
      rw [hmid', List.append_assoc]
      rfl
    obtain ⟨rfl, hbehind⟩ := ih hopens hparts m false hrest has
    exact ⟨rfl, hbehind⟩

end

/-! ## Values -/

theorem readItems_ok {room n : ℕ} {more : Cursor → Except Fault (Bool × Cursor)} {c c' : Cursor}
    {items : List Value} (h : readItems room n more c = .ok (items, c')) :
    ∃ m go mid, more c = .ok (go, mid) ∧
      listBehind (readValue room m) (readItems room m nextItem) go mid = .ok (items, c') := by
  cases n with
  | zero =>
    rw [readItems.eq_1] at h
    cases h
  | succ m =>
    rw [readItems_succ] at h
    obtain ⟨⟨go, mid⟩, hmore, hlist⟩ := bind_eq_ok.mp h
    exact ⟨m, go, mid, hmore, hlist⟩

theorem readFields_ok {room n : ℕ} {more : Cursor → Except Fault (Bool × Cursor)} {c c' : Cursor}
    {fields : Fields} (h : readFields room n more c = .ok (fields, c')) :
    ∃ m go mid, more c = .ok (go, mid) ∧
      listBehind (readField room m) (readFields room m nextField) go mid = .ok (fields, c') := by
  cases n with
  | zero =>
    rw [readFields.eq_1] at h
    cases h
  | succ m =>
    rw [readFields_succ] at h
    obtain ⟨⟨go, mid⟩, hmore, hlist⟩ := bind_eq_ok.mp h
    exact ⟨m, go, mid, hmore, hlist⟩

theorem items_readBack {items : List Value} (hopens : ∀ item ∈ items, Opens ']' item.chars)
    {room : ℕ} (h : ∀ item ∈ items, ∀ n,
      ReadsBackEnded lost (readValue room n) item.chars item.reread) (n : ℕ) :
    ReadsBack lost (readItems room n openItems) (Value.listText Value.chars true items ++ [']'])
      (Value.rereadItems items) := by
  have hopen : openItems = punctuation ']' .endInList .expectedListEnd true := funext openItems_eq
  have hnext : nextItem = punctuation ']' .endInList .expectedListEnd false := funext nextItem_eq
  rw [Value.rereadItems_eq_map, hopen]
  refine list_readsBack rfl (by decide) (by decide) (fun n more c items c' hread => ?_) hopens h n
    true
  rw [← hnext]
  exact readItems_ok hread

theorem readColon_readsBack (a : α) :
    ReadsBack lost (fun c => (readColon c).map fun c => (a, c)) [':'] a := by
  intro c b c' behind hc hread
  have h : colonAt a c.skipSpace = .ok (b, c') := (readColon_eq a c).symm.trans hread
  have hnil : ∀ c : Cursor, c.rest = [] → ∃ fault, colonAt a c.skipSpace = .error fault := by
    intro c hc
    rw [colonAt, skipSpace_nil hc]
    exact ⟨_, rfl⟩
  obtain ⟨left, hleft, rfl⟩ := Cut.uncons hc (rest_ne_nil hnil h)
  have hskip := skipSpace_of_ink hleft rfl
  have hcolon : colonAt a c.skipSpace = .ok (a, c.skipSpace.skip 1) := by
    rw [colonAt, hskip, lead_cons rfl]
    rfl
  rw [hcolon] at h
  cases h
  exact ⟨rfl, by rw [Cursor.skip_one_rest hskip]⟩

theorem field_readsBack (hlost : Cut lost) {field : String × Value} {room n : ℕ}
    (h : ReadsBackEnded lost (readValue room n) field.2.chars field.2.reread) :
    ReadsBackEnded lost (readField room n) (Value.fieldChars field) (Value.rereadField field) := by
  intro c b c' behind hc hbehind hread hends
  obtain ⟨⟨key, mid⟩, hkey, hmore⟩ := bind_eq_ok.mp hread
  obtain ⟨⟨key', mid'⟩, hcolon, hlast⟩ := bind_eq_ok.mp hmore
  obtain ⟨⟨value, last⟩, hvalue, heq⟩ := map_eq_ok hlast
  cases heq
  rw [Value.fieldChars, List.append_assoc] at hc
  obtain ⟨rfl, hmid⟩ := readKey_readsBack hlost field.1 hc hkey
  obtain ⟨rfl, hmid'⟩ := readColon_readsBack field.1 hmid hcolon
  obtain ⟨rfl, hrest⟩ := h hmid' hbehind hvalue hends
  exact ⟨rfl, hrest⟩

theorem fields_readBack (hlost : Cut lost) {fields : List (String × Value)} {room : ℕ}
    (h : ∀ field ∈ fields, ∀ n,
      ReadsBackEnded lost (readValue room n) field.2.chars field.2.reread) (n : ℕ) :
    ReadsBack lost (readFields room n openFields)
      (Value.listText Value.fieldChars true fields ++ ['\x7d']) (Value.rereadFields fields) := by
  have hopen : openFields = punctuation '\x7d' .endInObject .expectedObjectEnd true :=
    funext openFields_eq
  have hnext : nextField = punctuation '\x7d' .endInObject .expectedObjectEnd false :=
    funext nextField_eq
  have hopens : ∀ field ∈ fields, Opens '\x7d' (Value.fieldChars field) := by
    intro field _
    rw [Value.fieldChars, Value.toList_stringText]
    exact ⟨'"', _, rfl, rfl, by decide⟩
  rw [Value.rereadFields_eq_map, hopen]
  refine list_readsBack rfl (by decide) (by decide) (fun n more c fields c' hread => ?_) hopens
    (fun field hfield n => field_readsBack hlost (h field hfield n)) n true
  rw [← hnext]
  exact readFields_ok hread

theorem opens_of_ne {close x : Char} {text : List Char} (hx : Cursor.isSpace x = false)
    (hne : x ≠ close) : Opens close (x :: text) :=
  ⟨x, text, rfl, hx, hne⟩

theorem opens_chars (value : Value) : Opens ']' value.chars := by
  cases value with
  | null => exact opens_of_ne rfl (by decide)
  | bool b => cases b <;> exact opens_of_ne rfl (by decide)
  | number n =>
    obtain ⟨x, more, hmore, hx⟩ := n.exists_numeric
    refine ⟨x, more, hmore, isSpace_of_numeric hx, ?_⟩
    rintro rfl
    exact absurd hx (by decide)
  | string s => rw [Value.chars_string]; exact opens_of_ne rfl (by decide)
  | array items => rw [Value.chars_array]; exact opens_of_ne rfl (by decide)
  | object fields => rw [Value.chars_object]; exact opens_of_ne rfl (by decide)

theorem readValue_readsBack {close : Char} {text : List Char} {value : Value} {room : ℕ}
    (hopens : Opens close text) (h : ∀ n, ReadsBackEnded lost (valueAt room n) text value) (n : ℕ) :
    ReadsBackEnded lost (readValue room n) text value := by
  intro c b c' behind hc hbehind hread hends
  cases n with
  | zero =>
    rw [readValue.eq_1] at hread
    cases hread
  | succ n =>
    obtain ⟨x, more, rfl, hx, -⟩ := hopens
    rw [readValue_succ] at hread
    have hnil : ∀ c : Cursor, c.rest = [] → ∃ fault, valueAt room n c.skipSpace = .error fault :=
      fun c hc => valueAt_nil room n (skipSpace_nil hc)
    obtain ⟨left, hleft, -⟩ := Cut.uncons hc (rest_ne_nil hnil hread)
    have hskip : c.skipSpace.rest ++ lost = x :: more ++ behind := by
      rw [skipSpace_of_ink hleft hx, ← hleft, hc]
    exact h n hskip hbehind hread hends

theorem scalar_readsBack {x : Char} {more : List Char} {value : Value} (hlist : x ≠ '[')
    (hobject : x ≠ '\x7b') (h : ReadsBackEnded lost readScalar (x :: more) value) (room n : ℕ) :
    ReadsBackEnded lost (valueAt room n) (x :: more) value := by
  intro c b c' behind hc hbehind hread hends
  have hne : c.rest ≠ [] := rest_ne_nil (fun c => valueAt_nil room n) hread
  obtain ⟨left, hleft, -⟩ := Cut.uncons hc hne
  rw [valueAt_scalar hleft hlist hobject] at hread
  exact h hc hbehind hread hends

theorem array_readsBack {text : List Char} {items : List Value} {room n : ℕ}
    (h : ∀ room, ReadsBack lost (readItems room n openItems) text items) :
    ReadsBack lost (valueAt room n) ('[' :: text) (.array items) := by
  cases room with
  | zero =>
    intro c b c' behind hc hread
    obtain ⟨left, hleft, -⟩ := Cut.uncons hc (rest_ne_nil (fun c => valueAt_nil 0 n) hread)
    simp only [valueAt, hleft] at hread
    cases hread
  | succ room =>
    refine ((h room).map Value.array).behind (fun c => valueAt_nil _ n) fun c rest hrest => ?_
    simp only [valueAt, hrest]

theorem object_readsBack {text : List Char} {fields : Fields} {room n : ℕ}
    (h : ∀ room, ReadsBack lost (readFields room n openFields) text fields) :
    ReadsBack lost (valueAt room n) ('\x7b' :: text) (.object fields) := by
  cases room with
  | zero =>
    intro c b c' behind hc hread
    obtain ⟨left, hleft, -⟩ := Cut.uncons hc (rest_ne_nil (fun c => valueAt_nil 0 n) hread)
    simp only [valueAt, hleft] at hread
    cases hread
  | succ room =>
    refine ((h room).map Value.object).behind (fun c => valueAt_nil _ n) fun c rest hrest => ?_
    simp only [valueAt, hrest]

/-- The value that is read where one was written. -/
theorem value_readsBack (hlost : Cut lost) (value : Value) (room n : ℕ) :
    ReadsBackEnded lost (readValue room n) value.chars value.reread := by
  induction value using Value.induction generalizing room n with
  | null =>
    have hword : ReadsBack lost readScalar ['n', 'u', 'l', 'l'] .null :=
      readScalar_word fun c rest hrest => by simp only [readScalar, hrest]
    exact readValue_readsBack (opens_chars .null)
      (scalar_readsBack (by decide) (by decide) hword.ended room) n
  | bool b =>
    refine readValue_readsBack (opens_chars (.bool b)) (fun n => ?_) n
    cases b with
    | false =>
      have hword : ReadsBack lost readScalar ['f', 'a', 'l', 's', 'e'] (.bool false) :=
        readScalar_word fun c rest hrest => by simp only [readScalar, hrest]
      exact scalar_readsBack (by decide) (by decide) hword.ended room n
    | true =>
      have hword : ReadsBack lost readScalar ['t', 'r', 'u', 'e'] (.bool true) :=
        readScalar_word fun c rest hrest => by simp only [readScalar, hrest]
      exact scalar_readsBack (by decide) (by decide) hword.ended room n
  | number m =>
    refine readValue_readsBack (opens_chars (.number m)) (fun n => ?_) n
    have hnumber := readScalar_number hlost m
    obtain ⟨x, more, hmore, hx⟩ := m.exists_numeric
    rw [Value.chars_number, hmore]
    rw [hmore] at hnumber
    refine scalar_readsBack ?_ ?_ hnumber room n <;> rintro rfl <;> exact absurd hx (by decide)
  | string s =>
    refine readValue_readsBack (opens_chars (.string s)) (fun n => ?_) n
    have hstring := readScalar_string hlost s
    rw [Value.chars_string] at hstring ⊢
    exact scalar_readsBack (by decide) (by decide) hstring.ended room n
  | array items ih =>
    refine readValue_readsBack (opens_chars (.array items)) (fun n => ?_) n
    rw [Value.chars_array]
    exact (array_readsBack fun room => items_readBack (fun item _ => opens_chars item)
      (fun item hitem => ih item hitem room) n).ended
  | object fields ih =>
    refine readValue_readsBack (opens_chars (.object fields)) (fun n => ?_) n
    rw [Value.chars_object]
    exact (object_readsBack fun room => fields_readBack hlost
      (fun field hfield => ih field hfield room) n).ended

/-! ## Documents -/

namespace Value

theorem put_rereadField (key : String) (value : Value) (fields : List (String × Value)) :
    Fields.put key value.reread (fields.map rereadField) =
      (Fields.put key value fields).map rereadField := by
  induction fields with
  | nil => rfl
  | cons field fields ih =>
    obtain ⟨k, v⟩ := field
    simp only [List.map_cons, rereadField, Fields.put]
    split_ifs
    · rfl
    · rfl
    · rw [ih]
      rfl

theorem sortedFields_rereadField {fields : List (String × Value)}
    (h : ∀ field ∈ fields, field.2.reread.sorted = field.2.sorted.reread) (done : Fields) :
    sortedFields (done.map rereadField) (fields.map rereadField) =
      (sortedFields done fields).map rereadField := by
  induction fields generalizing done with
  | nil => rfl
  | cons field fields ih =>
    obtain ⟨hfield, hfields⟩ := List.forall_mem_cons.mp h
    obtain ⟨key, value⟩ := field
    rw [List.map_cons, rereadField, sortedFields, sortedFields, hfield, put_rereadField,
      ih hfields]

theorem sorted_reread (value : Value) : value.reread.sorted = value.sorted.reread := by
  induction value using Value.induction with
  | null => rfl
  | bool b => rfl
  | number n => rfl
  | string s => rfl
  | array items ih =>
    rw [reread, rereadItems_eq_map, sorted, sorted, reread, sortedItems_eq_map, sortedItems_eq_map,
      rereadItems_eq_map, List.map_map, List.map_map]
    exact congrArg Value.array (List.map_congr_left ih)
  | object fields ih =>
    rw [reread, rereadFields_eq_map, sorted, sorted, reread, rereadFields_eq_map]
    exact congrArg Value.object (sortedFields_rereadField ih [])

end Value

/-- The document of a written value is that value, and if some of its text is lost there is none. -/
theorem parse_chars (hlost : Cut lost) {value document : Value} {text : List Char}
    (htext : text ++ lost = value.chars) (h : parse (String.ofList text) = .ok document) :
    lost = [] ∧ document = value.sorted.reread := by
  obtain ⟨written, hwritten, rfl⟩ := map_eq_ok h
  obtain ⟨c', hread, hend⟩ := parseWritten_ok_iff.mp hwritten
  have hends : EndsNumber c'.rest := EndsNumber.of_skipSpace (by rw [hend]; exact .nil)
  have hstart : (Cursor.start text).rest ++ lost = value.chars ++ [] := by
    rw [List.append_nil]
    exact htext
  obtain ⟨rfl, hrest⟩ := value_readsBack hlost value _ _ hstart .nil hread hends
  exact ⟨(List.append_eq_nil_iff.mp hrest).2, value.sorted_reread⟩

end AgentCanvas.Json
