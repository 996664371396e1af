import AgentCanvas.Proofs.Json.Punctuation

set_option autoImplicit false

namespace AgentCanvas.Json

open Text

variable {α β : Type}

/-! ## Values -/

def listBehind (elem : Cursor → Except Fault (α × Cursor))
    (elems : Cursor → Except Fault (List α × Cursor)) :
    Bool → Cursor → Except Fault (List α × Cursor)
  | false, c => .ok ([], c)
  | true, c => elem c >>= fun step => (elems step.2).map fun last => (step.1 :: last.1, last.2)

def readField (room steps : ℕ) (c : Cursor) : Except Fault ((String × Value) × Cursor) :=
  readKey c >>= fun key => ((readColon key.2).map fun c => (key.1, c)) >>= fun key =>
    (readValue room steps key.2).map fun step => ((key.1, step.1), step.2)

def valueAt (room steps : ℕ) (c : Cursor) : Except Fault (Value × Cursor) :=
  match c.rest, room with
  | '[' :: _, 0 => .error (c.faultAhead .tooDeep)
  | '\x7b' :: _, 0 => .error (c.faultAhead .tooDeep)
  | '[' :: _, room + 1 =>
    (readItems room steps openItems (c.skip 1)).map fun step => (.array step.1, step.2)
  | '\x7b' :: _, room + 1 =>
    (readFields room steps openFields (c.skip 1)).map fun step => (.object step.1, step.2)
  | _, _ => readScalar c

variable {room steps : ℕ} {more : Cursor → Except Fault (Bool × Cursor)}

theorem readValue_succ (room steps : ℕ) (c : Cursor) :
    readValue room (steps + 1) c = valueAt room steps c.skipSpace := by
  unfold readValue valueAt
  rfl

theorem readItems_succ (room steps : ℕ) (more : Cursor → Except Fault (Bool × Cursor))
    (c : Cursor) :
    readItems room (steps + 1) more c =
      more c >>= fun step =>
        listBehind (readValue room steps) (readItems room steps nextItem) step.1 step.2 := by
  rw [readItems]
  congr 1
  funext step
  obtain ⟨_ | _, c⟩ := step <;> rfl

theorem readFields_succ (room steps : ℕ) (more : Cursor → Except Fault (Bool × Cursor))
    (c : Cursor) :
    readFields room (steps + 1) more c =
      more c >>= fun step =>
        listBehind (readField room steps) (readFields room steps nextField) step.1 step.2 := by
  rw [readFields]
  congr 1
  funext step
  obtain ⟨_ | _, c⟩ := step
  · rfl
  · change (readKey c >>= _) = (readField room steps c >>= _)
    unfold readField
    cases readKey c with
    | error => rfl
    | ok key =>
      change (readColon key.2 >>= _) = (((readColon key.2).map _ >>= _) >>= _)
      cases readColon key.2 with
      | error => rfl
      | ok colon =>
        change (readValue room steps colon >>= _) = ((readValue room steps colon).map _ >>= _)
        cases readValue room steps colon <;> rfl

theorem Local.of_error {shape : α → List Char → Prop} {read : Cursor → Except Fault (α × Cursor)}
    (h : ∀ c, ∃ fault, read c = .error fault) : Local shape read :=
  fun _ => .of_error fun c _ => h c

theorem readField_local (hvalue : Local EndsInk (readValue room steps)) :
    Local EndsInk (readField room steps) := by
  have hkey : ∀ key : String, Local EndsInk fun c =>
      (readValue room steps c).map fun step => ((key, step.1), step.2) :=
    fun key => hvalue.map (key, ·) fun _ _ h => h
  have hcolon : ∀ key : String, Local EndsInk fun c =>
      ((readColon c).map fun c => (key, c)) >>= fun key =>
        (readValue room steps key.2).map fun step => ((key.1, step.1), step.2) :=
    fun key => (readColon_local key).bind hkey fun _ _ s _ _ ht => ht.behind s
  exact readKey_local.bind hcolon fun _ _ s _ _ ht => ht.behind s

theorem list_local {elem : Cursor → Except Fault (α × Cursor)}
    {elems : Cursor → Except Fault (List α × Cursor)} (hmore : Local Ends more)
    (helem : Local EndsInk elem) (helems : Local EndsInk elems) :
    Local EndsInk fun c => more c >>= fun step => listBehind elem elems step.1 step.2 := by
  have hbehind : ∀ go, Local (fun _ taken => if go then EndsInk () taken else taken = [])
      (listBehind elem elems go) := by
    intro go
    cases go with
    | false => exact local_pure []
    | true =>
      have hcons : ∀ a, Local EndsInk fun c => (elems c).map fun last => (a :: last.1, last.2) :=
        fun a => helems.map (a :: ·) fun _ _ h => h
      exact helem.bind hcons fun _ _ s _ _ ht => ht.behind s
  refine hmore.bind hbehind ?_
  intro go as s t hs ht
  cases go with
  | false =>
    obtain rfl : t = [] := ht
    rw [List.append_nil]
    exact hs rfl
  | true => exact EndsInk.behind ht s

theorem valueAt_local (hitems : ∀ room, Local EndsInk (readItems room steps openItems))
    (hfields : ∀ room, Local EndsInk (readFields room steps openFields)) (room : ℕ) :
    Local EndsInk (valueAt room steps) := by
  intro k
  by_cases hlist : k = some '['
  · subst hlist
    cases room with
    | zero =>
      refine .of_error fun c hc => ⟨c.faultAhead .tooDeep, ?_⟩
      obtain ⟨rest, hrest, -⟩ := eq_cons_of_lead hc
      simp only [valueAt, hrest]
    | succ room =>
      have harray : Local EndsInk fun c =>
          (readItems room steps openItems c).map fun step => (Value.array step.1, step.2) :=
        (hitems room).map Value.array fun _ _ h => h
      refine .of_behind harray (fun _ _ h => h.behind ['[']) fun c rest hrest => ?_
      simp only [valueAt, hrest]
  by_cases hobject : k = some '\x7b'
  · subst hobject
    cases room with
    | zero =>
      refine .of_error fun c hc => ⟨c.faultAhead .tooDeep, ?_⟩
      obtain ⟨rest, hrest, -⟩ := eq_cons_of_lead hc
      simp only [valueAt, hrest]
    | succ room =>
      have hlocal : Local EndsInk fun c =>
          (readFields room steps openFields c).map fun step => (Value.object step.1, step.2) :=
        (hfields room).map Value.object fun _ _ h => h
      refine .of_behind hlocal (fun _ _ h => h.behind ['\x7b']) fun c rest hrest => ?_
      simp only [valueAt, hrest]
  · refine (readScalar_local k).congr fun c hc => ?_
    unfold valueAt
    split
    case h_1 rest hrest => exact (ne_cons_of_lead rfl hlist hc rest hrest).elim
    case h_2 rest hrest => exact (ne_cons_of_lead rfl hobject hc rest hrest).elim
    case h_3 rest room hrest => exact (ne_cons_of_lead rfl hlist hc rest hrest).elim
    case h_4 rest room hrest => exact (ne_cons_of_lead rfl hobject hc rest hrest).elim
    case h_5 => rfl

theorem valueAt_nil (room steps : ℕ) {c : Cursor} (h : c.rest = []) :
    ∃ fault, valueAt room steps c = .error fault := by
  refine ⟨c.faultAhead .endInValue, ?_⟩
  simp only [valueAt, readScalar, h]

theorem value_local (steps : ℕ) :
    (∀ room, Local EndsInk (readValue room steps)) ∧
      (∀ room more, Local Ends more → Local EndsInk (readItems room steps more)) ∧
        ∀ room more, Local Ends more → Local EndsInk (readFields room steps more) := by
  induction steps with
  | zero =>
    refine ⟨fun room => .of_error fun c => ⟨_, readValue.eq_1 room c⟩,
      fun room more _ => .of_error fun c => ⟨_, readItems.eq_1 room more c⟩,
      fun room more _ => .of_error fun c => ⟨_, readFields.eq_1 room more c⟩⟩
  | succ steps ih =>
    obtain ⟨hvalue, hitems, hfields⟩ := ih
    refine ⟨fun room => ?_, fun room more hmore => ?_, fun room more hmore => ?_⟩
    · have hat : Local EndsInk (valueAt room steps) :=
        valueAt_local (fun room => hitems room openItems openItems_local)
          (fun room => hfields room openFields openFields_local) room
      rw [funext (readValue_succ room steps)]
      exact hat.behind_space (fun _ => valueAt_nil room steps) fun _ gap _ h => h.behind gap
    · rw [funext (readItems_succ room steps more)]
      exact list_local hmore (hvalue room) (hitems room nextItem nextItem_local)
    · rw [funext (readFields_succ room steps more)]
      exact list_local hmore (readField_local (hvalue room))
        (hfields room nextField nextField_local)

/-! ## Steps -/

/-- With a step for each character taken, a reader does what it does with more of them. -/
def Enough (read : ℕ → Cursor → Except Fault (α × Cursor)) (steps : ℕ) : Prop :=
  ∀ ⦃c : Cursor⦄ ⦃a : α⦄ ⦃c' : Cursor⦄ (m : ℕ), read steps c = .ok (a, c') →
    c.rest.length ≤ m + c'.rest.length → read m c = .ok (a, c')

theorem Local.length_le {shape : α → List Char → Prop} {read : Cursor → Except Fault (α × Cursor)}
    (h : Local shape read) {c c' : Cursor} {a : α} (hread : read c = .ok (a, c')) :
    c'.rest.length ≤ c.rest.length := by
  obtain ⟨taken, hc, -, -⟩ := h _ rfl hread
  rw [hc, List.length_append]
  exact Nat.le_add_left _ _

theorem Local.length_lt {read : Cursor → Except Fault (α × Cursor)} (h : Local EndsInk read)
    {c c' : Cursor} {a : α} (hread : read c = .ok (a, c')) : c'.rest.length < c.rest.length := by
  obtain ⟨taken, hc, hink, -⟩ := h _ rfl hread
  have hpos := hink.length_pos
  rw [hc, List.length_append]
  omega

theorem map_eq_ok {x : Except Fault α} {f : α → β} {b : β} (h : x.map f = .ok b) :
    ∃ a, x = .ok a ∧ f a = b := by
  cases x with
  | error fault => cases h
  | ok a => exact ⟨a, rfl, Except.ok.inj h⟩

theorem enough_list {read elems : ℕ → Cursor → Except Fault (List α × Cursor)}
    {elem : ℕ → Cursor → Except Fault (α × Cursor)} (hmore : Local Ends more)
    (hread : ∀ n c, read (n + 1) c =
      more c >>= fun step => listBehind (elem n) (elems n) step.1 step.2)
    (helem : Local EndsInk (elem steps)) (helems : Local EndsInk (elems steps))
    (henough : Enough elem steps) (hrest : Enough elems steps) : Enough read (steps + 1) := by
  intro c as c' m h hm
  rw [hread] at h
  obtain ⟨⟨go, mid⟩, hgo, hlist⟩ := bind_eq_ok.mp h
  have hmid := hmore.length_le hgo
  cases go with
  | false =>
    cases hlist
    obtain ⟨taken, hc, hends, -⟩ := hmore _ rfl hgo
    have hpos := (hends rfl).length_pos
    rw [hc, List.length_append] at hm
    dsimp only at hm
    obtain ⟨m, rfl⟩ := Nat.exists_eq_succ_of_ne_zero (n := m) (by omega)
    rw [hread]
    exact bind_eq_ok.mpr ⟨_, hgo, rfl⟩
  | true =>
    obtain ⟨⟨a, behind⟩, ha, hcons⟩ := bind_eq_ok.mp hlist
    obtain ⟨⟨last, behind'⟩, hlast, heq⟩ := map_eq_ok hcons
    cases heq
    -- the entry and what follows it take a character each, which leaves a step for this list
    have hbehind := helem.length_lt ha
    have hbehind' := helems.length_lt hlast
    dsimp only at hm hmid hbehind hbehind'
    obtain ⟨m, rfl⟩ := Nat.exists_eq_succ_of_ne_zero (n := m) (by omega)
    have helem' := henough m ha (by dsimp only; omega)
    have helems' := hrest m hlast (by dsimp only; omega)
    rw [hread]
    refine bind_eq_ok.mpr ⟨_, hgo, bind_eq_ok.mpr ⟨_, helem', ?_⟩⟩
    simp only [helems']
    rfl

theorem enough_field (henough : Enough (readValue room) steps) : Enough (readField room) steps := by
  intro c field c' m h hm
  obtain ⟨⟨key, mid⟩, hkey, hbehind⟩ := bind_eq_ok.mp h
  obtain ⟨⟨name, behind⟩, hcolon, hlast⟩ := bind_eq_ok.mp hbehind
  obtain ⟨⟨value, last⟩, hread, heq⟩ := map_eq_ok hlast
  cases heq
  have hmid := readKey_local.length_le hkey
  have hcolon' := (readColon_local key).length_le hcolon
  dsimp only at hm hmid hcolon'
  have hread' := henough m hread (by dsimp only; omega)
  refine bind_eq_ok.mpr ⟨_, hkey, bind_eq_ok.mpr ⟨_, hcolon, ?_⟩⟩
  simp only [hread']
  rfl

theorem enough_valueAt
    (hitems : ∀ room, Enough (fun n => readItems room n openItems) steps)
    (hfields : ∀ room, Enough (fun n => readFields room n openFields) steps) (room : ℕ)
    {c c' : Cursor} {value : Value} {m : ℕ} (h : valueAt room steps c = .ok (value, c'))
    (hm : c.rest.length ≤ m + 1 + c'.rest.length) : valueAt room m c = .ok (value, c') := by
  unfold valueAt at h ⊢
  split at h
  case h_1 => cases h
  case h_2 => cases h
  case h_3 rest room hrest =>
    obtain ⟨⟨items, last⟩, hread, heq⟩ := map_eq_ok h
    cases heq
    have hskip := Cursor.skip_one_rest hrest
    rw [hrest, List.length_cons] at hm
    dsimp only at hm
    have hread' := hitems room m hread (by rw [hskip]; omega)
    simp only [hread']
    rfl
  case h_4 rest room hrest =>
    obtain ⟨⟨fields, last⟩, hread, heq⟩ := map_eq_ok h
    cases heq
    have hskip := Cursor.skip_one_rest hrest
    rw [hrest, List.length_cons] at hm
    dsimp only at hm
    have hread' := hfields room m hread (by rw [hskip]; omega)
    simp only [hread']
    rfl
  case h_5 => exact h

theorem value_enough (steps : ℕ) :
    (∀ room, Enough (readValue room) steps) ∧
      (∀ room more, Local Ends more → Enough (fun n => readItems room n more) steps) ∧
        ∀ room more, Local Ends more → Enough (fun n => readFields room n more) steps := by
  induction steps with
  | zero =>
    refine ⟨fun room c value c' m h _ => ?_, fun room more _ c items c' m h _ => ?_,
      fun room more _ c fields c' m h _ => ?_⟩
    · rw [readValue.eq_1] at h
      cases h
    · simp only [readItems.eq_1] at h
      cases h
    · simp only [readFields.eq_1] at h
      cases h
  | succ steps ih =>
    obtain ⟨hvalue, hitems, hfields⟩ := ih
    obtain ⟨hlocal, hlocalItems, hlocalFields⟩ := value_local steps
    refine ⟨fun room c value c' m h hm => ?_, fun room more hmore => ?_, fun room more hmore => ?_⟩
    · -- a value takes a character at least, so that there is a step to go
      have hlt := ((value_local (steps + 1)).1 room).length_lt h
      obtain ⟨m, rfl⟩ := Nat.exists_eq_succ_of_ne_zero (n := m) (by omega)
      obtain ⟨gap, -, hgap⟩ := c.exists_gap
      rw [hgap, List.length_append] at hm
      rw [readValue_succ] at h ⊢
      exact enough_valueAt (fun room => hitems room openItems openItems_local)
        (fun room => hfields room openFields openFields_local) room h (by omega)
    · exact enough_list hmore (fun n => readItems_succ room n more) (hlocal room)
        (hlocalItems room nextItem nextItem_local) (hvalue room)
        (hitems room nextItem nextItem_local)
    · exact enough_list hmore (fun n => readFields_succ room n more) (readField_local (hlocal room))
        (hlocalFields room nextField nextField_local) (enough_field (hvalue room))
        (hfields room nextField nextField_local)

/-! ## Documents -/

theorem readEnd_ok_iff (c : Cursor) : readEnd c = .ok () ↔ c.skipSpace.rest = [] := by
  unfold readEnd
  cases h : c.skipSpace.rest <;> simp [h]

theorem parseWritten_ok_iff {text : List Char} {value : Value} :
    parseWritten (String.ofList text) = .ok value ↔
      ∃ c', readValue depthLimit (2 * text.length + 2) (Cursor.start text) = .ok (value, c') ∧
        c'.skipSpace.rest = [] := by
  unfold parseWritten stepsFor
  rw [String.toList_ofList]
  constructor
  · intro h
    obtain ⟨⟨value', c'⟩, hread, hlast⟩ := bind_eq_ok.mp h
    obtain ⟨_, hend, heq⟩ := bind_eq_ok.mp hlast
    cases heq
    exact ⟨c', hread, (readEnd_ok_iff c').mp hend⟩
  · rintro ⟨c', hread, hend⟩
    exact bind_eq_ok.mpr ⟨_, hread, bind_eq_ok.mpr ⟨_, (readEnd_ok_iff c').mpr hend, rfl⟩⟩

theorem valueAt_scalar {c : Cursor} {x : Char} {rest : List Char} (h : c.rest = x :: rest)
    (hlist : x ≠ '[') (hobject : x ≠ '\x7b') : valueAt room steps c = readScalar c := by
  unfold valueAt
  rw [h]
  split
  case h_1 heq => exact (hlist (List.cons.inj heq).1).elim
  case h_2 heq => exact (hobject (List.cons.inj heq).1).elim
  case h_3 heq => exact (hlist (List.cons.inj heq).1).elim
  case h_4 heq => exact (hobject (List.cons.inj heq).1).elim
  case h_5 => rfl

theorem valueAt_ink {c c' : Cursor} {value : Value} (h : valueAt room steps c = .ok (value, c')) :
    ∃ x rest, c.rest = x :: rest ∧ isBlank x = false := by
  cases hrest : c.rest with
  | nil =>
    obtain ⟨fault, hfault⟩ := valueAt_nil room steps hrest
    rw [hfault] at h
    cases h
  | cons x rest =>
    refine ⟨x, rest, rfl, ?_⟩
    by_contra hblank
    have hne : ∀ y, isBlank y = false → x ≠ y := by
      rintro y hy rfl
      exact hblank hy
    have hother : ¬ (x = '-' ∨ x.isDigit) := by
      rintro (hminus | hdigit)
      · exact hne '-' (by decide) hminus
      · exact hblank (isBlank_of_isDigit hdigit)
    rw [valueAt_scalar hrest (hne '[' (by decide)) (hne '\x7b' (by decide)),
      readScalar_other hrest ⟨hne 'n' (by decide), hne 't' (by decide),
      hne 'f' (by decide), hne '"' (by decide)⟩, if_neg hother] at h
    cases h

theorem parseWritten_trimChars {text : List Char} {value : Value}
    (h : parseWritten (String.ofList text) = .ok value) :
    parseWritten (String.ofList (trimChars text)) = .ok value := by
  obtain ⟨c', hread, hend⟩ := parseWritten_ok_iff.mp h
  obtain ⟨gap, hgap, htext⟩ := (Cursor.start text).exists_gap
  obtain ⟨gap', hgap', hbehind⟩ := c'.exists_gap
  rw [hend, List.append_nil] at hbehind
  rw [readValue_succ] at hread
  obtain ⟨x, rest, hx, hink⟩ := valueAt_ink hread
  -- the value is written in `taken`, between two gaps
  rw [← Cursor.skipSpace_skipSpace, ← readValue_succ] at hread
  obtain ⟨taken, htaken, hends, htakes⟩ := (value_local _).1 depthLimit _ rfl hread
  have htrim : trimChars text = taken := by
    obtain ⟨before, y, hy, hink'⟩ := hends
    have hhead : ∃ rest, taken = x :: rest := by
      rw [hx, hy] at htaken
      cases before with
      | nil => exact ⟨[], by rw [hy, (List.cons.inj htaken).1]; rfl⟩
      | cons x' before => exact ⟨before ++ [y], by rw [hy, (List.cons.inj htaken).1]; rfl⟩
    obtain ⟨rest', hrest'⟩ := hhead
    change text = _ at htext
    rw [htext, htaken, hbehind, ← List.append_assoc,
      trimChars_append_of_blank _ fun c hc => isBlank_of_isSpace (hgap' c hc), trimChars,
      trimStart_append_of_blank fun c hc => isBlank_of_isSpace (hgap c hc)]
    exact trimChars_of_ends hrest' hy hink hink'
  have hlead : lead [] = lead c'.rest := by rw [hbehind, lead_of_gap hgap', lead_nil]
  obtain ⟨d, hd, hrest⟩ := htakes (Cursor.start taken) [] (List.append_nil taken).symm hlead
  have henough :
      readValue depthLimit (2 * taken.length + 2) (Cursor.start taken) = .ok (value, d) := by
    refine (value_enough _).1 depthLimit _ hd ?_
    change taken.length ≤ _
    omega
  rw [htrim]
  refine parseWritten_ok_iff.mpr ⟨d, henough, ?_⟩
  rw [Cursor.skipSpace_rest, hrest]
  rfl

/-- A document reads the same without the blanks around it. -/
theorem parse_trimChars {text : List Char} {value : Value}
    (h : parse (String.ofList text) = .ok value) :
    parse (String.ofList (trimChars text)) = .ok value := by
  obtain ⟨written, hwritten, rfl⟩ := map_eq_ok h
  rw [parse, parseWritten_trimChars hwritten]
  rfl

end AgentCanvas.Json
