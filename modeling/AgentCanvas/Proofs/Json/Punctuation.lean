import AgentCanvas.Proofs.Json.Numerals

set_option autoImplicit false

namespace AgentCanvas.Json

open Text

variable {α : Type}

/-! ## Punctuation -/

/-- What ends a list of things is no blank. -/
def Ends (more : Bool) (taken : List Char) : Prop :=
  more = false → EndsInk more taken

/-- The reader of an opened array or object, behind the spaces. -/
def openedBy (close : Char) (stop : Cause) (c : Cursor) : Except Fault (Bool × Cursor) :=
  match lead c.rest with
  | none => .error (c.faultAhead stop)
  | some x => if x = close then .ok (false, c.skip 1) else .ok (true, c)

def anotherBefore (close : Char) (c : Cursor) : Except Fault (Bool × Cursor) :=
  match lead c.rest with
  | none => .error (c.faultAhead .endInValue)
  | some x => if x = close then .error (c.faultAhead .trailingComma) else .ok (true, c)

def continuedBy (close : Char) (stop wrong : Cause) (c : Cursor) : Except Fault (Bool × Cursor) :=
  match lead c.rest with
  | none => .error (c.faultAhead stop)
  | some x =>
    if x = close then .ok (false, c.skip 1)
    else if x = ',' then anotherBefore close (c.skip 1).skipSpace
    else .error (c.faultAhead wrong)

theorem lead_nil : lead [] = none := rfl

theorem openItems_eq (c : Cursor) : openItems c = openedBy ']' .endInList c.skipSpace := by
  unfold openItems openedBy
  cases h : c.skipSpace.rest with
  | nil => simp only [h, lead_nil]
  | cons x rest =>
    simp only [h, lead_cons (Cursor.lead_skipSpace h)]
    split
    case h_1 heq => rw [if_pos (List.cons.inj heq).1]
    case h_2 heq => cases heq
    case h_3 hclose _ => rw [if_neg fun hx => hclose rest (by rw [hx])]

theorem openFields_eq (c : Cursor) : openFields c = openedBy '\x7d' .endInObject c.skipSpace := by
  unfold openFields openedBy
  cases h : c.skipSpace.rest with
  | nil => simp only [h, lead_nil]
  | cons x rest =>
    simp only [h, lead_cons (Cursor.lead_skipSpace h)]
    split
    case h_1 heq => rw [if_pos (List.cons.inj heq).1]
    case h_2 heq => cases heq
    case h_3 hclose _ => rw [if_neg fun hx => hclose rest (by rw [hx])]

theorem nextItem_eq (c : Cursor) :
    nextItem c = continuedBy ']' .endInList .expectedListEnd c.skipSpace := by
  unfold nextItem continuedBy
  cases h : c.skipSpace.rest with
  | nil => simp only [h, lead_nil]
  | cons x rest =>
    simp only [h, lead_cons (Cursor.lead_skipSpace h)]
    split
    case h_1 heq => rw [if_pos (List.cons.inj heq).1]
    case h_2 heq =>
      rw [if_neg (by rw [(List.cons.inj heq).1]; decide), if_pos (List.cons.inj heq).1]
      unfold anotherBefore
      cases h' : (c.skipSpace.skip 1).skipSpace.rest with
      | nil => rfl
      | cons y more =>
        simp only [lead_cons (Cursor.lead_skipSpace h')]
        split
        case h_1 heq' => rw [if_pos (List.cons.inj heq').1]
        case h_2 heq' => cases heq'
        case h_3 hclose _ => rw [if_neg fun hy => hclose more (by rw [hy])]
    case h_3 heq => cases heq
    case h_4 hclose hcomma _ =>
      rw [if_neg fun hx => hclose rest (by rw [hx]), if_neg fun hx => hcomma rest (by rw [hx])]

theorem nextField_eq (c : Cursor) :
    nextField c = continuedBy '\x7d' .endInObject .expectedObjectEnd c.skipSpace := by
  unfold nextField continuedBy
  cases h : c.skipSpace.rest with
  | nil => simp only [h, lead_nil]
  | cons x rest =>
    simp only [h, lead_cons (Cursor.lead_skipSpace h)]
    split
    case h_1 heq => rw [if_pos (List.cons.inj heq).1]
    case h_2 heq =>
      rw [if_neg (by rw [(List.cons.inj heq).1]; decide), if_pos (List.cons.inj heq).1]
      unfold anotherBefore
      cases h' : (c.skipSpace.skip 1).skipSpace.rest with
      | nil => rfl
      | cons y more =>
        simp only [lead_cons (Cursor.lead_skipSpace h')]
        split
        case h_1 heq' => rw [if_pos (List.cons.inj heq').1]
        case h_2 heq' => cases heq'
        case h_3 hclose _ => rw [if_neg fun hy => hclose more (by rw [hy])]
    case h_3 heq => cases heq
    case h_4 hclose hcomma _ =>
      rw [if_neg fun hx => hclose rest (by rw [hx]), if_neg fun hx => hcomma rest (by rw [hx])]

theorem openedBy_nil (close : Char) (stop : Cause) (c : Cursor) (h : c.rest = []) :
    ∃ fault, openedBy close stop c = .error fault := by
  rw [openedBy, h]
  exact ⟨_, rfl⟩

theorem anotherBefore_nil (close : Char) (c : Cursor) (h : c.rest = []) :
    ∃ fault, anotherBefore close c = .error fault := by
  rw [anotherBefore, h]
  exact ⟨_, rfl⟩

theorem continuedBy_nil (close : Char) (stop wrong : Cause) (c : Cursor) (h : c.rest = []) :
    ∃ fault, continuedBy close stop wrong c = .error fault := by
  rw [continuedBy, h]
  exact ⟨_, rfl⟩

theorem closed_local {close : Char} (hclose : isBlank close = false) :
    LocalFrom (some close) Ends fun c => .ok (false, c.skip 1) := by
  refine (local_pure false).behind close ?_
  rintro _ _ rfl -
  exact ⟨[], close, rfl, hclose⟩

theorem going_local (k : Option Char) : LocalFrom k Ends fun c => .ok (true, c) := by
  intro c more c' hk h
  cases h
  exact ⟨[], rfl, nofun, fun d behind hd _ => ⟨d, rfl, hd⟩⟩

theorem openedBy_local {close : Char} (hclose : isBlank close = false) (stop : Cause) :
    Local Ends (openedBy close stop) := by
  intro k
  cases k with
  | none => exact .of_error fun c hc => by rw [openedBy, hc]; exact ⟨_, rfl⟩
  | some x =>
    by_cases hx : x = close
    · subst hx
      exact (closed_local hclose).congr fun c hc => by rw [openedBy, hc]; exact if_pos rfl
    · exact (going_local _).congr fun c hc => by rw [openedBy, hc]; exact if_neg hx

theorem anotherBefore_local (close : Char) : Local Ends (anotherBefore close) := by
  intro k
  cases k with
  | none => exact .of_error fun c hc => by rw [anotherBefore, hc]; exact ⟨_, rfl⟩
  | some x =>
    by_cases hx : x = close
    · exact .of_error fun c hc => by rw [anotherBefore, hc]; exact ⟨_, if_pos hx⟩
    · exact (going_local _).congr fun c hc => by rw [anotherBefore, hc]; exact if_neg hx

theorem Ends.behind {more : Bool} {taken : List Char} (h : Ends more taken) (before : List Char) :
    Ends more (before ++ taken) :=
  fun hmore => (h hmore).behind before

theorem continuedBy_local {close : Char} (hclose : isBlank close = false) (stop wrong : Cause) :
    Local Ends (continuedBy close stop wrong) := by
  intro k
  cases k with
  | none => exact .of_error fun c hc => by rw [continuedBy, hc]; exact ⟨_, rfl⟩
  | some x =>
    by_cases hx : x = close
    · subst hx
      exact (closed_local hclose).congr fun c hc => by rw [continuedBy, hc]; exact if_pos rfl
    by_cases hcomma : x = ','
    · subst hcomma
      have hanother : Local Ends fun c => anotherBefore close c.skipSpace :=
        (anotherBefore_local close).behind_space (anotherBefore_nil close)
          fun _ gap _ h => h.behind gap
      refine (hanother.behind ',' fun _ _ h => h.behind [',']).congr fun c hc => ?_
      rw [continuedBy, hc]
      exact (if_neg hx).trans (if_pos rfl)
    · exact .of_error fun c hc => by
        rw [continuedBy, hc]
        exact ⟨_, (if_neg hx).trans (if_neg hcomma)⟩

theorem openItems_local : Local Ends openItems := by
  rw [funext openItems_eq]
  exact (openedBy_local (by decide) _).behind_space (openedBy_nil _ _) fun _ gap _ h => h.behind gap

theorem openFields_local : Local Ends openFields := by
  rw [funext openFields_eq]
  exact (openedBy_local (by decide) _).behind_space (openedBy_nil _ _) fun _ gap _ h => h.behind gap

theorem nextItem_local : Local Ends nextItem := by
  rw [funext nextItem_eq]
  exact (continuedBy_local (by decide) _ _).behind_space (continuedBy_nil _ _ _)
    fun _ gap _ h => h.behind gap

theorem nextField_local : Local Ends nextField := by
  rw [funext nextField_eq]
  exact (continuedBy_local (by decide) _ _).behind_space (continuedBy_nil _ _ _)
    fun _ gap _ h => h.behind gap

/-! ## Keys and scalars -/

theorem readKey_local : Local EndsInk readKey := by
  intro k
  by_cases hk : k = some '"'
  · subst hk
    refine .of_behind readString_local (fun _ _ h => h.behind ['"']) fun c rest hrest => ?_
    simp only [readKey, hrest]
  · refine .of_error fun c hc => ?_
    unfold readKey
    split
    case h_1 rest hrest => exact (ne_cons_of_lead rfl hk hc rest hrest).elim
    case h_2 => exact ⟨_, rfl⟩

def colonAt (a : α) (c : Cursor) : Except Fault (α × Cursor) :=
  match lead c.rest with
  | none => .error (c.faultAhead .endInObject)
  | some x => if x = ':' then .ok (a, c.skip 1) else .error (c.faultAhead .expectedColon)

theorem readColon_eq (a : α) (c : Cursor) :
    ((readColon c).map fun c => (a, c)) = colonAt a c.skipSpace := by
  unfold readColon colonAt
  cases h : c.skipSpace.rest with
  | nil =>
    simp only [h, lead_nil]
    rfl
  | cons x rest =>
    simp only [h, lead_cons (Cursor.lead_skipSpace h)]
    split
    case h_1 heq =>
      rw [if_pos (List.cons.inj heq).1]
      rfl
    case h_2 heq => cases heq
    case h_3 hcolon _ =>
      rw [if_neg fun hx => hcolon rest (by rw [hx])]
      rfl

theorem colonAt_local (a : α) : Local Anything (colonAt a) := by
  intro k
  by_cases hk : k = some ':'
  · subst hk
    refine ((local_pure a).behind ':' fun _ _ _ => trivial).congr fun c hc => ?_
    rw [colonAt, hc]
    exact if_pos rfl
  · refine .of_error fun c hc => ?_
    rw [colonAt, hc]
    cases k with
    | none => exact ⟨_, rfl⟩
    | some x => exact ⟨_, if_neg fun hx => hk (by rw [hx])⟩

theorem readColon_local (a : α) : Local Anything fun c => (readColon c).map fun c => (a, c) := by
  rw [funext (readColon_eq a)]
  refine (colonAt_local a).behind_space (fun c hc => ?_) fun _ _ _ _ => trivial
  rw [colonAt, hc]
  exact ⟨_, rfl⟩

theorem readScalar_other {c : Cursor} {x : Char} {rest : List Char} (h : c.rest = x :: rest)
    (hnone : x ≠ 'n' ∧ x ≠ 't' ∧ x ≠ 'f' ∧ x ≠ '"') :
    readScalar c =
      if x = '-' ∨ x.isDigit then (readNumber c).map fun step => (.number step.1, step.2)
      else .error (c.faultAhead .expectedValue) := by
  obtain ⟨hnull, htrue, hfalse, hquote⟩ := hnone
  unfold readScalar
  rw [h]
  split
  case h_1 heq => cases heq
  case h_2 heq => exact (hnull (List.cons.inj heq).1).elim
  case h_3 heq => exact (htrue (List.cons.inj heq).1).elim
  case h_4 heq => exact (hfalse (List.cons.inj heq).1).elim
  case h_5 heq => exact (hquote (List.cons.inj heq).1).elim
  case h_6 heq => rw [(List.cons.inj heq).1]

theorem readScalar_local : Local EndsInk readScalar := by
  intro k
  by_cases hnull : k = some 'n'
  · subst hnull
    have hword : EndsInk Value.null ['u', 'l', 'l'] := ⟨['u', 'l'], 'l', rfl, by decide⟩
    refine .of_behind (readWord_local hword) (fun _ _ h => h.behind ['n']) fun c rest hrest => ?_
    simp only [readScalar, hrest]
  by_cases htrue : k = some 't'
  · subst htrue
    have hword : EndsInk (Value.bool true) ['r', 'u', 'e'] := ⟨['r', 'u'], 'e', rfl, by decide⟩
    refine .of_behind (readWord_local hword) (fun _ _ h => h.behind ['t']) fun c rest hrest => ?_
    simp only [readScalar, hrest]
  by_cases hfalse : k = some 'f'
  · subst hfalse
    have hword : EndsInk (Value.bool false) ['a', 'l', 's', 'e'] :=
      ⟨['a', 'l', 's'], 'e', rfl, by decide⟩
    refine .of_behind (readWord_local hword) (fun _ _ h => h.behind ['f']) fun c rest hrest => ?_
    simp only [readScalar, hrest]
  by_cases hquote : k = some '"'
  · subst hquote
    have htext : Local EndsInk fun c =>
        (readString c).map fun step => (Value.string step.1, step.2) :=
      readString_local.map Value.string fun _ _ h => h
    refine .of_behind htext (fun _ _ h => h.behind ['"']) fun c rest hrest => ?_
    simp only [readScalar, hrest]
  by_cases hnumber : ∃ x, k = some x ∧ (x = '-' ∨ x.isDigit)
  · obtain ⟨x, rfl, hx⟩ := hnumber
    have hlocal : Local EndsInk fun c =>
        (readNumber c).map fun step => (Value.number step.1, step.2) :=
      readNumber_local.map Value.number fun _ _ h => h
    refine (hlocal (some x)).congr fun c hc => ?_
    obtain ⟨rest, hrest, -⟩ := eq_cons_of_lead hc
    rw [readScalar_other hrest, if_pos hx]
    refine ⟨?_, ?_, ?_, ?_⟩ <;> rintro rfl <;> contradiction
  · refine .of_error fun c hc => ?_
    cases hrest : c.rest with
    | nil =>
      refine ⟨c.faultAhead .endInValue, ?_⟩
      simp only [readScalar, hrest]
    | cons x rest =>
      have hne : ∀ y, Cursor.isSpace y = false → k ≠ some y → x ≠ y := by
        rintro y hy hk rfl
        exact ne_cons_of_lead hy hk hc rest hrest
      have hother : ¬ (x = '-' ∨ x.isDigit) := by
        intro hx
        have hspace : Cursor.isSpace x = false := by
          by_contra hspace
          obtain rfl | hdigit := hx
          · exact hspace rfl
          · rw [isDigit_of_isSpace x (by simpa using hspace)] at hdigit
            cases hdigit
        exact hnumber ⟨x, by rw [← hc, hrest, lead_cons hspace], hx⟩
      rw [readScalar_other hrest ⟨hne 'n' rfl hnull, hne 't' rfl htrue, hne 'f' rfl hfalse,
        hne '"' rfl hquote⟩, if_neg hother]
      exact ⟨_, rfl⟩

end AgentCanvas.Json
