import AgentCanvas.Proofs.Json.Tokens

set_option autoImplicit false

namespace AgentCanvas.Json

open Text

variable {α : Type}

theorem isDigit_of_isSpace (c : Char) (h : Cursor.isSpace c = true) : c.isDigit = false := by
  simp only [Cursor.isSpace, Bool.or_eq_true, beq_iff_eq] at h
  obtain ((rfl | rfl) | rfl) | rfl := h <;> rfl

theorem toNat_of_isDigit {c : Char} (h : c.isDigit = true) : 48 ≤ c.toNat ∧ c.toNat ≤ 57 := by
  simpa [Char.isDigit, UInt32.le_iff_toNat_le] using h

theorem isBlank_of_isDigit {c : Char} (h : c.isDigit = true) : isBlank c = false := by
  obtain ⟨hlow, hhigh⟩ := toNat_of_isDigit h
  simp only [isBlank, Bool.or_eq_false_iff, Bool.and_eq_false_iff, decide_eq_false_iff_not,
    beq_eq_false_iff_ne]
  omega

theorem readDigits_rest (c : Cursor) :
    (readDigits c).2.rest = c.rest.dropWhile Char.isDigit :=
  Cursor.skipWhile_rest Char.isDigit c

theorem endsInk_of_digits {a : α} {digits : List Char} (hne : digits ≠ [])
    (h : ∀ c ∈ digits, c.isDigit = true) : EndsInk a digits := by
  obtain ⟨before, x, rfl⟩ := (List.eq_nil_or_concat digits).resolve_left hne
  refine ⟨before, x, List.concat_eq_append .., isBlank_of_isDigit (h x ?_)⟩
  rw [List.concat_eq_append]
  exact List.mem_append_right before List.mem_cons_self

/-- A reader that looks at a run of digits only, and refuses the empty one. -/
theorem digits_local {f : Cursor → Except Fault (α × Cursor)} (value : List Char → Option α)
    (hnil : value [] = none)
    (hf : ∀ c a c', f c = .ok (a, c') ↔ value (readDigits c).1 = some a ∧ c' = (readDigits c).2) :
    Local EndsInk f := by
  intro k c a c' _ h
  obtain ⟨hvalue, rfl⟩ := (hf c a c').mp h
  have hne : (readDigits c).1 ≠ [] := by
    intro hempty
    rw [hempty, hnil] at hvalue
    cases hvalue
  have hdigits : ∀ x ∈ (readDigits c).1, x.isDigit = true := fun x => List.mem_takeWhile_imp
  refine ⟨(readDigits c).1, ?_, endsInk_of_digits hne hdigits, fun d behind hd hlead => ?_⟩
  · rw [readDigits_rest]
    exact List.takeWhile_append_dropWhile.symm
  · have hsame : (readDigits d).1 = (readDigits c).1 := by
      rw [readDigits_rest] at hlead
      simp only [readDigits] at hd ⊢
      rw [hd, takeWhile_of_lead isDigit_of_isSpace hlead]
    have hrest : (readDigits d).2.rest = behind := by
      have hsplit := List.takeWhile_append_dropWhile (p := Char.isDigit) (l := d.rest)
      rw [← readDigits_rest] at hsplit
      exact List.append_cancel_left (hsplit.trans (hd.trans (congrArg (· ++ behind) hsame.symm)))
    exact ⟨_, (hf d a _).mpr ⟨by rw [hsame, hvalue], rfl⟩, hrest⟩

theorem ok_mk_iff {a b : α} {c c' : Cursor} :
    (Except.ok (a, c) : Except Fault (α × Cursor)) = .ok (b, c') ↔ some a = some b ∧ c' = c := by
  rw [Except.ok.injEq, Prod.mk.injEq, Option.some.injEq, eq_comm (a := c)]

def wholeDigits : List Char → Option (List Char)
  | [] => none
  | '0' :: _ :: _ => none
  | digits => some digits

theorem readWhole_ok_iff (c : Cursor) (digits : List Char) (c' : Cursor) :
    readWhole c = .ok (digits, c') ↔
      wholeDigits (readDigits c).1 = some digits ∧ c' = (readDigits c).2 := by
  cases hread : readDigits c with
  | mk run mid =>
    simp only [readWhole, hread]
    split
    case h_1 heq => cases heq; simp [wholeDigits]
    case h_2 heq => cases heq; simp [wholeDigits]
    case h_3 hnil hzero =>
      have hwhole : wholeDigits run = some run := by
        unfold wholeDigits
        split
        case h_1 => exact (hnil mid rfl).elim
        case h_2 => exact (hzero _ _ mid rfl).elim
        case h_3 => rfl
      rw [hwhole]
      exact ok_mk_iff

theorem readWhole_local : Local EndsInk readWhole :=
  digits_local wholeDigits rfl readWhole_ok_iff

def digitsBehind (value : List Char → α) (fault : Cursor → Fault) (c : Cursor) :
    Except Fault (α × Cursor) :=
  match readDigits c with
  | ([], c) => .error (fault c)
  | (digits, c) => .ok (value digits, c)

def someDigits : List Char → Option (List Char)
  | [] => none
  | digits => some digits

theorem digitsBehind_ok_iff (value : List Char → α) (fault : Cursor → Fault) (c : Cursor) (a : α)
    (c' : Cursor) : digitsBehind value fault c = .ok (a, c') ↔
      (someDigits (readDigits c).1).map value = some a ∧ c' = (readDigits c).2 := by
  cases hread : readDigits c with
  | mk run mid =>
    cases run with
    | nil => simp [digitsBehind, hread, someDigits]
    | cons x run =>
      simp only [digitsBehind, hread]
      exact ok_mk_iff

theorem digitsBehind_local (value : List Char → α) (fault : Cursor → Fault) :
    Local EndsInk (digitsBehind value fault) :=
  digits_local (fun digits => (someDigits digits).map value) rfl (digitsBehind_ok_iff value fault)

theorem readFraction_local : Local MayEndInk readFraction := by
  intro k
  by_cases hk : k = some '.'
  · subst hk
    have hdigits := digitsBehind_local some fun c =>
      if c.rest.isEmpty then c.faultHere .endInValue else c.faultAhead .invalidNumber
    refine .of_behind hdigits (fun _ _ h => .inr (h.behind ['.'])) fun c rest hrest => ?_
    simp only [readFraction, hrest]
    rfl
  · refine ((local_pure none k).mono fun _ _ => .inl).congr fun c hc => ?_
    unfold readFraction
    split
    case h_1 rest hrest => exact (ne_cons_of_lead rfl hk hc rest hrest).elim
    case h_2 => rfl

def exponentSign (c : Cursor) : Bool × Cursor :=
  match c.rest with
  | '+' :: _ => (false, c.skip 1)
  | '-' :: _ => (true, c.skip 1)
  | _ => (false, c)

theorem exponentSign_local : Local Anything fun c => .ok (exponentSign c) := by
  intro k
  by_cases hplus : k = some '+'
  · subst hplus
    refine .of_behind (local_pure false) (fun _ _ _ => trivial) fun c rest hrest => ?_
    simp only [exponentSign, hrest]
  by_cases hminus : k = some '-'
  · subst hminus
    refine .of_behind (local_pure true) (fun _ _ _ => trivial) fun c rest hrest => ?_
    simp only [exponentSign, hrest]
  · refine ((local_pure false k).mono fun _ _ _ => trivial).congr fun c hc => ?_
    unfold exponentSign
    split
    case h_1 rest hrest => exact (ne_cons_of_lead rfl hplus hc rest hrest).elim
    case h_2 rest hrest => exact (ne_cons_of_lead rfl hminus hc rest hrest).elim
    case h_3 => rfl

def exponentDigits (down : Bool) : Cursor → Except Fault (Option (Bool × List Char) × Cursor) :=
  digitsBehind (fun digits => some (down, digits)) fun c =>
    if c.rest.isEmpty then c.faultHere .endInValue else c.faultAfter .invalidNumber

theorem exponent_local :
    Local EndsInk fun c =>
      (Except.ok (exponentSign c) : Except Fault (Bool × Cursor)) >>= fun sign =>
        exponentDigits sign.1 sign.2 :=
  exponentSign_local.bind (fun _ => digitsBehind_local _ _) fun _ _ s _ _ ht => ht.behind s

theorem readExponent_local : Local MayEndInk readExponent := by
  intro k
  have hmark : ∀ x, x = 'e' ∨ x = 'E' → LocalFrom (some x) MayEndInk readExponent := by
    intro x hx
    refine .of_behind exponent_local (fun _ _ h => .inr (h.behind [x])) fun c rest hrest => ?_
    exact if_pos (by rw [hrest]; simpa using hx)
  by_cases hk : k = some 'e' ∨ k = some 'E'
  · obtain rfl | rfl := hk
    · exact hmark 'e' (.inl rfl)
    · exact hmark 'E' (.inr rfl)
  · refine ((local_pure none k).mono fun _ _ => .inl).congr fun c hc => ?_
    obtain ⟨hlower, hupper⟩ := not_or.mp hk
    have hhead : ∀ x, Cursor.isSpace x = false → k ≠ some x → c.rest.head? ≠ some x := by
      intro x hx hne hhead
      obtain ⟨rest, hrest⟩ := List.head?_eq_some_iff.mp hhead
      exact ne_cons_of_lead hx hne hc rest hrest
    exact if_neg (not_or.mpr ⟨hhead 'e' rfl hlower, hhead 'E' rfl hupper⟩)

def numberSign (c : Cursor) : Bool × Cursor :=
  match c.rest with
  | '-' :: _ => (true, c.skip 1)
  | _ => (false, c)

theorem numberSign_local : Local Anything fun c => .ok (numberSign c) := by
  intro k
  by_cases hk : k = some '-'
  · subst hk
    refine .of_behind (local_pure true) (fun _ _ _ => trivial) fun c rest hrest => ?_
    simp only [numberSign, hrest]
  · refine ((local_pure false k).mono fun _ _ _ => trivial).congr fun c hc => ?_
    unfold numberSign
    split
    case h_1 rest hrest => exact (ne_cons_of_lead rfl hk hc rest hrest).elim
    case h_2 => rfl

def valued (number : NumberText) (c : Cursor) : Except Fault (Number × Cursor) :=
  match number.value with
  | .ok number => .ok (number, c)
  | .error unread => .error ⟨.numberOutOfRange, c.offset - unread⟩

theorem valued_local (number : NumberText) : Local Nothing (valued number) := by
  refine Local.stay fun c a c' h => ?_
  unfold valued at h ⊢
  split at h
  · cases h
    exact ⟨rfl, fun _ => rfl⟩
  · cases h

theorem readNumber_local : Local EndsInk readNumber := by
  have hexponent : ∀ negative whole fraction, Local MayEndInk fun c =>
      readExponent c >>= fun exponent =>
        valued ⟨negative, whole, fraction, exponent.1⟩ exponent.2 := by
    refine fun _ _ _ => readExponent_local.bind (fun _ => valued_local _) ?_
    rintro _ _ s _ hs rfl
    rwa [List.append_nil]
  have hfraction : ∀ negative whole, Local MayEndInk fun c =>
      readFraction c >>= fun fraction => readExponent fraction.2 >>= fun exponent =>
        valued ⟨negative, whole, fraction.1, exponent.1⟩ exponent.2 :=
    fun negative whole => readFraction_local.bind (hexponent negative whole) fun _ _ _ _ =>
      MayEndInk.before
  have hwhole : ∀ negative, Local EndsInk fun c =>
      readWhole c >>= fun whole => readFraction whole.2 >>= fun fraction =>
        readExponent fraction.2 >>= fun exponent =>
          valued ⟨negative, whole.1, fraction.1, exponent.1⟩ exponent.2 :=
    fun negative => readWhole_local.bind (hfraction negative) fun _ _ _ _ => EndsInk.before
  exact numberSign_local.bind hwhole fun _ _ s _ _ ht => ht.behind s

end AgentCanvas.Json
