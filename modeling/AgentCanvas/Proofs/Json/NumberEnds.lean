import AgentCanvas.Proofs.Json.Documents
import AgentCanvas.Proofs.Number.Characters

set_option autoImplicit false

namespace AgentCanvas.Json

open Text

variable {α β : Type} {behind : List Char}

def IsNumberChar (c : Char) : Prop :=
  isNumeric c = true ∨ c = 'E'

instance (c : Char) : Decidable (IsNumberChar c) :=
  inferInstanceAs (Decidable (isNumeric c = true ∨ c = 'E'))

def EndsNumber (behind : List Char) : Prop :=
  ∀ x ∈ behind.head?, ¬ IsNumberChar x

/-- A reader that does with a text behind what it does without, and leaves that text alone. -/
def Framed (behind : List Char) (read : Cursor → Except Fault (α × Cursor)) : Prop :=
  ∀ ⦃c d : Cursor⦄ ⦃a : α⦄ ⦃c' : Cursor⦄, c.rest = d.rest ++ behind → read c = .ok (a, c') →
    ∃ d', read d = .ok (a, d') ∧ c'.rest = d'.rest ++ behind ∧ d'.rest <:+ d.rest

theorem isBlank_of_numeric {c : Char} (h : isNumeric c = true) : isBlank c = false := by
  simp only [isNumeric, Bool.or_eq_true, beq_iff_eq] at h
  obtain (((hdigit | rfl) | rfl) | rfl) | rfl := h
  · exact isBlank_of_isDigit hdigit
  all_goals decide

theorem isSpace_of_numeric {x : Char} (h : isNumeric x = true) : Cursor.isSpace x = false := by
  by_contra hspace
  have hblank := isBlank_of_isSpace (by simpa using hspace)
  rw [isBlank_of_numeric h] at hblank
  cases hblank

theorem isNumberChar_of_isDigit {c : Char} (h : c.isDigit = true) : IsNumberChar c :=
  .inl (by simp [isNumeric, h])

namespace EndsNumber

theorem nil : EndsNumber [] := nofun

theorem of_append {a b : List Char} (h : EndsNumber (a ++ b)) : EndsNumber a := by
  intro x hx
  cases a with
  | nil => cases hx
  | cons y a => exact h x hx

theorem of_skipSpace {c : Cursor} (h : EndsNumber c.skipSpace.rest) : EndsNumber c.rest := by
  obtain ⟨gap, hgap, hrest⟩ := c.exists_gap
  rw [hrest]
  intro x hx
  cases gap with
  | nil => exact h x hx
  | cons y gap =>
    obtain rfl : y = x := Option.some.inj hx
    have hspace := hgap y List.mem_cons_self
    simp only [Cursor.isSpace, Bool.or_eq_true, beq_iff_eq] at hspace
    obtain ((rfl | rfl) | rfl) | rfl := hspace <;> decide

theorem takeWhile_isDigit (h : EndsNumber behind) (text : List Char) :
    (text ++ behind).takeWhile Char.isDigit = text.takeWhile Char.isDigit := by
  have hstop : behind.takeWhile Char.isDigit = [] := by
    cases behind with
    | nil => rfl
    | cons x behind =>
      have hx : ¬ x.isDigit = true := fun hdigit => h x rfl (isNumberChar_of_isDigit hdigit)
      exact List.takeWhile_cons_of_neg hx
  rw [List.takeWhile_append]
  split_ifs with hall
  · rw [hstop, List.append_nil, (List.takeWhile_prefix _).eq_of_length hall]
  · rfl

theorem head?_append (h : EndsNumber behind) {x : Char} (hx : IsNumberChar x) (text : List Char) :
    (text ++ behind).head? = some x ↔ text.head? = some x := by
  cases text with
  | nil => exact iff_of_false (fun hhead => h x hhead hx) nofun
  | cons y text => rfl

end EndsNumber

namespace Framed

theorem pure (a : α) : Framed behind fun c => .ok (a, c) := by
  intro c d b c' hc hread
  cases hread
  exact ⟨d, rfl, hc, List.suffix_refl _⟩

theorem bind {read : Cursor → Except Fault (α × Cursor)}
    {next : α → Cursor → Except Fault (β × Cursor)} (hread : Framed behind read)
    (hnext : ∀ a, Framed behind (next a)) :
    Framed behind fun c => read c >>= fun step => next step.1 step.2 := by
  intro c d b c' hc h
  obtain ⟨⟨a, mid⟩, hfirst, hlast⟩ := bind_eq_ok.mp h
  obtain ⟨mid', hfirst', hmid, hsuffix⟩ := hread hc hfirst
  obtain ⟨d', hlast', hd', hsuffix'⟩ := hnext a hmid hlast
  exact ⟨d', bind_eq_ok.mpr ⟨_, hfirst', hlast'⟩, hd', hsuffix'.trans hsuffix⟩

theorem choice (hbehind : EndsNumber behind) {x : Char} (hx : IsNumberChar x)
    {there other : Cursor → Except Fault (α × Cursor)} (hthere : Framed behind there)
    (hother : Framed behind other) :
    Framed behind fun c => if c.rest.head? = some x then there (c.skip 1) else other c := by
  intro c d a c' hc h
  have hhead := hbehind.head?_append hx d.rest
  rw [← hc] at hhead
  simp only [hhead] at h ⊢
  split_ifs at h ⊢ with hd
  · obtain ⟨rest, hrest⟩ := List.head?_eq_some_iff.mp hd
    have hskip : (c.skip 1).rest = (d.skip 1).rest ++ behind := by
      rw [Cursor.skip_rest, Cursor.skip_rest, hc, hrest]
      rfl
    obtain ⟨d', hread, hd', hsuffix⟩ := hthere hskip h
    refine ⟨d', hread, hd', hsuffix.trans ?_⟩
    rw [Cursor.skip_rest]
    exact List.drop_suffix 1 d.rest
  · exact hother hc h

theorem digits (hbehind : EndsNumber behind) {f : Cursor → Except Fault (α × Cursor)}
    (value : List Char → Option α)
    (hf : ∀ c a c', f c = .ok (a, c') ↔ value (readDigits c).1 = some a ∧ c' = (readDigits c).2) :
    Framed behind f := by
  intro c d a c' hc h
  obtain ⟨hvalue, rfl⟩ := (hf c a c').mp h
  have hsame : (readDigits c).1 = (readDigits d).1 := by
    simp only [readDigits, hc, hbehind.takeWhile_isDigit]
  have hsplit : ∀ e : Cursor, e.rest = (readDigits e).1 ++ (readDigits e).2.rest := by
    intro e
    rw [readDigits_rest]
    exact List.takeWhile_append_dropWhile.symm
  refine ⟨(readDigits d).2, (hf d a _).mpr ⟨hsame ▸ hvalue, rfl⟩, ?_, ⟨_, (hsplit d).symm⟩⟩
  have hrest := hsplit c
  rw [hc, hsplit d, hsame, List.append_assoc] at hrest
  exact (List.append_cancel_left hrest).symm

end Framed

/-! ## The parts of a number -/

theorem head?_ne_of_forall {text : List Char} {x : Char} (h : ∀ rest, text ≠ x :: rest) :
    text.head? ≠ some x := by
  intro hhead
  obtain ⟨rest, hrest⟩ := List.head?_eq_some_iff.mp hhead
  exact h rest hrest

theorem readWhole_framed (h : EndsNumber behind) : Framed behind readWhole :=
  .digits h wholeDigits readWhole_ok_iff

theorem digitsBehind_framed (h : EndsNumber behind) (value : List Char → α)
    (fault : Cursor → Fault) : Framed behind (digitsBehind value fault) :=
  .digits h (fun digits => (someDigits digits).map value) (digitsBehind_ok_iff value fault)

theorem readFraction_framed (h : EndsNumber behind) : Framed behind readFraction := by
  have heq : readFraction = fun c => if c.rest.head? = some '.' then
      digitsBehind some (fun c =>
        if c.rest.isEmpty then c.faultHere .endInValue else c.faultAhead .invalidNumber) (c.skip 1)
      else .ok (none, c) := by
    funext c
    unfold readFraction
    split
    case h_1 rest hrest => simp only [hrest, List.head?_cons, if_true]; rfl
    case h_2 hne => exact (if_neg (head?_ne_of_forall hne)).symm
  rw [heq]
  exact .choice h (.inl rfl) (digitsBehind_framed h _ _) (.pure none)

theorem numberSign_framed (h : EndsNumber behind) :
    Framed behind fun c => .ok (numberSign c) := by
  have heq : (fun c => (.ok (numberSign c) : Except Fault (Bool × Cursor))) =
      fun c => if c.rest.head? = some '-' then .ok (true, c.skip 1) else .ok (false, c) := by
    funext c
    unfold numberSign
    split
    case h_1 rest hrest => simp only [hrest, List.head?_cons, if_true]
    case h_2 hne => exact (if_neg (head?_ne_of_forall hne)).symm
  rw [heq]
  exact .choice h (.inl rfl) (.pure true) (.pure false)

theorem exponentSign_framed (h : EndsNumber behind) :
    Framed behind fun c => .ok (exponentSign c) := by
  have heq : (fun c => (.ok (exponentSign c) : Except Fault (Bool × Cursor))) =
      fun c => if c.rest.head? = some '+' then .ok (false, c.skip 1)
        else if c.rest.head? = some '-' then .ok (true, c.skip 1) else .ok (false, c) := by
    funext c
    unfold exponentSign
    split
    case h_1 rest hrest => simp only [hrest, List.head?_cons, if_true]
    case h_2 rest hrest => simp [hrest]
    case h_3 hplus hminus =>
      rw [if_neg (head?_ne_of_forall hplus), if_neg (head?_ne_of_forall hminus)]
  rw [heq]
  exact .choice h (.inl rfl) (.pure false) (.choice h (.inl rfl) (.pure true) (.pure false))

theorem readExponent_framed (h : EndsNumber behind) : Framed behind readExponent := by
  have hdigits : Framed behind fun c =>
      (Except.ok (exponentSign c) : Except Fault (Bool × Cursor)) >>= fun sign =>
        exponentDigits sign.1 sign.2 :=
    (exponentSign_framed h).bind fun down => digitsBehind_framed h _ _
  have heq : readExponent = fun c => if c.rest.head? = some 'e' then
      ((Except.ok (exponentSign (c.skip 1)) : Except Fault (Bool × Cursor)) >>= fun sign =>
        exponentDigits sign.1 sign.2)
      else if c.rest.head? = some 'E' then
        ((Except.ok (exponentSign (c.skip 1)) : Except Fault (Bool × Cursor)) >>= fun sign =>
          exponentDigits sign.1 sign.2)
      else .ok (none, c) := by
    funext c
    unfold readExponent
    by_cases hlower : c.rest.head? = some 'e'
    · rw [if_pos (.inl hlower), if_pos hlower]
      rfl
    · by_cases hupper : c.rest.head? = some 'E'
      · rw [if_pos (.inr hupper), if_neg hlower, if_pos hupper]
        rfl
      · rw [if_neg (not_or.mpr ⟨hlower, hupper⟩), if_neg hlower, if_neg hupper]
  rw [heq]
  exact .choice h (.inl rfl) hdigits (.choice h (.inr rfl) hdigits (.pure none))

theorem valued_framed (number : NumberText) : Framed behind (valued number) := by
  intro c d a c' hc h
  unfold valued at h ⊢
  split at h
  · cases h
    exact ⟨d, rfl, hc, List.suffix_refl _⟩
  · cases h

/-- A number is read without a look at what follows it. -/
theorem readNumber_framed (h : EndsNumber behind) : Framed behind readNumber := by
  have hexponent : ∀ negative whole fraction, Framed behind fun c =>
      readExponent c >>= fun exponent =>
        valued ⟨negative, whole, fraction, exponent.1⟩ exponent.2 :=
    fun _ _ _ => (readExponent_framed h).bind fun _ => valued_framed _
  have hfraction : ∀ negative whole, Framed behind fun c =>
      readFraction c >>= fun fraction => readExponent fraction.2 >>= fun exponent =>
        valued ⟨negative, whole, fraction.1, exponent.1⟩ exponent.2 :=
    fun negative whole => (readFraction_framed h).bind (hexponent negative whole)
  have hwhole : ∀ negative, Framed behind fun c =>
      readWhole c >>= fun whole => readFraction whole.2 >>= fun fraction =>
        readExponent fraction.2 >>= fun exponent =>
          valued ⟨negative, whole.1, fraction.1, exponent.1⟩ exponent.2 :=
    fun negative => (readWhole_framed h).bind (hfraction negative)
  exact (numberSign_framed h).bind hwhole

/-- The text of a number before one that does not go on like it is taken as a whole, and as what it
    is read as by itself. -/
theorem readNumber_before {text : List Char} (htext : ∀ x ∈ text, isNumeric x = true)
    (hbehind : EndsNumber behind) {c c' : Cursor} {n : Number} (hc : c.rest = text ++ behind)
    (h : readNumber c = .ok (n, c')) (hrest : EndsNumber c'.rest) :
    c'.rest = behind ∧ ∃ d, readNumber (Cursor.start text) = .ok (n, d) ∧ d.rest = [] := by
  obtain ⟨d, hread, hd, hsuffix⟩ := readNumber_framed hbehind (d := Cursor.start text) hc h
  have hnil : d.rest = [] := by
    cases hleft : d.rest with
    | nil => rfl
    | cons x left =>
      -- a digit of the text that is left would go on like a number
      rw [hleft] at hd hsuffix
      have hx : x ∈ text := hsuffix.subset List.mem_cons_self
      exact (hrest x (by rw [hd]; rfl) (.inl (htext x hx))).elim
  rw [hnil] at hd
  exact ⟨hd, d, hread, hnil⟩

end AgentCanvas.Json
