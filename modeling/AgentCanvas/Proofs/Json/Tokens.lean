import AgentCanvas.Json.Reader
import AgentCanvas.Proofs.Json.Fields
import AgentCanvas.Proofs.Text.Trimming

set_option autoImplicit false

/-!
# Readers look at what they take

A reader that succeeds takes a stretch of the text. It would take the same stretch for the same
result at any other place, whatever follows there, as long as that begins with the same character;
and to every reader a space is as good as the end of the text. This is shown of each token here.
-/
namespace AgentCanvas.Json

open Text

variable {α β : Type} {read : Cursor → Except Fault (α × Cursor)}
  {next : α → Cursor → Except Fault (β × Cursor)}

def lead (text : List Char) : Option Char :=
  text.head?.filter fun c => !Cursor.isSpace c

/-- A stretch that a reader takes for a value at any place, if what follows has the lead of `rest`.
    -/
def Takes (read : Cursor → Except Fault (α × Cursor)) (taken : List Char) (a : α)
    (rest : List Char) : Prop :=
  ∀ (c : Cursor) (behind : List Char), c.rest = taken ++ behind → lead behind = lead rest →
    ∃ c', read c = .ok (a, c') ∧ c'.rest = behind

/-- Where `k` leads, a reader that succeeds takes a stretch, of a shape that goes with its value. -/
def LocalFrom (k : Option Char) (shape : α → List Char → Prop)
    (read : Cursor → Except Fault (α × Cursor)) : Prop :=
  ∀ ⦃c : Cursor⦄ ⦃a : α⦄ ⦃c' : Cursor⦄, lead c.rest = k → read c = .ok (a, c') →
    ∃ taken, c.rest = taken ++ c'.rest ∧ shape a taken ∧ Takes read taken a c'.rest

def Local (shape : α → List Char → Prop) (read : Cursor → Except Fault (α × Cursor)) : Prop :=
  ∀ k, LocalFrom k shape read

def Anything (_ : α) (_ : List Char) : Prop := True

def Nothing (_ : α) (text : List Char) : Prop := text = []

def EndsInk (_ : α) (text : List Char) : Prop :=
  ∃ before x, text = before ++ [x] ∧ isBlank x = false

def MayEndInk (a : α) (text : List Char) : Prop :=
  text = [] ∨ EndsInk a text

theorem EndsInk.behind {b : β} {text : List Char} (h : EndsInk b text) (before : List Char) :
    EndsInk b (before ++ text) := by
  obtain ⟨inner, x, rfl, hx⟩ := h
  exact ⟨before ++ inner, x, (List.append_assoc before inner [x]).symm, hx⟩

theorem EndsInk.before {a : α} {b : β} {text rest : List Char} (h : EndsInk a text)
    (hrest : MayEndInk b rest) : EndsInk b (text ++ rest) := by
  obtain rfl | hrest := hrest
  · rwa [List.append_nil]
  · exact hrest.behind text

theorem MayEndInk.before {a : α} {b : β} {text rest : List Char} (h : MayEndInk a text)
    (hrest : MayEndInk b rest) : MayEndInk b (text ++ rest) := by
  obtain rfl | h := h
  · exact hrest
  · exact .inr (h.before hrest)

theorem EndsInk.length_pos {a : α} {text : List Char} (h : EndsInk a text) : 0 < text.length := by
  obtain ⟨before, x, rfl, -⟩ := h
  rw [List.length_append, List.length_singleton]
  exact Nat.succ_pos _

/-! ## Leads and spaces -/

theorem lead_append_congr {a b : List Char} (h : lead a = lead b) (taken : List Char) :
    lead (taken ++ a) = lead (taken ++ b) := by
  cases taken with
  | nil => exact h
  | cons c taken => rfl

theorem eq_cons_of_lead {text : List Char} {x : Char} (h : lead text = some x) :
    ∃ rest, text = x :: rest ∧ Cursor.isSpace x = false := by
  obtain ⟨hhead, hspace⟩ := Option.filter_eq_some_iff.mp h
  obtain ⟨rest, rfl⟩ := List.head?_eq_some_iff.mp hhead
  exact ⟨rest, rfl, by simpa using hspace⟩

theorem lead_cons {x : Char} (h : Cursor.isSpace x = false) (rest : List Char) :
    lead (x :: rest) = some x := by
  simp [lead, h]

theorem lead_of_gap {gap : List Char} (h : ∀ x ∈ gap, Cursor.isSpace x = true) :
    lead gap = none := by
  cases gap with
  | nil => rfl
  | cons x gap => simp [lead, h x List.mem_cons_self]

theorem ne_cons_of_lead {text : List Char} {k : Option Char} {x : Char}
    (hx : Cursor.isSpace x = false) (hk : k ≠ some x) (h : lead text = k) (rest : List Char) :
    text ≠ x :: rest := by
  rintro rfl
  exact hk (h.symm.trans (lead_cons hx rest))

/-- A run of characters that are no spaces ends before `rest` as it ends before any text with the
    lead of `rest`. -/
theorem takeWhile_of_lead {p : Char → Bool} (hp : ∀ c, Cursor.isSpace c = true → p c = false)
    {text behind : List Char} (h : lead behind = lead (text.dropWhile p)) :
    (text.takeWhile p ++ behind).takeWhile p = text.takeWhile p := by
  have hall : ∀ c ∈ text.takeWhile p, p c = true := fun c => List.mem_takeWhile_imp
  have hstop : behind.takeWhile p = [] := by
    cases behind with
    | nil => rfl
    | cons x behind =>
      apply List.takeWhile_cons_of_neg
      intro hx
      have hspace : Cursor.isSpace x = false := by
        by_contra hne
        rw [hp x (by simpa using hne)] at hx
        cases hx
      rw [lead_cons hspace] at h
      obtain ⟨rest, hrest, -⟩ := eq_cons_of_lead h.symm
      have hnot := List.head?_dropWhile_not p text
      rw [hrest, List.head?_cons] at hnot
      simp only [hx] at hnot
      cases hnot
  rw [List.takeWhile_append_of_pos hall, hstop, List.append_nil]

theorem isBlank_of_isSpace {c : Char} (h : Cursor.isSpace c = true) : isBlank c = true := by
  simp only [Cursor.isSpace, Bool.or_eq_true, beq_iff_eq] at h
  obtain ((rfl | rfl) | rfl) | rfl := h <;> decide

namespace Cursor

theorem skip_rest (c : Cursor) (n : ℕ) : (c.skip n).rest = c.rest.drop n := by
  induction n generalizing c with
  | zero => rfl
  | succ n ih =>
    unfold skip
    split
    case h_1 h => simp [h]
    case h_2 x rest h => rw [ih, h, List.drop_succ_cons]

theorem skip_one_rest {c : Cursor} {x : Char} {rest : List Char} (h : c.rest = x :: rest) :
    (c.skip 1).rest = rest := by
  rw [skip_rest, h, List.drop_one, List.tail_cons]

theorem skipWhile_rest (p : Char → Bool) (c : Cursor) :
    (c.skipWhile p).rest = c.rest.dropWhile p := by
  have hsplit : c.rest.takeWhile p ++ c.rest.dropWhile p = c.rest :=
    List.takeWhile_append_dropWhile
  calc (c.skipWhile p).rest
      = c.rest.drop (c.rest.takeWhile p).length := skip_rest c _
    _ = (c.rest.takeWhile p ++ c.rest.dropWhile p).drop (c.rest.takeWhile p).length := by
        rw [hsplit]
    _ = c.rest.dropWhile p := List.drop_left

theorem skipSpace_rest (c : Cursor) : c.skipSpace.rest = c.rest.dropWhile isSpace :=
  skipWhile_rest isSpace c

theorem exists_gap (c : Cursor) :
    ∃ gap, (∀ x ∈ gap, isSpace x = true) ∧ c.rest = gap ++ c.skipSpace.rest := by
  refine ⟨c.rest.takeWhile isSpace, fun x => List.mem_takeWhile_imp, ?_⟩
  rw [skipSpace_rest, List.takeWhile_append_dropWhile]

theorem lead_skipSpace {c : Cursor} {x : Char} {rest : List Char}
    (h : c.skipSpace.rest = x :: rest) : isSpace x = false := by
  rw [skipSpace_rest] at h
  have hnot := List.dropWhile_get_zero_not isSpace c.rest (by simp [h])
  simpa [h] using hnot

theorem skipSpace_of_gap {c : Cursor} {gap text : List Char} {x : Char}
    (hgap : ∀ x ∈ gap, isSpace x = true) (h : c.rest = gap ++ text) (hx : lead text = some x) :
    c.skipSpace.rest = text := by
  obtain ⟨rest, rfl, hspace⟩ := eq_cons_of_lead hx
  rw [skipSpace_rest, h, List.dropWhile_append_of_pos hgap,
    List.dropWhile_cons_of_neg (by simp [hspace])]

theorem skipSpace_skipSpace (c : Cursor) : c.skipSpace.skipSpace = c.skipSpace := by
  have hnone : c.skipSpace.rest.takeWhile isSpace = [] := by
    cases h : c.skipSpace.rest with
    | nil => rfl
    | cons x rest => exact List.takeWhile_cons_of_neg (by simp [lead_skipSpace h])
  conv_lhs => rw [skipSpace, skipWhile, hnone]
  rfl

end Cursor

/-! ## Readers one after the other -/

theorem LocalFrom.congr {k : Option Char} {shape : α → List Char → Prop}
    {read' : Cursor → Except Fault (α × Cursor)} (h : LocalFrom k shape read)
    (heq : ∀ c, lead c.rest = k → read' c = read c) : LocalFrom k shape read' := by
  intro c a c' hk hread
  rw [heq c hk] at hread
  obtain ⟨taken, hc, hshape, htakes⟩ := h hk hread
  refine ⟨taken, hc, hshape, fun d behind hd hlead => ?_⟩
  have hsame : lead d.rest = k := by
    rw [hd, lead_append_congr hlead, ← hc, hk]
  rw [heq d hsame]
  exact htakes d behind hd hlead

theorem LocalFrom.of_error {k : Option Char} {shape : α → List Char → Prop}
    (h : ∀ c, lead c.rest = k → ∃ fault, read c = .error fault) : LocalFrom k shape read := by
  intro c a c' hk hread
  obtain ⟨fault, herror⟩ := h c hk
  rw [herror] at hread
  cases hread

/-- A reader that goes on behind one character. -/
theorem Local.behind {shape both : α → List Char → Prop} (hread : Local shape read) (x : Char)
    (hboth : ∀ a taken, shape a taken → both a (x :: taken)) :
    LocalFrom (some x) both fun c => read (c.skip 1) := by
  intro c a c' hk h
  obtain ⟨rest, hrest, -⟩ := eq_cons_of_lead hk
  obtain ⟨taken, htaken, hshape, htakes⟩ := hread _ rfl h
  rw [Cursor.skip_one_rest hrest] at htaken
  refine ⟨x :: taken, by rw [hrest, htaken, List.cons_append], hboth a taken hshape, ?_⟩
  intro d behind hd hlead
  exact htakes (d.skip 1) behind (Cursor.skip_one_rest hd) hlead

theorem LocalFrom.of_behind {shape both : α → List Char → Prop} {x : Char}
    {read' : Cursor → Except Fault (α × Cursor)} (hread : Local shape read)
    (hboth : ∀ a taken, shape a taken → both a (x :: taken))
    (heq : ∀ c rest, c.rest = x :: rest → read' c = read (c.skip 1)) :
    LocalFrom (some x) both read' := by
  refine (hread.behind x hboth).congr fun c hc => ?_
  obtain ⟨rest, hrest, -⟩ := eq_cons_of_lead hc
  exact heq c rest hrest

theorem Local.stay (h : ∀ c a c', read c = .ok (a, c') → c' = c ∧ ∀ d, read d = .ok (a, d)) :
    Local Nothing read := by
  intro k c a c' _ hread
  obtain ⟨rfl, hall⟩ := h c a c' hread
  refine ⟨[], rfl, rfl, fun d behind hd _ => ⟨d, hall d, ?_⟩⟩
  rw [hd, List.nil_append]

theorem local_pure (a : α) : Local Nothing fun c => .ok (a, c) := by
  refine Local.stay fun c b c' h => ?_
  cases h
  exact ⟨rfl, fun _ => rfl⟩

theorem LocalFrom.mono {k : Option Char} {shape shape' : α → List Char → Prop}
    (h : LocalFrom k shape read) (hshape : ∀ a taken, shape a taken → shape' a taken) :
    LocalFrom k shape' read := by
  intro c a c' hk hread
  obtain ⟨taken, hc, htaken, htakes⟩ := h hk hread
  exact ⟨taken, hc, hshape a taken htaken, htakes⟩

theorem Local.bind {first : α → List Char → Prop} {second : α → β → List Char → Prop}
    {both : β → List Char → Prop} (hread : Local first read)
    (hnext : ∀ a, Local (second a) (next a))
    (hboth : ∀ a b s t, first a s → second a b t → both b (s ++ t)) :
    Local both fun c => read c >>= fun step => next step.1 step.2 := by
  intro k c b c' _ h
  obtain ⟨⟨a, mid⟩, hmid, hlast⟩ := bind_eq_ok.mp h
  obtain ⟨s, hs, hshape, htakes⟩ := hread _ rfl hmid
  obtain ⟨t, ht, hshape', htakes'⟩ := hnext a _ rfl hlast
  refine ⟨s ++ t, by rw [hs, ht, List.append_assoc], hboth a b s t hshape hshape', ?_⟩
  intro d behind hd hlead
  rw [List.append_assoc] at hd
  obtain ⟨d', hread', hrest⟩ := htakes d (t ++ behind) hd (ht ▸ lead_append_congr hlead t)
  obtain ⟨d'', hnext', hrest'⟩ := htakes' d' behind hrest hlead
  exact ⟨d'', bind_eq_ok.mpr ⟨(a, d'), hread', hnext'⟩, hrest'⟩

theorem Local.map {shape : α → List Char → Prop} {shape' : β → List Char → Prop}
    (hread : Local shape read) (f : α → β)
    (hshape : ∀ a taken, shape a taken → shape' (f a) taken) :
    Local shape' fun c => (read c).map fun step => (f step.1, step.2) := by
  intro k c b c' _ h
  cases hstep : read c with
  | error fault =>
    simp only [hstep] at h
    cases h
  | ok step =>
    simp only [hstep] at h
    cases h
    obtain ⟨taken, hc, htaken, htakes⟩ := hread _ rfl hstep
    refine ⟨taken, hc, hshape _ taken htaken, fun d behind hd hlead => ?_⟩
    obtain ⟨d', hd', hrest⟩ := htakes d behind hd hlead
    exact ⟨d', by simp only [hd']; rfl, hrest⟩

/-- A reader that passes over spaces before it looks, and needs something to look at. -/
theorem Local.behind_space {shape both : α → List Char → Prop} (hread : Local shape read)
    (hnil : ∀ c, c.rest = [] → ∃ fault, read c = .error fault)
    (hboth : ∀ a gap taken, shape a taken → both a (gap ++ taken)) :
    Local both fun c => read c.skipSpace := by
  intro k c a c' _ h
  obtain ⟨gap, hgap, hc⟩ := c.exists_gap
  obtain ⟨taken, htaken, hshape, htakes⟩ := hread _ rfl h
  refine ⟨gap ++ taken, ?_, hboth a gap taken hshape, ?_⟩
  · rw [hc, htaken, List.append_assoc]
  · intro d behind hd hlead
    rw [List.append_assoc] at hd
    cases hrest : c.skipSpace.rest with
    | nil =>
      obtain ⟨fault, herror⟩ := hnil c.skipSpace hrest
      have hfail : Except.error fault = .ok (a, c') := herror.symm.trans h
      cases hfail
    | cons x rest =>
      have hx : lead (taken ++ behind) = some x := by
        rw [lead_append_congr hlead, ← htaken, hrest, lead_cons (Cursor.lead_skipSpace hrest)]
      exact htakes d.skipSpace behind (Cursor.skipSpace_of_gap hgap hd hx) hlead

/-! ## Words and strings -/

theorem readWord_cons {x y : Char} {word rest : List Char} {c : Cursor} (h : c.rest = y :: rest) :
    readWord (x :: word) c =
      if x = y then readWord word (c.skip 1) else .error (c.faultAfter .expectedIdent) := by
  rw [readWord.eq_def]
  simp only [h]

theorem readWord_ok {word : List Char} {c c' : Cursor} (h : readWord word c = .ok c') :
    c.rest = word ++ c'.rest := by
  induction word generalizing c with
  | nil =>
    rw [readWord] at h
    cases h
    rfl
  | cons x word ih =>
    cases hrest : c.rest with
    | nil =>
      rw [readWord.eq_def] at h
      simp only [hrest] at h
      cases h
    | cons y rest =>
      rw [readWord_cons hrest] at h
      split_ifs at h with hxy
      rw [hxy, List.cons_append, ← ih h, Cursor.skip_one_rest hrest]

theorem readWord_append {word : List Char} {c : Cursor} {behind : List Char}
    (h : c.rest = word ++ behind) : ∃ c', readWord word c = .ok c' ∧ c'.rest = behind := by
  induction word generalizing c with
  | nil => exact ⟨c, by rw [readWord], h⟩
  | cons x word ih =>
    obtain ⟨c', hc', hrest⟩ := ih (Cursor.skip_one_rest h)
    exact ⟨c', by rw [readWord_cons h, if_pos rfl, hc'], hrest⟩

theorem readWord_local {word : List Char} {a : α} (hword : EndsInk a word) :
    Local EndsInk fun c => (readWord word c).map fun c => (a, c) := by
  intro k c b c' _ h
  cases hstep : readWord word c with
  | error fault =>
    simp only [hstep] at h
    cases h
  | ok c'' =>
    simp only [hstep] at h
    cases h
    refine ⟨word, readWord_ok hstep, hword, fun d behind hd _ => ?_⟩
    obtain ⟨d', hd', hrest⟩ := readWord_append hd
    exact ⟨d', by simp only [hd']; rfl, hrest⟩

theorem codeUnit_ok {before unit : ℕ} {digits : List Char}
    (h : codeUnit before digits = .ok unit) :
    ∃ a b c d rest, digits = a :: b :: c :: d :: rest ∧
      ∀ rest', codeUnit before (a :: b :: c :: d :: rest') = .ok unit := by
  unfold codeUnit at h
  split at h
  case h_1 a b c d rest =>
    refine ⟨a, b, c, d, rest, rfl, fun rest' => ?_⟩
    split at h
    case h_1 w x y z ha hb hc hd =>
      unfold codeUnit
      simp only [ha, hb, hc, hd]
      exact h
    case h_2 => cases h
  case h_2 => cases h

theorem secondHalf_ok {high covered : ℕ} {text : List Char} {x : Char}
    (h : secondHalf high text = .ok (x, covered)) :
    ∃ body rest, text = body ++ rest ∧ body.length + 5 = covered ∧
      ∀ rest', secondHalf high (body ++ rest') = .ok (x, covered) := by
  unfold secondHalf at h
  split at h
  case h_3 digits =>
    obtain ⟨low, hlow, hunit⟩ := bind_eq_ok.mp h
    obtain ⟨a, b, c, d, rest, rfl, hany⟩ := codeUnit_ok hlow
    refine ⟨['\\', 'u', a, b, c, d], rest, rfl, ?_, fun rest' => ?_⟩
    · split_ifs at hunit
      exact (Prod.mk.inj (Except.ok.inj hunit)).2
    · exact bind_eq_ok.mpr ⟨low, hany rest', hunit⟩
  all_goals cases h

/-- An escape is told by the characters it covers. -/
theorem escape_ok {text : List Char} {x : Char} {covered : ℕ}
    (h : escape text = .ok (x, covered)) :
    ∃ body rest, text = body ++ rest ∧ body.length = covered ∧
      ∀ rest', escape (body ++ rest') = .ok (x, covered) := by
  unfold escape at h
  split at h
  case h_10 digits =>
    obtain ⟨unit, hcode, hunit⟩ := bind_eq_ok.mp h
    obtain ⟨a, b, c, d, rest, rfl, hany⟩ := codeUnit_ok hcode
    split_ifs at hunit with hlow hhigh
    · obtain ⟨body, more, hmore, hlength, hsecond⟩ := secondHalf_ok hunit
      have hrest : rest = body ++ more := hmore
      refine ⟨'u' :: a :: b :: c :: d :: body, more, by rw [hrest]; rfl, hlength, fun rest' => ?_⟩
      refine bind_eq_ok.mpr ⟨unit, hany (body ++ rest'), ?_⟩
      rw [if_neg hlow, if_pos hhigh]
      exact hsecond rest'
    · refine ⟨['u', a, b, c, d], rest, rfl, (Prod.mk.inj (Except.ok.inj hunit)).2, fun rest' => ?_⟩
      refine bind_eq_ok.mpr ⟨unit, hany rest', ?_⟩
      rw [if_neg hlow, if_neg hhigh]
      exact hunit
  case h_1 => cases h
  case h_11 => cases h
  all_goals
    cases h
    exact ⟨[_], _, rfl, rfl, fun _ => rfl⟩

theorem stringFrom_ok {done : List Char} {offset covered : ℕ} {text : List Char} {s : String}
    {c' : Cursor} (h : stringFrom done offset covered text = .ok (s, c')) :
    ∃ inner, text = inner ++ '"' :: c'.rest ∧ covered ≤ inner.length ∧
      ∀ offset' behind, ∃ c'', c''.rest = behind ∧
        stringFrom done offset' covered (inner ++ '"' :: behind) = .ok (s, c'') := by
  fun_induction stringFrom done offset covered text with
  | case1 => cases h
  | case2 done offset covered c rest ih =>
    obtain ⟨inner, hrest, hle, hany⟩ := ih h
    refine ⟨c :: inner, by rw [hrest, List.cons_append], Nat.succ_le_succ hle, ?_⟩
    intro offset' behind
    exact hany (offset' + c.utf8Size) behind
  | case3 done offset rest =>
    cases h
    exact ⟨[], rfl, Nat.le_refl 0, fun offset' behind => ⟨⟨behind, offset' + 1⟩, rfl, rfl⟩⟩
  | case4 done offset rest c covered hescape ih =>
    obtain ⟨inner, hrest, hle, hany⟩ := ih h
    obtain ⟨body, more, hbody, hlength, hescapes⟩ := escape_ok hescape
    -- what the escape covers ends before the closing quote
    have hinner : ∃ tail, inner = body ++ tail := by
      have hsame : body ++ more = inner ++ '"' :: c'.rest := hbody.symm.trans hrest
      exact ⟨_, (List.prefix_iff_eq_append.mp (List.prefix_of_prefix_length_le ⟨more, hsame⟩
        (List.prefix_append inner _) (hlength ▸ hle))).symm⟩
    obtain ⟨tail, rfl⟩ := hinner
    refine ⟨'\\' :: (body ++ tail), by rw [hrest, List.cons_append], Nat.zero_le _, ?_⟩
    intro offset' behind
    obtain ⟨c'', hbehind, hstring⟩ := hany (offset' + 1) behind
    refine ⟨c'', hbehind, ?_⟩
    rw [List.append_assoc] at hstring
    rw [List.cons_append, List.append_assoc, stringFrom, hescapes]
    exact hstring
  | case5 => cases h
  | case6 => cases h
  | case7 done offset c rest hquote hslash hcontrol ih =>
    obtain ⟨inner, hrest, -, hany⟩ := ih h
    refine ⟨c :: inner, by rw [hrest, List.cons_append], Nat.zero_le _, ?_⟩
    intro offset' behind
    obtain ⟨c'', hbehind, hstring⟩ := hany (offset' + c.utf8Size) behind
    refine ⟨c'', hbehind, ?_⟩
    rw [List.cons_append, stringFrom, if_neg hcontrol]
    · exact hstring
    · exact hquote
    · exact hslash

theorem readString_local : Local EndsInk readString := by
  intro k c s c' _ h
  obtain ⟨inner, hrest, -, hany⟩ := stringFrom_ok h
  refine ⟨inner ++ ['"'], by rw [hrest, List.append_assoc]; rfl, ⟨inner, '"', rfl, by decide⟩, ?_⟩
  intro d behind hd _
  obtain ⟨d', hbehind, hstring⟩ := hany d.offset behind
  rw [List.append_assoc] at hd
  exact ⟨d', by rw [readString, hd]; exact hstring, hbehind⟩

end AgentCanvas.Json
