import AgentCanvas.Json.Tokens
import AgentCanvas.Json.Value
import AgentCanvas.Proofs.Number.Characters
import AgentCanvas.Text.Basic
import Mathlib.Data.Bool.AllAny
import Mathlib.Data.List.Basic
import Mathlib.Tactic.SplitIfs

set_option autoImplicit false

namespace AgentCanvas

open Text

def Severs (x : Char) : Prop :=
  x = '\x60' ∨ isBlank x = true

instance (x : Char) : Decidable (Severs x) :=
  inferInstanceAs (Decidable (x = '\x60' ∨ isBlank x = true))

/-- What a text may lose at its end. -/
def Cut (lost : List Char) : Prop :=
  ∀ x ∈ lost.head?, Severs x

theorem cut_nil : Cut [] := nofun

namespace Cut

variable {lost text rest : List Char}

theorem uncons {x : Char} (h : text ++ lost = x :: rest) (hne : text ≠ []) :
    ∃ left, text = x :: left ∧ left ++ lost = rest := by
  obtain ⟨y, left, rfl⟩ := List.exists_cons_of_ne_nil hne
  obtain ⟨rfl, hrest⟩ := List.cons.inj h
  exact ⟨left, rfl, hrest⟩

theorem cons (hlost : Cut lost) {x : Char} (hx : ¬ Severs x) (h : text ++ lost = x :: rest) :
    ∃ left, text = x :: left ∧ left ++ lost = rest := by
  refine uncons h ?_
  rintro rfl
  rw [List.nil_append] at h
  exact hx (hlost x (by rw [h]; rfl))

/-- A word without a place to cut it is there as a whole. -/
theorem append (hlost : Cut lost) {word : List Char} (hword : ∀ x ∈ word, ¬ Severs x)
    (h : text ++ lost = word ++ rest) : ∃ left, text = word ++ left ∧ left ++ lost = rest := by
  induction word generalizing text with
  | nil => exact ⟨text, rfl, h⟩
  | cons x word ih =>
    obtain ⟨hx, hword⟩ := List.forall_mem_cons.mp hword
    obtain ⟨left, rfl, hleft⟩ := hlost.cons hx h
    obtain ⟨left', rfl, hrest⟩ := ih hword hleft
    exact ⟨left', rfl, hrest⟩

end Cut

namespace Json

def escapeLetters : List Char :=
  ['"', '\\', 'b', 'f', 'n', 'r', 't', 'u', '0', '1', '2', '3', '4', '5', '6', '7', '8', '9', 'a',
    'c', 'd', 'e']

/-- A character as itself, or as an escape that stands for it. -/
inductive EscapedAs (c : Char) : List Char → Prop where
  | escape (body : List Char) (hbody : ∀ x ∈ body, x ∈ escapeLetters)
      (hread : ∀ rest, escape (body ++ rest) = .ok (c, body.length)) : EscapedAs c ('\\' :: body)
  | plain (hquote : c ≠ '"') (hslash : c ≠ '\\') (hprints : 0x20 ≤ c.toNat) : EscapedAs c [c]

theorem hexValue?_hexDigit {n : Nat} (h : n < 16) : hexValue? (hexDigit n) = some n := by
  have hall : ∀ n < 16, hexValue? (hexDigit n) = some n := by decide
  exact hall n h

theorem hexDigit_mem_escapeLetters {n : Nat} (h : n < 16) : hexDigit n ∈ escapeLetters := by
  have hall : ∀ n < 16, hexDigit n ∈ escapeLetters := by decide
  exact hall n h

theorem codeUnit_hexPadded {n : Nat} (h : n < 0x10000) (rest : List Char) :
    codeUnit 1 (hexPadded 4 n ++ rest) = .ok n := by
  have hdigit : ∀ m, hexValue? (hexDigit (m % 16)) = some (m % 16) := fun m =>
    hexValue?_hexDigit (Nat.mod_lt m (by decide))
  have hvalue : ((n / 16 / 16 / 16 % 16 * 16 + n / 16 / 16 % 16) * 16 + n / 16 % 16) * 16 +
      n % 16 = n := by omega
  simp only [hexPadded, List.nil_append, List.cons_append, codeUnit, hdigit, hvalue]

theorem escape_hexPadded {c : Char} (h : c.toNat < 0x20) (rest : List Char) :
    escape ('u' :: hexPadded 4 c.toNat ++ rest) = .ok (c, 5) := by
  have hunit := codeUnit_hexPadded (n := c.toNat) (by omega) rest
  rw [List.cons_append, escape, hunit]
  change (if 0xDC00 ≤ c.toNat ∧ c.toNat ≤ 0xDFFF then _ else _) = _
  rw [if_neg (by omega), if_neg (by omega), Char.ofNat_toNat]
  rfl

theorem escapedAs (c : Char) : EscapedAs c (escapedChar c) := by
  have hletter : ∀ x ∈ escapeLetters, ∀ y ∈ [x], y ∈ escapeLetters := by
    intro x hx y hy
    rwa [List.mem_singleton.mp hy]
  unfold escapedChar
  split_ifs with hquote hslash h1 h2 h3 h4 h5 hcontrol
  · exact .escape _ (hletter '"' (by decide)) fun _ => by rw [hquote]; rfl
  · exact .escape _ (hletter '\\' (by decide)) fun _ => by rw [hslash]; rfl
  · exact .escape _ (hletter 'b' (by decide)) fun _ => by rw [h1]; rfl
  · exact .escape _ (hletter 'f' (by decide)) fun _ => by rw [h2]; rfl
  · exact .escape _ (hletter 'n' (by decide)) fun _ => by rw [h3]; rfl
  · exact .escape _ (hletter 'r' (by decide)) fun _ => by rw [h4]; rfl
  · exact .escape _ (hletter 't' (by decide)) fun _ => by rw [h5]; rfl
  · refine .escape ('u' :: hexPadded 4 c.toNat) ?_ (escape_hexPadded hcontrol)
    refine List.forall_mem_cons.mpr ⟨by decide, fun x hx => ?_⟩
    obtain ⟨m, hm, rfl⟩ := mem_hexPadded hx
    exact hexDigit_mem_escapeLetters hm
  · exact .plain hquote hslash (not_lt.mp hcontrol)

theorem escapedChar_of_prints {c : Char} (hprints : 0x20 ≤ c.toNat) (hquote : c ≠ '"')
    (hslash : c ≠ '\\') : escapedChar c = [c] := by
  have hne : ∀ x : Char, x.toNat < 0x20 → c ≠ x := by
    rintro x hx rfl
    omega
  rw [escapedChar, if_neg hquote, if_neg hslash, if_neg (hne _ (by decide)),
    if_neg (hne _ (by decide)), if_neg (hne _ (by decide)), if_neg (hne _ (by decide)),
    if_neg (hne _ (by decide)), if_neg (not_lt.mpr hprints)]

theorem stringFrom_covered (read : List Char) (offset : Nat) (body rest : List Char) :
    ∃ offset', stringFrom read offset body.length (body ++ rest) =
      stringFrom read offset' 0 rest := by
  induction body generalizing offset with
  | nil => exact ⟨offset, rfl⟩
  | cons x body ih =>
    obtain ⟨offset', h⟩ := ih (offset + x.utf8Size)
    exact ⟨offset', by rw [List.length_cons, List.cons_append, stringFrom, h]⟩

theorem stringFrom_escape {c : Char} {body : List Char}
    (hread : ∀ rest, escape (body ++ rest) = .ok (c, body.length)) (done : List Char)
    (offset : Nat) (rest : List Char) :
    ∃ offset', stringFrom done offset 0 ('\\' :: (body ++ rest)) =
      stringFrom (c :: done) offset' 0 rest := by
  obtain ⟨offset', h⟩ := stringFrom_covered (c :: done) (offset + 1) body rest
  exact ⟨offset', by rw [stringFrom, hread, ← h]⟩

theorem stringFrom_plain {c : Char} (hquote : c ≠ '"') (hslash : c ≠ '\\')
    (hprints : 0x20 ≤ c.toNat) (done : List Char) (offset : Nat) (rest : List Char) :
    stringFrom done offset 0 (c :: rest) =
      stringFrom (c :: done) (offset + c.utf8Size) 0 rest := by
  rw [stringFrom, if_neg (not_lt.mpr hprints)]
  · exact hquote
  · exact hslash

theorem stringFrom_ne_nil {done text : List Char} {offset : Nat} {s : String} {c' : Cursor}
    (h : stringFrom done offset 0 text = .ok (s, c')) : text ≠ [] := by
  rintro rfl
  rw [stringFrom] at h
  cases h

theorem stringFrom_escapedChar {lost rest : List Char} (hlost : Cut lost) {c : Char}
    {text : List Char} (hne : text ≠ []) (htext : text ++ lost = escapedChar c ++ rest)
    (done : List Char) (offset : Nat) :
    ∃ left offset', left ++ lost = rest ∧
      stringFrom done offset 0 text = stringFrom (c :: done) offset' 0 left := by
  have hescaped := escapedAs c
  generalize escapedChar c = written at hescaped htext
  cases hescaped with
  | escape body hbody hread =>
    have hclean : ∀ x ∈ '\\' :: body, ¬ Severs x := by
      have hall : ∀ x ∈ escapeLetters, ¬ Severs x := List.all_iff_forall_prop.mp rfl
      exact List.forall_mem_cons.mpr ⟨by decide, fun x hx => hall x (hbody x hx)⟩
    obtain ⟨left, rfl, hleft⟩ := hlost.append hclean htext
    obtain ⟨offset', hstring⟩ := stringFrom_escape hread done offset left
    exact ⟨left, offset', hleft, hstring⟩
  | plain hquote hslash hprints =>
    obtain ⟨left, rfl, hleft⟩ := Cut.uncons htext hne
    exact ⟨left, _, hleft, stringFrom_plain hquote hslash hprints done offset left⟩

/-- If a string is read where one was written, it is the written one. -/
theorem stringFrom_written {lost behind chars : List Char} (hlost : Cut lost)
    {done text : List Char} {offset : Nat} {s : String} {c' : Cursor}
    (htext : text ++ lost = chars.flatMap escapedChar ++ '"' :: behind)
    (h : stringFrom done offset 0 text = .ok (s, c')) :
    s = String.ofList (done.reverse ++ chars) ∧ c'.rest ++ lost = behind := by
  -- on the written characters; what was read before them is in `done`
  have hne := stringFrom_ne_nil h
  induction chars generalizing done text offset with
  | nil =>
    obtain ⟨left, rfl, hleft⟩ := Cut.uncons htext hne
    rw [stringFrom] at h
    cases h
    exact ⟨by rw [List.append_nil], hleft⟩
  | cons c chars ih =>
    rw [List.flatMap_cons, List.append_assoc] at htext
    obtain ⟨left, offset', hleft, hstring⟩ := stringFrom_escapedChar hlost hne htext done offset
    rw [hstring] at h
    obtain ⟨hs, hrest⟩ := ih hleft h (stringFrom_ne_nil h)
    exact ⟨by rw [hs, List.reverse_cons, List.append_assoc]; rfl, hrest⟩

end Json
end AgentCanvas
