import AgentCanvas.Proofs.Json.Documents
import AgentCanvas.Proofs.Json.Texts
import Mathlib.Data.Nat.Bitwise

set_option autoImplicit false

namespace AgentCanvas

/-! ## Integers of 64 bits -/

namespace Binary64

theorem exponentFor_le {num bits : ℕ} (h : num < 2 ^ bits) (den : ℕ) :
    exponentFor num den ≤ bits + 1 := by
  have hlog : num.log2 ≤ bits := by
    by_cases hzero : num = 0
    · simp [hzero]
    · exact ((Nat.log2_lt hzero).mpr h).le
  simp only [exponentFor]
  split <;> omega

theorem exists_ofRatio? (negative : Bool) {num : ℕ} (h : num < 2 ^ 64) :
    ∃ x, ofRatio? negative num 1 = some x := by
  have hscaled : num <<< 1074 < 2 ^ (64 + 1074) := Nat.shiftLeft_lt h
  have hexponent := exponentFor_le hscaled 1
  simp only [ofRatio?]
  split
  · exact ⟨_, if_pos (by simp only; omega)⟩
  · exact ⟨_, if_pos (by simp only; omega)⟩

end Binary64

theorem Double.isFinite_ofInt {n : ℤ} (h : n.natAbs < 2 ^ 64) : (ofInt n).isFinite = true := by
  obtain ⟨x, hx⟩ := Binary64.exists_ofRatio? (n < 0) h
  rw [ofInt, ofRatio, hx, isFinite]

namespace Json

variable {α : Type}

/-! ## The numbers of a value -/

def Number.IsFinite (n : Number) : Prop :=
  n.toDouble.isFinite = true

/-- A number stands in a value, however deep. -/
inductive Value.Has (n : Number) : Value → Prop where
  | here : Has n (.number n)
  | item {items : List Value} {item : Value} (hmem : item ∈ items) (h : Has n item) :
    Has n (.array items)
  | field {fields : Fields} {field : String × Value} (hmem : field ∈ fields)
    (h : Has n field.2) : Has n (.object fields)

def Value.IsFinite (value : Value) : Prop :=
  ∀ n, value.Has n → n.IsFinite

def Fields.IsFinite (fields : Fields) : Prop :=
  ∀ field ∈ fields, field.2.IsFinite

namespace Value

theorem isFinite_number_iff {n : Number} : (Value.number n).IsFinite ↔ n.IsFinite := by
  constructor
  · exact fun h => h n .here
  · rintro h _ ⟨⟩
    exact h

theorem isFinite_array_iff {items : List Value} :
    (Value.array items).IsFinite ↔ ∀ item ∈ items, item.IsFinite := by
  constructor
  · exact fun h item hitem n hn => h n (.item hitem hn)
  · intro h n hn
    cases hn with
    | item hitem hn => exact h _ hitem n hn

theorem isFinite_object_iff {fields : Fields} :
    (Value.object fields).IsFinite ↔ fields.IsFinite := by
  constructor
  · exact fun h field hfield n hn => h n (.field hfield hn)
  · intro h n hn
    cases hn with
    | field hfield hn => exact h _ hfield n hn

theorem sortedFields_isFinite {done fields : Fields} (hdone : done.IsFinite)
    (h : ∀ field ∈ fields, field.2.sorted.IsFinite) : (sortedFields done fields).IsFinite := by
  induction fields generalizing done with
  | nil => exact hdone
  | cons field fields ih =>
    obtain ⟨hfield, hfields⟩ := List.forall_mem_cons.mp h
    refine ih (fun other hother => ?_) hfields
    obtain rfl | hother := Fields.mem_put hother
    · exact hfield
    · exact hdone other hother

theorem sorted_isFinite {value : Value} (h : value.IsFinite) : value.sorted.IsFinite := by
  induction value using Value.induction with
  | null | bool | number | string => exact h
  | array items ih =>
    rw [sorted, isFinite_array_iff, sortedItems_eq_map]
    refine List.forall_mem_map.mpr fun item hitem => ?_
    exact ih item hitem (isFinite_array_iff.mp h item hitem)
  | object fields ih =>
    rw [sorted, isFinite_object_iff]
    refine sortedFields_isFinite nofun fun field hfield => ?_
    exact ih field hfield (isFinite_object_iff.mp h field hfield)

end Value

/-! ## Reading numbers -/

theorem keepDigits_le {limit significand : ℕ} (h : significand ≤ limit) (digits : List Char) :
    (keepDigits limit significand digits).1 ≤ limit := by
  fun_induction keepDigits limit significand digits with
  | case1 => exact h
  | case2 _ _ _ _ hnext ih => exact ih hnext
  | case3 => exact h

theorem integerValue_isFinite {negative : Bool} {magnitude : ℕ} {n : Number}
    (hmagnitude : magnitude ≤ significandLimit) (h : integerValue negative magnitude = some n) :
    n.IsFinite := by
  unfold significandLimit at hmagnitude
  unfold integerValue at h
  split_ifs at h
  · cases h
    exact Double.isFinite_ofInt (by omega)
  · cases h
    exact Double.isFinite_ofInt (by omega)
  · obtain ⟨x, -, rfl⟩ := Option.map_eq_some_iff.mp h
    rfl

theorem Number.isFinite_real (x : Binary64) : (Number.real x).IsFinite := rfl

theorem NumberText.value_isFinite {text : NumberText} {n : Number} (h : text.value = .ok n) :
    n.IsFinite := by
  have hlimit := keepDigits_le (Nat.zero_le significandLimit) text.whole
  unfold NumberText.value at h
  generalize keepDigits significandLimit 0 text.whole = kept at h hlimit
  simp only at h
  split at h
  · split at h
    · rename_i hvalue
      cases h
      exact integerValue_isFinite hlimit hvalue
    · cases h
  · split at h
    · split at h <;> cases h
      exact Number.isFinite_real _
    · split at h
      · split at h <;> cases h
        exact Number.isFinite_real _
      · split at h <;> cases h
        exact Number.isFinite_real _

/-! ## Reading values -/

/-- What a reader gives has a property. -/
def Gives (P : α → Prop) (read : Cursor → Except Fault (α × Cursor)) : Prop :=
  ∀ ⦃c : Cursor⦄ ⦃a : α⦄ ⦃c' : Cursor⦄, read c = .ok (a, c') → P a

theorem list_gives {P : α → Prop} {more : Cursor → Except Fault (Bool × Cursor)}
    {elem : Cursor → Except Fault (α × Cursor)} {elems : Cursor → Except Fault (List α × Cursor)}
    (helem : Gives P elem) (helems : Gives (fun as => ∀ a ∈ as, P a) elems) :
    Gives (fun as => ∀ a ∈ as, P a) fun c =>
      more c >>= fun step => listBehind elem elems step.1 step.2 := by
  intro c as c' h
  obtain ⟨⟨go, mid⟩, -, hlist⟩ := bind_eq_ok.mp h
  cases go with
  | false =>
    cases hlist
    exact fun a ha => absurd ha List.not_mem_nil
  | true =>
    obtain ⟨⟨a, behind⟩, ha, hcons⟩ := bind_eq_ok.mp hlist
    obtain ⟨⟨last, _⟩, hlast, heq⟩ := map_eq_ok hcons
    cases heq
    exact List.forall_mem_cons.mpr ⟨helem ha, helems hlast⟩

theorem readNumber_gives : Gives Number.IsFinite readNumber := by
  intro c n c' h
  unfold readNumber at h
  simp only [bind_eq_ok] at h
  obtain ⟨⟨whole, c₁⟩, -, ⟨fraction, c₂⟩, -, ⟨exponent, c₃⟩, -, h⟩ := h
  simp only at h
  split at h
  · rename_i hvalue
    cases h
    exact NumberText.value_isFinite hvalue
  · cases h

theorem readScalar_gives : Gives Value.IsFinite readScalar := by
  have hplain : ∀ {value : Value}, (∀ n, ¬ value.Has n) → value.IsFinite :=
    fun hnone n hn => absurd hn (hnone n)
  intro c value c' h
  unfold readScalar at h
  split at h
  case h_1 => cases h
  case h_2 | h_3 | h_4 | h_5 =>
    obtain ⟨_, -, heq⟩ := map_eq_ok h
    cases heq
    exact hplain nofun
  case h_6 =>
    split_ifs at h
    obtain ⟨⟨n, _⟩, hread, heq⟩ := map_eq_ok h
    cases heq
    exact Value.isFinite_number_iff.mpr (readNumber_gives hread)

theorem readField_gives {room steps : ℕ} (h : Gives Value.IsFinite (readValue room steps)) :
    Gives (fun field => field.2.IsFinite) (readField room steps) := by
  intro c field c' hread
  obtain ⟨key, -, hbehind⟩ := bind_eq_ok.mp hread
  obtain ⟨colon, -, hmap⟩ := bind_eq_ok.mp hbehind
  obtain ⟨⟨value, _⟩, hvalue, heq⟩ := map_eq_ok hmap
  cases heq
  exact h hvalue

theorem valueAt_gives {steps : ℕ}
    (hitems : ∀ room more, Gives (fun items => ∀ item ∈ items, item.IsFinite)
      (readItems room steps more))
    (hfields : ∀ room more, Gives Fields.IsFinite (readFields room steps more)) (room : ℕ) :
    Gives Value.IsFinite (valueAt room steps) := by
  intro c value c' h
  unfold valueAt at h
  split at h
  case h_1 | h_2 => cases h
  case h_3 =>
    obtain ⟨⟨items, _⟩, hread, heq⟩ := map_eq_ok h
    cases heq
    exact Value.isFinite_array_iff.mpr (hitems _ _ hread)
  case h_4 =>
    obtain ⟨⟨fields, _⟩, hread, heq⟩ := map_eq_ok h
    cases heq
    exact Value.isFinite_object_iff.mpr (hfields _ _ hread)
  case h_5 => exact readScalar_gives h

theorem value_gives (steps : ℕ) :
    (∀ room, Gives Value.IsFinite (readValue room steps)) ∧
      (∀ room more, Gives (fun items => ∀ item ∈ items, item.IsFinite)
        (readItems room steps more)) ∧
      ∀ room more, Gives Fields.IsFinite (readFields room steps more) := by
  induction steps with
  | zero =>
    refine ⟨fun room c value c' h => ?_, fun room more c items c' h => ?_,
      fun room more c fields c' h => ?_⟩
    · rw [readValue] at h
      cases h
    · rw [readItems] at h
      cases h
    · rw [readFields] at h
      cases h
  | succ steps ih =>
    obtain ⟨hvalue, hitems, hfields⟩ := ih
    refine ⟨fun room => ?_, fun room more => ?_, fun room more => ?_⟩
    · intro c value c' h
      rw [readValue_succ] at h
      exact valueAt_gives hitems hfields room h
    · rw [funext (readItems_succ room steps more)]
      exact list_gives (hvalue room) (hitems room nextItem)
    · rw [funext (readFields_succ room steps more)]
      exact list_gives (readField_gives (hvalue room)) (hfields room nextField)

/-- A document has finite numbers only. -/
theorem parse_isFinite {text : String} {document : Value} (h : parse text = .ok document) :
    document.IsFinite := by
  obtain ⟨value, hwritten, rfl⟩ := map_eq_ok h
  obtain ⟨⟨value', c⟩, hread, hend⟩ := bind_eq_ok.mp hwritten
  obtain ⟨_, -, heq⟩ := bind_eq_ok.mp hend
  cases heq
  exact Value.sorted_isFinite ((value_gives _).1 _ hread)

end Json
end AgentCanvas
