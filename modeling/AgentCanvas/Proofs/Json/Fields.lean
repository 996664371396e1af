import AgentCanvas.Json.Mismatch
import Mathlib.Data.List.Forall2
import Mathlib.Data.String.Basic

set_option autoImplicit false

namespace AgentCanvas.Json

namespace Value

mutual

def equal : Value → Value → Bool
  | .null, .null => true
  | .bool a, .bool b => decide (a = b)
  | .number a, .number b => decide (a = b)
  | .string a, .string b => decide (a = b)
  | .array xs, .array ys => equalItems xs ys
  | .object xs, .object ys => equalFields xs ys
  | _, _ => false

def equalItems : List Value → List Value → Bool
  | [], [] => true
  | x :: xs, y :: ys => x.equal y && equalItems xs ys
  | _, _ => false

def equalFields : List (String × Value) → List (String × Value) → Bool
  | [], [] => true
  | (j, x) :: xs, (k, y) :: ys => decide (j = k) && x.equal y && equalFields xs ys
  | _, _ => false

end

mutual

theorem equal_iff : ∀ a b : Value, a.equal b = true ↔ a = b
  | .null, b => by cases b <;> simp [equal]
  | .bool a, b => by cases b <;> simp [equal]
  | .number a, b => by cases b <;> simp [equal]
  | .string a, b => by cases b <;> simp [equal]
  | .array xs, b => by
    cases b with
    | array ys => rw [equal, equalItems_iff xs ys, Value.array.injEq]
    | _ => simp [equal]
  | .object xs, b => by
    cases b with
    | object ys => rw [equal, equalFields_iff xs ys, Value.object.injEq]
    | _ => simp [equal]

theorem equalItems_iff : ∀ xs ys : List Value, equalItems xs ys = true ↔ xs = ys
  | [], ys => by cases ys <;> simp [equalItems]
  | x :: xs, ys => by
    cases ys with
    | nil => simp [equalItems]
    | cons y ys =>
      rw [equalItems, Bool.and_eq_true, equal_iff x y, equalItems_iff xs ys, List.cons.injEq]

theorem equalFields_iff : ∀ xs ys : List (String × Value), equalFields xs ys = true ↔ xs = ys
  | [], ys => by cases ys <;> simp [equalFields]
  | (j, x) :: xs, ys => by
    cases ys with
    | nil => simp [equalFields]
    | cons field ys =>
      obtain ⟨k, y⟩ := field
      rw [equalFields, Bool.and_eq_true, Bool.and_eq_true, decide_eq_true_iff, equal_iff x y,
        equalFields_iff xs ys, List.cons.injEq, Prod.mk.injEq]

end

instance : DecidableEq Value := fun a b => decidable_of_iff (a.equal b = true) (equal_iff a b)

end Value

theorem bind_eq_ok {ε α β : Type} {x : Except ε α} {f : α → Except ε β} {b : β} :
    (x >>= f) = .ok b ↔ ∃ a, x = .ok a ∧ f a = .ok b := by
  cases x with
  | error e => simp [bind, Except.bind]
  | ok a => simp [bind, Except.bind]

theorem mapM_eq_ok {ε α β : Type} {f : α → Except ε β} {xs : List α} {ys : List β} :
    xs.mapM f = .ok ys ↔ List.Forall₂ (fun x y => f x = .ok y) xs ys := by
  induction xs generalizing ys with
  | nil => simp [eq_comm, pure, Except.pure]
  | cons x xs ih =>
    simp only [List.mapM_cons, bind_eq_ok, ih, List.forall₂_cons_left_iff]
    constructor
    · rintro ⟨y, hy, rest, hrest, h⟩
      cases h
      exact ⟨y, rest, hy, hrest, rfl⟩
    · rintro ⟨y, rest, hy, hrest, rfl⟩
      exact ⟨y, hy, rest, hrest, rfl⟩

theorem eq_ok_of_toOption {ε α : Type} {x : Except ε α} {a : α} (h : x.toOption = some a) :
    x = .ok a := by
  cases x with
  | error e => cases h
  | ok b => exact congrArg Except.ok (Option.some.inj h)

namespace Fields

theorem get?_cons (k key : String) (value : Value) (fields : Fields) :
    get? ((k, value) :: fields) key = if k = key then some value else fields.get? key := by
  by_cases h : k = key
  · simp [get?, h]
  · simp [get?, h]

theorem get?_put_self (key : String) (value : Value) (fields : Fields) :
    (put key value fields).get? key = some value := by
  induction fields with
  | nil => simp [put, get?_cons]
  | cons field fields ih =>
    obtain ⟨k, v⟩ := field
    unfold put
    by_cases hlt : key < k
    · simp [hlt, get?_cons]
    · by_cases heq : key = k
      · simp [heq, get?_cons]
      · simp [hlt, heq, get?_cons, Ne.symm heq, ih]

theorem get?_put_of_ne {key other : String} (h : other ≠ key) (value : Value) (fields : Fields) :
    (put key value fields).get? other = fields.get? other := by
  induction fields with
  | nil => simp [put, get?_cons, Ne.symm h]
  | cons field fields ih =>
    obtain ⟨k, v⟩ := field
    unfold put
    by_cases hlt : key < k
    · simp [hlt, get?_cons, Ne.symm h]
    · by_cases heq : key = k
      · subst heq
        simp [get?_cons, Ne.symm h]
      · simp [hlt, heq, get?_cons, ih]

theorem get?_overlay_of_get?_none {patch : Fields} {key : String} (h : patch.get? key = none)
    (fields : Fields) : (fields.overlay patch).get? key = fields.get? key := by
  induction patch generalizing fields with
  | nil => rfl
  | cons field patch ih =>
    obtain ⟨k, v⟩ := field
    rw [get?_cons] at h
    by_cases hk : k = key
    · simp [hk] at h
    · have hpatch : Fields.get? patch key = none := by simpa [hk] using h
      exact (ih hpatch (put k v fields)).trans (get?_put_of_ne (Ne.symm hk) v fields)

theorem get?_eq_none_of_not_mem {fields : Fields} {key : String}
    (h : key ∉ fields.map Prod.fst) : fields.get? key = none := by
  rw [get?, Option.map_eq_none_iff, List.find?_eq_none]
  intro field hfield hkey
  exact h (List.mem_map.mpr ⟨field, hfield, beq_iff_eq.mp hkey⟩)

theorem get?_overlay {patch : Fields} (h : (patch.map Prod.fst).Nodup) (fields : Fields)
    (key : String) : (fields.overlay patch).get? key = (patch.get? key).or (fields.get? key) := by
  induction patch generalizing fields with
  | nil => rfl
  | cons field patch ih =>
    obtain ⟨k, v⟩ := field
    obtain ⟨hk, hpatch⟩ := List.nodup_cons.mp h
    change ((put k v fields).overlay patch).get? key = _
    rw [ih hpatch, get?_cons]
    by_cases hkey : k = key
    · subst hkey
      rw [get?_eq_none_of_not_mem hk, get?_put_self, if_pos rfl]
      rfl
    · rw [get?_put_of_ne (Ne.symm hkey), if_neg hkey]

/-- A key has what a patch says of it last, or else what it had. -/
theorem get?_overlay_eq_or (fields patch : Fields) (key : String) :
    (fields.overlay patch).get? key = ((overlay [] patch).get? key).or (fields.get? key) := by
  induction patch generalizing fields with
  | nil => rfl
  | cons field patch ih =>
    obtain ⟨k, v⟩ := field
    change ((put k v fields).overlay patch).get? key =
      ((overlay (put k v []) patch).get? key).or (fields.get? key)
    rw [ih, ih (put k v []), Option.or_assoc]
    by_cases hkey : k = key
    · subst hkey
      rw [get?_put_self, get?_put_self, Option.some_or]
    · rw [get?_put_of_ne (Ne.symm hkey), get?_put_of_ne (Ne.symm hkey)]
      rfl

theorem get?_append (fields more : Fields) (key : String) :
    get? (fields ++ more) key = (fields.get? key).or (more.get? key) := by
  rw [get?, List.find?_append, Option.map_or]
  rfl

theorem get?_filter (keep : String → Bool) {key : String} (h : keep key = true)
    (fields : Fields) : get? (fields.filter fun field => keep field.1) key = fields.get? key := by
  rw [get?, get?, List.find?_filter]
  congr 2
  funext field
  by_cases hkey : field.1 = key
  · simp [hkey, h]
  · simp [hkey]

theorem get?_filter_of_not (keep : String → Bool) {key : String} (h : keep key = false)
    (fields : Fields) : get? (fields.filter fun field => keep field.1) key = none := by
  refine get?_eq_none_of_not_mem fun hmem => ?_
  obtain ⟨field, hfield, rfl⟩ := List.mem_map.mp hmem
  have hkeep := (List.mem_filter.mp hfield).2
  rw [h] at hkeep
  cases hkeep

/-- The last value of a key, the one that counts where a key is repeated. -/
def last? (fields : Fields) (key : String) : Option Value :=
  get? fields.reverse key

theorem last?_cons (k key : String) (value : Value) (fields : Fields) :
    last? ((k, value) :: fields) key =
      (fields.last? key).or (if k = key then some value else none) := by
  rw [last?, List.reverse_cons, get?_append, get?_cons]
  rfl

theorem last?_filter (keep : String → Bool) {key : String} (h : keep key = true)
    (fields : Fields) : last? (fields.filter fun field => keep field.1) key = fields.last? key := by
  rw [last?, ← List.filter_reverse, get?_filter keep h]
  rfl

theorem get?_overlay_last? (fields patch : Fields) (key : String) :
    (fields.overlay patch).get? key = (patch.last? key).or (fields.get? key) := by
  induction patch generalizing fields with
  | nil => rfl
  | cons field patch ih =>
    obtain ⟨k, v⟩ := field
    change ((put k v fields).overlay patch).get? key = _
    rw [ih, last?_cons, Option.or_assoc]
    by_cases hkey : k = key
    · subst hkey
      rw [get?_put_self, if_pos rfl, Option.some_or]
    · rw [get?_put_of_ne (Ne.symm hkey), if_neg hkey, Option.none_or]

theorem get?_of_mem {fields : Fields} (h : (fields.map Prod.fst).Nodup) {key : String}
    {value : Value} (hmem : (key, value) ∈ fields) : fields.get? key = some value := by
  induction fields with
  | nil => cases hmem
  | cons field fields ih =>
    obtain ⟨k, v⟩ := field
    obtain ⟨hk, hfields⟩ := List.nodup_cons.mp h
    rw [get?_cons]
    rcases List.mem_cons.mp hmem with heq | hmem
    · cases heq
      exact if_pos rfl
    · have hne : k ≠ key := by
        rintro rfl
        exact hk (List.mem_map.mpr ⟨_, hmem, rfl⟩)
      rw [if_neg hne]
      exact ih hfields hmem

theorem mem_of_get? {fields : Fields} {key : String} {value : Value}
    (h : fields.get? key = some value) : (key, value) ∈ fields := by
  obtain ⟨field, hfind, rfl⟩ := Option.map_eq_some_iff.mp h
  have hkey : field.1 = key := by simpa using List.find?_some hfind
  exact hkey ▸ List.mem_of_find?_eq_some hfind

theorem mem_of_last? {fields : Fields} {key : String} {value : Value}
    (h : fields.last? key = some value) : (key, value) ∈ fields :=
  List.mem_reverse.mp (mem_of_get? h)

theorem mem_iff_get? {fields : Fields} (h : (fields.map Prod.fst).Nodup) {key : String}
    {value : Value} : (key, value) ∈ fields ↔ fields.get? key = some value :=
  ⟨get?_of_mem h, mem_of_get?⟩

theorem get?_perm {fields other : Fields} (h : fields.Perm other)
    (hother : (other.map Prod.fst).Nodup) (key : String) : fields.get? key = other.get? key := by
  have hfields : (fields.map Prod.fst).Nodup := (h.map Prod.fst).nodup_iff.mpr hother
  ext value
  rw [← mem_iff_get? hfields, ← mem_iff_get? hother, h.mem_iff]

theorem last?_eq_get? {fields : Fields} (h : (fields.map Prod.fst).Nodup) (key : String) :
    fields.last? key = fields.get? key := by
  have hreverse : (fields.reverse.map Prod.fst).Nodup :=
    ((List.reverse_perm fields).map Prod.fst).nodup_iff.mpr h
  ext value
  rw [last?, ← mem_iff_get? hreverse, ← mem_iff_get? h, List.mem_reverse]

theorem last?_eq_none_of_not_mem {fields : Fields} {key : String}
    (h : key ∉ fields.map Prod.fst) : fields.last? key = none :=
  get?_eq_none_of_not_mem (by rwa [List.map_reverse, List.mem_reverse])

/-! ## Ascending keys -/

def Ascending (fields : Fields) : Prop :=
  fields.Pairwise fun a b => a.1 < b.1

theorem ascending_nil : Ascending [] :=
  List.Pairwise.nil

theorem Ascending.nodup {fields : Fields} (h : fields.Ascending) : (fields.map Prod.fst).Nodup :=
  List.pairwise_map.mpr (h.imp fun hlt => ne_of_lt hlt)

theorem mem_put {key : String} {value : Value} {fields : Fields} {field : String × Value}
    (h : field ∈ put key value fields) : field = (key, value) ∨ field ∈ fields := by
  induction fields with
  | nil => exact .inl (List.mem_singleton.mp h)
  | cons first rest ih =>
    obtain ⟨k, v⟩ := first
    unfold put at h
    split at h
    · exact List.mem_cons.mp h
    · split at h
      · exact (List.mem_cons.mp h).imp_right (List.mem_cons_of_mem _)
      · rcases List.mem_cons.mp h with rfl | h
        · exact .inr List.mem_cons_self
        · exact (ih h).imp_right (List.mem_cons_of_mem _)

theorem Ascending.put {fields : Fields} (h : fields.Ascending) (key : String) (value : Value) :
    (put key value fields).Ascending := by
  induction fields with
  | nil => exact List.pairwise_singleton _ _
  | cons first rest ih =>
    obtain ⟨k, v⟩ := first
    obtain ⟨hfirst, hrest⟩ := List.pairwise_cons.mp h
    unfold Fields.put
    by_cases hlt : key < k
    · rw [if_pos hlt]
      refine List.pairwise_cons.mpr ⟨fun field hfield => ?_, h⟩
      rcases List.mem_cons.mp hfield with rfl | hfield
      · exact hlt
      · exact lt_trans hlt (hfirst field hfield)
    · by_cases heq : key = k
      · subst heq
        rw [if_neg hlt, if_pos rfl]
        exact List.pairwise_cons.mpr ⟨hfirst, hrest⟩
      · rw [if_neg hlt, if_neg heq]
        refine List.pairwise_cons.mpr ⟨fun field hfield => ?_, ih hrest⟩
        rcases mem_put hfield with rfl | hfield
        · exact lt_of_le_of_ne (not_lt.mp hlt) (Ne.symm heq)
        · exact hfirst field hfield

theorem Ascending.overlay {fields : Fields} (h : fields.Ascending) (patch : Fields) :
    (fields.overlay patch).Ascending := by
  induction patch generalizing fields with
  | nil => exact h
  | cons field patch ih => exact ih (h.put field.1 field.2)

theorem Ascending.ext {first second : Fields} (hfirst : first.Ascending)
    (hsecond : second.Ascending) (h : ∀ key, first.get? key = second.get? key) :
    first = second := by
  have hnodup : ∀ {fields : Fields}, fields.Ascending → fields.Nodup :=
    fun hfields => hfields.imp fun hlt heq => absurd (congrArg Prod.fst heq) (ne_of_lt hlt)
  have hperm : first.Perm second := by
    refine (List.perm_ext_iff_of_nodup (hnodup hfirst) (hnodup hsecond)).mpr ?_
    rintro ⟨key, value⟩
    rw [mem_iff_get? hfirst.nodup, mem_iff_get? hsecond.nodup, h]
  exact hperm.eq_of_pairwise (fun a b _ _ hab hba => absurd hba (lt_asymm hab)) hfirst hsecond

theorem overlay_append (fields first second : Fields) :
    fields.overlay (first ++ second) = (fields.overlay first).overlay second :=
  List.foldl_append

end Fields

namespace Value

theorem sortedItems_eq_map (items : List Value) : sortedItems items = items.map sorted := by
  induction items with
  | nil => rfl
  | cons item items ih => rw [sortedItems, ih, List.map_cons]

theorem sortedFields_of_sorted {fields : Fields} (h : ∀ field ∈ fields, field.2.sorted = field.2)
    (done : Fields) : sortedFields done fields = done.overlay fields := by
  induction fields generalizing done with
  | nil => rfl
  | cons field fields ih =>
    obtain ⟨key, value⟩ := field
    have hvalue : value.sorted = value := h (key, value) List.mem_cons_self
    rw [sortedFields, hvalue, ih fun field hfield => h field (List.mem_cons_of_mem _ hfield)]
    rfl

end Value

end AgentCanvas.Json
