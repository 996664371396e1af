import AgentCanvas.Proofs.Element.Documents
import AgentCanvas.Proofs.Element.Kinds
import AgentCanvas.Proofs.Text.OneLine

set_option autoImplicit false

namespace AgentCanvas

open Json

/-- A reader that either succeeds or complains on one line. -/
def ComplainsOnOneLine {α : Type} (reading : Except Mismatch α) : Prop :=
  ∀ why, reading = .error why → OneLine why.message

namespace ComplainsOnOneLine

variable {α β : Type}

theorem ok (a : α) : ComplainsOnOneLine (.ok a) := by
  rintro why ⟨⟩

theorem error {why : Mismatch} (h : OneLine why.message) :
    ComplainsOnOneLine (.error why : Except Mismatch α) := by
  rintro _ ⟨⟩
  exact h

theorem bind {reading : Except Mismatch α} {next : α → Except Mismatch β}
    (h : ComplainsOnOneLine reading) (hnext : ∀ a, ComplainsOnOneLine (next a)) :
    ComplainsOnOneLine (reading >>= next) := by
  cases reading with
  | error why => exact error (h why rfl)
  | ok a => exact hnext a

theorem map {reading : Except Mismatch α} (h : ComplainsOnOneLine reading) (f : α → β) :
    ComplainsOnOneLine (reading.map f) := by
  cases reading with
  | error why => exact error (h why rfl)
  | ok a => exact ok (f a)

end ComplainsOnOneLine

open ComplainsOnOneLine

namespace Json

theorem Value.oneLine_describe (value : Value) : OneLine value.describe := by
  have hquote : OneLine "`" := by decide
  cases value with
  | bool b => cases b <;> decide
  | number n =>
    cases n with
    | int n =>
      have hint : OneLine "integer `" := by decide
      exact (hint.append (OneLine.toString_int n)).append hquote
    | real x =>
      have hreal : OneLine "floating point `" := by decide
      exact (hreal.append (OneLine.of_numeric (Number.numeric_text (.real x)))).append hquote
  | string text =>
    have hstring : OneLine "string " := by decide
    exact hstring.append (Text.oneLine_quoted text)
  | null => decide
  | array items => exact (by decide : OneLine "sequence")
  | object fields => exact (by decide : OneLine "map")

namespace Mismatch

theorem wrongType_oneLine (value : Value) {expected : String} (h : OneLine expected) :
    OneLine (wrongType value expected).message := by
  have hinvalid : OneLine "invalid type: " := by decide
  have hexpected : OneLine ", expected " := by decide
  exact ((hinvalid.append value.oneLine_describe).append hexpected).append h

theorem wrongLength_oneLine (length : Nat) {expected : String} (h : OneLine expected) :
    OneLine (wrongLength length expected).message := by
  have hinvalid : OneLine "invalid length " := by decide
  have hexpected : OneLine ", expected " := by decide
  exact ((hinvalid.append (OneLine.toString_nat length)).append hexpected).append h

theorem backquoted_oneLine {text : String} (h : OneLine text) : OneLine (backquoted text) := by
  have hquote : OneLine "`" := by decide
  exact (hquote.append h).append hquote

theorem missingField_oneLine {key : String} (h : OneLine key) :
    OneLine (missingField key).message := by
  have hmissing : OneLine "missing field " := by decide
  exact hmissing.append (backquoted_oneLine h)

theorem duplicateField_oneLine {key : String} (h : OneLine key) :
    OneLine (duplicateField key).message := by
  have hduplicate : OneLine "duplicate field " := by decide
  exact hduplicate.append (backquoted_oneLine h)

end Mismatch

namespace Value

theorem asDouble_oneLine (value : Value) : ComplainsOnOneLine value.asDouble := by
  unfold asDouble
  split
  · exact ok _
  · exact error (Mismatch.wrongType_oneLine _ (by decide))

theorem asBool_oneLine (value : Value) : ComplainsOnOneLine value.asBool := by
  unfold asBool
  split
  · exact ok _
  · exact error (Mismatch.wrongType_oneLine _ (by decide))

theorem asString_oneLine (value : Value) : ComplainsOnOneLine value.asString := by
  unfold asString
  split
  · exact ok _
  · exact error (Mismatch.wrongType_oneLine _ (by decide))

theorem asObject_oneLine (value : Value) : ComplainsOnOneLine value.asObject := by
  unfold asObject
  split
  · exact ok _
  · exact error (Mismatch.wrongType_oneLine _ (by decide))

theorem asOptional_oneLine {α : Type} {read : Value → Except Mismatch α}
    (h : ∀ value, ComplainsOnOneLine (read value)) (value : Value) :
    ComplainsOnOneLine (value.asOptional read) := by
  unfold asOptional
  split
  · exact ok _
  · exact (h value).map _

end Value

theorem Fields.required_oneLine {α : Type} {read : Value → Except Mismatch α}
    (h : ∀ value, ComplainsOnOneLine (read value)) {key : String} (hkey : OneLine key)
    (fields : Fields) : ComplainsOnOneLine (fields.required key read) := by
  unfold required
  split
  · exact h _
  · exact error (Mismatch.missingField_oneLine hkey)

theorem Fields.optional_oneLine {α : Type} {read : Value → Except Mismatch α}
    (h : ∀ value, ComplainsOnOneLine (read value)) (key : String) (fields : Fields) :
    ComplainsOnOneLine (fields.optional key read) := by
  unfold optional
  split
  · exact Value.asOptional_oneLine h _
  · exact ok _

end Json

namespace Vec3

theorem ofItems_oneLine (excess : Excess) (items : List Value) :
    ComplainsOnOneLine (ofItems excess items) := by
  have hshort : ∀ length, OneLine (tooShort length).message := fun length =>
    Mismatch.wrongLength_oneLine length (by decide)
  unfold ofItems
  split
  · exact error (hshort 0)
  · exact bind (Value.asDouble_oneLine _) fun _ => error (hshort 1)
  · refine bind (Value.asDouble_oneLine _) fun _ => ?_
    exact bind (Value.asDouble_oneLine _) fun _ => error (hshort 2)
  · refine bind (Value.asDouble_oneLine _) fun _ => ?_
    refine bind (Value.asDouble_oneLine _) fun _ => ?_
    refine bind (Value.asDouble_oneLine _) fun _ => ?_
    split_ifs
    · exact ok _
    · exact error (Mismatch.wrongLength_oneLine _ (by cases excess <;> decide))

theorem ofJson_oneLine (excess : Excess) (value : Value) :
    ComplainsOnOneLine (ofJson excess value) := by
  unfold ofJson
  split
  · exact ofItems_oneLine _ _
  · exact error (Mismatch.wrongType_oneLine _ (by decide))

theorem listOfJson_oneLine (value : Value) : ComplainsOnOneLine (listOfJson value) := by
  unfold listOfJson
  split
  case h_1 items =>
    induction items with
    | nil => exact ok _
    | cons item items ih =>
      rw [List.mapM_cons]
      exact bind (ofJson_oneLine _ _) fun _ => bind ih fun _ => ok _
  case h_2 => exact error (Mismatch.wrongType_oneLine _ (by decide))

end Vec3

namespace Slot

theorem check_oneLine (slot : Slot) (value : Value) : ComplainsOnOneLine (slot.check value) := by
  unfold check
  split
  · exact (Value.asDouble_oneLine _).map _
  · exact (Value.asBool_oneLine _).map _
  · exact (Value.asString_oneLine _).map _
  · exact (Vec3.ofJson_oneLine _ _).map _
  · exact (Vec3.listOfJson_oneLine _).map _
  · exact (Value.asOptional_oneLine Value.asDouble_oneLine _).map _
  · exact (Value.asOptional_oneLine Value.asString_oneLine _).map _
  · exact (Value.asOptional_oneLine Value.asObject_oneLine _).map _

theorem checkAll_oneLine {slots : List Slot} (h : ∀ slot ∈ slots, OneLine slot.key)
    (fields : Fields) : ComplainsOnOneLine (checkAll slots fields) := by
  have hpresent : ∀ seen fields, ComplainsOnOneLine (checkPresent slots seen fields) := by
    intro seen fields
    induction fields generalizing seen with
    | nil => exact ok _
    | cons field fields ih =>
      unfold checkPresent
      cases hfind : slots.find? fun slot => slot.key == field.1 with
      | none => exact ih seen
      | some slot =>
        have hkey : slot.key = field.1 := by simpa using List.find?_some hfind
        have hline := h slot (List.mem_of_find?_eq_some hfind)
        rw [hkey] at hline
        simp only
        split_ifs
        · exact error (Mismatch.duplicateField_oneLine hline)
        · exact bind (check_oneLine _ _) fun _ => ih _
  have hmissing : ∀ rest : List Slot, (∀ slot ∈ rest, OneLine slot.key) →
      ComplainsOnOneLine (checkMissing fields rest) := by
    intro rest hrest
    induction rest with
    | nil => exact ok _
    | cons slot rest ih =>
      obtain ⟨hslot, hothers⟩ := List.forall_mem_cons.mp hrest
      unfold checkMissing
      split_ifs
      · exact ih hothers
      · exact error (Mismatch.missingField_oneLine hslot)
  exact bind (hpresent _ _) fun _ => hmissing _ h

end Slot

theorem ElementKind.keys_oneLine (kind : ElementKind) : ∀ slot ∈ kind.slots, OneLine slot.key := by
  cases kind <;> simp only [slots, List.forall_mem_cons] <;> decide

theorem Shape.ofOwnFields_oneLine (kind : ElementKind) (fields : Fields) :
    ComplainsOnOneLine (ofOwnFields kind fields) := by
  have hnumber : ∀ {key : String}, OneLine key →
      ComplainsOnOneLine (fields.required key Value.asDouble) := fun hkey =>
    Fields.required_oneLine Value.asDouble_oneLine hkey fields
  have hstring : ∀ {key : String}, OneLine key →
      ComplainsOnOneLine (fields.required key Value.asString) := fun hkey =>
    Fields.required_oneLine Value.asString_oneLine hkey fields
  have hflag : ComplainsOnOneLine (fields.required "filled" Value.asBool) :=
    Fields.required_oneLine Value.asBool_oneLine (by decide) fields
  have hpoints : ComplainsOnOneLine (fields.required "points" Vec3.listOfJson) :=
    Fields.required_oneLine Vec3.listOfJson_oneLine (by decide) fields
  unfold ofOwnFields
  refine bind (Slot.checkAll_oneLine kind.keys_oneLine fields) fun _ => ?_
  cases kind with
  | circle =>
    refine bind (hnumber (by decide)) fun _ => ?_
    refine bind (Fields.optional_oneLine Value.asDouble_oneLine _ _) fun _ => ?_
    exact bind hflag fun _ => bind (hnumber (by decide)) fun _ => ok _
  | rectangle =>
    refine bind (hnumber (by decide)) fun _ => bind (hnumber (by decide)) fun _ => ?_
    exact bind hflag fun _ => bind (hnumber (by decide)) fun _ => ok _
  | line => exact bind hpoints fun _ => bind (hnumber (by decide)) fun _ => ok _
  | polygon =>
    exact bind hpoints fun _ => bind hflag fun _ => bind (hnumber (by decide)) fun _ => ok _
  | text =>
    refine bind (hstring (by decide)) fun _ => bind (hnumber (by decide)) fun _ => ?_
    exact bind (Fields.optional_oneLine Value.asString_oneLine _ _) fun _ => ok _
  | image =>
    refine bind (hstring (by decide)) fun _ => bind (hnumber (by decide)) fun _ => ?_
    exact bind (hnumber (by decide)) fun _ => ok _

namespace ElementProps

theorem ofFields_oneLine {excess : Vec3.Excess} {fields : Fields} {kind : ElementKind}
    (hkeys : (fields.map Prod.fst).Nodup) (htype : fields.get? "type" = some kind.json) :
    ComplainsOnOneLine (ofFields excess fields) := by
  have hshape : ComplainsOnOneLine (Shape.ofFields fields) := by
    rw [Shape.ofFields, Shape.tag_ok hkeys htype kind.ofTagOrIndex_json]
    exact Shape.ofOwnFields_oneLine kind fields
  have hvector : ∀ {key : String}, OneLine key →
      ComplainsOnOneLine (fields.required key (Vec3.ofJson excess)) := fun hkey =>
    Fields.required_oneLine (Vec3.ofJson_oneLine excess) hkey fields
  have hslots : ∀ slot ∈ commonSlots excess, OneLine slot.key := by
    simp only [commonSlots, List.forall_mem_cons]
    decide
  unfold ofFields
  refine bind (Slot.checkAll_oneLine hslots fields) fun _ => bind hshape fun _ => ?_
  refine bind (hvector (by decide)) fun _ => bind (hvector (by decide)) fun _ => ?_
  refine bind (hvector (by decide)) fun _ => ?_
  refine bind (Fields.required_oneLine Value.asString_oneLine (by decide) fields) fun _ => ?_
  exact bind (Fields.required_oneLine Value.asDouble_oneLine (by decide) fields) fun _ => ok _

/-- Whatever a patch sets, what does not fit is told on one line. -/
theorem merged_oneLine (props : ElementProps) (patch : Fields) :
    ComplainsOnOneLine (props.merged patch) := by
  have hascending : (props.patched patch).Ascending :=
    (Fields.ascending_nil.overlay _).overlay _
  exact ofFields_oneLine hascending.nodup (props.patched_type patch)

theorem ofParams_oneLine (kind : ElementKind) (params : Option Fields) :
    ComplainsOnOneLine (ofParams kind params) := by
  cases params with
  | none => exact ok _
  | some params => exact merged_oneLine _ _

end ElementProps
end AgentCanvas
