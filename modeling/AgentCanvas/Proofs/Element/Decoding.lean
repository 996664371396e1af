import AgentCanvas.Proofs.Element.Contents

set_option autoImplicit false

namespace AgentCanvas

open Json

inductive Vec3.Decodes : Value → Vec3 → Prop where
  | mk (x y z : Number) :
    Decodes (.array [.number x, .number y, .number z]) ⟨x.toDouble, y.toDouble, z.toDouble⟩

/-- What a value stands for in a field of a type. A value that does not fit stands for nothing. -/
inductive SlotType.Decodes : SlotType → Value → Slot.Content → Prop where
  | number (n : Number) : Decodes .number (.number n) (.number n.toDouble)
  | flag (b : Bool) : Decodes .flag (.bool b) (.flag b)
  | text (s : String) : Decodes .text (.string s) (.text s)
  | vector (excess : Vec3.Excess) {value : Value} {v : Vec3} (h : Vec3.Decodes value v) :
    Decodes (.vector excess) value (.vector v)
  | points {items : List Value} {vectors : List Vec3}
    (h : List.Forall₂ (fun item v => Vec3.Decodes item v) items vectors) :
    Decodes .points (.array items) (.points vectors)
  | noNumber : Decodes .optionalNumber .null (.optionalNumber none)
  | someNumber (n : Number) :
    Decodes .optionalNumber (.number n) (.optionalNumber (some n.toDouble))
  | noText : Decodes .optionalText .null (.optionalText none)
  | someText (s : String) : Decodes .optionalText (.string s) (.optionalText (some s))
  | noObject : Decodes .optionalObject .null (.optionalObject none)
  | someObject (fields : Fields) :
    Decodes .optionalObject (.object fields) (.optionalObject (some fields))

def SlotType.Fits (type : SlotType) (value : Value) : Prop :=
  ∃ content, type.Decodes value content

namespace Json.Value

variable {value : Value}

theorem asDouble_ok_iff {x : Double} :
    value.asDouble = .ok x ↔ ∃ n, value = .number n ∧ n.toDouble = x := by
  cases value <;> simp [asDouble]

theorem asBool_ok_iff {b : Bool} : value.asBool = .ok b ↔ value = .bool b := by
  cases value <;> simp [asBool]

theorem asString_ok_iff {s : String} : value.asString = .ok s ↔ value = .string s := by
  cases value <;> simp [asString]

theorem asObject_ok_iff {fields : Fields} : value.asObject = .ok fields ↔ value = .object fields := by
  cases value <;> simp [asObject]

theorem asOptional_ok_iff {α : Type} (read : Value → Except Mismatch α)
    (hnull : ∀ a, read .null ≠ .ok a) {found : Option α} :
    value.asOptional read = .ok found ↔
      value = .null ∧ found = none ∨ ∃ a, read value = .ok a ∧ found = some a := by
  have hsome : (read value).map some = .ok found ↔ ∃ a, read value = .ok a ∧ found = some a := by
    cases read value <;> simp [Except.map, eq_comm]
  cases value with
  | null => simp [asOptional, hnull, eq_comm]
  | bool | number | string | array | object => simpa [asOptional] using hsome

end Json.Value

namespace Vec3

theorem ofJson_ok_iff {excess : Excess} {value : Value} {v : Vec3} :
    ofJson excess value = .ok v ↔ Decodes value v := by
  constructor
  case mp =>
    intro h
    cases value with
    | array items =>
      match items with
      | [] => cases h
      | [x] =>
        obtain ⟨_, _, h⟩ := bind_eq_ok.mp h
        cases h
      | [x, y] =>
        obtain ⟨_, _, h⟩ := bind_eq_ok.mp h
        obtain ⟨_, _, h⟩ := bind_eq_ok.mp h
        cases h
      | x :: y :: z :: rest =>
        simp only [ofJson, ofItems, bind_eq_ok, Value.asDouble_ok_iff] at h
        obtain ⟨_, ⟨a, rfl, rfl⟩, _, ⟨b, rfl, rfl⟩, _, ⟨c, rfl, rfl⟩, h⟩ := h
        cases rest with
        | nil =>
          cases h
          exact .mk a b c
        | cons => cases h
    | null | bool | number | string | object => cases h
  case mpr =>
    rintro ⟨x, y, z⟩
    rfl

theorem listOfJson_ok_iff {value : Value} {vectors : List Vec3} :
    listOfJson value = .ok vectors ↔ ∃ items, value = .array items ∧
      List.Forall₂ (fun item v => Decodes item v) items vectors := by
  cases value with
  | array items =>
    simp only [listOfJson, mapM_eq_ok, ofJson_ok_iff, Value.array.injEq, exists_eq_left']
  | null | bool | number | string | object => simp [listOfJson]

end Vec3

namespace SlotType

/-- A field is read exactly if its value fits, and as what the value stands for. -/
theorem read_ok_iff {type : SlotType} {value : Value} {content : Slot.Content} :
    type.read value = .ok content ↔ type.Decodes value content := by
  cases type with
  | number =>
    simp only [read, map_ok_iff, Value.asDouble_ok_iff]
    constructor
    · rintro ⟨_, ⟨n, rfl, rfl⟩, rfl⟩
      exact .number n
    · intro h
      cases h with
      | number n => exact ⟨_, ⟨n, rfl, rfl⟩, rfl⟩
  | flag =>
    simp only [read, map_ok_iff, Value.asBool_ok_iff]
    constructor
    · rintro ⟨b, rfl, rfl⟩
      exact .flag b
    · intro h
      cases h with
      | flag b => exact ⟨b, rfl, rfl⟩
  | text =>
    simp only [read, map_ok_iff, Value.asString_ok_iff]
    constructor
    · rintro ⟨s, rfl, rfl⟩
      exact .text s
    · intro h
      cases h with
      | text s => exact ⟨s, rfl, rfl⟩
  | vector excess =>
    simp only [read, map_ok_iff, Vec3.ofJson_ok_iff]
    constructor
    · rintro ⟨v, hv, rfl⟩
      exact .vector excess hv
    · intro h
      cases h with
      | vector _ hv => exact ⟨_, hv, rfl⟩
  | points =>
    simp only [read, map_ok_iff, Vec3.listOfJson_ok_iff]
    constructor
    · rintro ⟨vectors, ⟨items, rfl, h⟩, rfl⟩
      exact .points h
    · intro h
      cases h with
      | points h => exact ⟨_, ⟨_, rfl, h⟩, rfl⟩
  | optionalNumber =>
    simp only [read, map_ok_iff, Value.asOptional_ok_iff Value.asDouble nofun,
      Value.asDouble_ok_iff]
    constructor
    · rintro ⟨_, ⟨rfl, rfl⟩ | ⟨_, ⟨n, rfl, rfl⟩, rfl⟩, rfl⟩
      · exact .noNumber
      · exact .someNumber n
    · intro h
      cases h with
      | noNumber => exact ⟨none, .inl ⟨rfl, rfl⟩, rfl⟩
      | someNumber n => exact ⟨_, .inr ⟨_, ⟨n, rfl, rfl⟩, rfl⟩, rfl⟩
  | optionalText =>
    simp only [read, map_ok_iff, Value.asOptional_ok_iff Value.asString nofun,
      Value.asString_ok_iff]
    constructor
    · rintro ⟨_, ⟨rfl, rfl⟩ | ⟨s, rfl, rfl⟩, rfl⟩
      · exact .noText
      · exact .someText s
    · intro h
      cases h with
      | noText => exact ⟨none, .inl ⟨rfl, rfl⟩, rfl⟩
      | someText s => exact ⟨_, .inr ⟨s, rfl, rfl⟩, rfl⟩
  | optionalObject =>
    simp only [read, map_ok_iff, Value.asOptional_ok_iff Value.asObject nofun,
      Value.asObject_ok_iff]
    constructor
    · rintro ⟨_, ⟨rfl, rfl⟩ | ⟨fields, rfl, rfl⟩, rfl⟩
      · exact .noObject
      · exact .someObject fields
    · intro h
      cases h with
      | noObject => exact ⟨none, .inl ⟨rfl, rfl⟩, rfl⟩
      | someObject fields => exact ⟨_, .inr ⟨fields, rfl, rfl⟩, rfl⟩

end SlotType
end AgentCanvas
