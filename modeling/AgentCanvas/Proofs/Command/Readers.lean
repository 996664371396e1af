import AgentCanvas.Command.Basic
import AgentCanvas.Proofs.Element.Decoding
import AgentCanvas.Proofs.Json.Fields

set_option autoImplicit false

namespace AgentCanvas.Command

open Json

def wire (command : Command) : Value :=
  Value.ofFields command.fields

theorem keys_nodup (command : Command) : (command.fields.map Prod.fst).Nodup := by
  obtain ⟨verb, _ | type, _ | id, _ | params⟩ := command <;> simp [fields, present]

theorem get?_wire (command : Command) (key : String) :
    (Fields.overlay [] command.fields).get? key = command.fields.get? key := by
  rw [Fields.get?_overlay command.keys_nodup]
  exact Option.or_none

/-- A command is written with its fields in another order, which a document does not keep. -/
theorem sorted_json (command : Command)
    (h : ∀ params ∈ command.params, Value.sorted (.object params) = .object params) :
    command.json.sorted = command.wire := by
  have hfields : ∀ field ∈ command.fields, field.2.sorted = field.2 := by
    obtain ⟨verb, type, id, params⟩ := command
    simp only [fields, List.cons_append, List.mem_cons, List.mem_append]
    rintro field (rfl | (hfield | hfield) | hfield)
    · rfl
    · cases type with
      | none => cases hfield
      | some type => rw [List.mem_singleton.mp hfield]; rfl
    · cases id with
      | none => cases hfield
      | some id => rw [List.mem_singleton.mp hfield]; rfl
    · cases params with
      | none => cases hfield
      | some params => rw [List.mem_singleton.mp hfield]; exact h params rfl
  rw [json, Value.sorted, Value.sortedFields_of_sorted hfields]
  rfl

variable {c : Command} {fields : Fields}

/-- What the slots of a command hold, in declared order. -/
def contents (c : Command) : List Slot.Content :=
  [.text c.verb, .optionalText c.elementType, .optionalText c.elementId, .optionalObject c.params]

/-- Every slot of a record reads as what the command has there. -/
def ReadsFrom (c : Command) (fields : Fields) : Prop :=
  List.Forall₂ (fun slot content => slot.contentIn fields = .ok content) slots c.contents

theorem readsFrom_iff : c.ReadsFrom fields ↔
    fields.required "command" Value.asString = .ok c.verb ∧
      fields.optional "elementType" Value.asString = .ok c.elementType ∧
      fields.optional "elementId" Value.asString = .ok c.elementId ∧
      fields.optional "params" Value.asObject = .ok c.params := by
  simp [ReadsFrom, slots, contents]

theorem readsFrom_of_ofJson (h : ofJson (.object fields) = .ok c) : c.ReadsFrom fields := by
  simp only [ofJson, ofSlots, bind_eq_ok] at h
  obtain ⟨_, _, verb, hverb, type, htype, id, hid, params, hparams, h⟩ := h
  cases h
  exact readsFrom_iff.mpr ⟨hverb, htype, hid, hparams⟩

theorem ReadsFrom.ofJson (h : c.ReadsFrom fields) (hkeys : (fields.map Prod.fst).Nodup) :
    ofJson (.object fields) = .ok c := by
  obtain ⟨hverb, htype, hid, hparams⟩ := readsFrom_iff.mp h
  rw [Command.ofJson, Slot.checkAll_of_contents hkeys h]
  simp [ofSlots, hverb, htype, hid, hparams, bind, Except.bind, pure, Except.pure]

theorem optional_cases {α : Type} {read : Value → Except Mismatch α} (hnull : ∀ a, read .null ≠ .ok a)
    {key : String} {found : Option α} (h : fields.optional key read = .ok found) :
    (fields.get? key = none ∧ found = none) ∨ (fields.get? key = some .null ∧ found = none) ∨
      ∃ value a, fields.get? key = some value ∧ read value = .ok a ∧ found = some a := by
  unfold Fields.optional at h
  cases hget : fields.get? key with
  | none =>
    rw [hget] at h
    exact .inl ⟨rfl, (Except.ok.inj h).symm⟩
  | some value =>
    rw [hget] at h
    obtain ⟨rfl, rfl⟩ | ⟨a, ha, rfl⟩ := (Value.asOptional_ok_iff read hnull).mp h
    · exact .inr (.inl ⟨rfl, rfl⟩)
    · exact .inr (.inr ⟨value, a, rfl, ha, rfl⟩)

theorem scalarText?_of_required {key text : String}
    (h : fields.required key Value.asString = .ok text) :
    (fields.get? key).bind scalarText? = some text := by
  unfold Fields.required at h
  cases hget : fields.get? key with
  | none =>
    rw [hget] at h
    cases h
  | some value =>
    rw [hget] at h
    rw [Value.asString_ok_iff.mp h]
    rfl

theorem scalarText?_of_optional {key : String} {text : Option String}
    (h : fields.optional key Value.asString = .ok text) :
    (fields.get? key).bind scalarText? = text := by
  obtain ⟨hget, rfl⟩ | ⟨hget, rfl⟩ | ⟨value, text, hget, hread, rfl⟩ := optional_cases nofun h
  · rw [hget]
    rfl
  · rw [hget]
    rfl
  · rw [hget, Value.asString_ok_iff.mp hread]
    rfl

theorem objectField?_of_optional {key : String} {params : Option Fields}
    (h : fields.optional key Value.asObject = .ok params) : objectField? fields key = params := by
  unfold objectField?
  obtain ⟨hget, rfl⟩ | ⟨hget, rfl⟩ | ⟨value, params, hget, hread, rfl⟩ := optional_cases nofun h
  · rw [hget]
  · rw [hget]
  · rw [hget, Value.asObject_ok_iff.mp hread]

theorem ReadsFrom.ofBlock (h : c.ReadsFrom fields) : ofBlock (.object fields) = .ok c := by
  obtain ⟨hverb, htype, hid, hparams⟩ := readsFrom_iff.mp h
  simp only [Command.ofBlock, ofBlockFields, scalarText?_of_required hverb,
    scalarText?_of_optional htype, scalarText?_of_optional hid, objectField?_of_optional hparams]

theorem readsFrom_written (h : ∀ key, fields.get? key = c.fields.get? key) :
    c.ReadsFrom fields := by
  rw [readsFrom_iff]
  unfold Fields.required Fields.optional
  simp only [h]
  obtain ⟨verb, _ | type, _ | id, _ | params⟩ := c <;>
    simp [Command.fields, present, Fields.get?, Value.asString, Value.asObject, Value.asOptional,
      Except.map]

/-- Both readers get a command back from its fields, in whatever order these stand. -/
theorem read_written (h : fields.Perm c.fields) :
    ofJson (.object fields) = .ok c ∧ ofBlock (.object fields) = .ok c := by
  have hread : c.ReadsFrom fields := readsFrom_written (Fields.get?_perm h c.keys_nodup)
  exact ⟨hread.ofJson ((h.map Prod.fst).nodup_iff.mpr c.keys_nodup), hread.ofBlock⟩

theorem ofJson_wire (c : Command) : ofJson c.wire = .ok c :=
  (readsFrom_written c.get?_wire).ofJson (Fields.ascending_nil.overlay c.fields).nodup

theorem ofBlock_wire (c : Command) : ofBlock c.wire = .ok c :=
  (readsFrom_written c.get?_wire).ofBlock

/-- Of an object, the lenient reader gives every command that the strict one gives. Both get every
    command back from a document with its fields, empty parameters apart from none. And whatever the
    lenient reader has made of a value, the document of that command is read as the same command by
    both. -/
theorem readers_agree :
    (∀ fields c, ofJson (.object fields) = .ok c → ofBlock (.object fields) = .ok c) ∧
    (∀ (c : Command) (fields : Fields), fields.Perm c.fields →
      ofJson (.object fields) = .ok c ∧ ofBlock (.object fields) = .ok c) ∧
    ∀ value c, ofBlock value = .ok c → ofJson c.wire = .ok c ∧ ofBlock c.wire = .ok c :=
  ⟨fun _ _ h => (readsFrom_of_ofJson h).ofBlock, fun _ _ h => read_written h,
    fun _ c _ => ⟨c.ofJson_wire, c.ofBlock_wire⟩⟩

/-- A record with a null, empty parameters and a key of no meaning is read by both. One with a number
    for an id is read by the lenient reader alone. -/
theorem number_becomes_an_id :
    let strict : Fields :=
      [("command", .string "create"), ("elementId", .null), ("params", .object []), ("x", .null)]
    let lenient : Fields :=
      [("command", .string "select"), ("elementId", .number (.int 42)), ("params", .array [])]
    let select : Command := ⟨"select", none, some "42", none⟩
    ofJson (.object strict) = .ok ⟨"create", none, none, some []⟩ ∧
      ofBlock (.object strict) = .ok ⟨"create", none, none, some []⟩ ∧
      (ofJson (.object lenient)).isOk = false ∧ ofBlock (.object lenient) = .ok select ∧
      select.fields.reverse.Perm select.fields ∧
      ofJson (.object select.fields.reverse) = .ok select ∧ ofJson select.wire = .ok select := by
  intro strict lenient select
  obtain ⟨hstrict, hwritten, hlenient⟩ := readers_agree
  have hcreate : ofJson (.object strict) = .ok ⟨"create", none, none, some []⟩ := by rfl
  have hselect : ofBlock (.object lenient) = .ok select := by rfl
  have hfields := List.reverse_perm select.fields
  exact ⟨hcreate, hstrict strict _ hcreate, by rfl, hselect, hfields,
    (hwritten select _ hfields).1, (hlenient _ select hselect).1⟩

end AgentCanvas.Command
