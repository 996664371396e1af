import AgentCanvas.Log.Event
import AgentCanvas.Log.Panic
import AgentCanvas.Proofs.Text.OneLine

set_option autoImplicit false

namespace AgentCanvas

namespace Event

def repeated : Event → List String
  | elementAdded id _ _ | elementUpdated id _ | updateMissed id | elementRemoved id _
  | removeMissed id => [id.text]
  | selectionChanged selected _ => (selected.map ElementId.text).toList
  | commandDone verb id => verb :: (id.map ElementId.text).toList
  | commandFailed verb error => [verb, error]
  | loggingStarted _ directory version => [directory, version]
  | panicCaptured location payload => [location, payload]
  | sceneCleared _ | messageParsed _ _ _ | blockInvalid _ | blockItemInvalid _
  | blockObjectInvalid | blockNotCommand | batchDone _ _ _ _ _ | programStarted => []

theorem unbroken_head {event module status : String} (hevent : Unbroken event)
    (hmodule : Unbroken module) (hstatus : Unbroken status) :
    Unbroken (head event module status) := by
  have hfirst : Unbroken "event=" := by decide
  have hsecond : Unbroken " module=" := by decide
  have hthird : Unbroken " status=" := by decide
  simp only [head, Unbroken.append_iff]
  exact ⟨⟨⟨⟨⟨hfirst, hevent⟩, hsecond⟩, hmodule⟩, hthird⟩, hstatus⟩

theorem unbroken_append_item_iff {text key value : String} (hkey : Unbroken key) :
    Unbroken (text ++ item key value) ↔ Unbroken text ∧ Unbroken value := by
  have hblank : Unbroken " " := by decide
  have hequals : Unbroken "=" := by decide
  simp only [item, Unbroken.append_iff, hkey, hblank, hequals, true_and]

theorem unbroken_kind_name (kind : ElementKind) : Unbroken kind.name := by
  cases kind <;> decide

theorem unbroken_level_name (level : LogLevel) : Unbroken level.name := by
  cases level <;> decide

theorem unbroken_idOr_iff {absent : String} (habsent : Unbroken absent) (id : Option ElementId) :
    Unbroken (idOr absent id) ↔ ∀ text ∈ (id.map ElementId.text).toList, Unbroken text := by
  cases id with
  | none => exact iff_of_true habsent nofun
  | some id => exact List.forall_mem_singleton.symm

theorem unbroken_known (known : Bool) : Unbroken (if known then "true" else "false") := by
  cases known <;> decide

theorem unbroken_text_iff (event : Event) :
    Unbroken event.text ↔ ∀ text ∈ event.repeated, Unbroken text := by
  cases event <;>
    simp (disch := decide) only [text, repeated, unbroken_append_item_iff, unbroken_head,
      unbroken_kind_name, unbroken_level_name, unbroken_idOr_iff, unbroken_known,
      Unbroken.toString_nat, List.forall_mem_cons, List.not_mem_nil, IsEmpty.forall_iff,
      implies_true, true_and, and_true]
  case blockInvalid | blockItemInvalid | blockObjectInvalid | blockNotCommand =>
    exact iff_of_true (by decide) trivial

end Event

variable {message : String} {limit : ℕ}

theorem map_flattenChar_of_unbroken (h : Unbroken message) :
    message.toList.map flattenChar = message.toList := by
  have hsame : ∀ c ∈ message.toList, flattenChar c = c := fun c hc =>
    flattenChar_of_ne (fun hfeed => h.1 (hfeed ▸ hc)) fun hreturn => h.2 (hreturn ▸ hc)
  rw [List.map_congr_left hsame, List.map_id']

theorem unbroken_sanitize (message : String) (limit : ℕ) : Unbroken (sanitize message limit) := by
  have hflat : ∀ c ∈ (message.toList.map flattenChar).take limit, c ≠ '\n' ∧ c ≠ '\r' := by
    intro c hc
    obtain ⟨source, -, rfl⟩ := List.mem_map.mp (List.mem_of_mem_take hc)
    exact flattenChar_ne source
  have hmark : ∀ c ∈ if limit < message.length then ['.', '.', '.'] else [], c ≠ '\n' ∧ c ≠ '\r' := by
    split_ifs
    · simp
    · exact nofun
  have hall : ∀ c ∈ (sanitize message limit).toList, c ≠ '\n' ∧ c ≠ '\r' := by
    rw [toList_sanitize, List.forall_mem_append]
    exact ⟨hflat, hmark⟩
  exact ⟨fun hfeed => (hall _ hfeed).1 rfl, fun hreturn => (hall _ hreturn).2 rfl⟩

/-- What was treated once stays as it is. A message that was cut is longer than the bound, and is cut
    where it was cut before. -/
theorem sanitize_sanitize (message : String) (limit : ℕ) :
    sanitize (sanitize message limit) limit = sanitize message limit := by
  have hflat := map_flattenChar_of_unbroken (unbroken_sanitize message limit)
  apply String.toList_injective
  rcases Nat.lt_or_ge limit message.length with hlong | hshort
  · have hagain : limit < (sanitize message limit).length := by
      rw [length_sanitize_of_lt hlong]
      omega
    have hfront : ((message.toList.map flattenChar).take limit).length = limit := by
      rw [List.length_take, List.length_map, String.length_toList]
      omega
    rw [toList_sanitize_of_lt hagain, hflat, toList_sanitize_of_lt hlong, List.take_left' hfront]
  · have hagain : (sanitize message limit).length ≤ limit := by
      rwa [length_sanitize_of_le hshort]
    rw [toList_sanitize_of_le hagain, hflat]

/-- A message that is treated holds no end of line, and three characters more than the bound at most.
    Up to the bound it has the characters of the message in their places, but for a space in place of
    each end of line; if the message is not longer than the bound, that is all of it. Treated again,
    it does not change. -/
theorem sanitized_message_is_safe (message : String) (limit : ℕ) :
    let safe := sanitize message limit
    let flat (c : Char) : Char := if c = '\n' ∨ c = '\r' then ' ' else c
    '\n' ∉ safe.toList ∧ '\r' ∉ safe.toList ∧ safe.length ≤ limit + 3 ∧
      (∀ i < min limit message.length, safe.toList[i]? = message.toList[i]?.map flat) ∧
      (message.length ≤ limit → safe.toList = message.toList.map flat) ∧
      sanitize safe limit = safe := by
  intro safe flat
  obtain ⟨hfeed, hreturn⟩ := unbroken_sanitize message limit
  have hlength : safe.length ≤ limit + 3 := by
    rcases Nat.lt_or_ge limit message.length with hlong | hshort
    · exact Nat.le_of_eq (length_sanitize_of_lt hlong)
    · exact Nat.le_trans (Nat.le_of_eq (length_sanitize_of_le hshort)) (by omega)
  refine ⟨hfeed, hreturn, hlength, fun i hi => ?_, toList_sanitize_of_le,
    sanitize_sanitize message limit⟩
  rw [Nat.lt_min] at hi
  exact getElem?_sanitize hi.1 hi.2

/-- A message that is one character too long, and that ends in dots of its own. -/
theorem dots_behind_dots :
    let safe := sanitize "é\r\n..." 5
    safe = "é  ....." ∧ '\n' ∉ safe.toList ∧ '\r' ∉ safe.toList ∧ safe.length ≤ 5 + 3 ∧
      safe.toList[1]? = some ' ' ∧ sanitize safe 5 = safe := by
  intro safe
  obtain ⟨hfeed, hreturn, hlength, hchars, -, hagain⟩ := sanitized_message_is_safe "é\r\n..." 5
  exact ⟨by decide, hfeed, hreturn, hlength, hchars 1 (by decide), hagain⟩

/-- The event of a panic takes one line of the log, whatever the panic carries, if the place it names
    does. -/
theorem unbroken_panicEvent_iff (location : String) (payload : PanicPayload) :
    Unbroken (panicEvent location payload).text ↔ Unbroken location := by
  rw [Event.unbroken_text_iff, panicEvent, Event.repeated, List.forall_mem_cons,
    List.forall_mem_singleton, and_iff_left (unbroken_sanitize payload.text panicLimit)]

end AgentCanvas
