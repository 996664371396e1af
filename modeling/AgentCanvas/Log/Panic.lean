import AgentCanvas.Log.Event

set_option autoImplicit false

namespace AgentCanvas

def flattenChar (c : Char) : Char :=
  if c = '\n' ∨ c = '\r' then ' ' else c

/-- A message on one line, with at most `limit` characters and a mark if some were cut off. -/
def sanitize (message : String) (limit : Nat) : String :=
  let flat := message.toList.map flattenChar
  String.ofList (flat.take limit ++ if limit < flat.length then ['.', '.', '.'] else [])

def panicLimit : Nat := 160

inductive PanicPayload where
  | message (text : String)
  | other

def PanicPayload.text : PanicPayload → String
  | message text => text
  | other => "non-string panic payload"

def panicEvent (location : String) (payload : PanicPayload) : Event :=
  .panicCaptured location (sanitize payload.text panicLimit)

variable {message : String} {limit : Nat}

theorem flattenChar_of_ne {c : Char} (hfeed : c ≠ '\n') (hreturn : c ≠ '\r') :
    flattenChar c = c :=
  if_neg (not_or.mpr ⟨hfeed, hreturn⟩)

theorem flattenChar_ne (c : Char) : flattenChar c ≠ '\n' ∧ flattenChar c ≠ '\r' := by
  unfold flattenChar
  split
  · decide
  · next h => exact not_or.mp h

theorem toList_sanitize (message : String) (limit : Nat) :
    (sanitize message limit).toList = (message.toList.map flattenChar).take limit ++
      if limit < message.length then ['.', '.', '.'] else [] := by
  simp only [sanitize, String.toList_ofList, List.length_map, String.length_toList]

theorem toList_sanitize_of_le (h : message.length ≤ limit) :
    (sanitize message limit).toList = message.toList.map flattenChar := by
  rw [toList_sanitize, if_neg (Nat.not_lt_of_le h), List.append_nil, List.take_of_length_le]
  rwa [List.length_map, String.length_toList]

theorem toList_sanitize_of_lt (h : limit < message.length) :
    (sanitize message limit).toList =
      (message.toList.map flattenChar).take limit ++ ['.', '.', '.'] := by
  rw [toList_sanitize, if_pos h]

theorem length_sanitize_of_le (h : message.length ≤ limit) :
    (sanitize message limit).length = message.length := by
  rw [← String.length_toList, toList_sanitize_of_le h, List.length_map, String.length_toList]

theorem length_sanitize_of_lt (h : limit < message.length) :
    (sanitize message limit).length = limit + 3 := by
  have hflat : limit ≤ (message.toList.map flattenChar).length := by
    rw [List.length_map, String.length_toList]
    exact Nat.le_of_lt h
  rw [← String.length_toList, toList_sanitize_of_lt h, List.length_append,
    List.length_take_of_le hflat]
  rfl

theorem getElem?_sanitize {i : Nat} (hi : i < limit) (hlength : i < message.length) :
    (sanitize message limit).toList[i]? = message.toList[i]?.map flattenChar := by
  have hfront : i < ((message.toList.map flattenChar).take limit).length := by
    rw [List.length_take, List.length_map, String.length_toList]
    omega
  rw [toList_sanitize, List.getElem?_append_left hfront, List.getElem?_take_of_lt hi,
    List.getElem?_map]

end AgentCanvas
