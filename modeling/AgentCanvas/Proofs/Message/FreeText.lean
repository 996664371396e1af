import AgentCanvas.Proofs.Command.Creating
import AgentCanvas.Proofs.Command.Outcomes

set_option autoImplicit false

namespace AgentCanvas

open Json Text Execution

def ElementProps.withText (content : String) : ElementProps :=
  { initial .text with shape := .text content (.ofInt 1) none }

example : ElementProps.withText "Text" = .initial .text := by decide +kernel

def Command.creatingText (content : String) : Command :=
  ⟨"create", some "text", none, some [("text", .string content)]⟩

theorem Command.creates_creatingText (content : String) : (creatingText content).Creates .text where
  verb := show CommandVerb.parse? "create" = some .create by decide +kernel
  kind := show ElementKind.parse? "text" = some .text by decide +kernel

/-- A text that is set leaves every other field of a text element at its default. -/
theorem ElementProps.ofParams_text (content : String) :
    ofParams .text (some [("text", .string content)]) = .ok (withText content) := by
  rw [ofParams_ok_iff, OverlaidBy]
  refine ⟨rfl, ?_⟩
  simp [withText, initial, ofShape, Shape.initial, kind, Shape.kind, ElementKind.allSlots,
    ElementKind.slots, commonSlots, contents, commonContents, Shape.contents, Slot.Overlaid,
    Fields.last?, Fields.get?, SlotType.Decodes.text]

variable {text : String}

theorem foundOf_text (hne : trim text ≠ "")
    (hobject : ∀ fields, parse (trim text) ≠ .ok (.object fields)) :
    Inline.foundOf ⟨"create".toList, some "text".toList, trimChars text.toList⟩ =
      ⟨.creatingText (trim text), true⟩ := by
  have hcreate : Inline.isCreate "create" = true := by decide +kernel
  have hchars : trimChars text.toList ≠ [] := by
    intro hnil
    rw [trim, hnil] at hne
    exact hne rfl
  have htail := Inline.tailParams_of_not_object hchars hobject
  simp only [Inline.foundOf, htail, Command.creatingText, Option.map_some, String.ofList_toList,
    hcreate, if_true, trim]

theorem toList_textMessage (text : String) :
    ("/canvas create text " ++ text).toList =
      Inline.commandLine "create".toList "text".toList text.toList := by
  simp [Inline.commandLine, commandMark, String.toList_append]

theorem parseMessage_text (hline : '\n' ∉ text.toList) (hfence : ¬ Block.fence <:+: text.toList)
    (hne : trim text ≠ "") (hobject : ∀ fields, parse (trim text) ≠ .ok (.object fields)) :
    let parsed := parseMessage ("/canvas create text " ++ text)
    parsed.commands = [.creatingText (trim text)] ∧ parsed.issues = [.inlineTailAsText 1] := by
  have hverb : Inline.IsWord "create".toList := .of_all (by decide) rfl
  have htarget : Inline.IsWord "text".toList := .of_all (by decide) rfl
  have hparsed := parseMessage_commandLine (toList_textMessage text) hverb htarget (by decide)
    (by decide) hline hfence
  rwa [foundOf_text hne hobject] at hparsed

/-- Behind `create text` on the only line of a message, every text that is neither blank nor an object
    is kept: the message is one command and the one issue that its tail was taken as text, and the
    command succeeds. It puts a text element with a new id on top of the others, with the text as it
    was written but for the blanks around it and with the defaults elsewhere. The other elements and
    the selection stay as they were. -/
theorem free_text_is_kept (s : Store) (hline : '\n' ∉ text.toList)
    (hfence : ¬ Block.fence <:+: text.toList) (hne : trim text ≠ "")
    (hobject : ∀ fields, parse (trim text) ≠ .ok (.object fields)) :
    let batch := process s ("/canvas create text " ++ text)
    batch.answer.commands = [.creatingText (trim text)] ∧
      batch.answer.issues = [.inlineTailAsText 1] ∧
      ∃ id, id ∉ s.scene.ids ∧ batch.answer.results = [.ok (.created id)] ∧
        batch.store.scene.elements = s.scene.elements ++ [⟨id, .withText (trim text)⟩] ∧
        batch.store.scene.selected = s.scene.selected := by
  intro batch
  obtain ⟨hcommands, hissues⟩ := parseMessage_text hline hfence hne hobject
  have hcreates := Command.creates_creatingText (trim text)
  have hprops := ElementProps.ofParams_text (trim text)
  have hscene : batch.store.scene =
      s.scene.add ⟨(s.add (.withText (trim text))).answer, .withText (trim text)⟩ := by
    rw [process_store, hcommands, executeAll_cons_store, executeAll_nil_store, execute_store,
      hcreates.dispatch_ok hprops, done, Store.add_scene]
  refine ⟨hcommands, hissues, _, s.add_answer_not_mem (.withText (trim text)), ?_, ?_, ?_⟩
  · rw [process_results, hcommands, executeAll_cons_answer, hcreates.execute_answer hprops]
    rfl
  · rw [hscene]
    rfl
  · rw [hscene]
    rfl

/-- An object that is broken, and that talks of another command, is a text. -/
theorem broken_object_is_text :
    let s := ((Store.empty (.uuids 0)).add (.initial .circle)).store
    let text := "  \x7bhello: /canvas clear \t"
    let content := "\x7bhello: /canvas clear"
    let batch := process s ("/canvas create text " ++ text)
    '\n' ∉ text.toList ∧ ¬ Block.fence <:+: text.toList ∧ trim text ≠ "" ∧
      (∀ fields, parse (trim text) ≠ .ok (.object fields)) ∧
      batch.answer.commands = [.creatingText content] ∧
      batch.answer.issues = [.inlineTailAsText 1] ∧
      ∃ id, batch.answer.results = [.ok (.created id)] ∧
        batch.store.scene.elements = s.scene.elements ++ [⟨id, .withText content⟩] := by
  intro s text content batch
  have hline : '\n' ∉ text.toList := by decide
  have hfence : ¬ Block.fence <:+: text.toList := by decide
  have htrim : trim text = content := by decide +kernel
  have hne : trim text ≠ "" := by
    rw [htrim]
    decide
  have hobject : ∀ fields, parse (trim text) ≠ .ok (.object fields) := by
    intro fields h
    have hfails : (parse content).isOk = false := by decide +kernel
    rw [← htrim, h] at hfails
    cases hfails
  obtain ⟨hcommands, hissues, id, -, hresults, helements, -⟩ :=
    free_text_is_kept s hline hfence hne hobject
  rw [htrim] at hcommands helements
  exact ⟨hline, hfence, hne, hobject, hcommands, hissues, id, hresults, helements⟩

end AgentCanvas
