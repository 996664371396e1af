import AgentCanvas.Proofs.Command.Identity
import AgentCanvas.Proofs.Element.Patches
import AgentCanvas.Proofs.Json.Documents
import AgentCanvas.Proofs.Json.Escapes
import AgentCanvas.Proofs.Json.Fields
import AgentCanvas.Proofs.Message.CommandLines
import AgentCanvas.Proofs.Number.Characters

set_option autoImplicit false

namespace AgentCanvas

open Json Text

/-! ## Ids of hexadecimal digits -/

namespace ElementId

def isIdChar (c : Char) : Bool :=
  (hexValue? c).isSome || c == '-'

/-- An id that consists of hexadecimal digits and hyphens, of one at least. -/
structure IsHex (id : ElementId) : Prop where
  nonempty : id.text.toList ≠ []
  hex : ∀ c ∈ id.text.toList, isIdChar c = true

theorem isBlank_of_isIdChar {c : Char} (h : isIdChar c = true) : isBlank c = false := by
  have hrange : (0x30 ≤ c.toNat ∧ c.toNat ≤ 0x39) ∨ (0x61 ≤ c.toNat ∧ c.toNat ≤ 0x66) ∨
      (0x41 ≤ c.toNat ∧ c.toNat ≤ 0x46) ∨ c.toNat = 0x2D := by
    obtain hdigit | hhyphen := Bool.or_eq_true_iff.mp h
    · unfold hexValue? at hdigit
      split_ifs at hdigit with hdecimal hlow hhigh
      · exact .inl hdecimal
      · exact .inr (.inl hlow)
      · exact .inr (.inr (.inl hhigh))
      · cases hdigit
    · rw [beq_iff_eq.mp hhyphen]
      exact .inr (.inr (.inr rfl))
  simp only [isBlank, Bool.or_eq_false_iff, Bool.and_eq_false_iff, decide_eq_false_iff_not,
    beq_eq_false_iff_ne]
  omega

namespace IsHex

variable {id : ElementId}

theorem isWord (h : id.IsHex) : Inline.IsWord id.text.toList :=
  ⟨h.nonempty, fun c hc => isBlank_of_isIdChar (h.hex c hc)⟩

theorem not_mem (h : id.IsHex) {c : Char} (hc : isIdChar c = false) : c ∉ id.text.toList := by
  intro hmem
  rw [h.hex c hmem] at hc
  cases hc

theorem plain (h : id.IsHex) : Inline.plain id.text.toList = true := by
  have hbrace : '\x7b' ∉ id.text.toList := h.not_mem (by decide)
  have hbracket : '[' ∉ id.text.toList := h.not_mem (by decide)
  have hhead : ∀ {c}, c ∉ id.text.toList → id.text.toList.head? ≠ some c :=
    fun hc hfirst => hc (List.mem_of_head? hfirst)
  simp [Inline.plain, hhead hbrace, hhead hbracket]

end IsHex

theorem isHex_uuid (seed place : ℕ) : ((IdSource.uuids seed).candidate place).IsHex where
  nonempty := by simp [IdSource.uuids, Uuid.candidate, Uuid.layout]
  hex := by
    have hdigit : ∀ m < 16, isIdChar (hexDigit m) = true := by decide
    have hpadded : ∀ width n, (hexPadded width n).all isIdChar = true := by
      intro width n
      refine List.all_eq_true.mpr fun c hc => ?_
      obtain ⟨m, hm, rfl⟩ := mem_hexPadded hc
      exact hdigit m hm
    have hvariant : ∀ n, isIdChar (hexDigit (8 + n % 4)) = true := fun n => hdigit _ (by omega)
    have hothers : isIdChar '-' = true ∧ isIdChar '4' = true ∧ isIdChar '0' = true := by decide
    refine List.all_eq_true.mp ?_
    simp only [IdSource.uuids, Uuid.candidate, String.toList_ofList, Uuid.layout, List.all_append,
      List.all_cons, List.all_nil, List.all_replicate, hpadded, hvariant, hothers]
    simp

end ElementId

/-! ## Where ids come from -/

namespace Store

theorem apply_candidate (s : Store) (operation : Operation) :
    (s.apply operation).ids.candidate = s.ids.candidate := by
  cases operation with
  | add props =>
    obtain ⟨_, -, -, hids⟩ := s.add_draws props
    rw [apply, hids]
  | update id patch =>
    obtain ⟨_, hs⟩ | ⟨_, _, _, _, hs⟩ | ⟨_, _, _, _, hs⟩ := s.update_cases id patch <;>
      rw [apply, hs]
    rfl
  | remove id =>
    obtain ⟨_, hs⟩ | ⟨_, hs⟩ := s.remove_cases id <;> rw [apply, hs]
    rfl
  | select | clearSelection | clearAll | subscribe => rfl

theorem Reachable.ids_drawn {s : Store} (h : s.Reachable) :
    ∀ id ∈ s.scene.ids, ∃ place, id = s.ids.candidate place := by
  induction h with
  | empty ids => exact fun id hid => absurd hid List.not_mem_nil
  | @step s _ operation ih =>
    rw [apply_candidate]
    cases operation with
    | add props =>
      obtain ⟨place, -, hanswer, -⟩ := s.add_draws props
      rw [apply, add_scene, Scene.ids_add, hanswer]
      exact List.forall_mem_append.mpr ⟨ih, List.forall_mem_singleton.mpr ⟨place, rfl⟩⟩
    | update id patch =>
      obtain ⟨_, hs⟩ | ⟨_, _, _, _, hs⟩ | ⟨_, _, _, _, hs⟩ := s.update_cases id patch <;>
        simpa [apply, hs] using ih
    | remove id =>
      obtain ⟨_, hs⟩ | ⟨_, hs⟩ := s.remove_cases id
      · simpa [apply, hs] using ih
      · simpa [apply, hs] using fun id hid => ih id (List.mem_of_mem_erase hid)
    | select | clearSelection | subscribe => exact ih
    | clearAll => exact fun id hid => absurd hid List.not_mem_nil

end Store

/-! ## The message -/

open Execution

def Command.updating (id : ElementId) (patch : Fields) : Command :=
  ⟨"update", none, some id.text, some patch⟩

variable {id : ElementId} {patch : Fields} {text : String}

theorem trimmed_ne_nil (h : parse text = .ok (.object patch)) : trimChars text.toList ≠ [] := by
  intro hnil
  rw [← String.ofList_toList (s := text)] at h
  have hempty := parse_trimChars h
  rw [hnil] at hempty
  have hfails : (parse (String.ofList [])).isOk = false := by decide +kernel
  rw [hempty] at hfails
  cases hfails

theorem foundOf_update (h : parse text = .ok (.object patch)) :
    Inline.foundOf ⟨"update".toList, some id.text.toList, trimChars text.toList⟩ =
      ⟨.updating id patch, false⟩ := by
  have hcreate : Inline.isCreate "update" = false := by decide +kernel
  have htail : Inline.tailParams (trimChars text.toList) = (some patch, false) := by
    refine Inline.tailParams_of_object (trimmed_ne_nil h) (parse_trimChars ?_)
    rwa [String.ofList_toList]
  simp only [Inline.foundOf, htail, Command.updating, Option.map_some, String.ofList_toList,
    hcreate, Bool.false_eq_true, if_false]

theorem toList_updateMessage (id : ElementId) (text : String) :
    ("/canvas update " ++ id.text ++ " " ++ text).toList =
      Inline.commandLine "update".toList id.text.toList text.toList := by
  simp [Inline.commandLine, commandMark, String.toList_append]

theorem parseMessage_update (hid : id.IsHex) (hpatch : parse text = .ok (.object patch))
    (hline : '\n' ∉ text.toList) (hfence : ¬ Block.fence <:+: text.toList) :
    let parsed := parseMessage ("/canvas update " ++ id.text ++ " " ++ text)
    parsed.commands = [.updating id patch] ∧ parsed.issues = [] := by
  have hverb : Inline.IsWord "update".toList := .of_all (by decide) rfl
  have hticks : '\x60' ∉ "update".toList ∧ '\x60' ∉ id.text.toList :=
    ⟨by decide, hid.not_mem (by decide)⟩
  have hparsed := parseMessage_commandLine (toList_updateMessage id text) hverb hid.isWord hid.plain
    hticks hline hfence
  rwa [foundOf_update hpatch] at hparsed

theorem reference?_updating (hid : id.IsHex) (patch : Fields) :
    reference? (.updating id patch) = some id := by
  have htrim : trim id.text = id.text := by
    rw [trim, trimChars_of_not_blank hid.isWord.ink, String.ofList_toList]
  have hne : id.text.isEmpty = false := by
    simpa [String.isEmpty_iff] using hid.nonempty
  simp [reference?, Command.updating, htrim, hne]

/-- Executing the command is patching the element, with the same report. -/
theorem execute_updating {s : Store} {e : Element} (hid : id.IsHex)
    (he : s.scene.get? id = some e) (patch : Fields) :
    let step := execute s (.updating id patch)
    let direct := s.update id patch
    step.store.scene = direct.store.scene ∧
      ((direct.answer = .ok true ∧ step.answer = .ok (.updated id)) ∨
        ∃ fault, direct.answer = .error fault ∧ step.answer = .error (.malformed fault.message)) := by
  intro step direct
  have hv : (Command.updating id patch).parsedVerb? = some .update := by
    change CommandVerb.parse? "update" = some .update
    decide +kernel
  have hr := reference?_updating hid patch
  have hmerged : e.props.merged (patchOf (.updating id patch)) = e.props.merged patch :=
    e.props.merged_unreserved patch
  simp only [step, direct, execute_store, execute_answer]
  obtain ⟨hn, _⟩ | ⟨found, why, hfound, hp, hs⟩ | ⟨found, props, hfound, hp, hs⟩ :=
    s.update_cases id patch
  · rw [he] at hn
    cases hn
  · obtain rfl : e = found := Option.some.inj (he.symm.trans hfound)
    rw [(Step.refused (.badPatch hv hr he (hmerged.trans hp))).eq_dispatch, hs]
    exact ⟨rfl, .inr ⟨_, rfl, rfl⟩⟩
  · obtain rfl : e = found := Option.some.inj (he.symm.trans hfound)
    rw [(Step.updated hv hr he (hmerged.trans hp)).eq_dispatch, hs]
    exact ⟨rfl, .inl ⟨rfl, rfl⟩⟩

/-- In a store that operations led to, with ids of hexadecimal digits and hyphens, the id of an
    element can be written into a message: the one command of the message patches that element with
    the object behind the id, as the store does when it is asked to, and nothing the object says is
    taken for another command or for another id. -/
theorem issued_id_works_in_message {s : Store} (hs : s.Reachable)
    (hids : ∀ place, (s.ids.candidate place).IsHex) {e : Element} (he : e ∈ s.scene.elements)
    (hpatch : parse text = .ok (.object patch)) (hline : '\n' ∉ text.toList)
    (hfence : ¬ Block.fence <:+: text.toList) :
    let batch := process s ("/canvas update " ++ e.id.text ++ " " ++ text)
    let direct := s.update e.id patch
    batch.answer.commands = [.updating e.id patch] ∧ batch.answer.issues = [] ∧
      batch.store.scene = direct.store.scene ∧
      ((direct.answer = .ok true ∧ batch.answer.results = [.ok (.updated e.id)]) ∨
        ∃ fault, direct.answer = .error fault ∧
          batch.answer.results = [.error (.malformed fault.message)]) ∧
      ∀ id, .error (.notFound id) ∉ batch.answer.results := by
  intro batch direct
  have hmem : e.id ∈ s.scene.ids := List.mem_map_of_mem he
  obtain ⟨place, hplace⟩ := hs.ids_drawn e.id hmem
  have hid : e.id.IsHex := hplace ▸ hids place
  obtain ⟨found, hfound⟩ := Option.isSome_iff_exists.mp ((s.scene.contains_iff e.id).mpr hmem)
  obtain ⟨hcommands, hissues⟩ := parseMessage_update hid hpatch hline hfence
  obtain ⟨hscene, hreport⟩ := execute_updating hid hfound patch
  have hstore : batch.store.scene = direct.store.scene := by
    rw [← hscene, process_store, hcommands, executeAll_cons_store, executeAll_nil_store]
  have hresults : batch.answer.results = [(execute s (.updating e.id patch)).answer] := by
    rw [process_results, hcommands, executeAll_cons_answer]
    rfl
  refine ⟨hcommands, hissues, hstore, ?_⟩
  rw [hresults]
  obtain ⟨hdirect, hanswer⟩ | ⟨fault, hdirect, hanswer⟩ := hreport
  · rw [hanswer]
    exact ⟨.inl ⟨hdirect, rfl⟩, by simp⟩
  · rw [hanswer]
    exact ⟨.inr ⟨fault, hdirect, rfl⟩, by simp⟩

/-- A text that talks of commands, put into an element that was just created. -/
theorem talk_of_commands_is_data :
    let first := (Store.empty (.uuids 0)).add (.initial .text)
    let id := first.answer
    let text := "\x7b\"text\": \"first /canvas clear, then /canvas delete a\", \"id\": \"b\"\x7d"
    let content := "first /canvas clear, then /canvas delete a"
    let patch : Fields := [("id", .string "b"), ("text", .string content)]
    let batch := process first.store ("/canvas update " ++ id.text ++ " " ++ text)
    first.store.Reachable ∧ (∀ place, (first.store.ids.candidate place).IsHex) ∧
      (⟨id, .initial .text⟩ : Element) ∈ first.store.scene.elements ∧
      parse text = .ok (.object patch) ∧ '\n' ∉ text.toList ∧ ¬ Block.fence <:+: text.toList ∧
      batch.answer.commands = [.updating id patch] ∧ batch.answer.issues = [] ∧
      batch.answer.results = [.ok (.updated id)] ∧
      batch.store.scene.elements = [⟨id, .ofShape (.text content (.ofInt 1) none)⟩] := by
  intro first id text content patch batch
  have hs : first.store.Reachable := .step (.empty (.uuids 0)) (.add (.initial .text))
  have hids : ∀ place, (first.store.ids.candidate place).IsHex := ElementId.isHex_uuid 0
  have he : (⟨id, .initial .text⟩ : Element) ∈ first.store.scene.elements :=
    List.mem_singleton.mpr rfl
  have hpatch : parse text = .ok (.object patch) := eq_ok_of_toOption (by decide +kernel)
  have hline : '\n' ∉ text.toList := by decide
  have hfence : ¬ Block.fence <:+: text.toList := by decide
  have hmerged : (ElementProps.initial .text).merged patch =
      .ok (.ofShape (.text content (.ofInt 1) none)) := eq_ok_of_toOption (by decide +kernel)
  obtain ⟨hcommands, hissues, hscene, hreport, -⟩ :=
    issued_id_works_in_message hs hids he hpatch hline hfence
  have hfirst : first.store.scene = ⟨[⟨id, .initial .text⟩], none⟩ := rfl
  have hfound : first.store.scene.get? id = some ⟨id, .initial .text⟩ := by
    rw [hfirst]
    simp [Scene.get?]
  have hdirect := Store.update_of_merged hfound hmerged
  refine ⟨hs, hids, he, hpatch, hline, hfence, hcommands, hissues, ?_, ?_⟩
  · obtain ⟨-, hresults⟩ | ⟨fault, hfault, -⟩ := hreport
    · exact hresults
    · rw [hdirect] at hfault
      cases hfault
  · rw [hscene, hdirect, Store.announce_scene, hfirst]
    simp [Scene.update, Scene.setProps]

end AgentCanvas
