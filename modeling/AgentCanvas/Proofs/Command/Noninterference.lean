import AgentCanvas.Proofs.Command.Steps
import AgentCanvas.Proofs.Element.Kinds
import Mathlib.Data.List.Forall2

set_option autoImplicit false

/-!
# Logs and the contents of elements

Two stores are alike if whoever sees ids, kinds, the selection and the source of ids cannot tell
them apart, and two commands are alike if they differ in the values of their parameters only. Each
operation and each command keeps alike stores alike and reports the same events of them, so that a
log tells nothing about contents but which commands failed.
-/
namespace AgentCanvas

open Json

def Element.label (e : Element) : ElementId × ElementKind :=
  (e.id, e.kind)

/-! ## Scenes -/

namespace Scene

def labels (s : Scene) : List (ElementId × ElementKind) :=
  s.elements.map Element.label

theorem ids_eq_labels (s : Scene) : s.ids = s.labels.map Prod.fst := by
  simp [ids, labels, Element.label]

theorem labels_update {s : Scene} {id : ElementId} {e : Element} {props : ElementProps}
    (he : s.get? id = some e) (hkind : props.kind = e.kind) :
    (s.update id props).labels = s.labels := by
  obtain ⟨before, after, helements, -, hset⟩ := setProps_cut he props
  have hlabel : Element.label { e with props } = e.label := Prod.ext rfl hkind
  rw [labels, labels, update, hset, helements]
  simp only [List.map_append, List.map_cons, hlabel]

theorem labels_remove (s : Scene) (id : ElementId) :
    (s.remove id).labels = s.labels.eraseP fun label => label.1 = id := by
  obtain ⟨elements, selected⟩ := s
  simp only [remove, labels]
  induction elements with
  | nil => rfl
  | cons e rest ih =>
    by_cases h : e.id = id
    · simp [dropElement, h, Element.label]
    · simp [dropElement, h, Element.label, ih]

/-- Scenes with the same ids and kinds in paint order and the same selection. -/
structure Alike (s t : Scene) : Prop where
  labels : s.labels = t.labels
  selected : s.selected = t.selected

namespace Alike

variable {s t : Scene}

theorem ids (h : s.Alike t) : s.ids = t.ids := by
  rw [ids_eq_labels, ids_eq_labels, h.labels]

theorem length (h : s.Alike t) : s.elements.length = t.elements.length := by
  rw [← length_ids, ← length_ids, h.ids]

theorem contains (h : s.Alike t) : s.contains = t.contains := by
  funext id
  rw [contains_eq_decide, contains_eq_decide, h.ids]

theorem taken (h : s.Alike t) : s.taken = t.taken := by
  rw [Scene.taken, Scene.taken, h.ids, h.selected]

theorem add (h : s.Alike t) {e f : Element} (hlabel : e.label = f.label) :
    (s.add e).Alike (t.add f) where
  labels := by
    have hlabels : s.elements.map Element.label = t.elements.map Element.label := h.labels
    simp [Scene.labels, Scene.add, hlabels, hlabel]
  selected := h.selected

theorem remove (h : s.Alike t) (id : ElementId) : (s.remove id).Alike (t.remove id) where
  labels := by rw [labels_remove, labels_remove, h.labels]
  selected := by rw [selected_remove, selected_remove, h.selected]

theorem select (h : s.Alike t) (selected : Option ElementId) :
    (s.select selected).Alike (t.select selected) :=
  ⟨h.labels, rfl⟩

end Alike
end Scene

/-! ## Stores -/

/-- Stores with scenes that are alike and the same source of ids. -/
structure Store.Alike (s t : Store) : Prop where
  scene : s.scene.Alike t.scene
  ids : s.ids = t.ids

/-- Steps that report the same events and lead to stores that are alike. -/
structure StoreStep.Alike {α : Type} (first second : StoreStep α) : Prop where
  events : first.events = second.events
  store : first.store.Alike second.store

namespace Store.Alike

variable {s t : Store}

theorem announce (h : s.Alike t) {scene scene' : Scene} (hscene : scene.Alike scene') :
    (s.announce scene).Alike (t.announce scene') :=
  ⟨hscene, h.ids⟩

theorem draw (h : s.Alike t) : s.ids.draw s.scene.taken = t.ids.draw t.scene.taken := by
  rw [h.ids, h.scene.taken]

theorem add (h : s.Alike t) {p q : ElementProps} (hkind : p.kind = q.kind) :
    (s.add p).Alike (t.add q) ∧ (s.add p).answer = (t.add q).answer := by
  have hid : (s.add p).answer = (t.add q).answer := congrArg Prod.fst h.draw
  have hlabel : Element.label ⟨(s.add p).answer, p⟩ = Element.label ⟨(t.add q).answer, q⟩ :=
    Prod.ext hid hkind
  have hscene := h.scene.add hlabel
  refine ⟨⟨?_, hscene, congrArg Prod.snd h.draw⟩, hid⟩
  change [Event.elementAdded (s.add p).answer p.kind _] =
    [Event.elementAdded (t.add q).answer q.kind _]
  rw [hid, hkind]
  exact congrArg (fun count => [Event.elementAdded _ _ count]) hscene.length

theorem remove (h : s.Alike t) (id : ElementId) :
    (s.remove id).Alike (t.remove id) := by
  have hscene := h.scene.remove id
  obtain ⟨hs, hr⟩ | ⟨hs, hr⟩ := s.remove_cases id
  · obtain ⟨_, hr'⟩ | ⟨ht, _⟩ := t.remove_cases id
    · rw [hr, hr']
      exact ⟨rfl, h⟩
    · exact absurd (h.scene.ids ▸ ht) hs
  · obtain ⟨ht, _⟩ | ⟨_, hr'⟩ := t.remove_cases id
    · exact absurd (h.scene.ids ▸ hs) ht
    · rw [hr, hr', hscene.length]
      exact ⟨rfl, h.announce hscene⟩

theorem select (h : s.Alike t) (selected : Option ElementId) :
    (s.select selected).Alike (t.select selected) := by
  refine ⟨?_, h.announce (h.scene.select selected)⟩
  simp only [Store.select, h.scene.contains]

theorem clearAll (h : s.Alike t) : s.clearAll.Alike t.clearAll := by
  refine ⟨?_, h.announce ⟨rfl, rfl⟩⟩
  simp only [Store.clearAll, h.scene.length]

end Store.Alike

/-! ## Commands -/

/-- Commands that differ in the values of their parameters only, and perhaps in the order of their
    keys. -/
structure Command.Alike (c d : Command) : Prop where
  verb : c.verb = d.verb
  elementType : c.elementType = d.elementType
  elementId : c.elementId = d.elementId
  keys : List.Perm ((c.params.getD []).map Prod.fst) ((d.params.getD []).map Prod.fst)

namespace Execution

theorem length_patchOf (c : Command) : (patchOf c).length =
    (((c.params.getD []).map Prod.fst).filter fun key => !isReserved key).length := by
  rw [patchOf, List.filter_map, List.length_map]
  rfl

/-- The kind of failure a command that fails has, by what may be known of it and of the scene. -/
def failureKind (c : Command) (ids : List ElementId) : String :=
  match c.parsedVerb?, c.elementType, reference? c with
  | none, _, _ => "unknown_verb"
  | some .create, none, _ => "missing_element_type"
  | some .create, some name, _ =>
    if (ElementKind.parse? name).isSome then "malformed_command" else "unknown_element_type"
  | some _, _, none => "missing_reference"
  | some _, _, some id => if id ∈ ids then "malformed_command" else "not_found"

theorem Refusal.kind_eq {s : Store} {c : Command} {error : CommandError} (h : Refusal s c error) :
    error.kind = failureKind c s.scene.ids := by
  cases h with
  | unknownVerb hv => simp [failureKind, hv, CommandError.kind]
  | missingElementType hv ht => simp [failureKind, hv, ht, CommandError.kind]
  | unknownElementType hv ht hk => simp [failureKind, hv, ht, hk, CommandError.kind]
  | badParams hv ht hk => simp [failureKind, hv, ht, hk, CommandError.kind]
  | missingReference hv hneeds hr =>
    obtain rfl | rfl | rfl := hneeds
    · simp [failureKind, hv, hr, CommandError.kind]
    · simp [failureKind, hv, hr, CommandError.kind]
    · simp [failureKind, hv, hr, CommandError.kind]
  | notFound hv hr hid => simp [failureKind, hv, hr, hid, CommandError.kind]
  | badPatch hv hr he =>
    simp [failureKind, hv, hr, Scene.mem_ids_of_get? he, CommandError.kind]

end Execution

namespace Command.Alike

open Execution

variable {c d : Command}

theorem parsedVerb? (h : c.Alike d) : c.parsedVerb? = d.parsedVerb? := by
  rw [Command.parsedVerb?, Command.parsedVerb?, h.verb]

theorem reference? (h : c.Alike d) : reference? c = reference? d := by
  rw [Execution.reference?, Execution.reference?, h.elementId]

theorem length_patchOf (h : c.Alike d) : (patchOf c).length = (patchOf d).length := by
  rw [Execution.length_patchOf, Execution.length_patchOf]
  exact (h.keys.filter _).length_eq

theorem failureKind (h : c.Alike d) (ids : List ElementId) :
    failureKind c ids = failureKind d ids := by
  simp only [Execution.failureKind, h.parsedVerb?, h.elementType, h.reference?]

end Command.Alike

namespace Execution

variable {s t : Store} {c d : Command}

theorem done_alike {α : Type} {first second : StoreStep α} (h : first.Alike second)
    (hverb : c.verb = d.verb) {effect effect' : α → CommandEffect}
    (hid : (effect first.answer).elementId? = (effect' second.answer).elementId?) :
    (done first effect).Alike (done second effect') ∧
      report c (done first effect).answer = report d (done second effect').answer := by
  refine ⟨⟨h.events, h.store⟩, ?_⟩
  simp only [done, report, hverb, hid]

/-- Alike commands that both succeed or both fail on alike stores do and report the same. -/
theorem dispatch_alike (hs : s.Alike t) (hc : c.Alike d)
    (hsame : (dispatch Store.update s c).answer.isOk = (dispatch Store.update t d).answer.isOk) :
    (dispatch Store.update s c).Alike (dispatch Store.update t d) ∧
      report c (dispatch Store.update s c).answer =
        report d (dispatch Store.update t d).answer := by
  have hstep := dispatch_step s c
  generalize dispatch Store.update s c = step at hstep hsame ⊢
  cases hstep with
  | refused h =>
    have hstep' := dispatch_step t d
    generalize dispatch Store.update t d = step' at hstep' hsame ⊢
    cases hstep' with
    | refused h' =>
      refine ⟨⟨rfl, hs⟩, ?_⟩
      simp only [fail, report, hc.verb, h.kind_eq, h'.kind_eq, hc.failureKind, hs.scene.ids]
    | created | updated | deleted | cleared | selected | deselected => cases hsame
  | @created name kind props hv ht hk hp =>
    rw [hc.parsedVerb?] at hv
    rw [hc.elementType] at ht
    -- the parameters of the other command have other values, and may fit or not
    cases hp' : ElementProps.ofParams kind d.params with
    | error why =>
      rw [(Step.refused (.badParams hv ht hk hp')).eq_dispatch] at hsame
      cases hsame
    | ok props' =>
      have hkind : props.kind = props'.kind :=
        (ElementProps.ofParams_kind hp).trans (ElementProps.ofParams_kind hp').symm
      obtain ⟨hadd, hid⟩ := hs.add hkind
      rw [(Step.created hv ht hk hp').eq_dispatch]
      exact done_alike hadd hc.verb (congrArg some hid)
  | @updated id e props hv hr he hp =>
    rw [hc.parsedVerb?] at hv
    rw [hc.reference?] at hr
    have hid : id ∈ t.scene.ids := hs.scene.ids ▸ Scene.mem_ids_of_get? he
    obtain ⟨e', he'⟩ := Option.isSome_iff_exists.mp ((t.scene.contains_iff id).mpr hid)
    cases hp' : e'.props.merged (patchOf d) with
    | error why =>
      rw [(Step.refused (.badPatch hv hr he' hp')).eq_dispatch] at hsame
      cases hsame
    | ok props' =>
      rw [(Step.updated hv hr he' hp').eq_dispatch]
      refine ⟨⟨?_, hs.announce ⟨?_, hs.scene.selected⟩⟩, ?_⟩
      · rw [hc.length_patchOf]
      · rw [Scene.labels_update he (ElementProps.merged_kind hp),
          Scene.labels_update he' (ElementProps.merged_kind hp'), hs.scene.labels]
      · simp only [report, hc.verb]
  | @deleted id hv hr =>
    rw [hc.parsedVerb?] at hv
    rw [hc.reference?] at hr
    rw [(Step.deleted hv hr).eq_dispatch]
    exact done_alike (hs.remove id) hc.verb rfl
  | cleared hv =>
    rw [hc.parsedVerb?] at hv
    rw [(Step.cleared hv).eq_dispatch]
    exact done_alike hs.clearAll hc.verb rfl
  | @selected id hv hr =>
    rw [hc.parsedVerb?] at hv
    rw [hc.reference?] at hr
    rw [(Step.selected hv hr).eq_dispatch]
    exact done_alike (hs.select (some id)) hc.verb rfl
  | deselected hv =>
    rw [hc.parsedVerb?] at hv
    rw [(Step.deselected hv).eq_dispatch]
    exact done_alike (hs.select none) hc.verb rfl

end Execution

open Execution

theorem execute_alike {s t : Store} {c d : Command} (hs : s.Alike t) (hc : c.Alike d)
    (hsame : (execute s c).answer.isOk = (execute t d).answer.isOk) :
    (execute s c).Alike (execute t d) := by
  rw [execute_answer, execute_answer] at hsame
  obtain ⟨hstep, hreport⟩ := dispatch_alike hs hc hsame
  constructor
  · rw [execute_events, execute_events, hstep.events, hreport]
  · rw [execute_store, execute_store]
    exact hstep.store

theorem executeAll_alike {s t : Store} {first second : List Command} (hs : s.Alike t)
    (hcommands : List.Forall₂ Command.Alike first second)
    (hresults : List.Forall₂ (fun a b => a.isOk = b.isOk) (executeAll s first).answer
      (executeAll t second).answer) :
    (executeAll s first).Alike (executeAll t second) := by
  induction hcommands generalizing s t with
  | nil => exact ⟨rfl, hs⟩
  | @cons c d first second hc _ ih =>
    rw [executeAll_cons_answer, executeAll_cons_answer] at hresults
    obtain ⟨hsame, hrest⟩ := List.forall₂_cons.mp hresults
    have hstep := execute_alike hs hc hsame
    have hothers := ih hstep.store hrest
    constructor
    · rw [executeAll_cons_events, executeAll_cons_events, hstep.events, hothers.events]
    · rw [executeAll_cons_store, executeAll_cons_store]
      exact hothers.store

/-- Two runs that begin with alike stores, of commands that are alike and succeed and fail at the
    same places, write the same texts into the log in the same order, and they end with stores that
    are alike. -/
theorem logs_keep_contents_to_themselves {s t : Store} {first second : List Command}
    (hs : s.Alike t) (hcommands : List.Forall₂ Command.Alike first second)
    (hresults : List.Forall₂ (fun a b => a.isOk = b.isOk) (executeAll s first).answer
      (executeAll t second).answer) :
    (executeAll s first).events.map Event.text = (executeAll t second).events.map Event.text ∧
      (executeAll s first).store.Alike (executeAll t second).store := by
  have hruns := executeAll_alike hs hcommands hresults
  exact ⟨congrArg (List.map Event.text) hruns.events, hruns.store⟩

/-- A small and a large circle get other sizes, and different texts are put above them. -/
theorem sizes_and_texts_stay_unknown :
    let scene (radius : Int) : Scene :=
      ⟨[⟨⟨"a"⟩, .ofShape (.circle (.ofInt radius) none true (.ofInt 1))⟩], some ⟨"a"⟩⟩
    let s : Store := ⟨scene 1, [], .uuids 0⟩
    let t : Store := ⟨scene 7, [], .uuids 0⟩
    let commands (radius : Int) (text : String) : List Command :=
      [⟨"update", none, some "a", some [("radius", ofDouble (.ofInt radius))]⟩,
        ⟨"create", some "text", none, some [("text", .string text)]⟩,
        ⟨"select", none, some "", none⟩]
    let first := commands 2 "hello"
    let second := commands 3 "a secret"
    s.Alike t ∧ List.Forall₂ Command.Alike first second ∧
      List.Forall₂ (fun a b => a.isOk = b.isOk) (executeAll s first).answer
        (executeAll t second).answer ∧
      (executeAll s first).events.map Event.text = (executeAll t second).events.map Event.text ∧
      (executeAll s first).store.Alike (executeAll t second).store := by
  intro scene s t commands first second
  have hlabels : s.scene.labels = t.scene.labels := by decide
  have hs : s.Alike t := ⟨⟨hlabels, rfl⟩, rfl⟩
  have hcommands : List.Forall₂ Command.Alike first second :=
    .cons ⟨rfl, rfl, rfl, by decide⟩ (.cons ⟨rfl, rfl, rfl, by decide⟩
      (.cons ⟨rfl, rfl, rfl, .refl _⟩ .nil))
  have hresults : List.Forall₂ (fun a b => a.isOk = b.isOk) (executeAll s first).answer
      (executeAll t second).answer := by
    simp only [first, second, commands, executeAll_cons_answer, List.forall₂_cons]
    refine ⟨?_, ?_, ?_, .nil⟩
    · decide +kernel
    · decide +kernel
    · decide +kernel
  exact ⟨hs, hcommands, hresults, logs_keep_contents_to_themselves hs hcommands hresults⟩

end AgentCanvas
