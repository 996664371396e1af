import AgentCanvas.Proofs.Command.Steps
import AgentCanvas.Proofs.Element.Kinds
import AgentCanvas.Proofs.Scene.FreshIds

set_option autoImplicit false

namespace AgentCanvas

open Json

namespace IdSource

/-- No two of the candidates from the next one on and before a place are the same. -/
def DistinctBefore (source : IdSource) (stop : ℕ) : Prop :=
  ∀ m n, source.drawn ≤ m → m < n → n < stop → source.candidate m ≠ source.candidate n

end IdSource

def Command.kind? (c : Command) : Option ElementKind :=
  c.elementType.bind ElementKind.parse?

namespace Execution

/-- A command creates an element, under the next candidate that is free and of the kind it asks for,
    or draws no candidate and leaves no element whose id and kind were not there before. -/
inductive Issue (s : Store) (c : Command) (answer : CommandResult) (t : Store) : Prop where
  | created (place : ℕ) (props : ElementProps) (hplace : s.ids.drawn ≤ place)
      (hanswer : answer = .ok (.created (s.ids.candidate place)))
      (hids : t.ids = { s.ids with drawn := place + 1 }) (hkind : c.kind? = some props.kind)
      (helements : t.scene.elements = s.scene.elements ++ [⟨s.ids.candidate place, props⟩])
  | nothing (hanswer : ∀ id, answer ≠ .ok (.created id)) (hids : t.ids = s.ids)
      (helements : ∀ e ∈ t.scene.elements,
        ∃ old ∈ s.scene.elements, old.id = e.id ∧ old.kind = e.kind)

theorem Issue.of_subset {s t : Store} {c : Command} {answer : CommandResult}
    (hanswer : ∀ id, answer ≠ .ok (.created id)) (hids : t.ids = s.ids)
    (h : ∀ e ∈ t.scene.elements, e ∈ s.scene.elements) : Issue s c answer t :=
  .nothing hanswer hids fun e he => ⟨e, h e he, rfl, rfl⟩

theorem Step.issue {s : Store} {c : Command} {step : StoreStep CommandResult}
    (hs : Step s c step) : Issue s c step.answer step.store := by
  cases hs with
  | refused _ => exact .of_subset (by simp [fail]) rfl fun e he => he
  | @created name kind props _ ht hk hp =>
    obtain ⟨place, hplace, hanswer, hids⟩ := s.add_draws props
    have hkind : c.kind? = some props.kind := by
      rw [Command.kind?, ht, Option.bind_some, hk, ElementProps.ofParams_kind hp]
    have helements : (s.add props).store.scene.elements =
        s.scene.elements ++ [⟨s.ids.candidate place, props⟩] := by
      rw [Store.add_scene, hanswer]
      rfl
    simp only [done, hanswer]
    exact .created place props hplace rfl hids hkind helements
  | @updated id found props _ _ hfound hp =>
    refine .nothing (by simp) rfl fun e he => ?_
    obtain hold | rfl := Scene.mem_of_mem_setProps hfound he
    · exact ⟨e, hold, rfl, rfl⟩
    · exact ⟨found, Scene.get?_mem hfound, rfl, (ElementProps.merged_kind hp).symm⟩
  | @deleted id =>
    obtain ⟨_, hr⟩ | ⟨_, hr⟩ := s.remove_cases id
    · rw [hr]
      exact .of_subset (by simp [done]) rfl fun e he => he
    · rw [hr]
      exact .of_subset (by simp [done]) rfl fun e he => Scene.mem_of_mem_dropElement he
  | cleared => exact .of_subset (by simp [done]) rfl fun e he => absurd he List.not_mem_nil
  | selected => exact .of_subset (by simp [done]) rfl fun e he => he
  | deselected => exact .of_subset (by simp [done]) rfl fun e he => he

end Execution

open Execution

theorem execute_issue (s : Store) (c : Command) :
    Issue s c (execute s c).answer (execute s c).store := by
  rw [execute_answer, execute_store]
  exact (dispatch_step s c).issue

/-! ## Runs -/

theorem execute_ids (s : Store) (c : Command) :
    (execute s c).store.ids.candidate = s.ids.candidate ∧
      s.ids.drawn ≤ (execute s c).store.ids.drawn := by
  obtain ⟨place, _, hplace, _, hids, _, _⟩ | ⟨_, hids, _⟩ := execute_issue s c
  · rw [hids]
    exact ⟨rfl, by simp only; omega⟩
  · rw [hids]
    exact ⟨rfl, Nat.le_refl _⟩

theorem executeAll_drawn_le (s : Store) (commands : List Command) :
    s.ids.drawn ≤ (executeAll s commands).store.ids.drawn := by
  induction commands generalizing s with
  | nil => exact Nat.le_refl _
  | cons c commands ih =>
    rw [executeAll_cons_store]
    exact Nat.le_trans (execute_ids s c).2 (ih (execute s c).store)

/-- An id that is reported as created was drawn in the run. -/
theorem created_drawn {s : Store} {commands : List Command} {i : ℕ} {id : ElementId}
    (h : (executeAll s commands).answer[i]? = some (.ok (.created id))) :
    ∃ place, s.ids.drawn ≤ place ∧ place < (executeAll s commands).store.ids.drawn ∧
      id = s.ids.candidate place := by
  induction commands generalizing s i with
  | nil => cases h
  | cons c commands ih =>
    rw [executeAll_cons_answer] at h
    rw [executeAll_cons_store]
    obtain ⟨hcandidate, hdrawn⟩ := execute_ids s c
    cases i with
    | zero =>
      have hcreated := Option.some.inj h
      obtain ⟨place, _, hplace, hanswer, hids, _, _⟩ | ⟨hanswer, _, _⟩ := execute_issue s c
      · have hlast := executeAll_drawn_le (execute s c).store commands
        rw [hids] at hlast
        rw [hanswer] at hcreated
        cases hcreated
        exact ⟨place, hplace, hlast, rfl⟩
      · exact absurd hcreated (hanswer id)
    | succ i =>
      obtain ⟨place, hplace, hlast, hid⟩ := ih h
      exact ⟨place, Nat.le_trans hdrawn hplace, hlast, hcandidate ▸ hid⟩

theorem created_ascending {s : Store} {commands : List Command} {i j : ℕ} {first second : ElementId}
    (hij : i < j) (hi : (executeAll s commands).answer[i]? = some (.ok (.created first)))
    (hj : (executeAll s commands).answer[j]? = some (.ok (.created second))) :
    ∃ m n, s.ids.drawn ≤ m ∧ m < n ∧ n < (executeAll s commands).store.ids.drawn ∧
      first = s.ids.candidate m ∧ second = s.ids.candidate n := by
  induction commands generalizing s i j with
  | nil => cases hi
  | cons c commands ih =>
    obtain ⟨j, rfl⟩ := Nat.exists_eq_succ_of_ne_zero (n := j) (by omega)
    rw [executeAll_cons_answer] at hi hj
    rw [executeAll_cons_store]
    obtain ⟨hcandidate, hdrawn⟩ := execute_ids s c
    cases i with
    | zero =>
      have hcreated := Option.some.inj hi
      obtain ⟨n, hn, hlast, hsecond⟩ := created_drawn hj
      obtain ⟨m, _, hm, hanswer, hids, _, _⟩ | ⟨hanswer, _, _⟩ := execute_issue s c
      · rw [hanswer] at hcreated
        cases hcreated
        rw [hids] at hn
        exact ⟨m, n, hm, hn, hlast, rfl, hcandidate ▸ hsecond⟩
      · exact absurd hcreated (hanswer first)
    | succ i =>
      obtain ⟨m, n, hm, hmn, hn, hfirst, hsecond⟩ := ih (by omega) hi hj
      exact ⟨m, n, Nat.le_trans hdrawn hm, hmn, hn, hcandidate ▸ hfirst, hcandidate ▸ hsecond⟩

theorem created_once {s : Store} {commands : List Command}
    (hids : s.ids.DistinctBefore (executeAll s commands).store.ids.drawn) {i j : ℕ}
    {id : ElementId} (hi : (executeAll s commands).answer[i]? = some (.ok (.created id)))
    (hj : (executeAll s commands).answer[j]? = some (.ok (.created id))) : i = j := by
  rcases Nat.lt_trichotomy i j with hij | hij | hij
  · obtain ⟨m, n, hm, hmn, hn, hfirst, hsecond⟩ := created_ascending hij hi hj
    exact absurd (hfirst.symm.trans hsecond) (hids m n hm hmn hn)
  · exact hij
  · obtain ⟨m, n, hm, hmn, hn, hfirst, hsecond⟩ := created_ascending hij hj hi
    exact absurd (hfirst.symm.trans hsecond) (hids m n hm hmn hn)

/-- An element that is there after some commands of a run was there at its start, with the kind it
    has, or one of these commands created it and asked for that kind. -/
theorem element_origin {s : Store} {commands : List Command} {n : ℕ} {e : Element}
    (he : e ∈ (executeAll s (commands.take n)).store.scene.elements) :
    (∃ old ∈ s.scene.elements, old.id = e.id ∧ old.kind = e.kind) ∨
      ∃ i < n, ∃ c, commands[i]? = some c ∧
        (executeAll s commands).answer[i]? = some (.ok (.created e.id)) ∧
          c.kind? = some e.kind := by
  induction commands generalizing s n with
  | nil =>
    rw [List.take_nil] at he
    exact .inl ⟨e, he, rfl, rfl⟩
  | cons c commands ih =>
    cases n with
    | zero => exact .inl ⟨e, he, rfl, rfl⟩
    | succ n =>
      rw [List.take_succ_cons, executeAll_cons_store] at he
      rw [executeAll_cons_answer]
      obtain ⟨old, hold, hid, hkind⟩ | ⟨i, hi, later, hlater, hanswer, hkind⟩ := ih he
      · -- the element stood there after the first command
        obtain ⟨place, props, _, hanswer, _, hasked, helements⟩ | ⟨_, _, helements⟩ :=
          execute_issue s c
        · rw [helements, List.mem_append, List.mem_singleton] at hold
          rcases hold with hold | rfl
          · exact .inl ⟨old, hold, hid, hkind⟩
          · refine .inr ⟨0, Nat.succ_pos n, c, rfl, ?_, ?_⟩
            · rw [List.getElem?_cons_zero, hanswer, ← hid]
            · rw [hasked, ← hkind]
              rfl
        · obtain ⟨older, holder, hid', hkind'⟩ := helements old hold
          exact .inl ⟨older, holder, hid'.trans hid, hkind'.trans hkind⟩
      · exact .inr ⟨i + 1, Nat.succ_lt_succ hi, later, hlater, hanswer, hkind⟩

/-- In a run of commands on an empty scene, over a source whose candidates drawn in the run are
    distinct: no id is reported as created twice, and those reported are candidates of the source;
    and whatever number of commands was executed, an element that is there has an id one of these
    commands reported as created, and the kind asked for by the command that did. -/
theorem identity_is_for_life {s : Store} (hempty : s.scene.elements = [])
    (commands : List Command)
    (hids : s.ids.DistinctBefore (executeAll s commands).store.ids.drawn) :
    let results : List CommandResult := (executeAll s commands).answer
    (∀ (i j : ℕ) (id : ElementId), results[i]? = some (.ok (.created id)) →
        results[j]? = some (.ok (.created id)) → i = j) ∧
      (∀ (i : ℕ) (id : ElementId), results[i]? = some (.ok (.created id)) →
        ∃ place, s.ids.drawn ≤ place ∧ place < (executeAll s commands).store.ids.drawn ∧
          id = s.ids.candidate place) ∧
      ∀ n, ∀ e ∈ (executeAll s (commands.take n)).store.scene.elements,
        (∃ i : ℕ, i < n ∧ results[i]? = some (.ok (.created e.id))) ∧
          ∀ (i : ℕ) (c : Command), commands[i]? = some c →
            results[i]? = some (.ok (.created e.id)) → c.kind? = some e.kind := by
  intro results
  refine ⟨fun i j id => created_once hids, fun i id => created_drawn, fun n e he => ?_⟩
  obtain ⟨old, hold, -, -⟩ | ⟨i, hi, c, hc, hanswer, hkind⟩ := element_origin he
  · rw [hempty] at hold
    cases hold
  · refine ⟨⟨i, hi, hanswer⟩, fun j d hd hcreated => ?_⟩
    obtain rfl : i = j := created_once hids hanswer hcreated
    obtain rfl : c = d := Option.some.inj (hc.symm.trans hd)
    exact hkind

/-- A circle is made and cleared away, then a text, whose parameters name another id and type. -/
theorem text_after_cleared_circle :
    let s := Store.empty (.uuids 0)
    let params : Fields := [("id", .string ""), ("type", .string "image")]
    let commands : List Command := [⟨"create", some "circle", none, none⟩, .ofVerb "clear",
      ⟨"Create", some " TEXT ", none, some params⟩]
    s.scene.elements = [] ∧ s.ids.DistinctBefore (executeAll s commands).store.ids.drawn ∧
      ∃ circle text : ElementId,
        (executeAll s commands).answer =
            [.ok (.created circle), .ok (.cleared 1), .ok (.created text)] ∧
          circle ≠ text ∧
            ∃ e ∈ (executeAll s commands).store.scene.elements, e.id = text ∧ e.kind = .text := by
  intro s params commands
  have hverb : CommandVerb.parse? "Create" = some .create := by decide +kernel
  have htype : ElementKind.parse? " TEXT " = some .text := by decide +kernel
  have hparams : ElementProps.ofParams .text (some params) = .ok (.initial .text) :=
    eq_ok_of_toOption (by decide +kernel)
  have hcircle : ∀ s, dispatch Store.update s ⟨"create", some "circle", none, none⟩ =
      done (s.add (.initial .circle)) .created := fun s => rfl
  have hclear : ∀ s, dispatch Store.update s (.ofVerb "clear") = done s.clearAll .cleared :=
    fun s => rfl
  have htext : ∀ s, dispatch Store.update s ⟨"Create", some " TEXT ", none, some params⟩ =
      done (s.add (.initial .text)) .created := by
    intro s
    simp only [dispatch, Command.parsedVerb?, hverb, create, htype, hparams]
  let first := s.add (.initial .circle)
  let last := first.store.clearAll.store.add (.initial .text)
  have hanswer : (executeAll s commands).answer =
      [.ok (.created first.answer), .ok (.cleared 1), .ok (.created last.answer)] := by
    simp only [commands, executeAll_cons_answer, execute_answer, execute_store, hcircle, hclear,
      htext]
    rfl
  have hstore : (executeAll s commands).store = last.store := by
    simp only [commands, executeAll_cons_store, execute_store, hcircle, hclear, htext]
    rfl
  -- on a scene that is empty again no candidate is passed over
  have hdrawn : (executeAll s commands).store.ids.drawn = 2 := by
    have hfirst : first.store.ids.drawn = 1 := by
      rw [(Store.add_of_free List.not_mem_nil _).2]
      rfl
    have hlast : last.store.ids.drawn = first.store.ids.drawn + 1 := by
      rw [(Store.add_of_free List.not_mem_nil _).2]
      rfl
    rw [hstore, hlast, hfirst]
  have hdistinct : s.ids.DistinctBefore (executeAll s commands).store.ids.drawn := by
    intro m n _ hmn hn
    rw [hdrawn] at hn
    obtain ⟨rfl, rfl⟩ : m = 0 ∧ n = 1 := by omega
    decide +kernel
  obtain ⟨honce, -, hkind⟩ := identity_is_for_life (s := s) rfl commands hdistinct
  refine ⟨rfl, hdistinct, first.answer, last.answer, hanswer, fun hsame => ?_, ?_⟩
  · have hplace := honce 0 2 first.answer (by rw [hanswer]; rfl) (by rw [hanswer, hsame]; rfl)
    cases hplace
  · have htext : ⟨last.answer, .initial .text⟩ ∈ (executeAll s commands).store.scene.elements := by
      rw [hstore]
      exact List.mem_singleton.mpr rfl
    have hall : commands.take 3 = commands := rfl
    have hasked := (hkind 3 _ (hall.symm ▸ htext)).2 2 _ rfl (by rw [hanswer]; rfl)
    rw [Command.kind?, Option.bind_some, htype] at hasked
    exact ⟨⟨last.answer, .initial .text⟩, htext, rfl, (Option.some.inj hasked).symm⟩

end AgentCanvas
