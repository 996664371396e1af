import AgentCanvas.Proofs.Scene.Runs

set_option autoImplicit false

namespace AgentCanvas

def Operation.isSubscribe : Operation → Bool
  | .subscribe => true
  | _ => false

/-- The inboxes an operation opens. -/
def Operation.opened : Operation → List (List Snapshot)
  | .subscribe => [[]]
  | _ => []

theorem Operation.length_opened (operation : Operation) :
    operation.opened.length = if operation.isSubscribe then 1 else 0 := by
  cases operation <;> rfl

namespace Store

/-- Whether an operation answers that it was done. A patch or a removal may fail; a subscription is
    no edit of the scene. -/
def isDone (s : Store) : Operation → Bool
  | .update id patch =>
    match (s.update id patch).answer with
    | .ok found => found
    | .error _ => false
  | .remove id => (s.remove id).answer
  | .subscribe => false
  | .add _ | .select _ | .clearSelection | .clearAll => true

/-- The snapshots taken right after those operations of a run that were done. -/
def snapshotsOf (s : Store) : List Operation → List Snapshot
  | [] => []
  | operation :: operations =>
    if s.isDone operation then
      (s.apply operation).scene.snapshot :: (s.apply operation).snapshotsOf operations
    else (s.apply operation).snapshotsOf operations

theorem apply_of_done {s : Store} {operation : Operation} (h : s.isDone operation = true) :
    (s.apply operation).inboxes =
      s.inboxes.map fun inbox => inbox ++ [(s.apply operation).scene.snapshot] := by
  cases operation with
  | add props => rfl
  | update id patch =>
    obtain ⟨_, hs⟩ | ⟨_, _, _, _, hs⟩ | ⟨_, _, _, _, hs⟩ := s.update_cases id patch
    · simp [isDone, hs] at h
    · simp [isDone, hs] at h
    · rw [apply, hs]
      rfl
  | remove id =>
    obtain ⟨_, hs⟩ | ⟨_, hs⟩ := s.remove_cases id
    · simp [isDone, hs] at h
    · rw [apply, hs]
      rfl
  | select selected => rfl
  | clearSelection => rfl
  | clearAll => rfl
  | subscribe => cases h

theorem apply_of_not_done {s : Store} {operation : Operation} (h : s.isDone operation = false) :
    (s.apply operation).scene = s.scene ∧
      (s.apply operation).inboxes = s.inboxes ++ operation.opened := by
  cases operation with
  | update id patch =>
    obtain ⟨_, hs⟩ | ⟨_, _, _, _, hs⟩ | ⟨_, _, _, _, hs⟩ := s.update_cases id patch
    · rw [apply, hs]
      exact ⟨rfl, (List.append_nil _).symm⟩
    · rw [apply, hs]
      exact ⟨rfl, (List.append_nil _).symm⟩
    · simp [isDone, hs] at h
  | remove id =>
    obtain ⟨_, hs⟩ | ⟨_, hs⟩ := s.remove_cases id
    · rw [apply, hs]
      exact ⟨rfl, (List.append_nil _).symm⟩
    · simp [isDone, hs] at h
  | subscribe => exact ⟨rfl, rfl⟩
  | add props => cases h
  | select selected => cases h
  | clearSelection => cases h
  | clearAll => cases h

theorem length_inboxes_apply (s : Store) (operation : Operation) :
    (s.apply operation).inboxes.length =
      s.inboxes.length + if operation.isSubscribe then 1 else 0 := by
  cases h : s.isDone operation with
  | true =>
    have hopened : operation.isSubscribe = false := by
      cases operation with
      | subscribe => cases h
      | add | update | remove | select | clearSelection | clearAll => rfl
    rw [apply_of_done h, List.length_map, hopened]
    rfl
  | false =>
    rw [(apply_of_not_done h).2, List.length_append, operation.length_opened]

/-- Every inbox that has received something ends with the scene as it is. -/
def InboxesCurrent (s : Store) : Prop :=
  ∀ inbox ∈ s.inboxes, ∀ last, inbox.getLast? = some last → last = s.scene.snapshot

theorem InboxesCurrent.apply {s : Store} (hs : s.InboxesCurrent) (operation : Operation) :
    (s.apply operation).InboxesCurrent := by
  intro inbox hinbox last hlast
  cases h : s.isDone operation with
  | true =>
    rw [apply_of_done h] at hinbox
    obtain ⟨older, -, rfl⟩ := List.mem_map.mp hinbox
    rw [List.getLast?_concat] at hlast
    exact (Option.some.inj hlast).symm
  | false =>
    obtain ⟨hscene, hinboxes⟩ := apply_of_not_done h
    rw [hinboxes, List.mem_append] at hinbox
    rw [hscene]
    rcases hinbox with hold | hnew
    · exact hs inbox hold last hlast
    · -- an inbox that was just opened is empty
      cases operation with
      | subscribe =>
        rw [List.mem_singleton.mp hnew] at hlast
        cases hlast
      | add | update | remove | select | clearSelection | clearAll => cases hnew

theorem run_append (s : Store) (first second : List Operation) :
    s.run (first ++ second) = (s.run first).run second :=
  List.foldl_append

theorem length_inboxes_run (s : Store) (operations : List Operation) :
    (s.run operations).inboxes.length =
      s.inboxes.length + operations.countP Operation.isSubscribe := by
  induction operations generalizing s with
  | nil => rfl
  | cons operation operations ih =>
    rw [List.countP_cons]
    have hrest := ih (s.apply operation)
    have hhere := s.length_inboxes_apply operation
    change ((s.apply operation).run operations).inboxes.length = _
    omega

theorem InboxesCurrent.run {s : Store} (hs : s.InboxesCurrent) (operations : List Operation) :
    (s.run operations).InboxesCurrent := by
  induction operations generalizing s with
  | nil => exact hs
  | cons operation operations ih => exact ih (hs.apply operation)

theorem inbox_run {s : Store} {place : ℕ} {inbox : List Snapshot}
    (h : s.inboxes[place]? = some inbox) (operations : List Operation) :
    (s.run operations).inboxes[place]? = some (inbox ++ s.snapshotsOf operations) := by
  induction operations generalizing s inbox with
  | nil =>
    rw [snapshotsOf, List.append_nil]
    exact h
  | cons operation operations ih =>
    change ((s.apply operation).run operations).inboxes[place]? = _
    rw [snapshotsOf]
    cases hdone : s.isDone operation with
    | true =>
      have hnext : (s.apply operation).inboxes[place]? =
          some (inbox ++ [(s.apply operation).scene.snapshot]) := by
        rw [apply_of_done hdone, List.getElem?_map, h]
        rfl
      rw [ih hnext, List.append_assoc]
      rfl
    | false =>
      have hplace : place < s.inboxes.length := (List.getElem?_eq_some_iff.mp h).1
      have hnext : (s.apply operation).inboxes[place]? = some inbox := by
        rw [(apply_of_not_done hdone).2, List.getElem?_append_left hplace, h]
      exact ih hnext

/-- In every run from an empty scene, with subscriptions anywhere: there is one inbox for each
    subscription, and it holds the snapshots taken right after the later operations that were done,
    in order. A patch or a removal without an element to act on, and a patch that does not fit, are
    not done. What is not done leaves the snapshot alone, so that an inbox that is not empty ends
    with the snapshot of the scene as it is. -/
theorem observers_mirror_scene (ids : IdSource) (before after : List Operation) :
    let s := (empty ids).run before
    let t := (empty ids).run (before ++ .subscribe :: after)
    t.inboxes.length = (before ++ .subscribe :: after).countP Operation.isSubscribe ∧
      t.inboxes[before.countP Operation.isSubscribe]? = some (s.subscribe.snapshotsOf after) ∧
      (∀ id patch, id ∉ t.scene.ids → t.isDone (.update id patch) = false) ∧
      (∀ id patch e why, t.scene.get? id = some e → e.props.merged patch = .error why →
        t.isDone (.update id patch) = false) ∧
      (∀ id, id ∉ t.scene.ids → t.isDone (.remove id) = false) ∧
      (∀ operation, t.isDone operation = false →
        (t.apply operation).scene.snapshot = t.scene.snapshot) ∧
      ∀ inbox ∈ t.inboxes, ∀ last, inbox.getLast? = some last → last = t.scene.snapshot := by
  intro s t
  have hempty : (empty ids).InboxesCurrent := fun _ h => absurd h List.not_mem_nil
  refine ⟨?_, ?_, ?_, ?_, ?_, ?_, hempty.run _⟩
  · rw [length_inboxes_run]
    exact Nat.zero_add _
  · have hlength : s.inboxes.length = before.countP Operation.isSubscribe := by
      rw [length_inboxes_run]
      exact Nat.zero_add _
    have hopened : s.subscribe.inboxes[before.countP Operation.isSubscribe]? = some [] := by
      rw [← hlength]
      exact List.getElem?_concat_length
    have hrun : t = s.subscribe.run after := run_append (empty ids) before _
    rw [hrun]
    exact inbox_run hopened after
  · intro id patch hid
    have hget := (t.scene.get?_eq_none_iff id).mpr hid
    simp [isDone, Store.update, hget]
  · intro id patch e why hget hwhy
    simp [isDone, Store.update, hget, hwhy]
  · intro id hid
    simp [isDone, Store.remove, t.scene.contains_eq_decide, hid]
  · intro operation hdone
    rw [(apply_of_not_done hdone).1]

end Store
end AgentCanvas
