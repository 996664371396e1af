import AgentCanvas.Proofs.Command.Steps

set_option autoImplicit false

namespace AgentCanvas

def keepAt {α : Type} : (ℕ → Bool) → List α → List α
  | _, [] => []
  | keep, x :: xs =>
    if keep 0 then x :: keepAt (fun n => keep (n + 1)) xs else keepAt (fun n => keep (n + 1)) xs

/-- What is left out of a list of results are failures only. -/
def DropsFailures (keep : ℕ → Bool) (results : List CommandResult) : Prop :=
  ∀ n result, keep n = false → results[n]? = some result → ∃ error, result = .error error

theorem DropsFailures.tail {keep : ℕ → Bool} {result : CommandResult}
    {results : List CommandResult} (h : DropsFailures keep (result :: results)) :
    DropsFailures (fun n => keep (n + 1)) results := by
  intro n other hn hother
  exact h (n + 1) other hn (by simpa using hother)

theorem executeAll_keepAt (s : Store) (commands : List Command) (keep : ℕ → Bool)
    (h : DropsFailures keep (executeAll s commands).answer) :
    (executeAll s (keepAt keep commands)).store = (executeAll s commands).store ∧
      (executeAll s (keepAt keep commands)).answer = keepAt keep (executeAll s commands).answer := by
  induction commands generalizing s keep with
  | nil => exact ⟨rfl, rfl⟩
  | cons c commands ih =>
    rw [executeAll_cons_answer] at h
    obtain ⟨hstore, hanswer⟩ := ih (execute s c).store _ h.tail
    cases hk : keep 0 with
    | true =>
      simp only [keepAt, hk, if_true, executeAll_cons_store, executeAll_cons_answer]
      exact ⟨hstore, by rw [hanswer]⟩
    | false =>
      -- what is left out failed, so the rest starts from the store it starts from in the full batch
      obtain ⟨error, herror⟩ := h 0 _ hk rfl
      have hs : (execute s c).store = s := execute_store_of_error herror
      simp only [keepAt, hk, Bool.false_eq_true, if_false, executeAll_cons_store,
        executeAll_cons_answer]
      rw [hs] at hstore hanswer ⊢
      exact ⟨hstore, hanswer⟩

/-- A command that fails leaves the store as it was, with its scene, its inboxes and its source of
    ids. And a batch without any choice of the commands that fail in it leads to the same store, and
    gives the same result for every command that is left. -/
theorem failures_leave_no_trace :
    (∀ (s : Store) (c : Command) (error : CommandError),
      (execute s c).answer = .error error → (execute s c).store = s) ∧
    ∀ (s : Store) (commands : List Command) (keep : ℕ → Bool),
      DropsFailures keep (executeAll s commands).answer →
        (executeAll s (keepAt keep commands)).store = (executeAll s commands).store ∧
          (executeAll s (keepAt keep commands)).answer =
            keepAt keep (executeAll s commands).answer :=
  ⟨fun _ _ _ h => execute_store_of_error h, executeAll_keepAt⟩

theorem failure_between_changes :
    let s := Store.empty (.uuids 0)
    let before : Command := ⟨"create", some "circle", none, none⟩
    let failing := Command.ofVerb "fly"
    let after : Command := ⟨"select", none, some "x", none⟩
    let keep : ℕ → Bool := fun n => n != 1
    (execute s failing).answer = .error (.unknownVerb "fly") ∧ (execute s failing).store = s ∧
      DropsFailures keep (executeAll s [before, failing, after]).answer ∧
      (executeAll s [before, after]).store = (executeAll s [before, failing, after]).store ∧
      (executeAll s [before, after]).answer =
        keepAt keep (executeAll s [before, failing, after]).answer := by
  have hfails : ∀ s, (execute s (.ofVerb "fly")).answer = .error (.unknownVerb "fly") := by
    intro s
    rw [execute_answer]
    rfl
  intro s before failing after keep
  have hdrops : DropsFailures keep (executeAll s [before, failing, after]).answer := by
    intro n result hn hresult
    have h1 : n = 1 := by simpa [keep] using hn
    subst h1
    rw [executeAll_cons_answer, executeAll_cons_answer, List.getElem?_cons_succ,
      List.getElem?_cons_zero] at hresult
    exact ⟨_, (Option.some.inj hresult).symm.trans (hfails _)⟩
  have hkept : keepAt keep [before, failing, after] = [before, after] := rfl
  have hbatch := failures_leave_no_trace.2 s [before, failing, after] keep hdrops
  rw [hkept] at hbatch
  exact ⟨hfails s, failures_leave_no_trace.1 s failing _ (hfails s), hdrops, hbatch⟩

end AgentCanvas
