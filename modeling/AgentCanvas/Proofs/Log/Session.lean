import AgentCanvas.Log.File
import AgentCanvas.Proofs.Log.Settings

set_option autoImplicit false

namespace AgentCanvas.LogSession

variable {σ : Type} {start : Starter σ} {s t : LogSession σ} {r : LogRequest}
  {settings active : LogSettings}

def answer (start : Starter σ) (s : LogSession σ) (r : LogRequest) : Except String Unit :=
  (s.request start r.level r.directory).1

def next (start : Starter σ) (s : LogSession σ) (r : LogRequest) : LogSession σ :=
  (s.request start r.level r.directory).2

def after (start : Starter σ) (s : LogSession σ) (requests : List LogRequest) : LogSession σ :=
  requests.foldl (next start) s

/-- The request asks for settings, and a log with them starts. -/
def Meets (start : Starter σ) (s : LogSession σ) (r : LogRequest) (settings : LogSettings) : Prop :=
  r.AsksFor settings ∧ (start settings s.world).1 = .ok ()

/-- None of the requests can be met when its turn comes. -/
def Fruitless (start : Starter σ) (s : LogSession σ) (requests : List LogRequest) : Prop :=
  ∀ before r later, requests = before ++ r :: later →
    ∀ settings, ¬ Meets start (s.after start before) r settings

/-! ## One request -/

/-- What a request can do: the answer to it and the session after it. -/
inductive Answered (start : Starter σ) (s : LogSession σ) (r : LogRequest) :
    Except String Unit → LogSession σ → Prop where
  | unreadable (message : String) (h : ∀ settings, ¬ r.AsksFor settings) :
      Answered start s r (.error message) s
  | repeated (active requested : LogSettings) (hactive : s.active = some active)
      (hasked : r.AsksFor requested) (hlevel : active.level = requested.level)
      (hpath : Path.SameAs active.directory requested.directory) : Answered start s r (.ok ()) s
  | refused (active requested : LogSettings) (message : String) (hactive : s.active = some active)
      (hasked : r.AsksFor requested)
      (hother : ¬ (active.level = requested.level ∧
        Path.SameAs active.directory requested.directory)) :
      Answered start s r (.error message) s
  | failed (requested : LogSettings) (message : String) (world : σ) (hidle : s.active = none)
      (hasked : r.AsksFor requested)
      (hfailed : start requested s.world = (.error message, world)) :
      Answered start s r (.error message) ⟨none, world⟩
  | started (requested : LogSettings) (world : σ) (hidle : s.active = none)
      (hasked : r.AsksFor requested) (hstarted : start requested s.world = (.ok (), world)) :
      Answered start s r (.ok ()) ⟨some requested, world⟩

theorem answered (start : Starter σ) (s : LogSession σ) (r : LogRequest) :
    Answered start s r (s.answer start r) (s.next start r) := by
  unfold answer next
  cases hparse : LogSettings.parse r.level r.directory with
  | error message =>
    simp only [request, hparse]
    refine .unreadable message fun settings hasked => ?_
    rw [LogSettings.parse_eq_ok_iff.mpr hasked] at hparse
    cases hparse
  | ok requested =>
    have hasked := LogSettings.parse_eq_ok_iff.mp hparse
    cases hactive : s.active with
    | some active =>
      cases hconflict : active.conflict? requested with
      | some message =>
        simp only [request, hparse, hactive, hconflict]
        refine .refused active requested message hactive hasked fun hsame => ?_
        rw [LogSettings.conflict?_eq_none_iff.mpr hsame] at hconflict
        cases hconflict
      | none =>
        simp only [request, hparse, hactive, hconflict]
        obtain ⟨hlevel, hpath⟩ := LogSettings.conflict?_eq_none_iff.mp hconflict
        exact .repeated active requested hactive hasked hlevel hpath
    | none =>
      rcases hstart : start requested s.world with ⟨message | _, world⟩
      · simp only [request, hparse, hactive, hstart]
        exact .failed requested message world hactive hasked hstart
      · simp only [request, hparse, hactive, hstart]
        exact .started requested world hactive hasked hstart

section Answered

variable {result : Except String Unit}

theorem Answered.of_active (h : Answered start s r result t) (hactive : s.active = some active) :
    t = s := by
  cases h with
  | unreadable | repeated | refused => rfl
  | failed _ _ _ hidle | started _ _ hidle => rw [hactive] at hidle; cases hidle

theorem Answered.ok_iff_of_active (h : Answered start s r result t)
    (hactive : s.active = some active) : result = .ok () ↔ ∃ again, r.AsksFor again ∧
      active.level = again.level ∧ Path.SameAs active.directory again.directory := by
  cases h with
  | unreadable message hnone => simp [hnone]
  | repeated found requested hfound hasked hlevel hpath =>
    obtain rfl : active = found := Option.some.inj (hactive.symm.trans hfound)
    exact iff_of_true rfl ⟨requested, hasked, hlevel, hpath⟩
  | refused found requested message hfound hasked hother =>
    obtain rfl : active = found := Option.some.inj (hactive.symm.trans hfound)
    refine iff_of_false nofun ?_
    rintro ⟨again, hagain, hsame⟩
    rw [hasked.unique hagain] at hother
    exact hother hsame
  | failed _ _ _ hidle | started _ _ hidle => rw [hactive] at hidle; cases hidle

theorem Answered.of_not_meets (h : Answered start s r result t) (hidle : s.active = none)
    (hnone : ∀ settings, ¬ Meets start s r settings) :
    t.active = none ∧ ∃ message, result = .error message := by
  cases h with
  | unreadable message => exact ⟨hidle, message, rfl⟩
  | failed _ message => exact ⟨rfl, message, rfl⟩
  | started requested world _ hasked hstarted =>
    exact absurd ⟨hasked, by rw [hstarted]⟩ (hnone requested)
  | repeated _ _ hactive | refused _ _ _ hactive => rw [hidle] at hactive; cases hactive

theorem Answered.of_meets (h : Answered start s r result t) (hidle : s.active = none)
    (hmet : Meets start s r settings) :
    result = .ok () ∧ t = ⟨some settings, (start settings s.world).2⟩ := by
  obtain ⟨hasked, hstarted⟩ := hmet
  cases h with
  | unreadable message hnone => exact absurd hasked (hnone settings)
  | failed requested message world _ hrequested hfailed =>
    rw [hasked.unique hrequested, hfailed] at hstarted
    cases hstarted
  | started requested world _ hrequested hworld =>
    rw [hasked.unique hrequested, hworld]
    exact ⟨rfl, rfl⟩
  | repeated _ _ hactive | refused _ _ _ hactive => rw [hidle] at hactive; cases hactive

end Answered

/-! ## Requests one after the other -/

theorem after_cons (r : LogRequest) (requests : List LogRequest) :
    s.after start (r :: requests) = (s.next start r).after start requests := by
  simp only [after, List.foldl_cons]

theorem after_append (first second : List LogRequest) :
    s.after start (first ++ second) = (s.after start first).after start second :=
  List.foldl_append

theorem after_of_active (h : s.active = some active) (requests : List LogRequest) :
    s.after start requests = s := by
  induction requests with
  | nil => rfl
  | cons r requests ih => rw [after_cons, (answered start s r).of_active h, ih]

theorem Fruitless.head {requests : List LogRequest} (h : Fruitless start s (r :: requests))
    (settings : LogSettings) : ¬ Meets start s r settings :=
  h [] r requests rfl settings

theorem Fruitless.tail {requests : List LogRequest} (h : Fruitless start s (r :: requests)) :
    Fruitless start (s.next start r) requests := by
  intro before q later hsplit settings
  rw [← after_cons]
  exact h (r :: before) q later (by rw [hsplit, List.cons_append]) settings

theorem Fruitless.init {requests more : List LogRequest}
    (h : Fruitless start s (requests ++ more)) : Fruitless start s requests := by
  intro before q later hsplit settings
  exact h before q (later ++ more) (by rw [hsplit, List.append_assoc, List.cons_append]) settings

theorem fruitless_nil : Fruitless start s [] := by
  intro before r later hsplit
  simp at hsplit

theorem fruitless_cons {requests : List LogRequest} (hidle : s.active = none)
    (hfails : s.answer start r ≠ .ok ()) (h : Fruitless start (s.next start r) requests) :
    Fruitless start s (r :: requests) := by
  intro before q later hsplit settings hmet
  cases before with
  | nil =>
    obtain ⟨rfl, rfl⟩ := List.cons.inj hsplit
    exact hfails ((answered start s r).of_meets hidle hmet).1
  | cons first before =>
    obtain ⟨rfl, hrest⟩ := List.cons.inj hsplit
    rw [after_cons] at hmet
    exact h before q later hrest settings hmet

theorem active_after_fruitless (hidle : s.active = none) {requests : List LogRequest}
    (h : Fruitless start s requests) : (s.after start requests).active = none := by
  induction requests generalizing s with
  | nil => exact hidle
  | cons r requests ih =>
    rw [after_cons]
    exact ih ((answered start s r).of_not_meets hidle h.head).1 h.tail

/-- The session once a request was met, and any requests behind it were answered. -/
theorem after_first_met (hidle : s.active = none) {before : List LogRequest}
    (hbefore : Fruitless start s before) (hmet : Meets start (s.after start before) r settings)
    (later : List LogRequest) :
    s.after start (before ++ r :: later) =
      ⟨some settings, (start settings (s.after start before).world).2⟩ := by
  have hnone := active_after_fruitless hidle hbefore
  have hnext := ((answered start _ r).of_meets hnone hmet).2
  calc s.after start (before ++ r :: later)
      = ((s.after start before).next start r).after start later := by
        rw [after_append, after_cons]
    _ = (s.after start before).next start r := after_of_active (by rw [hnext]) later
    _ = ⟨some settings, (start settings (s.after start before).world).2⟩ := hnext

/-- A log is started once. While no request can be met there is none, and each request fails. The
    first that can be met succeeds and decides which log there is; every later one leaves it as it
    is, and succeeds if and only if it asks for that level and for a path to that directory. -/
theorem log_is_started_once (start : Starter σ) (world : σ) :
    (∀ requests, Fruitless start (idle world) requests →
      ((idle world).after start requests).status = none) ∧
    (∀ requests r, Fruitless start (idle world) (requests ++ [r]) →
      ∃ message, ((idle world).after start requests).answer start r = .error message) ∧
    ∀ before r settings, Fruitless start (idle world) before →
      Meets start ((idle world).after start before) r settings →
      ((idle world).after start before).answer start r = .ok () ∧
      ∀ later, let session := (idle world).after start (before ++ r :: later)
        session.status = some (settings.level, settings.directory) ∧
        session.world = (start settings ((idle world).after start before).world).2 ∧
        ∀ q, session.answer start q = .ok () ↔ ∃ again, q.AsksFor again ∧
          settings.level = again.level ∧ Path.SameAs settings.directory again.directory := by
  refine ⟨fun requests h => ?_, fun requests r h => ?_, fun before r settings hbefore hmet => ?_⟩
  · rw [status, active_after_fruitless rfl h, Option.map_none]
  · have hlast := h requests r [] rfl
    exact ((answered start _ r).of_not_meets (active_after_fruitless rfl h.init) hlast).2
  · have hnone := active_after_fruitless rfl hbefore
    refine ⟨((answered start _ r).of_meets hnone hmet).1, fun later => ?_⟩
    have hsession := after_first_met rfl hbefore hmet later
    refine ⟨?_, ?_, fun q => (answered start _ q).ok_iff_of_active ?_⟩
    · rw [hsession, status, Option.map_some]
    · rw [hsession]
    · rw [hsession]

/-- A file stands where the third request wants its directory. The fourth one starts a log, which
    is told apart by its level and its path, but not by how they are spelled. -/
theorem log_is_started_at_the_fourth_request :
    let world : LogWorld :=
      ⟨⟨[("notes", .file []), ("log", .directory [])]⟩, false, false⟩
    let before : List LogRequest := [⟨"warn", "log"⟩, ⟨"loud", "/log"⟩, ⟨"warn", "/notes/log"⟩]
    let session := (idle world).after LogWorld.start
      (before ++ ⟨" WARNING\n", " /log "⟩ :: [⟨"info", "/log"⟩])
    ((idle world).after LogWorld.start before).status = none ∧
    (∃ message, ((idle world).after LogWorld.start (before.take 2)).answer LogWorld.start
      ⟨"warn", "/notes/log"⟩ = .error message) ∧
    session.status = some (.warn, "/log") ∧
    session.answer LogWorld.start ⟨"Warn", "//log/./"⟩ = .ok () ∧
    session.answer LogWorld.start ⟨"info", "/log"⟩ ≠ .ok () := by
  intro world before session
  have hbefore : Fruitless LogWorld.start (idle world) before :=
    fruitless_cons rfl (by decide +kernel) <|
      fruitless_cons (by decide +kernel) (by decide +kernel) <|
      fruitless_cons (by decide +kernel) (by decide +kernel) fruitless_nil
  have hmet : Meets LogWorld.start ((idle world).after LogWorld.start before)
      ⟨" WARNING\n", " /log "⟩ ⟨.warn, "/log"⟩ :=
    ⟨LogSettings.parse_eq_ok_iff.mp (by decide +kernel), by decide +kernel⟩
  obtain ⟨hnone, hfails, hstarted⟩ := log_is_started_once LogWorld.start world
  obtain ⟨-, hlater⟩ := hstarted before _ _ hbefore hmet
  obtain ⟨hstatus, -, hanswer⟩ := hlater [⟨"info", "/log"⟩]
  refine ⟨hnone before hbefore, hfails (before.take 2) _ hbefore, hstatus,
    (hanswer _).mpr ?_, fun hok => ?_⟩
  · exact ⟨⟨.warn, "//log/./"⟩, LogSettings.parse_eq_ok_iff.mp (by decide +kernel), rfl,
      Path.same_iff.mp (by decide +kernel)⟩
  · obtain ⟨again, hasked, hlevel, -⟩ := (hanswer _).mp hok
    have hinfo : (⟨"info", "/log"⟩ : LogRequest).AsksFor ⟨.info, "/log"⟩ :=
      LogSettings.parse_eq_ok_iff.mp (by decide +kernel)
    rw [hasked.unique hinfo] at hlevel
    cases hlevel

end AgentCanvas.LogSession
