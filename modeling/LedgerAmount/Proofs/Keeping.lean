import Mathlib.Data.List.Induction
import LedgerAmount.Proofs.Plans

/-!
# Keeping what is loaded

A part of the settings that was loaded by some request is kept until the settings are dropped, and
every use sees it as it was loaded, whatever becomes of its sources. Until it is loaded, each use
reads the sources as they are at that moment. A load that fails leaves the session as it is, and so
the other part too.
-/

namespace LedgerAmount

open Call

namespace Session

/-- The session after some requests. -/
def after (session : Session) (requests : List Request) : Session := (session.serveAll requests).2

@[simp] theorem after_nil (session : Session) : session.after [] = session := rfl

theorem after_cons (session : Session) (request : Request) (requests : List Request) :
    session.after (request :: requests) = (session.serve request).2.after requests := rfl

theorem after_append (session : Session) (requests later : List Request) :
    session.after (requests ++ later) = (session.after requests).after later := by
  induction requests generalizing session with
  | nil => rfl
  | cons request requests ih => exact ih (session.serve request).2

end Session

namespace Part

variable {part : Part} {session : Session} {request : Request} {requests later : List Request}
  {settings : part.Settings}

/-- A request loads settings for a part: it uses the part, of which nothing is kept so far, and the
sources give these settings at that moment. -/
structure LoadedBy (part : Part) (session : Session) (request : Request)
    (settings : part.Settings) : Prop where
  used : part ∈ session.uses request
  unkept : part.kept session = none
  loaded : part.load (session.sources []) = .ok settings

/-- To drop the settings is not to load them. -/
theorem LoadedBy.ne_dropSettings (h : part.LoadedBy session request settings) :
    request ≠ .dropSettings := by
  rintro rfl
  exact List.not_mem_nil h.used

theorem kept_dropSettings : part.kept (session.serve .dropSettings).2 = none := by
  cases part <;> rfl

/-- What a request leaves of a part was there before, or is loaded by it. -/
theorem kept_serve_iff : part.kept (session.serve request).2 = some settings ↔
    request ≠ .dropSettings ∧
      (part.kept session = some settings ∨ part.LoadedBy session request settings) := by
  by_cases hdrop : request = .dropSettings
  · subst hdrop
    simp [kept_dropSettings]
  rw [(session.serve_eq request).2 hdrop part]
  cases hkept : part.kept session with
  | some before =>
    -- What is kept is in force, so nothing is loaded in its place.
    have hloaded : ¬part.LoadedBy session request settings := by
      intro h
      rw [h.unkept] at hkept
      cases hkept
    simp [inForce_of_kept hkept, Except.toOption, hdrop, hloaded]
  | none =>
    have hloaded : part.LoadedBy session request settings ↔
        part ∈ session.uses request ∧ part.load (session.sources []) = .ok settings :=
      ⟨fun h => ⟨h.used, h.loaded⟩, fun h => ⟨h.1, hkept, h.2⟩⟩
    rw [inForce_of_not_kept hkept, hloaded]
    by_cases hused : part ∈ session.uses request
    · cases part.load (session.sources []) <;> simp [hused, hdrop, Except.toOption]
    · simp [hused]

/-- What is kept stays kept until the settings are dropped. -/
theorem kept_serve_of_kept (h : part.kept session = some settings)
    (hdrop : request ≠ .dropSettings) : part.kept (session.serve request).2 = some settings :=
  kept_serve_iff.mpr ⟨hdrop, .inl h⟩

theorem kept_after_of_kept (h : part.kept session = some settings)
    (hdrop : .dropSettings ∉ later) : part.kept (session.after later) = some settings := by
  induction later generalizing session with
  | nil => exact h
  | cons request later ih =>
    rw [List.mem_cons, not_or] at hdrop
    exact ih (kept_serve_of_kept h fun hrequest => hdrop.1 hrequest.symm) hdrop.2

/-! ## Runs -/

/-- Settings were loaded for a part by one of some requests, and not dropped by a later one. -/
def LoadedIn (part : Part) (requests : List Request) (settings : part.Settings) : Prop :=
  ∃ before request later, requests = before ++ request :: later ∧
    part.LoadedBy (Session.initial.after before) request settings ∧ .dropSettings ∉ later

theorem not_loadedIn_nil : ¬part.LoadedIn [] settings := by
  rintro ⟨before, request, later, hsplit, -⟩
  simp at hsplit

/-- Settings that one more request leaves loaded were so before, or it loads them. -/
theorem loadedIn_append_singleton : part.LoadedIn (requests ++ [request]) settings ↔
    request ≠ .dropSettings ∧ (part.LoadedIn requests settings ∨
      part.LoadedBy (Session.initial.after requests) request settings) := by
  constructor
  · rintro ⟨before, first, later, hsplit, hloaded, hdrop⟩
    -- The request that loaded the settings is the last one, or it was there before.
    rcases List.eq_nil_or_concat' later with rfl | ⟨later, last, rfl⟩
    · obtain ⟨rfl, hfirst⟩ := List.append_inj' hsplit rfl
      obtain rfl := List.singleton_inj.mp hfirst
      exact ⟨hloaded.ne_dropSettings, .inr hloaded⟩
    · rw [← List.cons_append, ← List.append_assoc] at hsplit
      obtain ⟨rfl, hlast⟩ := List.append_inj' hsplit rfl
      obtain rfl := List.singleton_inj.mp hlast
      simp only [List.mem_append, List.mem_singleton, not_or] at hdrop
      exact ⟨fun hrequest => hdrop.2 hrequest.symm,
        .inl ⟨before, first, later, rfl, hloaded, hdrop.1⟩⟩
  · rintro ⟨hrequest, ⟨before, first, later, rfl, hloaded, hdrop⟩ | hloaded⟩
    · refine ⟨before, first, later ++ [request], by simp, hloaded, ?_⟩
      simp [hdrop, hrequest.symm]
    · exact ⟨requests, request, [], rfl, hloaded, List.not_mem_nil⟩

/-- At the end of a run that is kept which was loaded in the run and not dropped. -/
theorem kept_after_iff : part.kept (Session.initial.after requests) = some settings ↔
    part.LoadedIn requests settings := by
  induction requests using List.reverseRecOn with
  | nil =>
    cases part <;> simp [not_loadedIn_nil, Session.initial, kept]
  | append_singleton requests request ih =>
    rw [loadedIn_append_singleton, ← ih, Session.after_append, Session.after_cons,
      Session.after_nil, kept_serve_iff]

/-- At the end of a run nothing is kept exactly if whatever was loaded in it was dropped. -/
theorem kept_after_eq_none_iff : part.kept (Session.initial.after requests) = none ↔
    ∀ settings, ¬part.LoadedIn requests settings := by
  simp only [← kept_after_iff]
  exact Option.eq_none_iff_forall_ne_some

/-- What calls make of a part of the settings in a session, if these settings are loaded in it. -/
structure Keeps (part : Part) (session : Session) (isLoaded : part.Settings → Prop) : Prop where
  /-- Once settings are loaded, every use sees them and leaves the session as it is, whatever is
  requested in between, until the settings are dropped. -/
  loaded : ∀ settings, isLoaded settings → ∀ later, .dropSettings ∉ later →
    runIn part.use (session.after later) = (.ok settings, session.after later)
  /-- As long as none are loaded, a use reads the sources as they are. -/
  unloaded : (∀ settings, ¬isLoaded settings) → runIn part.use session =
    match part.load (session.sources []) with
    | .ok settings => (.ok settings, part.keep session settings)
    | .error faults => (.error (.invalid faults), session)
  /-- A use that fails, of this part or the other, leaves the session as it is. -/
  failed : ∀ (other : Part) failure, (runIn other.use session).1 = .error failure →
    (runIn other.use session).2 = session
  /-- A request is answered by its plan, each use of which is given what is in force. -/
  answered : ∀ request, (session.serve request).1.answer =
    (session.plan request).read (Part.inForce session)
  /-- A request leaves of a part what is in force, if its plan uses it, and else what was kept. -/
  served : ∀ request, request ≠ .dropSettings → part.kept (session.serve request).2 =
    if part ∈ session.uses request then (part.inForce session).toOption else part.kept session

/-- In every run each part of the settings is kept as it was loaded, from then on until the settings
are dropped, and each use loads it anew as long as that fails. -/
theorem keeps_after (part : Part) (requests : List Request) :
    part.Keeps (Session.initial.after requests) (part.LoadedIn requests) := by
  constructor
  · intro settings hloaded later hdrop
    exact runIn_use_of_kept (kept_after_of_kept (kept_after_iff.mpr hloaded) hdrop)
  · intro hunloaded
    exact runIn_use_of_not_kept (kept_after_eq_none_iff.mpr hunloaded)
  · intro other failure hfailed
    rw [runIn_use] at hfailed ⊢
    cases hinForce : other.inForce (Session.initial.after requests) with
    | error faults => rfl
    | ok settings =>
      rw [hinForce] at hfailed
      cases hfailed
  · intro request
    exact (Session.serve_eq _ request).1
  · intro request hdrop
    exact (Session.serve_eq _ request).2 hdrop part

/-- The settings that an expression was divided by are kept when the environment and the file
change. The other part, which could not be loaded, is read from what they have become, and so is
this one once it was dropped. -/
theorem keeps_after_evaluation :
    let requests : List Request :=
      [.setEnvironment [("EVALUATOR_DIVISION_SCALE", some "2"), ("LOG_LEVEL", some "loud")],
        .setFile (some "EVALUATOR_ROUNDING=ROUND_UP\nLOG_JSON=maybe"),
        .evaluate "2/3" none none,
        .setEnvironment [("EVALUATOR_DIVISION_SCALE", some "5"), ("LOG_LEVEL", some "error")],
        .setFile (some "EVALUATOR_ROUNDING=ROUND_DOWN\nLOG_JSON=off")]
    let dropped := requests ++ [.dropSettings]
    evaluator.LoadedIn requests ⟨2, .up⟩ ∧ (∀ settings, ¬app.LoadedIn requests settings) ∧
      (runIn evaluator.use (Session.initial.after requests)).1 = .ok ⟨2, .up⟩ ∧
      (runIn app.use (Session.initial.after requests)).1 =
        .ok ⟨"development", false, .error, false⟩ ∧
      (∀ settings, ¬evaluator.LoadedIn dropped settings) ∧
      (runIn evaluator.use (Session.initial.after dropped)).1 = .ok ⟨5, .down⟩ := by
  intro requests dropped
  have hevaluator : evaluator.LoadedIn requests ⟨2, .up⟩ :=
    kept_after_iff.mp (by decide +kernel)
  have happ : ∀ settings, ¬app.LoadedIn requests settings :=
    kept_after_eq_none_iff.mp (by decide +kernel)
  have hload : app.load ((Session.initial.after requests).sources []) =
      .ok ⟨"development", false, .error, false⟩ := by decide +kernel
  have hdropped : ∀ settings, ¬evaluator.LoadedIn dropped settings :=
    kept_after_eq_none_iff.mp (by decide +kernel)
  have hreload : evaluator.load ((Session.initial.after dropped).sources []) = .ok ⟨5, .down⟩ := by
    decide +kernel
  refine ⟨hevaluator, happ, ?_, ?_, hdropped, ?_⟩
  · have huse := (keeps_after evaluator requests).loaded _ hevaluator [] List.not_mem_nil
    rw [Session.after_nil] at huse
    rw [huse]
  · rw [(keeps_after app requests).unloaded happ, hload]
  · rw [(keeps_after evaluator dropped).unloaded hdropped, hreload]

end Part

end LedgerAmount
