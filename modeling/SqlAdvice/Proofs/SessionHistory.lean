import SqlAdvice.Settings.Session
import Mathlib.Data.List.Induction

/-!
# Histories of a session

The settings of a session after any history: changes of its surroundings, questions for its settings,
and its being told to forget them, in any order.

What a question is answered with depends on the history in one of two ways.  Settings that were given
and not forgotten since are given again (`Session.IsRemembered`), without a line in the log and
whatever has changed.  Otherwise they are loaded from the surroundings as they are, and these are what
the changes alone have made of them: questions leave no trace there (`Session.surroundings_afterAll`).
The two cases are told apart by what the session keeps (`Session.kept_afterAll`), which is proved
along the history, from its end.
-/

namespace SqlAdvice.Settings.Session

/-- What can happen in a session. -/
inductive Event where
  | change (change : Change)
  /-- The settings are asked for. -/
  | ask

/-- The change that an event is, unless it is a question. -/
def Event.change? : Event → Option Change
  | .change c => some c
  | .ask => none

/-- The session after an event. -/
def after (s : Session) : Event → Session
  | .change c => s.apply c
  | .ask => s.settings.2

/-- The session after a history. -/
def afterAll (s : Session) (events : List Event) : Session :=
  events.foldl after s

/-- The session after the changes of a history, where nothing was asked. -/
def changedBy (s : Session) (events : List Event) : Session :=
  (events.filterMap Event.change?).foldl apply s

/-- At some time in a history the settings were asked for and given, and the session was not told to
forget them since. -/
def IsRemembered (s : Session) (events : List Event) (settings : Settings) : Prop :=
  ∃ before between, events = before ++ .ask :: between ∧ .change .forget ∉ between ∧
    (s.afterAll before).settings.1.outcome = .ok settings

variable (s : Session) (events : List Event) (e : Event)

lemma afterAll_concat : s.afterAll (events ++ [e]) = (s.afterAll events).after e := by
  rw [afterAll, List.foldl_append, List.foldl_cons, List.foldl_nil, afterAll]

/-! ## One question -/

lemma settings_of_kept {settings : Settings} (h : s.kept = some settings) :
    s.settings.1 = ⟨.ok settings, []⟩ := by
  rw [Session.settings, h]
  rfl

lemma settings_of_not_kept (h : s.kept = none) : s.settings.1 = s.loadNow := by
  rw [Session.settings, h]

/-- A session keeps the settings that it gives, and nothing after a failure. -/
lemma kept_settings : s.settings.2.kept = s.settings.1.outcome.toOption := by
  unfold Session.settings
  split
  case h_1 settings hkept => exact hkept
  case h_2 => rfl

lemma surroundings_settings : s.settings.2.vars = s.vars ∧ s.settings.2.folder = s.folder := by
  unfold Session.settings
  split <;> exact ⟨rfl, rfl⟩

/-! ## The surroundings -/

/-- A change of the surroundings does not depend on what is kept. -/
lemma surroundings_apply {s s' : Session} (hvars : s.vars = s'.vars) (hfolder : s.folder = s'.folder)
    (c : Change) :
    (s.apply c).vars = (s'.apply c).vars ∧ (s.apply c).folder = (s'.apply c).folder := by
  cases c <;> simp [apply, hvars, hfolder]

/-- Questions leave the surroundings as they are. -/
lemma surroundings_afterAll :
    (s.afterAll events).vars = (s.changedBy events).vars ∧
      (s.afterAll events).folder = (s.changedBy events).folder := by
  induction events using List.reverseRecOn with
  | nil => exact ⟨rfl, rfl⟩
  | append_singleton events e ih =>
    rw [afterAll_concat, changedBy, List.filterMap_append, List.foldl_append, ← changedBy]
    cases e with
    | change c => exact surroundings_apply ih.1 ih.2 c
    | ask =>
      obtain ⟨hvars, hfolder⟩ := surroundings_settings (s.afterAll events)
      exact ⟨hvars.trans ih.1, hfolder.trans ih.2⟩

lemma loadNow_afterAll : (s.afterAll events).loadNow = (s.changedBy events).loadNow := by
  obtain ⟨hvars, hfolder⟩ := s.surroundings_afterAll events
  rw [loadNow, loadNow, hvars, hfolder]

/-! ## What is kept -/

variable {s events}

/-- At the end of a history, settings are remembered from the last question or from before it. -/
lemma isRemembered_concat {settings : Settings} :
    s.IsRemembered (events ++ [e]) settings ↔
      (e = .ask ∧ (s.afterAll events).settings.1.outcome = .ok settings) ∨
        (e ≠ .change .forget ∧ s.IsRemembered events settings) := by
  constructor
  · rintro ⟨before, between, hevents, hkept, hgiven⟩
    induction between using List.reverseRecOn with
    | nil =>
      obtain ⟨rfl, he⟩ := List.append_inj' hevents rfl
      exact .inl ⟨List.cons.inj he |>.1, hgiven⟩
    | append_singleton between last _ =>
      rw [← List.cons_append, ← List.append_assoc] at hevents
      obtain ⟨rfl, he⟩ := List.append_inj' hevents rfl
      obtain ⟨rfl, -⟩ := List.cons.inj he
      simp only [List.mem_append, List.mem_singleton, not_or] at hkept
      exact .inr ⟨Ne.symm hkept.2, before, between, rfl, hkept.1, hgiven⟩
  · rintro (⟨rfl, hgiven⟩ | ⟨he, before, between, rfl, hkept, hgiven⟩)
    · exact ⟨events, [], rfl, List.not_mem_nil, hgiven⟩
    · refine ⟨before, between ++ [e], by simp, ?_, hgiven⟩
      simp only [List.mem_append, List.mem_singleton, not_or]
      exact ⟨hkept, Ne.symm he⟩

/-- **One event**: what is kept after it. -/
lemma kept_after {settings : Settings} :
    (s.after e).kept = some settings ↔
      (e = .ask ∧ s.settings.1.outcome = .ok settings) ∨
        (e ≠ .change .forget ∧ s.kept = some settings) := by
  cases e with
  | change c => cases c <;> simp [after, apply]
  | ask =>
    rw [after, kept_settings]
    constructor
    · intro h
      cases hgiven : s.settings.1.outcome with
      | ok given =>
        rw [hgiven] at h
        exact .inl ⟨rfl, congrArg Except.ok (Option.some.inj h)⟩
      | error fault =>
        rw [hgiven] at h
        exact nomatch h
    · rintro (⟨-, hgiven⟩ | ⟨-, hkept⟩)
      · rw [hgiven]
        rfl
      · rw [settings_of_kept s hkept]
        rfl

/-- **A history**: the settings that are remembered are kept. -/
lemma kept_afterAll (hfresh : s.kept = none) {settings : Settings} :
    (s.afterAll events).kept = some settings ↔ s.IsRemembered events settings := by
  induction events using List.reverseRecOn with
  | nil =>
    constructor
    · intro h
      rw [afterAll, List.foldl_nil, hfresh] at h
      exact nomatch h
    · rintro ⟨before, between, hevents, -⟩
      simp at hevents
  | append_singleton events e ih => rw [afterAll_concat, kept_after, isRemembered_concat, ih]

/-- **The settings are loaded once and kept until they are forgotten, and a failure is not kept.**
After any history of a new session, a question is answered with the settings that are remembered, if
there are any, and nothing is noted.  Otherwise the answer is what the loading from the variables and
files gives as the changes have left them, with all that it notes: from the file that `CONFIG_FILE`
names, unless it is empty or not set, and else from the variables.  A question that fails leaves
nothing behind. -/
theorem settings_afterAll (vars : Variables) (folder : Folder) (events : List Event) :
    let s : Session := { vars, folder }
    let now := s.changedBy events
    let asked := (s.afterAll events).settings
    (∀ settings, s.IsRemembered events settings → asked.1 = ⟨.ok settings, []⟩) ∧
      ((¬ ∃ settings, s.IsRemembered events settings) →
        asked.1 = match now.vars.nonEmpty? "CONFIG_FILE" with
          | some name => loadFile now.folder.place now.vars (.ofText name)
          | none => ofVariables now.vars) ∧
      ∀ fault, asked.1.outcome = .error fault → asked.2.kept = none := by
  intro s now asked
  refine ⟨?_, ?_, ?_⟩
  · intro settings hremembered
    exact settings_of_kept _ ((kept_afterAll rfl).mpr hremembered)
  · intro hnone
    have hkept : (s.afterAll events).kept = none := by
      rw [Option.eq_none_iff_forall_ne_some]
      intro settings hkept
      exact hnone ⟨settings, (kept_afterAll rfl).mp hkept⟩
    calc asked.1 = (s.afterAll events).loadNow := settings_of_not_kept _ hkept
      _ = now.loadNow := loadNow_afterAll s events
  · intro fault hfault
    rw [kept_settings, hfault]
    rfl

/-- A seed that is out of reach at first: the failure is not kept, the seed that is loaded then is,
and the one that is set after it counts only when the session is told to forget. -/
example :
    let setFile := Event.change (.setVariable "CONFIG_FILE" "/etc/s.json")
    let write := fun text : String => Event.change (.writeFile (.ofText "/etc/s.json")
      (text.toList.map fun c => .ofNat c.toNat))
    let seedAfter := fun events => ((({} : Session).afterAll events).settings.1.outcome.toOption).map
      (·.seed)
    let first := [setFile, write "[", .ask, write "\x7b\"random_seed\": 1\x7d", .ask,
      write "\x7b\"random_seed\": 2\x7d"]
    seedAfter (first.take 2) = none ∧ seedAfter first = some (some 1) ∧
      seedAfter (first ++ [.change .forget]) = some (some 2) := by
  decide +kernel

end SqlAdvice.Settings.Session
