import ChatMemory.Settings.Environment

/-!
What the environment makes of settings. Main statement: every variable up to the first one that
cannot be read replaces its own setting, all other settings stay, and the environment has no part in
whether settings can be worked with.
-/

namespace ChatMemory

structure Variable where
  name : String
  accepts : String → Bool

def knownVariables : List Variable :=
  [⟨"OI_MAX_MESSAGES", fun text => (parseCount? text).isSome⟩,
    ⟨"OI_MAX_TOKENS", fun text => (parseCount? text).isSome⟩,
    ⟨"OI_RECENT_MESSAGES", fun text => (parseCount? text).isSome⟩,
    ⟨"OI_CROSS_SESSION_SEARCH", fun text => (parseSwitch? text).isSome⟩,
    ⟨"OI_DATA_DIR", fun _ => true⟩]

namespace Environment

def Suits (environment : Environment) (entry : Variable) : Prop :=
  ∀ text, environment.get? entry.name = some text → entry.accepts text = true

/-- What a setting is after some variables were taken over, whether its own is among them or not. -/
def replacement {α : Type} (environment : Environment) (taken : List String) (name : String)
    (parse? : String → Option α) (old : α) : α :=
  if name ∈ taken then ((environment.get? name).bind parse?).getD old else old

end Environment

namespace Settings

def overridden (settings : Settings) (environment : Environment) (taken : List String) : Settings :=
  { settings with
    condensing :=
      { settings.condensing with
        maxMessages := environment.replacement taken "OI_MAX_MESSAGES" parseCount?
          settings.condensing.maxMessages
        maxTokens := environment.replacement taken "OI_MAX_TOKENS"
          (fun text => (parseCount? text).map some) settings.condensing.maxTokens
        recentMessages := environment.replacement taken "OI_RECENT_MESSAGES" parseCount?
          settings.condensing.recentMessages }
    search :=
      { settings.search with
        crossSession := environment.replacement taken "OI_CROSS_SESSION_SEARCH" parseSwitch?
          settings.search.crossSession }
    storage :=
      { dataDirectory := environment.replacement taken "OI_DATA_DIR" (fun text => some (some text))
          settings.storage.dataDirectory } }

private theorem overridden_nil (settings : Settings) (environment : Environment) :
    settings.overridden environment [] = settings := by
  simp [overridden, Environment.replacement]

private theorem validate_overridden (settings : Settings) (environment : Environment)
    (taken : List String) : (settings.overridden environment taken).validate = settings.validate :=
  rfl

/-- After the variables in `taken`, the change takes over one more, or refuses its text. -/
structure TakesOver (environment : Environment) (settings : Settings) (taken : List String)
    (entry : Variable) (change : Settings → Except SettingsFault Settings) : Prop where
  suited : environment.Suits entry →
    change (settings.overridden environment taken) =
      .ok (settings.overridden environment (taken ++ [entry.name]))
  refused (text : String) : environment.get? entry.name = some text →
    entry.accepts text = false →
    change (settings.overridden environment taken) =
      .error (.unreadableVariable entry.name (Text.quoted text))

inductive TakeOverAll (environment : Environment) (settings : Settings) :
    List String → List Variable → List (Settings → Except SettingsFault Settings) → Prop
  | nil {taken : List String} : TakeOverAll environment settings taken [] []
  | cons {taken : List String} {entry : Variable} {entries : List Variable}
      {change : Settings → Except SettingsFault Settings}
      {changes : List (Settings → Except SettingsFault Settings)}
      (first : TakesOver environment settings taken entry change)
      (rest : TakeOverAll environment settings (taken ++ [entry.name]) entries changes) :
      TakeOverAll environment settings taken (entry :: entries) (change :: changes)

section

variable {environment : Environment} {settings : Settings} {taken : List String}

private theorem takesOver_override {α : Type} {entry : Variable} {parse? : String → Option α}
    {put : α → Settings → Settings} (accepts : ∀ text, entry.accepts text = (parse? text).isSome)
    (unset : environment.get? entry.name = none →
      settings.overridden environment (taken ++ [entry.name]) =
        settings.overridden environment taken)
    (set : ∀ text value, environment.get? entry.name = some text → parse? text = some value →
      settings.overridden environment (taken ++ [entry.name]) =
        put value (settings.overridden environment taken)) :
    TakesOver environment settings taken entry
      (environment.override entry.name parse? put) where
  suited suits := by
    rw [Environment.override]
    cases given : environment.get? entry.name with
    | none => rw [unset given]
    | some text =>
        have accepted := suits text given
        rw [accepts, Option.isSome_iff_exists] at accepted
        rcases accepted with ⟨value, parsed⟩
        dsimp only
        rw [parsed, set text value given parsed]
  refused text given unaccepted := by
    rw [accepts, Option.isSome_eq_false_iff, Option.isNone_iff_eq_none] at unaccepted
    rw [Environment.override, given]
    dsimp only
    rw [unaccepted]

private theorem TakeOverAll.applyInOrder_cases {entries : List Variable}
    {changes : List (Settings → Except SettingsFault Settings)}
    (takeOver : TakeOverAll environment settings taken entries changes) :
    ((∀ entry ∈ entries, environment.Suits entry) ∧
      (settings.overridden environment taken).applyInOrder changes =
        (settings.overridden environment (taken ++ entries.map (·.name)), none)) ∨
    ∃ earlier entry later text, entries = earlier ++ entry :: later ∧
      (∀ other ∈ earlier, environment.Suits other) ∧
      environment.get? entry.name = some text ∧ entry.accepts text = false ∧
      (settings.overridden environment taken).applyInOrder changes =
        (settings.overridden environment (taken ++ earlier.map (·.name)),
          some (.unreadableVariable entry.name (Text.quoted text))) := by
  induction takeOver with
  | nil => exact .inl ⟨fun _ member => absurd member List.not_mem_nil, by simp [applyInOrder]⟩
  | @cons taken entry entries change changes first _ induction =>
      by_cases suits : environment.Suits entry
      · have continued : (settings.overridden environment taken).applyInOrder (change :: changes) =
            (settings.overridden environment (taken ++ [entry.name])).applyInOrder changes := by
          rw [applyInOrder, first.suited suits]
        rw [continued]
        rcases induction with ⟨allSuit, applied⟩ |
          ⟨earlier, unsuited, later, text, rfl, earlierSuit, given, unaccepted, applied⟩
        · refine .inl ⟨List.forall_mem_cons.mpr ⟨suits, allSuit⟩, ?_⟩
          rw [applied, List.append_assoc]
          rfl
        · refine .inr ⟨entry :: earlier, unsuited, later, text, rfl,
            List.forall_mem_cons.mpr ⟨suits, earlierSuit⟩, given, unaccepted, ?_⟩
          rw [applied, List.append_assoc]
          rfl
      · simp only [Environment.Suits, Classical.not_forall] at suits
        rcases suits with ⟨text, given, unaccepted⟩
        rw [Bool.not_eq_true] at unaccepted
        refine .inr ⟨[], entry, entries, text, rfl,
          fun _ member => absurd member List.not_mem_nil, given, unaccepted, ?_⟩
        rw [applyInOrder, first.refused text given unaccepted, List.map_nil, List.append_nil]

private theorem takeOverAll_overrides (environment : Environment) (settings : Settings) :
    TakeOverAll environment settings [] knownVariables (overrides environment) := by
  refine .cons (takesOver_override (fun _ => rfl) ?_ ?_)
    (.cons (takesOver_override (fun _ => rfl) ?_ ?_)
    (.cons (takesOver_override (fun _ => rfl) ?_ ?_)
    (.cons (takesOver_override (fun _ => rfl) ?_ ?_)
    (.cons (takesOver_override (fun _ => rfl) ?_ ?_) .nil))))
  all_goals
    intros
    simp_all [overridden, Environment.replacement, withMaxMessages, withMaxTokens,
      withRecentMessages, withCrossSession, withDataDirectory]

end

/-- The environment is taken over as a whole or up to its first text that cannot be read, which the
failure names. Of the settings, those of the variables before it are replaced and no others. When
all texts can be read, only settings that could not be worked with before are refused. -/
theorem environment_taken_over_up_to_unreadable (settings : Settings) (environment : Environment) :
    let result := settings.applyEnvironment environment
    (result.2 = .ok () ↔
      (∀ entry ∈ knownVariables, environment.Suits entry) ∧ settings.validate = .ok ()) ∧
    (result.2 = .ok () →
      result.1 = settings.overridden environment (knownVariables.map (·.name))) ∧
    ∀ failure, result.2 = .error failure →
      (∃ earlier entry later text, knownVariables = earlier ++ entry :: later ∧
        (∀ other ∈ earlier, environment.Suits other) ∧
        environment.get? entry.name = some text ∧ entry.accepts text = false ∧
        failure = (SettingsFault.unreadableVariable entry.name (Text.quoted text)).failure ∧
        result.1 = settings.overridden environment (earlier.map (·.name))) ∨
      (∀ entry ∈ knownVariables, environment.Suits entry) ∧
        settings.validate = .error failure ∧
        result.1 = settings.overridden environment (knownVariables.map (·.name)) := by
  have cases := (takeOverAll_overrides environment settings).applyInOrder_cases
  rw [overridden_nil] at cases
  rcases cases with ⟨suit, applied⟩ |
    ⟨earlier, entry, later, text, order, suit, given, unaccepted, applied⟩
  · have result : settings.applyEnvironment environment =
        (settings.overridden environment (knownVariables.map (·.name)), settings.validate) := by
      rw [applyEnvironment, applied]
      exact congrArg (Prod.mk _) (validate_overridden settings environment _)
    rw [result]
    refine ⟨⟨fun valid => ⟨suit, valid⟩, fun both => both.2⟩, fun _ => rfl, ?_⟩
    exact fun failure refused => .inr ⟨suit, refused, rfl⟩
  · have result : settings.applyEnvironment environment =
        (settings.overridden environment (earlier.map (·.name)),
          .error (SettingsFault.unreadableVariable entry.name (Text.quoted text)).failure) := by
      rw [applyEnvironment, applied]
      rfl
    rw [result]
    refine ⟨⟨nofun, fun both => ?_⟩, nofun, ?_⟩
    · have suits := both.1 entry (order ▸ List.mem_append_right _ List.mem_cons_self)
      exact absurd (suits text given) (Bool.eq_false_iff.mp unaccepted)
    · rintro _ ⟨⟩
      exact .inl ⟨earlier, entry, later, text, order, suit, given, unaccepted, rfl, rfl⟩

/-- A limit that was read stays in force although the next one cannot be read. -/
theorem failed_overrides_may_change_settings :
    let environment : Environment := ⟨[("OI_MAX_MESSAGES", "5"), ("OI_MAX_TOKENS", "many")]⟩
    let result := ({} : Settings).applyEnvironment environment
    result.2 = .error ⟨.settings, "OI_MAX_TOKENS has an invalid value: \"many\""⟩ ∧
    ({} : Settings).condensing.maxMessages = 20 ∧ result.1.condensing.maxMessages = 5 ∧
    result.1 ≠ {} := by
  intro environment result
  have replaced : result.1.condensing.maxMessages = 5 := by decide
  refine ⟨rfl, rfl, replaced, fun same => ?_⟩
  rw [same] at replaced
  exact absurd replaced (by decide)

end Settings

end ChatMemory
