import Farcall.Proofs.Success
import Farcall.Settings

/-!
# Changes of the settings

The settings are changed by keywords or by the variables of an environment. A change that is refused
as it is read leaves all as it was. One whose timeout is refused does not: the timeout is looked at
last, when the language and the class name that were given with it have been taken over.
-/

namespace Farcall

structure Configuration where
  language : String
  className : String
  timeout : Double
deriving DecidableEq

inductive Change where
  | keywords (given : List (String × Value))
  | environment (texts : List (String × String))

/-- The keywords that a change comes down to, or why it is refused before anything is changed. -/
def Change.given : Change → Except Failure (List (String × Value))
  | .keywords given =>
    if given.any fun g => g.1 ∉ Settings.known then .error (.fault .badArguments) else .ok given
  | .environment texts =>
    match Settings.timeoutOfText? (texts.lookup Settings.timeoutVariable) with
    | .error e => .error (.usage e)
    | .ok timeout => .ok [
        ("default_language", Settings.envText texts "JSONWS_LANGUAGE"),
        ("local_name", Settings.envText texts "JSONWS_PROXY_NAME"),
        ("timeout", (timeout.map Value.float).getD .null)]

namespace Settings

def configuration (s : Settings) : Configuration :=
  ⟨s.languageName, s.className,
    if (Value.float s.timeout).truthy then s.timeout else defaultTimeout⟩

def change (s : Settings) : Change → Settings × Except Failure Unit
  | .keywords given => s.configure given
  | .environment texts => s.configureFrom texts

def valueOf (given : List (String × Value)) (keyword : String) : Value :=
  (given.lookup keyword).getD .null

def taken (old : Value) : Value → Value
  | .null => old
  | v => v

def withNames (s : Settings) (given : List (String × Value)) : Settings :=
  { s with
    language := taken s.language (valueOf given "default_language")
    localName := taken s.localName (valueOf given "local_name") }

def withTimeout (s : Settings) : Value → Settings × Except Failure Unit
  | .null => (s, .ok ())
  | v =>
    match readTimeout v with
    | .ok x => ({ s with timeout := x }, .ok ())
    | .error e => (s, .error e)

variable {s : Settings} {c : Change} {given : List (String × Value)}

-- ---------------------------------------------------------------------------
-- A change in two steps
-- ---------------------------------------------------------------------------

theorem change_refused (h : c.given = .error e) : s.change c = (s, .error e) := by
  cases c with
  | keywords given =>
    simp only [Change.given] at h
    split at h
    · rename_i hunknown
      cases h
      exact if_pos hunknown
    · cases h
  | environment texts =>
    simp only [Change.given] at h
    split at h
    · rename_i hread
      cases h
      simp only [change, configureFrom, hread]
    · cases h

theorem configure_known (h : ¬ (given.any fun g => g.1 ∉ known) = true) :
    s.configure given = (s.withNames given).withTimeout (valueOf given "timeout") := by
  rw [configure, if_neg h]
  simp only [withNames, valueOf]
  cases (given.lookup "default_language").getD .null <;>
    cases (given.lookup "local_name").getD .null <;> rfl

/-- The names are taken over first, whatever becomes of the timeout. -/
theorem change_given (h : c.given = .ok given) :
    s.change c = (s.withNames given).withTimeout (valueOf given "timeout") := by
  cases c with
  | keywords given =>
    simp only [Change.given] at h
    split at h
    · cases h
    · rename_i hknown
      cases h
      exact configure_known hknown
  | environment texts =>
    simp only [Change.given] at h
    split at h
    · cases h
    · rename_i hread
      cases h
      simp only [change, configureFrom, hread]
      exact configure_known (by simp [known])

theorem withTimeout_error {v : Value} (h : (s.withTimeout v).2 = .error e) :
    v ≠ .null ∧ readTimeout v = .error e ∧ (s.withTimeout v).1 = s := by
  unfold withTimeout at h ⊢
  split at h
  · cases h
  · rename_i hnull
    refine ⟨hnull, ?_⟩
    split at h <;> cases h
    rename_i hread
    exact ⟨hread, rfl⟩

-- ---------------------------------------------------------------------------
-- What a failed change leaves
-- ---------------------------------------------------------------------------

def Keeps (default text : String) (v : Value) : Prop :=
  v = .null ∨ textOr default v = text

theorem textOr_taken {default : String} {old v : Value} :
    textOr default (taken old v) = textOr default old ↔ Keeps default (textOr default old) v := by
  unfold Keeps
  cases v <;> simp [taken]

theorem configuration_withNames :
    (s.withNames given).configuration = s.configuration ↔
      Keeps defaultLanguage s.languageName (valueOf given "default_language") ∧
        Keeps defaultName s.className (valueOf given "local_name") := by
  unfold languageName className
  rw [← textOr_taken, ← textOr_taken]
  simp only [configuration, Configuration.mk.injEq]
  exact ⟨fun h => ⟨h.1, h.2.1⟩, fun h => ⟨h.1, h.2, rfl⟩⟩

/-- A failed change leaves the settings alone if it is refused as it is read. If it is its timeout
that is refused, the timeout stays and the names that are given with it are taken over, so that the
settings are told as before only if those names make no difference. -/
theorem failed_changes (h : (s.change c).2 = .error e) :
    (c.given = .error e ∧ (s.change c).1 = s) ∨
      ∃ given, c.given = .ok given ∧ valueOf given "timeout" ≠ .null ∧
        readTimeout (valueOf given "timeout") = .error e ∧
        (s.change c).1 = s.withNames given ∧
        ((s.change c).1.configuration = s.configuration ↔
          Keeps defaultLanguage s.languageName (valueOf given "default_language") ∧
            Keeps defaultName s.className (valueOf given "local_name")) := by
  cases hgiven : c.given with
  | error e' =>
    rw [change_refused hgiven] at h ⊢
    cases h
    exact .inl ⟨rfl, rfl⟩
  | ok given =>
    rw [change_given hgiven] at h ⊢
    obtain ⟨hnull, hread, hsame⟩ := withTimeout_error h
    refine .inr ⟨given, rfl, hnull, hread, hsame, ?_⟩
    rw [hsame]
    exact configuration_withNames

/-- A truth value counts as a number, here as one that is no timeout. -/
theorem failed_change_of_language :
    let c := Change.keywords [("timeout", .bool false), ("default_language", .str "JavaScript")]
    (initial.change c).2 = .error (.usage .timeoutNotPositive) ∧
      (c.given = .error (.usage .timeoutNotPositive) ∧ (initial.change c).1 = initial ∨
        ∃ given, c.given = .ok given ∧ valueOf given "timeout" ≠ .null ∧
          readTimeout (valueOf given "timeout") = .error (.usage .timeoutNotPositive) ∧
          (initial.change c).1 = initial.withNames given ∧
          ((initial.change c).1.configuration = initial.configuration ↔
            Keeps defaultLanguage initial.languageName (valueOf given "default_language") ∧
              Keeps defaultName initial.className (valueOf given "local_name"))) := by
  intro c
  have hfail : (initial.change c).2 = .error (.usage .timeoutNotPositive) := rfl
  exact ⟨hfail, failed_changes hfail⟩

/-- A name that is given with a timeout of no use stays when the change has failed. -/
theorem name_outlives_failed_change :
    let c := Change.keywords [("local_name", .str "Client"), ("timeout", .int (-1))]
    (initial.change c).2 = .error (.usage .timeoutNotPositive) ∧
      initial.configuration.className = "Proxy" ∧
      (initial.change c).1.configuration.className = "Client" :=
  ⟨rfl, rfl, rfl⟩

end Settings

end Farcall
