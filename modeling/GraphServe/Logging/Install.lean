import GraphServe.Config.Basic
import GraphServe.Logging.Filter

/-!
# Installing a log

A process has at most one log. A second attempt to install one is refused, after its filter was
checked.
-/

namespace GraphServe

/-- The log of a process, if there is one, and the filter that overrides configured levels. -/
structure LogState where
  installed : Option (LogFilter × LogFormat)
  override : Option String
deriving DecidableEq, Repr

namespace LogState

/-- A process without a log. -/
def initial : LogState := ⟨none, none⟩

/-- Installs a log. -/
def install (s : LogState) (config : LoggingConfig) : Except EngineError Unit × LogState :=
  match LogFilter.select config.level s.override with
  | .error e => (.error e, s)
  | .ok filter =>
    match s.installed with
    | some _ =>
      (.error (.config
        "failed to initialize logging: a global default trace dispatcher has already been set"), s)
    | none => (.ok (), { s with installed := some (filter, config.format) })

/-- A log that is installed stays. -/
theorem install_of_installed {s : LogState} (config : LoggingConfig)
    (h : s.installed.isSome) : (s.install config).2 = s := by
  unfold install
  split
  · rfl
  · split
    · rfl
    · simp_all

end LogState

end GraphServe
