import Stencil.Program
import Stencil.Proofs.Command.Help
import Stencil.Proofs.Command.Likeness

/-!
# Output and configuration

Configuration decides whether a command is run at all.  It has no part in what the command writes to
the standard output, nor in the exit code.  Requests for help and wrong arguments are answered
before any configuration is read, and only whether colours are shown has a part in the help texts.
-/

namespace Stencil

namespace Filter

variable {patterns : PatternReader} {text settings : String} {environment : Option String}

/-- Whether a text can be read as a filter. -/
def IsReadable (patterns : PatternReader) (text : String) : Prop :=
  ∃ filter, parse text patterns = .ok filter

/-- Whether the process stops while it reads a text as a filter. -/
def Stops (patterns : PatternReader) (text : String) : Prop :=
  ∃ error, parse text patterns = .error error ∧ error.stops = true

/-- A filter can be had unless neither text is one, or the process stops at that of the
environment. -/
theorem isOk_choose_iff :
    (choose environment settings patterns).isOk = true ↔
      ¬ ((∀ text, environment = some text → ¬ IsReadable patterns text) ∧
          ¬ IsReadable patterns settings) ∧
        ¬ ∃ text, environment = some text ∧ Stops patterns text := by
  have chosen {text : String} : (parse text patterns).isOk = true ↔ IsReadable patterns text := by
    cases read : parse text patterns <;> simp [IsReadable, read, Except.isOk, Except.toBool]
  cases environment with
  | none => simp [choose, chosen]
  | some text =>
      cases read : parse text patterns with
      | ok filter => simp [choose, read, IsReadable, Stops, Except.isOk, Except.toBool]
      | error error =>
          have unread : ¬ IsReadable patterns text := by simp [IsReadable, read]
          cases stops : error.stops with
          | true => simp [choose, read, stops, Stops, Except.isOk, Except.toBool]
          | false => simp [choose, read, stops, Stops, unread, chosen]

end Filter

namespace Surroundings

/-- Whether no command can be run: there are no settings, or neither the environment nor the
settings have a filter for the log. -/
def Unfit (surroundings : Surroundings) (host : Host) : Prop :=
  (∃ error, Settings.load surroundings host.files = .error error) ∨
    ∃ settings, Settings.load surroundings host.files = .ok settings ∧
      (∀ text, surroundings.completed.get? "RUST_LOG" = some text →
        ¬ Filter.IsReadable host.patterns text) ∧
      ¬ Filter.IsReadable host.patterns settings.logging.level

/-- Whether the process stops while it reads the filter of the environment. -/
def Halting (surroundings : Surroundings) (host : Host) : Prop :=
  ∃ text, surroundings.completed.get? "RUST_LOG" = some text ∧ Filter.Stops host.patterns text

end Surroundings

namespace Outcome

/-- What is seen of a run from outside: the exit code and the bytes on the standard output. -/
def visible (outcome : Outcome) : Nat × List UInt8 :=
  (outcome.code, outcome.written)

end Outcome

/-- What is seen of a command that was run: success has the exit code 0, anything else 1. -/
def Playback.visible (playback : Playback Verdict) : Nat × List UInt8 :=
  let code :=
    match playback.result with
    | .ok .success => 0
    | _ => 1
  (code, playback.written)

namespace Program

variable {arguments : List String} {command : Command} {surroundings : Surroundings} {host : Host}

/-- Preparation succeeds where a command can be run, unless the process stops. -/
theorem isOk_prepare_iff :
    (prepare surroundings host).isOk = true ↔
      ¬ surroundings.Unfit host ∧ ¬ surroundings.Halting host := by
  rw [prepare, Surroundings.Unfit, Surroundings.Halting]
  cases Settings.load surroundings host.files with
  | error error => simp [Except.isOk, Except.toBool]
  | ok settings =>
      simp only [reduceCtorEq, exists_false, false_or, Except.ok.injEq, exists_eq_left']
      rw [← Filter.isOk_choose_iff, installLog]
      cases Filter.choose (surroundings.completed.get? "RUST_LOG") settings.logging.level
        host.patterns <;> rfl

/-- Where the environment has no filter, a failed preparation means that no command can be run. -/
theorem unfit_of_isOk_eq_false (unset : surroundings.completed.get? "RUST_LOG" = none)
    (failed : (prepare surroundings host).isOk = false) : surroundings.Unfit host := by
  by_contra fit
  have goesOn : ¬ surroundings.Halting host := by
    rintro ⟨text, isSet, -⟩
    cases unset.symm.trans isSet
  rw [isOk_prepare_iff.2 ⟨fit, goesOn⟩] at failed
  cases failed

/-- A command that cannot be run writes nothing. -/
theorem visible_of_unfit (asked : Request.ofArguments arguments = .ok (.run command))
    (unfit : surroundings.Unfit host) (now : Moment) :
    ∃ code ∈ [1, 101], (run arguments surroundings now host).visible = (code, []) := by
  rw [run, asked]
  cases prepared : prepare surroundings host with
  | error error =>
      cases stops : error.stops with
      | true => exact ⟨101, by simp, by simp [stops, Outcome.visible, Outcome.code, Outcome.written]⟩
      | false => exact ⟨1, by simp, by simp [stops, Outcome.visible, Outcome.code, Outcome.written]⟩
  | ok pair =>
      have isOk : (prepare surroundings host).isOk = true := by rw [prepared]; rfl
      exact absurd unfit (isOk_prepare_iff.1 isOk).1

/-- Where a command can be run, what is seen is what the command does, whatever the settings
say. -/
theorem visible_of_fit (asked : Request.ofArguments arguments = .ok (.run command))
    (fit : ¬ surroundings.Unfit host) (goesOn : ¬ surroundings.Halting host) (now : Moment)
    (settings : Settings) (other : Moment) :
    (run arguments surroundings now host).visible =
      (command.script settings.template.idPrefix other).play.visible := by
  have isOk := isOk_prepare_iff.2 ⟨fit, goesOn⟩
  rw [run, asked]
  cases prepared : prepare surroundings host with
  | error error =>
      rw [prepared] at isOk
      cases isOk
  | ok pair =>
      obtain ⟨loaded, filter⟩ := pair
      obtain ⟨written, ended⟩ := Script.Alike.eq_iff.1
        (command.script_alike settings.template.idPrefix loaded.template.idPrefix other now)
      rw [Playback.visible, written, ended]
      rfl

/-- What is seen of a request for help is the help text, in colours where these are shown. -/
theorem visible_of_help {topic : Option Subcommand}
    (asked : Request.ofArguments arguments = .ok (.help topic)) (surroundings : Surroundings)
    (now : Moment) (host : Host) :
    (run arguments surroundings now host).visible = (0, Text.bytes
      (Help.text topic (surroundings.environment.showsColours host.terminal)).toList) := by
  rw [run, asked]
  rfl

theorem load_eq_ok {surroundings : Surroundings} {library : FileLibrary} {settings : Settings}
    (loaded : (Settings.load surroundings library).toOption = some settings) :
    Settings.load surroundings library = .ok settings := by
  cases result : Settings.load surroundings library with
  | error error => cases loaded.symm.trans (congrArg Except.toOption result)
  | ok found => exact congrArg Except.ok (Option.some.inj (by rw [← loaded, result]; rfl))

end Program
end Stencil
