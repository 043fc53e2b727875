import Stencil.Command.Run
import Stencil.Proofs.Command.Script
import Stencil.Proofs.Session.Actions
import Stencil.Proofs.Template.Rendering
import Stencil.Settings.Basic

/-!
# The command that renders

Rendering writes a whole line or nothing.  It fails with the first argument that is no assignment,
or else with what is wrong with the template, and nothing but these decides.
-/

namespace Stencil

namespace Assignment

theorem parseAll_cons_of_ok {argument : String} {pair : String × Json}
    (read : parse argument = .ok pair) (arguments : List String) :
    parseAll (argument :: arguments) = (parseAll arguments).map (pair :: ·) := by
  rw [parseAll, read]
  cases parseAll arguments <;> rfl

/-- The first argument that is no assignment is the one that is reported. -/
theorem parseAll_of_first {front : List String}
    (before : ∀ other ∈ front, ∃ pair, parse other = .ok pair) {argument : String}
    {error : ArgumentError} (rejected : parse argument = .error error) (back : List String) :
    parseAll (front ++ argument :: back) = .error error := by
  induction front with
  | nil =>
      rw [List.nil_append, parseAll, rejected]
      rfl
  | cons head front induction =>
      obtain ⟨⟨pair, read⟩, others⟩ := List.forall_mem_cons.1 before
      rw [List.cons_append, parseAll_cons_of_ok read, induction others]
      rfl

theorem parseAll_of_map {arguments : List String} {pairs : List (String × Json)}
    (each : arguments.map parse = pairs.map .ok) : parseAll arguments = .ok pairs := by
  induction arguments generalizing pairs with
  | nil =>
      obtain rfl : pairs = [] := by simpa using each.symm
      rfl
  | cons head arguments induction =>
      cases pairs with
      | nil => exact nomatch each
      | cons pair pairs =>
          obtain ⟨read, others⟩ := List.cons.inj each
          rw [parseAll_cons_of_ok read, induction others]
          rfl

end Assignment

namespace Command

/-- What rendering writes and how it ends, given a template and arguments. -/
def rendering (template : String) (arguments : List String) :
    List UInt8 × Except CommandError Verdict :=
  match Assignment.parseAll arguments with
  | .error error => ([], .error (.argument error))
  | .ok pairs =>
    match Template.substitute template (Dictionary.ofPairs pairs) with
    | .error error => ([], .error (.template error))
    | .ok output => (Text.bytes (output ++ "\n").toList, .ok .success)

theorem play_performRender_of_error {arguments : List String} {error : ArgumentError}
    (rejected : Assignment.parseAll arguments = .error error) (idPrefix : String) (now : Moment)
    (template : String) (id : Option String) :
    (performRender idPrefix now template arguments id : Script Verdict).play =
      ⟨[], [], .error (.argument error)⟩ := by
  rw [performRender, rejected]
  rfl

/-- Neither the identifier nor its prefix nor the moment has a part in the rendering. -/
theorem play_performRender (idPrefix : String) (now : Moment) (template : String)
    (arguments : List String) (id : Option String) :
    (performRender idPrefix now template arguments id : Script Verdict).play.written =
        (rendering template arguments).1 ∧
      (performRender idPrefix now template arguments id : Script Verdict).play.result =
        (rendering template arguments).2 := by
  cases read : Assignment.parseAll arguments with
  | error error =>
      rw [play_performRender_of_error read, rendering, read]
      exact ⟨rfl, rfl⟩
  | ok pairs =>
      let processor := (Engine.create idPrefix now).createProcessor now id
      have processed := processor.value_process_bind now (Dictionary.ofPairs pairs) template
      simp only [performRender, rendering, read, Script.play_bind, Script.play_ofLogged,
        Processor.setContext, Playback.andThen_ok, processor, processed]
      cases Template.substitute template (Dictionary.ofPairs pairs) with
      | error error => simp [Performer.ofResult]
      | ok output => simp [Performer.ofResult]

/-- Rendering reports the first argument that is no assignment and does nothing, or else it does
what substitution with the last value of each name does, and writes a whole line or nothing.  The
identifier and the settings make no difference. -/
theorem render_is_all_or_nothing (template : String) (arguments : List String) (id : Option String)
    (settings : Settings) (now : Moment) :
    let playback :=
      ((Command.render template arguments id).script settings.template.idPrefix now).play
    (∀ front argument back error, arguments = front ++ argument :: back →
      (∀ other ∈ front, ∃ pair, Assignment.parse other = .ok pair) →
        Assignment.parse argument = .error error →
          playback = ⟨[], [], .error (.argument error)⟩) ∧
    (∀ (pairs : List (String × Json)) (bindings : Bindings),
      arguments.map Assignment.parse = pairs.map .ok →
        (∀ name, bindings.get? name = Entries.last? pairs name) →
          match Template.substitute template bindings with
          | .error error => playback.written = [] ∧ playback.result = .error (.template error)
          | .ok output =>
            playback.written = Text.bytes (output ++ "\n").toList ∧
              playback.result = .ok .success) ∧
    (∀ (otherId : Option String) (otherSettings : Settings) (otherNow : Moment),
      let other := ((Command.render template arguments otherId).script
        otherSettings.template.idPrefix otherNow).play
      other.written = playback.written ∧ other.result = playback.result) ∧
    ∀ owner, playback.result ≠ .error (.template (.contextNotSet owner)) := by
  intro playback
  have played : playback.written = (rendering template arguments).1 ∧
      playback.result = (rendering template arguments).2 :=
    play_performRender settings.template.idPrefix now template arguments id
  refine ⟨?_, ?_, ?_, ?_⟩
  · rintro front argument back error rfl before rejected
    exact play_performRender_of_error (Assignment.parseAll_of_first before rejected back) _ now _ id
  · intro pairs bindings each lasts
    rw [played.1, played.2, rendering, Assignment.parseAll_of_map each,
      Dictionary.eq_ofPairs_iff.2 lasts]
    dsimp only
    cases Template.substitute template (Dictionary.ofPairs pairs) <;> exact ⟨rfl, rfl⟩
  · intro otherId otherSettings otherNow
    rw [played.1, played.2]
    exact play_performRender otherSettings.template.idPrefix otherNow template arguments otherId
  · intro owner
    rw [played.2, rendering]
    cases Assignment.parseAll arguments with
    | error error => simp
    | ok pairs =>
        have bound := Template.substitute_ne_contextNotSet template (Dictionary.ofPairs pairs) owner
        cases result : Template.substitute template (Dictionary.ofPairs pairs) with
        | ok output => simp [result]
        | error error => simpa [result] using bound

/-- The first of two wrong arguments is reported although the template is wrong as well.  The last
of two values is written, and it is not read as a template. -/
theorem render_is_all_or_nothing_twice :
    ((Command.render "\x7ba" ["a=x", "b", "=y"] none).script "template" ⟨0, 0, 0⟩).play =
      ⟨[], [], .error (.argument (.noEqualsSign "b"))⟩ ∧
    ["a=x", "b=null", "a={b}"].map Assignment.parse =
      [("a", .string "x"), ("b", .null), ("a", .string "{b}")].map .ok ∧
    ((Command.render "<{a}{b}>" ["a=x", "b=null", "a={b}"] (some "id")).script
        "template" ⟨0, 0, 0⟩).play.written = Text.bytes "<{b}>\n".toList := by
  have first : Assignment.parse "a=x" = .ok ("a", .string "x") := rfl
  have second : Assignment.parse "b=null" = .ok ("b", .null) := by cbv
  have third : Assignment.parse "a={b}" = .ok ("a", .string "{b}") := rfl
  have rejected := (render_is_all_or_nothing "\x7ba" ["a=x", "b", "=y"] none {} ⟨0, 0, 0⟩).1
    ["a=x"] "b" ["=y"] (.noEqualsSign "b") rfl (by simp [first]) rfl
  have each : ["a=x", "b=null", "a={b}"].map Assignment.parse =
      [("a", .string "x"), ("b", .null), ("a", .string "{b}")].map .ok := by
    simp [first, second, third]
  have substituted : Template.substitute "<{a}{b}>"
      (Dictionary.ofPairs [("a", .string "x"), ("b", .null), ("a", .string "{b}")]) =
        .ok "<{b}>" := by
    rfl
  have written := (render_is_all_or_nothing "<{a}{b}>" ["a=x", "b=null", "a={b}"] (some "id") {}
    ⟨0, 0, 0⟩).2.1 _ _ each (Dictionary.get?_ofPairs _)
  rw [substituted] at written
  exact ⟨rejected, each, written.1⟩

end Command
end Stencil
