import Stencil.Proofs.Command.Assignment
import Stencil.Proofs.Command.Render
import Stencil.Proofs.Json.Quoting
import Stencil.Proofs.Template.Grammar

/-!
# Passing any text

An argument can bind any text to a name, whatever characters are in it: the text is written as it
is written inside an array or an object, and is decoded from that.
-/

namespace Stencil

open Text

namespace Template

/-- A placeholder alone is replaced by the value that is bound to its name. -/
theorem substitute_placeholder {name : String} (plain : BraceFree name.toList)
    (visible : ∃ character ∈ name.toList, isBlank character = false) {bindings : Bindings}
    {value : Json} (bound : bindings.get? name = some value) :
    substitute ("\x7b" ++ name ++ "\x7d") bindings = .ok value.rendered := by
  have canonical : Canonical [.placeholder name] := Canonical.singleton_iff.2 ⟨plain, visible⟩
  have read : parse ("\x7b" ++ name ++ "\x7d") = .ok [.placeholder name] := by
    apply parse_eq_ok_iff.2 ⟨canonical, ?_⟩
    simp [source, Segment.source]
  refine substitute_eq_ok_iff.2 ⟨_, read, ?_, ?_⟩
  · simp [firstUnbound_cons_placeholder, bound]
  · simp [Segment.filled, bound]

end Template

namespace Assignment

/-- A quoted text with white space around it is decoded to the text. -/
theorem decode_quoted (text : String) {before after : String}
    (blankBefore : Json.Blank before.toList) (blankAfter : Json.Blank after.toList) :
    decode (before ++ (Json.string text).text ++ after) = .string text := by
  apply decode_of_denotes
  refine ⟨before.toList, Json.quote text, after.toList, blankBefore, Json.literal_quote text,
    blankAfter, ?_⟩
  simp [Json.characters]

end Assignment

namespace Command

/-- The text of a string, as it stands inside arrays and objects, is an argument's value for that
string.  So any text can be bound to a name and comes out as it is. -/
theorem quoting_passes_any_text (text : String) {name : String} (named : name ≠ "")
    (noSign : '=' ∉ name.toList) {before after : String} (blankBefore : Json.Blank before.toList)
    (blankAfter : Json.Blank after.toList) :
    let literal := (Json.string text).text
    let argument := name ++ "=" ++ (before ++ literal ++ after)
    (∀ items others, (Json.array (items ++ .string text :: others)).rendered =
      "[" ++ ",".intercalate (items.map Json.text ++ literal :: others.map Json.text) ++ "]") ∧
    (∀ fields others key, (Json.object (fields ++ (key, .string text) :: others)).rendered =
      "\x7b" ++ ",".intercalate (fields.map Json.fieldText ++
        ((Json.string key).text ++ ":" ++ literal) :: others.map Json.fieldText) ++ "\x7d") ∧
    Assignment.parse argument = .ok (name, .string text) ∧
    (BraceFree name.toList → (∃ character ∈ name.toList, isBlank character = false) →
      ∀ (id : Option String) (settings : Settings) (now : Moment),
        let playback := ((Command.render ("\x7b" ++ name ++ "\x7d") [argument] id).script
          settings.template.idPrefix now).play
        playback.written = Text.bytes (text ++ "\n").toList ∧ playback.result = .ok .success) := by
  intro literal argument
  have decoded : Assignment.parse argument = .ok (name, .string text) := by
    rw [Assignment.parse_of_named named noSign,
      Assignment.decode_quoted text blankBefore blankAfter]
  refine ⟨?_, ?_, decoded, ?_⟩
  · intro items others
    simp [Json.rendered_array, literal]
  · intro fields others key
    simp [Json.rendered_object, Json.fieldText, literal]
  · intro plain visible id settings now
    have read : Assignment.parseAll [argument] = .ok [(name, .string text)] := by
      apply Assignment.parseAll_of_map
      simp [decoded]
    have bound :
        (Dictionary.ofPairs [(name, Json.string text)]).get? name = some (.string text) := by
      simp [Dictionary.get?_ofPairs, Entries.last?, Entries.get?_cons]
    have substituted := Template.substitute_placeholder plain visible bound
    have played := play_performRender settings.template.idPrefix now
      ("\x7b" ++ name ++ "\x7d") [argument] id
    rw [rendering, read] at played
    simp only [substituted] at played
    exact played

/-- A text of quotes, escapes, braces, an assignment and characters outside the basic plane. -/
theorem quoting_passes_any_text_escaped :
    let argument := "x y= \"b=\\\"{true}\\\\\\n\\u0001é😀\"\t"
    Json.Blank " ".toList ∧ Json.Blank "\t".toList ∧ '=' ∉ "x y".toList ∧
    Assignment.parse argument = .ok ("x y", .string "b=\"{true}\\\n\x01é😀") ∧
    ((Command.render "{x y}" [argument] none).script "template" ⟨0, 0, 0⟩).play.written =
      Text.bytes "b=\"{true}\\\n\x01é😀\n".toList := by
  have blankBefore : Json.Blank " ".toList := by simp [Json.Blank]
  have blankAfter : Json.Blank "\t".toList := by simp [Json.Blank]
  have noSign : '=' ∉ "x y".toList := by decide
  obtain ⟨-, -, decoded, passed⟩ := quoting_passes_any_text "b=\"{true}\\\n\x01é😀"
    (by decide : "x y" ≠ "") noSign blankBefore blankAfter
  exact ⟨blankBefore, blankAfter, noSign, decoded,
    (passed (by decide) ⟨'x', by decide, by decide⟩ none {} ⟨0, 0, 0⟩).1⟩

end Command
end Stencil
