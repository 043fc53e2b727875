import Stencil.Command.Arguments

/-!
# Words and identifiers among the arguments

After two dashes every argument is a word, whatever it looks like.  Where no word looks like an
option, the identifier may stand before, between or after the words.
-/

namespace Stencil

namespace Token

/-- Whether an argument cannot be mistaken for an option. -/
def IsPlain (argument : String) : Prop :=
  argument.toList.head? ≠ some '-'

instance (argument : String) : Decidable (IsPlain argument) :=
  inferInstanceAs (Decidable (_ ≠ _))

theorem ofArgument_of_isPlain {argument : String} (plain : IsPlain argument) :
    ofArgument argument = .word argument := by
  rw [IsPlain] at plain
  unfold ofArgument
  split
  next shape => exact absurd (congrArg List.head? shape) plain
  next shape => exact absurd (congrArg List.head? shape) plain
  next shape => exact absurd (congrArg List.head? shape) plain
  next => rfl

end Token

namespace Filling

variable {signature : Signature} {filling settled : Filling} {words : List String}

/-- The words come after those that have been read. -/
def withWords (filling : Filling) (words : List String) : Filling :=
  { filling with words := words.reverse ++ filling.words }

@[simp]
theorem withWords_nil (filling : Filling) : filling.withWords [] = filling := rfl

theorem withWords_withWords (filling : Filling) (words others : List String) :
    (filling.withWords words).withWords others = filling.withWords (words ++ others) := by
  simp [withWords]

/-- Whether no value of `--id` is awaited, and what is known once a pending one is settled. -/
def Settles (filling settled : Filling) : Prop :=
  filling.pending ≠ some .awaited ∧ filling.settle = .ok settled ∧ settled.pending = none

theorem settles_self (idle : filling.pending = none) : Settles filling filling := by
  refine ⟨?_, ?_, idle⟩
  · simp [idle]
  · simp [settle, idle]

theorem settles_given (filling : Filling) (unset : filling.id = none) (id : String) :
    Settles { filling with pending := some (.given id) }
      { filling with id := some id, pending := none } := by
  refine ⟨by simp, ?_, rfl⟩
  simp [settle, setId, unset]

theorem Settles.withWords (settles : Settles filling settled) (words : List String) :
    Settles (settled.withWords words) (settled.withWords words) :=
  settles_self settles.2.2

theorem Settles.addWord (settles : Settles filling settled) (unlimited : signature.words = none)
    (word : String) : filling.addWord signature word = .ok (settled.withWords [word]) := by
  simp only [Filling.addWord, isFull, unlimited, settles.2.1]
  rfl

theorem Settles.readWord (settles : Settles filling settled) (unlimited : signature.words = none)
    (word : String) : filling.readWord signature word = .ok (settled.withWords [word]) := by
  rw [← settles.addWord unlimited word]
  unfold Filling.readWord
  split
  next awaited => exact absurd awaited settles.1
  next => rfl

/-- Arguments after two dashes are words. -/
theorem Settles.readWords (settles : Settles filling settled) (unlimited : signature.words = none)
    (words : List String) :
    (filling.readWords signature words >>= settle) = .ok (settled.withWords words) := by
  induction words generalizing filling settled with
  | nil => exact settles.2.1
  | cons word words induction =>
      have others := induction (settles.withWords [word])
      rw [withWords_withWords, List.singleton_append] at others
      simp only [Filling.readWords, List.foldlM_cons, settles.addWord unlimited word]
      exact others

theorem Settles.read_endOfOptions (settles : Settles filling settled)
    (unlimited : signature.words = none) (words : List String) :
    filling.read signature ("--" :: words) = .ok (settled.withWords words) :=
  settles.readWords unlimited words

theorem Settles.read_cons (settles : Settles filling settled) (unlimited : signature.words = none)
    {word : String} (plain : Token.IsPlain word) (arguments : List String) :
    filling.read signature (word :: arguments) =
      (settled.withWords [word]).read signature arguments := by
  rw [Filling.read, Token.ofArgument_of_isPlain plain]
  simp only [settles.readWord unlimited word]
  rfl

/-- Arguments that cannot be mistaken for options are words. -/
theorem Settles.read (settles : Settles filling settled) (unlimited : signature.words = none)
    (plain : ∀ word ∈ words, Token.IsPlain word) :
    filling.read signature words = .ok (settled.withWords words) := by
  induction words generalizing filling settled with
  | nil => exact settles.2.1
  | cons word words induction =>
      obtain ⟨first, others⟩ := List.forall_mem_cons.1 plain
      rw [settles.read_cons unlimited first, induction (settles.withWords [word]) others,
        withWords_withWords, List.singleton_append]

/-- Words are read before whatever comes after them. -/
theorem read_append (idle : filling.pending = none) (unlimited : signature.words = none)
    (plain : ∀ word ∈ words, Token.IsPlain word) (arguments : List String) :
    filling.read signature (words ++ arguments) =
      (filling.withWords words).read signature arguments := by
  induction words generalizing filling with
  | nil => rfl
  | cons word words induction =>
      obtain ⟨first, others⟩ := List.forall_mem_cons.1 plain
      have settles := settles_self idle
      rw [List.cons_append, settles.read_cons unlimited first,
        induction (settles.withWords [word]).2.2 others, withWords_withWords,
        List.singleton_append]

/-- The argument after `--id` is its value, which is settled later. -/
theorem read_id (idle : filling.pending = none) (takesId : signature.takesId = true) {id : String}
    (plain : Token.IsPlain id) (arguments : List String) :
    filling.read signature ("--id" :: id :: arguments) =
      { filling with pending := some (.given id) }.read signature arguments := by
  have option : Token.ofArgument "--id" = .long "id" none := rfl
  have opened : filling.readLong signature "id" none =
      .ok { filling with pending := some .awaited } := by
    simp only [readLong, readId, settle, idle, takesId]
    rfl
  rw [Filling.read, option]
  simp only [opened]
  change Filling.read signature _ (id :: arguments) = _
  rw [Filling.read, Token.ofArgument_of_isPlain plain]
  rfl

/-- It makes no difference between which words `--id` stands. -/
theorem read_append_id (idle : filling.pending = none) (unset : filling.id = none)
    (unlimited : signature.words = none) (takesId : signature.takesId = true)
    {front back : List String} {id : String} (plainFront : ∀ word ∈ front, Token.IsPlain word)
    (plainId : Token.IsPlain id) (plainBack : ∀ word ∈ back, Token.IsPlain word) :
    filling.read signature (front ++ "--id" :: id :: back) =
      .ok ({ filling with id := some id, pending := none }.withWords (front ++ back)) := by
  have given := settles_given (filling.withWords front) unset id
  have stillIdle : (filling.withWords front).pending = none := idle
  rw [read_append idle unlimited plainFront, read_id stillIdle takesId plainId,
    given.read unlimited plainBack]
  exact congrArg Except.ok (withWords_withWords { filling with id := some id, pending := none } _ _)

end Filling

namespace Request

open Filling

/-- What the arguments of `render` ask for, once they are read. -/
theorem ofArguments_render {arguments : List String} {template : String}
    {assignments : List String} {id : Option String}
    (read : Filling.start.read Subcommand.render.signature arguments =
      .ok ({ Filling.start with id }.withWords (template :: assignments))) :
    ofArguments ("render" :: arguments) = .ok (.run (.render template assignments id)) := by
  have subcommand : ofArguments ("render" :: arguments) = ofSubcommand .render arguments := rfl
  rw [subcommand, ofSubcommand, read]
  simp [command?, withWords, Filling.start]

/-- After two dashes any template and any assignments can be given.  Where they do not look like
options, the two dashes can be left out, and `--id` may stand at any place among them. -/
theorem any_words_can_be_given (template : String) (assignments : List String) {id : String}
    (plainId : Token.IsPlain id) :
    ofArguments ("render" :: "--id" :: id :: "--" :: template :: assignments) =
        .ok (.run (.render template assignments (some id))) ∧
      ofArguments ("render" :: "--" :: template :: assignments) =
        .ok (.run (.render template assignments none)) ∧
      ((∀ word ∈ template :: assignments, Token.IsPlain word) →
        ofArguments ("render" :: template :: assignments) =
            .ok (.run (.render template assignments none)) ∧
          ∀ front back, front ++ back = template :: assignments →
            ofArguments ("render" :: (front ++ "--id" :: id :: back)) =
              .ok (.run (.render template assignments (some id)))) := by
  have idle : Filling.start.pending = none := rfl
  refine ⟨ofArguments_render ?_, ofArguments_render ?_, ?_⟩
  · rw [read_id idle rfl plainId, (settles_given Filling.start rfl id).read_endOfOptions rfl]
    rfl
  · exact (settles_self idle).read_endOfOptions rfl _
  · intro plain
    refine ⟨ofArguments_render ((settles_self idle).read rfl plain), ?_⟩
    intro front back split
    apply ofArguments_render
    rw [← split] at plain ⊢
    obtain ⟨plainFront, plainBack⟩ := List.forall_mem_append.1 plain
    exact read_append_id rfl rfl rfl rfl plainFront plainId plainBack

/-- A template and assignments that are themselves options are given after two dashes, and an
identifier stands between two assignments. -/
theorem any_words_can_be_given_like_options :
    Token.IsPlain "" ∧
      ofArguments ["render", "--id", "", "--", "--", "--id", "-h=1"] =
        .ok (.run (.render "--" ["--id", "-h=1"] (some ""))) ∧
      Token.IsPlain "help" ∧ (∀ word ∈ ["{a}{b}", "a=-1", "b="], Token.IsPlain word) ∧
      ofArguments ["render", "{a}{b}", "a=-1", "--id", "help", "b="] =
        .ok (.run (.render "{a}{b}" ["a=-1", "b="] (some "help"))) := by
  have empty : Token.IsPlain "" := by decide
  have help : Token.IsPlain "help" := by decide
  have words : ∀ word ∈ ["{a}{b}", "a=-1", "b="], Token.IsPlain word := by decide
  refine ⟨empty, (any_words_can_be_given "--" ["--id", "-h=1"] empty).1, help, words, ?_⟩
  exact ((any_words_can_be_given "{a}{b}" ["a=-1", "b="] help).2.2 words).2 ["{a}{b}", "a=-1"]
    ["b="] rfl

end Request
end Stencil
