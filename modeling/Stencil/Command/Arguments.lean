/-!
# Arguments

The first argument names a subcommand, and the rest are its words and options.  An argument that
starts with two dashes is a long option, one dash and more starts short options, and anything else
is a word.  After an argument of exactly two dashes everything is a word.

The value of `--id` is settled only when the next option or word that does not belong to it comes,
or at the end.  An option that does not exist is therefore reported before a fault of an `--id` in
front of it.
-/

namespace Stencil

/-- What the program is asked to do. -/
inductive Command where
  /-- Renders a template with variables given as assignments. -/
  | render (template : String) (assignments : List String) (id : Option String)
  /-- Says whether a text is a template. -/
  | validate (template : String)
  /-- Lists the names that a text mentions. -/
  | names (template : String)
  /-- Shows what the engine can do. -/
  | demo
deriving DecidableEq, Repr

/-- A part of the program that has a help text of its own. -/
inductive Subcommand where
  | render
  | validate
  | names
  | demo
  | help
deriving DecidableEq, Repr

namespace Subcommand

/-- The subcommand with a name. -/
def ofName? (name : String) : Option Subcommand :=
  match name with
  | "render" => some render
  | "validate" => some validate
  | "vars" => some names
  | "demo" => some demo
  | "help" => some help
  | _ => none

end Subcommand

/-- What the arguments ask for. -/
inductive Request where
  /-- To run a command. -/
  | run (command : Command)
  /-- To show the help text of the program or of a subcommand. -/
  | help (topic : Option Subcommand)
  /-- To show the version. -/
  | version
deriving DecidableEq, Repr

/-- The ways in which arguments ask for nothing that can be done. -/
inductive UsageError where
  /-- There is no subcommand. -/
  | noSubcommand
  /-- A word stands in the place of a subcommand. -/
  | unknownSubcommand
  /-- An option or a word that nothing takes. -/
  | unknownArgument
  /-- A value is attached to an option that takes none. -/
  | unexpectedValue
  /-- There is no template. -/
  | missingTemplate
  /-- An `--id` has no value. -/
  | missingId
  /-- There is more than one `--id`. -/
  | repeatedId
deriving DecidableEq, Repr

/-- How one argument reads before two dashes have ended the options. -/
inductive Token where
  /-- Two dashes alone. -/
  | endOfOptions
  /-- Two dashes, a name and what follows the first equals sign. -/
  | long (name : String) (attached : Option String)
  /-- A dash and at least one letter. -/
  | short (first : Char) (others : List Char)
  /-- Anything else. -/
  | word (text : String)
deriving DecidableEq, Repr

namespace Token

/-- The token of a long option, given the characters after the dashes. -/
def ofLong (characters : List Char) : Token :=
  let name := String.ofList (characters.takeWhile (· ≠ '='))
  match characters.dropWhile (· ≠ '=') with
  | [] => long name none
  | _ :: value => long name (some (String.ofList value))

/-- How an argument reads. -/
def ofArgument (argument : String) : Token :=
  match argument.toList with
  | ['-', '-'] => endOfOptions
  | '-' :: '-' :: characters => ofLong characters
  | '-' :: first :: others => short first others
  | _ => word argument

end Token

/-- Why the arguments of a subcommand are not read to their end. -/
inductive Interruption where
  /-- They ask for help. -/
  | help
  /-- They are wrong. -/
  | usage (error : UsageError)
deriving DecidableEq, Repr

/-- What a subcommand takes. -/
structure Signature where
  /-- Whether it takes `--id`. -/
  takesId : Bool
  /-- How many words it takes, if there is a limit. -/
  words : Option Nat
deriving DecidableEq, Repr

namespace Subcommand

/-- What the subcommand takes. -/
def signature : Subcommand → Signature
  | render => ⟨true, none⟩
  | validate => ⟨false, some 1⟩
  | names => ⟨false, some 1⟩
  | demo => ⟨false, some 0⟩
  | help => ⟨false, none⟩

end Subcommand

/-- An `--id` whose value has not been settled. -/
inductive PendingId where
  /-- The value has not come yet. -/
  | awaited
  /-- The value has come. -/
  | given (value : String)
deriving DecidableEq, Repr

/-- What the arguments read so far mean. -/
structure Filling where
  /-- The words, the last one first. -/
  words : List String
  /-- The settled value of `--id`. -/
  id : Option String
  /-- An `--id` that has not been settled. -/
  pending : Option PendingId
deriving DecidableEq, Repr

namespace Filling

/-- Nothing has been read. -/
def start : Filling where
  words := []
  id := none
  pending := none

/-- Settles a value of `--id`, of which there can be only one. -/
def setId (filling : Filling) (value : String) : Except Interruption Filling :=
  match filling.id with
  | none => .ok { filling with id := some value, pending := none }
  | some _ => .error (.usage .repeatedId)

/-- Settles the pending `--id`, if there is one. -/
def settle (filling : Filling) : Except Interruption Filling :=
  match filling.pending with
  | none => .ok filling
  | some .awaited => .error (.usage .missingId)
  | some (.given value) => filling.setId value

/-- Whether another word is too much. -/
def isFull (signature : Signature) (filling : Filling) : Bool :=
  match signature.words with
  | none => false
  | some limit => limit ≤ filling.words.length

/-- Reads a word that is no value of an option. -/
def addWord (signature : Signature) (filling : Filling) (word : String) :
    Except Interruption Filling :=
  if filling.isFull signature then .error (.usage .unknownArgument)
  else do
    let settled ← filling.settle
    return { settled with words := word :: settled.words }

/-- Reads arguments after the options have ended. -/
def readWords (signature : Signature) (filling : Filling) (arguments : List String) :
    Except Interruption Filling :=
  arguments.foldlM (addWord signature) filling

/-- Reads `--id`, with a value attached to it or not. -/
def readId (filling : Filling) (attached : Option String) : Except Interruption Filling := do
  let settled ← filling.settle
  match attached with
  | none => return { settled with pending := some .awaited }
  | some value => settled.setId value

/-- Reads a request for help. -/
def readHelp (filling : Filling) : Except Interruption Filling := do
  let _ ← filling.settle
  .error .help

/-- Reads a long option. -/
def readLong (signature : Signature) (filling : Filling) (name : String)
    (attached : Option String) : Except Interruption Filling :=
  if name = "help" then
    match attached with
    | none => filling.readHelp
    | some _ => .error (.usage .unexpectedValue)
  else if name = "id" ∧ signature.takesId then filling.readId attached
  else .error (.usage .unknownArgument)

/-- Reads a word, which may be the value that an `--id` awaits. -/
def readWord (signature : Signature) (filling : Filling) (word : String) :
    Except Interruption Filling :=
  match filling.pending with
  | some .awaited => .ok { filling with pending := some (.given word) }
  | _ => filling.addWord signature word

/-- Reads the arguments of a subcommand. -/
def read (signature : Signature) : Filling → List String → Except Interruption Filling
  | filling, [] => filling.settle
  | filling, argument :: arguments =>
    match Token.ofArgument argument with
    | .endOfOptions => do
      let filled ← filling.readWords signature arguments
      filled.settle
    | .long name attached => do
      let next ← filling.readLong signature name attached
      next.read signature arguments
    | .short first _ =>
      if first = 'h' then filling.readHelp else .error (.usage .unknownArgument)
    | .word word => do
      let next ← filling.readWord signature word
      next.read signature arguments

/-- The command of a subcommand that has been read to its end. -/
def command? (subcommand : Subcommand) (filling : Filling) : Option Command :=
  match subcommand, filling.words.reverse with
  | .render, template :: assignments => some (.render template assignments filling.id)
  | .validate, [template] => some (.validate template)
  | .names, [template] => some (.names template)
  | .demo, [] => some .demo
  | _, _ => none

end Filling

namespace Request

/-- Reads the arguments of a subcommand other than `help`. -/
def ofSubcommand (subcommand : Subcommand) (arguments : List String) :
    Except UsageError Request :=
  match Filling.read subcommand.signature Filling.start arguments with
  | .error .help => .ok (.help subcommand)
  | .error (.usage error) => .error error
  | .ok filling =>
    match filling.command? subcommand with
    | some command => .ok (.run command)
    | none => .error .missingTemplate

/-- Reads the arguments of `help`, which name at most one subcommand. -/
def ofHelp : List String → Except UsageError Request
  | [] => .ok (.help none)
  | name :: names =>
    match Subcommand.ofName? name, names with
    | some subcommand, [] => .ok (.help subcommand)
    | _, _ => .error .unknownSubcommand

/-- Reads what follows the end of the options where a subcommand should stand. -/
def afterEndOfOptions : List String → Except UsageError Request
  | [] => .error .noSubcommand
  | word :: _ =>
    if (Subcommand.ofName? word).isSome then .error .unknownArgument
    else .error .unknownSubcommand

/-- Reads a long option in front of the subcommand. -/
def ofLong (name : String) (attached : Option String) : Except UsageError Request :=
  if name = "help" then
    if attached.isSome then .error .unexpectedValue else .ok (.help none)
  else if name = "version" then
    if attached.isSome then .error .unexpectedValue else .ok .version
  else .error .unknownArgument

/-- Reads short options in front of the subcommand, of which the first decides. -/
def ofShort (first : Char) : Except UsageError Request :=
  if first = 'h' then .ok (.help none)
  else if first = 'V' then .ok .version
  else .error .unknownArgument

/-- Reads the arguments of the program. -/
def ofArguments : List String → Except UsageError Request
  | [] => .error .noSubcommand
  | argument :: arguments =>
    match Token.ofArgument argument with
    | .endOfOptions => afterEndOfOptions arguments
    | .long name attached => ofLong name attached
    | .short first _ => ofShort first
    | .word word =>
      match Subcommand.ofName? word with
      | none => .error .unknownSubcommand
      | some .help => ofHelp arguments
      | some subcommand => ofSubcommand subcommand arguments

end Request
end Stencil
