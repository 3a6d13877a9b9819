/-
This file reads the arguments of the command line: options, of which some have a value, and a
command with words of its own. Options may stand in front of the command or among its words, and
`--` ends them. A word that belongs to an option or to a command is checked when the next
argument is understood, so what is wrong with an earlier word is found before what is wrong with
a later one; a command is read as a whole before the word in front of it is checked.

A slice may begin with a hyphen. Once the bytes are given, what is not a known option is taken
for a slice, and after the first slice everything is.
-/

import PacketFilter.CommandLine.SliceText
import PacketFilter.Comparison
import PacketFilter.Kind
import PacketFilter.Settings

namespace PacketFilter.CommandLine

/-! ### Commands and refusals -/

/-- What the program is asked to do. -/
inductive Command where
  /-- Read a literal. -/
  | parse (kind : Kind) (literal : String)
  /-- Compare two literals. -/
  | compare (kind : Kind) (left : String) (comparison : Comparison) (right : String)
  /-- Take slices of bytes. -/
  | range (bytes : String) (slices : List Slice)
  /-- List the kinds. -/
  | kinds
  deriving DecidableEq

/-- The arguments in full. -/
structure Arguments where
  json : Bool
  settings : Settings
  command : Command
  deriving DecidableEq

/-- Why arguments are refused. -/
inductive UsageError where
  /-- They are not of the form that the program expects. -/
  | malformed
  | badName (refusal : UnknownName)
  | badNumber (cause : NumberError)
  | badSlice (failure : Failure OffsetError)
  deriving DecidableEq

/-- What is wrong with a single word, where that is why the arguments are refused. -/
def UsageError.message? : UsageError → Option String
  | .malformed => none
  | .badName refusal => some refusal.message
  | .badNumber cause => some cause.message
  | .badSlice (.error refusal) => some refusal.message
  | .badSlice (.fault fault) => some fault.message

/-! ### What is read so far -/

/-- The options that have a value. -/
inductive ValueOption where
  | localTime
  | maxDepth
  deriving DecidableEq

/-- The words that a command expects. -/
inductive Slot where
  | kind
  | literal
  | comparison
  /-- One slice or more. -/
  | slices
  deriving DecidableEq

/-- Where a word belongs. -/
inductive Place where
  | option (option : ValueOption)
  | slot (slot : Slot)
  deriving DecidableEq

/-- The arguments that are read so far, in front of a command or after it. -/
structure Draft where
  json : Bool
  localTime? : Option LocalTimePolicy
  maxDepth? : Option Nat
  kind? : Option Kind
  literals : List String
  comparison? : Option Comparison
  slices : List Slice
  /-- The words that are still to come. -/
  expected : List Slot
  /-- The option whose value has to come next. -/
  awaited? : Option ValueOption
  /-- The word that is not checked yet. -/
  unchecked? : Option (Place × String)
  /-- Whether `--` has ended the options. -/
  optionsEnded : Bool
  /-- Whether the version can be asked for, which only the program as a whole has. -/
  hasVersion : Bool

/-- Nothing is read yet in front of the command. -/
def Draft.outer : Draft :=
  { json := false, localTime? := none, maxDepth? := none, kind? := none, literals := []
    comparison? := none, slices := [], expected := [], awaited? := none
    unchecked? := none, optionsEnded := false, hasVersion := true }

/-- Nothing is read yet after a command that expects the given words. -/
def Draft.inner (expected : List Slot) : Draft :=
  { Draft.outer with expected := expected, hasVersion := false }

/-- The words that each command expects. -/
def expectedWords : String → Option (List Slot)
  | "parse" => some [.kind, .literal]
  | "compare" => some [.kind, .literal, .comparison, .literal]
  | "range" => some [.literal, .slices]
  | "kinds" => some []
  | _ => none

namespace Draft

/-! ### Checking words -/

/-- Whether an option is given already. -/
def hasOption (draft : Draft) : ValueOption → Bool
  | .localTime => draft.localTime?.isSome
  | .maxDepth => draft.maxDepth?.isSome

/-- The draft with a word checked and put in its place. An option may be given once. -/
def put (draft : Draft) (place : Place) (word : String) : Except UsageError Draft :=
  match place with
  | .option option =>
    if draft.hasOption option then .error .malformed
    else
      match option with
      | .localTime =>
        ((LocalTimePolicy.ofName word).mapError .badName).map fun policy =>
          { draft with localTime? := some policy }
      | .maxDepth =>
        ((readCount word).mapError .badNumber).map fun maxDepth =>
          { draft with maxDepth? := some maxDepth }
  | .slot .kind =>
    ((Kind.ofName word).mapError .badName).map fun kind => { draft with kind? := some kind }
  | .slot .literal => .ok { draft with literals := draft.literals ++ [word] }
  | .slot .comparison =>
    ((Comparison.ofName word).mapError .badName).map fun comparison =>
      { draft with comparison? := some comparison }
  | .slot .slices =>
    ((Slice.read word).mapError .badSlice).map fun slice =>
      { draft with slices := draft.slices ++ [slice] }

/-- The draft with the last word checked. An option whose value is missing is refused. -/
def settle (draft : Draft) : Except UsageError Draft :=
  match draft.awaited?, draft.unchecked? with
  | some _, _ => .error .malformed
  | none, none => .ok draft
  | none, some (place, word) => { draft with unchecked? := none }.put place word

/-! ### Understanding one argument -/

/-- What an argument is. -/
inductive Form where
  | word
  | endOfOptions
  | json
  | verbosity
  | option (option : ValueOption) (attached? : Option String)
  /-- A request for help or for the version, or letters of which the first is understood and
  another one cannot be. The reading ends there, after the check of the word in front of it. -/
  | departure
  | unknown

/-- Whether the next word is a slice, so that it may begin with a hyphen. -/
def expectsSlice (draft : Draft) : Bool :=
  draft.expected.head? = some .slices

/-- Whether a slice is given, so that everything else is one as well. -/
def hasSlice (draft : Draft) : Bool :=
  !draft.slices.isEmpty || draft.unchecked?.any fun (place, _) => place = .slot .slices

/-- The form of an argument that is not an option: a slice where one is expected. -/
def otherForm (draft : Draft) : Form :=
  if draft.expectsSlice then .word else .unknown

/-- What an argument after two hyphens is, by its name and by the value that is attached to it
with an equals sign. -/
def longForm (draft : Draft) (name : String) (attached? : Option String) : Form :=
  match name, attached? with
  | "local-time", attached? => .option .localTime attached?
  | "max-depth", attached? => .option .maxDepth attached?
  | "json", none => .json
  | "verbose", none => .verbosity
  | "help", none => .departure
  | "json", some _ | "verbose", some _ | "help", some _ => .unknown
  | "version", attached? =>
    if !draft.hasVersion then draft.otherForm
    else if attached?.isNone then .departure
    else .unknown
  | _, _ => draft.otherForm

/-- Whether a letter after a hyphen is understood. -/
def isOptionLetter (draft : Draft) (letter : Char) : Bool :=
  letter = 'v' || letter = 'h' || (letter = 'V' && draft.hasVersion)

/-- What an argument after one hyphen is, by its letters. They are understood one by one. -/
def shortForm (draft : Draft) (letters : List Char) : Form :=
  if draft.expectsSlice && !letters.all draft.isOptionLetter then .word
  else if letters.all (· = 'v') then .verbosity
  else if letters.head?.any draft.isOptionLetter then .departure
  else .unknown

/-- What an argument is. -/
def form (draft : Draft) (argument : String) : Form :=
  if draft.optionsEnded || draft.hasSlice then .word
  else
    match argument.toList with
    | ['-'] => .word
    | ['-', '-'] => .endOfOptions
    | '-' :: '-' :: letters =>
      let (name, attached?) := Text.splitFirst '=' letters
      draft.longForm (String.ofList name) (attached?.map String.ofList)
    | '-' :: letters => draft.shortForm letters
    | _ => .word

/-- The draft with one more word: the value of an option, or the next word of the command. -/
def takeWord (draft : Draft) (word : String) : Except UsageError Draft :=
  match draft.awaited? with
  | some option =>
    .ok { draft with awaited? := none, unchecked? := some (.option option, word) }
  | none =>
    match draft.expected with
    | [] => .error .malformed
    | slot :: rest =>
      draft.settle.map fun settled =>
        { settled with
          expected := if slot = .slices then draft.expected else rest
          unchecked? := some (.slot slot, word) }

/-- The draft with one more argument. -/
def take (draft : Draft) (argument : String) : Except UsageError Draft :=
  match draft.form argument with
  | .word =>
    if draft.optionsEnded && draft.awaited?.isSome then .error .malformed
    else draft.takeWord argument
  | .endOfOptions => .ok { draft with optionsEnded := true }
  | .json => do
    let settled ← draft.settle
    if settled.json then .error .malformed else .ok { settled with json := true }
  | .verbosity => draft.settle
  | .option option none => draft.settle.map fun settled => { settled with awaited? := some option }
  | .option option (some word) => do
    let settled ← draft.settle
    settled.put (.option option) word
  | .departure => draft.settle.bind fun _ => .error .malformed
  | .unknown => .error .malformed

/-- The draft with all arguments taken and all words checked. -/
def takeAll (draft : Draft) : List String → Except UsageError Draft
  | [] => draft.settle
  | argument :: rest =>
    match draft.take argument with
    | .error refusal => .error refusal
    | .ok draft => draft.takeAll rest

/-! ### The whole command line -/

/-- The command that the words of a draft make up. -/
def command? (draft : Draft) (name : String) : Option Command :=
  match name, draft.kind?, draft.literals, draft.comparison?, draft.slices with
  | "parse", some kind, [literal], _, _ => some (.parse kind literal)
  | "compare", some kind, [left, right], some comparison, _ =>
    some (.compare kind left comparison right)
  | "range", _, [bytes], _, slice :: slices => some (.range bytes (slice :: slices))
  | "kinds", _, _, _, _ => some .kinds
  | _, _, _, _, _ => none

/-- The arguments that two drafts make up. What is given after the command counts before what is
given in front of it. -/
def arguments (outer inner : Draft) (command : Command) : Arguments :=
  let standard := Settings.standard
  { json := outer.json || inner.json
    settings :=
      { localTime := (inner.localTime? <|> outer.localTime?).getD standard.localTime
        maxDepth := (inner.maxDepth? <|> outer.maxDepth?).getD standard.maxDepth }
    command := command }

/-- Whether an argument in front of the command names it. -/
def commandWords? (draft : Draft) (argument : String) : Option (List Slot) :=
  if draft.optionsEnded || draft.awaited?.isSome then none else expectedWords argument

/-- The arguments that follow what is read in front of the command. -/
def readOuter (draft : Draft) : List String → Except UsageError Arguments
  | [] => draft.settle.bind fun _ => .error .malformed
  | argument :: rest =>
    match draft.commandWords? argument with
    | some expected => do
      let inner ← (Draft.inner expected).takeAll rest
      match inner.command? argument with
      | none => .error .malformed
      | some command => return (← draft.settle).arguments inner command
    | none =>
      match draft.take argument with
      | .error refusal => .error refusal
      | .ok draft => draft.readOuter rest

end Draft

/-- The arguments of a command line. -/
def Arguments.read (arguments : List String) : Except UsageError Arguments :=
  Draft.outer.readOuter arguments

end PacketFilter.CommandLine
