/-
This file holds the registry, the table of the kinds that are live. It is filled before any
expression is built, one kind after the other or all of them at once, and only read afterwards.
Every kind is registered at most once, and every registration is announced in the log of a
registry that keeps one.
-/

import PacketFilter.Descriptor
import PacketFilter.Json.Basic
import PacketFilter.Settings
import PacketFilter.Text.Quoted

namespace PacketFilter

/-- A record of the debug log: a message with named facts. -/
structure LogRecord where
  message : String
  facts : List (String × Json)

/-- The table of live kinds, with the settings that go with it. -/
structure Registry where
  /-- The descriptor of each live kind. -/
  descriptor? : Kind → Option Descriptor
  settings : Settings
  /-- Whether registrations are announced. -/
  keepsLog : Bool

namespace Registry

/-! ### Looking up -/

/-- Whether a kind is live. -/
def isRegistered (registry : Registry) (kind : Kind) : Bool :=
  (registry.descriptor? kind).isSome

/-- The descriptor of a kind that has to be live. -/
def lookup (registry : Registry) (kind : Kind) : Except Fault Descriptor :=
  match registry.descriptor? kind with
  | some descriptor => .ok descriptor
  | none => .error (.notRegistered kind)

/-- The descriptors of the live kinds, in the order of the kinds. -/
def descriptors (registry : Registry) : List Descriptor :=
  Kind.all.filterMap registry.descriptor?

/-! ### Registering -/

/-- The record that announces a live kind. -/
def announcement (kind : Kind) : LogRecord :=
  { message := "registered value kind"
    facts := [("kind", .integer kind.index), ("name", .string kind.name)] }

/-- A table without any live kind. -/
def empty (settings : Settings) (keepsLog : Bool) : Registry :=
  { descriptor? := fun _ => none, settings := settings, keepsLog := keepsLog }

/-- The table with one more entry. -/
def insert (registry : Registry) (kind : Kind) (descriptor : Descriptor) : Registry :=
  { registry with
    descriptor? := fun other =>
      if other = kind then some descriptor else registry.descriptor? other }

/-- Makes a kind live, and names the kinds that this makes live. The descriptor has to be of the
kind, and the kind must not be live already. -/
def register (registry : Registry) (kind : Kind) (descriptor : Descriptor) :
    Except Fault (Registry × List Kind) :=
  if descriptor.kind ≠ kind then .error (.foreignDescriptor descriptor.kind kind)
  else if registry.isRegistered kind then .error (.registeredTwice kind)
  else .ok (registry.insert kind descriptor, [kind])

/-- Makes live those of the given kinds that are not, in order, and names them. -/
def registerMissing (registry : Registry) : List Kind → Registry × List Kind
  | [] => (registry, [])
  | kind :: rest =>
    if registry.isRegistered kind then registry.registerMissing rest
    else
      let (filled, kinds) := (registry.insert kind ⟨kind⟩).registerMissing rest
      (filled, kind :: kinds)

/-- Makes every kind live that is not, and names those kinds. -/
def registerAll (registry : Registry) : Registry × List Kind :=
  registry.registerMissing Kind.all

/-- The records that announce kinds in the log, if there is one. -/
def announce (registry : Registry) (kinds : List Kind) : List LogRecord :=
  if registry.keepsLog then kinds.map announcement else []

/-- A table of the given kinds, each of which has to occur once. -/
def ofKinds (settings : Settings) (kinds : List Kind) : Except Fault Registry :=
  kinds.foldlM (fun registry kind => (registry.register kind ⟨kind⟩).map (·.1))
    (empty settings false)

/-- A table in which every kind is live. -/
def standard (settings : Settings) : Registry :=
  (empty settings false).registerAll.1

/-! ### Reading and comparing -/

/-- The value that a literal of a live kind denotes. -/
def readLiteral (registry : Registry) (zone : Zone) (kind : Kind) (text : String) :
    Except (Failure ValueError) Value := do
  let descriptor ← (registry.lookup kind).mapError .fault
  (descriptor.readLiteral zone registry.settings.localTime text).mapError .error

/-- Whether two values satisfy a comparison of the kind of the left one. -/
def compare (registry : Registry) (comparison : Comparison) (left right : Value) :
    Except (Failure ValueError) Bool := do
  let descriptor ← (registry.lookup left.kind).mapError .fault
  (descriptor.compare comparison left right).mapError .error

/-! ### Text -/

/-- The live kinds and the settings in words. -/
def description (registry : Registry) : String :=
  let names := registry.descriptors.map fun descriptor => Text.quoted descriptor.kind.name
  "Registry \x7b kinds: [" ++ String.intercalate ", " names
    ++ "], config: RuntimeConfig \x7b local_time: "
    ++ registry.settings.localTime.constantName ++ ", max_depth: "
    ++ Text.natText registry.settings.maxDepth ++ " \x7d \x7d"

end Registry

end PacketFilter
