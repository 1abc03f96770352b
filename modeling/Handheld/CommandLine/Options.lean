import Handheld.Settings

namespace Handheld

/-!
# Command line options

Arguments are read one after the other, and the first that is wrong decides. An
option may be given once. Its value follows an equals sign or is the next
argument, which must not look like an option itself; the value of a short option
may also follow it directly. After `--` all arguments are positional.
-/

/-- What the command line asks to run. -/
structure Options where
  program : String
  settings : Settings
  keys : Option String
  maxSteps : Option Nat
  dumpScreen : Bool
  verbose : Bool
  deriving DecidableEq, Repr

namespace Options

/-- What was read so far; `none` is what was not given yet. -/
structure Draft where
  program : Option String := none
  root : Option String := none
  fonts : Option String := none
  keys : Option String := none
  ramPolicy : Option RamPolicy := none
  maxSteps : Option Nat := none
  throttle : Bool := false
  dumpScreen : Bool := false
  verbose : Bool := false
  deriving DecidableEq, Repr

/-- Why there is nothing to run. -/
inductive Stop where
  | version
  | help
  | usage
  deriving DecidableEq, Repr

/-- The options that take a value. -/
inductive Valued where
  | root
  | fonts
  | keys
  | ramPolicy
  | maxSteps
  deriving DecidableEq, Repr

/-- The options that take none. -/
inductive Flag where
  | throttle
  | dumpScreen
  | verbose
  | version
  | help
  deriving DecidableEq, Repr

/-- The option of a long name. -/
def ofLongName? (name : String) : Option (Valued ⊕ Flag) :=
  [("root", Sum.inl Valued.root), ("fonts", .inl .fonts), ("keys", .inl .keys),
    ("ram-policy", .inl .ramPolicy), ("max-steps", .inl .maxSteps),
    ("throttle", .inr .throttle), ("dump-screen", .inr .dumpScreen),
    ("verbose", .inr .verbose), ("version", .inr .version), ("help", .inr .help)].lookup name

/-- The option of a short name. -/
def ofShortName? (name : Char) : Option (Valued ⊕ Flag) :=
  [('k', Sum.inl Valued.keys), ('d', .inr .dumpScreen), ('v', .inr .verbose),
    ('V', .inr .version), ('h', .inr .help)].lookup name

/-- A number below `2 ^ 64` in decimal, after an optional plus sign. -/
def readCount? (text : String) : Option Nat :=
  let digits := match text.toList with
    | '+' :: rest => rest
    | all => all
  if digits = [] ∨ digits.any (fun digit => !digit.isDigit) then
    none
  else
    let value := digits.foldl (fun value digit => value * 10 + (digit.toNat - '0'.toNat)) 0
    if value < 0x10000000000000000 then some value else none

/-- The memory policy of a name. -/
def readPolicy? (text : String) : Option RamPolicy :=
  [("keep", RamPolicy.keep), ("clear", RamPolicy.clear)].lookup text

/-- Set what may be set once. -/
def setOnce
    (old : Option α)
    (new : Option α) :
    Except Stop (Option α) :=
  if old.isSome || new.isNone then .error .usage else .ok new

/-- A path, which is not empty. -/
def readPath? (text : String) : Option String :=
  if text = "" then none else some text

/-- Take an option with its value. -/
def Draft.setValue
    (draft : Draft)
    (option : Valued)
    (value : String) :
    Except Stop Draft := do
  match option with
  | .root => return { draft with root := ← setOnce draft.root (readPath? value) }
  | .fonts => return { draft with fonts := ← setOnce draft.fonts (readPath? value) }
  | .keys => return { draft with keys := ← setOnce draft.keys (readPath? value) }
  | .ramPolicy => return { draft with ramPolicy := ← setOnce draft.ramPolicy (readPolicy? value) }
  | .maxSteps => return { draft with maxSteps := ← setOnce draft.maxSteps (readCount? value) }

/-- Take an option without a value. -/
def Draft.setFlag
    (draft : Draft)
    (flag : Flag) :
    Except Stop Draft :=
  match flag with
  | .throttle =>
      if draft.throttle then .error .usage else .ok { draft with throttle := true }
  | .dumpScreen =>
      if draft.dumpScreen then .error .usage else .ok { draft with dumpScreen := true }
  | .verbose =>
      if draft.verbose then .error .usage else .ok { draft with verbose := true }
  | .version => .error .version
  | .help => .error .help

/-- Take a positional argument. -/
def Draft.setProgram
    (draft : Draft)
    (path : String) :
    Except Stop Draft := do
  return { draft with program := ← setOnce draft.program (readPath? path) }

/-- What is read next. -/
inductive Reading where
  /-- Any argument. -/
  | any
  /-- The value of an option. -/
  | value (option : Valued)
  /-- Positional arguments only. -/
  | positional
  deriving DecidableEq, Repr

/-- Whether an argument looks like an option. -/
def looksLikeOption (argument : String) : Bool :=
  argument.toList.head? = some '-' && argument ≠ "-"

/-- Read short options that stand together. -/
def Draft.readShort
    (draft : Draft) :
    List Char → Except Stop (Draft × Reading)
  | [] => .ok (draft, .any)
  | name :: rest =>
      match ofShortName? name with
      | none => .error .usage
      | some (.inr flag) =>
          match draft.setFlag flag with
          | .ok next => next.readShort rest
          | .error stop => .error stop
      | some (.inl option) =>
          match rest with
          | [] => .ok (draft, .value option)
          | '=' :: value =>
              (draft.setValue option (String.ofList value)).map fun next => (next, .any)
          | value =>
              (draft.setValue option (String.ofList value)).map fun next => (next, .any)

/-- Read a long option, given without its dashes. -/
def Draft.readLong
    (draft : Draft)
    (argument : List Char) :
    Except Stop (Draft × Reading) :=
  let name := String.ofList (argument.takeWhile (· ≠ '='))
  match ofLongName? name, argument.dropWhile (· ≠ '=') with
  | none, _ => .error .usage
  | some (.inr flag), [] => (draft.setFlag flag).map fun next => (next, .any)
  | some (.inr _), _ => .error .usage
  | some (.inl option), [] => .ok (draft, .value option)
  | some (.inl option), _ :: value =>
      (draft.setValue option (String.ofList value)).map fun next => (next, .any)

/-- Read one argument. -/
def Draft.readArgument
    (draft : Draft)
    (reading : Reading)
    (argument : String) :
    Except Stop (Draft × Reading) :=
  match reading with
  | .positional =>
      (draft.setProgram argument).map fun next => (next, .positional)
  | .value option =>
      if looksLikeOption argument then
        .error .usage
      else
        (draft.setValue option argument).map fun next => (next, .any)
  | .any =>
      match argument.toList with
      | ['-', '-'] => .ok (draft, .positional)
      | '-' :: '-' :: rest => draft.readLong rest
      | '-' :: name :: rest => draft.readShort (name :: rest)
      | _ => (draft.setProgram argument).map fun next => (next, .any)

/-- Read arguments one after the other. -/
def Draft.readAll
    (draft : Draft)
    (reading : Reading) :
    List String → Except Stop (Draft × Reading)
  | [] => .ok (draft, reading)
  | argument :: rest =>
      match draft.readArgument reading argument with
      | .ok (next, reading') => next.readAll reading' rest
      | .error stop => .error stop

/-- The settings of a draft. -/
def Draft.settings (draft : Draft) : Settings :=
  let standard : Settings := {}
  {
    root := draft.root.getD standard.root
    fontDir := draft.fonts
    throttled := draft.throttle
    ramPolicy := draft.ramPolicy.getD standard.ramPolicy
  }

/-- Read the arguments of the command line. -/
def parse (arguments : List String) : Except Stop Options :=
  match ({} : Draft).readAll .any arguments with
  | .error stop => .error stop
  | .ok (_, .value _) => .error .usage
  | .ok (draft, _) =>
      match draft.program with
      | none => .error .usage
      | some program =>
          .ok {
            program := program
            settings := draft.settings
            keys := draft.keys
            maxSteps := draft.maxSteps
            dumpScreen := draft.dumpScreen
            verbose := draft.verbose
          }

end Options

end Handheld
