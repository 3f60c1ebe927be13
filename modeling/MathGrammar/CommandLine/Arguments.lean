import MathGrammar.Text.Digit
import MathGrammar.Text.Quoted

/-! # Arguments

The arguments of the command line. Options may be written anywhere, long ones may be shortened
while they stay unambiguous, and after the separator every argument is a file name. -/

namespace MathGrammar

/-- The options of the command line. -/
inductive Switch where
  /-- Show the help. -/
  | help
  /-- Choose the marker. -/
  | marker
  /-- Stop at the first failure. -/
  | failFast
  /-- Log what is read. -/
  | verbose
deriving DecidableEq, Repr

namespace Switch

/-- The ways to write each option, in order. -/
def spellings : List (Text × Switch) :=
  [("-h".toList, .help), ("--help".toList, .help), ("--marker".toList, .marker),
    ("--fail-fast".toList, .failFast), ("--verbose".toList, .verbose)]

/-- The option that is written like this. -/
def ofSpelling? (spelling : Text) : Option Switch := spellings.lookup spelling

/-- The option as messages name it. -/
def name : Switch → String
  | .help => "-h/--help"
  | .marker => "--marker"
  | .failFast => "--fail-fast"
  | .verbose => "--verbose"

end Switch

/-- What is wrong with the arguments. -/
inductive UsageError where
  /-- The argument could be short for several options. -/
  | ambiguous (arg : Text) (candidates : List Text)
  /-- The option lacks its value. -/
  | valueMissing (switch : Switch)
  /-- The option takes no value. -/
  | valueIgnored (switch : Switch) (value : Text)
  /-- No file is named. -/
  | fileMissing
  /-- Some arguments mean nothing. -/
  | unrecognized (args : List Text)
deriving DecidableEq, Repr

/-- The error in words. -/
def UsageError.message : UsageError → String
  | .ambiguous arg candidates =>
    "ambiguous option: " ++ String.ofList arg ++ " could match "
      ++ String.ofList (List.intercalate [',', ' '] candidates)
  | .valueMissing switch => "argument " ++ switch.name ++ ": expected one argument"
  | .valueIgnored switch value =>
    "argument " ++ switch.name ++ ": ignored explicit argument "
      ++ String.ofList value.quoted
  | .fileMissing => "the following arguments are required: file"
  | .unrecognized args =>
    "unrecognized arguments: " ++ String.ofList (List.intercalate [' '] args)

/-! ### Tokens -/

/-- What an argument looks like on its own. -/
inductive ArgumentToken where
  /-- An option, perhaps with a value attached. -/
  | switch (switch : Switch) (attached : Option Text)
  /-- A short option with characters attached, which may be short options too. -/
  | cluster (switch : Switch) (attached : Text)
  /-- What looks like an option, but is none. -/
  | unknown (arg : Text)
  /-- Any other argument. -/
  | word (arg : Text)
  /-- The separator. -/
  | separator
deriving DecidableEq, Repr

namespace ArgumentToken

/-- The argument before its first equal sign, and what follows the sign. -/
def splitValue (arg : Text) : Text × Option Text :=
  match arg.dropWhile (· != '=') with
  | _ :: value => (arg.takeWhile (· != '='), some value)
  | [] => (arg, none)

/-- Whether the argument is a negative number. A line feed at its end does not matter. -/
def isNegativeNumber (arg : Text) : Bool :=
  let arg := if arg.getLast? = some '\n' then arg.dropLast else arg
  match arg with
  | '-' :: digits =>
    let fraction := digits.dropWhile isDecimalDigit
    match fraction with
    | [] => !digits.isEmpty
    | '.' :: decimals => !decimals.isEmpty && decimals.all isDecimalDigit
    | _ => false
  | _ => false

/-- The options that a long argument may be short for. -/
def completions (stem : Text) : List (Text × Switch) :=
  Switch.spellings.filter fun (spelling, _) => stem.isPrefixOf spelling

/-- The option that is written like this, with a value behind an equal sign. The value of the short
option counts as characters attached to it. -/
def withValue (spelling : Text) (option : Switch) (value : Text) : ArgumentToken :=
  if spelling.length = 2 then .cluster option value else .switch option (some value)

/-- The ways to read a hyphen and more as a shortened option or as short options in one. -/
def readings (arg : Text) : List (Text × ArgumentToken) :=
  match arg with
  | '-' :: '-' :: _ =>
    let (stem, value) := splitValue arg
    (completions stem).map fun (spelling, option) => (spelling, .switch option value)
  | '-' :: c :: attached =>
    match Switch.ofSpelling? ['-', c] with
    | some option => [(['-', c], .cluster option attached)]
    | none => []
  | _ => []

/-- The argument by what it may be short for. What looks like an option but is none counts as a
word only if it is a lone hyphen, a negative number, or has a space in it. -/
def ofReadings (arg : Text) : Except UsageError ArgumentToken :=
  match readings arg with
  | [(_, token)] => .ok token
  | [] =>
    if arg.length = 1 || isNegativeNumber arg || arg.contains ' ' then .ok (.word arg)
    else .ok (.unknown arg)
  | several => .error (.ambiguous arg (several.map Prod.fst))

/-- The argument that starts with a hyphen but is not just the name of an option. -/
def ofDashed (arg : Text) : Except UsageError ArgumentToken :=
  match splitValue arg with
  | (stem, some value) =>
    match Switch.ofSpelling? stem with
    | some option => .ok (withValue stem option value)
    | none => ofReadings arg
  | (_, none) => ofReadings arg

/-- The argument as it looks on its own. -/
def ofArgument (arg : Text) : Except UsageError ArgumentToken :=
  match arg with
  | '-' :: _ =>
    match Switch.ofSpelling? arg with
    | some option => .ok (.switch option none)
    | none => ofDashed arg
  | _ => .ok (.word arg)

/-- Every argument as it looks. After the separator all are words. -/
def ofArguments : List Text → Except UsageError (List ArgumentToken)
  | [] => .ok []
  | arg :: args =>
    if arg = ['-', '-'] then
      .ok (.separator :: args.map .word)
    else
      (ofArgument arg).bind fun token => (ofArguments args).map (token :: ·)

end ArgumentToken

/-! ### Requests -/

/-- What a run is to do. -/
structure Options where
  /-- The document to scan. -/
  file : Text
  /-- What starts a marker line, unless nothing is left of the chosen value. -/
  marker : Option Text
  /-- Stop at the first failure. -/
  failFast : Bool
  /-- Log what is read. -/
  verbose : Bool
deriving DecidableEq, Repr

/-- What the arguments ask for. -/
inductive Request where
  /-- The help. -/
  | help
  /-- A run. -/
  | scan (options : Options)
deriving DecidableEq, Repr

/-- What is known after some of the arguments. -/
structure PartialOptions where
  /-- The file, once it is named. -/
  file : Option Text
  /-- The marker as chosen so far. -/
  marker : Option Text
  /-- Whether to stop at the first failure. -/
  failFast : Bool
  /-- Whether to log. -/
  verbose : Bool
  /-- The arguments that mean nothing. -/
  extras : List Text
deriving DecidableEq, Repr

namespace PartialOptions

/-- The arguments have one more that means nothing. -/
def addExtra (state : PartialOptions) (arg : Text) : PartialOptions :=
  { state with extras := state.extras ++ [arg] }

/-- The request of complete arguments: a file must be named, and nothing be left over. -/
def finish (state : PartialOptions) : Except UsageError Request :=
  match state.file with
  | none => .error .fileMissing
  | some file =>
    if state.extras.isEmpty then
      .ok (.scan ⟨file, state.marker, state.failFast, state.verbose⟩)
    else
      .error (.unrecognized state.extras)

/-- The value among the characters attached to the short option, which takes none: what follows
where its letter is no longer repeated. -/
def attachedValue? (attached : Text) : Option Text :=
  let value := attached.dropWhile (· == 'h')
  if value.isEmpty && !attached.isEmpty then none else some value

/-- The marker that a value attached to its option chooses. A separator is dropped from values, so
that nothing is left of one that is just a separator. -/
def attachedMarker (value : Text) : Option Text :=
  if value = ['-', '-'] then none else some value

/-- Take the arguments in order. The first word names the file, together with a separator on
either side of it; a word after a bare marker option is its value. The help is asked for as soon
as its option is reached, which is the only short one. -/
def consume (state : PartialOptions) : List ArgumentToken → Except UsageError Request
  | [] => state.finish
  | .unknown arg :: rest => (state.addExtra arg).consume rest
  | .separator :: .word arg :: rest =>
    match state.file with
    | none => { state with file := some arg }.consume rest
    | some _ => ((state.addExtra ['-', '-']).addExtra arg).consume rest
  | .separator :: rest => (state.addExtra ['-', '-']).consume rest
  | .word arg :: .separator :: rest =>
    match state.file with
    | none => { state with file := some arg }.consume rest
    | some _ => ((state.addExtra arg).addExtra ['-', '-']).consume rest
  | .word arg :: rest =>
    match state.file with
    | none => { state with file := some arg }.consume rest
    | some _ => (state.addExtra arg).consume rest
  | .switch .marker (some value) :: rest =>
    { state with marker := attachedMarker value }.consume rest
  | .switch .marker none :: .word value :: rest =>
    { state with marker := some value }.consume rest
  | .switch .marker none :: _ => .error (.valueMissing .marker)
  | .switch option (some value) :: _ => .error (.valueIgnored option value)
  | .cluster option attached :: _ =>
    match attachedValue? attached with
    | some value => .error (.valueIgnored option value)
    | none => .ok .help
  | .switch .help none :: _ => .ok .help
  | .switch .failFast none :: rest => { state with failFast := true }.consume rest
  | .switch .verbose none :: rest => { state with verbose := true }.consume rest

end PartialOptions

/-- What the arguments ask for, when `marker` starts a marker line unless they choose another. -/
def Request.ofArguments (marker : Text) (args : List Text) : Except UsageError Request :=
  (ArgumentToken.ofArguments args).bind
    (PartialOptions.mk none (some marker) false false []).consume

end MathGrammar
