/-
Module: CacheDirectory.CommandLine.Invocation
Purpose: What the arguments of the program ask for. Arguments are read from left to
  right, and the first that asks for help or makes no sense decides.
Trusted boundary: none
Main exports: Topic, ServeOptions, Invocation, Invocation.ofArguments
-/
import CacheDirectory.Network.Address

namespace CacheDirectory.CommandLine

/-- What help can be about. -/
inductive Topic where
  | program
  | serve
  | config
  | help
deriving DecidableEq, Repr, Inhabited

/-- How a server is to be started. -/
structure ServeOptions where
  /-- The file with the settings; none for the default settings. -/
  settings : Option String := none
  requests : Option SocketAddress := none
  admin : Option SocketAddress := none
deriving DecidableEq, Repr, Inhabited

/-- What the program is asked to do. -/
inductive Invocation where
  | serve (options : ServeOptions)
  /-- Show the settings in a file, or the default settings. -/
  | config (path : Option String)
  | help (topic : Topic)
  | version
  /-- The arguments make no sense. -/
  | misuse
deriving DecidableEq, Repr, Inhabited

/-! ### Single arguments -/

/-- The form of an argument. -/
inductive Argument where
  /-- Two hyphens and a name, with a value after an equals sign perhaps. -/
  | long (name : String) (attached : Option String)
  /-- A hyphen and letters. -/
  | short (first : Char) (rest : List Char)
  /-- Two hyphens: what follows is taken as it is. -/
  | escape
  | plain (text : String)
deriving DecidableEq, Repr, Inhabited

namespace Argument

/-- The form of an argument. A single hyphen is plain. -/
def of (text : String) : Argument :=
  match text.toList with
  | ['-', '-'] => .escape
  | '-' :: '-' :: body =>
    let name := String.ofList (body.takeWhile (· ≠ '='))
    match body.dropWhile (· ≠ '=') with
    | [] => .long name none
    | _ :: attached => .long name (some (String.ofList attached))
  | '-' :: first :: rest => .short first rest
  | _ => .plain text

/-- Whether an argument asks for help. -/
def asksForHelp : Argument → Bool
  | .long "help" none => true
  | .short 'h' _ => true
  | _ => false

end Argument

/-! ### Options of a server -/

/-- An option of a server that takes a value. -/
inductive ServeOption where
  | settings
  | requests
  | admin
deriving DecidableEq, Repr, Inhabited

/-- The option that an argument names, and the value that is attached to it. -/
def ServeOption.of? : Argument → Option (ServeOption × Option String)
  | .long "config" attached => some (.settings, attached)
  | .long "bind" attached => some (.requests, attached)
  | .long "admin" attached => some (.admin, attached)
  | .short 'c' [] => some (.settings, none)
  | .short 'c' ('=' :: attached) => some (.settings, some (String.ofList attached))
  | .short 'c' attached => some (.settings, some (String.ofList attached))
  | _ => none

/-- Set an option. Each can be set once, to a value of its kind. -/
def ServeOptions.set (option : ServeOption) (value : String) (options : ServeOptions) :
    Option ServeOptions :=
  match option with
  | .settings =>
    if options.settings.isSome || value.isEmpty then none
    else some { options with settings := some value }
  | .requests =>
    match options.requests, SocketAddress.parse? value with
    | none, some address => some { options with requests := some address }
    | _, _ => none
  | .admin =>
    match options.admin, SocketAddress.parse? value with
    | none, some address => some { options with admin := some address }
    | _, _ => none

namespace Invocation

/-- What the arguments after `serve` ask for. A value stands in the same argument as
its option or is the next argument, and is then plain. -/
def ofServeArguments (options : ServeOptions) : List String → Invocation
  | [] => .serve options
  | text :: rest =>
    let argument := Argument.of text
    if argument.asksForHelp then .help .serve
    else if argument = .escape && rest.isEmpty then .serve options
    else
      match ServeOption.of? argument, rest with
      | some (option, some value), rest =>
        match options.set option value with
        | some options => ofServeArguments options rest
        | none => .misuse
      | some (option, none), value :: rest =>
        match Argument.of value, options.set option value with
        | .plain _, some options => ofServeArguments options rest
        | _, _ => .misuse
      | _, _ => .misuse

/-- What the arguments after `config` ask for: one path at most. -/
def ofConfigArguments (path : Option String) : List String → Invocation
  | [] => .config path
  | text :: rest =>
    let argument := Argument.of text
    if argument.asksForHelp then .help .config
    else
      match argument, path, rest with
      | .plain _, none, rest => if text.isEmpty then .misuse else ofConfigArguments (some text) rest
      | .escape, path, [] => .config path
      | .escape, none, [plain] => if plain.isEmpty then .misuse else .config (some plain)
      | _, _, _ => .misuse

/-- What the arguments after `help` ask for. -/
def ofHelpArguments : List String → Invocation
  | [] => .help .program
  | ["serve"] => .help .serve
  | ["config"] => .help .config
  | ["help"] => .help .help
  | _ => .misuse

/-- What the arguments of the program ask for. -/
def ofArguments : List String → Invocation
  | [] => .misuse
  | "serve" :: rest => ofServeArguments {} rest
  | "config" :: rest => ofConfigArguments none rest
  | "help" :: rest => ofHelpArguments rest
  | text :: _ =>
    match Argument.of text with
    | .long "version" none => .version
    | .short 'V' _ => .version
    | argument => if argument.asksForHelp then .help .program else .misuse

/-- The file whose contents the program needs. -/
def file? : Invocation → Option String
  | .serve options => options.settings
  | .config path => path
  | _ => none

end Invocation

end CacheDirectory.CommandLine
