import Concordance.Wire.Settings

/-!
# Settings from command-line arguments

Settings are put together from the standard ones, a file, and single flags. The
arguments are taken from left to right. A flag takes the argument after it as its
value, whatever that looks like. A file replaces all settings before it; any other
flag replaces one setting, or adds a peer. An argument that is no flag is passed
over.

* `Settings.Flag.apply`: what a flag does to the settings.
* `Settings.ofArguments`: the settings that arguments give, or what is wrong with them.
-/

namespace Concordance

/-- Why a file cannot be read as text. -/
inductive ReadFault
  | notFound
  | isDirectory
  | notDirectory
  | nameTooLong
  | badName
  | notText
  | other (description : String)
  deriving DecidableEq

/-- The wording of a fault. -/
def ReadFault.message : ReadFault → String
  | .notFound => "no such file or directory"
  | .isDirectory => "is a directory"
  | .notDirectory => "not a directory"
  | .nameTooLong => "file name too long"
  | .badName => "file name contained an unexpected NUL byte"
  | .notText => "stream did not contain valid UTF-8"
  | .other description => description

namespace Settings

/-- The flags that take a value. -/
inductive Flag
  | config
  | bind
  | analyticsPort
  | language
  | partitions
  | replication
  | nodeId
  | peer
  deriving DecidableEq

/-- The flag that an argument is. -/
def Flag.ofArgument? : String → Option Flag
  | "--config" => some .config
  | "--bind" => some .bind
  | "--analytics-port" => some .analyticsPort
  | "--language" => some .language
  | "--partitions" => some .partitions
  | "--replication" => some .replication
  | "--node-id" => some .nodeId
  | "--peer" => some .peer
  | _ => none

/-- Why a value does not fit its flag. -/
inductive ValueFault
  | address
  | integer (fault : Decimal.Fault)
  | language (reason : String)
  | peer (fault : Peer.Fault)
  deriving DecidableEq

/-- The wording of a fault. -/
def ValueFault.message : ValueFault → String
  | .address => "invalid socket address syntax"
  | .integer fault => fault.message
  | .language reason => reason
  | .peer fault => fault.message

/-- Why arguments give no settings. -/
inductive Fault
  | missingValue (flag : String)
  | invalidValue (field value : String) (fault : ValueFault)
  | unreadable (path : String) (fault : ReadFault)
  | malformed (path : String)
  deriving DecidableEq

/-- The wording of a fault. -/
def Fault.message : Fault → String
  | .missingValue flag => s!"missing value for flag '{flag}'"
  | .invalidValue field value fault => s!"invalid value '{value}' for '{field}': {fault.message}"
  | .unreadable path fault => s!"failed to read config file '{path}': {fault.message}"
  | .malformed path => s!"failed to parse config file '{path}'"

/-- What stands in the file at a path, or why it cannot be read. -/
abbrev Files := String → Except ReadFault ByteArray

/-- The settings in a file. -/
def ofFile (files : Files) (path : String) : Except Fault Settings := do
  match files path with
  | .error fault => .error (.unreadable path fault)
  | .ok bytes =>
    match String.fromUTF8? bytes with
    | none => .error (.unreadable path .notText)
    | some text =>
      match decode? Settings text with
      | none => .error (.malformed path)
      | some settings => .ok settings

/-- The value of a flag, where a fault is one of the setting called `field`. -/
def parsed {ε α : Type} (field value : String) (fault : ε → ValueFault) :
    Except ε α → Except Fault α :=
  Except.mapError fun e => .invalidValue field value (fault e)

/-- An integer as the value of a flag. -/
def integer {α : Type} (field value : String) (read : List Char → Except Decimal.Fault α) :
    Except Fault α :=
  parsed field value .integer (read value.toList)

/-- The settings after a flag with its value. -/
def Flag.apply (files : Files) (flag : Flag) (value : String) (s : Settings) :
    Except Fault Settings :=
  match flag with
  | .config => ofFile files value
  | .bind =>
    match Net.SocketAddress.read? value with
    | some address => .ok { s with bind := address }
    | none => .error (.invalidValue "bind" value .address)
  | .analyticsPort => do
    return { s with analyticsPort := ← integer "analytics_port" value Decimal.readUInt16 }
  | .language => do
    return { s with defaultLanguage := ← parsed "language" value .language (Language.read value) }
  | .partitions => do
    return { s with numPartitions := ← integer "num_partitions" value Decimal.readUInt32 }
  | .replication => do
    return { s with replicationFactor := ← integer "replication_factor" value Decimal.readUInt64 }
  | .nodeId => .ok { s with nodeId := some value }
  | .peer => do
    return { s with peers := s.peers ++ [← parsed "peer" value .peer (Peer.read value)] }

/-- The settings after the arguments. -/
def applyArguments (files : Files) (s : Settings) : List String → Except Fault Settings
  | [] => .ok s
  | [argument] =>
    match Flag.ofArgument? argument with
    | none => .ok s
    | some _ => .error (.missingValue argument)
  | argument :: value :: rest =>
    match Flag.ofArgument? argument with
    | none => applyArguments files s (value :: rest)
    | some flag => (flag.apply files value s).bind fun s => applyArguments files s rest

/-- The paths of the files that arguments name, in order. -/
def configPaths : List String → List String
  | [] | [_] => []
  | argument :: value :: rest =>
    match Flag.ofArgument? argument with
    | none => configPaths (value :: rest)
    | some .config => value :: configPaths rest
    | some _ => configPaths rest

/-- The settings that the arguments of a command give. -/
def ofArguments (files : Files) (arguments : List String) : Except Fault Settings :=
  applyArguments files standard arguments

end Settings

end Concordance
