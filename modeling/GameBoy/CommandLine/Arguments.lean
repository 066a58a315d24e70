/-!
# Arguments

The command line takes the path of a cartridge, two options with a value and three flags, in any
order and each at most once. A value stands behind its option, as the next argument if that does
not look like an option itself, or behind an equals sign in the same argument; an option without a
value is not accepted. Behind a double hyphen every argument is a path.
-/

namespace GameBoy.CommandLine

/-- The options with a value. -/
inductive Setting where
  | boot | ticks
  deriving DecidableEq, Repr

/-- The options without one. -/
inductive Switch where
  | strict | quietSerial | trace
  deriving DecidableEq, Repr

/-- The option of a name. -/
def Setting.ofName? : String → Option Setting
  | "boot" => some .boot
  | "ticks" => some .ticks
  | _ => none

/-- The flag of a name. -/
def Switch.ofName? : String → Option Switch
  | "strict" => some .strict
  | "quiet-serial" => some .quietSerial
  | "trace" => some .trace
  | _ => none

/-- An argument that is not a path or a value, taken apart. -/
inductive Flag where
  | setting (s : Setting) (value : Option String)
  | switch (s : Switch)
  | help
  | version
  | unknown
  deriving DecidableEq, Repr

/-- Reads an argument with two leading hyphens or more, of which all are dropped. What follows an
equals sign is the value, without further equals signs in front; a switch ignores it. -/
def Flag.ofLong (arg : List Char) : Flag :=
  let body := arg.dropWhile (· == '-')
  let name := String.ofList (body.takeWhile (· != '='))
  let value := match body.dropWhile (· != '=') with
    | [] => none
    | rest => some (String.ofList (rest.dropWhile (· == '=')))
  match Setting.ofName? name, Switch.ofName? name with
  | some s, _ => .setting s value
  | none, some s => .switch s
  | none, none => if name = "help" then .help else if name = "version" then .version else .unknown

/-- Reads an argument with one leading hyphen by its first letter. -/
def Flag.ofShort (arg : List Char) : Flag :=
  match arg.dropWhile (· == '-') with
  | 'h' :: _ => .help
  | 'V' :: _ => .version
  | _ => .unknown

/-- What has been read of the arguments so far. -/
structure Reading where
  rom : Option String := none
  settings : List (Setting × Option String) := []
  switches : List Switch := []
  /-- The option whose value is to come. -/
  awaiting : Option Setting := none
  /-- Whether a double hyphen was read. -/
  pathsOnly : Bool := false
  deriving DecidableEq, Repr

/-- What a command line asks for. -/
inductive Request where
  | run (reading : Reading)
  | help
  | version
  deriving DecidableEq, Repr

namespace Reading

/-- Takes an argument as the path, which may be given once. -/
def path (r : Reading) (arg : String) : Option Reading :=
  if r.rom.isSome then none else some { r with rom := some arg }

/-- Whether an option is given more than once. -/
def repeats (r : Reading) : Bool :=
  !(r.settings.map (·.1)).Nodup || !r.switches.Nodup

/-- The value of an option, if it is given with one. -/
def value (r : Reading) (s : Setting) : Option String :=
  match r.settings.find? (·.1 == s) with
  | some (_, value) => value
  | none => none

/-- Whether a switch is given. -/
def has (r : Reading) (s : Switch) : Bool := r.switches.contains s

/-- Whether the arguments are complete: a path is there, nothing is given twice, and every option
has its value. -/
def isComplete (r : Reading) : Bool :=
  r.rom.isSome && !r.repeats && r.settings.all (·.2.isSome)

/-- Reads arguments one by one; there is no request if they are not accepted. -/
def extend (r : Reading) : List String → Option Request
  | [] => if r.isComplete then some (.run r) else none
  | arg :: rest =>
    if r.pathsOnly then
      match r.path arg with
      | some r => r.extend rest
      | none => none
    else match arg.toList with
      | ['-', '-'] => extend { r with pathsOnly := true } rest
      | '-' :: second :: more =>
        let chars := '-' :: second :: more
        match if second = '-' then Flag.ofLong chars else Flag.ofShort chars with
        | .setting s none =>
          extend { r with settings := (s, none) :: r.settings, awaiting := some s } rest
        | .setting s (some v) =>
          extend { r with settings := (s, some v) :: r.settings, awaiting := none } rest
        | .switch s => extend { r with switches := s :: r.switches, awaiting := none } rest
        | .help => some .help
        | .version => some .version
        | .unknown => none
      | _ =>
        match r.awaiting with
        | some s =>
          extend { r with settings := (s, some arg) :: r.settings.tail, awaiting := none } rest
        | none =>
          match r.path arg with
          | some r => r.extend rest
          | none => none

end Reading

/-- Reads a command line. -/
def parse (args : List String) : Option Request := Reading.extend {} args

end GameBoy.CommandLine
