import ContactGrid.Bench.Count
import ContactGrid.Cell

namespace ContactGrid.Bench

/-- What the command line asks for. -/
structure Options where
  sizes : List Nat := []
  seed : Nat := 12345
  contacts : Float32 := 4
  radiusSpread : Float32 := 4
  clustered : Bool := false
  cellSize : Option Float32 := none
  morton : Bool := false
  validate : Bool := false
  rounds : Nat := 1

/-- Options by what they set. -/
inductive Key where
  | seed
  | contacts
  | radiusSpread
  | clustered
  | cellSize
  | morton
  | validate
  | rounds
  | help
  deriving DecidableEq

namespace Key

def takesValue : Key → Bool
  | .clustered => false
  | .morton => false
  | .validate => false
  | .help => false
  | _ => true

def ofLong : String → Option Key
  | "seed" => some .seed
  | "contacts" => some .contacts
  | "radius-spread" => some .radiusSpread
  | "clustered" => some .clustered
  | "cell-size" => some .cellSize
  | "morton" => some .morton
  | "validate" => some .validate
  | "repeat" => some .rounds
  | "help" => some .help
  | _ => none

def ofShort : Char → Option Key
  | 's' => some .seed
  | 'n' => some .rounds
  | 'h' => some .help
  | _ => none

end Key

/-- Why a command line is not followed: it asks for help, or it makes no
sense. -/
inductive Stop where
  | help
  | usage (problem : String)
  deriving DecidableEq

/-- An unsigned word of 64 bits in decimal digits, with an optional plus
sign. -/
def readWord (text : String) : Option Nat :=
  let digits :=
    match text.toList with
    | '+' :: rest => rest
    | all => all
  if digits.isEmpty ∨ digits.any (!·.isDigit) then none
  else
    let n := Numeral.digitsValue digits
    if n < limit64 then some n else none

def readReal (text : String) : Option Float32 :=
  (Numeral.read text.toList).toOption.map Numeral.toFloat32

namespace Options

/-- Puts the value of an option in its place. -/
def assign? (o : Options) (key : Key) (value : String) : Option Options :=
  match key with
  | .seed => (readWord value).map fun seed => { o with seed }
  | .contacts => (readReal value).map fun contacts => { o with contacts }
  | .radiusSpread => (readReal value).map fun radiusSpread => { o with radiusSpread }
  | .cellSize => (readReal value).map fun cellSize => { o with cellSize := some cellSize }
  | .rounds => (readWord value).map fun rounds => { o with rounds }
  | .clustered => some { o with clustered := true }
  | .morton => some { o with morton := true }
  | .validate => some { o with validate := true }
  | .help => none

end Options

/-- Options read so far, and the keys that have been seen. -/
structure Reading where
  options : Options := {}
  seen : List Key := []

namespace Reading

def addSize (r : Reading) (text : String) : Except Stop Reading :=
  match readCount text with
  | .ok n => .ok { r with options := { r.options with sizes := r.options.sizes ++ [n] } }
  | .error e => .error (.usage e.message)

/-- An option is given once at most. -/
def set (r : Reading) (key : Key) (value : String) : Except Stop Reading :=
  if key = .help then .error .help
  else if key ∈ r.seen then .error (.usage "an option is repeated")
  else
    match r.options.assign? key value with
    | some options => .ok ⟨options, key :: r.seen⟩
    | none => .error (.usage s!"invalid value '{value}'")

end Reading

/-- Cuts a long option at its equals sign. -/
def cutEquals (text : List Char) : String × Option String :=
  let name := String.ofList (text.takeWhile (· ≠ '='))
  match text.dropWhile (· ≠ '=') with
  | _ :: value => (name, some (String.ofList value))
  | [] => (name, none)

/-- What an argument is by its looks. A lone dash is a value. -/
inductive Shape where
  | escape
  | long (name : String) (value : Option String)
  | short (letters : List Char)
  | value

def Shape.of (text : String) : Shape :=
  match text.toList with
  | ['-', '-'] => .escape
  | '-' :: '-' :: rest => .long (cutEquals rest).1 (cutEquals rest).2
  | '-' :: c :: rest => .short (c :: rest)
  | _ => .value

/-- What one argument leads to: it is done with, or it has an option wait
for its value. -/
inductive Step where
  | done (r : Reading)
  | awaits (r : Reading) (key : Key)

def longStep (r : Reading) (name : String) (value : Option String) : Except Stop Step :=
  match Key.ofLong name, value with
  | none, _ => .error (.usage s!"unexpected argument '--{name}'")
  | some key, none => if key.takesValue then .ok (.awaits r key) else (r.set key "").map .done
  | some key, some value =>
    if key.takesValue then (r.set key value).map .done
    else .error (.usage s!"option '--{name}' takes no value")

/-- Letters of one argument. A letter that takes a value takes the rest of
the argument, less an equals sign, or the next argument if nothing is
left. -/
def shortStep (r : Reading) : List Char → Except Stop Step
  | [] => .ok (.done r)
  | c :: rest =>
    match Key.ofShort c with
    | none => .error (.usage s!"unexpected argument '-{c}'")
    | some key =>
      if !key.takesValue then (r.set key "").bind fun r => shortStep r rest
      else
        match rest with
        | [] => .ok (.awaits r key)
        | '=' :: value => (r.set key (String.ofList value)).map .done
        | value => (r.set key (String.ofList value)).map .done

/-- Reads arguments in order, until one stops the reading. -/
def readArguments (r : Reading) : List String → Except Stop Reading
  | [] => .ok r
  | text :: rest =>
    match Shape.of text with
    | .value => (r.addSize text).bind fun r => readArguments r rest
    | .escape => rest.foldlM Reading.addSize r
    | .long name value => (longStep r name value).bind fun
      | .done r => readArguments r rest
      | .awaits r key => awaited r key rest
    | .short letters => (shortStep r letters).bind fun
      | .done r => readArguments r rest
      | .awaits r key => awaited r key rest
where
  /-- The next argument is the value of an option, unless it looks like an
  option itself. -/
  awaited (r : Reading) (key : Key) : List String → Except Stop Reading
    | [] => .error (.usage "an option lacks its value")
    | text :: rest =>
      match Shape.of text with
      | .value => (r.set key text).bind fun r => readArguments r rest
      | _ => .error (.usage "an option lacks its value")

def Options.read (arguments : List String) : Except Stop Options :=
  (readArguments {} arguments).map (·.options)

/-- Options as they are written, each with what it is for. -/
def optionHelp : List (String × String) :=
  [("-s, --seed <SEED>", "Random seed [default: 12345]"),
    ("    --contacts <CONTACTS>",
      "Mean number of overlaps per sphere to aim for (controls density) [default: 4]"),
    ("    --radius-spread <RADIUS_SPREAD>", "Ratio between the largest and smallest radius [default: 4]"),
    ("    --clustered", "Pack spheres into a few dense clusters instead of a uniform box"),
    ("    --cell-size <CELL_SIZE>", "Explicit cell size (default: derived from the largest radius)"),
    ("    --morton", "Bucket cells by Morton code instead of the shift hash"),
    ("    --validate", "Compare against the O(N²) reference"),
    ("-n, --repeat <REPEAT>", "Number of iterations to run (useful for profiling) [default: 1]"),
    ("-h, --help", "Print help")]

/-- What is shown to those who ask for help. The purposes of the options
stand below each other, two columns behind the longest option. -/
def helpText : String :=
  let width := (optionHelp.map (·.1.length)).foldl max 0 + 2
  "Benchmark sphere-broadphase at various scales\n\n" ++
    "Usage: bench_broadphase [OPTIONS] [SIZES]...\n\n" ++
    "Arguments:\n" ++
    "  [SIZES]...  Sphere counts to benchmark (e.g., 100k, 1m)\n\n" ++
    "Options:\n" ++
    String.join (optionHelp.map fun (option, purpose) => "  " ++ alignLeft width option ++ purpose ++ "\n")

end ContactGrid.Bench
