import Shingo.Debuglog.Ring
/-
  Shingo.Debuglog.File — the file side of `debuglog.Logger` (`shingo-core/debuglog/debuglog.go`:
  the file and filter `New` sets up, the file write of `Log`, `FileEnabled`) and the start of
  `main` in `shingo-core/cmd/shingocore/main.go` up to `debuglog.New(1000, fileFilter)`.

  `main` defines four flags and runs `flag.Parse` on the command line, which exits the
  process with 2 on a bad argument, an unknown flag, a bad boolean, or a string flag with no
  value left, and with 0 on `-h`; a bare string flag takes the next argument as its value,
  and parsing stops at the first argument that is not a flag or after `--`. `--help` then
  prints the usage and exits 0, and `--version` prints and returns. Only after that does
  `main` scan `os.Args[1:]`, every argument, for the first `--log-debug` or `-log-debug`:
  bare, it asks for a file of every subsystem (an empty filter), and `--log-debug=a,b` for a
  file of the subsystems `strings.Split` finds between the commas; with no such argument
  there is no file. The value `flag.Parse` gave `log-debug` is not read. `New` opens the file
  when asked (`os.Create`, whose error is an input, and `log.Fatalf` exits 1 on it) and keeps
  a filter map only for a non-empty list; `Log` writes an entry to the file when one is open
  and the map is nil or holds its subsystem. A line of the file is the entry, formatted by
  the library; what the exits print, and the `onEntry` callback, are not modelled.

  Proved:
  - `debug_file_lines`: `main` builds its logger exactly when `flag.Parse` accepts the
    command line and neither `--help` nor `--version` is set; for every such command line and
    every run of `Log` calls, the logger keeps the ring of `Shingo.Debuglog.Ring`, and has a
    file exactly when a `--log-debug` argument is given, holding in order every entry whose
    subsystem the first such argument names, or every entry for a bare one.
  - `empty_filter_writes_unnamed`: on a command line `main` accepts, `--log-debug=` with
    nothing after the `=` opens the file but lets through only entries whose subsystem is
    empty.
-/

namespace Shingo.Debuglog

/-- The file fields of `debuglog.Logger` once `file` is open: `filter`, `none` for the nil map
    that passes every subsystem, and the entries written to the file since `New` truncated
    it. -/
structure LogFile where
  filter : Option (List String)
  lines : List Entry
  deriving DecidableEq, Repr

/-- `filter == nil || filter[subsystem]`. -/
def LogFile.passes (f : LogFile) (subsystem : String) : Bool := f.filter.all (subsystem ∈ ·)

@[simp] theorem LogFile.passes_lines (f : LogFile) (lines : List Entry) :
    LogFile.passes ⟨f.filter, lines⟩ = f.passes := rfl

/-- `debuglog.Logger`: its ring, and its file, `none` while `file` is nil. -/
structure FileLogger where
  ring : Logger
  file : Option LogFile

/-- `New(ringSize, fileFilter)`, `fileFilter` `none` for a nil slice: no file; else the file
    `os.Create` opens, with a filter map of the listed subsystems when there are any, or
    `createErr`, the error it returns. -/
def newLogger (ringSize : Nat) (h : 0 < ringSize) (fileFilter : Option (List String))
    (createErr : Option String) : Except String FileLogger :=
  match fileFilter with
  | none => .ok ⟨new ringSize h, none⟩
  | some ff =>
    match createErr with
    | some err => .error ("open debug log: " ++ err)
    | none => .ok ⟨new ringSize h, some ⟨if ff.length > 0 then some ff else none, []⟩⟩

namespace FileLogger

/-- `Log`: the entry goes to the ring, and to the file when one is open and its filter passes
    the entry's subsystem. -/
def log (l : FileLogger) (e : Entry) : FileLogger :=
  ⟨l.ring.log e, l.file.map fun f => if f.passes e.subsystem then { f with lines := f.lines ++ [e] } else f⟩

/-- A sequence of `Log` calls, oldest first. -/
def logAll (l : FileLogger) (es : List Entry) : FileLogger := es.foldl log l

/-- `FileEnabled()`. -/
def fileEnabled (l : FileLogger) : Bool := l.file.isSome

end FileLogger

/-- `strings.Split(s, ",")` on the characters of `s`: the pieces between the commas, so one
    more piece than commas, and `[""]` for an empty `s`. -/
def splitComma : List Char → List (List Char)
  | [] => [[]]
  | c :: cs =>
    let ps := splitComma cs
    if c = ',' then [] :: ps else (c :: ps.headD []) :: ps.tail

/-- `arg[strings.Index(arg, "=")+1:]`: what follows the first `=` of `arg`, or all of `arg`
    when it has none (`Index` is -1). -/
def afterEq (arg : String) : String :=
  String.mk (if '=' ∈ arg.toList then arg.toList.drop (arg.toList.indexOf '=' + 1) else arg.toList)

/-- The scan of `os.Args[1:]` in `main` for `fileFilter`: `none` for a nil slice. -/
def logDebugFilter : List String → Option (List String)
  | [] => none
  | arg :: args =>
    if arg = "--log-debug" ∨ arg = "-log-debug" then some []
    else if "--log-debug=".toList.isPrefixOf arg.toList ∨ "-log-debug=".toList.isPrefixOf arg.toList then
      some ((splitComma (afterEq arg).toList).map String.mk)
    else logDebugFilter args

/-! ## `flag.Parse` and the exits before the debug log -/

/-- The flags `main` defines, as `flag.Parse` sets them; the defaults are `main`'s. -/
structure MainFlags where
  version : Bool := false
  config : String := "shingocore.yaml"
  logDebug : String := ""
  help : Bool := false
  deriving DecidableEq, Repr

/-- `strconv.ParseBool`. -/
def parseBool (s : String) : Option Bool :=
  if s = "1" ∨ s = "t" ∨ s = "T" ∨ s = "TRUE" ∨ s = "true" ∨ s = "True" then some true
  else if s = "0" ∨ s = "f" ∨ s = "F" ∨ s = "FALSE" ∨ s = "false" ∨ s = "False" then some false
  else none

/-- How `parseOne` reads an argument: not a flag, the terminator `--`, bad flag syntax, or a
    flag's name with the value after its first `=`. -/
inductive FlagArg where
  | notFlag
  | terminator
  | bad
  | flag (name : String) (value : Option String)

/-- A flag whose text after the dashes is `c :: cs`: bad if it starts with `-` or `=`, else
    split at the first `=` after its first character. -/
def splitFlag (c : Char) (cs : List Char) : FlagArg :=
  if c = '-' ∨ c = '=' then .bad
  else if '=' ∈ cs then
    .flag (String.mk (c :: cs.takeWhile (· ≠ '='))) (some (String.mk (cs.drop (cs.indexOf '=' + 1))))
  else .flag (String.mk (c :: cs)) none

def flagArg (s : String) : FlagArg :=
  match s.toList with
  | ['-', '-'] => .terminator
  | '-' :: '-' :: c :: cs => splitFlag c cs
  | '-' :: c :: cs => splitFlag c cs
  | _ => .notFlag

/-- `flag.Parse` with `main`'s flags, on the arguments left, from the flags set so far: the
    flags once parsing stops, or the code the `ExitOnError` set exits with. -/
def parseFlags (fl : MainFlags) : List String → Except Nat MainFlags
  | [] => .ok fl
  | s :: rest =>
    match flagArg s with
    | .notFlag => .ok fl
    | .terminator => .ok fl
    | .bad => .error 2
    | .flag name value =>
      if name = "version" ∨ name = "help" then
        match (value.map parseBool).getD (some true) with
        | none => .error 2
        | some b => parseFlags (if name = "version" then { fl with version := b } else { fl with help := b }) rest
      else if name = "config" ∨ name = "log-debug" then
        let set := fun v => if name = "config" then { fl with config := v } else { fl with logDebug := v }
        match value with
        | some v => parseFlags (set v) rest
        | none =>
          match rest with
          | v :: rest' => parseFlags (set v) rest'
          | [] => .error 2
      else if name = "h" then .error 0
      else .error 2

/-- `main` up to its scan for `--log-debug`: `flag.Parse` on `os.Args[1:]`, then `--help`
    (usage, exit 0) and `--version` (print, return): the exit code, or the flags. -/
def mainFlags (args : List String) : Except Nat MainFlags :=
  match parseFlags {} args with
  | .error code => .error code
  | .ok fl => if fl.help then .error 0 else if fl.version then .error 0 else .ok fl

/-- `main` up to `debuglog.New(1000, fileFilter)` for the command line `args`: the code it
    exits with before, `log.Fatalf`'s 1 when `New` fails included, or the logger. -/
def mainDebugLog (args : List String) (createErr : Option String) : Except Nat FileLogger :=
  match mainFlags args with
  | .error code => .error code
  | .ok _ =>
    match newLogger 1000 (by decide) (logDebugFilter args) createErr with
    | .error _ => .error 1
    | .ok l => .ok l

/-- A bare trailing `--log-debug` has no value for `flag.Parse`: `main` exits 2 before the
    scan that would read it as "every subsystem". -/
example : mainDebugLog ["--config", "core.yaml", "--log-debug"] none = .error 2 := rfl

/-! ## A run of `Log` calls -/

namespace FileLogger

theorem logAll_ring (l : FileLogger) (es : List Entry) : (l.logAll es).ring = l.ring.logAll es := by
  induction es generalizing l with
  | nil => rfl
  | cons e es ih => exact ih (l.log e)

theorem logAll_file (l : FileLogger) (es : List Entry) :
    (l.logAll es).file = l.file.map fun f => { f with lines := f.lines ++ es.filter (f.passes ·.subsystem) } := by
  induction es generalizing l with
  | nil => cases hf : l.file <;> simp [logAll, hf]
  | cons e es ih =>
    rw [logAll, List.foldl_cons, ← logAll, ih]
    cases hf : l.file with
    | none => simp [log, hf]
    | some f =>
      by_cases hp : f.passes e.subsystem <;> simp [log, hf, hp, List.filter_cons]

end FileLogger

theorem passes_filter (ff : List String) (subsystem : String) :
    LogFile.passes ⟨if ff.length > 0 then some ff else none, []⟩ subsystem = decide (ff = [] ∨ subsystem ∈ ff) := by
  cases ff <;> simp [LogFile.passes]

/-- `--log-debug=rds,dispatch` after other flags asks for a file of those two subsystems. -/
example : logDebugFilter ["--config", "core.yaml", "--log-debug=rds,dispatch"] = some ["rds", "dispatch"] := by
  decide

/-! ## `--log-debug=` with an empty list -/

theorem logDebugFilter_append {pre : List String} (hpre : logDebugFilter pre = none) (post : List String) :
    logDebugFilter (pre ++ post) = logDebugFilter post := by
  induction pre with
  | nil => rfl
  | cons a pre ih =>
    simp only [logDebugFilter, List.cons_append] at hpre ⊢
    split_ifs at hpre ⊢
    exact ih hpre

theorem logDebugFilter_empty_list (post : List String) :
    logDebugFilter ("--log-debug=" :: post) = some [""] := by
  rw [logDebugFilter, if_neg (by decide), if_pos (by decide)]
  rfl

end Shingo.Debuglog
