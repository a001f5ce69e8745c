import PipeShell.Programs.Call
import PipeShell.Programs.NameRules
import PipeShell.Text.Magnitude
import PipeShell.Text.RegexSyntax

/-!
# What to search for

The options of `grep`: how its patterns are read, which lines count as a match, and what is shown.
-/

namespace PipeShell

namespace Programs

inductive PatternKind where
  | basic
  | extended
  | fixed
  | perl
  deriving DecidableEq, Repr

inductive GrepListing where
  | lines
  | count
  | matching
  | nonmatching
  deriving DecidableEq, Repr

inductive BinaryAction where
  | report
  | text
  | skip
  deriving DecidableEq, Repr

inductive DirectoryAction where
  | read
  | recurse
  | skip
  deriving DecidableEq, Repr

structure PatternSource where
  text : String
  origin : Option (String × Nat) := none
  deriving DecidableEq, Repr

structure GrepForm where
  kind : Option PatternKind := none
  patterns : List PatternSource := []
  patternsGiven : Bool := false
  fold : Bool := false
  invert : Bool := false
  wholeWords : Bool := false
  wholeLines : Bool := false
  count : Bool := false
  listing : Option Bool := none
  quiet : Bool := false
  limit : Option Nat := none
  onlyMatching : Bool := false
  silent : Bool := false
  offsets : Bool := false
  numbers : Bool := false
  names : Option Bool := none
  label : Option String := none
  aligned : Bool := false
  nameEnd : Option UInt8 := none
  lineEnd : UInt8 := 10
  before : Option Nat := none
  after : Option Nat := none
  around : Option Nat := none
  separator : Option String := some "--"
  binary : BinaryAction := .report
  directories : DirectoryAction := .read
  follow : Bool := false
  fileRules : List NameRule := []
  directoryRules : List NameRule := []
  devices : Option Bool := none
  colored : Bool := false
  deriving DecidableEq, Repr

inductive GrepFault where
  | plain (text : String)
  | usage (text : Option String) (status : Nat)
  deriving DecidableEq, Repr

namespace GrepForm

def withKind (form : GrepForm) (kind : PatternKind) : Except GrepFault GrepForm :=
  if form.kind.any (· ≠ kind) then .error (.plain "conflicting matchers specified")
  else .ok { form with kind := some kind }

def matcherNames : List (String × PatternKind) :=
  [("grep", .basic), ("egrep", .extended), ("fgrep", .fixed), ("awk", .extended),
    ("gawk", .extended), ("posixawk", .extended), ("perl", .perl)]

def readBareCount (text : String) : Option Int :=
  let trimmed := text.toList.dropWhile fun c => c = ' ' || ('\t' ≤ c && c ≤ '\r')
  readInteger? trimmed
where
  readInteger? : List Char → Option Int
    | '-' :: digits => (digitsOf? digits).map fun value => -(value : Int)
    | '+' :: digits => (digitsOf? digits).map fun value => (value : Int)
    | digits => (digitsOf? digits).map fun value => (value : Int)
  digitsOf? (digits : List Char) : Option Nat :=
    if digits.isEmpty || !digits.all Char.isDigit then none else some (digitsValue 10 digits)

def contextLength (text : String) : Except GrepFault (Option Nat) :=
  match readBareCount text with
  | some value =>
    if value < 0 then .error (.plain s!"{text}: invalid context length argument")
    else .ok (some value.toNat)
  | none => .error (.plain s!"{text}: invalid context length argument")

def withLimit (form : GrepForm) (text : String) : Except GrepFault GrepForm :=
  match readBareCount text with
  | some value => .ok { form with limit := if value < 0 then none else some value.toNat }
  | none => .error (.plain "invalid max count")

def withBinary (form : GrepForm) (text : String) : Except GrepFault GrepForm :=
  match text with
  | "binary" => .ok { form with binary := .report }
  | "text" => .ok { form with binary := .text }
  | "without-match" => .ok { form with binary := .skip }
  | _ => .error (.plain "unknown binary-files type")

def directoryWords : List (String × DirectoryAction) :=
  [("read", .read), ("recurse", .recurse), ("skip", .skip)]

def withDirectories (form : GrepForm) (text : String) : Except GrepFault GrepForm :=
  let fault (kind : String) : GrepFault :=
    .usage (some (s!"{kind} argument {quoted text} for '--directories'\nValid arguments are:" ++
      String.join (directoryWords.map fun word => s!"\n  - {quoted word.1}"))) 1
  match directoryWords.filter fun word => text.toList.isPrefixOf word.1.toList with
  | [word] => .ok { form with directories := word.2 }
  | [] => .error (fault "invalid")
  | _ => .error (fault "ambiguous")

def addPatterns (form : GrepForm) (text : String) : GrepForm :=
  { form with
    patterns := form.patterns ++ (splitAtEach '\n' text.toList).map ({ text := String.ofList · })
    patternsGiven := true }

def addPatternFile (form : GrepForm) (name : String) (content : Bytes) : GrepForm :=
  let lines := (linesOf 10 content).map byteText
  { form with
    patterns := form.patterns ++
      lines.zipIdx.map fun line => { text := line.1, origin := some (name, line.2 + 1) }
    patternsGiven := true }

def withoutLastSlashes (name : String) : String :=
  let kept := (name.toList.reverse.dropWhile (· = '/')).reverse
  if kept.isEmpty then String.ofList (name.toList.take 1) else String.ofList kept

def add (form : GrepForm) (option : String × String) : Except GrepFault GrepForm :=
  match option.1, option.2 with
  | "A", text => do return { form with after := ← contextLength text }
  | "B", text => do return { form with before := ← contextLength text }
  | "C", text => do return { form with around := ← contextLength text }
  | "D", text =>
    if text = "read" ∨ text = "skip" then .ok { form with devices := some (text = "read") }
    else .error (.plain "unknown devices method")
  | "E", _ => form.withKind .extended
  | "F", _ => form.withKind .fixed
  | "G", _ => form.withKind .basic
  | "P", _ => form.withKind .perl
  | "X", name =>
    match matcherNames.lookup name with
    | some kind => form.withKind kind
    | none => .error (.plain s!"invalid matcher {name}")
  | "H", _ => .ok { form with names := some true }
  | "h", _ => .ok { form with names := some false }
  | "I", _ => .ok { form with binary := .skip }
  | "L", _ => .ok { form with listing := some false }
  | "l", _ => .ok { form with listing := some true }
  | "T", _ => .ok { form with aligned := true }
  | "Z", _ => .ok { form with nameEnd := some 0 }
  | "a", _ => .ok { form with binary := .text }
  | "b", _ => .ok { form with offsets := true }
  | "c", _ => .ok { form with count := true }
  | "d", text => form.withDirectories text
  | "e", text => .ok (form.addPatterns text)
  | "i", _ | "y", _ => .ok { form with fold := true }
  | "no-ignore-case", _ => .ok { form with fold := false }
  | "m", text => form.withLimit text
  | "n", _ => .ok { form with numbers := true }
  | "o", _ => .ok { form with onlyMatching := true }
  | "q", _ => .ok { form with quiet := true }
  | "r", _ => .ok { form with directories := .recurse }
  | "R", _ => .ok { form with directories := .recurse, follow := true }
  | "s", _ => .ok { form with silent := true }
  | "v", _ => .ok { form with invert := true }
  | "w", _ => .ok { form with wholeWords := true }
  | "x", _ => .ok { form with wholeLines := true }
  | "z", _ => .ok { form with lineEnd := 0 }
  | "binary-files", text => form.withBinary text
  | "include", text => .ok { form with fileRules := addRule form.fileRules true text }
  | "exclude", text => .ok { form with fileRules := addRule form.fileRules false text }
  | "exclude-dir", text =>
    .ok { form with directoryRules := addRule form.directoryRules false (withoutLastSlashes text) }
  | "color", when_ | "colour", when_ =>
    .ok { form with colored := ["always", "yes", "force"].contains when_ }
  | "group-separator", text => .ok { form with separator := some text }
  | "no-group-separator", _ => .ok { form with separator := none }
  | "label", text => .ok { form with label := some text }
  | _, _ => .ok form

def addDigit (form : GrepForm) (follows : Bool) (digit : String) : GrepForm :=
  let value := digitsValue 10 digit.toList
  let before := if follows then form.around.getD 0 else 0
  { form with around := some (before * 10 + value) }

def linesBefore (form : GrepForm) : Option Nat := form.before.or form.around
def linesAfter (form : GrepForm) : Option Nat := form.after.or form.around

def painted (form : GrepForm) (colour text : String) : String :=
  if form.colored then s!"\x1b[{colour}m\x1b[K{text}\x1b[m\x1b[K" else text

def matchColour : String := "01;31"
def nameColour : String := "35"
def numberColour : String := "32"
def markColour : String := "36"

def distinctPatterns (form : GrepForm) : List PatternSource :=
  form.patterns.eraseDupsBy fun left right => left.text == right.text

def selectsNothing (form : GrepForm) : Bool :=
  form.limit = some 0 ||
    if form.patterns.isEmpty then !form.invert
    else form.invert && !form.wholeLines && !form.wholeWords && form.patterns.all (·.text == "")

def endsAtFirst (form : GrepForm) : Bool := form.quiet || form.listing.isSome

def show_ (form : GrepForm) : GrepListing :=
  if form.quiet then .lines
  else
    match form.listing with
    | some true => .matching
    | some false => .nonmatching
    | none => if form.count then .count else .lines

end GrepForm

def grepForms : List OptionForm :=
  [valued 'A' "after-context", valued 'B' "before-context", valued 'C' "context",
    valued 'D' "devices", flag 'E' "extended-regexp", flag 'F' "fixed-strings",
    flag 'F' "fixed-regexp", flag 'G' "basic-regexp", flag 'P' "perl-regexp", valued 'X' "",
    flag 'H' "with-filename", flag 'h' "no-filename", flag 'I' "", flag 'L' "files-without-match",
    flag 'l' "files-with-matches", flag 'T' "initial-tab", flag 'U' "binary", flag 'Z' "null",
    flag 'a' "text", flag 'b' "byte-offset", flag 'c' "count", valued 'd' "directories",
    valued 'e' "regexp", valued 'f' "file", flag 'i' "ignore-case", flag 'y' "",
    longFlag "no-ignore-case", valued 'm' "max-count", flag 'n' "line-number",
    flag 'o' "only-matching", flag 'q' "quiet", flag 'q' "silent", flag 'r' "recursive",
    flag 'R' "dereference-recursive", flag 's' "no-messages", flag 'u' "unix-byte-offsets",
    flag 'v' "invert-match", flag 'w' "word-regexp", flag 'x' "line-regexp",
    flag 'z' "null-data", longValued "binary-files", longOptional "color",
    longOptional "colour", longValued "exclude", longValued "exclude-from",
    longValued "exclude-dir", longValued "group-separator", longFlag "no-group-separator",
    longValued "include", longValued "label", longFlag "line-buffered"] ++
    "0123456789".toList.map fun digit => flag digit ""

def isDigitOption (option : String × String) : Bool :=
  match option.1.toList with
  | [c] => c.isDigit
  | _ => false

/-! ## Patterns -/

/-- A way to find matches in a line: where those that begin at a place end. -/
structure LineMatcher where
  regexes : List Regex
  fold : Bool := false
  wholeWords : Bool := false
  wholeLines : Bool := false
  deriving DecidableEq, Repr

namespace LineMatcher

def subject (matcher : LineMatcher) (line : Array UInt8) : Subject :=
  { line, fold := matcher.fold }

def isWhole (subject : Subject) (start stop : Nat) : Bool :=
  !subject.isWordBefore start && !subject.isWordAt stop

def endAt? (matcher : LineMatcher) (subject : Subject) (start : Nat) : Option Nat :=
  let ends := matcher.regexes.flatMap fun regex => regex.ends subject start
  let longest (stops : List Nat) : Option Nat := stops.max?
  if matcher.wholeLines then
    if start = 0 ∧ ends.contains subject.line.size then some subject.line.size else none
  else if matcher.wholeWords then
    let whole := ends.filter (isWhole subject start)
    (longest whole).filter fun stop => start < stop || longest ends = some stop
  else longest ends

def findFrom? (matcher : LineMatcher) (subject : Subject) : Nat → Nat → Option (Nat × Nat)
  | 0, _ => none
  | places + 1, start =>
    match matcher.endAt? subject start with
    | some stop => some (start, stop)
    | none => findFrom? matcher subject places (start + 1)

def find? (matcher : LineMatcher) (subject : Subject) (start : Nat) : Option (Nat × Nat) :=
  matcher.findFrom? subject (subject.line.size + 1 - start) start

def isIn (matcher : LineMatcher) (line : Array UInt8) : Bool :=
  let subject := matcher.subject line
  if matcher.wholeLines then (matcher.endAt? subject 0).isSome
  else if matcher.wholeWords then (matcher.find? subject 0).isSome
  else matcher.regexes.any fun regex => regex.isIn subject

def allFrom (matcher : LineMatcher) (subject : Subject) : Nat → Nat → List (Nat × Nat)
  | 0, _ => []
  | fuel + 1, start =>
    match matcher.find? subject start with
    | none => []
    | some (first, stop) =>
      if first < stop then (first, stop) :: allFrom matcher subject fuel stop
      else if subject.line.size ≤ first then []
      else allFrom matcher subject fuel (first + 1)

def all (matcher : LineMatcher) (line : Array UInt8) : List (Nat × Nat) :=
  matcher.allFrom (matcher.subject line) (line.size + 1) 0

end LineMatcher

def fixedRegex (fold : Bool) (text : String) : Regex :=
  text.toList.foldl (fun regex c =>
    let set := if fold then (single c).folded else single c
    if regex = .empty then .bytes set else .seq regex (.bytes set)) .empty

def plainText? (extended last : Bool) : List Char → Option (List Char)
  -- In the last of several patterns a backslash at the end stands for itself.
  | [] => some []
  | ['\\'] => if last then some ['\\'] else none
  | '\\' :: c :: rest =>
    if "BSW'<bsw>\x60123456789".toList.contains c ||
        (!extended && "()+?\x7b|".toList.contains c) then none
    else (plainText? extended last rest).map (c :: ·)
  | c :: rest =>
    if "$*.[^".toList.contains c || (extended && "(+?\x7b|".toList.contains c) then none
    else (plainText? extended last rest).map (c :: ·)

def plainTexts? (kind : PatternKind) (patterns : List PatternSource) : Option (List String) :=
  if patterns.length < 2 || (kind ≠ .basic && kind ≠ .extended) then none
  else
    patterns.zipIdx.mapM fun (pattern, place) =>
      (plainText? (kind = .extended) (place + 1 = patterns.length) pattern.text.toList).map
        String.ofList

def lateFault (reads : List RegexRead) : List String × Option RegexFault :=
  let before := reads.takeWhile (·.late.isNone)
  let here := (reads.drop before.length).take 1
  ((before ++ here).flatMap (·.warnings), here.head?.bind (·.late))

/-- The expressions of the patterns and the complaints about them; without expressions there is
something wrong. -/
def readPatterns (kind : PatternKind) (fold : Bool) (patterns : List PatternSource) :
    Option (List Regex) × List String :=
  let style : RegexStyle :=
    { extended := kind ≠ .basic, fold, digitClass := kind = .perl }
  let fixed (text : String) : RegexRead :=
    { regex := fixedRegex fold text, warnings := [], late := none }
  let readOne (pattern : PatternSource) : Except String RegexRead :=
    if kind = .fixed then .ok (fixed pattern.text)
    else (readRegex style pattern.text).mapError fun fault =>
      match pattern.origin with
      | none => fault.message
      | some (file, line) => s!"{file}:{line}: {fault.message}"
  let results : List (Except String RegexRead) :=
    match plainTexts? kind patterns with
    | some texts => texts.map fun text => .ok (fixed text)
    | none => patterns.map readOne
  let faults := results.filterMap fun result =>
    match result with
    | .error fault => some fault
    | .ok _ => none
  let reads := results.filterMap (·.toOption)
  let (warnings, late) := lateFault reads
  let warned := warnings.map fun warning => s!"warning: {warning}"
  if !faults.isEmpty then (none, faults)
  else
    match late with
    | some fault => (none, warned ++ [fault.message])
    | none => (some (reads.map (·.regex)), warned)

end Programs

end PipeShell
