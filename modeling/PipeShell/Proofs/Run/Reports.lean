import PipeShell.Execution
import PipeShell.Proofs.Run.Pipes
import PipeShell.Proofs.System.Writing

/-!
# Reports

What the shell says on standard error, with the reason for it. Main statement: of all messages that
a reason can lead to, only those about a failed read can end in the number of the failure.
-/

namespace PipeShell

/-- The text ends as the library ends the text of a failure with a number. -/
def EndsInNumber (text : String) : Prop :=
  ∃ code : Int, s!" (os error {code})".toList <:+ text.toList

/-- What a message of the shell is about: a failed read, something the system refused to do, or
something that the shell itself does not accept. -/
inductive Report where
  | read (error : ShellError)
  | target (path : String) (failure : IoFailure)
  | directory (path : String) (failure : IoFailure)
  | workingDirectory (failure : IoFailure)
  | write (builtin : String) (failure : IoFailure)
  | fork (errno : Errno)
  | pipe (errno : Errno)
  | launch (program : String) (errno : Errno)
  | refused (error : ShellError)
  | misused (text : String)
  | unended (delimiter : String)

def ShellError.IsOwn : ShellError → Prop
  | .redirection _ reason => reason = "here-document has no target file"
  | .io failure => failure = .nulInData
  | .cannotExecute _ _ | .system _ _ | .lineEditor _ => False
  | _ => True

def complaints : List String :=
  ["HOME not set", "OLDPWD not set", "too many arguments", "not a valid identifier",
    "numeric argument required", "not a shell builtin"]

namespace Report

def text : Report → String
  | .read error => error.message
  | .target path failure => (ShellError.ofFailure path failure).message
  | .directory path failure => labelled (labelled "cd" path) failure.description
  | .workingDirectory failure => labelled "pwd" failure.description
  | .write builtin failure => writeError builtin failure
  | .fork errno => s!"fork: {errno.description}"
  | .pipe errno => (noPipe errno).message
  | .launch program errno => (launchError program errno).message
  | .refused error => error.message
  | .misused text => text
  | .unended delimiter =>
    s!"warning: here-document delimited by end-of-file (wanted `{delimiter}')"

def readError? : Report → Option ShellError
  | .read error => some error
  | _ => none

def failure? : Report → Option IoFailure
  | .read (.io failure) | .target _ failure | .directory _ failure | .workingDirectory failure
  | .write _ failure => some failure
  | .fork errno | .pipe errno | .launch _ errno => some (.system errno)
  | _ => none

/-- In this world there is a reason for the report. A failed read has its reason in the source. -/
def Arises [Launching] (world : World) : Report → Prop
  | .read _ | .unended _ => True
  | .target path failure => ∃ mode, world.openPath mode path = .error failure
  | .directory path failure =>
    world.files.directoryAt world.process.directory path = .error failure
  | .workingDirectory failure => world.currentDirectory = .error failure
  | .write _ failure => ∃ stream, (world.sink stream).writeFailure = some failure
  | .fork errno => world.fork = .error errno
  | .pipe errno => ∃ stages bodies, Plumbing.lay world stages bodies = .error (noPipe errno)
  | .launch _ errno => ∃ path call, Launching.launch world path call = .error errno
  | .refused error => error.IsOwn
  | .misused text => ∃ complaint ∈ complaints, complaint.toList <:+ text.toList

/-- The report is about a failure with this number. What the line editor says of one is the
library's text for it. -/
def TellsOf (report : Report) (errno : Errno) : Prop :=
  report.failure? = some (.system errno) ∨
    report = .read (.lineEditor (.other (IoFailure.system errno).display))

/-- The message ends in the plain description of the failure, and not in its number. -/
structure ShowsPlainly (report : Report) (errno : Errno) : Prop where
  described : errno.description.toList <:+ report.text.toList
  unnumbered : ¬ EndsInNumber report.text

end Report

/-! ## Texts that end in no number -/

def EndsOpen (text : String) : Prop := ∃ c, c ≠ ')' ∧ [c] <:+ text.toList

theorem EndsOpen.of_suffix {ending text : String} (opens : EndsOpen ending)
    (suffix : ending.toList <:+ text.toList) : EndsOpen text := by
  obtain ⟨c, other, last⟩ := opens
  exact ⟨c, other, last.trans suffix⟩

theorem suffix_append (front back : String) : back.toList <:+ (front ++ back).toList := by
  rw [String.toList_append]
  exact List.suffix_append _ _

theorem EndsOpen.append {back : String} (opens : EndsOpen back) (front : String) :
    EndsOpen (front ++ back) :=
  opens.of_suffix (suffix_append front back)

theorem numbered_eq (code : Int) :
    s!" (os error {code})".toList = " (os error ".toList ++ (toString code).toList ++ [')'] := by
  simp only [String.toList_append]
  rfl

theorem EndsOpen.not_endsInNumber {text : String} (opens : EndsOpen text) :
    ¬ EndsInNumber text := by
  obtain ⟨c, other, last⟩ := opens
  rintro ⟨code, number⟩
  rw [numbered_eq] at number
  obtain ⟨front, split⟩ := last
  obtain ⟨before, same⟩ := number
  rw [← same, ← List.append_assoc] at split
  obtain ⟨_, closing⟩ := List.append_inj' split rfl
  exact other (List.head_eq_of_cons_eq closing)

theorem endsInNumber_display (errno : Errno) : EndsInNumber (IoFailure.system errno).display := by
  refine ⟨errno.code, ?_⟩
  have text : (IoFailure.system errno).display =
      errno.libraryText ++ s!" (os error {errno.code})" := by
    simp only [IoFailure.display, String.append_assoc]
    rfl
  rw [text]
  exact suffix_append _ _

theorem endsOpen_of_bytes {text : String}
    (last : text.toByteArray.data.toList.getLast?.any (· ≠ 41) = true) : EndsOpen text := by
  -- The last byte decides, and is found sooner than the last character.
  rcases List.eq_nil_or_concat text.toList with nothing | ⟨front, c, split⟩
  · rw [String.toList_eq_nil_iff] at nothing
    subst nothing
    cases last
  · rw [List.concat_eq_append] at split
    refine ⟨c, ?_, front, split.symm⟩
    rintro rfl
    have same : text = String.ofList front ++ ")" := by
      rw [← String.toList_inj, String.toList_append, String.toList_ofList, split]
      rfl
    have closing : ")".toByteArray.data.toList = [41] := by rfl
    rw [same, String.toByteArray_append, ByteArray.data_append, Array.toList_append, closing,
      List.getLast?_concat] at last
    cases last

theorem endsOpen_description (errno : Errno) : EndsOpen errno.description := by
  have known : ∀ row ∈ Errno.table,
      row.description.toByteArray.data.toList.getLast?.any (· ≠ 41) = true := by
    decide +kernel
  apply endsOpen_of_bytes
  unfold Errno.description
  cases found : errno.row? with
  | none => rfl
  | some row => exact known row (List.mem_of_find?_eq_some found)

theorem isDigit_of_mem_toString {number : Nat} {c : Char} (member : c ∈ (toString number).toList) :
    c.isDigit = true := by
  rw [Nat.toString_eq_ofList_toDigits, String.toList_ofList] at member
  exact Nat.isDigit_of_mem_toDigits (by decide) (by decide) member

theorem quote_not_mem_toString (code : Int) : '\'' ∉ (toString code).toList := by
  have digits : ∀ number : Nat, '\'' ∉ (toString number).toList := fun number member =>
    absurd (isDigit_of_mem_toString member) (by decide)
  cases code with
  | ofNat number => exact digits number
  | negSucc number =>
      have text : toString (Int.negSucc number) = "-" ++ toString (number + 1) := rfl
      rw [text, String.toList_append, List.mem_append, not_or]
      exact ⟨by decide, digits (number + 1)⟩

theorem not_endsInNumber_quoted (front : String) : ¬ EndsInNumber (front ++ "')") := by
  -- A quote before the parenthesis is no digit.
  rintro ⟨code, before, same⟩
  have text : (front ++ "')").toList = front.toList ++ ['\''] ++ [')'] := by
    rw [String.toList_append, List.append_assoc]
    rfl
  rw [numbered_eq, text, ← List.append_assoc] at same
  obtain ⟨same, _⟩ := List.append_inj' same rfl
  rcases List.eq_nil_or_concat (toString code).toList with nothing | ⟨digits, last, number⟩
  · rw [nothing, List.append_nil] at same
    have blank : before ++ " (os error".toList ++ [' '] = front.toList ++ ['\''] := by
      rw [← same, List.append_assoc]
      rfl
    obtain ⟨_, wrong⟩ := List.append_inj' blank rfl
    simp at wrong
  · rw [List.concat_eq_append] at number
    rw [number, ← List.append_assoc, ← List.append_assoc] at same
    obtain ⟨_, quote⟩ := List.append_inj' same rfl
    have member : last ∈ (toString code).toList := by
      rw [number]
      exact List.mem_append_right digits (List.mem_singleton_self last)
    rw [List.head_eq_of_cons_eq quote] at member
    exact quote_not_mem_toString code member

/-! ## Reasons -/

theorem endsOpen_system {failure : IoFailure} (numbered : ∃ errno, failure = .system errno) :
    EndsOpen failure.description := by
  obtain ⟨errno, rfl⟩ := numbered
  exact endsOpen_description errno

theorem endsOpen_checkPath {path : String} {failure : IoFailure}
    (failed : checkPath path = .error failure) : EndsOpen failure.description := by
  unfold checkPath at failed
  split at failed
  · cases failed
    exact ⟨'e', by decide, by decide⟩
  · split at failed
    · cases failed
      exact endsOpen_description _
    · split at failed <;> cases failed
      exact endsOpen_description _

theorem endsOpen_openPath {world : World} {mode : OpenMode} {path : String} {failure : IoFailure}
    (failed : world.openPath mode path = .error failure) : EndsOpen failure.description := by
  unfold World.openPath at failed
  split at failed
  · rename_i checked
    cases failed
    exact endsOpen_checkPath checked
  · obtain ⟨errno, _, same⟩ := of_mapError_error failed
    exact endsOpen_system ⟨errno, same⟩

theorem endsOpen_directoryAt {files : FileTree} {here : Place} {path : String}
    {failure : IoFailure} (failed : files.directoryAt here path = .error failure) :
    EndsOpen failure.description := by
  unfold FileTree.directoryAt FileTree.status FileTree.locate at failed
  cases checked : checkPath path with
  | error other =>
      rw [checked] at failed
      cases failed
      exact endsOpen_checkPath checked
  | ok _ =>
      rw [checked] at failed
      apply endsOpen_system
      cases walked : files.walkPath here .target path with
      | error errno =>
          rw [walked] at failed
          cases failed
          exact ⟨errno, rfl⟩
      | ok reached =>
          rw [walked] at failed
          cases reached with
          | missing => cases failed; exact ⟨_, rfl⟩
          | node place node => cases node <;> cases failed <;> exact ⟨_, rfl⟩

theorem endsOpen_directoryPath {files : FileTree} {place : Place} {failure : IoFailure}
    (failed : files.directoryPath place = .error failure) : EndsOpen failure.description := by
  unfold FileTree.directoryPath at failed
  split at failed
  · cases failed
  · cases failed
    exact endsOpen_description _

theorem endsOpen_sink {world : World} {stream : Stream} {failure : IoFailure}
    (failing : (world.sink stream).writeFailure = some failure) :
    EndsOpen failure.description := by
  apply endsOpen_system
  unfold World.sink at failing
  split at failing
  · split at failing
    · split at failing
      · exact ⟨_, (Option.some.inj failing).symm⟩
      · split at failing
        · exact ⟨_, (Option.some.inj failing).symm⟩
        · cases failing
    · cases failing
  · exact ⟨_, (Option.some.inj failing).symm⟩
  · exact ⟨_, (Option.some.inj failing).symm⟩
  · cases failing

theorem launchError_described (program : String) (errno : Errno) :
    ∃ front, (launchError program errno).message = front ++ errno.description := by
  have missing : Errno.ENOENT.description = "No such file or directory" := by rfl
  have denied : Errno.EACCES.description = "Permission denied" := by rfl
  by_cases isMissing : errno = .ENOENT
  · subst isMissing
    exact ⟨program ++ ": ", by rw [missing, String.append_assoc]; rfl⟩
  · by_cases isDenied : errno = .EACCES
    · subst isDenied
      exact ⟨program ++ ": ", by rw [denied, String.append_assoc]; rfl⟩
    · rw [launchError, if_neg isMissing, if_neg isDenied]
      exact ⟨_, rfl⟩

theorem endsOpen_own {error : ShellError} (own : error.IsOwn) : EndsOpen error.message := by
  have quote : EndsOpen "'" := ⟨'\'', by decide, by decide⟩
  cases error with
  | unexpectedToken | unmatchedQuote => exact quote.append _
  | missingCommand => exact ⟨'d', by decide, by decide⟩
  | ambiguousRedirect => exact EndsOpen.append ⟨'t', by decide, by decide⟩ _
  | commandNotFound => exact EndsOpen.append ⟨'d', by decide, by decide⟩ _
  | noSuchFile | isDirectory => exact EndsOpen.append ⟨'y', by decide, by decide⟩ _
  | permissionDenied => exact EndsOpen.append ⟨'d', by decide, by decide⟩ _
  | redirection path reason =>
      cases own
      exact EndsOpen.append ⟨'e', by decide, by decide⟩ _
  | io failure =>
      cases own
      exact ⟨'e', by decide, by decide⟩
  | cannotExecute | system | lineEditor => exact own.elim

namespace Report

variable {world : World} {report : Report} {errno : Errno}

/-- What the system refused is told by its plain description. -/
theorem described_of_failure {failure : IoFailure} (failed : report.failure? = some failure)
    (other : report.readError? = none) : ∃ front, report.text = front ++ failure.description := by
  cases report with
  | read => cases other
  | target | directory | workingDirectory | fork | pipe =>
      cases failed
      exact ⟨_, rfl⟩
  | write builtin =>
      cases failed
      exact ⟨builtin ++ ": " ++ ("write error" ++ ": "), String.append_assoc.symm⟩
  | launch program errno =>
      cases failed
      exact launchError_described program errno
  | refused | misused | unended => cases failed

/-- With a reason of any other kind than a failed read, no message ends in a number. -/
theorem Arises.unnumbered [Launching] (arises : report.Arises world)
    (other : report.readError? = none) : ¬ EndsInNumber report.text := by
  have of_failure : ∀ {failure : IoFailure}, report.failure? = some failure →
      EndsOpen failure.description → ¬ EndsInNumber report.text := by
    intro failure failed opens
    obtain ⟨front, same⟩ := described_of_failure failed other
    rw [same]
    exact (opens.append front).not_endsInNumber
  cases report with
  | read => cases other
  | unended delimiter => exact not_endsInNumber_quoted _
  | target path failure =>
      obtain ⟨mode, failed⟩ := arises
      exact of_failure rfl (endsOpen_openPath failed)
  | directory path failure => exact of_failure rfl (endsOpen_directoryAt arises)
  | workingDirectory failure => exact of_failure rfl (endsOpen_directoryPath arises)
  | write builtin failure =>
      obtain ⟨stream, failing⟩ := arises
      exact of_failure rfl (endsOpen_sink failing)
  | fork errno | pipe errno | launch _ errno => exact of_failure rfl (endsOpen_description errno)
  | refused error => exact (endsOpen_own arises).not_endsInNumber
  | misused text =>
      obtain ⟨complaint, listed, suffix⟩ := arises
      have opens : ∀ complaint ∈ complaints, EndsOpen complaint := by
        simp only [complaints, List.forall_mem_cons, List.not_mem_nil, IsEmpty.forall_iff,
          implies_true, and_true]
        exact ⟨⟨'t', by decide, by decide⟩, ⟨'t', by decide, by decide⟩,
          ⟨'s', by decide, by decide⟩, ⟨'r', by decide, by decide⟩,
          ⟨'d', by decide, by decide⟩, ⟨'n', by decide, by decide⟩⟩
      exact ((opens complaint listed).of_suffix suffix).not_endsInNumber

/-- A failed read is the only failure with a number that is not told plainly. -/
theorem Arises.showsPlainly_iff [Launching] (arises : report.Arises world)
    (tells : report.TellsOf errno) : report.ShowsPlainly errno ↔ report.readError? = none := by
  constructor
  · intro plain
    cases report with
    | read error =>
        apply absurd _ plain.unnumbered
        rcases tells with failed | same
        · cases error <;> cases failed
          exact endsInNumber_display errno
        · cases same
          exact endsInNumber_display errno
    | _ => rfl
  · intro other
    have failed : report.failure? = some (.system errno) := by
      rcases tells with failed | same
      · exact failed
      · subst same
        cases other
    constructor
    · obtain ⟨front, same⟩ := described_of_failure failed other
      rw [same]
      exact suffix_append front _
    · exact arises.unnumbered other

end Report

end PipeShell
