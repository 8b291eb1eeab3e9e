import SolidityGateway.Compiler.Run
import SolidityGateway.Compiler.Release
import SolidityGateway.Compiler.Banner
import SolidityGateway.Path

/-!
A compiler that is run as a process. The release asked for is looked for among the files of a
directory. A run asks the executable for its release first, then starts it and hands it its input; an
exit code other than the good one, which is 0 but for the help of old releases, is a failure whose
cause is read off the complaints that the process wrote.
-/

namespace SolidityGateway

/-- The compilers of a machine, and what their processes do. -/
structure Installation where
  /-- The compiler that is run when no release is asked for. -/
  standard : Option Text
  /-- Where compilers are kept, each in a file named after its release. -/
  directory : Text
  files : List Text
  /-- What the executable writes when it is asked for its release. -/
  banner : Text
  exitCode : Int
  output : Text
  complaints : Text

namespace Installation

def oldest : List Nat := [0, 4, 11]

/-- The compiler that is run when no release is asked for, by the normal form of its path. -/
def locateStandard (i : Installation) : Except Failure Text :=
  match i.standard with
  | some path => .ok (Path.normal path)
  | none => .error .noCompiler

def readRelease (t : Text) : Except Failure Release :=
  match Release.parse t with
  | .ok release => .ok release
  | .error .malformed => .error (.invalidRelease t)
  | .error (.tooManyDigits count) => .error (.oversizedRelease count)

/-- The most code points in the name of a file, where all of them are ASCII. -/
def nameLimit : Nat := 255

/-- The path of the compiler of a release that is supported. -/
def locateRelease (i : Installation) (release : Release) : Except Failure Text :=
  let file := ("solc-v" : Text) ++ release.base
  let path := i.directory ++ ("/" : Text) ++ file
  if file.length > nameLimit then .error (.oversizedName path)
  else if file ∈ i.files then .ok path
  else .error (.notInstalled release.base)

def locate (i : Installation) (release : Option Text) : Except Failure Text :=
  match release with
  | none | some [] => i.locateStandard
  | some t => do
    let release ← readRelease (t.dropWhile (· = CodePoint.ofChar 'v'))
    if release.isBefore oldest then .error .unsupportedRelease else i.locateRelease release

/-- The release that the executable names. -/
def ownRelease (i : Installation) : Except Failure Release :=
  match Banner.release? i.banner with
  | none => .error (.runFailed ⟨"Could not determine the solc binary version", [], none, none, none⟩)
  | some found => readRelease found

def errorMark : Text := "Error: "

/-- The complaints, without their marks if they begin with one. -/
def plainComplaints (i : Installation) : Text :=
  if i.complaints.startsWith errorMark then Text.erase errorMark i.complaints else i.complaints

/-- The last word of a text in which words stand between single spaces. -/
def lastWord (t : Text) : Text := (Text.splitOn " " t).getLastD []

/-- Why a process of a release that was started by `command` ended badly. -/
def failureOf (i : Installation) (release : Release) (command : List Text) : Failure :=
  let complaints := i.plainComplaints
  if complaints.startsWith "unrecognised option" then
    match Text.splitOn "'" complaints with
    | _ :: flag :: _ => .unknownOption release.base flag
    | _ => .unnamedOption
  else if complaints.startsWith "Invalid option" then
    match Text.splitOn ": " complaints with
    | [option, value] => .unknownValue release.base value (lastWord option)
    | parts => .unclearValue parts.length
  else
    .runFailed ⟨"An error occurred during execution", command, some i.exitCode, some i.output, some complaints⟩

/-- The first release that ends well when it is asked for help. -/
def helpfulFrom : List Nat := [0, 8, 10]

/-- The exit code of a process that ends well: 0, but 1 where an old release is asked for help. -/
def goodExit (release : Release) (command : List Text) : Int :=
  if ("--help" : Text) ∈ command ∧ release.isBefore helpfulFrom then 1 else 0

/-- Runs the executable at a path, or the standard one if the path is empty, and gives its output. -/
def run (i : Installation) (binary : Text) (arguments : List Text) (input : Option Text) : Run Text := do
  let path ← Run.ofExcept (if binary = [] then i.locateStandard else .ok binary)
  let path := Path.normal path
  Run.call (.capture [path, "--version"])
  let release ← Run.ofExcept i.ownRelease
  let command := path :: arguments
  Run.call (.start command)
  Run.call (.feed input)
  if i.exitCode = goodExit release command then return i.output else Run.fail (i.failureOf release command)

def compiler (i : Installation) : Compiler where
  locate release := Run.ofExcept (i.locate release)
  compile binary input := i.run binary ["--standard-json"] (some input)
  banner binary := i.run binary ["--version", "-"] none

end Installation

end SolidityGateway
