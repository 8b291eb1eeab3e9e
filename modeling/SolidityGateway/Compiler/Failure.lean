import SolidityGateway.Json.ReadError
import SolidityGateway.Json.Basic
import SolidityGateway.Text.Blank
import SolidityGateway.Text.Quoted

/-!
Why a compilation or a question for the release does not give a result. A failure is a cause;
`Failure.message` is its wording, and `Failure.isForClient` tells the refusals that concern the
submitted source from everything that went wrong on the gateway's side.
-/

namespace SolidityGateway

/-- What is known of a run of the compiler that failed. -/
structure RunReport where
  message : Text
  command : List Text
  exitCode : Option Int
  output : Option Text
  complaints : Option Text

/-- The report in lines, without white space around it. What is not known is `None`. -/
def RunReport.text (report : RunReport) : Text :=
  let orNone (t : Option Text) : Text := t.getD "None"
  let lines : Text :=
    report.message ++ ("\n> command: `" : Text) ++ Text.join " " report.command ++
      "`\n> return code: `" ++ orNone (report.exitCode.map Text.ofInt) ++
      "`\n> stdout:\n" ++ orNone report.output ++
      "\n> stderr:\n" ++ orNone report.complaints
  lines.trim CodePoint.isBlank

/-- Why there is no result. -/
inductive Failure
  /-- The submission holds no source. -/
  | missingSource
  /-- The diagnostics that the policy does not let pass, with the wording of the first. -/
  | rejected (message : Json) (diagnostics : List Json)
  /-- Any other refusal that concerns the client. -/
  | refused (message : Text)
  /-- The compiler's output is no JSON. -/
  | unreadable (error : Json.ReadError)
  /-- Members were looked for in a value of a kind that has none. -/
  | noMembers (kind : String)
  /-- Items were looked for in a value of a kind that has none. -/
  | noItems (kind : String)
  /-- The compiler's output names no version. -/
  | noVersion (output : Text)
  /-- No release is asked for and no compiler is installed. -/
  | noCompiler
  /-- The release asked for is not installed. -/
  | notInstalled (base : Text)
  /-- A text is no release number. -/
  | invalidRelease (t : Text)
  /-- A number in a release number has too many digits. -/
  | oversizedRelease (digits : Nat)
  /-- The path of a release's compiler ends in a name that no file can have. -/
  | oversizedName (path : Text)
  /-- The release asked for is older than the oldest supported one. -/
  | unsupportedRelease
  /-- The compiler did not run to a good end. -/
  | runFailed (report : RunReport)
  /-- The compiler ran and wrote no contracts. -/
  | noContracts (report : RunReport)
  /-- The compiler does not know an option that it was given. -/
  | unknownOption (release flag : Text)
  /-- The compiler does not know the value of an option. -/
  | unknownValue (release value flag : Text)
  /-- The compiler complains of an option that it does not quote. -/
  | unnamedOption
  /-- The compiler complains of the value of an option in other than two parts. -/
  | unclearValue (parts : Nat)
  /-- A key that is not there. -/
  | missingKey (key : Text)
  /-- A file that is not there. -/
  | missingFile (path : Text)
  /-- The end of a sequence, which cannot be handed from one task to another. -/
  | exhausted (message : Text)
  /-- A failure of any other kind, by the name of the kind. -/
  | other (kind message : Text)

namespace Failure

/-- The wording of a failure that is no rejection; a rejection words itself. -/
def text : Failure → Text
  | missingSource => "Missing Solidity source code"
  | rejected message _ => message.toText?.getD []
  | refused message => message
  | unreadable error => error.message
  | noMembers kind => ("'" : Text) ++ kind ++ "' object has no attribute 'get'"
  | noItems kind => ("'" : Text) ++ kind ++ "' object is not iterable"
  | noVersion output => ("Unable to read solc version from output: " : Text) ++ output.quoted
  | noCompiler =>
    "Solc is not installed. Call solcx.get_installable_solc_versions() to view for available versions and solcx.install_solc() to install."
  | notInstalled base =>
    ("solc " : Text) ++ base ++ " has not been installed. Use solcx.install_solc('" ++ base ++ "') to install."
  | invalidRelease t => ("Invalid version: " : Text) ++ t.quoted
  | oversizedRelease digits => Text.tooManyDigits digits
  | oversizedName path => ("[Errno 36] File name too long: " : Text) ++ path.quoted
  | unsupportedRelease => "py-solc-x does not support solc versions <0.4.11"
  | runFailed report => report.text
  | noContracts report => report.text
  | unknownOption release flag =>
    ("solc " : Text) ++ release ++ " does not support the '" ++ flag ++ "' option'"
  | unknownValue release value flag =>
    ("solc " : Text) ++ release ++ " does not accept '" ++ value ++ "' as an option for the '" ++ flag ++ "' flag"
  | unnamedOption => "list index out of range"
  | unclearValue parts =>
    if parts < 2 then "not enough values to unpack (expected 2, got 1)"
    else "too many values to unpack (expected 2)"
  | missingKey key => key.quoted
  | missingFile path => ("[Errno 2] No such file or directory: " : Text) ++ path.quoted
  | exhausted message => message
  | other _ message => message

def message : Failure → Json
  | rejected message _ => message
  | failure => .text failure.text

/-- Whether a failure concerns the submission, so that the client is to blame. -/
def isForClient : Failure → Bool
  | missingSource => true
  | rejected .. => true
  | refused _ => true
  | _ => false

end Failure

end SolidityGateway
