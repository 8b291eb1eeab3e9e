import SolidityGateway.Service.Session
import SolidityGateway.Compiler.Script
import SolidityGateway.Compiler.Installation
import SolidityGateway.Http.Gateway
import SolidityGateway.Http.Application
import SolidityGateway.Validation.Record
import SolidityGateway.Main
import SolidityGateway.Proofs.Values
import SolidityGateway.Proofs.Digits
import SolidityGateway.Proofs.Escapes
import SolidityGateway.Proofs.Numerals
import SolidityGateway.Proofs.RoundTrip
import SolidityGateway.Proofs.Rounding
import SolidityGateway.Proofs.ShortestDigits
import SolidityGateway.Proofs.FloatTexts
import SolidityGateway.Proofs.Styles
import SolidityGateway.Proofs.Readings
import SolidityGateway.Proofs.Bytes
import SolidityGateway.Proofs.Client
import SolidityGateway.Proofs.Documents
import SolidityGateway.Proofs.Runs
import SolidityGateway.Proofs.Relay
import SolidityGateway.Proofs.Failures
import SolidityGateway.Proofs.Answers
import SolidityGateway.Proofs.Applications
import SolidityGateway.Proofs.Calls
import SolidityGateway.Proofs.Processes
import SolidityGateway.Proofs.Refusals
import SolidityGateway.Proofs.Results
import SolidityGateway.Proofs.Submissions
import SolidityGateway.Proofs.Histories
import SolidityGateway.Proofs.Decisions
import SolidityGateway.Proofs.Banners
import SolidityGateway.Proofs.Encodings
import SolidityGateway.Proofs.Paths
import SolidityGateway.Proofs.Fields
