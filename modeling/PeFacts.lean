import PeFacts.Address
import PeFacts.Asn1.Element
import PeFacts.Asn1.Reader
import PeFacts.Asn1.Scalar
import PeFacts.Binary64
import PeFacts.Binary64.Arithmetic
import PeFacts.Bytes
import PeFacts.Calendar
import PeFacts.Certificate
import PeFacts.Certificate.Algorithm
import PeFacts.Certificate.Name
import PeFacts.Certificate.Part
import PeFacts.Checked
import PeFacts.Checked.Scalar
import PeFacts.Checksum
import PeFacts.Command
import PeFacts.Command.Run
import PeFacts.Console
import PeFacts.Console.Markup
import PeFacts.Constants
import PeFacts.Debug
import PeFacts.Digest
import PeFacts.Export
import PeFacts.Header
import PeFacts.Image
import PeFacts.Image.Query
import PeFacts.Image.Session
import PeFacts.Imphash
import PeFacts.Import
import PeFacts.Limits
import PeFacts.Logging
import PeFacts.Main
import PeFacts.PathName
import PeFacts.Problem
import PeFacts.Reading
import PeFacts.Report
import PeFacts.Resource
import PeFacts.Rich
import PeFacts.Scan
import PeFacts.Section
import PeFacts.Settings
import PeFacts.Settings.File
import PeFacts.Signature.CertificateTable
import PeFacts.Signature.Decoding
import PeFacts.Signature.Envelope
import PeFacts.Signature.Record
import PeFacts.Signature.Signer
import PeFacts.Signature.Walk
import PeFacts.Text.Blank
import PeFacts.Text.Decoding
import PeFacts.Text.Digit
import PeFacts.Text.Lower
import PeFacts.Text.Lower.Ranges
import PeFacts.Text.Quoted
import PeFacts.Text.Unprintable
import PeFacts.Value
import PeFacts.Value.Json
import PeFacts.VersionInfo
import PeFacts.Yaml.Document
import PeFacts.Yaml.Kind
import PeFacts.Yaml.Merge
import PeFacts.Yaml.Node
import PeFacts.Yaml.Number
import PeFacts.Yaml.Part
import PeFacts.Yaml.Place
import PeFacts.Yaml.Scalar
import PeFacts.Yaml.Token
import PeFacts.Proofs.Acceptance
import PeFacts.Proofs.Header
import PeFacts.Proofs.Import
import PeFacts.Proofs.Lazy
import PeFacts.Proofs.Malformed
import PeFacts.Proofs.Mapping
import PeFacts.Proofs.Resource
import PeFacts.Proofs.Rich
import PeFacts.Proofs.Rich.Window
import PeFacts.Proofs.Signature
import PeFacts.Proofs.Truncation
import PeFacts.Proofs.VersionInfo
import PeFacts.Proofs.Signature.Entry
import PeFacts.Proofs.Signature.Front
import PeFacts.Proofs.Resource.Loop
import PeFacts.Proofs.Checksum
import PeFacts.Proofs.Bounds
import PeFacts.Proofs.Checksum.Complement
import PeFacts.Proofs.Translation
import PeFacts.Proofs.Overlay
import PeFacts.Proofs.Import.Limit
import PeFacts.Proofs.Rich.Decoded
import PeFacts.Proofs.Export
import PeFacts.Proofs.VersionInfo.Confined
import PeFacts.Proofs.Signature.Preorder
import PeFacts.Proofs.Debug
import PeFacts.Proofs.Import.Agreement
import PeFacts.Proofs.Imphash
import PeFacts.Proofs.Console
