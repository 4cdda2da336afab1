import CredentialWrite.Binary64.Basic
import CredentialWrite.Binary64.Layout
import CredentialWrite.Binary64.Reader
import CredentialWrite.Binary64.Shortest
import CredentialWrite.Credential
import CredentialWrite.Failure
import CredentialWrite.Json.Basic
import CredentialWrite.Json.Octets
import CredentialWrite.Json.Reader
import CredentialWrite.Json.Writer
import CredentialWrite.Kind
import CredentialWrite.Name
import CredentialWrite.Name.Given
import CredentialWrite.Payload.Basic
import CredentialWrite.Payload.Copy
import CredentialWrite.Payload.Dump
import CredentialWrite.Payload.Reading
import CredentialWrite.Payload.Wire
import CredentialWrite.Permission.Basic
import CredentialWrite.Permission.Builder
import CredentialWrite.Proofs.Json.Floats
import CredentialWrite.Proofs.Json.Numbers
import CredentialWrite.Proofs.Json.Octets
import CredentialWrite.Proofs.Json.RoundTrip
import CredentialWrite.Proofs.Name.Segments
import CredentialWrite.Proofs.Name.ServiceInstance
import CredentialWrite.Proofs.Name.Simple
import CredentialWrite.Proofs.Payload.Absent
import CredentialWrite.Proofs.Payload.Data
import CredentialWrite.Proofs.Payload.Entries
import CredentialWrite.Proofs.Payload.Faithful
import CredentialWrite.Proofs.Payload.FloatFree
import CredentialWrite.Proofs.Payload.Keys
import CredentialWrite.Proofs.Payload.Merged
import CredentialWrite.Proofs.Payload.Native
import CredentialWrite.Proofs.Payload.ReadOnly
import CredentialWrite.Proofs.Payload.Rebuilding
import CredentialWrite.Proofs.Payload.Sameness
import CredentialWrite.Proofs.Payload.Schema
import CredentialWrite.Proofs.Payload.Selected
import CredentialWrite.Proofs.Payload.WellFormed
import CredentialWrite.Proofs.Permission.History
import CredentialWrite.Proofs.Permission.Identity
import CredentialWrite.Proofs.Permission.Refusal
import CredentialWrite.Proofs.Permission.Twins
import CredentialWrite.Proofs.Permission.Zones
import CredentialWrite.Proofs.Request.Allocation
import CredentialWrite.Proofs.Request.Body
import CredentialWrite.Proofs.Request.Built
import CredentialWrite.Proofs.Request.Coherence
import CredentialWrite.Proofs.Request.Equality
import CredentialWrite.Proofs.Request.Folding
import CredentialWrite.Proofs.Request.Hashes
import CredentialWrite.Proofs.Request.History
import CredentialWrite.Proofs.Request.Reading
import CredentialWrite.Proofs.Request.Refusal
import CredentialWrite.Proofs.Request.Twins
import CredentialWrite.Proofs.Session.Bodies
import CredentialWrite.Proofs.Session.Clients
import CredentialWrite.Proofs.Session.Frames
import CredentialWrite.Proofs.Session.Journal
import CredentialWrite.Proofs.Session.Levels
import CredentialWrite.Proofs.Session.Normal
import CredentialWrite.Proofs.Session.Records
import CredentialWrite.Proofs.Session.Secrecy
import CredentialWrite.Proofs.Session.Sharing
import CredentialWrite.Proofs.Session.SideBySide
import CredentialWrite.Proofs.Session.Snapshots
import CredentialWrite.Proofs.Session.Steps
import CredentialWrite.Proofs.Store.Growth
import CredentialWrite.Proofs.Store.Placement
import CredentialWrite.Proofs.Store.Reach
import CredentialWrite.Proofs.Store.Soundness
import CredentialWrite.Proofs.Text.Integer
import CredentialWrite.Proofs.Text.Octets
import CredentialWrite.Proofs.Text.Split
import CredentialWrite.Proofs.Url.Authorities
import CredentialWrite.Proofs.Url.Escaping
import CredentialWrite.Proofs.Url.HostNames
import CredentialWrite.Proofs.Url.Paths
import CredentialWrite.Proofs.Url.Rereading
import CredentialWrite.Proofs.Value.Equivalence
import CredentialWrite.Proofs.Value.Hashing
import CredentialWrite.Proofs.Value.Numbers
import CredentialWrite.Proofs.Value.Trees
import CredentialWrite.Request.Basic
import CredentialWrite.Request.Builder
import CredentialWrite.Request.Fault
import CredentialWrite.Session.Action
import CredentialWrite.Session.Basic
import CredentialWrite.Session.Client
import CredentialWrite.Session.Logging
import CredentialWrite.Session.Lookup
import CredentialWrite.Session.Signature
import CredentialWrite.Settings.Basic
import CredentialWrite.Settings.EnvironmentFile
import CredentialWrite.Settings.Load
import CredentialWrite.Store.Basic
import CredentialWrite.Store.Comparison
import CredentialWrite.Store.Update
import CredentialWrite.Store.View
import CredentialWrite.Text.Case
import CredentialWrite.Text.CombiningClass
import CredentialWrite.Text.Composed
import CredentialWrite.Text.Digits
import CredentialWrite.Text.Integer
import CredentialWrite.Text.Mark
import CredentialWrite.Text.Printable
import CredentialWrite.Text.Quoted
import CredentialWrite.Text.Split
import CredentialWrite.Text.Utf8
import CredentialWrite.Url.Basic
import CredentialWrite.Url.Direction
import CredentialWrite.Url.Host
import CredentialWrite.Url.HostName
import CredentialWrite.Url.Joining
import CredentialWrite.Url.Label
import CredentialWrite.Url.Letter
import CredentialWrite.Url.Parser
import CredentialWrite.Url.Punycode
import CredentialWrite.Url.Script
import CredentialWrite.Validation.Fault
import CredentialWrite.Validation.Field
import CredentialWrite.Validation.Record
import CredentialWrite.Validation.Request
import CredentialWrite.Value.Basic
import CredentialWrite.Value.Draft
import CredentialWrite.Value.Equality
import CredentialWrite.Value.Hash
import CredentialWrite.Value.Printed
