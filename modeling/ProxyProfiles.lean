import ProxyProfiles.Main
import ProxyProfiles.World
import ProxyProfiles.Proofs.History
import ProxyProfiles.Proofs.InMemory
import ProxyProfiles.Proofs.Agreement
import ProxyProfiles.Proofs.Refusal
import ProxyProfiles.Proofs.FreshId
import ProxyProfiles.Proofs.Wildcard
import ProxyProfiles.Proofs.Json.Spelling
import ProxyProfiles.Proofs.ProfileMap
import ProxyProfiles.Proofs.Json.Lexeme
import ProxyProfiles.Proofs.Json.Reading
import ProxyProfiles.Proofs.StoredForm
import ProxyProfiles.Proofs.FileTree.Directories
import ProxyProfiles.Proofs.FileStore
import ProxyProfiles.Proofs.LetterCase
import ProxyProfiles.Proofs.Network.Ipv4
import ProxyProfiles.Proofs.Network.Netmask
import ProxyProfiles.Proofs.Subnet
import ProxyProfiles.Proofs.ScriptText
import ProxyProfiles.Proofs.Overlap
import ProxyProfiles.Proofs.Confinement
import ProxyProfiles.Proofs.FileTree.Retention
import ProxyProfiles.Proofs.FileTree.Folder
import ProxyProfiles.Proofs.StoreLaws
import ProxyProfiles.Proofs.BadgeHistory
import ProxyProfiles.Proofs.Additions
import ProxyProfiles.Proofs.Separation
import ProxyProfiles.Proofs.Editing
import ProxyProfiles.Proofs.EntryShape
import ProxyProfiles.Proofs.NetworkMembership
import ProxyProfiles.Proofs.Network.Address
import ProxyProfiles.Proofs.BlacklistRouting
import ProxyProfiles.Proofs.BypassCase
import ProxyProfiles.Proofs.Publication
import ProxyProfiles.Proofs.RefusedPublication
import ProxyProfiles.Proofs.Json.Passing
import ProxyProfiles.Proofs.Json.Fields
import ProxyProfiles.Proofs.Layout
import ProxyProfiles.Proofs.Trimming
import ProxyProfiles.Proofs.DomainText
import ProxyProfiles.Proofs.TextualPort
import ProxyProfiles.Proofs.Toml.WrittenText
import ProxyProfiles.Proofs.Configuration
