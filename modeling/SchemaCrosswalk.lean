import SchemaCrosswalk.Spelling
import SchemaCrosswalk.Engine
import SchemaCrosswalk.CompatibilityMap
import SchemaCrosswalk.Checker
import SchemaCrosswalk.Translation
import SchemaCrosswalk.Catalog
import SchemaCrosswalk.Resolution
import SchemaCrosswalk.Overrides.Manager
import SchemaCrosswalk.Snapshot
import SchemaCrosswalk.Attachment
import SchemaCrosswalk.Configuration
import SchemaCrosswalk.CommandLine
import SchemaCrosswalk.Main
import SchemaCrosswalk.Proofs.Dictionary
import SchemaCrosswalk.Proofs.Distinct
import SchemaCrosswalk.Proofs.Names
import SchemaCrosswalk.Proofs.Resolution.Mappings
import SchemaCrosswalk.Proofs.Resolution.Partition
import SchemaCrosswalk.Proofs.Overrides.Document
import SchemaCrosswalk.Proofs.Overrides.Registry
import SchemaCrosswalk.Proofs.Resolution.Substitution
import SchemaCrosswalk.Proofs.Files.Place
import SchemaCrosswalk.Proofs.Files.Persistence
import SchemaCrosswalk.Proofs.Lookups
import SchemaCrosswalk.Proofs.Overrides.Runs
import SchemaCrosswalk.Proofs.Overrides.Durability
import SchemaCrosswalk.Proofs.Checker
import SchemaCrosswalk.Proofs.Overrides.Consumers
import SchemaCrosswalk.Proofs.Overrides.Lookup
import SchemaCrosswalk.Proofs.Attachments.Documents
import SchemaCrosswalk.Proofs.Attachments.Isolation
import SchemaCrosswalk.Proofs.Resolution.Modification
import SchemaCrosswalk.Proofs.CommandLine.Programs
import SchemaCrosswalk.Proofs.CommandLine.Reapplication
import SchemaCrosswalk.Proofs.Outcomes
import SchemaCrosswalk.Proofs.Spelling.LowerCase
import SchemaCrosswalk.Proofs.Spelling.NormalForm
import SchemaCrosswalk.Proofs.Spelling.Parameters
import SchemaCrosswalk.Proofs.CompatibilityMap.Aliases
import SchemaCrosswalk.Proofs.CompatibilityMap.Entries
import SchemaCrosswalk.Proofs.CompatibilityMap.Candidates
import SchemaCrosswalk.Proofs.CompatibilityMap.Declarations
import SchemaCrosswalk.Proofs.Catalog.Runs
import SchemaCrosswalk.Proofs.Catalog.Maps
import SchemaCrosswalk.Proofs.Catalog.Translations
import SchemaCrosswalk.Proofs.Resolution.Policies
import SchemaCrosswalk.Proofs.Translation.Lookup
import SchemaCrosswalk.Proofs.Translation.Cloning
import SchemaCrosswalk.Proofs.Catalog.Cloning
import SchemaCrosswalk.Proofs.Files.Replacement
import SchemaCrosswalk.Proofs.CommandLine.Effects
import SchemaCrosswalk.Proofs.Spelling.PlainNames
import SchemaCrosswalk.Proofs.Resolution.Respelling
import SchemaCrosswalk.Proofs.CommandLine.Answers
import SchemaCrosswalk.Proofs.CommandLine.Respelling
import SchemaCrosswalk.Proofs.Spelling.Decimals
import SchemaCrosswalk.Proofs.Spelling.Copies
import SchemaCrosswalk.Proofs.Overrides.Usages
import SchemaCrosswalk.Proofs.Overrides.Decisions
import SchemaCrosswalk.Proofs.Overrides.Removal
import SchemaCrosswalk.Proofs.Resolution.Reordering
import SchemaCrosswalk.Proofs.Resolution.Guidance
import SchemaCrosswalk.Proofs.Translation.Inversion
import SchemaCrosswalk.Proofs.Overrides.Editing
import SchemaCrosswalk.Proofs.Snapshot
import SchemaCrosswalk.Proofs.Configuration
import SchemaCrosswalk.Proofs.Catalog.Files
import SchemaCrosswalk.Proofs.Spelling.Boundaries
import SchemaCrosswalk.Proofs.Spelling.Reformatting
import SchemaCrosswalk.Proofs.Spelling.Groups
