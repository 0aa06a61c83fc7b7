import BigQueryEmulator.Storage.TimeTravel
import BigQueryEmulator.Write.Flushing
import BigQueryEmulator.Write.Commits
import BigQueryEmulator.Write.Finalizing
import BigQueryEmulator.Write.Offsets
import BigQueryEmulator.Read.Snapshots
import BigQueryEmulator.Dml.Serializability
import BigQueryEmulator.Dml.MergeOutcome
import BigQueryEmulator.Storage.Undrop
import BigQueryEmulator.Engine.Substitution
import BigQueryEmulator.Engine.Routing
import BigQueryEmulator.Engine.NonInterference
import BigQueryEmulator.Dml.Untouched
import BigQueryEmulator.Ddl.AlteredRows
import BigQueryEmulator.Ddl.Replacing
import BigQueryEmulator.Semantic.JoinPaths
import BigQueryEmulator.Semantic.AggListRows
import BigQueryEmulator.Semantic.OrderBy
import BigQueryEmulator.Script.Reads
import BigQueryEmulator.Catalog.Resolution
import BigQueryEmulator.Gateway.ScriptRunner
import BigQueryEmulator.Gateway.ResultTimestamps
import BigQueryEmulator.Gateway.PastTables
import BigQueryEmulator.Engine.SuffixFilters
import BigQueryEmulator.Gateway.MetadataPatches
import BigQueryEmulator.Gateway.ResumableUploads
import BigQueryEmulator.Semantic.WindowFrames
import BigQueryEmulator.Semantic.Subqueries
import BigQueryEmulator.Semantic.Timestamps
import BigQueryEmulator.Semantic.Aggregates
import BigQueryEmulator.Engine.WindowOrder
import BigQueryEmulator.Engine.StructCasts
import BigQueryEmulator.Semantic.Division
import BigQueryEmulator.Gateway.PolicyTags
import BigQueryEmulator.Gateway.ResultPages
import BigQueryEmulator.Semantic.Base32
import BigQueryEmulator.Engine.DateLiterals
import BigQueryEmulator.Semantic.Sketches
import BigQueryEmulator.Gateway.AvroDates
