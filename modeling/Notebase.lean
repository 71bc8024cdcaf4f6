import Notebase.Api.Basic
import Notebase.Benchmark.Cases
import Notebase.Benchmark.Report
import Notebase.Form
import Notebase.Generator.Chat
import Notebase.Generator.Service
import Notebase.Main
import Notebase.Proofs.Agreement
import Notebase.Proofs.Api.Idle
import Notebase.Proofs.ArrangedRequest
import Notebase.Proofs.Catalog.FirstBest
import Notebase.Proofs.Catalog.Occurrence
import Notebase.Proofs.Checker
import Notebase.Proofs.Console
import Notebase.Proofs.Document.Span
import Notebase.Proofs.FilterList
import Notebase.Proofs.Generator.Retry
import Notebase.Proofs.Generator.Service
import Notebase.Proofs.NameScalar
import Notebase.Proofs.Patch.Commute
import Notebase.Proofs.Patch.Depth
import Notebase.Proofs.Patch.Frame
import Notebase.Proofs.Patch.Idempotent
import Notebase.Proofs.Patch.Overwrite
import Notebase.Proofs.Patch.Place
import Notebase.Proofs.Patch.Precedence
import Notebase.Proofs.Quoting
import Notebase.Proofs.ReadBack
import Notebase.Proofs.Reference
import Notebase.Proofs.Request.LastPhrase
import Notebase.Proofs.Request.Name
import Notebase.Proofs.Request.Usable
import Notebase.Proofs.Session.Delivery
import Notebase.Proofs.Session.FastPath
import Notebase.Proofs.Session.Local
import Notebase.Proofs.Settings
import Notebase.Proofs.ShownName
import Notebase.Proofs.Skeleton
import Notebase.Proofs.TrimmedForm
