import PhotoSearch.Session.Run
import PhotoSearch.Web.App
import PhotoSearch.Proofs.Search.DaySpan
import PhotoSearch.Proofs.Catalog.FirstOfEach
import PhotoSearch.Proofs.Search.Finding
import PhotoSearch.Proofs.Search.Libraries
import PhotoSearch.Proofs.Search.Strictness
import PhotoSearch.Proofs.Catalog.FreeName
import PhotoSearch.Proofs.Search.Saving
import PhotoSearch.Proofs.Session.Names
import PhotoSearch.Proofs.Session.Values
import PhotoSearch.Proofs.Search.RefusedFormulas
import PhotoSearch.Proofs.Search.Raising
import PhotoSearch.Proofs.Web.Endpoints
import PhotoSearch.Proofs.Time.ReadBack
import PhotoSearch.Proofs.Record.Validity
import PhotoSearch.Proofs.Record.ReadBack
import PhotoSearch.Proofs.Session.Validity
import PhotoSearch.Proofs.Calendar.Carrying
import PhotoSearch.Proofs.Search.TagText
import PhotoSearch.Proofs.Search.Pointwise
import PhotoSearch.Proofs.Calendar.Limits
import PhotoSearch.Proofs.Catalog.Places
import PhotoSearch.Proofs.Search.Connectives
import PhotoSearch.Proofs.Session.TagRuns
import PhotoSearch.Proofs.Search.StoredTags
import PhotoSearch.Proofs.Search.AdjacentSpans
import PhotoSearch.Proofs.Catalog.AlbumTimes
import PhotoSearch.Proofs.Search.OwnSpan
import PhotoSearch.Proofs.Session.AlbumRuns
import PhotoSearch.Proofs.Query.TypedText
import PhotoSearch.Proofs.Search.RawRanges
import PhotoSearch.Proofs.Session.Saving
