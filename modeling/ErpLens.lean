import ErpLens.Command.Run
import ErpLens.Documents
import ErpLens.Json.Tagged
import ErpLens.Proofs.AnswerLog
import ErpLens.Proofs.ArrangedAccounts
import ErpLens.Proofs.BillLevels
import ErpLens.Proofs.CallRankings
import ErpLens.Proofs.CallSchedules
import ErpLens.Proofs.Consolidation
import ErpLens.Proofs.ExtractedFolders
import ErpLens.Proofs.FailingReplies
import ErpLens.Proofs.FolderStatistics
import ErpLens.Proofs.GroupTotals
import ErpLens.Proofs.ListedEntities
import ErpLens.Proofs.ListedFunctions
import ErpLens.Proofs.ListedSources
import ErpLens.Proofs.MissingReferences
import ErpLens.Proofs.NettedRows
import ErpLens.Proofs.OverlappingWork
import ErpLens.Proofs.RearrangedStops
import ErpLens.Proofs.RecordLines
import ErpLens.Proofs.RenamedFilters
import ErpLens.Proofs.RepeatedReports
import ErpLens.Proofs.ShiftReduction
import ErpLens.Proofs.SortedAccounts
import ErpLens.Proofs.SourceWindows
import ErpLens.Proofs.StatementNumbers
import ErpLens.Proofs.StatementSums
import ErpLens.Proofs.StockBins
import ErpLens.Proofs.StoredFolders
import ErpLens.Proofs.VariantChoices
import ErpLens.Proofs.VisibleRows
