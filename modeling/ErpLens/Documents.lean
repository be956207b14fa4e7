import ErpLens.Accounts.Arrange
import ErpLens.Accounts.Bank
import ErpLens.Accounts.Closing
import ErpLens.Accounts.Charts
import ErpLens.Accounts.Invoice
import ErpLens.Accounts.Ledger
import ErpLens.Accounts.Payment
import ErpLens.Accounts.Pricing
import ErpLens.Accounts.ProfitRows
import ErpLens.Accounts.Ratios
import ErpLens.Accounts.Receivable
import ErpLens.Accounts.Registers
import ErpLens.Accounts.StandardChart
import ErpLens.Accounts.Statement
import ErpLens.Accounts.Template.Checks
import ErpLens.Accounts.Template.Order
import ErpLens.Accounts.TrialBalance
import ErpLens.Accounts.Withholding
import ErpLens.Accounts.ZeroRows
import ErpLens.Assets.Depreciation
import ErpLens.Assets.Location
import ErpLens.Buying.Supplier
import ErpLens.Documents.Dashboards
import ErpLens.Documents.Objects
import ErpLens.Documents.PrintTemplates
import ErpLens.Manufacturing.Overlap
import ErpLens.Manufacturing.Plan
import ErpLens.Projects.Summary
import ErpLens.Reports.Columns.Accounts
import ErpLens.Reports.Columns.Manufacturing
import ErpLens.Reports.Columns.Stock
import ErpLens.Reports.Columns.Trade
import ErpLens.Reports.Columns.Work
import ErpLens.Reports.Condition
import ErpLens.Reports.Trend
import ErpLens.Setup.Company
import ErpLens.Setup.Desk
import ErpLens.Stock.DeliveryTrip
import ErpLens.Stock.GroupCost
import ErpLens.Stock.Item
import ErpLens.Stock.Valuation
import ErpLens.Stock.Warehouse
import ErpLens.Subcontracting.Order
import ErpLens.Support.Agreement
import ErpLens.Support.Summary
import ErpLens.Telephony.CallSchedule

/-!
# Business documents

All that is computed from the documents of a business: accounts, stock, orders, work and people.
Reports are found by their title and dashboards by the kind of document, as they stand in addresses.
-/

namespace ErpLens.Reports

def catalogue : List Report :=
  Columns.accountReports ++ Columns.tradeReports ++ Columns.manufacturingReports ++
    Columns.stockReports ++ Columns.workReports

def reportAt? (address : String) : Option Report :=
  catalogue.find? fun report => addressOf report.title == address

end ErpLens.Reports

namespace ErpLens.Documents

def dashboards : List Dashboard :=
  accountDashboards ++ tradeDashboards ++ manufacturingDashboards ++ stockDashboards ++
    workDashboards

def dashboardAt? (address : String) : Option Dashboard :=
  dashboards.find? fun dashboard => Reports.addressOf dashboard.document == address

end ErpLens.Documents
