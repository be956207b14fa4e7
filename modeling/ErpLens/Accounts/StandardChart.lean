import ErpLens.Accounts.ChartOfAccounts

/-!
# The standard chart of accounts

The chart that a company starts with, with or without numbers.
-/

namespace ErpLens.Accounts.StandardChart

def assets : ChartAccount :=
  .account "Application of Funds (Assets)" "1000" { root := "Asset" } [
    .group "Current Assets" "1100-1600" [
      .group "Accounts Receivable" "1300" [
        .leaf "Debtors" "1310" "Trade Receivables" "Receivable"],
      .account "Bank Accounts" "1200"
        { kind := "Bank", category := "Cash and Cash Equivalents", isGroup := true } [],
      .account "Cash In Hand" "1100" { kind := "Cash", category := "Cash and Cash Equivalents" } [
        .leaf "Cash" "1110" "Cash and Cash Equivalents" "Cash"],
      .group "Loans and Advances (Assets)" "1600" [
        .leaf "Employee Advances" "1610" "Other Receivables" "Payable"],
      .group "Securities and Deposits" "1650" [
        .leaf "Earnest Money" "1651" "Other Current Assets"],
      .leaf "Prepaid Expenses" "1660" "Other Current Assets",
      .leaf "Short-term Investments" "1670" "Short-term Investments",
      .account "Stock Assets" "1400" { kind := "Stock", category := "Stock Assets" } [
        .leaf "Stock In Hand" "1410" "Stock Assets" "Stock"],
      .account "Tax Assets" "1500" { category := "Other Current Assets", isGroup := true } []],
    .group "Fixed Assets" "1700" [
      .leaf "Capital Equipment" "1710" "Tangible Assets" "Fixed Asset",
      .leaf "Electronic Equipment" "1720" "Tangible Assets" "Fixed Asset",
      .leaf "Furniture and Fixtures" "1730" "Tangible Assets" "Fixed Asset",
      .leaf "Office Equipment" "1740" "Tangible Assets" "Fixed Asset",
      .leaf "Plants and Machineries" "1750" "Tangible Assets" "Fixed Asset",
      .leaf "Buildings" "1760" "Tangible Assets" "Fixed Asset",
      .leaf "Software" "1770" "Intangible Assets" "Fixed Asset",
      .leaf "Accumulated Depreciation" "1780" "Tangible Assets" "Accumulated Depreciation",
      .leaf "CWIP Account" "1790" "Tangible Assets" "Capital Work in Progress"],
    .account "Investments" "1800" { category := "Long-term Investments", isGroup := true } [],
    .group "Temporary Accounts" "1900" [
      .leaf "Temporary Opening" "1910" "Other Non-current Assets" "Temporary"]]

def expenses : ChartAccount :=
  .account "Expenses" "5000" { root := "Expense" } [
    .group "Direct Expenses" "5100" [
      .group "Stock Expenses" "5110" [
        .leaf "Cost of Goods Sold" "5111" "Cost of Goods Sold" "Cost of Goods Sold",
        .leaf "Expenses Included In Asset Valuation" "5112"
          "Other Direct Costs" "Expenses Included In Asset Valuation",
        .leaf "Expenses Included In Valuation" "5118"
          "Other Direct Costs" "Expenses Included In Valuation",
        .leaf "Stock Adjustment" "5119" "Other Direct Costs" "Stock Adjustment"]],
    .group "Indirect Expenses" "5200" [
      .leaf "Administrative Expenses" "5201" "Operating Expenses",
      .leaf "Commission on Sales" "5202" "Operating Expenses",
      .leaf "Depreciation" "5203" "Operating Expenses" "Depreciation",
      .leaf "Entertainment Expenses" "5204" "Operating Expenses",
      .leaf "Freight and Forwarding Charges" "5205" "Operating Expenses" "Chargeable",
      .leaf "Legal Expenses" "5206" "Operating Expenses",
      .leaf "Marketing Expenses" "5207" "Operating Expenses" "Chargeable",
      .leaf "Office Maintenance Expenses" "5208" "Operating Expenses",
      .leaf "Office Rent" "5209" "Operating Expenses",
      .leaf "Postal Expenses" "5210" "Operating Expenses",
      .leaf "Print and Stationery" "5211" "Operating Expenses",
      .leaf "Round Off" "5212" "Operating Expenses" "Round Off",
      .leaf "Salary" "5213" "Operating Expenses",
      .leaf "Sales Expenses" "5214" "Operating Expenses",
      .leaf "Telephone Expenses" "5215" "Operating Expenses",
      .leaf "Travel Expenses" "5216" "Operating Expenses",
      .leaf "Utility Expenses" "5217" "Operating Expenses",
      .leaf "Write Off" "5218" "Operating Expenses",
      .leaf "Exchange Gain/Loss" "5219" "Operating Expenses",
      .leaf "Interest Expense" "5220" "Finance Costs", .leaf "Bank Charges" "5221" "Finance Costs",
      .leaf "Gain/Loss on Asset Disposal" "5222" "Other Operating Income",
      .leaf "Miscellaneous Expenses" "5223" "Operating Expenses" "Chargeable",
      .leaf "Impairment" "5224" "Operating Expenses", .leaf "Tax Expense" "5225" "Tax Expense"]]

def income : ChartAccount :=
  .account "Income" "4000" { root := "Income" } [
    .group "Direct Income" "4100" [
      .leaf "Sales" "4110" "Revenue from Operations",
      .leaf "Service" "4120" "Revenue from Operations"],
    .account "Indirect Income" "4200" { isGroup := true } [
      .leaf "Interest Income" "4210" "Investment Income",
      .leaf "Interest on Fixed Deposits" "4220" "Investment Income"]]

def liabilities : ChartAccount :=
  .account "Source of Funds (Liabilities)" "2000" { root := "Liability" } [
    .group "Current Liabilities" "2100-2400" [
      .group "Accounts Payable" "2100" [
        .leaf "Creditors" "2110" "Trade Payables" "Payable",
        .leaf "Payroll Payable" "2120" "Other Payables"],
      .leaf "Accrued Expenses" "2150" "Other Current Liabilities",
      .leaf "Customer Advances" "2160" "Other Current Liabilities",
      .group "Stock Liabilities" "2200" [
        .leaf "Stock Received But Not Billed" "2210"
          "Trade Payables" "Stock Received But Not Billed",
        .leaf "Asset Received But Not Billed" "2211"
          "Trade Payables" "Asset Received But Not Billed"],
      .account "Duties and Taxes" "2300"
        { kind := "Tax", category := "Current Tax Liabilities", isGroup := true } [
        .account "TDS Payable" "2310"
          { category := "Current Tax Liabilities", isExtra := true } []],
      .leaf "Short-term Provisions" "2350" "Short-term Provisions",
      .group "Loans (Liabilities)" "2400" [
        .leaf "Secured Loans" "2410" "Long-term Borrowings",
        .leaf "Unsecured Loans" "2420" "Long-term Borrowings",
        .leaf "Bank Overdraft Account" "2430" "Short-term Borrowings"]],
    .account "Non-Current Liabilities" "2500" { isGroup := true } [
      .leaf "Long-term Provisions" "2510" "Long-term Provisions",
      .leaf "Employee Benefits Obligation" "2520" "Other Non-current Liabilities"]]

def equity : ChartAccount :=
  .account "Equity" "3000" { root := "Equity" } [
    .leaf "Capital Stock" "3100" "Share Capital" "Equity",
    .leaf "Dividends Paid" "3200" "Reserves and Surplus" "Equity",
    .leaf "Opening Balance Equity" "3300" "Reserves and Surplus" "Equity",
    .leaf "Retained Earnings" "3400" "Reserves and Surplus" "Equity",
    .leaf "Revaluation Surplus" "3500" "Reserves and Surplus" "Equity"]

def accounts : List ChartAccount :=
  [assets, expenses, income, liabilities, equity]

def plain : Value := chartValue false accounts

def numbered : Value := chartValue true accounts

end ErpLens.Accounts.StandardChart
