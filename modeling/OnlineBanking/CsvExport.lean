import OnlineBanking.Library.Csv
import OnlineBanking.Schema

set_option autoImplicit false

/-! The statement that the statements page exports, `toLocaleString` being what the browser's locale
makes of a date. -/

namespace OnlineBanking

namespace StatementsPage

structure StatementEntry where
  ledgerEntryId : String
  transactionId : String
  transactionType : String
  transactionStatus : String
  side : LedgerSide
  amount : String
  currency : String
  description : Option String
  createdAt : String

structure Account where
  id : String
  iban : String
  accountType : String
  currency : String

structure Period where
  «from» : String
  «to» : String

structure StatementResponse where
  account : Account
  period : Period
  openingBalance : String
  closingBalance : String
  totalDebits : String
  totalCredits : String
  entries : List StatementEntry

structure Download where
  content : String
  type : String
  name : String
  deriving DecidableEq

variable (toLocaleString : String → String)

def sideText : LedgerSide → String
  | .debit => "DEBIT"
  | .credit => "CREDIT"

def headers : List String :=
  ["Date", "Type", "Description", "Side", "Amount", "Currency", "Transaction ID"]

def row (e : StatementEntry) : List String :=
  [toLocaleString e.createdAt, e.transactionType, e.description.getD "", sideText e.side,
    e.amount, e.currency,
    e.transactionId]

def rows (statement : StatementResponse) : List (List String) :=
  statement.entries.map (row toLocaleString)

def csvContent (statement : StatementResponse) : String :=
  "\n".intercalate (",".intercalate headers ::
    (rows toLocaleString statement).map fun r =>
      ",".intercalate (r.map fun field => "\x22" ++ field ++ "\x22"))

def handleExportCsv (statement : Option StatementResponse) : Option Download :=
  statement.map fun statement =>
    { content := csvContent toLocaleString statement
      type := "text/csv;charset=utf-8;"
      name := "Statement_" ++ statement.account.iban ++ "_" ++ statement.period.from ++ "_" ++
        statement.period.«to» ++
        ".csv" }

lemma plain_headers : ∀ field ∈ headers, Library.Csv.Reader.Plain field := by
  have hplain : headers.all (fun field => decide (field.toList ≠ []) &&
      field.toList.all fun c => decide (c ≠ Library.Csv.dquote ∧ c ≠ ',' ∧ c ≠ '\n' ∧ c ≠ '\r')) =
        true := by
    decide +kernel
  intro field hfield
  have hboth := List.all_eq_true.mp hplain field hfield
  rw [Bool.and_eq_true, List.all_eq_true] at hboth
  exact ⟨of_decide_eq_true hboth.1, fun c hc => of_decide_eq_true (hboth.2 c hc)⟩

/-- The export is read back as it was meant if and only if no exported field has a quotation
mark. -/
theorem csv_iff_unquoted (statement : StatementResponse) :
    Library.Csv.read (csvContent toLocaleString statement) =
        some (headers :: rows toLocaleString statement) ↔
      ∀ e ∈ statement.entries, ∀ field ∈ row toLocaleString e,
        Library.Csv.dquote ∉ field.toList := by
  have hrows : ∀ r ∈ rows toLocaleString statement, r ≠ [] := by
    intro r hr
    obtain ⟨e, _, rfl⟩ := List.mem_map.mp hr
    exact List.cons_ne_nil _ _
  rw [csvContent, Library.Csv.read_quoted_iff (by decide) plain_headers hrows, rows,
    List.forall_mem_map]

/-- A customer's description is enough to move the fields after it. -/
def movedStatement : StatementResponse where
  account := {
    id := "a1", iban := "RO49AAAA1B31007593840000", accountType := "CURRENT", currency := "RON" }
  period := { «from» := "2026-01-01", «to» := "2026-01-31" }
  openingBalance := "100"
  closingBalance := "90"
  totalDebits := "10"
  totalCredits := "0"
  entries := [{
    ledgerEntryId := "l1"
    transactionId := "t1"
    transactionType := "BENEFICIARY_TRANSFER"
    transactionStatus := "POSTED"
    side := .debit
    amount := "10"
    currency := "RON"
    description := some "rent\x22,\x22CREDIT\x22,\x221000"
    createdAt := "2026-01-15T10:00:00.000Z" }]

theorem csv_moved :
    (∀ e ∈ movedStatement.entries, (e.description.getD "").length ≤ 255) ∧
      rows id movedStatement = [["2026-01-15T10:00:00.000Z", "BENEFICIARY_TRANSFER",
          "rent\x22,\x22CREDIT\x22,\x221000",
        "DEBIT", "10", "RON", "t1"]] ∧
      Library.Csv.read (csvContent id movedStatement) = some [headers, ["2026-01-15T10:00:00.000Z",
        "BENEFICIARY_TRANSFER", "rent", "CREDIT", "1000", "DEBIT", "10", "RON", "t1"]] := by
  decide +kernel

end StatementsPage

end OnlineBanking
