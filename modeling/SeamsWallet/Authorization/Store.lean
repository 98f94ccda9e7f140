import SeamsWallet.Authorization.SessionStatements
import SeamsWallet.Library.Threads

/-!
# The authorization database as a query system

What the calls of the authorization store send to the database: single statements and
batches. A batch is atomic; it may be aborted, by a trigger of another part of the
database or on its way, and its answer may be lost after it took effect.
-/

namespace SeamsWallet.Authorization

open Library

inductive Statement
  | admissionBatch (insert : AuthorizedOperationInsert) (read : AdmissionRead)
  | admissionRead (read : AdmissionRead)
  | completionUpdate (completion : WalletOperationCompletion)
  | operationRead (key : OperationKey)
  | issuanceBatch (issuance : WalletSessionIssuance)
  | retirementBatch (retirement : Retirement)
  | exchangeInsert (insert : HostedExchangeInsert)
  | exchangeRead (context : D1AuthorizationContext) (codeHash : String)
  | redemptionBatch (redemption : HostedRedemption)

/-- A statement that changes rows answers with how many. -/
abbrev Statement.Row : Statement → Type
  | admissionBatch _ _ => ℕ × Option AdmissionRow
  | admissionRead _ => Option AdmissionRow
  | completionUpdate _ | operationRead _ => Option AuthorizedOperationRow
  | issuanceBatch _ | redemptionBatch _ => ℕ × ℕ
  | retirementBatch _ => Unit
  | exchangeInsert _ => ℕ
  | exchangeRead _ _ => Option HostedWalletExchangeV2Row

abbrev Statement.Answer (q : Statement) : Type := Except String q.Row

/-- The rows of a statement and the tables after it, or the error that rolls it back. -/
def Database.perform (db : Database) (clock : ℕ) :
    (q : Statement) → Except String (q.Row × Database)
  | .admissionBatch insert read => do
    let (changes, inserted) ← db.prepareAuthorizedOperationInsert clock insert
    pure ((changes, inserted.prepareAuthorizedOperationAdmissionRead clock read), inserted)
  | .admissionRead read => pure (db.prepareAuthorizedOperationAdmissionRead clock read, db)
  | .completionUpdate completion => pure (db.prepareWalletOperationCompletion completion)
  | .operationRead key => pure (db.operation? key, db)
  | .issuanceBatch issuance => pure (issuance.run db)
  | .retirementBatch retirement => pure ((), retirement.run db)
  | .exchangeInsert insert => db.insertHostedExchange insert
  | .exchangeRead context codeHash => pure (db.readHostedWalletExchangeV2 context codeHash, db)
  | .redemptionBatch redemption => redemption.run db

/-- What becomes of a statement on its way to the database and back. -/
inductive Delivery
  | answered
  | aborted (message : String)
  | lost (message : String)

/-- The outside's part in a statement: its delivery and the clock of the database. -/
structure Outside where
  delivery : Delivery
  clock : ℕ

def Database.execute (outside : Outside) (db : Database) (q : Statement) : q.Answer × Database :=
  match outside.delivery, db.perform outside.clock q with
  | .aborted message, _ => (.error message, db)
  | _, .error message => (.error message, db)
  | .answered, .ok (row, db') => (.ok row, db')
  | .lost message, .ok (_, db') => (.error message, db')

/-- The database with the delivery of the last statement. No statement opens a window:
every statement stands for itself. -/
def database : QuerySystem Statement Statement.Answer Outside (Database × Delivery) where
  exec outside s q := ((s.1.execute outside q).1, (s.1.execute outside q).2, outside.delivery)
  opens := fun _ => false

abbrev Store (α : Type) : Type := Program Statement Statement.Answer String α

def run (q : Statement) : Store q.Row := do
  Program.ofExcept (← Program.ask q)

end SeamsWallet.Authorization
