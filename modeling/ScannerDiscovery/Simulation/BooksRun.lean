import ScannerDiscovery.Engine.Books

/-!
# The books by themselves

Registry and gate without an engine: a catalog that may refuse to withdraw, and a log of all
calls to it and of the resolves released.

Main definition:

- `BooksRun.perform` : runs a routine of the books.
-/

namespace ScannerDiscovery.Simulation

/-- A call that the books make. -/
inductive BooksCall
  | scanDone (method : Method)
  | withdraw (name : String) (size : Nat)
  | release (name : String) (ops : List Ticket)
  deriving DecidableEq

/-- The books, whether withdrawals are refused, whether released resolves are of interest, and
the calls so far. -/
structure BooksRun where
  books : Books := .initial
  refusesWithdraw : Bool
  logsReleases : Bool
  calls : List BooksCall := []

instance : KeepsBooks BooksRun where
  books := BooksRun.books
  withBooks run books := { run with books }

namespace BooksRun

/-- The run with one more call. -/
def log (r : BooksRun) (call : BooksCall) : BooksRun :=
  { r with calls := r.calls ++ [call] }

/-- Answers a request of the books. -/
def answer (request : Request) (r : BooksRun) (_ : Unit) : request.Answer × BooksRun × Unit :=
  match request with
  | .scanDone m => ((), r.log (.scanDone m), ())
  | .withdraw snapshot =>
    (if r.refusesWithdraw then .error (.foreign "withdraw refused") else .ok (),
      r.log (.withdraw snapshot.name r.books.registry.live.length), ())
  | .startClient | .stopClient | .stopBrowse _ | .publish _ => (.ok (), r, ())
  | .hear .. => (.ok (), r, ())
  | .startBrowse _ | .resolve .. => (.ok (.number 0), r, ())
  | .cancelResolve _ | .armRestart _ | .disarmRestart _ | .settle .. => ((), r, ())

/-- Takes note of the resolves of a deleted finding. -/
def release (f : Finding) (ops : List Ticket) : Books.Work BooksRun Unit :=
  Routine.modify fun r => if r.logsReleases then r.log (.release f.name ops) else r

/-- Runs a routine of the books. -/
def perform {α : Type} (r : BooksRun) (work : Books.Work BooksRun α) :
    Except Fault α × BooksRun :=
  let (result, r, _) := (work r).run answer ()
  (result, r)

/-- Deletes a finding. -/
def delete (r : BooksRun) (number : Nat) : Except Fault Unit × BooksRun :=
  r.perform (Books.delete release number)

/-- Deletes every finding. -/
def deleteAll (r : BooksRun) : Except Fault Unit × BooksRun :=
  r.perform (Books.deleteAll release)

/-- The live finding of an instance, created if there is none, and whether it was. -/
def getOrCreate (r : BooksRun) (service : Service) (ifindex : Int) (name : String) :
    Finding × Bool × BooksRun :=
  let (books, f, created) := r.books.getOrCreate service ifindex name
  (f, created, { r with books })

end BooksRun

end ScannerDiscovery.Simulation
