import SpinnerRemote.Link.Notice

/-!
The one scan that looks for the robot. Scans are numbered, so that a timeout set for an earlier one ends
no later one. The numbers have 64 bits and are taken for unbounded here: a run gives out at most one for
each of its events, and no run is long enough to come to the last.
-/
namespace SpinnerRemote.Link

open Transport (Answers Call Peripheral)

structure Scanner where
  target : String
  active : Option Nat := none
  nextId : Nat := 1
  deriving DecidableEq, Repr

namespace Scanner

def isScanning (scanner : Scanner) : Bool := scanner.active.isSome

def startNotice (scanner : Scanner) : Notice := .scanBegins scanner.target

def startCall (scanner : Scanner) (answers : Answers) : Call :=
  .startScan scanner.target (answers.startScan scanner.target)

/-- Starts a scan and gives its number; a refusal uses none. -/
def start (scanner : Scanner) (answers : Answers) : Scanner × Except Transport.Error Nat :=
  match answers.startScan scanner.target with
  | .ok () => ({ scanner with active := some scanner.nextId, nextId := scanner.nextId + 1 },
      .ok scanner.nextId)
  | .error error => (scanner, .error error)

def stop (scanner : Scanner) : Scanner × List Call :=
  match scanner.active with
  | some _ => ({ scanner with active := none }, [.stopScan])
  | none => (scanner, [])

def stopNotices (scanner : Scanner) : List Notice := scanner.active.toList.map .scanStops

@[simp] theorem stop_active (scanner : Scanner) : scanner.stop.1.active = none := by
  unfold stop
  split <;> simp_all

@[simp] theorem stop_target (scanner : Scanner) : scanner.stop.1.target = scanner.target := by
  unfold stop
  split <;> rfl

@[simp] theorem stop_nextId (scanner : Scanner) : scanner.stop.1.nextId = scanner.nextId := by
  unfold stop
  split <;> rfl

theorem stop_calls (scanner : Scanner) :
    scanner.stop.2 = if scanner.isScanning then [.stopScan] else [] := by
  unfold stop isScanning
  split <;> simp_all

@[simp] theorem mem_stop_calls (scanner : Scanner) (call : Call) :
    call ∈ scanner.stop.2 ↔ scanner.isScanning = true ∧ call = .stopScan := by
  rw [stop_calls]
  split <;> simp_all

def expires (scanner : Scanner) (id : Nat) : Bool := scanner.active == some id

def isTarget (scanner : Scanner) (peripheral : Peripheral) : Bool :=
  peripheral.name == scanner.target

theorem isTarget_iff {scanner : Scanner} {peripheral : Peripheral} :
    scanner.isTarget peripheral = true ↔ peripheral.name = scanner.target := beq_iff_eq

end Scanner
end SpinnerRemote.Link
