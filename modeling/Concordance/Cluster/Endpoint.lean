import Concordance.Decimal.Unsigned
import Concordance.Text.Quoted
import Concordance.Text.Split

/-!
# Endpoints

An endpoint is a host and a port under which a node serves part of the data. It is
written as the host, a colon and the port. The host is all that stands before the
last colon, so it may hold colons itself.

* `Endpoint.display`: an endpoint as text.
* `Endpoint.read`, `Endpoint.read_display`: an endpoint from its text.
-/

namespace Concordance

open Std

/-- A host and a port. -/
structure Endpoint where
  host : String
  port : UInt16
  deriving DecidableEq

namespace Endpoint

/-- Endpoints are ordered by their hosts, then by their ports. -/
instance : Ord Endpoint := ⟨compareLex (compareOn host) (compareOn port)⟩

instance : TransOrd Endpoint :=
  inferInstanceAs (TransCmp (compareLex (compareOn host) (compareOn port)))

instance : LawfulEqOrd Endpoint where
  eq_of_compare {a b} h := by
    obtain ⟨hostA, portA⟩ := a
    obtain ⟨hostB, portB⟩ := b
    obtain ⟨hHost, hPort⟩ := compareLex_eq_eq.mp h
    obtain rfl : hostA = hostB := LawfulEqOrd.eq_of_compare hHost
    obtain rfl : portA = portB := LawfulEqOrd.eq_of_compare hPort
    rfl

/-- The text of an endpoint. -/
def display (e : Endpoint) : String :=
  String.ofList (e.host.toList ++ ':' :: Decimal.digits e.port.toNat)

/-- An endpoint as it is shown in diagnostics. -/
def inspect (e : Endpoint) : String :=
  let host := String.ofList (Text.quote e.host.toList)
  let port := String.ofList (Decimal.digits e.port.toNat)
  "DataEndpoint \x7b host: " ++ host ++ ", port: " ++ port ++ " \x7d"

/-- Why a text is no endpoint. -/
inductive Fault
  | noColon (text : String)
  | noHost (text : String)
  | badPort (text : String) (fault : Decimal.Fault)
  deriving DecidableEq

/-- The wording of a fault. -/
def Fault.message : Fault → String
  | .noColon text => s!"expected host:port, got '{text}'"
  | .noHost text => s!"missing host in '{text}'"
  | .badPort text fault => s!"invalid port in '{text}': {fault.message}"

/-- The endpoint that a text writes. -/
def read (text : String) : Except Fault Endpoint :=
  match Text.splitLast ':' text.toList with
  | none => .error (.noColon text)
  | some ([], _) => .error (.noHost text)
  | some (host, port) =>
    match Decimal.readUInt16 port with
    | .ok port => .ok ⟨String.ofList host, port⟩
    | .error fault => .error (.badPort text fault)

/-- A port is written without colons, so the last colon is that behind the host. -/
theorem colon_notMem_digits (n : Nat) : ':' ∉ Decimal.digits n := fun mem =>
  absurd (Decimal.isDigit_of_mem_digits mem) (by decide)

/-- What is written is read back, unless the host is empty. -/
theorem read_display {e : Endpoint} (h : e.host ≠ "") : read e.display = .ok e := by
  have noColon := colon_notMem_digits e.port.toNat
  have cut : Text.splitLast ':' (e.host.toList ++ ':' :: Decimal.digits e.port.toNat) =
      some (e.host.toList, Decimal.digits e.port.toNat) :=
    Text.splitLast_eq_some_iff.mpr ⟨rfl, noColon⟩
  have host : e.host.toList ≠ [] := fun hn => h (String.toList_eq_nil_iff.mp hn)
  rw [read, display, String.toList_ofList, cut]
  split
  · simp_all
  · simp_all
  · next eq =>
    cases eq
    simp [Decimal.readUInt16_digits]

end Endpoint

end Concordance
