import Concordance.Cluster.Endpoint
import Mathlib.Logic.Function.Basic

/-!
# The text of an endpoint

The last colon of a text parts the host from the port. So the host may hold colons, and the port is
all that has a fixed form: decimal digits, any number of them zeros in front, with at most one plus
sign before them. A text is accepted just if it has this form, its host is not empty and its port is
small enough, and then host and port are those that it writes. The text of an endpoint is one
of those, unless it has no host, and no two endpoints have the same text.

* `Decimal.Writes`, `Decimal.read_eq_ok_iff`: the texts of numbers.
* `Endpoint.Spells`, `Endpoint.read_eq_ok_iff`: the texts of endpoints.
* `Endpoint.display_injective`: endpoints with the same text are the same.
* `Endpoint.text_format`: what is read and what is written.
-/

namespace Concordance

/-! ## Texts of numbers -/

namespace Decimal

variable {text rest : List Char} {n bound : Nat}

/-- One or more decimal digits, and the number that they write. -/
structure Numeral (text : List Char) (n : Nat) : Prop where
  nonempty : text ≠ []
  digits : ∀ c ∈ text, c.isDigit = true
  value : Nat.ofDigitChars 10 text 0 = n

/-- The text writes a number: digits, with at most one plus sign in front of them. -/
def Writes (text : List Char) (n : Nat) : Prop :=
  Numeral text n ∨ ∃ digits, text = '+' :: digits ∧ Numeral digits n

theorem writes_plus_iff : Writes ('+' :: rest) n ↔ Numeral rest n := by
  constructor
  · rintro (numeral | ⟨digits, same, numeral⟩)
    · exact absurd (numeral.digits '+' List.mem_cons_self) (by decide)
    · obtain rfl : rest = digits := (List.cons.inj same).2
      exact numeral
  · exact fun numeral => .inr ⟨rest, rfl, numeral⟩

theorem writes_iff_of_forall (h : ∀ rest, text ≠ '+' :: rest) : Writes text n ↔ Numeral text n := by
  constructor
  · rintro (numeral | ⟨digits, rfl, -⟩)
    · exact numeral
    · exact absurd rfl (h digits)
  · exact .inl

theorem readFrom_zero_eq_ok_iff (ne : text ≠ []) :
    readFrom bound 0 text = .ok n ↔ Numeral text n ∧ n ≤ bound := by
  rw [readFrom_eq_ok_iff (Nat.zero_le bound)]
  constructor
  · rintro ⟨digits, value, le⟩
    exact ⟨⟨ne, digits, value⟩, le⟩
  · rintro ⟨⟨-, digits, value⟩, le⟩
    exact ⟨digits, value, le⟩

/-- A text is read as the number that it writes, if this is not too large. -/
theorem read_eq_ok_iff : read bound text = .ok n ↔ Writes text n ∧ n ≤ bound := by
  unfold read
  split
  · rw [writes_iff_of_forall fun _ => (List.cons_ne_nil _ _).symm]
    exact iff_of_false nofun fun h => h.1.nonempty rfl
  · rw [writes_plus_iff]
    exact iff_of_false nofun fun h => h.1.nonempty rfl
  · next rest some =>
    rw [writes_plus_iff, readFrom_zero_eq_ok_iff fun none => some (by rw [none])]
  · next ne _ unsigned =>
    rw [writes_iff_of_forall unsigned, readFrom_zero_eq_ok_iff ne]

theorem readUInt16_eq_ok_iff {n : UInt16} : readUInt16 text = .ok n ↔ Writes text n.toNat := by
  have small : n.toNat ≤ UInt16.size - 1 := Nat.le_pred_of_lt n.toNat_lt_size
  unfold readUInt16
  constructor
  · intro h
    cases value : read (UInt16.size - 1) text with
    | error fault =>
      rw [value] at h
      cases h
    | ok m =>
      obtain ⟨writes, le⟩ := read_eq_ok_iff.mp value
      rw [value] at h
      obtain rfl : UInt16.ofNat m = n := Except.ok.inj h
      rwa [UInt16.toNat_ofNat_of_lt' (Nat.lt_of_le_pred (by decide) le)]
  · intro writes
    rw [read_eq_ok_iff.mpr ⟨writes, small⟩]
    exact congrArg Except.ok UInt16.ofNat_toNat

end Decimal

/-! ## Texts of endpoints -/

namespace Endpoint

/-- The text writes this host and this port: what stands before its last colon, and the number that
stands behind it. -/
def Spells (text host : String) (port : Nat) : Prop :=
  ∃ digits : String, text = host ++ ":" ++ digits ∧ host ≠ "" ∧ ':' ∉ digits.toList ∧
    Decimal.Writes digits.toList port ∧ port ≤ 65535

variable {text host host' digits digits' : String}

theorem splitLast_eq_some_iff :
    Text.splitLast ':' text.toList = some (host.toList, digits.toList) ↔
      text = host ++ ":" ++ digits ∧ ':' ∉ digits.toList := by
  have parts : (host ++ ":" ++ digits).toList = host.toList ++ ':' :: digits.toList := by simp
  rw [Text.splitLast_eq_some_iff, ← parts, String.toList_inj]

/-- A text that has a colon is parted by the last one. -/
theorem exists_split (mem : ':' ∈ text.toList) :
    ∃ host digits : String, text = host ++ ":" ++ digits ∧ ':' ∉ digits.toList := by
  cases cut : Text.splitLast ':' text.toList with
  | none => exact absurd mem (Text.splitLast_eq_none_iff.mp cut)
  | some parts =>
    obtain ⟨host, digits⟩ := parts
    refine ⟨String.ofList host, String.ofList digits, splitLast_eq_some_iff.mp ?_⟩
    rw [cut, String.toList_ofList, String.toList_ofList]

/-- There is only one way to part a text by its last colon. -/
theorem split_unique (same : host ++ ":" ++ digits = host' ++ ":" ++ digits')
    (noColon : ':' ∉ digits.toList) (noColon' : ':' ∉ digits'.toList) :
    host = host' ∧ digits = digits' := by
  have cut := splitLast_eq_some_iff.mpr ⟨same, noColon'⟩
  rw [splitLast_eq_some_iff.mpr ⟨rfl, noColon⟩] at cut
  simpa [String.toList_inj] using cut

/-! ## Reading -/

theorem read_of_noColon (none : ':' ∉ text.toList) : read text = .error (.noColon text) := by
  rw [read, Text.splitLast_eq_none_iff.mpr none]

theorem read_of_noHost (noColon : ':' ∉ digits.toList) :
    read ("" ++ ":" ++ digits) = .error (.noHost ("" ++ ":" ++ digits)) := by
  rw [read, splitLast_eq_some_iff.mpr ⟨rfl, noColon⟩]
  rfl

theorem read_of_host (ne : host ≠ "") (noColon : ':' ∉ digits.toList) :
    read (host ++ ":" ++ digits) =
      match Decimal.readUInt16 digits.toList with
      | .ok port => .ok ⟨host, port⟩
      | .error fault => .error (.badPort (host ++ ":" ++ digits) fault) := by
  rw [read, splitLast_eq_some_iff.mpr ⟨rfl, noColon⟩]
  split
  · next absurd => cases absurd
  · next cut =>
    have empty : host.toList = [] := (Prod.mk.inj (Option.some.inj cut)).1
    exact absurd (String.toList_eq_nil_iff.mp empty) ne
  · next cut =>
    obtain ⟨rfl, rfl⟩ := Prod.mk.inj (Option.some.inj cut)
    cases Decimal.readUInt16 digits.toList with
    | ok port =>
      show Except.ok (Endpoint.mk (String.ofList host.toList) port) = .ok ⟨host, port⟩
      rw [String.ofList_toList]
    | error fault => rfl

/-- A text is read as the endpoint that it writes. -/
theorem read_eq_ok_iff {e : Endpoint} :
    read text = .ok e ↔ Spells text e.host e.port.toNat := by
  have small : e.port.toNat ≤ 65535 := Nat.le_pred_of_lt e.port.toNat_lt_size
  constructor
  · intro accepted
    by_cases colon : ':' ∈ text.toList
    · obtain ⟨host, digits, rfl, noColon⟩ := exists_split colon
      by_cases ne : host = ""
      · rw [ne, read_of_noHost noColon] at accepted
        cases accepted
      · rw [read_of_host ne noColon] at accepted
        split at accepted
        · next port value =>
          obtain rfl := Except.ok.inj accepted
          exact ⟨digits, rfl, ne, noColon, Decimal.readUInt16_eq_ok_iff.mp value, small⟩
        · cases accepted
    · rw [read_of_noColon colon] at accepted
      cases accepted
  · rintro ⟨digits, rfl, ne, noColon, writes, -⟩
    rw [read_of_host ne noColon, Decimal.readUInt16_eq_ok_iff.mpr writes]

/-- A text is accepted just if it writes a host and a port. -/
theorem exists_read_eq_ok_iff :
    (∃ e, read text = .ok e) ↔ ∃ host port, Spells text host port := by
  constructor
  · rintro ⟨e, accepted⟩
    exact ⟨_, _, read_eq_ok_iff.mp accepted⟩
  · rintro ⟨host, port, spells⟩
    obtain ⟨-, -, -, -, -, small⟩ := id spells
    refine ⟨⟨host, .ofNat port⟩, read_eq_ok_iff.mpr ?_⟩
    rwa [UInt16.toNat_ofNat_of_lt' (Nat.lt_of_le_pred (by decide) small)]

/-! ## Writing -/

theorem display_eq (e : Endpoint) :
    e.display = e.host ++ ":" ++ String.ofList (Decimal.digits e.port.toNat) := by
  refine String.toList_inj.mp ?_
  rw [display, String.toList_ofList]
  simp

theorem colon_notMem_port (e : Endpoint) :
    ':' ∉ (String.ofList (Decimal.digits e.port.toNat)).toList := by
  rw [String.toList_ofList]
  exact colon_notMem_digits _

/-- What is written is read back just if there is a host. -/
theorem read_display_iff (e : Endpoint) : read e.display = .ok e ↔ e.host ≠ "" := by
  constructor
  · rintro accepted
    obtain ⟨-, -, host, -⟩ := read_eq_ok_iff.mp accepted
    exact host
  · exact read_display

/-- Endpoints with the same text are the same, also without a host. -/
theorem display_injective : display.Injective := by
  intro a b same
  rw [display_eq, display_eq] at same
  obtain ⟨host, digits⟩ := split_unique same a.colon_notMem_port b.colon_notMem_port
  have port := congrArg Decimal.readUInt16 (String.ofList_inj.mp digits)
  rw [Decimal.readUInt16_digits, Decimal.readUInt16_digits] at port
  obtain ⟨hostA, portA⟩ := a
  obtain ⟨hostB, portB⟩ := b
  obtain rfl : hostA = hostB := host
  obtain rfl : portA = portB := Except.ok.inj port
  rfl

/-- A text is accepted just if a host that is not empty stands before its last colon, and behind it
the digits of a number of at most 65535, with at most one plus sign in front. Host and port are then
those that it writes. The text of an endpoint with a host is read as this endpoint, and no two
endpoints have the same text. -/
theorem text_format :
    (∀ text e, read text = .ok e ↔ Spells text e.host e.port.toNat) ∧
      (∀ text, (∃ e, read text = .ok e) ↔ ∃ host port, Spells text host port) ∧
      (∀ e : Endpoint, read e.display = .ok e ↔ e.host ≠ "") ∧ display.Injective :=
  ⟨fun _ _ => read_eq_ok_iff, fun _ => exists_read_eq_ok_iff, read_display_iff, display_injective⟩

/-- A host may hold colons, and zeros in front of a port do not count. -/
example : read "::1:+0080" = .ok ⟨"::1", 80⟩ := by rfl

end Endpoint

end Concordance
